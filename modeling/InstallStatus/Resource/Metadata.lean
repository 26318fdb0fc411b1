import InstallStatus.Json.Identity
import InstallStatus.Json.Record

/-!
The metadata that every stored object carries: its names, its owners, its version, and when and by
whom it was written.
-/

namespace InstallStatus

/-- A reference from an object to one that owns it. -/
structure OwnerReference where
  apiVersion : String
  kind : String
  name : String
  uid : String
  controller : Option Bool
  blockOwnerDeletion : Option Bool
  deriving DecidableEq, Repr

/-- What a manager of fields has written into an object. Any part may be absent. -/
structure ManagedFields where
  apiVersion : Option String
  fieldsType : Option String
  fieldsV1 : Option Json
  manager : Option String
  operation : Option String
  subresource : Option String
  time : Option Timestamp
  deriving DecidableEq

/-- What is kept of the metadata of an object. Any part may be absent. -/
structure Metadata where
  name : Option String
  namespaceName : Option String
  generateName : Option String
  generation : Option Int64
  resourceVersion : Option String
  uid : Option String
  labels : Option (List (String × String))
  annotations : Option (List (String × String))
  finalizers : Option (List String)
  ownerReferences : Option (List OwnerReference)
  creationTimestamp : Option Timestamp
  deletionTimestamp : Option Timestamp
  deletionGracePeriodSeconds : Option Int64
  selfLink : Option String
  managedFields : Option (List ManagedFields)
  deriving DecidableEq

/-- An object whose fields may all be null or absent. Unlike a record it has no form as an array. -/
def Json.checkOptional (check : String → Json → Except DecodeError Unit) :
    Json.Fields → Except DecodeError Unit
  | [] => .ok ()
  | (key, value) :: rest => do
    if !value.isNull then check key value
    Json.checkOptional check rest

/-- An optional field of such an object; of a repeated key the last. -/
def Json.optionalField {α : Type} (fields : Json.Fields) (key : String) (decode : Decoder α) :
    Except DecodeError (Option α) :=
  Decoder.optional decode ((fields.last? key).getD .null)

def Decoder.check {α : Type} (decode : Decoder α) (document : Json) : Except DecodeError Unit :=
  (decode document).map fun _ => ()

namespace OwnerReference

def checkField (key : String) : Json → Except DecodeError Unit :=
  if key ∈ ["apiVersion", "kind", "name", "uid"] then Decoder.check Decoder.string
  else if key ∈ ["blockOwnerDeletion", "controller"] then Decoder.check Decoder.bool
  else fun _ => .ok ()

def decode : Decoder OwnerReference
  | .object fields => do
    Json.checkOptional checkField fields
    let text := fun key => (Json.optionalField fields key Decoder.string).map (Option.getD · "")
    return {
      apiVersion := ← text "apiVersion"
      kind := ← text "kind"
      name := ← text "name"
      uid := ← text "uid"
      controller := ← Json.optionalField fields "controller" Decoder.bool
      blockOwnerDeletion := ← Json.optionalField fields "blockOwnerDeletion" Decoder.bool }
  | other => Decoder.fail "OwnerReference" other

def encode (owner : OwnerReference) : Json :=
  Json.ofFields? [
    some ("apiVersion", .string owner.apiVersion),
    some ("kind", .string owner.kind),
    some ("name", .string owner.name),
    some ("uid", .string owner.uid),
    owner.controller.map fun b => ("controller", .bool b),
    owner.blockOwnerDeletion.map fun b => ("blockOwnerDeletion", .bool b)]

end OwnerReference

def Json.textField (key : String) (text : Option String) : Option (String × Json) :=
  text.map fun s => (key, .string s)

/-- An optional time as a field, its fraction cut. -/
def Json.timeField (key : String) (time : Option Timestamp) : Option (String × Json) :=
  time.map fun t => (key, .string t.truncate.text)

namespace ManagedFields

def textKeys : List String :=
  ["apiVersion", "fieldsType", "manager", "operation", "subresource"]

def checkField (key : String) : Json → Except DecodeError Unit :=
  if key ∈ textKeys then Decoder.check Decoder.string
  else if key = "fieldsV1" then Decoder.check Decoder.document
  else if key = "time" then Decoder.check Decoder.timestamp
  else fun _ => .ok ()

def decode : Decoder ManagedFields
  | .object fields => do
    Json.checkOptional checkField fields
    let text := fun key => Json.optionalField fields key Decoder.string
    return {
      apiVersion := ← text "apiVersion"
      fieldsType := ← text "fieldsType"
      fieldsV1 := ← Json.optionalField fields "fieldsV1" Decoder.document
      manager := ← text "manager"
      operation := ← text "operation"
      subresource := ← text "subresource"
      time := ← Json.optionalField fields "time" Decoder.timestamp }
  | other => Decoder.fail "ManagedFieldsEntry" other

def encode (managed : ManagedFields) : Json :=
  Json.ofFields? [
    Json.textField "apiVersion" managed.apiVersion,
    Json.textField "fieldsType" managed.fieldsType,
    managed.fieldsV1.map fun document => ("fieldsV1", document),
    Json.textField "manager" managed.manager,
    Json.textField "operation" managed.operation,
    Json.textField "subresource" managed.subresource,
    Json.timeField "time" managed.time]

end ManagedFields

namespace Metadata

/-- The name, else the stem for generated names, else the empty text. -/
def displayName (m : Metadata) : String :=
  (m.name <|> m.generateName).getD ""

/-- The namespace and the name with a slash between them, or the name alone. -/
def key (m : Metadata) : String :=
  match m.namespaceName with
  | some ns => ns ++ "/" ++ m.displayName
  | none => m.displayName

/-- The owner references; none when the field is absent. -/
def owners (m : Metadata) : List OwnerReference := m.ownerReferences.getD []

/-- The name of the first owner of this kind. An owner without a name does not count. -/
def ownerOfKind? (m : Metadata) (kind : String) : Option String :=
  (m.owners.find? fun owner => owner.kind == kind && owner.name != "").map OwnerReference.name

def checkField (key : String) : Json → Except DecodeError Unit :=
  if key ∈ ["name", "namespace", "generateName", "resourceVersion", "selfLink", "uid"] then
    Decoder.check Decoder.string
  else if key ∈ ["deletionGracePeriodSeconds", "generation"] then Decoder.check Decoder.int64
  else if key ∈ ["creationTimestamp", "deletionTimestamp"] then Decoder.check Decoder.timestamp
  else if key ∈ ["labels", "annotations"] then Decoder.check (Decoder.map Decoder.string)
  else if key = "finalizers" then Decoder.check (Decoder.list Decoder.string)
  else if key = "ownerReferences" then Decoder.check (Decoder.list OwnerReference.decode)
  else if key = "managedFields" then Decoder.check (Decoder.list ManagedFields.decode)
  else fun _ => .ok ()

def decode : Decoder Metadata
  | .object fields => do
    Json.checkOptional checkField fields
    let text := fun key => Json.optionalField fields key Decoder.string
    return {
      name := ← text "name"
      namespaceName := ← text "namespace"
      generateName := ← text "generateName"
      generation := ← Json.optionalField fields "generation" Decoder.int64
      resourceVersion := ← text "resourceVersion"
      uid := ← text "uid"
      labels := ← Json.optionalField fields "labels" (Decoder.map Decoder.string)
      annotations := ← Json.optionalField fields "annotations" (Decoder.map Decoder.string)
      finalizers := ← Json.optionalField fields "finalizers" (Decoder.list Decoder.string)
      ownerReferences :=
        ← Json.optionalField fields "ownerReferences" (Decoder.list OwnerReference.decode)
      creationTimestamp := ← Json.optionalField fields "creationTimestamp" Decoder.timestamp
      deletionTimestamp := ← Json.optionalField fields "deletionTimestamp" Decoder.timestamp
      deletionGracePeriodSeconds :=
        ← Json.optionalField fields "deletionGracePeriodSeconds" Decoder.int64
      selfLink := ← text "selfLink"
      managedFields :=
        ← Json.optionalField fields "managedFields" (Decoder.list ManagedFields.decode) }
  | other => Decoder.fail "ObjectMeta" other

def encodeMap (key : String) (entries : Option (List (String × String))) : Option (String × Json) :=
  entries.map fun es => (key, Json.ofFields (es.map fun e => (e.1, .string e.2)))

def encode (m : Metadata) : Json :=
  Json.ofFields? [
    Json.textField "name" m.name,
    Json.textField "namespace" m.namespaceName,
    Json.textField "generateName" m.generateName,
    m.generation.map fun n => ("generation", .int n.toInt),
    Json.textField "resourceVersion" m.resourceVersion,
    Json.textField "uid" m.uid,
    encodeMap "labels" m.labels,
    encodeMap "annotations" m.annotations,
    m.finalizers.map fun fs => ("finalizers", .array (fs.map Json.string)),
    m.ownerReferences.map fun os => ("ownerReferences", .array (os.map OwnerReference.encode)),
    Json.timeField "creationTimestamp" m.creationTimestamp,
    Json.timeField "deletionTimestamp" m.deletionTimestamp,
    m.deletionGracePeriodSeconds.map fun n => ("deletionGracePeriodSeconds", .int n.toInt),
    Json.textField "selfLink" m.selfLink,
    m.managedFields.map fun ms => ("managedFields", .array (ms.map ManagedFields.encode))]

end Metadata

end InstallStatus
