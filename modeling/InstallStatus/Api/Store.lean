import InstallStatus.Api.Answer
import InstallStatus.Api.Request
import InstallStatus.Json.MergePatch
import InstallStatus.Text.Word

/-!
A store of objects that answers requests. An object is kept as the document it was put as, under its
resource, namespace and name. A patch of a status is refused when it names another version than the
stored one; an accepted patch gives the object the next version.
-/

namespace InstallStatus.Api

structure ObjectId where
  resource : Resource
  namespaceName : String
  name : String
  deriving DecidableEq, Repr

/-- What happened to an object, with the object as it is now, or as it was last. -/
inductive Change
  | applied (id : ObjectId) (object : Json)
  | deleted (id : ObjectId) (object : Json)

def Change.id : Change → ObjectId
  | .applied id _ => id
  | .deleted id _ => id

def Change.object : Change → Json
  | .applied _ object => object
  | .deleted _ object => object

/-- The text of a member, empty when it is no text. -/
def textMember (document : Json) (key : String) : String :=
  match document.member key with
  | .string s => s
  | _ => ""

namespace ObjectId

/-- The place among the objects of the same kind. -/
def key (id : ObjectId) : ObjectKey := ⟨id.namespaceName, id.name⟩

def ofDocument (document : Json) : ObjectId :=
  let metadata := document.member "metadata"
  ⟨.ofKind (textMember document "kind"), textMember metadata "namespace", textMember metadata "name"⟩

/-- The order in which objects are listed: by namespace, then by name. -/
def before (a b : ObjectId) : Bool :=
  a.resource.plural < b.resource.plural ||
    (a.resource.plural == b.resource.plural &&
      (a.namespaceName < b.namespaceName ||
        (a.namespaceName == b.namespaceName && a.name < b.name)))

end ObjectId

/-- The stored objects, by ascending place. -/
structure Store where
  objects : List (ObjectId × Json)

namespace Store

def empty : Store := ⟨[]⟩

def get? (store : Store) (id : ObjectId) : Option Json := store.objects.lookup id

def insertInto (id : ObjectId) (object : Json) : List (ObjectId × Json) → List (ObjectId × Json)
  | [] => [(id, object)]
  | (other, kept) :: rest =>
    if other = id then (id, object) :: rest
    else if id.before other then (id, object) :: (other, kept) :: rest
    else (other, kept) :: insertInto id object rest

def put (store : Store) (object : Json) : Store × Change :=
  let id := ObjectId.ofDocument object
  (⟨insertInto id object store.objects⟩, .applied id object)

/-- Takes an object out of the store; nothing happens if it is not there. -/
def delete (store : Store) (id : ObjectId) : Store × Option Change :=
  (⟨store.objects.filter fun entry => entry.1 != id⟩, (store.get? id).map (Change.deleted id))

def ofDocuments (documents : List Json) : Store :=
  documents.foldl (fun store document => (store.put document).1) empty

/-- The objects of a resource, in one namespace or in all. -/
def list (store : Store) (resource : Resource) (namespaceName : Option String) :
    List (ObjectId × Json) :=
  store.objects.filter fun entry =>
    entry.1.resource == resource &&
      match namespaceName with
      | some ns => entry.1.namespaceName == ns
      | none => true

def versionOf (object : Json) : String := textMember (object.member "metadata") "resourceVersion"

/-- The version after this one. A version that is no number counts as zero. -/
def nextVersion (version : String) : String :=
  match Text.readWord version.toList with
  | .ok n => toString (n.toNat + 1)
  | .error _ => "1"

/-- The object with the patch laid over its status, under the next version. -/
def patched (object body : Json) : Json :=
  let metadata := (object.member "metadata").fields.insert "resourceVersion"
    (.string (nextVersion (versionOf object)))
  let status := (object.member "status").merge (body.member "status")
  .object ((object.fields.insert "metadata" (.object metadata)).insert "status" status)

/-- Whether a patch names a version that is not the stored one. -/
def conflicts (object body : Json) : Bool :=
  match (body.member "metadata").fields.get? "resourceVersion" with
  | some version => !version.same (.string (versionOf object))
  | none => false

def refusal (status : UInt16) (message reason : String) : Answer :=
  ⟨status, (Json.ofFields [("kind", .string "Status"), ("status", .string "Failure"),
    ("message", .string message), ("reason", .string reason), ("code", .nat status.toNat)]).compact⟩

def notFound (id : ObjectId) : Answer :=
  refusal 404 (id.resource.plural ++ " \"" ++ id.name ++ "\" not found") "NotFound"

def conflict : Answer := refusal 409 "the object has been modified" "Conflict"

def resource? (group version plural : String) : Option Resource :=
  [Resource.deployments, .instances].find? fun r =>
    r.apiVersion == group ++ "/" ++ version && r.plural == plural

/-- The object that a path leads to, and whether to its status. -/
def route? (path : String) : Option (ObjectId × Bool) :=
  match path.splitOn "/" with
  | ["", "apis", group, version, "namespaces", ns, plural, name] =>
    (resource? group version plural).map fun r => (⟨r, ns, name⟩, false)
  | ["", "apis", group, version, "namespaces", ns, plural, name, "status"] =>
    (resource? group version plural).map fun r => (⟨r, ns, name⟩, true)
  | _ => none

/-- The objects that a path leads to, if it leads to those of a resource. -/
def listing? (store : Store) (path : String) : Option (List (ObjectId × Json)) :=
  match path.splitOn "/" with
  | ["", "apis", group, version, "namespaces", ns, plural] =>
    (resource? group version plural).map fun r => store.list r (some ns)
  | ["", "apis", group, version, plural] =>
    (resource? group version plural).map fun r => store.list r none
  | _ => none

/-- The store after a request, the answer, and what changed. -/
def serve (store : Store) (request : Request) : Store × Answer × Option Change :=
  match route? request.path, request.method, request.body with
  | some (id, false), .get, _ =>
    match store.get? id with
    | some object => (store, ⟨200, object.compact⟩, none)
    | none => (store, notFound id, none)
  | some (id, true), .patch, some body =>
    match store.get? id with
    | none => (store, notFound id, none)
    | some object =>
      if conflicts object body then (store, conflict, none)
      else
        let object := patched object body
        (⟨insertInto id object store.objects⟩, ⟨200, object.compact⟩, some (.applied id object))
  | _, _, _ => (store, refusal 404 "the server could not find the requested resource" "NotFound", none)

end Store

end InstallStatus.Api
