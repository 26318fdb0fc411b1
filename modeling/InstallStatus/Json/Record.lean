import InstallStatus.Json.Decoder

/-!
Records on the wire. A record is an object with known keys, or an array of its fields in their order.
Keys it does not know are passed over. In an object, every known field is read where it stands, so
the first faulty one in the order of the document is reported; absent fields are looked at only after
that, in the order of the record.
-/

namespace InstallStatus

/-- One field of a record. `ifAbsent` stands for it when its key is missing from an object, `ifShort`
when an array ends before it. -/
structure Field (α : Type) where
  key : String
  decode : Decoder α
  ifAbsent : Option α
  ifShort : Option α

namespace Field

def required {α : Type} (key : String) (decode : Decoder α) : Field α :=
  ⟨key, decode, none, none⟩

def defaulted {α : Type} (key : String) (decode : Decoder α) (value : α) : Field α :=
  ⟨key, decode, some value, some value⟩

/-- A field that may be null or absent and then has no value. -/
def optional {α : Type} (key : String) (decode : Decoder α) : Field (Option α) :=
  defaulted key (Decoder.optional decode) none

/-- An optional field that an array must hold nevertheless, if only as null. -/
def placed {α : Type} (key : String) (decode : Decoder α) : Field (Option α) :=
  ⟨key, Decoder.optional decode, some none, none⟩

/-- The field of an object; of a repeated key the first. -/
def ofFields {α : Type} (field : Field α) (fields : Json.Fields) : Except DecodeError α :=
  match fields.get? field.key, field.ifAbsent with
  | some value, _ => field.decode value
  | none, some value => .ok value
  | none, none => .error (.missingField field.key)

end Field

/-- How a record is read: its keys in order, the reading of the field of a key, and the whole value
from the fields of an object or from the front of an array. -/
structure Record (α : Type) where
  keys : List String
  check : String → Json → Except DecodeError Unit
  ofFields : Json.Fields → Except DecodeError α
  ofItems : (wanted : String) → List Json → Except DecodeError (α × List Json)

namespace Record

def pure {α : Type} (a : α) : Record α where
  keys := []
  check _ _ := .ok ()
  ofFields _ := .ok a
  ofItems _ items := .ok (a, items)

def field {α β : Type} (record : Record (α → β)) (field : Field α) : Record β where
  keys := record.keys ++ [field.key]
  check key value :=
    if key = field.key then (field.decode value).map fun _ => () else record.check key value
  ofFields fields := do
    let f ← record.ofFields fields
    let a ← field.ofFields fields
    return f a
  ofItems wanted items := do
    let (f, rest) ← record.ofItems wanted items
    match rest, field.ifShort with
    | item :: rest, _ => do
      let a ← field.decode item
      return (f a, rest)
    | [], some a => return (f a, [])
    | [], none => .error (.wrongLength record.keys.length wanted)

/-- Reads each known field where it stands and refuses a second one of a key. -/
def checkAll {α : Type} (record : Record α) : List String → Json.Fields → Except DecodeError Unit
  | _, [] => .ok ()
  | seen, (key, value) :: rest =>
    if key ∈ record.keys then
      if key ∈ seen then .error (.repeatedField key)
      else do
        record.check key value
        record.checkAll (key :: seen) rest
    else record.checkAll seen rest

def decode {α : Type} (name : String) (record : Record α) : Decoder α
  | .object fields => do
    record.checkAll [] fields
    record.ofFields fields
  | .array items => do
    let count := record.keys.length
    let elements := toString count ++ (if count = 1 then " element" else " elements")
    let (a, rest) ← record.ofItems ("struct " ++ name ++ " with " ++ elements) items
    if rest.isEmpty then return a
    else .error (.wrongLength items.length "fewer elements in array")
  | other => Decoder.fail ("struct " ++ name) other

end Record

end InstallStatus
