import InstallStatus.Json.Basic

/-!
Merge patches. A patch that is an object is laid over its target field by field, at every depth, and
null takes a field out; any other patch replaces its target. The patch between two objects is
shallow: it carries each top-level field that is new or differs, whole, and null for each that is
gone.
-/

namespace InstallStatus.Json

mutual

def merge (target : Json) : Json → Json
  | .object patch => .object (mergeFields target.fields patch)
  | leaf => leaf

def mergeFields (fields : Fields) : List (String × Json) → Fields
  | [] => fields
  | (key, value) :: rest =>
    if value.isNull then mergeFields (fields.erase key) rest
    else mergeFields (fields.insert key (merge ((fields.get? key).getD .null) value)) rest

end

namespace Fields

def holds (fields : Fields) (key : String) (value : Json) : Bool :=
  match fields.get? key with
  | some found => found.same value
  | none => false

def patchTo (before after : Fields) : Fields :=
  let changed := after.filter fun field => !before.holds field.1 field.2
  let gone := before.filter fun field => !after.contains field.1
  ofList (changed ++ gone.map fun field => (field.1, .null))

end Fields

/-- The fields of a document that may be patched; null stands for an object without fields, and any
other document is handed back. -/
def patchable : Json → Except Json Fields
  | .object fields => .ok fields
  | .null => .ok []
  | other => .error other

/-- The patch between two documents, none when there is nothing to change. The first document that
is neither an object nor null is the error. -/
def patchBetween (before after : Json) : Except Json (Option Json) := do
  let before ← patchable before
  let after ← patchable after
  let patch := before.patchTo after
  return if patch.isEmpty then none else some (.object patch)

end InstallStatus.Json
