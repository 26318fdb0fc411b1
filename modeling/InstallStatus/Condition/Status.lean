import InstallStatus.Json.Decoder

/-!
The status of a condition: it holds, it does not hold, or that is not known.
-/

namespace InstallStatus

inductive Status
  | holds
  | fails
  | unknown
  deriving DecidableEq, Repr, Inhabited

namespace Status

def text : Status → String
  | .holds => "True"
  | .fails => "False"
  | .unknown => "Unknown"

def ofText? (s : String) : Option Status :=
  if s = "True" then some .holds
  else if s = "False" then some .fails
  else if s = "Unknown" then some .unknown
  else none

def ofName (name : String) : Except DecodeError Status :=
  match ofText? name with
  | some status => .ok status
  | none => .error (.unknownVariant name ["True", "False", "Unknown"])

/-- A status is a text, or an object whose one key is the text and whose value is null. -/
def decode : Decoder Status
  | .string s => ofName s
  | .object [(name, content)] => do
    let status ← ofName name
    match content with
    | .null => .ok status
    | other => Decoder.fail "unit" other
  | .object _ => .error (.wrongValue .map "map with a single key")
  | other => Decoder.fail "string or map" other

def encode (status : Status) : Json := .string status.text

end Status

end InstallStatus
