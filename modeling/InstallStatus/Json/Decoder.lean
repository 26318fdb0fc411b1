import InstallStatus.Json.Printer
import InstallStatus.Text.Quoted
import InstallStatus.Time.Reader

/-!
Reading values out of documents. A decoder gives a value or the first fault it meets; the text of a
fault says what was found and what was wanted.
-/

namespace InstallStatus

/-- What a document is, as far as a message tells. -/
inductive Json.Found
  | null
  | bool (value : Bool)
  | int (value : Int)
  | float (value : Json.Binary64)
  | string (value : String)
  | sequence
  | map
  deriving DecidableEq, Repr

namespace Json.Found

def of : Json → Found
  | .null => .null
  | .bool b => .bool b
  | .number (.int n) => .int n
  | .number (.float x) => .float x
  | .string s => .string s
  | .array _ => .sequence
  | .object _ => .map

def text : Found → String
  | .null => "null"
  | .bool true => "boolean `true`"
  | .bool false => "boolean `false`"
  | .int n => "integer `" ++ toString n ++ "`"
  | .float x => "floating point `" ++ String.ofList x.chars ++ "`"
  | .string s => "string " ++ Text.quote s
  | .sequence => "sequence"
  | .map => "map"

end Json.Found

inductive DecodeError
  | wrongType (found : Json.Found) (wanted : String)
  | wrongValue (found : Json.Found) (wanted : String)
  | missingField (key : String)
  | repeatedField (key : String)
  | unknownVariant (name : String) (known : List String)
  | wrongLength (length : Nat) (wanted : String)
  | unreadableTime (cause : Timestamp.ReadError)
  deriving DecidableEq, Repr

namespace DecodeError

def message : DecodeError → String
  | wrongType found wanted => "invalid type: " ++ found.text ++ ", expected " ++ wanted
  | wrongValue found wanted => "invalid value: " ++ found.text ++ ", expected " ++ wanted
  | missingField key => "missing field `" ++ key ++ "`"
  | repeatedField key => "duplicate field `" ++ key ++ "`"
  | unknownVariant name known =>
    "unknown variant `" ++ name ++ "`, expected one of " ++
      ", ".intercalate (known.map fun k => "`" ++ k ++ "`")
  | wrongLength length wanted => "invalid length " ++ toString length ++ ", expected " ++ wanted
  | unreadableTime cause => cause.message

end DecodeError

abbrev Decoder (α : Type) := Json → Except DecodeError α

namespace Decoder

def fail {α : Type} (wanted : String) (document : Json) : Except DecodeError α :=
  .error (.wrongType (Json.Found.of document) wanted)

def string : Decoder String
  | .string s => .ok s
  | other => fail "a string" other

/-- Any document all of whose parts have a value; of a repeated key the last counts. -/
def document : Decoder Json := fun found =>
  if found.isFit then .ok found.sorted else fail "any value" found

def bool : Decoder Bool
  | .bool b => .ok b
  | other => fail "a boolean" other

/-- A whole number between the two bounds. -/
def between (least greatest : Int) (wanted : String) : Decoder Int
  | .number (.int n) =>
    if least ≤ n ∧ n ≤ greatest then .ok n else .error (.wrongValue (.int n) wanted)
  | other => fail wanted other

/-- A whole number of 64 bits with a sign. -/
def int64 : Decoder Int64 := fun document =>
  (between Int64.minValue.toInt Int64.maxValue.toInt "i64" document).map Int64.ofInt

/-- A whole number without a sign, up to the greatest one of its width. -/
def natUpTo (greatest : Nat) (wanted : String) : Decoder Nat := fun document =>
  (between 0 greatest wanted document).map Int.toNat

def word64 : Decoder UInt64 := fun document =>
  (natUpTo (UInt64.size - 1) "u64" document).map Nat.toUInt64

def word32 : Decoder UInt32 := fun document =>
  (natUpTo (UInt32.size - 1) "u32" document).map Nat.toUInt32

def word16 : Decoder UInt16 := fun document =>
  (natUpTo (UInt16.size - 1) "u16" document).map Nat.toUInt16

def timestamp : Decoder Timestamp
  | .string s => (Timestamp.read s).mapError .unreadableTime
  | other => fail "an RFC 3339 formatted date and time string" other

def optional {α : Type} (decode : Decoder α) : Decoder (Option α)
  | .null => .ok none
  | present => (decode present).map some

/-- The members of an array in order; the first fault counts. -/
def items {α : Type} (decode : Decoder α) : List Json → Except DecodeError (List α)
  | [] => .ok []
  | item :: rest => do
    let a ← decode item
    let as ← items decode rest
    return a :: as

def list {α : Type} (decode : Decoder α) : Decoder (List α)
  | .array members => items decode members
  | other => fail "a sequence" other

def entries {α : Type} (decode : Decoder α) :
    List (String × Json) → Except DecodeError (List (String × α))
  | [] => .ok []
  | (key, value) :: rest => do
    let a ← decode value
    let as ← entries decode rest
    return (key, a) :: as

def map {α : Type} (decode : Decoder α) : Decoder (List (String × α))
  | .object fields => entries decode fields
  | other => fail "a map" other

end Decoder

end InstallStatus
