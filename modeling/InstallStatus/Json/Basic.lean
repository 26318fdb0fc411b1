import InstallStatus.Json.Shortest

/-!
JSON documents. An object is a list of fields; in a sorted document every object lists its fields by
ascending key and has each key once, so that equal documents are equal lists. A whole number and a
floating-point number are never the same value, whatever they denote.
-/

namespace InstallStatus

/-- A number of a document: a whole number within 64 bits, or a floating-point number. -/
inductive Json.Number
  | int (value : Int)
  | float (value : Json.Binary64)
  deriving DecidableEq, Repr

inductive Json
  | null
  | bool (value : Bool)
  | number (value : Json.Number)
  | string (value : String)
  | array (items : List Json)
  | object (fields : List (String × Json))
  deriving Repr, Inhabited

namespace Json

abbrev Fields := List (String × Json)

namespace Number

/-- Equality of values, in which the two floating-point zeros are equal. -/
def same : Number → Number → Bool
  | .int a, .int b => a == b
  | .float a, .float b => a.same b
  | _, _ => false

end Number

mutual

/-- Equality of sorted documents. -/
def same : Json → Json → Bool
  | .null, .null => true
  | .bool a, .bool b => a == b
  | .number a, .number b => a.same b
  | .string a, .string b => a == b
  | .array as, .array bs => sameItems as bs
  | .object as, .object bs => sameFields as bs
  | _, _ => false

def sameItems : List Json → List Json → Bool
  | [], [] => true
  | a :: as, b :: bs => same a b && sameItems as bs
  | _, _ => false

def sameFields : List (String × Json) → List (String × Json) → Bool
  | [], [] => true
  | (k, a) :: as, (l, b) :: bs => k == l && same a b && sameFields as bs
  | _, _ => false

end

namespace Fields

/-- The value of the first field of this key. -/
def get? (fields : Fields) (key : String) : Option Json :=
  fields.lookup key

/-- The value of the last field of this key. -/
def last? (fields : Fields) (key : String) : Option Json :=
  fields.reverse.lookup key

def contains (fields : Fields) (key : String) : Bool :=
  (fields.get? key).isSome

/-- Sets the value of a key in sorted fields; a present key keeps its place. -/
def insert (key : String) (value : Json) : Fields → Fields
  | [] => [(key, value)]
  | (k, v) :: rest =>
    if key < k then (key, value) :: (k, v) :: rest
    else if key = k then (key, value) :: rest
    else (k, v) :: insert key value rest

def erase (key : String) (fields : Fields) : Fields :=
  fields.filter fun field => field.1 != key

/-- Sorted fields with the same last value for each key. -/
def ofList (fields : List (String × Json)) : Fields :=
  fields.foldl (fun sorted field => sorted.insert field.1 field.2) []

end Fields

/-- The object with these fields; of two with one key the later counts. -/
def ofFields (fields : List (String × Json)) : Json :=
  .object (Fields.ofList fields)

/-- How a record becomes a document: it names its fields in the order it declares them, some of which may
be missing, and this makes an object of them. -/
abbrev Assembly := List (Option (String × Json)) → Json

/-- The object with those of these fields that are there. -/
def ofFields? : Assembly := fun fields => ofFields (fields.filterMap id)

/-- The object with those of these fields that are there, in the order in which they are named. -/
def inOrder : Assembly := fun fields => .object (fields.filterMap id)

mutual

/-- The document with every object sorted, the last value of a repeated key kept. -/
def sorted : Json → Json
  | .array items => .array (sortedItems items)
  | .object fields => .object (Fields.ofList (sortedFields fields))
  | leaf => leaf

def sortedItems : List Json → List Json
  | [] => []
  | item :: rest => item.sorted :: sortedItems rest

def sortedFields : List (String × Json) → List (String × Json)
  | [] => []
  | (key, value) :: rest => (key, value.sorted) :: sortedFields rest

end

/-- Stands for a part of a text that is formed like a value but has none: a number beyond the finite
ones, a string with half of a surrogate pair, an object with such a key. It is no string, no whole
number and no object, so whoever wants one of these refuses it, and whoever passes it over does not. -/
def unfit : Json := .number (.float .beyond)

mutual

/-- Whether every part of the document has a value. -/
def isFit : Json → Bool
  | .number (.float x) => x.isFinite
  | .array items => fitItems items
  | .object fields => fitFields fields
  | _ => true

def fitItems : List Json → Bool
  | [] => true
  | item :: rest => item.isFit && fitItems rest

def fitFields : List (String × Json) → Bool
  | [] => true
  | (_, value) :: rest => value.isFit && fitFields rest

end

def nat (n : Nat) : Json := .number (.int n)

def int (n : Int) : Json := .number (.int n)

/-- The fields of an object; any other document has none. -/
def fields : Json → Fields
  | .object fields => fields
  | _ => []

/-- The member of an object, null when it is absent. -/
def member (document : Json) (key : String) : Json :=
  (document.fields.get? key).getD .null

def isNull : Json → Bool
  | .null => true
  | _ => false

/-- The text of an optional value, null when there is none. -/
def ofOption {α : Type} (encode : α → Json) : Option α → Json
  | some a => encode a
  | none => .null

end Json

end InstallStatus
