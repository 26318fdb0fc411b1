import InstallStatus.Json.Basic

/-!
The compact text of a document: no white space, fields in the order of the object, and in a string
only the quote, the backslash and the control characters below the space escaped.
-/

namespace InstallStatus.Json

/-- A hexadecimal digit in lower case. -/
def hexDigit (n : Nat) : Char :=
  if n < 10 then Char.ofNat (48 + n) else Char.ofNat (87 + n)

def escapeChar (c : Char) : List Char :=
  if c = '"' then ['\\', '"']
  else if c = '\\' then ['\\', '\\']
  else if 0x20 ≤ c.toNat then [c]
  else if c.toNat = 8 then ['\\', 'b']
  else if c.toNat = 9 then ['\\', 't']
  else if c.toNat = 10 then ['\\', 'n']
  else if c.toNat = 12 then ['\\', 'f']
  else if c.toNat = 13 then ['\\', 'r']
  else ['\\', 'u', '0', '0', hexDigit (c.toNat / 16), hexDigit (c.toNat % 16)]

def stringChars (s : String) : List Char :=
  '"' :: s.toList.flatMap escapeChar ++ ['"']

def intChars (n : Int) : List Char :=
  (toString n).toList

def Number.chars : Number → List Char
  | .int n => intChars n
  | .float x => x.chars

mutual

def chars : Json → List Char
  | .null => ['n', 'u', 'l', 'l']
  | .bool true => ['t', 'r', 'u', 'e']
  | .bool false => ['f', 'a', 'l', 's', 'e']
  | .number n => n.chars
  | .string s => stringChars s
  | .array items => '[' :: List.intercalate [','] (itemChars items) ++ [']']
  | .object fields => '{' :: List.intercalate [','] (fieldChars fields) ++ ['}']

def itemChars : List Json → List (List Char)
  | [] => []
  | item :: rest => item.chars :: itemChars rest

def fieldChars : List (String × Json) → List (List Char)
  | [] => []
  | (key, value) :: rest => (stringChars key ++ ':' :: value.chars) :: fieldChars rest

end

def compact (document : Json) : String :=
  String.ofList document.chars

/-- The compact text of a document; none if some part of it has no value. -/
def text? (document : Json) : Option String :=
  if document.isFit then some document.compact else none

end InstallStatus.Json
