import InstallStatus.Text.Digits

/-!
Reading whole numbers of 64 bits from text: decimal digits, which a plus sign may precede. The text is
read from left to right, and the first thing wrong with it is the error.
-/

namespace InstallStatus.Text

inductive WordError
  | empty
  | invalidDigit
  | tooLarge
  deriving DecidableEq, Repr

def WordError.message : WordError → String
  | .empty => "cannot parse integer from empty string"
  | .invalidDigit => "invalid digit found in string"
  | .tooLarge => "number too large to fit in target type"

/-- Reads digits on from a number, which stays below `2 ^ 64`. -/
def readDigitsFrom (n : Nat) : List Char → Except WordError Nat
  | [] => .ok n
  | c :: rest =>
    if !isDigit c then .error .invalidDigit
    else
      let next := n * 10 + digitValue c
      if next < UInt64.size then readDigitsFrom next rest else .error .tooLarge

def readWord (cs : List Char) : Except WordError UInt64 :=
  match cs with
  | [] => .error .empty
  | ['+'] => .error .invalidDigit
  | '+' :: digits => (readDigitsFrom 0 digits).map Nat.toUInt64
  | digits => (readDigitsFrom 0 digits).map Nat.toUInt64

end InstallStatus.Text
