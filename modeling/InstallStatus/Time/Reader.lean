import InstallStatus.Text.Blank
import InstallStatus.Time.Timestamp

/-!
Reading a timestamp. The date and the time stand with a `T` or a space between them and an offset
from UTC at the end, which may be `Z`. White space may stand before each number and each divider; a
year with a sign may have any number of digits. The fields are checked as they are read, so the first
fault in the text is the one reported.
-/

namespace InstallStatus.Timestamp

inductive ReadError
  | invalid
  | outOfRange
  | tooShort
  | tooLong
  /-- The time lies outside the calendar once its offset is taken away. -/
  | impossible
  deriving DecidableEq, Repr

def ReadError.message : ReadError → String
  | .invalid => "input contains invalid characters"
  | .outOfRange => "input is out of range"
  | .tooShort => "premature end of input"
  | .tooLong => "trailing input"
  | .impossible => "no possible date and time matching input"

/-- The digits at the front, at least one and at most so many. -/
def readDigits (limit : Nat) (cs : List Char) : Except ReadError (List Char × List Char) :=
  let digits := (cs.take limit).takeWhile Text.isDigit
  if cs.isEmpty then .error .tooShort
  else if digits.isEmpty then .error .invalid
  else .ok (digits, cs.drop digits.length)

/-- A number within bounds, after any white space. -/
def readNumber (limit least greatest : Nat) (cs : List Char) : Except ReadError (Nat × List Char) := do
  let (digits, rest) ← readDigits limit (Text.trimStart cs)
  let n := Text.natOf digits
  if least ≤ n ∧ n ≤ greatest then .ok (n, rest) else .error .outOfRange

/-- The divider, after any white space. -/
def readDivider (divider : Char) (cs : List Char) : Except ReadError (List Char) :=
  match Text.trimStart cs with
  | [] => .error .tooShort
  | c :: rest => if c = divider then .ok rest else .error .invalid

/-- Four digits at most, or a sign and any number of digits. -/
def readYear (cs : List Char) : Except ReadError (Int × List Char) := do
  let cs := Text.trimStart cs
  let (negative, digits, rest) ← match cs with
    | '-' :: signed => (readDigits signed.length signed).map fun r => (true, r)
    | '+' :: signed => (readDigits signed.length signed).map fun r => (false, r)
    | plain => (readDigits 4 plain).map fun r => (false, r)
  let year : Int := if negative then -(Text.natOf digits : Int) else Text.natOf digits
  if Int32.minValue.toInt ≤ year ∧ year ≤ Int32.maxValue.toInt then .ok (year, rest)
    else .error .outOfRange

/-- The nanoseconds of a fraction, none written being zero. Digits beyond the ninth are dropped. -/
def readFraction : List Char → Except ReadError (Nat × List Char)
  | '.' :: rest => do
    let (digits, rest) ← readDigits 9 rest
    .ok (Text.natOf digits * Nat.pow 10 (9 - digits.length), rest.dropWhile Text.isDigit)
  | rest => .ok (0, rest)

/-- Two digits that are not preceded by white space. -/
def readPair (cs : List Char) : Except ReadError ((Char × Char) × List Char) :=
  match cs with
  | [] => .error .tooShort
  | [c] => if c.utf8Size < 2 then .error .tooShort else .error .invalid
  | a :: b :: rest => if Text.isDigit a && Text.isDigit b then .ok ((a, b), rest) else .error .invalid

def pairValue (pair : Char × Char) : Nat := Text.natOf [pair.1, pair.2]

def isOffsetDivider (c : Char) : Bool := c == ':' || Text.isBlank c

/-- The minutes of an offset with its sign. -/
def readOffset : List Char → Except ReadError (Int × List Char)
  | [] => .error .tooShort
  | c :: rest =>
    if c = 'Z' ∨ c = 'z' then .ok (0, rest)
    else if c = '+' ∨ c = '-' ∨ c = '\u2212' then do
      let (hours, rest) ← readPair rest
      let (minutes, rest) ← readPair (rest.dropWhile isOffsetDivider)
      if '6' ≤ minutes.1 then .error .outOfRange
      else
        let total : Int := (pairValue hours * 60 + pairValue minutes : Nat)
        .ok (if c = '+' then total else -total, rest)
    else .error .invalid

/-- The zone at the end: the letters of UTC in either case, `Z`, or an offset. -/
def readZone (cs : List Char) : Except ReadError (Int × List Char) :=
  match cs with
  | u :: t :: c :: rest =>
    if u.toUpper = 'U' ∧ t.toUpper = 'T' ∧ c.toUpper = 'C' then .ok (0, rest) else readOffset cs
  | _ => readOffset cs

/-- The mark between the date and the time. -/
def readMiddle : List Char → Except ReadError (List Char)
  | [] => .error .tooShort
  | c :: rest => if c = 'T' ∨ c = 't' ∨ c = ' ' then .ok rest else .error .invalid

def toExcept {α : Type} (error : ReadError) : Option α → Except ReadError α
  | some a => .ok a
  | none => .error error

def ofChars (cs : List Char) : Except ReadError Timestamp := do
  let (year, cs) ← readYear cs
  let cs ← readDivider '-' cs
  let (month, cs) ← readNumber 2 1 12 cs
  let cs ← readDivider '-' cs
  let (day, cs) ← readNumber 2 1 31 cs
  let cs ← readMiddle cs
  let (hour, cs) ← readNumber 2 0 23 cs
  let cs ← readDivider ':' cs
  let (minute, cs) ← readNumber 2 0 59 cs
  let cs ← readDivider ':' cs
  let (second, cs) ← readNumber 2 0 60 cs
  let (nanos, cs) ← readFraction cs
  let (offset, cs) ← readZone (Text.trimStart cs)
  if !(Text.trimStart cs).isEmpty then .error .tooLong
  else
    let date ← toExcept .outOfRange (Date.of? year month day)
    let here ← toExcept .outOfRange (of? date hour minute second nanos)
    if offset.natAbs < 1440 then toExcept .impossible (here.earlier? offset)
    else .error .outOfRange

def read (text : String) : Except ReadError Timestamp := ofChars text.toList

end InstallStatus.Timestamp
