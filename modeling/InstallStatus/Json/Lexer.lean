import InstallStatus.Json.Basic
import InstallStatus.Text.Digits

/-!
The tokens of a JSON text. The text is read one character at a time by a machine whose state is the
token under way, so that reading the joined text is reading one part after the other.
-/

namespace InstallStatus.Json

inductive Token
  | openArray
  | closeArray
  | openObject
  | closeObject
  | comma
  | colon
  | null
  | bool (value : Bool)
  | number (value : Number)
  | string (value : String)
  | unfitNumber
  /-- A string with half of a surrogate pair. -/
  | unfitString
  deriving DecidableEq, Repr

/-- A number as written: its digits before and after the point and its exponent. -/
structure Numeral where
  negative : Bool
  whole : List Char
  fraction : Option (List Char)
  exponent : Option Int

namespace Numeral

/-- A significand of 64 bits, and the digits that no longer fit in it. -/
def accumulate (significand : Nat) : List Char → Nat × List Char
  | [] => (significand, [])
  | c :: rest =>
    if UInt64.size ≤ significand * 10 + Text.digitValue c then (significand, c :: rest)
    else accumulate (significand * 10 + Text.digitValue c) rest

/-- A numeral without a point or an exponent that fits in 64 bits is a whole number. Minus zero and
all other numerals are floating-point numbers, and those that are too large have no value. -/
def value? (n : Numeral) : Option Number :=
  let (head, dropped) := accumulate 0 n.whole
  match n.fraction, n.exponent, dropped with
  | none, none, [] =>
    if !n.negative then some (.int head)
    else if 0 < head ∧ head ≤ Int64.minValue.toInt.natAbs then some (.int (-head))
    else (Binary64.ofDecimal? true head 0).map .float
  | fraction, exponent, _ =>
    let digits := fraction.getD []
    let (significand, beyond) := accumulate head digits
    let places := (dropped.length : Int) - (digits.length - beyond.length : Nat)
    (Binary64.ofDecimal? n.negative significand (places + exponent.getD 0)).map .float

def takeDigits (cs : List Char) : List Char × List Char :=
  (cs.takeWhile Text.isDigit, cs.dropWhile Text.isDigit)

/-- The exponent part, which is the rest of the numeral. -/
def exponentOf? : List Char → Option (Option Int)
  | [] => some none
  | e :: rest =>
    if e = 'e' ∨ e = 'E' then
      let (negative, digits) := match rest with
        | '-' :: digits => (true, digits)
        | '+' :: digits => (false, digits)
        | digits => (false, digits)
      if digits.isEmpty || !digits.all Text.isDigit then none
      else some (some (if negative then -(Text.natOf digits : Int) else Text.natOf digits))
    else none

/-- A sign, digits without a leading zero, a point with digits, an exponent; the last two may be
left out. -/
def ofChars? (cs : List Char) : Option Numeral :=
  let (negative, unsigned) := match cs with
    | '-' :: rest => (true, rest)
    | rest => (false, rest)
  let (whole, rest) := takeDigits unsigned
  if whole.isEmpty || (whole.head? == some '0' && 1 < whole.length) then none
  else match rest with
    | '.' :: rest =>
      let (fraction, rest) := takeDigits rest
      if fraction.isEmpty then none
      else (exponentOf? rest).map fun exponent => ⟨negative, whole, some fraction, exponent⟩
    | rest => (exponentOf? rest).map fun exponent => ⟨negative, whole, none, exponent⟩

end Numeral

namespace Lexer

/-- Where the reader of a string stands. Characters read are kept in reverse. -/
inductive Escape
  | plain
  | begun
  /-- So many digits of a code unit are still to come. -/
  | unit (left value : Nat)
  /-- A leading surrogate waits for its partner. -/
  | lead (high : Nat)
  | leadBegun (high : Nat)
  | trail (high left value : Nat)
  deriving Repr

inductive State
  | idle
  | word (left : List Char) (token : Token)
  | numeral (reversed : List Char)
  /-- The string is `fit` as long as its surrogates come in pairs. -/
  | string (reversed : List Char) (fit : Bool) (escape : Escape)
  deriving Repr

def hexValue? (c : Char) : Option Nat :=
  let n := c.toNat
  if 48 ≤ n ∧ n ≤ 57 then some (n - 48)
  else if 65 ≤ n ∧ n ≤ 70 then some (n - 55)
  else if 97 ≤ n ∧ n ≤ 102 then some (n - 87)
  else none

def simpleEscape? (c : Char) : Option Char :=
  if c = '"' ∨ c = '\\' ∨ c = '/' then some c
  else if c = 'b' then some (Char.ofNat 8)
  else if c = 'f' then some (Char.ofNat 12)
  else if c = 'n' then some '\n'
  else if c = 'r' then some '\r'
  else if c = 't' then some '\t'
  else none

def isNumeralChar (c : Char) : Bool :=
  Text.isDigit c || c == '-' || c == '+' || c == '.' || c == 'e' || c == 'E'

/-- The state and the tokens after one character between tokens. -/
def begin? (c : Char) : Option (State × List Token) :=
  if c = ' ' ∨ c = '\n' ∨ c = '\t' ∨ c = '\r' then some (.idle, [])
  else if c = '[' then some (.idle, [.openArray])
  else if c = ']' then some (.idle, [.closeArray])
  else if c = '{' then some (.idle, [.openObject])
  else if c = '}' then some (.idle, [.closeObject])
  else if c = ',' then some (.idle, [.comma])
  else if c = ':' then some (.idle, [.colon])
  else if c = '"' then some (.string [] true .plain, [])
  else if c = 'n' then some (.word ['u', 'l', 'l'] .null, [])
  else if c = 't' then some (.word ['r', 'u', 'e'] (.bool true), [])
  else if c = 'f' then some (.word ['a', 'l', 's', 'e'] (.bool false), [])
  else if c = '-' ∨ Text.isDigit c then some (.numeral [c], [])
  else none

def numeral? (reversed : List Char) : Option Token :=
  (Numeral.ofChars? reversed.reverse).map fun numeral =>
    match numeral.value? with
    | some value => .number value
    | none => .unfitNumber

def isLead (unit : Nat) : Bool := 0xD800 ≤ unit && unit < 0xDC00

def isTrail (unit : Nat) : Bool := 0xDC00 ≤ unit && unit < 0xE000

/-- The state behind a finished code unit: a character, or the first half of a pair. -/
def afterUnit (reversed : List Char) (fit : Bool) (unit : Nat) : State :=
  if isLead unit then .string reversed fit (.lead unit)
  else if isTrail unit then .string reversed false .plain
  else .string (Char.ofNat unit :: reversed) fit .plain

/-- The state behind the code unit that follows a first half. -/
def afterPair (reversed : List Char) (fit : Bool) (high low : Nat) : State :=
  if isTrail low then
    .string (Char.ofNat (0x10000 + (high - 0xD800) * 0x400 + (low - 0xDC00)) :: reversed) fit .plain
  else afterUnit reversed false low

def plainStep? (reversed : List Char) (fit : Bool) (c : Char) : Option (State × List Token) :=
  if c = '"' then
    some (.idle, [if fit then .string (String.ofList reversed.reverse) else .unfitString])
  else if c = '\\' then some (.string reversed fit .begun, [])
  else if c.toNat < 0x20 then none
  else some (.string (c :: reversed) fit .plain, [])

def escapeStep? (reversed : List Char) (fit : Bool) (c : Char) : Option (State × List Token) :=
  if c = 'u' then some (.string reversed fit (.unit 4 0), [])
  else (simpleEscape? c).map fun d => (.string (d :: reversed) fit .plain, [])

def stringStep? (reversed : List Char) (fit : Bool) (c : Char) :
    Escape → Option (State × List Token)
  | .plain => plainStep? reversed fit c
  | .begun => escapeStep? reversed fit c
  | .unit left value =>
    (hexValue? c).map fun digit =>
      if left ≤ 1 then (afterUnit reversed fit (value * 16 + digit), [])
      else (.string reversed fit (.unit (left - 1) (value * 16 + digit)), [])
  | .lead high =>
    if c = '\\' then some (.string reversed fit (.leadBegun high), [])
    else plainStep? reversed false c
  | .leadBegun high =>
    if c = 'u' then some (.string reversed fit (.trail high 4 0), [])
    else escapeStep? reversed false c
  | .trail high left value =>
    (hexValue? c).map fun digit =>
      if left ≤ 1 then (afterPair reversed fit high (value * 16 + digit), [])
      else (.string reversed fit (.trail high (left - 1) (value * 16 + digit)), [])

/-- One character: the next state and the tokens that it completes. -/
def step? : State → Char → Option (State × List Token)
  | .idle, c => begin? c
  | .word [] _, _ => none
  | .word [last] token, c => if c = last then some (.idle, [token]) else none
  | .word (next :: left) token, c => if c = next then some (.word left token, []) else none
  | .numeral reversed, c =>
    if isNumeralChar c then some (.numeral (c :: reversed), [])
    else do
      let token ← numeral? reversed
      let (state, tokens) ← begin? c
      return (state, token :: tokens)
  | .string reversed fit escape, c => stringStep? reversed fit c escape

/-- The tokens of a text whose finished tokens are given in reverse; a text may end only between
tokens or after a numeral. -/
def run? : State → List Token → List Char → Option (List Token)
  | .idle, reversed, [] => some reversed.reverse
  | .numeral digits, reversed, [] => (numeral? digits).map fun token => (token :: reversed).reverse
  | _, _, [] => none
  | state, reversed, c :: rest =>
    (step? state c).bind fun (next, tokens) => run? next (tokens.reverse ++ reversed) rest

end Lexer

def tokens? (cs : List Char) : Option (List Token) :=
  Lexer.run? .idle [] cs

end InstallStatus.Json
