/-!
Finite binary floating-point numbers of 64 bits, as exact data: a sign, a significand below `2^53`
and a power of two. Every operation computes the exact quotient in whole numbers and rounds once, to
the nearest number that has the form, a tie going to the even significand.
-/

namespace InstallStatus.Json

/-- The number `significand * 2 ^ exponent`, negated when `negative`. The two zeros differ. -/
structure Binary64 where
  negative : Bool
  significand : Nat
  exponent : Int
  deriving DecidableEq, Repr

/-- The quotient rounded to the nearest whole number, a tie to the even one. -/
def roundHalfEven (num den : Nat) : Nat :=
  let whole := num / den
  let rest := num % den
  if 2 * rest < den then whole
  else if den < 2 * rest then whole + 1
  else whole + whole % 2

namespace Binary64

/-- The least significand of 53 bits, `2 ^ 52`. -/
def leastNormal : Nat := 4503599627370496

def leastExponent : Int := -1074

def greatestExponent : Int := 971

/-- Stands for all that lies beyond the finite numbers. -/
def beyond : Binary64 := ⟨false, leastNormal, greatestExponent + 1⟩

def isFinite (x : Binary64) : Bool := x.exponent ≤ greatestExponent

/-- The two factors of `num / den` that move `2 ^ exponent` to the side where it is whole. -/
def overPower (num den : Nat) (exponent : Int) : Nat × Nat :=
  if exponent < 0 then (num * Nat.pow 2 exponent.natAbs, den)
  else (num, den * Nat.pow 2 exponent.natAbs)

/-- The exponent that gives the quotient 53 significant bits, or the least one of all. -/
def quotientExponent (num den : Nat) : Int :=
  let width := (Nat.log2 num : Int) - Nat.log2 den
  let reached := overPower num den width
  let full := if reached.2 ≤ reached.1 then width - 52 else width - 53
  max full leastExponent

/-- The number nearest to a quotient; none when it lies beyond the greatest finite number. -/
def ofQuotient? (negative : Bool) (num den : Nat) : Option Binary64 :=
  if num = 0 then some ⟨negative, 0, leastExponent⟩
  else
    let exponent := quotientExponent num den
    let scaled := overPower num den exponent
    let rounded := roundHalfEven scaled.1 scaled.2
    let number : Binary64 :=
      if rounded = 2 * leastNormal then ⟨negative, leastNormal, exponent + 1⟩
      else ⟨negative, rounded, exponent⟩
    if number.exponent ≤ greatestExponent then some number else none

def isZero (x : Binary64) : Bool := x.significand == 0

def quotient (x : Binary64) : Nat × Nat :=
  overPower x.significand 1 (-x.exponent)

def times? (x y : Binary64) : Option Binary64 :=
  ofQuotient? false (x.quotient.1 * y.quotient.1) (x.quotient.2 * y.quotient.2)

/-- The quotient of two magnitudes; the divisor is not zero. -/
def over? (x y : Binary64) : Option Binary64 :=
  ofQuotient? false (x.quotient.1 * y.quotient.2) (x.quotient.2 * y.quotient.1)

/-- The number nearest to a power of ten, which has at most 308 zeros. -/
def powerOfTen? (zeros : Nat) : Option Binary64 :=
  ofQuotient? false (Nat.pow 10 zeros) 1

/-- Divides by `10 ^ 308` so many times, or until nothing is left. -/
def shrink : Nat → Binary64 → Option Binary64
  | 0, x => some x
  | times + 1, x =>
    if x.isZero then some x
    else (powerOfTen? 308).bind fun power => (x.over? power).bind (shrink times)

/-- A decimal significand scaled by a power of ten: the significand is rounded, and each factor of
at most `10 ^ 308` is rounded and applied in turn. The last bit can differ from that of the exact
value for this reason. Numbers beyond the finite ones are refused. -/
def ofDecimal? (negative : Bool) (significand : Nat) (exponent : Int) : Option Binary64 :=
  (ofQuotient? false significand 1).bind fun whole =>
    let scaled :=
      if 0 ≤ exponent then
        if exponent ≤ 308 then (powerOfTen? exponent.natAbs).bind whole.times?
        else if whole.isZero then some whole
        else none
      else
        let steps := (exponent.natAbs - 1) / 308
        (shrink steps whole).bind fun small =>
          if small.isZero then some small
          else (powerOfTen? (exponent.natAbs - 308 * steps)).bind small.over?
    scaled.map fun x => { x with negative }

/-- Equality of values: the two zeros are equal. -/
def same (x y : Binary64) : Bool :=
  x.significand == y.significand && x.exponent == y.exponent &&
    (x.negative == y.negative || x.isZero)

end Binary64

end InstallStatus.Json
