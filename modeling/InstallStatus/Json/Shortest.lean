import InstallStatus.Json.Binary64
import InstallStatus.Text.Digits

/-!
The shortest decimal text of a floating-point number: the fewest digits that read back as the
number and, of these, the ones nearest to it. The numbers that read back as `x` form an interval
around it, closed when the significand of `x` is even; the digits are found by trying the two
neighbours of `x` on ever finer decimal grids.
-/

namespace InstallStatus.Json

/-- A whole number of `digits` at the decimal place `exponent`. -/
structure Decimal where
  digits : Nat
  exponent : Int
  deriving DecidableEq, Repr

namespace Binary64

/-- How many decimal places stand before the point: `10 ^ (n - 1) ≤ x < 10 ^ n`. -/
def wholePlaces (num den : Nat) : Int :=
  if den ≤ num then (Text.digitsOf (num / den)).length
  else 1 - (Text.digitsOf ((den - 1) / num)).length

/-- The interval of numbers that round to `x`, in quarters of its last place. -/
structure Interval where
  low : Nat
  middle : Nat
  high : Nat
  closed : Bool

def interval (x : Binary64) : Interval where
  low := 4 * x.significand -
    if x.significand = leastNormal ∧ leastExponent < x.exponent then 1 else 2
  middle := 4 * x.significand
  high := 4 * x.significand + 2
  closed := x.significand % 2 == 0

/-- Whether `point * unit` lies in the interval, whose ends are multiples of `quarter`. -/
def Interval.holds (i : Interval) (quarter unit point : Nat) : Bool :=
  if i.closed then i.low * quarter ≤ point * unit && point * unit ≤ i.high * quarter
  else i.low * quarter < point * unit && point * unit < i.high * quarter

/-- The point of the grid of `10 ^ place` that reads back as `x`, the nearer one of two. -/
def onGrid? (x : Binary64) (place : Int) : Option Nat :=
  let quarter := overPower 1 1 (2 - x.exponent)
  let num := if place < 0 then quarter.1 * Nat.pow 10 place.natAbs else quarter.1
  let den := if place < 0 then quarter.2 else quarter.2 * Nat.pow 10 place.natAbs
  let i := x.interval
  let below := i.middle * num / den
  match i.holds num den below, i.holds num den (below + 1) with
  | true, true =>
    let rest := i.middle * num % den
    if 2 * rest < den then some below
    else if den < 2 * rest then some (below + 1)
    else some (below + below % 2)
  | true, false => some below
  | false, true => some (below + 1)
  | false, false => none

/-- Moves the zeros at the end into the exponent. -/
def Decimal.strip (d : Decimal) : Decimal :=
  let zeros := ((Text.digitsOf d.digits).reverse.takeWhile (· == '0')).length
  if d.digits = 0 then ⟨0, 0⟩ else ⟨d.digits / Nat.pow 10 zeros, d.exponent + zeros⟩

/-- The digits of the magnitude of `x`. Seventeen of them always suffice. -/
def shortest (x : Binary64) : Decimal :=
  if x.isZero then ⟨0, 0⟩
  else
    let places := wholePlaces x.quotient.1 x.quotient.2
    let found := (List.range 17).findSome? fun (n : Nat) =>
      let place := places - (n + 1 : Nat)
      (x.onGrid? place).map fun point => Decimal.strip ⟨point, place⟩
    found.getD ⟨0, 0⟩

/-- Digits with the point at its place, without an exponent; at least one digit on each side. -/
def positional (d : Decimal) : List Char :=
  let digits := Text.digitsOf d.digits
  if 0 ≤ d.exponent then
    digits ++ List.replicate d.exponent.natAbs '0' ++ ['.', '0']
  else
    let padded := List.replicate (d.exponent.natAbs + 1 - digits.length) '0' ++ digits
    let whole := padded.length - d.exponent.natAbs
    padded.take whole ++ '.' :: padded.drop whole

/-- Digits with the point after the first and an exponent, which always has a sign. -/
def scientific (d : Decimal) : List Char :=
  let digits := Text.digitsOf d.digits
  let power := d.exponent + (digits.length - 1 : Nat)
  let point := match digits with
    | first :: second :: rest => first :: '.' :: second :: rest
    | short => short
  let sign := if power < 0 then '-' else '+'
  point ++ 'e' :: sign :: Text.digitsOf power.natAbs

/-- The text of a number: positional from `10 ^ -5` to below `10 ^ 16`. -/
def chars (x : Binary64) : List Char :=
  let d := x.shortest
  let places := d.exponent + ((Text.digitsOf d.digits).length : Int)
  let magnitude := if -5 < places ∧ places ≤ 16 then positional d else scientific d
  if x.negative then '-' :: magnitude else magnitude

end Binary64

end InstallStatus.Json
