import InstallStatus.Text.Digits

/-!
Lengths of time: whole nanoseconds, of which the seconds fit in 64 bits. Multiplying a length can
leave that range, and then there is no result.
-/

namespace InstallStatus

/-- A length of fewer than `2 ^ 64` seconds, in nanoseconds. -/
structure Span where
  nanos : Nat
  nanos_lt : nanos < 18_446_744_073_709_551_616 * 1_000_000_000
  deriving DecidableEq

namespace Span

def ofNanos? (nanos : Nat) : Option Span :=
  if h : nanos < 18_446_744_073_709_551_616 * 1_000_000_000 then some ⟨nanos, h⟩ else none

def ofSeconds (seconds : UInt64) : Span :=
  ⟨seconds.toNat * 1_000_000_000, by have := seconds.toNat_lt; omega⟩

def ofMillis (millis : UInt64) : Span :=
  ⟨millis.toNat * 1_000_000, by have := millis.toNat_lt; omega⟩

/-- Seconds and nanoseconds together, of which the latter may carry over. -/
def ofParts? (seconds : UInt64) (nanos : UInt32) : Option Span :=
  ofNanos? (seconds.toNat * 1_000_000_000 + nanos.toNat)

def scale? (span : Span) (factor : Nat) : Option Span := ofNanos? (span.nanos * factor)

def seconds (span : Span) : Nat := span.nanos / 1_000_000_000

def millis (span : Span) : Nat := span.nanos / 1_000_000

/-- The digits of a fraction without the zeros at its end. -/
def fractionChars (places rest : Nat) : List Char :=
  if rest = 0 then []
  else '.' :: ((Text.padded places rest).reverse.dropWhile (· == '0')).reverse

/-- A number of nanoseconds in a unit of `10 ^ places` of them. -/
def inUnit (nanos places : Nat) (unit : String) : String :=
  let size := Nat.pow 10 places
  toString (nanos / size) ++ String.ofList (fractionChars places (nanos % size)) ++ unit

/-- So many nanoseconds in the greatest unit that leaves a whole part, with as many decimals as it
needs. -/
def textOf (nanos : Nat) : String :=
  if 1_000_000_000 ≤ nanos then inUnit nanos 9 "s"
  else if 1_000_000 ≤ nanos then inUnit nanos 6 "ms"
  else if 1_000 ≤ nanos then inUnit nanos 3 "µs"
  else inUnit nanos 0 "ns"

def text (span : Span) : String := textOf span.nanos

end Span

end InstallStatus
