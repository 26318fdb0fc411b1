import InstallStatus.Time.Span
import InstallStatus.Time.Timestamp

/-!
The clock of a machine. It counts from the beginning of 1970. One that shows an earlier time cannot be
read, and whoever tries comes to a halt.
-/

namespace InstallStatus

namespace Date

/-- The days of a year before a month. -/
def daysBefore (year : Int) (month : Nat) : Nat :=
  ((List.range month).drop 1).foldl (fun days earlier => days + daysIn year earlier) 0

/-- The days from the first of January of the year 1 to that of the year 1970. -/
def daysTo1970 : Int := 719162

/-- The number of a day, counted from the first of January 1970. -/
def number (d : Date) : Int :=
  let past := d.year - 1
  past * 365 + past / 4 - past / 100 + past / 400 + daysBefore d.year d.month + d.day - 1 - daysTo1970

end Date

/-- Nanoseconds since the beginning of 1970. -/
def Timestamp.sinceStart (t : Timestamp) : Int :=
  (((t.date.number * 24 + t.hour) * 60 + t.minute) * 60 + t.second) * 1_000_000_000 + t.nanos

/-- A clock that shows a time too early, by so many nanoseconds. -/
structure ClockFault where
  gap : Nat
  deriving DecidableEq, Repr

def ClockFault.message (fault : ClockFault) : String :=
  "system time before Unix epoch: SystemTimeError(" ++ Span.textOf fault.gap ++ ")"

-- Irreducible, so that what reads a clock can be unfolded without counting its days.
/-- Reads a clock that shows this time. -/
@[irreducible] def readClock (shown : Timestamp) : Except ClockFault Timestamp :=
  if 0 ≤ shown.sinceStart then .ok shown else .error ⟨shown.sinceStart.natAbs⟩

end InstallStatus
