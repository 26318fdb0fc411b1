import InstallStatus.Text.Digits
import InstallStatus.Time.Date

/-!
Points in time in UTC, as the fields of a calendar and a clock. A leap second is the second 60, with
nanoseconds of its own. Main definitions: the text of a timestamp, and the timestamp cut to its whole
second.
-/

namespace InstallStatus

structure Timestamp where
  date : Date
  hour : Nat
  minute : Nat
  second : Nat
  nanos : Nat
  hour_lt : hour < 24
  minute_lt : minute < 60
  second_le : second ≤ 60
  nanos_lt : nanos < 1_000_000_000
  deriving DecidableEq

namespace Timestamp

/-- The time of day on a date, when its fields are in range. -/
def of? (date : Date) (hour minute second nanos : Nat) : Option Timestamp :=
  if h : hour < 24 ∧ minute < 60 ∧ second ≤ 60 ∧ nanos < 1_000_000_000 then
    some ⟨date, hour, minute, second, nanos, h.1, h.2.1, h.2.2.1, h.2.2.2⟩
  else none

/-- The time without the fraction of its second. A leap second stays one. -/
def truncate (t : Timestamp) : Timestamp :=
  { t with nanos := 0, nanos_lt := by decide }

/-- The time so many minutes earlier, by less than a day; none past the ends of the calendar. -/
def earlier? (t : Timestamp) (minutes : Int) : Option Timestamp :=
  let total := (t.hour * 60 + t.minute : Nat) - minutes
  let minuteOfDay := (total % 1440).toNat
  let date? :=
    if total < 0 then t.date.previous? else if total < 1440 then some t.date else t.date.next?
  date?.bind fun date => of? date (minuteOfDay / 60) (minuteOfDay % 60) t.second t.nanos

/-- Four digits, with a sign for the years that need more or lie before the year zero. -/
def yearChars (year : Int) : List Char :=
  if 0 ≤ year ∧ year ≤ 9999 then Text.padded 4 year.toNat
  else (if year < 0 then '-' else '+') :: Text.padded 4 year.natAbs

/-- The fraction of a second in three, six or nine digits, the fewest that lose nothing. -/
def fractionChars (nanos : Nat) : List Char :=
  if nanos = 0 then []
  else if nanos % 1000000 = 0 then '.' :: Text.padded 3 (nanos / 1000000)
  else if nanos % 1000 = 0 then '.' :: Text.padded 6 (nanos / 1000)
  else '.' :: Text.padded 9 nanos

def secondChars (t : Timestamp) : List Char :=
  yearChars t.date.year ++ '-' :: Text.padded 2 t.date.month ++ '-' :: Text.padded 2 t.date.day ++
    'T' :: Text.padded 2 t.hour ++ ':' :: Text.padded 2 t.minute ++ ':' :: Text.padded 2 t.second

def chars (t : Timestamp) : List Char :=
  t.secondChars ++ fractionChars t.nanos ++ ['Z']

def text (t : Timestamp) : String := String.ofList t.chars

/-- The text of a timestamp in a log line: always six digits after the second, the rest cut. -/
def microText (t : Timestamp) : String :=
  String.ofList (t.secondChars ++ '.' :: Text.padded 6 (t.nanos / 1000) ++ ['Z'])

end Timestamp

end InstallStatus
