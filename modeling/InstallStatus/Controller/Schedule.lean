import InstallStatus.Resource.Link

/-!
When passes are due. A key has at most one due time, the earliest that was asked for; of keys with the
same due time the one that was asked for first goes first.
-/

namespace InstallStatus.Controller

structure Due where
  key : ObjectKey
  time : Nat
  /-- Counts the requests, so that equal times keep their order. -/
  ticket : Nat
  deriving DecidableEq, Repr

namespace Due

/-- Whether the first is to be dealt with before the second. -/
def precedes (a b : Due) : Bool :=
  a.time < b.time || (a.time == b.time && a.ticket < b.ticket)

end Due

abbrev Schedule := List Due

namespace Schedule

def get? (schedule : Schedule) (key : ObjectKey) : Option Due :=
  schedule.find? fun due => due.key == key

def remove (schedule : Schedule) (key : ObjectKey) : Schedule :=
  schedule.filter fun due => due.key != key

/-- Asks for a pass. A key that is due no later already stays as it is. -/
def request (schedule : Schedule) (new : Due) : Schedule :=
  match schedule.get? new.key with
  | some old => if old.time ≤ new.time then schedule else schedule.remove new.key ++ [new]
  | none => schedule ++ [new]

def next? (schedule : Schedule) (isFree : ObjectKey → Bool) : Option Due :=
  (schedule.filter fun due => isFree due.key).foldl
    (fun best due =>
      match best with
      | some earliest => if due.precedes earliest then some due else some earliest
      | none => some due) none

end Schedule

end InstallStatus.Controller
