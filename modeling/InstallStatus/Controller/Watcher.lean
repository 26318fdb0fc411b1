import InstallStatus.Controller.Watch

/-!
How far a watcher of one resource has come. It lists all objects and takes notice of them, then it
watches for changes. After an error it sleeps for a while, longer each time until something goes well,
and depending on the error it goes on watching or lists anew.
-/

namespace InstallStatus.Controller

inductive Phase
  /-- It lists next. -/
  | unlisted
  /-- It has a list, of which these objects are left. -/
  | listing (left : List (Api.ObjectId × Json))
  | watching

structure Watcher where
  resource : Api.Resource
  phase : Phase
  /-- The changes that have come in and are left. -/
  inbox : List Api.Change
  /-- How many errors there were since something went well. -/
  errors : Nat
  /-- The time at which it goes on, while it sleeps. -/
  asleep : Option Nat

namespace Watcher

def start (resource : Api.Resource) : Watcher := ⟨resource, .unlisted, [], 0, none⟩

def isWatching (w : Watcher) : Bool :=
  match w.phase with
  | .watching => true
  | _ => false

/-- The least sleep, in milliseconds. -/
def leastSleep : Nat := 800

/-- The greatest sleep, in milliseconds. -/
def greatestSleep : Nat := 30000

/-- What is added to a sleep lest all watchers wake at once: half of the least sleep, which is the mean
of what chance would add. -/
def spread : Nat := leastSleep / 2

/-- How long a watcher sleeps that has had so many errors before. -/
def sleepAfter (errors : Nat) : Nat := min (leastSleep * Nat.pow 2 errors) greatestSleep + spread

/-- The watcher after an error, in the phase that it goes on with. -/
def stumble (w : Watcher) (time : Nat) (phase : Phase) : Watcher :=
  { w with phase, errors := w.errors + 1, asleep := some (time + sleepAfter w.errors) }

def left (w : Watcher) : Nat :=
  (match w.phase with
  | .listing left => left.length
  | _ => 0) + w.inbox.length

end Watcher

end InstallStatus.Controller
