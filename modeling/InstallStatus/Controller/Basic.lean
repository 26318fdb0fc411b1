import InstallStatus.Api.Server
import InstallStatus.Controller.Schedule
import InstallStatus.Controller.Watcher

/-!
The controller as a machine in virtual time, counted in milliseconds. It holds the passes that are due
and those under way; of the latter there is at most one for each deployment. Its moves are: to begin
the pass that is due first, to hand an answer to the pass that waits for it, and to go on with a watcher
that has slept. A failed pass is due again after the delay that goes with its failure, unless it has
become due in the meantime. No pass begins before the deployments have been listed.

An object without a name, a clock that cannot be read, and a delay that is too long to be a length of
time halt the controller for good.
-/

namespace InstallStatus

structure Controller.Flight where
  key : ObjectKey
  trigger : ClusterDeployment
  deadline : Nat
  arrival : Nat
  ticket : Nat
  call : Call
  next : Except Failure call.Result → Pass (Except Failure Action)
  exchange : Api.Exchange

structure Controller where
  settings : Settings
  server : Api.Server
  watch : Controller.Watch
  deployments : Controller.Watcher
  instances : Controller.Watcher
  /-- Whether the deployments have been listed. -/
  ready : Bool
  schedule : Controller.Schedule
  flights : List Controller.Flight
  time : Nat
  clock : Timestamp
  /-- Numbers what becomes due, in order. -/
  ticket : Nat
  /-- Whether it has been told to stop. -/
  stopping : Bool
  requests : List Api.Request
  events : List Event

namespace Controller

/-- When the controller turns to a flight: when the answer is there, or when time is up. -/
def Flight.time (flight : Flight) : Nat := min flight.arrival flight.deadline

def Flight.due (flight : Flight) : Due := ⟨flight.key, flight.time, flight.ticket⟩

def isRunning (c : Controller) (key : ObjectKey) : Bool :=
  c.flights.any fun flight => flight.key == key

/-- Whether it has stopped: it was told to, and no pass is under way. -/
def isStopped (c : Controller) : Bool := c.stopping && c.flights.isEmpty

def report (c : Controller) (events : List Event) : Controller :=
  { c with events := c.events ++ events }

/-- Asks for a pass so many milliseconds from now. A controller that stops takes no more. -/
def wake (c : Controller) (key : ObjectKey) (delay : Nat) : Controller :=
  if c.stopping then c
  else
    { c with
      schedule := c.schedule.request ⟨key, c.time + delay, c.ticket⟩
      ticket := c.ticket + 1 }

/-- Stops at once: whatever is under way or due is dropped. -/
def halt (c : Controller) : Controller :=
  { c with stopping := true, schedule := [], flights := [] }

def watcher (c : Controller) : Api.Resource → Watcher
  | .deployments => c.deployments
  | .instances => c.instances

def setWatcher (c : Controller) (w : Watcher) : Controller :=
  match w.resource with
  | .deployments => { c with deployments := w }
  | .instances => { c with instances := w }

inductive Progress
  | further
  /-- It has come up with something, so that it is the turn of the other one. -/
  | item
  | idle

def stumble (c : Controller) (w : Watcher) (phase : Phase) : Progress × Controller :=
  (.item, (c.setWatcher (w.stumble c.time phase)).report [.passErrored])

def see (c : Controller) (key : ObjectKey) (sighting : Sighting) : Progress × Controller :=
  if sighting.isNameless then (.idle, c.halt)
  else
    let reaction := c.watch.applied key sighting
    let c := { c with watch := reaction.watch }
    match reaction.wake with
    | some key => (.item, c.wake key 0)
    | none => (.further, c)

def miss (c : Controller) (key : ObjectKey) (sighting : Sighting) : Progress × Controller :=
  match sighting with
  | .deployment d =>
    if d.metadata.name.isNone then (.idle, c.halt)
    else (.further, { c with watch := c.watch.deleted key sighting })
  | .site _ => (.further, c)

/-- A watcher lists its resource. A list with an object that cannot be read is of no use. -/
def list (c : Controller) (w : Watcher) : Progress × Controller :=
  let fresh := { w with errors := 0, inbox := [] }
  match Api.Request.list w.resource c.watch.scope with
  | .error _ => c.stumble fresh .unlisted
  | .ok request =>
    let c := { c with requests := c.requests ++ [request] }
    match c.server.store.listing? request.path with
    | none => c.stumble fresh .unlisted
    | some objects =>
      if objects.all fun entry => (Sighting.read? w.resource entry.2).isSome then
        (.further,
          { c.setWatcher { fresh with phase := .listing objects } with
            watch := c.watch.forget w.resource })
      else c.stumble fresh .unlisted

/-- A watcher has taken notice of its list and begins to watch. -/
def follow (c : Controller) (w : Watcher) : Progress × Controller :=
  let c := c.setWatcher { w with phase := .watching }
  (.further,
    { c with
      requests := c.requests ++ [Api.Request.watch w.resource c.watch.scope]
      ready := c.ready || w.resource == .deployments })

/-- A watcher takes a change from its inbox. An object that cannot be read is passed over, and one
without a version makes it list anew. -/
def receive (c : Controller) (w : Watcher) (change : Api.Change) : Progress × Controller :=
  match Sighting.read? w.resource change.object with
  | none => c.stumble w .watching
  | some sighting =>
    if sighting.isVersioned then
      let c := c.setWatcher { w with errors := 0 }
      match change with
      | .applied id _ => c.see id.key sighting
      | .deleted id _ => c.miss id.key sighting
    else c.stumble w .unlisted

def turn (c : Controller) (resource : Api.Resource) : Progress × Controller :=
  let w := c.watcher resource
  if c.stopping || w.asleep.isSome then (.idle, c)
  else
    match w.phase, w.inbox with
    | .unlisted, _ => c.list w
    | .listing [], _ => c.follow w
    | .listing ((id, object) :: left), _ =>
      match Sighting.read? resource object with
      | some sighting => (c.setWatcher { w with phase := .listing left }).see id.key sighting
      | none => c.stumble w .unlisted
    | .watching, [] => (.idle, c)
    | .watching, change :: inbox => c.receive { w with inbox } change

/-- Lets the watchers make so many steps at most, by turns, until both are idle. -/
def catchUpFor : Nat → Api.Resource → Bool → Controller → Controller
  | 0, _, _, c => c
  | steps + 1, resource, otherIdle, c =>
    match c.turn resource with
    | (.further, c) => catchUpFor steps resource otherIdle c
    | (.item, c) => catchUpFor steps resource.other false c
    | (.idle, c) => if otherIdle then c else catchUpFor steps resource.other true c

/-- Lets the watchers take notice of all there is. Each object and each change takes two steps at most,
its own and one in which the other watcher is idle; to list and to watch takes a few more. -/
def catchUp (c : Controller) : Controller :=
  let left := c.server.store.objects.length + c.deployments.left + c.instances.left
  catchUpFor (2 * left + 16) .deployments false c

def notice (c : Controller) (change : Api.Change) : Controller :=
  let w := c.watcher change.id.resource
  if w.isWatching && c.watch.seesNamespace change.id.namespaceName then
    (c.setWatcher { w with inbox := w.inbox ++ [change] }).catchUp
  else c

/-- Does what a pass over the deployment of a key asks for once it is over. -/
def heed (c : Controller) (key : ObjectKey) : Action → Controller
  | .awaitChange => c
  | .requeue delay => c.wake key delay.millis

def finish (c : Controller) (key : ObjectKey) (trigger : ClusterDeployment) :
    Except Failure Action → Controller
  | .ok action => c.heed key action
  | .error failure =>
    let c := c.report [.ofFailure failure trigger.key]
    match failure.action? c.settings.requeue with
    | some action => (c.report [.passErrored]).heed key action
    | none => c.halt

def cutOff (c : Controller) (key : ObjectKey) (trigger : ClusterDeployment) : Controller :=
  c.finish key trigger (.error (Api.lateFailure c.settings trigger))

/-- Runs a pass up to its next call, which is sent while there is time, or to its end. -/
def proceed (c : Controller) (key : ObjectKey) (trigger : ClusterDeployment) (deadline : Nat) :
    Pass (Except Failure Action) → Controller
  | .done result => c.finish key trigger result
  | .report event next => (c.report [event]).proceed key trigger deadline next
  | .clock next =>
    match readClock c.clock with
    | .ok now => c.proceed key trigger deadline (next now)
    | .error _ => c.halt
  | .call call next =>
    match c.server.send c.settings.fieldManager call with
    | .error fault => c.proceed key trigger deadline (next (.error (.client (.request fault))))
    | .ok (exchange, server) =>
      if deadline ≤ c.time then c.cutOff key trigger
      else
        { c with
          server
          requests := c.requests ++ [exchange.request]
          flights := c.flights ++
            [⟨key, trigger, deadline, c.time + exchange.delay, c.ticket, call, next, exchange⟩]
          ticket := c.ticket + 1 }

/-- Begins the pass of a key. A deployment that is not known cannot be passed over. -/
def begin (c : Controller) (key : ObjectKey) : Controller :=
  let c := { c with schedule := c.schedule.remove key }
  match c.watch.deployment? key with
  | none => c.report [.passErrored]
  | some trigger => c.proceed key trigger (c.time + c.settings.timeout.millis) (Pass.ofTrigger trigger)

/-- Hands its answer to a pass, or cuts it off when that comes too late. -/
def land (c : Controller) (flight : Flight) : Controller :=
  let c := { c with flights := c.flights.filter fun other => other.ticket != flight.ticket }
  if flight.deadline < flight.arrival then c.cutOff flight.key flight.trigger
  else
    let (server, answer, change) := c.server.settle flight.exchange
    let c := { c with server }
    let c := match change with
      | some change => c.notice change
      | none => c
    c.proceed flight.key flight.trigger flight.deadline (flight.next (answer.result flight.call))

def nextFlight? (c : Controller) : Option Flight :=
  c.flights.foldl
    (fun best flight =>
      match best with
      | some earliest => if flight.due.precedes earliest.due then some flight else some earliest
      | none => some flight) none

/-- The pass that is due first among those that may begin. -/
def nextDue? (c : Controller) : Option Due :=
  if c.stopping || !c.ready then none else c.schedule.next? fun key => !c.isRunning key

/-- The watcher that wakes first, with the time at which it does. -/
def nextRousing? (c : Controller) : Option (Api.Resource × Nat) :=
  if c.stopping then none
  else
    match c.deployments.asleep, c.instances.asleep with
    | some a, some b => if b < a then some (.instances, b) else some (.deployments, a)
    | some a, none => some (.deployments, a)
    | none, some b => some (.instances, b)
    | none, none => none

inductive Move
  | begin (due : Due)
  | land (flight : Flight)
  | rouse (resource : Api.Resource) (time : Nat)

def Move.time : Move → Nat
  | .begin due => due.time
  | .land flight => flight.due.time
  | .rouse _ time => time

def nextPassMove? (c : Controller) : Option Move :=
  match c.nextDue?, c.nextFlight? with
  | some due, some flight =>
    if flight.due.precedes due then some (.land flight) else some (.begin due)
  | some due, none => some (.begin due)
  | none, some flight => some (.land flight)
  | none, none => none

/-- The next move, which is that of a watcher if there are two at the same time. -/
def nextMove? (c : Controller) : Option Move :=
  match c.nextPassMove?, c.nextRousing? with
  | some move, some (resource, time) =>
    if move.time < time then some move else some (.rouse resource time)
  | some move, none => some move
  | none, some (resource, time) => some (.rouse resource time)
  | none, none => none

def rouse (c : Controller) (resource : Api.Resource) : Controller :=
  (c.setWatcher { c.watcher resource with asleep := none }).catchUp

/-- Makes a move at its time, or now if that has passed. -/
def make (c : Controller) (move : Move) : Controller :=
  let c := { c with time := max c.time move.time }
  match move with
  | .begin due => c.begin due.key
  | .land flight => c.land flight
  | .rouse resource _ => c.rouse resource

/-- Makes so many moves at most, all of them before a point in time. -/
def runFor : Nat → Nat → Controller → Controller
  | 0, _, c => c
  | moves + 1, limit, c =>
    match c.nextMove? with
    | some move => if move.time < limit then runFor moves limit (c.make move) else c
    | none => c

/-- More moves than any input makes in so many milliseconds. -/
def patience (c : Controller) (millis : Nat) : Nat :=
  (millis + 1) * (c.server.store.objects.length + c.flights.length + 1) * 64

def elapse (c : Controller) (millis : Nat) : Controller :=
  let limit := c.time + millis
  { runFor (c.patience millis) limit c with time := limit }

end Controller

end InstallStatus
