import InstallStatus.Api.Store
import InstallStatus.Settings.Basic
import InstallStatus.Time.Clock

/-!
A server that can be made to misbehave. A disturbance waits for the next request of its sort, delays
it, and may answer it in place of the store; a request so answered has no effect. Time is counted in
milliseconds.
-/

namespace InstallStatus.Api

inductive RequestSort
  | getDeployment
  | getInstance
  | patch
  deriving DecidableEq, Repr

def RequestSort.of : Call → RequestSort
  | .getDeployment _ _ => .getDeployment
  | .getInstance _ _ => .getInstance
  | .patchStatus _ _ _ => .patch

structure Disturbance where
  sort : RequestSort
  answer : Option Answer
  delay : Nat

structure Server where
  store : Store
  disturbances : List Disturbance

structure Exchange where
  request : Request
  answer : Option Answer
  delay : Nat

namespace Server

def takeFirst (sort : RequestSort) : List Disturbance → Option Disturbance × List Disturbance
  | [] => (none, [])
  | d :: rest =>
    if d.sort = sort then (some d, rest)
    else
      let (found, rest) := takeFirst sort rest
      (found, d :: rest)

def disturb (server : Server) (d : Disturbance) : Server :=
  { server with disturbances := server.disturbances ++ [d] }

/-- Sends the request of a call, which uses up a disturbance of its sort. -/
def send (server : Server) (fieldManager : String) (call : Call) :
    Except RequestFault (Exchange × Server) :=
  (Request.ofCall fieldManager call).map fun request =>
    let (d, rest) := takeFirst (.of call) server.disturbances
    (⟨request, d.bind Disturbance.answer, (d.map Disturbance.delay).getD 0⟩,
      { server with disturbances := rest })

/-- The server once an exchange is through, the answer, and what changed. -/
def settle (server : Server) (exchange : Exchange) : Server × Answer × Option Change :=
  match exchange.answer with
  | some answer => (server, answer, none)
  | none =>
    let (store, answer, change) := server.store.serve exchange.request
    ({ server with store }, answer, change)

end Server

inductive Ending (α : Type)
  | done (result : α)
  | late
  /-- The clock could not be read. -/
  | halted (fault : ClockFault)

structure Outcome (α : Type) where
  server : Server
  requests : List Request
  events : List Event
  ending : Ending α

/-- Runs a pass against a server with so much time left. A call whose answer comes too late ends the
pass; the request was sent, but has no effect. Once no time is left a call ends the pass unsent. -/
def Server.run {α : Type} (fieldManager : String) (clock : Timestamp) (server : Server) (left : Nat) :
    Pass α → Outcome α
  | .done result => ⟨server, [], [], .done result⟩
  | .report event next =>
    let rest := server.run fieldManager clock left next
    { rest with events := event :: rest.events }
  | .clock next =>
    match readClock clock with
    | .ok now => server.run fieldManager clock left (next now)
    | .error fault => ⟨server, [], [], .halted fault⟩
  | .call call next =>
    match server.send fieldManager call with
    | .error fault => server.run fieldManager clock left (next (.error (.client (.request fault))))
    | .ok (exchange, asked) =>
      if left = 0 then ⟨server, [], [], .late⟩
      else if left < exchange.delay then ⟨asked, [exchange.request], [], .late⟩
      else
        let (server, answer, _) := asked.settle exchange
        let rest := server.run fieldManager clock (left - exchange.delay) (next (answer.result call))
        { rest with requests := exchange.request :: rest.requests }

/-- The failure of a pass over this deployment that was cut off. -/
def lateFailure (settings : Settings) (trigger : ClusterDeployment) : Failure :=
  .timeout trigger.key settings.timeout

/-- Runs the pass that an object sets off, under the deadline of the settings. -/
def Server.serve (settings : Settings) (clock : Timestamp) (server : Server)
    (trigger : ClusterDeployment) : Outcome (Except Failure Action) :=
  server.run settings.fieldManager clock settings.timeout.millis (Pass.ofTrigger trigger)

/-- What a pass came to, being late counted as a failure. A pass that was halted came to nothing. -/
def Ending.result (settings : Settings) (trigger : ClusterDeployment) :
    Ending (Except Failure Action) → Except ClockFault (Except Failure Action)
  | .done result => .ok result
  | .late => .ok (.error (lateFailure settings trigger))
  | .halted fault => .error fault

def Outcome.result (settings : Settings) (trigger : ClusterDeployment)
    (outcome : Outcome (Except Failure Action)) : Except ClockFault (Except Failure Action) :=
  outcome.ending.result settings trigger

end InstallStatus.Api
