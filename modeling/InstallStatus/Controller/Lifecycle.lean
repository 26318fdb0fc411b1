import InstallStatus.Controller.Basic
import InstallStatus.SipHash

/-!
How the controller comes up and goes down. It lists and watches both kinds of objects, and takes
notice of all there are; told to stop, it begins no more passes and waits for those under way, unless
it is told again.
-/

namespace InstallStatus.Controller

/-- A controller that has listed the store, as far as it can, and is about to begin its first passes. -/
def start (settings : Settings) (store : Api.Store) (clock : Timestamp) : Controller :=
  catchUp {
    settings
    server := ⟨store, []⟩
    watch := .start SipHash.digest settings.namespaceName
    deployments := .start .deployments
    instances := .start .instances
    ready := false
    schedule := []
    flights := []
    time := 0
    clock
    ticket := 0
    stopping := false
    requests := []
    events := [.controllerStarted] }

def put (c : Controller) (object : Json) : Controller :=
  let (store, change) := c.server.store.put object
  { c with server := { c.server with store } }.notice change

def delete (c : Controller) (id : Api.ObjectId) : Controller :=
  let (store, change) := c.server.store.delete id
  let c := { c with server := { c.server with store } }
  match change with
  | some change => c.notice change
  | none => c

def disturb (c : Controller) (d : Api.Disturbance) : Controller :=
  { c with server := c.server.disturb d }

/-- Tells the controller to stop. Passes that are due are dropped; told a second time, it drops those
under way as well. -/
def stop (c : Controller) : Controller :=
  if c.stopping then c.halt else { c with stopping := true, schedule := [] }

def clearRecord (c : Controller) : Controller := { c with requests := [], events := [] }

/-- Each text once, in ascending order. -/
def distinct (texts : List String) : List String :=
  (texts.mergeSort fun a b => a ≤ b).eraseDups

def requestLines (c : Controller) : List String := distinct (c.requests.map Api.Request.line)

/-- The reports above the level for finding faults, each once. -/
def eventLines (c : Controller) : List String :=
  distinct ((c.events.filter fun event => event.level.rank < Level.debug.rank).map fun event =>
    event.level.text ++ " " ++ event.message)

end InstallStatus.Controller
