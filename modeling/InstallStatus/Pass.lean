import InstallStatus.Projection
import InstallStatus.Resource.Link

/-!
One pass over a deployment, as a tree of what it does next: report something, read the clock, or call
the server and go on with the answer. The object that sets off a pass gives only the key; everything
else is fetched anew. A pass calls the server at most three times, and it writes only what differs,
with the version it has read as a condition.
-/

namespace InstallStatus

inductive Call
  | getDeployment (name namespaceName : String)
  | getInstance (name namespaceName : String)
  /-- Lays a patch over the status of an instance. -/
  | patchStatus (name namespaceName : String) (patch : Json)

/-- What the server gives back. An object that does not exist is none. -/
def Call.Result : Call → Type
  | .getDeployment _ _ => Option ClusterDeployment
  | .getInstance _ _ => Option ClusterInstance
  | .patchStatus _ _ _ => Unit

inductive Pass (α : Type)
  | done (result : α)
  | report (event : Event) (next : Pass α)
  | clock (next : Timestamp → Pass α)
  | call (request : Call) (next : Except Failure request.Result → Pass α)

namespace Pass

variable {α β : Type}

def bind : Pass α → (α → Pass β) → Pass β
  | .done result, next => next result
  | .report event rest, next => .report event (rest.bind next)
  | .clock rest, next => .clock fun now => (rest now).bind next
  | .call request rest, next => .call request fun answer => (rest answer).bind next

def reportAll : List Event → Pass α → Pass α
  | [], next => next
  | event :: rest, next => .report event (reportAll rest next)

/-- Goes on only if there was no failure. -/
def andThen (pass : Pass (Except Failure α)) (next : α → Pass (Except Failure β)) :
    Pass (Except Failure β) :=
  pass.bind fun
    | .error failure => .done (.error failure)
    | .ok result => next result

/-- A call whose failure ends the pass. -/
def ask (request : Call) : Pass (Except Failure request.Result) :=
  .call request .done

/-- The instance that owns the deployment, if it has one and that still exists. -/
def resolve (deployment : ClusterDeployment) : Pass (Except Failure (Option ClusterInstance)) :=
  match deployment.owner? with
  | none => .report (.ownerMissing deployment.name) (.done (.ok none))
  | some owner =>
    match deployment.metadata.namespaceName with
    | none => .done (.error (.missingNamespace ClusterDeployment.kind deployment.name))
    | some namespaceName =>
      (ask (.getInstance owner namespaceName)).andThen fun
        | some site => .done (.ok (some site))
        | none => .report (.instanceMissing owner namespaceName) (.done (.ok none))

/-- The body of the patch: the changed fields of the status, and the version they build on. -/
def patchBody (site : ClusterInstance) (difference : Json) : Json :=
  Json.ofFields? [
    some ("status", difference),
    site.metadata.resourceVersion.map fun v =>
      ("metadata", Json.ofFields [("resourceVersion", .string v)])]

/-- Writes what differs between the status found and the one wanted, and tells whether anything did. -/
def write (site : ClusterInstance) (found wanted : ClusterInstanceStatus) :
    Pass (Except Failure Bool) :=
  match found.patchTo wanted with
  | .error document => .done (.error (.ofUnpatchable document))
  | .ok none => .report (.statusCurrent site.name) (.done (.ok false))
  | .ok (some difference) =>
    match site.metadata.namespaceName with
    | none => .done (.error (.missingNamespace ClusterInstance.kind site.name))
    | some namespaceName =>
      (ask (.patchStatus site.name namespaceName (patchBody site difference))).andThen fun _ =>
        .report (.statusUpdated site.name namespaceName) (.done (.ok true))

/-- Brings the status of the instance in line with the deployment. All times written are the whole
second at which this starts. Whatever was written, the next pass is for the next change. -/
def align (namespaceName : String) (deployment : ClusterDeployment) (site : ClusterInstance) :
    Pass (Except Failure Action) :=
  .clock fun time =>
    let found := site.currentStatus
    let (wanted, events) := projectReporting deployment found time.truncate
    let started :=
      if (found.condition? Provisioned.conditionType).isNone then
        [Event.summaryStarted site.name deployment.name namespaceName]
      else []
    reportAll (started ++ events)
      ((write site found wanted).andThen fun _ => .done (.ok .awaitChange))

def body (name namespaceName : String) : Pass (Except Failure Action) :=
  (ask (.getDeployment name namespaceName)).andThen fun
    | none => .report (.deploymentMissing name namespaceName) (.done (.ok .awaitChange))
    | some deployment =>
      (resolve deployment).andThen fun
        | none => .done (.ok .awaitChange)
        | some site => align namespaceName deployment site

/-- The pass that an object sets off. -/
def ofTrigger (trigger : ClusterDeployment) : Pass (Except Failure Action) :=
  match trigger.metadata.namespaceName with
  | none => .done (.error (.missingNamespace ClusterDeployment.kind trigger.name))
  | some namespaceName => .report .passStarted (body trigger.name namespaceName)

/-- A pass that has come as far as it can on its own. -/
inductive Halted (α : Type)
  | done (result : α)
  | waiting (request : Call) (next : Except Failure request.Result → Pass α)

/-- Runs to the next call or to the end, and collects what is reported. -/
def run (now : Timestamp) : Pass α → List Event × Halted α
  | .done result => ([], .done result)
  | .call request next => ([], .waiting request next)
  | .clock next => run now (next now)
  | .report event next =>
    let (events, halted) := run now next
    (event :: events, halted)

/-- A server that may answer anything. -/
abbrev Client := (request : Call) → Except Failure request.Result

/-- The calls of a pass in order, what it reports, and its result. -/
structure Trace (α : Type) where
  calls : List Call
  events : List Event
  result : α

/-- Runs a pass to its end against a client, the clock standing still. -/
def trace (client : Client) (now : Timestamp) : Pass α → Trace α
  | .done result => ⟨[], [], result⟩
  | .report event next =>
    let rest := trace client now next
    { rest with events := event :: rest.events }
  | .clock next => trace client now (next now)
  | .call request next =>
    let rest := trace client now (next (client request))
    { rest with calls := request :: rest.calls }

end Pass

end InstallStatus
