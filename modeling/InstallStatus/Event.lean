import InstallStatus.Install.Progress
import InstallStatus.Install.Provisioned
import InstallStatus.Failure

/-!
What the program reports about its work, and each report as a line of a log: a level, the part of the
program it comes from, a message and named values.
-/

namespace InstallStatus

inductive Level
  | error
  | warn
  | info
  | debug
  | trace
  deriving DecidableEq, Repr

namespace Level

def text : Level → String
  | .error => "ERROR"
  | .warn => "WARN"
  | .info => "INFO"
  | .debug => "DEBUG"
  | .trace => "TRACE"

def ofText? (s : String) : Option Level :=
  [Level.error, .warn, .info, .debug, .trace].find? fun level => level.text == s

/-- How much a level tells, from errors alone to everything. -/
def rank : Level → Nat
  | .error => 1
  | .warn => 2
  | .info => 3
  | .debug => 4
  | .trace => 5

end Level

inductive Event
  | passStarted
  | deploymentMissing (name namespaceName : String)
  | ownerMissing (deployment : String)
  | instanceMissing (name namespaceName : String)
  | summaryStarted (site deployment namespaceName : String)
  | summaryEvaluated (deployment : String) (state : Provisioned) (transition : Transition)
  | summaryKept (deployment : String)
  | signalsMissing (deployment : String) (types : List InstallType)
  | conditionMoved (move : InstallProgress.Move)
  | statusCurrent (site : String)
  | statusUpdated (site namespaceName : String)
  | passConflicted (key : String)
  | passFailed (key : String)
  | passFailedForGood (key : String)
  /-- A pass did not end well, or its deployment is not known. -/
  | passErrored
  | operatorStarted (version : String) (timeoutSeconds requeueSeconds : Nat)
  | controllerStarted
  deriving DecidableEq

structure LogLine where
  level : Level
  target : String
  message : String
  fields : List (String × Json)

/-- The line as a document; a line of a pass carries the key of its deployment. -/
def LogLine.encode (line : LogLine) (passKey : Option String) : Json :=
  Json.ofFields? [
    some ("level", .string line.level.text),
    some ("target", .string line.target),
    some ("fields", Json.ofFields (("message", .string line.message) :: line.fields)),
    passKey.map fun key =>
      ("span", Json.ofFields [("name", .string "reconcile"), ("cluster_deployment", .string key)])]

namespace Event

/-- How a transition is named in a log. -/
def transitionText : Transition → String
  | .added => "Added"
  | .changed old => "Changed \x7b from: " ++ old.text ++ " \x7d"
  | .unchanged => "Unchanged"

def level : Event → Level
  | .passStarted | .summaryEvaluated .. | .summaryKept .. | .conditionMoved .. | .statusCurrent .. =>
    .debug
  | .passConflicted .. | .passErrored => .warn
  | .passFailed .. | .passFailedForGood .. => .error
  | _ => .info

/-- The part of the program that reports. -/
def target : Event → String
  | .ownerMissing .. | .instanceMissing .. => "siteconfig_deployment::resolver"
  | .conditionMoved .. => "siteconfig_deployment::projector"
  | .passErrored | .controllerStarted => "siteconfig_operator::controller_runner"
  | .operatorStarted .. => "siteconfig_operator"
  | _ => "siteconfig_deployment::controller"

def message : Event → String
  | .passStarted => "reconciling cluster deployment"
  | .deploymentMissing .. => "ClusterDeployment not found"
  | .ownerMissing .. => "ClusterInstance owner-reference not found for ClusterDeployment"
  | .instanceMissing .. => "ClusterInstance not found"
  | .summaryStarted .. => "Initializing Provisioned condition"
  | .summaryEvaluated .. => "evaluated Provisioned condition"
  | .summaryKept .. => "install signals matched no rule, keeping Provisioned condition"
  | .signalsMissing .. => "Failed to extract condition(s)"
  | .conditionMoved .. => "deployment condition transitioned"
  | .statusCurrent .. => "ClusterInstance status up to date"
  | .statusUpdated .. => "updated ClusterInstance status"
  | .passConflicted .. => "status patch conflicted, retrying"
  | .passFailed .. => "reconciliation failed"
  | .passFailedForGood .. => "reconciliation failed with non-retryable error"
  | .passErrored => "ClusterDeployment reconciliation error"
  | .operatorStarted .. => "Starting siteconfig operator"
  | .controllerStarted => "- ClusterDeployment controller"

/-- The named values of a report, as far as they are the program's own. -/
def fields : Event → List (String × Json)
  | .passStarted => []
  | .deploymentMissing name ns => [("cluster_deployment", .string name), ("namespace", .string ns)]
  | .ownerMissing deployment => [("cluster_deployment", .string deployment)]
  | .instanceMissing name ns => [("cluster_instance", .string name), ("namespace", .string ns)]
  | .summaryStarted site deployment ns =>
    [("cluster_instance", .string site), ("cluster_deployment", .string deployment),
      ("namespace", .string ns)]
  | .summaryEvaluated deployment state transition =>
    [("cluster_deployment", .string deployment), ("state", .string state.reason),
      ("transition", .string (transitionText transition))]
  | .summaryKept deployment => [("cluster_deployment", .string deployment)]
  | .signalsMissing deployment types =>
    [("cluster_deployment", .string deployment),
      ("missing", .string (Text.quoteList (types.map InstallType.text)))]
  | .conditionMoved move =>
    [("condition", .string move.type.text), ("from", move.old.encode), ("to", move.new.encode)]
  | .statusCurrent site => [("cluster_instance", .string site)]
  | .statusUpdated site ns => [("cluster_instance", .string site), ("namespace", .string ns)]
  | .passConflicted key | .passFailed key | .passFailedForGood key =>
    [("cluster_deployment", .string key)]
  | .passErrored | .controllerStarted => []
  | .operatorStarted version timeout requeue =>
    [("version", .string version), ("reconcile_timeout_secs", .nat timeout),
      ("error_requeue_secs", .nat requeue)]

def line (event : Event) : LogLine :=
  ⟨event.level, event.target, event.message, event.fields⟩

/-- What is reported about a failed pass over the deployment of this key. -/
def ofFailure (failure : Failure) (key : String) : Event :=
  if !failure.isRetryable then .passFailedForGood key
  else if failure.isConflict then .passConflicted key
  else .passFailed key

end Event

end InstallStatus
