import InstallStatus.Install.Signals

/-!
The summary of an installation as one condition, `Provisioned`. The signals select a state by a table
whose first matching row counts; where no row matches the condition stays as it is. An installed
cluster is never called provisioned while its conditions contradict that, and a failure counts only
once the installation has stopped.
-/

namespace InstallStatus

inductive Provisioned
  | completed
  | staleConditions
  | failed
  | inProgress
  deriving DecidableEq, Repr

namespace Provisioned

def conditionType : String := "Provisioned"

def status : Provisioned → Status
  | .completed => .holds
  | .staleConditions => .unknown
  | .failed => .fails
  | .inProgress => .fails

def reason : Provisioned → String
  | .completed => "Completed"
  | .staleConditions => "StaleConditions"
  | .failed => "Failed"
  | .inProgress => "InProgress"

def message : Provisioned → String
  | .completed => "Provisioning completed"
  | .staleConditions =>
    "ClusterDeployment Spec.Installed=true, but Status.Conditions are not updated"
  | .failed => "Provisioning failed"
  | .inProgress => "Provisioning cluster"

def condition (state : Provisioned) (now : Timestamp) : Condition :=
  .stamped now conditionType state.status state.reason state.message

/-- The summary condition before anything is known. -/
def waiting (now : Timestamp) : Condition :=
  .stamped now conditionType .unknown "Unknown" "Waiting for provisioning to start"

/-- The table. The columns are: installed, stopped, completed, failed. -/
def ofSignals? (signals : InstallSignals) : Option Provisioned :=
  match signals.installed, signals.stopped, signals.completed, signals.failed with
  | true, .holds, .holds, _ => some .completed
  | true, .fails, _, _ => some .staleConditions
  | true, _, .fails, _ => some .staleConditions
  | _, .holds, _, .holds => some .failed
  | _, .fails, _, _ => some .inProgress
  | _, _, _, _ => none

/-- Appends the waiting summary where there is none, and tells whether it did. -/
def ensure (conditions : ConditionSet Condition) (now : Timestamp) :
    Bool × ConditionSet Condition :=
  if conditions.contains conditionType then (false, conditions)
  else (true, (conditions.upsert (waiting now) now).2)

inductive Update
  | set (state : Provisioned) (transition : Transition)
  | noRuleMatched
  | missing (types : List InstallType)
  deriving DecidableEq, Repr

/-- Writes the state that the deployment's signals select, if they do. -/
def update (deployment : ClusterDeployment) (conditions : ConditionSet Condition)
    (now : Timestamp) : Update × ConditionSet Condition :=
  match InstallSignals.ofDeployment deployment with
  | .error types => (.missing types, conditions)
  | .ok signals =>
    match ofSignals? signals with
    | none => (.noRuleMatched, conditions)
    | some state =>
      let result := conditions.upsert (state.condition now) now
      (.set state result.1, result.2)

end Provisioned

end InstallStatus
