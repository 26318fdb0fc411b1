import Mathlib
import InstallStatus.Proofs.Reprojection

/-!
The table behind the summary, as data: rows with blanks, read from the top. What a deployment is taken
to report is looked up in its list of conditions as it stands, where the first of a type counts. Main
statement: the summary that is selected is the one of the first row that fits.
-/

namespace InstallStatus

namespace ClusterDeployment

/-- The first condition of this type in the list that the deployment reports. -/
def firstReported? (deployment : ClusterDeployment) (type : String) : Option DeploymentCondition :=
  deployment.reported.find? fun c => c.type == type

theorem type_firstReported? {deployment : ClusterDeployment} {type : String} {c : DeploymentCondition}
    (found : deployment.firstReported? type = some c) : c.type = type := by
  have fits := List.find?_some found
  exact eq_of_beq fits

/-- The signals are looked up in the set that is made of the list, where the first of a type counts as
well. -/
theorem get?_conditions (deployment : ClusterDeployment) (type : String) :
    deployment.conditions.get? type = deployment.firstReported? type :=
  ConditionSet.get?_ofList deployment.reported type

/-- The status of this type as reported; none when the type is not. -/
def reportedStatus? (deployment : ClusterDeployment) (type : InstallType) : Option Status :=
  (deployment.firstReported? type.text).map DeploymentCondition.status

theorem statusOf?_conditions (deployment : ClusterDeployment) (type : InstallType) :
    InstallSignals.statusOf? deployment.conditions type = deployment.reportedStatus? type := by
  rw [InstallSignals.statusOf?, get?_conditions, reportedStatus?]

end ClusterDeployment

namespace Provisioned

/-- A row of the table. A column that is none fits everything. -/
structure Row where
  installed : Option Bool
  stopped : Option Status
  completed : Option Status
  failed : Option Status
  state : Provisioned

def Row.fits (row : Row) (installed : Bool) (stopped completed failed : Status) : Bool :=
  row.installed.all (· = installed) && row.stopped.all (· = stopped) &&
    row.completed.all (· = completed) && row.failed.all (· = failed)

def table : List Row := [
  ⟨some true, some .holds, some .holds, none, .completed⟩,
  ⟨some true, some .fails, none, none, .staleConditions⟩,
  ⟨some true, none, some .fails, none, .staleConditions⟩,
  ⟨none, some .holds, none, some .holds, .failed⟩,
  ⟨none, some .fails, none, none, .inProgress⟩]

/-- The state in the first row that fits. -/
def tabulated? (installed : Bool) (stopped completed failed : Status) : Option Provisioned :=
  (table.find? fun row => row.fits installed stopped completed failed).map Row.state

/-- All combinations of signals are gone through; the table and the branches agree on each. -/
theorem ofSignals?_eq_tabulated? (signals : InstallSignals) :
    ofSignals? signals =
      tabulated? signals.installed signals.stopped signals.completed signals.failed := by
  obtain ⟨installed, stopped, completed, failed⟩ := signals
  cases installed <;> cases stopped <;> cases completed <;> cases failed <;> rfl

/-- The state that a deployment stands for: all three signals are reported and a row fits them. -/
def matched? (deployment : ClusterDeployment) : Option Provisioned := do
  let stopped ← deployment.reportedStatus? .stopped
  let completed ← deployment.reportedStatus? .completed
  let failed ← deployment.reportedStatus? .failed
  tabulated? deployment.spec.installed stopped completed failed

theorem selected?_eq_matched? (deployment : ClusterDeployment) :
    selected? deployment = matched? deployment := by
  unfold selected? matched? InstallSignals.ofDeployment InstallSignals.ofConditions
  simp only [ClusterDeployment.statusOf?_conditions]
  cases deployment.reportedStatus? .stopped with
  | none => rfl
  | some stopped =>
    cases deployment.reportedStatus? .completed with
    | none => rfl
    | some completed =>
      cases deployment.reportedStatus? .failed with
      | none => rfl
      | some failed => exact ofSignals?_eq_tabulated? _

/-- Only an installed cluster that has stopped and completed counts as provisioned. -/
theorem tabulated?_eq_completed {installed : Bool} {stopped completed failed : Status}
    (fits : tabulated? installed stopped completed failed = some .completed) :
    installed = true ∧ stopped = .holds ∧ completed = .holds := by
  cases installed <;> cases stopped <;> cases completed <;> cases failed <;>
    first | exact ⟨rfl, rfl, rfl⟩ | cases fits

/-- An installation counts as completed only when it is reported so and the flag says so too. -/
theorem matched?_eq_completed {deployment : ClusterDeployment}
    (matched : matched? deployment = some .completed) :
    deployment.spec.installed = true ∧ deployment.reportedStatus? .stopped = some .holds ∧
      deployment.reportedStatus? .completed = some .holds ∧
        ∃ failed, deployment.reportedStatus? .failed = some failed := by
  simp only [matched?, Option.bind_eq_bind, Option.bind_eq_some_iff] at matched
  obtain ⟨stopped, stoppedReported, completed, completedReported, failed, failedReported, fits⟩ := matched
  obtain ⟨installed, rfl, rfl⟩ := tabulated?_eq_completed fits
  exact ⟨installed, stoppedReported, completedReported, failed, failedReported⟩

end Provisioned

end InstallStatus
