import InstallStatus.Install.Type
import InstallStatus.Resource.ClusterDeployment

/-!
What the summary of an installation is computed from: whether the cluster counts as installed, and
three of the reported conditions. All three must have been reported.
-/

namespace InstallStatus

structure InstallSignals where
  installed : Bool
  stopped : Status
  completed : Status
  failed : Status
  deriving DecidableEq, Repr

namespace InstallSignals

/-- The types the signals are read from, in the order in which missing ones are listed. -/
def needed : List InstallType := [.stopped, .completed, .failed]

def statusOf? (reported : ConditionSet DeploymentCondition) (type : InstallType) : Option Status :=
  (reported.get? type.text).map DeploymentCondition.status

/-- The signals, or the types that have not been reported. -/
def ofConditions (installed : Bool) (reported : ConditionSet DeploymentCondition) :
    Except (List InstallType) InstallSignals :=
  match statusOf? reported .stopped, statusOf? reported .completed, statusOf? reported .failed with
  | some stopped, some completed, some failed => .ok ⟨installed, stopped, completed, failed⟩
  | _, _, _ => .error (needed.filter fun type => (statusOf? reported type).isNone)

def ofDeployment (deployment : ClusterDeployment) : Except (List InstallType) InstallSignals :=
  ofConditions deployment.isInstalled deployment.conditions

end InstallSignals

end InstallStatus
