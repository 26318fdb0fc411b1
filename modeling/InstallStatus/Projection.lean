import InstallStatus.Event
import InstallStatus.Json.MergePatch
import InstallStatus.Resource.ClusterInstance

/-!
The status of a cluster instance that a cluster deployment calls for. It is computed from the status
found and one point in time, and the difference of the two is the patch to send.
-/

namespace InstallStatus

namespace Projection

/-- The status with a reference to the deployment, unless it refers to one already. -/
def linked (deployment : ClusterDeployment) (status : ClusterInstanceStatus) :
    ClusterInstanceStatus :=
  match status.deploymentName? with
  | some _ => status
  | none => { status with clusterDeploymentRef := some ⟨deployment.name⟩ }

/-- The general conditions with the summary brought up to date, and what became of the summary. -/
def summarize (deployment : ClusterDeployment) (conditions : ConditionSet Condition)
    (now : Timestamp) : Provisioned.Update × ConditionSet Condition :=
  Provisioned.update deployment (Provisioned.ensure conditions now).2 now

def summaryEvent (deployment : ClusterDeployment) : Provisioned.Update → Event
  | .set state transition => .summaryEvaluated deployment.name state transition
  | .noRuleMatched => .summaryKept deployment.name
  | .missing types => .signalsMissing deployment.name types

end Projection

/-- The status after one pass over the deployment, and what is reported on the way. -/
def projectReporting (deployment : ClusterDeployment) (found : ClusterInstanceStatus)
    (now : Timestamp) : ClusterInstanceStatus × List Event :=
  let linked := Projection.linked deployment found
  let (conditions, rest) := linked.takeConditions
  let (update, conditions) := Projection.summarize deployment conditions now
  let (shown, _) := rest.takeDeploymentConditions
  let copied := InstallProgress.project deployment.conditions shown now
  ({ linked with conditions := conditions.toList, deploymentConditions := copied.shown.toList },
    Projection.summaryEvent deployment update :: copied.moves.map Event.conditionMoved)

/-- The status after one pass over the deployment. -/
def project (deployment : ClusterDeployment) (found : ClusterInstanceStatus) (now : Timestamp) :
    ClusterInstanceStatus :=
  (projectReporting deployment found now).1

/-- The patch from one status to another, none when they are the same. -/
def ClusterInstanceStatus.patchTo (before after : ClusterInstanceStatus) :
    Except Json (Option Json) :=
  Json.patchBetween before.encode after.encode

/-- A document that cannot be patched, as a failure. -/
def Failure.ofUnpatchable (document : Json) : Failure :=
  .internal ("expected an object, got " ++ document.compact) "merge-patch"

end InstallStatus
