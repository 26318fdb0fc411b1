import InstallStatus.Resource.ClusterInstance

/-!
The link between deployments and instances, in both directions. A deployment names its instance by an
owner reference; an instance names its deployment in its status.
-/

namespace InstallStatus

structure ObjectKey where
  namespaceName : String
  name : String
  deriving DecidableEq, Repr

namespace ClusterDeployment

/-- The name of the instance that owns the deployment. -/
def owner? (deployment : ClusterDeployment) : Option String :=
  deployment.metadata.ownerOfKind? ClusterInstance.kind

/-- Whether an instance owns the deployment. Others are left alone. -/
def isOwned (deployment : ClusterDeployment) : Bool := deployment.owner?.isSome

end ClusterDeployment

namespace ClusterInstance

/-- The deployment recorded in the status, in the namespace of the instance. -/
def deploymentKey? (site : ClusterInstance) : Option ObjectKey := do
  let status ← site.status
  let name ← status.deploymentName?
  let namespaceName ← site.metadata.namespaceName
  return ⟨namespaceName, name⟩

end ClusterInstance

end InstallStatus
