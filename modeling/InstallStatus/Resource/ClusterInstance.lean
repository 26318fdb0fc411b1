import InstallStatus.Resource.ClusterDeployment

/-!
Cluster instances, whose status takes up the progress of an installation: the deployment it belongs
to, a copy of the conditions reported there, and a list of general conditions.
-/

namespace InstallStatus

/-- A reference to an object of the same namespace. -/
structure LocalReference where
  name : String
  deriving DecidableEq, Repr

namespace LocalReference

def record : Record LocalReference :=
  (Record.pure LocalReference.mk) |>.field (.defaulted "name" Decoder.string "")

def decode : Decoder LocalReference := record.decode "LocalObjectReference"

def serialize (assemble : Json.Assembly) (reference : LocalReference) : Json :=
  assemble [some ("name", .string reference.name)]

def encode : LocalReference → Json := serialize Json.ofFields?

end LocalReference

structure ClusterInstanceSpec where
  clusterName : String
  baseDomain : Option String
  clusterImageSetNameRef : Option String
  deriving DecidableEq, Repr

namespace ClusterInstanceSpec

def record : Record ClusterInstanceSpec :=
  (Record.pure ClusterInstanceSpec.mk)
    |>.field (.defaulted "clusterName" Decoder.string "")
    |>.field (.optional "baseDomain" Decoder.string)
    |>.field (.optional "clusterImageSetNameRef" Decoder.string)

def decode : Decoder ClusterInstanceSpec := record.decode "ClusterInstanceSpec"

def encode (spec : ClusterInstanceSpec) : Json :=
  Json.ofFields? [
    some ("clusterName", .string spec.clusterName),
    Json.textField "baseDomain" spec.baseDomain,
    Json.textField "clusterImageSetNameRef" spec.clusterImageSetNameRef]

end ClusterInstanceSpec

structure ClusterInstanceStatus where
  clusterDeploymentRef : Option LocalReference
  deploymentConditions : List DeploymentCondition
  conditions : List Condition
  deriving DecidableEq

namespace ClusterInstanceStatus

def empty : ClusterInstanceStatus := ⟨none, [], []⟩

/-- The name of the deployment the status refers to; an empty name is none. -/
def deploymentName? (status : ClusterInstanceStatus) : Option String :=
  (status.clusterDeploymentRef.map LocalReference.name).filter (· ≠ "")

/-- The first general condition of this type. -/
def condition? (status : ClusterInstanceStatus) (type : String) : Option Condition :=
  status.conditions.find? fun c => c.type == type

def deploymentCondition? (status : ClusterInstanceStatus) (type : String) :
    Option DeploymentCondition :=
  status.deploymentConditions.find? fun c => c.type == type

/-- The general conditions by type, and the status without them. -/
def takeConditions (status : ClusterInstanceStatus) :
    ConditionSet Condition × ClusterInstanceStatus :=
  (ConditionSet.ofList status.conditions, { status with conditions := [] })

/-- The copied conditions by type, and the status without them. -/
def takeDeploymentConditions (status : ClusterInstanceStatus) :
    ConditionSet DeploymentCondition × ClusterInstanceStatus :=
  (ConditionSet.ofList status.deploymentConditions, { status with deploymentConditions := [] })

/-- The status without the times at which the copied conditions were last observed. -/
def unprobed (status : ClusterInstanceStatus) : ClusterInstanceStatus :=
  { status with
    deploymentConditions := status.deploymentConditions.map DeploymentCondition.unprobed }

def record : Record ClusterInstanceStatus :=
  (Record.pure ClusterInstanceStatus.mk)
    |>.field (.optional "clusterDeploymentRef" LocalReference.decode)
    |>.field (.defaulted "deploymentConditions" (Decoder.list DeploymentCondition.decode) [])
    |>.field (.defaulted "conditions" (Decoder.list Condition.decode) [])

def decode : Decoder ClusterInstanceStatus := record.decode "ClusterInstanceStatus"

def serialize (assemble : Json.Assembly) (status : ClusterInstanceStatus) : Json :=
  assemble [
    status.clusterDeploymentRef.map fun r => ("clusterDeploymentRef", r.serialize assemble),
    Json.listField "deploymentConditions" (DeploymentCondition.serialize assemble)
      status.deploymentConditions,
    Json.listField "conditions" (Condition.serialize assemble) status.conditions]

def encode : ClusterInstanceStatus → Json := serialize Json.ofFields?

end ClusterInstanceStatus

structure ClusterInstance where
  metadata : Metadata
  spec : ClusterInstanceSpec
  status : Option ClusterInstanceStatus
  deriving DecidableEq

namespace ClusterInstance

def kind : String := "ClusterInstance"

def group : String := "siteconfig.open-cluster-management.io"

def version : String := "v1alpha1"

def plural : String := "clusterinstances"

def apiVersion : String := group ++ "/" ++ version

def name (site : ClusterInstance) : String := site.metadata.displayName

def key (site : ClusterInstance) : String := site.metadata.key

/-- The status, empty when there is none yet. -/
def currentStatus (site : ClusterInstance) : ClusterInstanceStatus :=
  site.status.getD .empty

def record : Record ClusterInstance :=
  (Record.pure ClusterInstance.mk)
    |>.field (.required "metadata" Metadata.decode)
    |>.field (.required "spec" ClusterInstanceSpec.decode)
    |>.field (.placed "status" ClusterInstanceStatus.decode)

def decode : Decoder ClusterInstance := record.decode kind

def encode (site : ClusterInstance) : Json :=
  Json.ofFields? [
    some ("apiVersion", .string apiVersion),
    some ("kind", .string kind),
    some ("metadata", site.metadata.encode),
    some ("spec", site.spec.encode),
    site.status.map fun status => ("status", status.encode)]

end ClusterInstance

end InstallStatus
