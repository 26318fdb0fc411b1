import InstallStatus.Condition.Set
import InstallStatus.Resource.Metadata

/-!
Cluster deployments, as far as the state of an installation can be read from them.
-/

namespace InstallStatus

structure ClusterDeploymentSpec where
  clusterName : Option String
  installed : Bool
  deriving DecidableEq, Repr

namespace ClusterDeploymentSpec

def record : Record ClusterDeploymentSpec :=
  (Record.pure ClusterDeploymentSpec.mk)
    |>.field (.optional "clusterName" Decoder.string)
    |>.field (.defaulted "installed" Decoder.bool false)

def decode : Decoder ClusterDeploymentSpec := record.decode "ClusterDeploymentSpec"

def encode (spec : ClusterDeploymentSpec) : Json :=
  Json.ofFields? [
    Json.textField "clusterName" spec.clusterName,
    some ("installed", .bool spec.installed)]

end ClusterDeploymentSpec

structure ClusterDeploymentStatus where
  conditions : List DeploymentCondition
  deriving DecidableEq

/-- A list that is left out when it is empty. -/
def Json.listField {α : Type} (key : String) (encode : α → Json) (items : List α) :
    Option (String × Json) :=
  if items.isEmpty then none else some (key, .array (items.map encode))

namespace ClusterDeploymentStatus

def record : Record ClusterDeploymentStatus :=
  (Record.pure ClusterDeploymentStatus.mk)
    |>.field (.defaulted "conditions" (Decoder.list DeploymentCondition.decode) [])

def decode : Decoder ClusterDeploymentStatus := record.decode "ClusterDeploymentStatus"

def encode (status : ClusterDeploymentStatus) : Json :=
  Json.ofFields? [Json.listField "conditions" DeploymentCondition.encode status.conditions]

end ClusterDeploymentStatus

structure ClusterDeployment where
  metadata : Metadata
  spec : ClusterDeploymentSpec
  status : Option ClusterDeploymentStatus
  deriving DecidableEq

namespace ClusterDeployment

def kind : String := "ClusterDeployment"

def group : String := "hive.openshift.io"

def version : String := "v1"

def plural : String := "clusterdeployments"

def apiVersion : String := group ++ "/" ++ version

def name (d : ClusterDeployment) : String := d.metadata.displayName

def key (d : ClusterDeployment) : String := d.metadata.key

def isInstalled (d : ClusterDeployment) : Bool := d.spec.installed

/-- The conditions as reported; none when there is no status. -/
def reported (d : ClusterDeployment) : List DeploymentCondition :=
  (d.status.map ClusterDeploymentStatus.conditions).getD []

def conditions (d : ClusterDeployment) : ConditionSet DeploymentCondition :=
  ConditionSet.ofList d.reported

def record : Record ClusterDeployment :=
  (Record.pure ClusterDeployment.mk)
    |>.field (.required "metadata" Metadata.decode)
    |>.field (.required "spec" ClusterDeploymentSpec.decode)
    |>.field (.placed "status" ClusterDeploymentStatus.decode)

def decode : Decoder ClusterDeployment := record.decode kind

def encode (d : ClusterDeployment) : Json :=
  Json.ofFields? [
    some ("apiVersion", .string apiVersion),
    some ("kind", .string kind),
    some ("metadata", d.metadata.encode),
    some ("spec", d.spec.encode),
    d.status.map fun status => ("status", status.encode)]

end ClusterDeployment

end InstallStatus
