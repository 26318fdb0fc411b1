import InstallStatus.Resource.ClusterInstance
import InstallStatus.Schema.Conditions

/-!
The definitions under which the two kinds of object are made known to a server.
-/

namespace InstallStatus

/-- A column in which a value is shown when objects are listed. -/
structure PrinterColumn where
  name : String
  type : String
  path : String

def PrinterColumn.encode (column : PrinterColumn) : Json :=
  Json.ofFields [("name", .string column.name), ("type", .string column.type),
    ("jsonPath", .string column.path)]

/-- The definition of a kind of object in one version. -/
structure ResourceDefinition where
  group : String
  version : String
  kind : String
  plural : String
  singular : String
  columns : List PrinterColumn
  spec : Schema
  status : Schema

namespace ResourceDefinition

def name (d : ResourceDefinition) : String := d.plural ++ "." ++ d.group

def apiVersion (d : ResourceDefinition) : String := d.group ++ "/" ++ d.version

def schema (d : ResourceDefinition) : Json :=
  Json.ofFields [
    ("title", .string d.kind),
    ("description", .string
      ("Auto-generated derived type for " ++ d.kind ++ "Spec via `CustomResource`")),
    ("type", .string "object"),
    ("properties", Json.ofFields [("spec", d.spec.encode), ("status", d.status.encode)]),
    ("required", .array [.string "spec"])]

def names (d : ResourceDefinition) : Json :=
  Json.ofFields [
    ("kind", .string d.kind),
    ("plural", .string d.plural),
    ("singular", .string d.singular),
    ("shortNames", .array []),
    ("categories", .array [])]

def versionEntry (d : ResourceDefinition) : Json :=
  Json.ofFields [
    ("name", .string d.version),
    ("served", .bool true),
    ("storage", .bool true),
    ("subresources", Json.ofFields [("status", Json.ofFields [])]),
    ("additionalPrinterColumns", .array (d.columns.map PrinterColumn.encode)),
    ("schema", Json.ofFields [("openAPIV3Schema", d.schema)])]

def encode (d : ResourceDefinition) : Json :=
  Json.ofFields [
    ("apiVersion", .string "apiextensions.k8s.io/v1"),
    ("kind", .string "CustomResourceDefinition"),
    ("metadata", Json.ofFields [("name", .string d.name)]),
    ("spec", Json.ofFields [
      ("group", .string d.group),
      ("scope", .string "Namespaced"),
      ("names", d.names),
      ("versions", .array [d.versionEntry])])]

end ResourceDefinition

def ClusterDeployment.definition : ResourceDefinition where
  group := group
  version := version
  kind := kind
  plural := plural
  singular := "clusterdeployment"
  columns := []
  spec := .object
    (.of "ClusterDeployment specification (fields relevant to status projection)")
    [("clusterName", Schema.optionalText "Name of the cluster"),
      ("installed",
        .boolean (.defaulting "Set by the installer once the cluster has been installed"
          (.bool false)))]
    []
  status := .object
    (.orNull "ClusterDeployment status")
    [("conditions", .list (.of "Conditions reported by the installer") Schema.deploymentCondition)]
    []

def ClusterInstance.definition : ResourceDefinition where
  group := group
  version := version
  kind := kind
  plural := plural
  singular := "clusterinstance"
  columns := [
    ⟨"ClusterName", "string", ".spec.clusterName"⟩,
    ⟨"Provisioned", "string", ".status.conditions[?(@.type==\"Provisioned\")].status"⟩,
    ⟨"Age", "date", ".metadata.creationTimestamp"⟩]
  spec := .object
    (.of "ClusterInstance specification (fields relevant to status projection)")
    [("clusterName", Schema.defaultText "Name of the cluster"),
      ("baseDomain", Schema.optionalText "Base DNS domain of the cluster"),
      ("clusterImageSetNameRef",
        Schema.optionalText "Name of the ClusterImageSet used to install the cluster")]
    []
  status := .object
    (.orNull "ClusterInstance status")
    [("clusterDeploymentRef",
        .object (.orNull "The ClusterDeployment provisioned for this instance")
          [("name", Schema.defaultText "Name of the referenced object")] []),
      ("deploymentConditions",
        .list (.of "Mirror of the ClusterDeployment install conditions") Schema.deploymentCondition),
      ("conditions", .list (.of "General-purpose conditions") Schema.condition)]
    []

end InstallStatus
