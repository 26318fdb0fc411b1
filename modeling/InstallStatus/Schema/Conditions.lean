import InstallStatus.Schema.Basic

/-!
The schemas of the two shapes of a condition.
-/

namespace InstallStatus.Schema

def plainText (description : String) : Schema := .text (.of description) none []

def optionalText (description : String) : Schema := .text (.orNull description) none []

def defaultText (description : String) : Schema :=
  .text (.defaulting description (.string "")) none []

def time (note : Note) : Schema := .text note (some "date-time") []

def status (description : String) : Schema :=
  .text (.of description) none ["True", "False", "Unknown"]

def condition : Schema :=
  .object
    (.of ("Kubernetes-style condition for status reporting\n\nUsed for the general-purpose " ++
      "`status.conditions` list of a ClusterInstance."))
    [("type", plainText "Type of condition (e.g., Provisioned)"),
      ("status", status "Status of the condition (True, False, Unknown)"),
      ("reason", defaultText "Machine-readable reason for the condition"),
      ("message", defaultText "Human-readable message"),
      ("observedGeneration",
        .integer (.orNull "Generation of the resource the condition was computed against")
          "int64"),
      ("lastTransitionTime", time (.of "Last time the condition transitioned"))]
    ["lastTransitionTime", "status", "type"]

def deploymentCondition : Schema :=
  .object
    (.of ("Installation condition as reported by a ClusterDeployment\n\nThe same shape is mirrored " ++
      "into `ClusterInstance.status.deploymentConditions`. Both timestamps are optional on the " ++
      "wire: the installer does not always stamp them, and the mirror stamps its own."))
    [("type", plainText "Type of condition (e.g., ClusterInstallCompleted)"),
      ("status", status "Status of the condition"),
      ("reason", plainText "Machine-readable reason for the condition"),
      ("message", plainText "Human-readable message"),
      ("lastProbeTime", time (.orNull "Last time the condition was observed")),
      ("lastTransitionTime", time (.orNull "Last time the condition status changed"))]
    ["status", "type"]

end InstallStatus.Schema
