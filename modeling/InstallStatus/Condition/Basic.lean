import InstallStatus.Condition.Status
import InstallStatus.Json.Record

/-!
The two shapes of a condition: the general one, which always has the time of its last transition, and
the one about an installation, which may have that and the time of its last observation.
-/

namespace InstallStatus

structure Condition where
  type : String
  status : Status
  reason : String
  message : String
  observedGeneration : Option Int64
  lastTransitionTime : Timestamp
  deriving DecidableEq

namespace Condition

/-- A condition that changed just now. -/
def stamped (now : Timestamp) (type : String) (status : Status) (reason message : String) : Condition :=
  ⟨type, status, reason, message, none, now⟩

def record : Record Condition :=
  (Record.pure Condition.mk)
    |>.field (.required "type" Decoder.string)
    |>.field (.required "status" Status.decode)
    |>.field (.defaulted "reason" Decoder.string "")
    |>.field (.defaulted "message" Decoder.string "")
    |>.field (.optional "observedGeneration" Decoder.int64)
    |>.field (.required "lastTransitionTime" Decoder.timestamp)

def decode : Decoder Condition := record.decode "Condition"

def serialize (assemble : Json.Assembly) (c : Condition) : Json :=
  assemble [
    some ("type", .string c.type),
    some ("status", c.status.encode),
    some ("reason", .string c.reason),
    some ("message", .string c.message),
    c.observedGeneration.map fun n => ("observedGeneration", .int n.toInt),
    some ("lastTransitionTime", .string c.lastTransitionTime.text)]

def encode : Condition → Json := serialize Json.ofFields?

end Condition

structure DeploymentCondition where
  type : String
  status : Status
  reason : String
  message : String
  lastProbeTime : Option Timestamp
  lastTransitionTime : Option Timestamp
  deriving DecidableEq

namespace DeploymentCondition

def unstamped (type : String) (status : Status) (reason message : String) : DeploymentCondition :=
  ⟨type, status, reason, message, none, none⟩

/-- What stands for a condition that has not been reported. -/
def unreported (type : String) : DeploymentCondition :=
  unstamped type .unknown "Unknown" "Unknown"

def record : Record DeploymentCondition :=
  (Record.pure DeploymentCondition.mk)
    |>.field (.required "type" Decoder.string)
    |>.field (.required "status" Status.decode)
    |>.field (.defaulted "reason" Decoder.string "")
    |>.field (.defaulted "message" Decoder.string "")
    |>.field (.optional "lastProbeTime" Decoder.timestamp)
    |>.field (.optional "lastTransitionTime" Decoder.timestamp)

def decode : Decoder DeploymentCondition := record.decode "DeploymentCondition"

/-- A text that is left out when it is empty. -/
def textField (key text : String) : Option (String × Json) :=
  if text = "" then none else some (key, .string text)

def serialize (assemble : Json.Assembly) (c : DeploymentCondition) : Json :=
  assemble [
    some ("type", .string c.type),
    some ("status", c.status.encode),
    textField "reason" c.reason,
    textField "message" c.message,
    c.lastProbeTime.map fun t => ("lastProbeTime", .string t.text),
    c.lastTransitionTime.map fun t => ("lastTransitionTime", .string t.text)]

def encode : DeploymentCondition → Json := serialize Json.ofFields?

/-- The condition without the time of its last observation. -/
def unprobed (c : DeploymentCondition) : DeploymentCondition := { c with lastProbeTime := none }

end DeploymentCondition

end InstallStatus
