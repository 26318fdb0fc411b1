/-!
The four conditions that an installation reports, in the order in which they are copied.
-/

namespace InstallStatus

inductive InstallType
  | requirementsMet
  | completed
  | failed
  | stopped
  deriving DecidableEq, Repr

namespace InstallType

/-- The type of the condition on the wire. -/
def text : InstallType → String
  | .requirementsMet => "ClusterInstallRequirementsMet"
  | .completed => "ClusterInstallCompleted"
  | .failed => "ClusterInstallFailed"
  | .stopped => "ClusterInstallStopped"

def all : List InstallType := [.requirementsMet, .completed, .failed, .stopped]

theorem text_injective {a b : InstallType} (same : a.text = b.text) : a = b := by
  cases a <;> cases b <;> first | rfl | simp [text] at same

end InstallType

end InstallStatus
