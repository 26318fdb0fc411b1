import InstallStatus.Install.Type
import InstallStatus.Condition.Set

/-!
The progress of an installation as an instance shows it: the four reported conditions, copied. A type
that has not been reported is unknown, and types outside the four are never copied. Each change is noted
as soon as its condition is copied, before the next one is.
-/

namespace InstallStatus.InstallProgress

/-- The reported condition of this type, or what stands for an unreported one. -/
def observed (reported : ConditionSet DeploymentCondition) (type : InstallType) :
    DeploymentCondition :=
  (reported.get? type.text).getD (.unreported type.text)

/-- A condition whose status is not the one it had. -/
structure Move where
  type : InstallType
  old : Status
  new : Status
  deriving DecidableEq, Repr

/-- The change that a transition tells of, with the status that is shown of the type by now. -/
def moved? (shown : ConditionSet DeploymentCondition) (type : InstallType) : Transition → Option Move
  | .changed old =>
    some ⟨type, old, ((shown.get? type.text).map DeploymentCondition.status).getD .unknown⟩
  | _ => none

/-- What copying conditions comes to. -/
structure Copying where
  /-- What happened to each of them. -/
  told : List (InstallType × Transition)
  /-- The changes, as they were noted on the way. -/
  moves : List Move
  shown : ConditionSet DeploymentCondition

/-- Copies the conditions of these types in order. -/
def projectTypes (reported : ConditionSet DeploymentCondition) (now : Timestamp) :
    List InstallType → ConditionSet DeploymentCondition → Copying
  | [], shown => ⟨[], [], shown⟩
  | type :: rest, shown =>
    let first := shown.upsert (observed reported type) now
    let later := projectTypes reported now rest first.2
    ⟨(type, first.1) :: later.told, (moved? first.2 type first.1).toList ++ later.moves, later.shown⟩

def project (reported shown : ConditionSet DeploymentCondition) (now : Timestamp) : Copying :=
  projectTypes reported now InstallType.all shown

end InstallStatus.InstallProgress
