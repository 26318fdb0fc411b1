import Mathlib
import InstallStatus.Projection
import InstallStatus.Proofs.UpsertRuns

/-!
What copying the four conditions tells, and what is logged of it. The copies are written one after the
other into the same set, but each touches its own type only. So what is told of a type is the difference
between what was shown before the first of them and what is reported; and the log, which is written between
the copies, names what is shown after the last.
-/

namespace InstallStatus

namespace Transition

/-- Whether the status has changed. -/
def isChange : Transition → Bool
  | .changed _ => true
  | _ => false

variable {old? : Option Status} {old new : Status}

theorem between_eq_added_iff : between old? new = .added ↔ old? = none := by
  cases old? with
  | none => exact ⟨fun _ => rfl, fun _ => rfl⟩
  | some found =>
    rw [between]
    split <;> simp

theorem between_eq_changed_iff : between old? new = .changed old ↔ old? = some old ∧ old ≠ new := by
  cases old? with
  | none => simp [between]
  | some found =>
    rw [between, Option.some.injEq]
    split
    · rename_i same
      simp only [reduceCtorEq, false_iff, not_and, not_not]
      exact fun also => also.symm.trans same
    · rename_i differ
      rw [changed.injEq]
      exact ⟨fun also => ⟨also, also ▸ differ⟩, And.left⟩

theorem between_eq_unchanged_iff : between old? new = .unchanged ↔ old? = some new := by
  cases old? with
  | none => simp [between]
  | some found =>
    rw [between, Option.some.injEq]
    split <;> simp_all

end Transition

namespace InstallProgress

/-- The status that is reported for a type; unknown where none is. -/
def reportedStatus (reported : ConditionSet DeploymentCondition) (type : InstallType) : Status :=
  (reported.get? type.text).elim .unknown DeploymentCondition.status

/-- What is told of a type, and the time of its last change, from what was and is shown of it and the status
that is reported. -/
structure Tells (before? after? : Option DeploymentCondition) (reported : Status) (now : Timestamp)
    (told : Transition) : Prop where
  added_iff : told = .added ↔ before? = none
  changed_iff : ∀ old, told = .changed old ↔ before?.map DeploymentCondition.status = some old ∧ old ≠ reported
  unchanged_iff : told = .unchanged ↔ before?.map DeploymentCondition.status = some reported
  shown : ∃ c, after? = some c ∧ c.status = reported ∧ c.lastTransitionTime =
    some (if told = .unchanged then (before?.bind DeploymentCondition.lastTransitionTime).getD now else now)

/-- A line that logs a change: the status before it, and the one that is shown now. -/
def Logs (shown : ConditionSet DeploymentCondition) (pair : InstallType × Transition) (line : LogLine) : Prop :=
  ∃ old c, pair.2 = .changed old ∧ shown.get? pair.1.text = some c ∧
    line = ⟨.debug, "siteconfig_deployment::projector", "deployment condition transitioned",
      [("condition", .string pair.1.text), ("from", .string old.text), ("to", .string c.status.text)]⟩

theorem tells_between (before? : Option DeploymentCondition) {c : DeploymentCondition} (now : Timestamp) :
    Tells before? (some (c.copied now (changedAt before? c now))) c.status now
      (.between (before?.map DeploymentCondition.status) c.status) where
  added_iff := Transition.between_eq_added_iff.trans Option.map_eq_none_iff
  changed_iff _ := Transition.between_eq_changed_iff
  unchanged_iff := Transition.between_eq_unchanged_iff
  shown := ⟨_, rfl, rfl, rfl⟩

variable (reported shown : ConditionSet DeploymentCondition) (now : Timestamp)

theorem status_observed (type : InstallType) :
    (observed reported type).status = reportedStatus reported type := by
  unfold observed reportedStatus
  cases reported.get? type.text with
  | none => rfl
  | some c => rfl

/-- What is told of a type when it is copied into a set. -/
def toldOf (type : InstallType) : Transition :=
  .between ((shown.get? type.text).map DeploymentCondition.status) (reportedStatus reported type)

/-- What is shown of a type when it has been copied into a set. -/
def shownOf (type : InstallType) : DeploymentCondition :=
  (observed reported type).copied now (changedAt (shown.get? type.text) (observed reported type) now)

/-- What one upsert tells and what it leaves of its type, by the set before it. -/
theorem upsert_observed (type : InstallType) :
    (shown.upsert (observed reported type) now).1 = toldOf reported shown type ∧
      (shown.upsert (observed reported type) now).2.get? type.text = some (shownOf reported shown now type) := by
  have result := shown.upsert_eq (observed reported type) now
  rw [type_observed] at result
  rwa [toldOf, ← status_observed]

/-- An upsert leaves what is shown of all other types, so that the order of the upserts does not matter to
what they tell. -/
theorem get?_upsert_observed {type other : InstallType} (apart : type ≠ other) :
    (shown.upsert (observed reported type) now).2.get? other.text = shown.get? other.text := by
  refine shown.get?_upsert_of_ne _ now fun same => apart (InstallType.text_injective ?_)
  exact (type_observed reported type).symm.trans same

/-- Copying other types leaves what is shown of a type. -/
theorem get?_projectTypes_of_notMem {type : InstallType} {list : List InstallType} (apart : type ∉ list) :
    (projectTypes reported now list shown).shown.get? type.text = shown.get? type.text := by
  induction list generalizing shown with
  | nil => rfl
  | cons first rest ih =>
    simp only [List.mem_cons, not_or] at apart
    exact (ih _ apart.2).trans (get?_upsert_observed reported shown now (Ne.symm apart.1))

/-- Each of the types is copied as if it were the only one. -/
theorem projectTypes_eq {list : List InstallType} (nodup : list.Nodup) :
    (projectTypes reported now list shown).told = list.map (fun type => (type, toldOf reported shown type)) ∧
      ∀ type ∈ list,
        (projectTypes reported now list shown).shown.get? type.text = some (shownOf reported shown now type) := by
  induction list generalizing shown with
  | nil => exact ⟨rfl, fun _ member => nomatch member⟩
  | cons first rest ih =>
    obtain ⟨apart, nodup⟩ := List.nodup_cons.mp nodup
    obtain ⟨toldFirst, shownFirst⟩ := upsert_observed reported shown now first
    obtain ⟨toldRest, shownRest⟩ := ih (shown.upsert (observed reported first) now).2 nodup
    have untouched : ∀ type ∈ rest,
        (shown.upsert (observed reported first) now).2.get? type.text = shown.get? type.text :=
      fun type member => get?_upsert_observed reported shown now fun same => apart (same ▸ member)
    refine ⟨?_, fun type member => ?_⟩
    · rw [projectTypes, List.map_cons, toldFirst, toldRest]
      refine congrArg _ (List.map_congr_left fun type member => ?_)
      rw [toldOf, toldOf, untouched type member]
    · rcases List.mem_cons.mp member with here | later
      · subst here
        exact (get?_projectTypes_of_notMem reported _ now apart).trans shownFirst
      · refine (shownRest type later).trans ?_
        rw [shownOf, shownOf, untouched type later]

/-- What is noted of a type depends on its own entry in the set and on nothing else. -/
theorem moved?_congr {first later : ConditionSet DeploymentCondition} {type : InstallType}
    (same : first.get? type.text = later.get? type.text) (transition : Transition) :
    moved? first type transition = moved? later type transition := by
  unfold moved?
  rw [same]

/-- A change is noted before the other types are copied, and names what is shown after the last of them. -/
theorem moves_projectTypes {list : List InstallType} (nodup : list.Nodup) :
    (projectTypes reported now list shown).moves =
      (projectTypes reported now list shown).told.filterMap fun pair =>
        moved? (projectTypes reported now list shown).shown pair.1 pair.2 := by
  induction list generalizing shown with
  | nil => rfl
  | cons first rest ih =>
    obtain ⟨apart, nodup⟩ := List.nodup_cons.mp nodup
    have kept := get?_projectTypes_of_notMem reported (shown.upsert (observed reported first) now).2 now apart
    have later := ih (shown.upsert (observed reported first) now).2 nodup
    rw [projectTypes, later, moved?_congr kept.symm, List.filterMap_cons]
    cases moved? _ first (shown.upsert (observed reported first) now).1 with
    | none => rfl
    | some move => rfl

/-- What is logged when the four conditions are copied into a set. -/
def logged : List LogLine :=
  (project reported shown now).moves.map fun move => (Event.conditionMoved move).line

/-- The changes among what is told are logged, each in its turn. -/
theorem logs_moves {told : List (InstallType × Transition)} {left : ConditionSet DeploymentCondition}
    (all : ∀ pair ∈ told, ∃ c, left.get? pair.1.text = some c) :
    List.Forall₂ (Logs left) (told.filter fun pair => pair.2.isChange)
      ((told.filterMap fun pair => moved? left pair.1 pair.2).map fun move =>
        (Event.conditionMoved move).line) := by
  induction told with
  | nil => exact .nil
  | cons pair rest ih =>
    obtain ⟨⟨c, found⟩, later⟩ := List.forall_mem_cons.mp all
    obtain ⟨type, transition⟩ := pair
    cases transition with
    | changed old =>
      refine .cons ⟨old, c, rfl, found, ?_⟩ (ih later)
      rw [found]
      rfl
    | added => exact ih later
    | unchanged => exact ih later

/-- Of what a pass reports, the lines about changed conditions are those that copying logs. -/
theorem lines_projectReporting (deployment : ClusterDeployment) (found : ClusterInstanceStatus) :
    ((projectReporting deployment found now).2.map Event.line).filter
        (fun line => line.message == "deployment condition transitioned") =
      logged deployment.conditions (.ofList found.deploymentConditions) now := by
  rw [events_projectReporting, List.map_cons, List.filter_cons_of_neg, List.map_map]
  · exact List.filter_eq_self.mpr fun line member => by
      obtain ⟨move, _, rfl⟩ := List.mem_map.mp member
      rfl
  · intro about
    have summary := Projection.message_summaryEvent deployment
      (Projection.summarize deployment (.ofList found.conditions) now).1
    rw [show Event.message _ = _ from eq_of_beq about] at summary
    exact absurd summary (by decide)

/-- Each of the four types is told of once, in their order, and what is told of it is what copying makes of the
condition that was shown before any of them was copied. Each change is logged by one line, which names the status
before and the one that is shown at the end; and a pass logs these lines about changes and no others. -/
theorem project_tells (reported shown : ConditionSet DeploymentCondition) (now : Timestamp) :
    let told := (project reported shown now).told
    let left := (project reported shown now).shown
    (∃ toldOf : InstallType → Transition,
      told = [.requirementsMet, .completed, .failed, .stopped].map (fun type => (type, toldOf type)) ∧
      ∀ type, Tells (shown.get? type.text) (left.get? type.text) (reportedStatus reported type) now (toldOf type)) ∧
    ((logged reported shown now).length = (told.filter fun pair => pair.2.isChange).length ∧
      List.Forall₂ (Logs left) (told.filter fun pair => pair.2.isChange) (logged reported shown now)) ∧
    ∀ (deployment : ClusterDeployment) (found : ClusterInstanceStatus),
      ((projectReporting deployment found now).2.map Event.line).filter
          (fun line => line.message == "deployment condition transitioned") =
        logged deployment.conditions (.ofList found.deploymentConditions) now := by
  intro told left
  obtain ⟨eachTold, eachShown⟩ := projectTypes_eq reported shown now nodup_all
  have lines : List.Forall₂ (Logs left) (told.filter fun pair => pair.2.isChange) (logged reported shown now) := by
    have noted : (project reported shown now).moves = told.filterMap fun pair => moved? left pair.1 pair.2 :=
      moves_projectTypes reported shown now nodup_all
    rw [logged, noted]
    exact logs_moves fun pair _ => ⟨_, eachShown pair.1 (InstallType.mem_all pair.1)⟩
  refine ⟨⟨toldOf reported shown, eachTold, fun type => ?_⟩, ⟨lines.length_eq.symm, lines⟩,
    lines_projectReporting now⟩
  have tells := tells_between (shown.get? type.text) (c := observed reported type) now
  rwa [status_observed, ← shownOf, ← eachShown type (InstallType.mem_all type), ← toldOf] at tells

/-- A report that is gone counts as unknown. -/
example (now : Timestamp) :
    (project .empty (.ofList [.unstamped "ClusterInstallStopped" .fails "" ""]) now).told =
      [(.requirementsMet, .added), (.completed, .added), (.failed, .added), (.stopped, .changed .fails)] := rfl

end InstallProgress

end InstallStatus
