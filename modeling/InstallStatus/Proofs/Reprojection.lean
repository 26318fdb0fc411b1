import Mathlib
import InstallStatus.Projection
import InstallStatus.Proofs.ConditionLaws

/-!
A second pass over the same deployment. The summary and the reference stay as the first pass left
them, and of the copied conditions only the times of observation move.
-/

namespace InstallStatus

/-- The condition as observed at another time. -/
def DeploymentCondition.observedAt (now : Timestamp) (c : DeploymentCondition) : DeploymentCondition :=
  { c with lastProbeTime := some now }

/-- The texts of the types that are copied. -/
def InstallType.texts : List String := InstallType.all.map InstallType.text

/-- The status with the four copied conditions observed at another time. -/
def ClusterInstanceStatus.reprobed (now : Timestamp) (status : ClusterInstanceStatus) :
    ClusterInstanceStatus :=
  { status with
    deploymentConditions := status.deploymentConditions.map fun c =>
      if c.type ∈ InstallType.texts then c.observedAt now else c }

namespace InstallProgress

theorem type_observed (reported : ConditionSet DeploymentCondition) (type : InstallType) :
    Stamped.type (observed reported type) = type.text := by
  unfold observed
  cases found : reported.get? type.text with
  | none => rfl
  | some entry => exact (ConditionSet.get?_eq_some_iff.mp found).2

/-- Every entry of the type is the observed condition, its transition time apart. -/
def Shows (reported : ConditionSet DeploymentCondition) (time : Timestamp) (type : InstallType)
    (shown : ConditionSet DeploymentCondition) : Prop :=
  type.text ∈ types shown.toList ∧
    ∀ entry ∈ shown.toList, entry.type = type.text →
      ∃ changed, entry = Stamped.setTransitionTime changed (Stamped.observe time (observed reported type))

/-- An upsert shows its type as it was observed. -/
theorem shows_upsert (reported shown : ConditionSet DeploymentCondition) (time : Timestamp)
    (type : InstallType) : Shows reported time type (shown.upsert (observed reported type) time).2 := by
  have same := type_observed reported type
  refine ⟨?_, fun entry member also => ConditionSet.eq_of_mem_upsert member (also.trans same.symm)⟩
  rw [ConditionSet.mem_types_upsert]
  exact .inr same.symm

theorem Shows.upsert {reported shown : ConditionSet DeploymentCondition} {time : Timestamp}
    {type other : InstallType} (shows : Shows reported time type shown) (apart : type ≠ other) :
    Shows reported time type (shown.upsert (observed reported other) time).2 := by
  refine ⟨(ConditionSet.mem_types_upsert ..).mpr (.inl shows.1), fun entry member same => ?_⟩
  have differ : Stamped.type entry ≠ Stamped.type (observed reported other) := by
    intro also
    exact apart (InstallType.text_injective (same.symm.trans (also.trans (type_observed reported other))))
  exact shows.2 entry ((ConditionSet.mem_upsert_of_ne differ).mp member) same

theorem Shows.projectTypes {reported : ConditionSet DeploymentCondition} {time : Timestamp}
    {type : InstallType} {others : List InstallType} (apart : type ∉ others)
    {shown : ConditionSet DeploymentCondition} (shows : Shows reported time type shown) :
    Shows reported time type (projectTypes reported time others shown).shown := by
  induction others generalizing shown with
  | nil => exact shows
  | cons other rest ih =>
    simp only [List.mem_cons, not_or] at apart
    exact ih apart.2 (shows.upsert apart.1)

/-- Once all types have been gone through, each is shown as observed. No type comes twice, so none is
overwritten. -/
theorem shows_projectTypes (reported : ConditionSet DeploymentCondition) (time : Timestamp)
    {list : List InstallType} (nodup : list.Nodup) (shown : ConditionSet DeploymentCondition) :
    ∀ type ∈ list, Shows reported time type (projectTypes reported time list shown).shown := by
  induction list generalizing shown with
  | nil => exact fun _ member => nomatch member
  | cons first rest ih =>
    obtain ⟨apart, nodup⟩ := List.nodup_cons.mp nodup
    intro type member
    rcases List.mem_cons.mp member with here | later
    · subst here
      exact (shows_upsert reported shown time type).projectTypes apart
    · exact ih nodup (shown.upsert (observed reported first) time).2 type later

/-- Copied again, an entry that shows what is reported moves only its time of observation. -/
theorem upsert_shown {reported shown : ConditionSet DeploymentCondition} {earlier : Timestamp}
    {type : InstallType} (shows : Shows reported earlier type shown) (now : Timestamp) :
    (shown.upsert (observed reported type) now).2.toList =
      shown.toList.map fun entry => if entry.type = type.text then entry.observedAt now else entry := by
  have same := type_observed reported type
  have present : Stamped.type (observed reported type) ∈ types shown.toList := same ▸ shows.1
  have rewritten : ∀ entry ∈ shown.toList, Stamped.type entry = Stamped.type (observed reported type) →
      (replacing entry (Stamped.observe now (observed reported type)) now).2 = entry.observedAt now := by
    intro entry member also
    obtain ⟨changed, rfl⟩ := shows.2 entry member (also.trans same)
    exact congrArg Prod.snd (if_pos rfl)
  rw [ConditionSet.upsert_again present rewritten, same]
  rfl

/-- To go through the types again moves the times of observation and nothing else. -/
theorem projectTypes_shown {reported : ConditionSet DeploymentCondition} {earlier now : Timestamp}
    {list : List InstallType} (nodup : list.Nodup) {shown : ConditionSet DeploymentCondition}
    (shows : ∀ type ∈ list, Shows reported earlier type shown) :
    (projectTypes reported now list shown).shown.toList =
      shown.toList.map fun entry =>
        if entry.type ∈ list.map InstallType.text then entry.observedAt now else entry := by
  induction list generalizing shown with
  | nil => simp [projectTypes]
  | cons first rest ih =>
    obtain ⟨apart, nodup⟩ := List.nodup_cons.mp nodup
    have step := upsert_shown (shows first (List.mem_cons_self ..)) now
    have typesKept : types (shown.upsert (observed reported first) now).2.toList = types shown.toList := by
      rw [ConditionSet.types_upsert, type_observed, if_pos (shows first (List.mem_cons_self ..)).1]
    have later : ∀ type ∈ rest,
        Shows reported earlier type (shown.upsert (observed reported first) now).2 := by
      intro type member
      obtain ⟨present, forms⟩ := shows type (List.mem_cons_of_mem _ member)
      refine ⟨typesKept ▸ present, fun entry inNext same => forms entry ?_ same⟩
      refine (ConditionSet.mem_upsert_of_ne fun also => ?_).mp inNext
      have equal := same.symm.trans (also.trans (type_observed reported first))
      exact apart (InstallType.text_injective equal ▸ member)
    show (projectTypes reported now rest (shown.upsert (observed reported first) now).2).shown.toList = _
    rw [ih nodup later, step, List.map_map]
    refine List.map_congr_left fun entry _ => ?_
    simp only [Function.comp_apply, List.map_cons, List.mem_cons]
    by_cases here : entry.type = first.text
    · have none : ¬ first.text ∈ rest.map InstallType.text := by
        intro member
        obtain ⟨type, inRest, same⟩ := List.mem_map.mp member
        exact apart (InstallType.text_injective same ▸ inRest)
      simp only [here, if_true, true_or, DeploymentCondition.observedAt, none, if_false]
    · simp only [here, if_false, false_or]

end InstallProgress

namespace Provisioned

theorem contains_ensure (conditions : ConditionSet Condition) (now : Timestamp) :
    (ensure conditions now).2.contains conditionType = true := by
  unfold ensure
  split
  · assumption
  · exact ConditionSet.contains_iff.mpr ((ConditionSet.mem_types_upsert ..).mpr (.inr rfl))

theorem ensure_of_contains {conditions : ConditionSet Condition} (now : Timestamp)
    (present : conditions.contains conditionType = true) :
    ensure conditions now = (false, conditions) := if_pos present

/-- The summary that the signals of a deployment select, if they do. -/
def selected? (deployment : ClusterDeployment) : Option Provisioned :=
  (InstallSignals.ofDeployment deployment).toOption.bind ofSignals?

theorem update_eq (deployment : ClusterDeployment) (conditions : ConditionSet Condition)
    (now : Timestamp) :
    (update deployment conditions now).2 =
      match selected? deployment with
      | none => conditions
      | some state => (conditions.upsert (state.condition now) now).2 := by
  unfold update selected?
  cases InstallSignals.ofDeployment deployment with
  | error types => rfl
  | ok signals =>
    simp only [Except.toOption, Option.bind_some]
    cases ofSignals? signals with
    | none => rfl
    | some state => rfl

/-- The summary of a state replaces one of the same state by itself. -/
theorem upsert_condition_again (state : Provisioned) (conditions : ConditionSet Condition)
    (earlier now : Timestamp) :
    ((conditions.upsert (state.condition earlier) earlier).2.upsert (state.condition now) now).2 =
      (conditions.upsert (state.condition earlier) earlier).2 := by
  have present : Stamped.type (state.condition now) ∈
      types (conditions.upsert (state.condition earlier) earlier).2.toList :=
    (ConditionSet.mem_types_upsert ..).mpr (.inr rfl)
  have rewritten : ∀ entry ∈ (conditions.upsert (state.condition earlier) earlier).2.toList,
      Stamped.type entry = Stamped.type (state.condition now) →
      (replacing entry (Stamped.observe now (state.condition now)) now).2 = id entry := by
    intro entry member same
    obtain ⟨changed, rfl⟩ := ConditionSet.eq_of_mem_upsert member same
    exact congrArg Prod.snd (if_pos rfl)
  apply ConditionSet.ext_toList
  rw [ConditionSet.upsert_again present rewritten]
  simp only [id_eq, ite_self, List.map_id']

end Provisioned

namespace Projection

theorem summarize_eq (deployment : ClusterDeployment) (conditions : ConditionSet Condition)
    (now : Timestamp) :
    (summarize deployment conditions now).2 =
      match Provisioned.selected? deployment with
      | none => (Provisioned.ensure conditions now).2
      | some state => ((Provisioned.ensure conditions now).2.upsert (state.condition now) now).2 :=
  Provisioned.update_eq ..

theorem contains_summarize (deployment : ClusterDeployment) (conditions : ConditionSet Condition)
    (now : Timestamp) :
    (summarize deployment conditions now).2.contains Provisioned.conditionType = true := by
  rw [summarize_eq]
  split
  · exact Provisioned.contains_ensure conditions now
  · exact ConditionSet.contains_iff.mpr ((ConditionSet.mem_types_upsert ..).mpr (.inr rfl))

/-- A second summary of the same deployment changes nothing, whenever it is made. -/
theorem summarize_again (deployment : ClusterDeployment) (conditions : ConditionSet Condition)
    (earlier now : Timestamp) :
    (summarize deployment (summarize deployment conditions earlier).2 now).2 =
      (summarize deployment conditions earlier).2 := by
  have present := contains_summarize deployment conditions earlier
  rw [summarize_eq, Provisioned.ensure_of_contains now present, summarize_eq]
  cases Provisioned.selected? deployment with
  | none => rfl
  | some state => exact Provisioned.upsert_condition_again state _ earlier now

/-- General conditions of other types are no concern of the summary. -/
theorem mem_summarize_of_ne {deployment : ClusterDeployment} {conditions : ConditionSet Condition}
    {now : Timestamp} {entry : Condition} (differ : entry.type ≠ Provisioned.conditionType) :
    entry ∈ (summarize deployment conditions now).2.toList ↔ entry ∈ conditions.toList := by
  have ensured : entry ∈ (Provisioned.ensure conditions now).2.toList ↔ entry ∈ conditions.toList := by
    unfold Provisioned.ensure
    split
    · exact Iff.rfl
    · exact ConditionSet.mem_upsert_of_ne differ
  rw [summarize_eq]
  split
  · exact ensured
  · exact (ConditionSet.mem_upsert_of_ne differ).trans ensured

/-- The reference that a link to the deployment leaves. -/
def reference (deployment : ClusterDeployment) (found : Option LocalReference) : Option LocalReference :=
  match (found.map LocalReference.name).filter (· ≠ "") with
  | some _ => found
  | none => some ⟨deployment.name⟩

theorem linked_eq (deployment : ClusterDeployment) (status : ClusterInstanceStatus) :
    linked deployment status =
      { status with clusterDeploymentRef := reference deployment status.clusterDeploymentRef } := by
  unfold linked reference ClusterInstanceStatus.deploymentName?
  cases (status.clusterDeploymentRef.map LocalReference.name).filter (· ≠ "") with
  | none => rfl
  | some name => rfl

/-- The reference is settled by the first pass that finds none. -/
theorem reference_reference (deployment : ClusterDeployment) (found : Option LocalReference) :
    reference deployment (reference deployment found) = reference deployment found := by
  cases known : (found.map LocalReference.name).filter (· ≠ "") with
  | some name => simp only [reference, known]
  | none =>
    have linked : reference deployment found = some ⟨deployment.name⟩ := by simp only [reference, known]
    rw [linked, reference]
    split
    · rfl
    · rfl

theorem message_summaryEvent (deployment : ClusterDeployment) (update : Provisioned.Update) :
    (summaryEvent deployment update).message ∈ ["evaluated Provisioned condition",
      "install signals matched no rule, keeping Provisioned condition", "Failed to extract condition(s)"] := by
  cases update <;> simp [summaryEvent, Event.message]

end Projection

section Project

variable (deployment : ClusterDeployment) (status : ClusterInstanceStatus) (now : Timestamp)

/-- The three parts of a status are projected independently. The reference is the first of them. -/
theorem project_clusterDeploymentRef : (project deployment status now).clusterDeploymentRef =
    Projection.reference deployment status.clusterDeploymentRef := by
  show (Projection.linked deployment status).clusterDeploymentRef = _
  rw [Projection.linked_eq]

theorem project_deploymentConditions : (project deployment status now).deploymentConditions =
    (InstallProgress.project deployment.conditions
      (.ofList status.deploymentConditions) now).shown.toList := by
  show (InstallProgress.project deployment.conditions
    (.ofList (Projection.linked deployment status).deploymentConditions) now).shown.toList = _
  rw [Projection.linked_eq]

theorem project_conditions : (project deployment status now).conditions =
    (Projection.summarize deployment (.ofList status.conditions) now).2.toList := by
  show (Projection.summarize deployment
    (.ofList (Projection.linked deployment status).conditions) now).2.toList = _
  rw [Projection.linked_eq]

/-- What a pass reports: what became of the summary, then the copied conditions that have changed. -/
theorem events_projectReporting :
    let copied := InstallProgress.project deployment.conditions (.ofList status.deploymentConditions) now
    (projectReporting deployment status now).2 =
      Projection.summaryEvent deployment (Projection.summarize deployment (.ofList status.conditions) now).1 ::
        copied.moves.map Event.conditionMoved := by
  simp only [projectReporting, ClusterInstanceStatus.takeConditions,
    ClusterInstanceStatus.takeDeploymentConditions, Projection.linked_eq]

theorem nodup_all : InstallType.all.Nodup := by decide

/-- A second pass over the deployment moves the times of observation and nothing else. -/
theorem project_project (earlier : Timestamp) :
    project deployment (project deployment status earlier) now =
      (project deployment status earlier).reprobed now := by
  have linked : (project deployment (project deployment status earlier) now).clusterDeploymentRef =
      (project deployment status earlier).clusterDeploymentRef := by
    simp only [project_clusterDeploymentRef, Projection.reference_reference]
  have summarized : (project deployment (project deployment status earlier) now).conditions =
      (project deployment status earlier).conditions := by
    simp only [project_conditions, ConditionSet.ofList_toList, Projection.summarize_again]
  have shows := InstallProgress.shows_projectTypes deployment.conditions earlier nodup_all
    (.ofList status.deploymentConditions)
  have copied : (project deployment (project deployment status earlier) now).deploymentConditions =
      ((project deployment status earlier).reprobed now).deploymentConditions := by
    simp only [ClusterInstanceStatus.reprobed, project_deploymentConditions,
      ConditionSet.ofList_toList]
    exact InstallProgress.projectTypes_shown nodup_all shows
  generalize project deployment (project deployment status earlier) now = after at *
  cases after
  simp only [ClusterInstanceStatus.reprobed] at *
  simp only [linked, summarized, copied]

theorem reprobed_reprobed (earlier : Timestamp) :
    (status.reprobed earlier).reprobed now = status.reprobed now := by
  simp only [ClusterInstanceStatus.reprobed, List.map_map, ClusterInstanceStatus.mk.injEq, true_and,
    and_true]
  refine List.map_congr_left fun c _ => ?_
  by_cases copied : c.type ∈ InstallType.texts
  · simp only [Function.comp_apply, copied, if_true, DeploymentCondition.observedAt]
  · simp only [Function.comp_apply, copied, if_false]

/-- The entries that a pass copies carry its time already. -/
theorem reprobed_project :
    (project deployment status now).reprobed now = project deployment status now := by
  have shows := InstallProgress.shows_projectTypes deployment.conditions now nodup_all
    (.ofList status.deploymentConditions)
  have same : ∀ c ∈ (project deployment status now).deploymentConditions,
      (if c.type ∈ InstallType.texts then c.observedAt now else c) = c := by
    intro c member
    rw [project_deploymentConditions] at member
    split
    · rename_i copied
      obtain ⟨type, inAll, text⟩ := List.mem_map.mp copied
      obtain ⟨changed, rfl⟩ := (shows type inAll).2 c member text.symm
      rfl
    · rfl
  unfold ClusterInstanceStatus.reprobed
  rw [List.map_congr_left same, List.map_id']

/-- Passes over a status that a pass has left, however many, come to the last of them. -/
theorem project_reprobed (first earlier : Timestamp) :
    project deployment ((project deployment status first).reprobed earlier) now =
      (project deployment status first).reprobed now := by
  rw [← project_project, project_project, project_project, reprobed_reprobed]

/-- The times of observation are what a fingerprint leaves out, so to move them is to change nothing it
covers. -/
theorem unprobed_reprobed : (status.reprobed now).unprobed = status.unprobed := by
  simp only [ClusterInstanceStatus.unprobed, ClusterInstanceStatus.reprobed, List.map_map,
    ClusterInstanceStatus.mk.injEq, true_and, and_true]
  refine List.map_congr_left fun c _ => ?_
  simp only [Function.comp_apply]
  split
  · rfl
  · rfl

/-- A pass leaves every general condition of another type as it is. -/
theorem condition?_project {type : String} (differ : type ≠ Provisioned.conditionType) :
    (project deployment status now).condition? type = status.condition? type := by
  have after : (project deployment status now).condition? type =
      (Projection.summarize deployment (.ofList status.conditions) now).2.get? type := by
    unfold ClusterInstanceStatus.condition?
    rw [project_conditions]
    rfl
  have before : status.condition? type = (ConditionSet.ofList status.conditions).get? type :=
    (ConditionSet.get?_ofList status.conditions type).symm
  rw [after, before]
  refine Option.ext fun c => ?_
  rw [ConditionSet.get?_eq_some_iff, ConditionSet.get?_eq_some_iff]
  refine and_congr_left fun same => Projection.mem_summarize_of_ne ?_
  exact fun also => differ (same.symm.trans also)

end Project

end InstallStatus
