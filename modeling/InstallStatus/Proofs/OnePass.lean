import Mathlib
import InstallStatus.Proofs.DecisionTable

/-!
What one pass may touch. Both lists of a status are written as a whole, so what becomes of them is given
here as a whole too: the first entry of each type, in order, those that the pass answers for rewritten
where they stand, and those that were missing behind them.
-/

namespace InstallStatus

section Lists

variable {α : Type} [Stamped α]

/-- The entries that share their type with no earlier one, in order. -/
def firstPerType (entries : List α) : List α :=
  entries.eraseDupsBy fun a b => Stamped.type a == Stamped.type b

theorem firstOfEach_filter (type : String) (entries : List α) :
    firstOfEach (entries.filter fun entry => Stamped.type entry != type) =
      (firstOfEach entries).filter fun entry => Stamped.type entry != type := by
  induction entries with
  | nil => rfl
  | cons first rest ih =>
    by_cases same : Stamped.type first = type
    · simp only [firstOfEach, List.filter_cons, same, bne_self_eq_false, Bool.false_eq_true, if_false,
        List.filter_filter, Bool.and_self, ih]
    · simp only [firstOfEach, List.filter_cons, bne_iff_ne, ne_eq, same, not_false_eq_true, if_true, ih,
        List.filter_filter, Bool.and_comm]

/-- The list without later duplicates, in the words of the statement, is what taking it makes of it. -/
theorem firstOfEach_eq (entries : List α) : firstOfEach entries = firstPerType entries := by
  match entries with
  | [] => rfl
  | first :: rest =>
    have later := firstOfEach_eq (rest.filter fun entry => Stamped.type entry != Stamped.type first)
    rw [firstOfEach, ← firstOfEach_filter, later, firstPerType, firstPerType, List.eraseDupsBy_cons]
    congr 3
    funext entry
    exact Bool.eq_iff_iff.mpr (by simp)
termination_by entries.length
decreasing_by exact Nat.lt_succ_of_le (List.length_filter_le _ _)

theorem find?_firstPerType (entries : List α) (type : String) :
    (firstPerType entries).find? (fun entry => Stamped.type entry == type) =
      entries.find? fun entry => Stamped.type entry == type := by
  rw [← firstOfEach_eq, ConditionSet.find?_firstOfEach]

theorem mem_types_firstPerType {type : String} {entries : List α} :
    type ∈ types (firstPerType entries) ↔ type ∈ types entries := by
  have lookup : ∀ list : List α,
      (list.find? fun entry => Stamped.type entry == type).isSome = true ↔ type ∈ types list := by
    intro list
    rw [List.find?_isSome, mem_types]
    simp only [beq_iff_eq]
  rw [← lookup, ← lookup, find?_firstPerType]

theorem ConditionSet.toList_ofList (entries : List α) : (ofList entries).toList = firstPerType entries :=
  firstOfEach_eq entries

/-- Where each type stands once, the first entry of a type is the only one. -/
theorem filter_of_find? {entries : List α} (nodup : (types entries).Nodup) {type : String} {entry : α}
    (found : entries.find? (fun other => Stamped.type other == type) = some entry) :
    entries.filter (fun other => Stamped.type other == type) = [entry] := by
  obtain ⟨same, before, after, shape, earlier⟩ := List.find?_eq_some_iff_append.mp found
  rw [shape, types, List.map_append, List.map_cons, List.nodup_append, List.nodup_cons] at nodup
  obtain ⟨_, ⟨apart, _⟩, _⟩ := nodup
  have noneBefore : before.filter (fun other => Stamped.type other == type) = [] :=
    List.filter_eq_nil_iff.mpr fun other member => by simpa using earlier other member
  have noneAfter : after.filter (fun other => Stamped.type other == type) = [] := by
    refine List.filter_eq_nil_iff.mpr fun other member also => apart ?_
    rw [eq_of_beq same, ← eq_of_beq also]
    exact List.mem_map_of_mem member
  rw [shape, List.filter_append, List.filter_cons, if_pos same, noneBefore, noneAfter, List.nil_append]

theorem find?_of_mem {entries : List α} (nodup : (types entries).Nodup) {entry : α} (member : entry ∈ entries)
    {type : String} (same : Stamped.type entry = type) :
    entries.find? (fun other => Stamped.type other == type) = some entry :=
  have lookup : (ConditionSet.mk entries nodup).get? type = some entry :=
    ConditionSet.get?_eq_some_iff.mpr ⟨member, same⟩
  lookup

theorem mem_firstPerType_of_find? {entries : List α} {type : String} {entry : α}
    (found : entries.find? (fun other => Stamped.type other == type) = some entry) :
    entry ∈ firstPerType entries ∧ Stamped.type entry = type := by
  have fits := List.find?_some found
  rw [← find?_firstPerType] at found
  exact ⟨List.mem_of_find?_eq_some found, eq_of_beq fits⟩

theorem notMem_types_of_find? {entries : List α} {type : String}
    (none : entries.find? (fun other => Stamped.type other == type) = none) : type ∉ types entries := by
  intro present
  obtain ⟨entry, member, same⟩ := mem_types.mp present
  exact List.find?_eq_none.mp none entry member (beq_iff_eq.mpr same)

/-- What an upsert leaves, when it is known what it makes of an entry of its type. -/
theorem ConditionSet.toList_upsert_eq {set : ConditionSet α} {new : α} {now : Timestamp} {f : α → α}
    (rewritten : ∀ entry, Stamped.type entry = Stamped.type new →
      (replacing entry (Stamped.observe now new) now).2 = f entry) :
    (set.upsert new now).2.toList =
      (set.toList.map fun entry => if Stamped.type entry = Stamped.type new then f entry else entry) ++
      if Stamped.type new ∈ types set.toList then []
      else [Stamped.setTransitionTime now (Stamped.observe now new)] := by
  by_cases present : Stamped.type new ∈ types set.toList
  · rw [if_pos present, List.append_nil, upsert_again present fun entry _ => rewritten entry]
  · have absent : Stamped.type (Stamped.observe now new) ∉ types set.toList := by
      rwa [Stamped.type_observe]
    have kept : ∀ entry ∈ set.toList, ¬ Stamped.type entry = Stamped.type new :=
      fun entry member same => present (same ▸ List.mem_map_of_mem member)
    rw [if_neg present, toList_upsert, upsertInto_of_absent now absent,
      List.map_congr_left fun entry member => if_neg (kept entry member), List.map_id']

end Lists

namespace Provisioned

/-- The summary that a pass leaves where there was one. A state rewrites it but for the time of its last
change, which moves only with the status. -/
def renewed (state? : Option Provisioned) (now : Timestamp) (c : Condition) : Condition :=
  match state? with
  | none => c
  | some state => state.condition (if c.status = state.status then c.lastTransitionTime else now)

/-- The summary that a pass leaves where there was none. -/
def begun (state? : Option Provisioned) (now : Timestamp) : Condition :=
  match state? with
  | none => waiting now
  | some state => state.condition now

theorem type_renewed (state? : Option Provisioned) (now : Timestamp) {c : Condition}
    (summary : c.type = conditionType) : (renewed state? now c).type = conditionType := by
  cases state? with
  | none => exact summary
  | some state => rfl

theorem type_begun (state? : Option Provisioned) (now : Timestamp) :
    (begun state? now).type = conditionType := by
  cases state? with
  | none => rfl
  | some state => rfl

/-- What an upsert makes of the summary that is there is the renewal of it. -/
theorem replacing_condition (state : Provisioned) (now : Timestamp) (c : Condition) :
    (replacing c (state.condition now) now).2 = renewed (some state) now c := by
  unfold replacing
  by_cases same : c.status = state.status
  · rw [if_pos (show Stamped.status c = Stamped.status (state.condition now) from same)]
    exact congrArg state.condition (if_pos same).symm
  · rw [if_neg (show ¬ Stamped.status c = Stamped.status (state.condition now) from same)]
    exact congrArg state.condition (if_neg same).symm

/-- A summary that has only just begun changes at the same time once more, if at all. -/
theorem renewed_waiting (state : Provisioned) (now : Timestamp) :
    renewed (some state) now (waiting now) = state.condition now :=
  congrArg state.condition (ite_self now)

theorem toList_ensure (conditions : ConditionSet Condition) (now : Timestamp) :
    (ensure conditions now).2.toList =
      conditions.toList ++ if conditionType ∈ types conditions.toList then [] else [waiting now] := by
  by_cases present : conditionType ∈ types conditions.toList
  · rw [ensure_of_contains now (ConditionSet.contains_iff.mpr present), if_pos present, List.append_nil]
  · have absent : ¬ conditions.contains conditionType = true := present ∘ ConditionSet.contains_iff.mp
    rw [ensure, if_neg absent, if_neg present, ConditionSet.toList_upsert,
      upsertInto_of_absent now present]
    rfl

end Provisioned

open Provisioned (conditionType renewed begun matched?)

/-- Both steps on the general conditions taken together, with the list given as a whole. -/
theorem Projection.toList_summarize (deployment : ClusterDeployment) (conditions : ConditionSet Condition)
    (now : Timestamp) :
    (summarize deployment conditions now).2.toList =
      (conditions.toList.map fun c =>
        if c.type = conditionType then renewed (matched? deployment) now c else c) ++
      if conditionType ∈ types conditions.toList then [] else [begun (matched? deployment) now] := by
  rw [summarize_eq, Provisioned.selected?_eq_matched?]
  cases matched? deployment with
  | none =>
    simp only [renewed, begun, ite_self, List.map_id']
    exact Provisioned.toList_ensure conditions now
  | some state =>
    have present : Stamped.type (state.condition now) ∈ types (Provisioned.ensure conditions now).2.toList :=
      ConditionSet.contains_iff.mp (Provisioned.contains_ensure conditions now)
    have written := ConditionSet.upsert_again present fun c _ _ => Provisioned.replacing_condition state now c
    rw [Provisioned.toList_ensure, List.map_append] at written
    refine written.trans (congrArg _ ?_)
    split
    · rfl
    · exact congrArg (· :: []) (Provisioned.renewed_waiting state now)

/-- The condition of this type as it is copied: the first that is reported, or what stands for none. -/
def ClusterDeployment.reportedAs (deployment : ClusterDeployment) (type : String) : DeploymentCondition :=
  (deployment.firstReported? type).getD (.unreported type)

/-- A condition with both its times. -/
def DeploymentCondition.copied (c : DeploymentCondition) (now changed : Timestamp) : DeploymentCondition :=
  { c with lastProbeTime := some now, lastTransitionTime := some changed }

namespace InstallProgress

/-- What is copied of a type is the first report of it, or the entry that stands for none. -/
theorem observed_eq (deployment : ClusterDeployment) (type : InstallType) :
    observed deployment.conditions type = deployment.reportedAs type.text := by
  rw [observed, deployment.get?_conditions, ClusterDeployment.reportedAs]

theorem type_reportedAs (deployment : ClusterDeployment) (type : String) :
    (deployment.reportedAs type).type = type := by
  unfold ClusterDeployment.reportedAs
  cases found : deployment.firstReported? type with
  | none => rfl
  | some c => exact ClusterDeployment.type_firstReported? found

/-- The copy that a pass leaves where there was one. The time of its last change moves only with the
status. -/
def renewed (deployment : ClusterDeployment) (now : Timestamp) (c : DeploymentCondition) :
    DeploymentCondition :=
  (deployment.reportedAs c.type).copied now
    (if c.status = (deployment.reportedAs c.type).status then c.lastTransitionTime.getD now else now)

/-- The copy that a pass leaves where there was none. -/
def begun (deployment : ClusterDeployment) (now : Timestamp) (type : InstallType) : DeploymentCondition :=
  (deployment.reportedAs type.text).copied now now

theorem type_renewed (deployment : ClusterDeployment) (now : Timestamp) (c : DeploymentCondition) :
    (renewed deployment now c).type = c.type := type_reportedAs deployment c.type

theorem type_begun (deployment : ClusterDeployment) (now : Timestamp) (type : InstallType) :
    (begun deployment now type).type = type.text := type_reportedAs deployment type.text

/-- A copy of a type that is copied again. -/
theorem renewed_copied (deployment : ClusterDeployment) (now : Timestamp) {type : String}
    {c : DeploymentCondition} (ofType : c.type = type) (probed changed : Timestamp) :
    renewed deployment now (c.copied probed changed) =
      (deployment.reportedAs type).copied now
        (if c.status = (deployment.reportedAs type).status then changed else now) := by
  rw [← ofType]
  rfl

theorem replacing_reported (deployment : ClusterDeployment) (now : Timestamp) {type : InstallType}
    {c : DeploymentCondition} (here : c.type = type.text) :
    (replacing c (Stamped.observe now (deployment.reportedAs type.text)) now).2 =
      renewed deployment now c := by
  unfold replacing renewed
  rw [← here]
  generalize deployment.reportedAs c.type = report
  by_cases same : c.status = report.status
  · rw [if_pos same, if_pos (show Stamped.status c = Stamped.status (Stamped.observe now report) from same)]
    rfl
  · rw [if_neg same, if_neg (show ¬ Stamped.status c = Stamped.status (Stamped.observe now report) from same)]
    rfl

/-- One type, with the list given as a whole: the entry is renewed in its place or begun at the end. -/
theorem toList_upsert_reported (deployment : ClusterDeployment) (now : Timestamp) (type : InstallType)
    (shown : ConditionSet DeploymentCondition) :
    (shown.upsert (deployment.reportedAs type.text) now).2.toList =
      (shown.toList.map fun c => if c.type = type.text then renewed deployment now c else c) ++
      if type.text ∈ types shown.toList then [] else [begun deployment now type] := by
  have ofType : Stamped.type (deployment.reportedAs type.text) = type.text := type_reportedAs deployment _
  have step := @ConditionSet.toList_upsert_eq _ _ shown _ now (renewed deployment now)
    fun c same => replacing_reported deployment now (same.trans ofType)
  rw [ofType] at step
  exact step

/-- What copying these types leaves: copies where there were some, then those that were missing. -/
theorem toList_projectTypes (deployment : ClusterDeployment) (now : Timestamp) {list : List InstallType}
    (nodup : list.Nodup) (shown : ConditionSet DeploymentCondition) :
    (projectTypes deployment.conditions now list shown).shown.toList =
      (shown.toList.map fun c =>
        if c.type ∈ list.map InstallType.text then renewed deployment now c else c) ++
      (list.filter fun type => type.text ∉ types shown.toList).map (begun deployment now) := by
  induction list generalizing shown with
  | nil => simp [projectTypes]
  | cons first rest ih =>
    obtain ⟨apart, nodup⟩ := List.nodup_cons.mp nodup
    have others : first.text ∉ rest.map InstallType.text := by
      intro member
      obtain ⟨type, inRest, same⟩ := List.mem_map.mp member
      exact apart (InstallType.text_injective same ▸ inRest)
    have step := toList_upsert_reported deployment now first shown
    have ofType : Stamped.type (deployment.reportedAs first.text) = first.text := type_reportedAs deployment _
    have missing : (rest.filter fun type =>
          type.text ∉ types (shown.upsert (deployment.reportedAs first.text) now).2.toList) =
        rest.filter fun type => type.text ∉ types shown.toList := by
      refine List.filter_congr fun type inRest => ?_
      have differ : ¬ type.text = first.text := fun same => others (same ▸ List.mem_map_of_mem inRest)
      simp only [ConditionSet.mem_types_upsert, ofType, differ, or_false]
    have unfolded : (projectTypes deployment.conditions now (first :: rest) shown).shown =
        (projectTypes deployment.conditions now rest
          (shown.upsert (deployment.reportedAs first.text) now).2).shown := by
      simp only [projectTypes, observed_eq]
    rw [unfolded, ih nodup, missing, step, List.map_append, List.append_assoc, List.map_map]
    congr 1
    · refine List.map_congr_left fun c _ => ?_
      simp only [Function.comp_apply, List.map_cons, List.mem_cons]
      by_cases here : c.type = first.text
      · simp only [here, if_true, true_or, type_renewed, others, if_false]
      · simp only [here, if_false, false_or]
    · by_cases present : first.text ∈ types shown.toList
      · rw [if_pos present, List.filter_cons_of_neg (by simpa using present)]
        rfl
      · rw [if_neg present, List.filter_cons_of_pos (by simpa using present), List.map_cons, List.map_cons,
          if_neg (by rwa [type_begun])]
        rfl

end InstallProgress

section Project

theorem InstallType.mem_all (type : InstallType) : type ∈ InstallType.all := by
  cases type <;> decide

variable (deployment : ClusterDeployment) (found : ClusterInstanceStatus) (now : Timestamp)

/-- After a pass neither list has a type twice, whatever was in it before. -/
theorem nodup_conditions_project : (types (project deployment found now).conditions).Nodup := by
  rw [project_conditions]
  exact ConditionSet.nodup_types _

theorem nodup_deploymentConditions_project :
    (types (project deployment found now).deploymentConditions).Nodup := by
  rw [project_deploymentConditions]
  exact ConditionSet.nodup_types _

/-- The general conditions after a pass. -/
theorem conditions_project : (project deployment found now).conditions =
    ((firstPerType found.conditions).map fun c =>
      if c.type = conditionType then renewed (matched? deployment) now c else c) ++
    if conditionType ∈ types found.conditions then [] else [begun (matched? deployment) now] := by
  have written := Projection.toList_summarize deployment (.ofList found.conditions) now
  simp only [ConditionSet.toList_ofList, mem_types_firstPerType] at written
  rw [project_conditions, written]

/-- The copied conditions after a pass. -/
theorem deploymentConditions_project : (project deployment found now).deploymentConditions =
    ((firstPerType found.deploymentConditions).map fun c =>
      if c.type ∈ InstallType.texts then InstallProgress.renewed deployment now c else c) ++
    (InstallType.all.filter fun type => type.text ∉ types found.deploymentConditions).map
      (InstallProgress.begun deployment now) := by
  have written := InstallProgress.toList_projectTypes deployment now nodup_all
    (.ofList found.deploymentConditions)
  simp only [ConditionSet.toList_ofList, mem_types_firstPerType] at written
  rw [project_deploymentConditions, InstallProgress.project, written, InstallType.texts]

/-- The summary after a pass, as it follows from the one before. -/
theorem condition?_project_summary : (project deployment found now).condition? conditionType =
    some ((found.condition? conditionType).elim (begun (matched? deployment) now)
      (renewed (matched? deployment) now)) := by
  have nodup := nodup_conditions_project deployment found now
  have written := conditions_project deployment found now
  cases before : found.condition? conditionType with
  | none =>
    rw [if_neg (notMem_types_of_find? before)] at written
    refine find?_of_mem nodup ?_ (Provisioned.type_begun (matched? deployment) now)
    rw [written]
    exact List.mem_append_right _ (List.mem_singleton_self _)
  | some c =>
    obtain ⟨member, summary⟩ := mem_firstPerType_of_find? before
    refine find?_of_mem nodup ?_ (Provisioned.type_renewed (matched? deployment) now summary)
    rw [written]
    exact List.mem_append_left _ (List.mem_map.mpr ⟨c, member, if_pos summary⟩)

/-- A copy after a pass, as it follows from the one before. -/
theorem deploymentCondition?_project_copied (type : InstallType) :
    (project deployment found now).deploymentCondition? type.text =
      some ((found.deploymentCondition? type.text).elim (InstallProgress.begun deployment now type)
        (InstallProgress.renewed deployment now)) := by
  have nodup := nodup_deploymentConditions_project deployment found now
  have written := deploymentConditions_project deployment found now
  cases before : found.deploymentCondition? type.text with
  | none =>
    refine find?_of_mem nodup ?_ (InstallProgress.type_begun deployment now type)
    rw [written]
    refine List.mem_append_right _ (List.mem_map_of_mem (List.mem_filter.mpr ⟨InstallType.mem_all type, ?_⟩))
    simpa using notMem_types_of_find? before
  | some c =>
    obtain ⟨member, ofType⟩ := mem_firstPerType_of_find? before
    refine find?_of_mem nodup ?_ ((InstallProgress.type_renewed deployment now c).trans ofType)
    rw [written]
    refine List.mem_append_left _ (List.mem_map.mpr ⟨c, member, if_pos ?_⟩)
    exact List.mem_map.mpr ⟨type, InstallType.mem_all type, ofType.symm⟩

/-- What one pass touches. Of the general conditions it is the summary, which stays where it stands or
comes last; of the copied ones those that installations report. -/
theorem project_touches :
    let left := project deployment found now
    ((types left.conditions).Nodup ∧ (types left.deploymentConditions).Nodup) ∧
    left.conditions =
      ((firstPerType found.conditions).map fun c =>
        if c.type = conditionType then renewed (matched? deployment) now c else c) ++
      (if conditionType ∈ types found.conditions then [] else [begun (matched? deployment) now]) ∧
    (matched? deployment = none → conditionType ∈ types found.conditions →
      left.conditions = firstPerType found.conditions) ∧
    left.deploymentConditions =
      ((firstPerType found.deploymentConditions).map fun c =>
        if c.type ∈ InstallType.texts then InstallProgress.renewed deployment now c else c) ++
      ([.requirementsMet, .completed, .failed, .stopped].filter fun type : InstallType =>
        type.text ∉ types found.deploymentConditions).map (InstallProgress.begun deployment now) ∧
    left.clusterDeploymentRef =
      if found.deploymentName? = none then some ⟨deployment.name⟩ else found.clusterDeploymentRef := by
  refine ⟨⟨nodup_conditions_project .., nodup_deploymentConditions_project ..⟩, conditions_project ..,
    fun unmatched present => ?_, deploymentConditions_project .., ?_⟩
  · rw [conditions_project, unmatched, if_pos present, List.append_nil]
    exact (List.map_congr_left fun c _ => ite_self c).trans (List.map_id' _)
  · rw [project_clusterDeploymentRef]
    unfold Projection.reference ClusterInstanceStatus.deploymentName?
    cases (found.clusterDeploymentRef.map LocalReference.name).filter (· ≠ "") with
    | none => rfl
    | some name => rfl

end Project

end InstallStatus
