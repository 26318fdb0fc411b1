import Mathlib
import InstallStatus.Proofs.OnePass
import InstallStatus.Proofs.StatusPatch

/-!
What a second pass over the same deployment has to write. The status that the first pass has left is as
the deployment calls for, but for the times at which the four copied conditions were last observed. So
there is nothing to send if both passes read the same time, and otherwise the copied conditions are sent
and nothing else.
-/

namespace InstallStatus

/-- Sorted fields are told by what each key carries. -/
theorem Json.Fields.Ascending.ext {first second : Json.Fields} (firstAscending : first.Ascending)
    (secondAscending : second.Ascending) (same : ∀ key, first.get? key = second.get? key) :
    first = second := by
  have members : ∀ field, field ∈ first ↔ field ∈ second := by
    intro (key, value)
    rw [← get?_eq_some_iff firstAscending.nodup, ← get?_eq_some_iff secondAscending.nodup, same]
  have permuted : first.Perm second :=
    (List.perm_ext_iff_of_nodup (firstAscending.nodup.of_map _) (secondAscending.nodup.of_map _)).mpr members
  exact permuted.eq_of_pairwise (fun _ _ _ _ less more => absurd less more.asymm) firstAscending
    secondAscending

namespace ClusterInstanceStatus

/-- Between statuses that differ in their copied conditions alone, the patch carries these. -/
theorem patchTo_of_deploymentConditions {before after : ClusterInstanceStatus}
    (reference : before.clusterDeploymentRef = after.clusterDeploymentRef)
    (general : before.conditions = after.conditions)
    (differ : before.deploymentConditions ≠ after.deploymentConditions)
    (filled : after.deploymentConditions ≠ []) :
    before.patchTo after = .ok (some (.object [("deploymentConditions",
      .array (after.deploymentConditions.map DeploymentCondition.encode))])) := by
  have unequal : before ≠ after := fun same => differ (congrArg deploymentConditions same)
  have ofAfter : after.encode.fields.get? "deploymentConditions" =
      some (.array (after.deploymentConditions.map DeploymentCondition.encode)) := by
    simp [get?_encode, filled]
  have changed : before.encode.fields.get? "deploymentConditions" ≠
      after.encode.fields.get? "deploymentConditions" :=
    fun same => differ (field_eq_of_get?_eq (reads_encode before).2.1 (reads_encode after).2.1 same)
  have others : ∀ key, key ≠ "deploymentConditions" →
      before.encode.fields.get? key = after.encode.fields.get? key := by
    intro key other
    simp only [get?_encode, reference, general, other, false_and, if_false]
  have carried : patchFields before after = [("deploymentConditions",
      .array (after.deploymentConditions.map DeploymentCondition.encode))] := by
    refine (sorted_patchFields before after).1.ext (List.pairwise_singleton ..) fun key => ?_
    rw [get?_patchFields, Json.Fields.get?_cons]
    by_cases here : key = "deploymentConditions"
    · rw [here, if_neg changed, if_pos rfl, ofAfter, Option.getD_some]
    · rw [if_pos (others key here), if_neg here, Json.Fields.get?_nil]
  rw [patchTo_of_ne unequal, carried]

end ClusterInstanceStatus

section Project

variable (deployment : ClusterDeployment) (found : ClusterInstanceStatus)

/-- Each of the four types has a copy after a pass, observed by that pass. -/
theorem exists_copied_project (now : Timestamp) (type : InstallType) :
    ∃ c, (project deployment found now).deploymentCondition? type.text = some c ∧
      c.lastProbeTime = some now := by
  refine ⟨_, deploymentCondition?_project_copied .., ?_⟩
  cases found.deploymentCondition? type.text with
  | none => rfl
  | some c => rfl

theorem deploymentCondition?_reprobed (status : ClusterInstanceStatus) (now : Timestamp) (type : InstallType) :
    (status.reprobed now).deploymentCondition? type.text =
      (status.deploymentCondition? type.text).map (DeploymentCondition.observedAt now) := by
  have copied : type.text ∈ InstallType.texts := List.mem_map_of_mem (InstallType.mem_all type)
  have sameType : (fun c : DeploymentCondition => c.type == type.text) ∘
      (fun c => if c.type ∈ InstallType.texts then c.observedAt now else c) =
      fun c => c.type == type.text := by
    funext c
    simp only [Function.comp_apply]
    split <;> rfl
  unfold ClusterInstanceStatus.deploymentCondition? ClusterInstanceStatus.reprobed
  rw [List.find?_map, sameType]
  cases here : status.deploymentConditions.find? fun c => c.type == type.text with
  | none => rfl
  | some c =>
    have fits := List.find?_some here
    have ofType : c.type = type.text := eq_of_beq fits
    simp only [Option.map_some, ofType, copied, if_true]

/-- A pass over a status that a pass over the same deployment has left, whatever the two times. It leaves
every field as it was, but that the four copied conditions were last observed by it; and what is sent for
that is nothing if the times are the same, and the copied conditions alone if not. -/
theorem project_twice (first second : Timestamp) :
    let once := project deployment found first
    let twice := project deployment once second
    (twice.clusterDeploymentRef = once.clusterDeploymentRef ∧ twice.conditions = once.conditions ∧
      twice.deploymentConditions = once.deploymentConditions.map fun c =>
        if c.type ∈ [InstallType.requirementsMet.text, InstallType.completed.text,
          InstallType.failed.text, InstallType.stopped.text]
        then { c with lastProbeTime := some second } else c) ∧
    (∀ type : InstallType, ∃ c, once.deploymentCondition? type.text = some c ∧
      c.lastProbeTime = some first ∧
      twice.deploymentCondition? type.text = some { c with lastProbeTime := some second }) ∧
    once.patchTo twice = .ok (if first = second then none
      else some (.object [("deploymentConditions",
        .array (twice.deploymentConditions.map DeploymentCondition.encode))])) := by
  intro once twice
  have again : twice = once.reprobed second := project_project deployment found second first
  have copies : ∀ type : InstallType, ∃ c, once.deploymentCondition? type.text = some c ∧
      c.lastProbeTime = some first ∧
      twice.deploymentCondition? type.text = some { c with lastProbeTime := some second } := by
    intro type
    obtain ⟨c, copied, probed⟩ := exists_copied_project deployment found first type
    refine ⟨c, copied, probed, ?_⟩
    rw [again, deploymentCondition?_reprobed, copied]
    rfl
  refine ⟨⟨by rw [again]; rfl, by rw [again]; rfl, by rw [again]; rfl⟩, copies, ?_⟩
  by_cases sameTime : first = second
  · subst sameTime
    have unchanged : twice = once := again.trans (reprobed_project deployment found first)
    rw [if_pos rfl, unchanged, ClusterInstanceStatus.patchTo_self]
  · rw [if_neg sameTime]
    obtain ⟨c, before, probed, after⟩ := copies .requirementsMet
    refine ClusterInstanceStatus.patchTo_of_deploymentConditions (by rw [again]; rfl) (by rw [again]; rfl)
      (fun same => sameTime ?_) (fun empty => ?_)
    · unfold ClusterInstanceStatus.deploymentCondition? at before after
      rw [← same, before, Option.some.injEq] at after
      have times := congrArg DeploymentCondition.lastProbeTime after
      exact Option.some.inj (probed.symm.trans times)
    · unfold ClusterInstanceStatus.deploymentCondition? at after
      rw [empty] at after
      cases after

end Project

end InstallStatus
