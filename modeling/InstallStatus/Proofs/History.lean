import Mathlib
import InstallStatus.Proofs.OnePass

/-!
Passes over one status, one after the other, each over any deployment and at any time. Main statements:
what the summary and each copied condition show after any number of passes, and that the time of their
last change is that of the pass from which on their status has been the same.
-/

namespace InstallStatus

open Provisioned (conditionType begun renewed)

/-- The status at the start, and for each pass its deployment and its time. Times need not ascend. -/
structure History where
  start : ClusterInstanceStatus
  deployment : Nat → ClusterDeployment
  time : Nat → Timestamp

/-- The least number from which on the values have been the same. -/
def since {β : Type} [DecidableEq β] (values : Nat → β) : Nat → Nat
  | 0 => 0
  | n + 1 => if values n = values (n + 1) then since values n else n + 1

/-- The recursion goes back as far as the values stay the same, and no further. -/
theorem isLeast_since {β : Type} [DecidableEq β] (values : Nat → β) (n : Nat) :
    IsLeast {j | j ≤ n ∧ ∀ k, j ≤ k → k ≤ n → values k = values n} (since values n) := by
  induction n with
  | zero => exact ⟨⟨le_rfl, fun k _ last => Nat.le_zero.mp last ▸ rfl⟩, fun _ _ => Nat.zero_le _⟩
  | succ n ih =>
    obtain ⟨⟨bound, constant⟩, least⟩ := ih
    by_cases same : values n = values (n + 1)
    · rw [since, if_pos same]
      refine ⟨⟨bound.trans (Nat.le_succ n), fun k from_ last => ?_⟩, fun j ⟨inside, steady⟩ => ?_⟩
      · rcases Nat.le_succ_iff.mp last with earlier | here
        · exact (constant k from_ earlier).trans same
        · rw [here]
      · rcases Nat.le_succ_iff.mp inside with earlier | here
        · exact least ⟨earlier, fun k from_ last => (steady k from_ (last.trans (Nat.le_succ n))).trans same.symm⟩
        · exact here ▸ bound.trans (Nat.le_succ n)
    · rw [since, if_neg same]
      refine ⟨⟨le_rfl, fun k from_ last => le_antisymm last from_ ▸ rfl⟩, fun j ⟨inside, steady⟩ => ?_⟩
      rcases Nat.le_succ_iff.mp inside with earlier | here
      · exact absurd (steady n earlier (Nat.le_succ n)) same
      · exact here.ge

namespace Provisioned

/-- The status of the summary in a state; unknown where there has been none. -/
def shownStatus (state? : Option Provisioned) : Status := state?.elim .unknown status

def shownReason (state? : Option Provisioned) : String := state?.elim "Unknown" reason

def shownMessage (state? : Option Provisioned) : String :=
  state?.elim "Waiting for provisioning to start" message

theorem begun_eq (state? : Option Provisioned) (now : Timestamp) :
    begun state? now =
      ⟨conditionType, shownStatus state?, shownReason state?, shownMessage state?, none, now⟩ := by
  cases state? with
  | none => rfl
  | some state => rfl

theorem status_begun (state? : Option Provisioned) (now : Timestamp) :
    (begun state? now).status = shownStatus state? := by
  rw [begun_eq]

theorem eq_completed_of_shownStatus {state? : Option Provisioned} (holds : shownStatus state? = .holds) :
    state? = some .completed := by
  cases state? with
  | none => cases holds
  | some state => cases state <;> first | rfl | cases holds

/-- What a pass makes of a summary is a summary again, of the state that now counts. -/
theorem renewed_begun (matched? earlier? : Option Provisioned) (now changed : Timestamp) :
    renewed matched? now (begun earlier? changed) =
      begun (matched?.or earlier?)
        (if shownStatus earlier? = shownStatus (matched?.or earlier?) then changed else now) := by
  cases matched? with
  | none => rw [Option.none_or, if_pos rfl, renewed]
  | some state =>
    rw [Option.some_or, renewed, status_begun, begun_eq earlier?]
    rfl

end Provisioned

namespace History

/-- The status after so many passes. -/
def status (h : History) : Nat → ClusterInstanceStatus
  | 0 => h.start
  | n + 1 => project (h.deployment n) (h.status n) (h.time n)

/-- The state that the last matching pass up to this one stands for. -/
def matched? (h : History) : Nat → Option Provisioned
  | 0 => Provisioned.matched? (h.deployment 0)
  | n + 1 => (Provisioned.matched? (h.deployment (n + 1))).or (h.matched? n)

/-- The status of the summary that is called for up to this pass. -/
def effective (h : History) (n : Nat) : Status := Provisioned.shownStatus (h.matched? n)

/-- The condition of this type as a pass finds it reported. -/
def reported (h : History) (type : InstallType) (n : Nat) : DeploymentCondition :=
  (h.deployment n).reportedAs type.text

/-- An installation that fails. Its stop goes unreported for a while, and its clock runs backwards. -/
def sampleReports : Nat → List DeploymentCondition
  | 0 => []
  | 1 => [.unstamped "ClusterInstallStopped" .fails "Running" "", .unstamped "ClusterInstallFailed" .fails "" "",
      .unstamped "ClusterInstallCompleted" .fails "" ""]
  | 2 => [.unstamped "ClusterInstallFailed" .fails "" "", .unstamped "ClusterInstallFailed" .holds "" ""]
  | _ => [.unstamped "ClusterInstallStopped" .holds "Ended" "", .unstamped "ClusterInstallFailed" .holds "Disk" "",
      .unstamped "ClusterInstallCompleted" .fails "" ""]

def sample : History where
  start := .empty
  deployment n :=
    ⟨⟨some "east", some "lab", none, none, none, none, none, none, none, none, none, none, none, none, none⟩,
      ⟨none, false⟩, some ⟨sampleReports n⟩⟩
  time n :=
    ⟨⟨2023, 11, 28, by decide, by decide, by decide⟩, 18, 45, 15 - n, 7, by decide, by decide, by omega, by decide⟩

variable (h : History)

/-- The state that is shown stems from the last deployment that matched a row. -/
theorem exists_of_matched? {n : Nat} {state : Provisioned} (matched : h.matched? n = some state) :
    ∃ m ≤ n, Provisioned.matched? (h.deployment m) = some state ∧
      ∀ k, m < k → k ≤ n → Provisioned.matched? (h.deployment k) = none := by
  induction n with
  | zero => exact ⟨0, le_rfl, matched, fun k above bound => absurd above bound.not_gt⟩
  | succ n ih =>
    rw [matched?] at matched
    cases now : Provisioned.matched? (h.deployment (n + 1)) with
    | some selected =>
      rw [now, Option.some_or] at matched
      exact ⟨n + 1, le_rfl, now.trans matched, fun k above bound => absurd above bound.not_gt⟩
    | none =>
      rw [now, Option.none_or] at matched
      obtain ⟨m, bound, selected, later⟩ := ih matched
      refine ⟨m, bound.trans (Nat.le_succ n), selected, fun k above last => ?_⟩
      rcases Nat.le_succ_iff.mp last with earlier | here
      · exact later k above earlier
      · rw [here, now]

/-- The summary after any number of passes. -/
theorem condition?_status (fresh : ∀ c ∈ h.start.conditions, c.type ≠ conditionType) (n : Nat) :
    (h.status (n + 1)).condition? conditionType =
      some (begun (h.matched? n) (h.time (since h.effective n))) := by
  induction n with
  | zero =>
    have absent : h.start.condition? conditionType = none :=
      List.find?_eq_none.mpr fun c member same => fresh c member (eq_of_beq same)
    rw [status, condition?_project_summary, status, absent]
    rfl
  | succ n ih =>
    rw [status, condition?_project_summary, ih, Option.elim_some, Provisioned.renewed_begun]
    congr 2
    rw [since]
    exact (apply_ite h.time _ _ _).symm

/-- A copied condition after any number of passes. -/
theorem deploymentCondition?_status {type : InstallType}
    (fresh : ∀ c ∈ h.start.deploymentConditions, c.type ≠ type.text) (n : Nat) :
    (h.status (n + 1)).deploymentCondition? type.text =
      some ((h.reported type n).copied (h.time n)
        (h.time (since (fun k => (h.reported type k).status) n))) := by
  induction n with
  | zero =>
    have absent : h.start.deploymentCondition? type.text = none :=
      List.find?_eq_none.mpr fun c member same => fresh c member (eq_of_beq same)
    rw [status, deploymentCondition?_project_copied, status, absent]
    rfl
  | succ n ih =>
    have ofType : (h.reported type n).type = type.text := InstallProgress.type_reportedAs _ _
    rw [status, deploymentCondition?_project_copied, ih, Option.elim_some,
      InstallProgress.renewed_copied _ _ ofType, since]
    refine congrArg some (congrArg _ ?_)
    exact (apply_ite h.time _ _ _).symm

/-- The summary after any number of passes, when there was none at first: there is one, it is that of the
last matching pass, and it last changed when the status that is called for did. It says that the
installation has come to its end only where the last matching pass found just that reported. -/
theorem summary_after (fresh : ∀ c ∈ h.start.conditions, c.type ≠ conditionType) (n : Nat) :
    (∃ j, IsLeast {j | j ≤ n ∧ ∀ k, j ≤ k → k ≤ n → h.effective k = h.effective n} j ∧
      (h.status (n + 1)).conditions.filter (fun c => c.type == conditionType) =
        [⟨conditionType, h.effective n, Provisioned.shownReason (h.matched? n),
          Provisioned.shownMessage (h.matched? n), none, h.time j⟩]) ∧
    ∀ c ∈ (h.status (n + 1)).conditions, c.type = conditionType → c.status = .holds →
      ∃ m ≤ n, (h.deployment m).spec.installed = true ∧
        (h.deployment m).reportedStatus? .stopped = some .holds ∧
        (h.deployment m).reportedStatus? .completed = some .holds ∧
        (∃ failed, (h.deployment m).reportedStatus? .failed = some failed) ∧
        ∀ k, m < k → k ≤ n → Provisioned.matched? (h.deployment k) = none := by
  have nodup : (types (h.status (n + 1)).conditions).Nodup := nodup_conditions_project ..
  have shown := h.condition?_status fresh n
  rw [Provisioned.begun_eq] at shown
  refine ⟨⟨_, isLeast_since h.effective n, filter_of_find? nodup shown⟩, fun c member summary holds => ?_⟩
  have same := Option.some.inj ((find?_of_mem nodup member summary).symm.trans shown)
  rw [same] at holds
  obtain ⟨m, bound, selected, later⟩ := h.exists_of_matched? (Provisioned.eq_completed_of_shownStatus holds)
  obtain ⟨installed, stopped, completed, failed⟩ := Provisioned.matched?_eq_completed selected
  exact ⟨m, bound, installed, stopped, completed, failed, later⟩

/-- The status is the same from the second pass on: in progress, then not known any better, then failed. -/
theorem summary_after_sample :
    (∀ c ∈ sample.start.conditions, c.type ≠ conditionType) ∧
      (sample.status 4).conditions.filter (fun c => c.type == conditionType) =
        [⟨conditionType, .fails, "Failed", "Provisioning failed", none, sample.time 1⟩] := by
  have fresh : ∀ c ∈ sample.start.conditions, c.type ≠ conditionType :=
    fun _ member => absurd member List.not_mem_nil
  obtain ⟨⟨j, least, shown⟩, _⟩ := sample.summary_after fresh 3
  have second : j = 1 := (least.unique (isLeast_since sample.effective 3)).trans (by decide +kernel)
  rw [second] at shown
  exact ⟨fresh, shown⟩

/-- A copied condition after any number of passes, when there was none of its type at first: there is
one, it shows what the last pass found reported, and it last changed when the reported status did. -/
theorem copy_after {type : InstallType} (fresh : ∀ c ∈ h.start.deploymentConditions, c.type ≠ type.text)
    (n : Nat) :
    ∃ j, IsLeast {j | j ≤ n ∧ ∀ k, j ≤ k → k ≤ n → (h.reported type k).status = (h.reported type n).status} j ∧
      (h.status (n + 1)).deploymentConditions.filter (fun c => c.type == type.text) =
        [{ h.reported type n with
            lastProbeTime := some (h.time n), lastTransitionTime := some (h.time j) }] :=
  have nodup : (types (h.status (n + 1)).deploymentConditions).Nodup :=
    nodup_deploymentConditions_project ..
  ⟨_, isLeast_since _ n, filter_of_find? nodup (h.deploymentCondition?_status fresh n)⟩

/-- The failure that is reported first counts, so it is new with the fourth pass. -/
theorem copy_after_sample :
    (∀ c ∈ sample.start.deploymentConditions, c.type ≠ InstallType.failed.text) ∧
      (sample.status 5).deploymentConditions.filter (fun c => c.type == InstallType.failed.text) =
        [⟨"ClusterInstallFailed", .holds, "Disk", "", some (sample.time 4), some (sample.time 3)⟩] := by
  have fresh : ∀ c ∈ sample.start.deploymentConditions, c.type ≠ InstallType.failed.text :=
    fun _ member => absurd member List.not_mem_nil
  obtain ⟨j, least, shown⟩ := sample.copy_after fresh 4
  have fourth : j = 3 :=
    (least.unique (isLeast_since (fun k => (sample.reported .failed k).status) 4)).trans (by decide +kernel)
  rw [fourth] at shown
  exact ⟨fresh, shown⟩

end History

end InstallStatus
