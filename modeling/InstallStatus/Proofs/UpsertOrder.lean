import Mathlib
import InstallStatus.Proofs.UpsertRuns

/-!
The order of upserts. Sets are the same when their lists are permutations of each other, and nothing that a
set tells or does sets the one apart from the other. Upserts of different types leave the same set in either
order, and tell the same; the order shows in the list alone, and only where both types were new to it.
-/

namespace InstallStatus

section Step

variable {α : Type} [Stamped α]

/-- What an upsert makes of an entry: its record with the time of the last change, if the types are the same. -/
def overwrite (new : α) (now : Timestamp) (entry : α) : α :=
  if Stamped.type entry = Stamped.type new then
    Stamped.setTransitionTime (changedAt (some entry) new now) (Stamped.observe now new)
  else entry

/-- What an upsert appends to a list that has no entry of its type. -/
def firstEntry (new : α) (now : Timestamp) : α := Stamped.setTransitionTime now (Stamped.observe now new)

theorem type_firstEntry (new : α) (now : Timestamp) : Stamped.type (firstEntry new now) = Stamped.type new := by
  rw [firstEntry, Stamped.type_setTransitionTime, Stamped.type_observe]

theorem overwrite_of_ne {new entry : α} (now : Timestamp) (differ : Stamped.type entry ≠ Stamped.type new) :
    overwrite new now entry = entry := if_neg differ

theorem type_overwrite (new : α) (now : Timestamp) (entry : α) :
    Stamped.type (overwrite new now entry) = Stamped.type entry := by
  unfold overwrite
  split
  · rename_i same
    rw [Stamped.type_setTransitionTime, Stamped.type_observe, same]
  · rfl

/-- Entries of different types are rewritten without regard to one another. -/
theorem overwrite_overwrite {first second : α} (apart : Stamped.type first ≠ Stamped.type second)
    (s t : Timestamp) (entry : α) :
    overwrite second t (overwrite first s entry) = overwrite first s (overwrite second t entry) := by
  by_cases same : Stamped.type entry = Stamped.type first
  · have untouched : Stamped.type entry ≠ Stamped.type second := fun also => apart (same.symm.trans also)
    rw [overwrite_of_ne t untouched, overwrite_of_ne t (by rwa [type_overwrite])]
  · rw [overwrite_of_ne s same, overwrite_of_ne s (by rwa [type_overwrite])]

namespace ConditionSet

/-- What an upsert appends to the list of a set. -/
def appended (set : ConditionSet α) (new : α) (now : Timestamp) : List α :=
  if set.contains (Stamped.type new) then [] else [firstEntry new now]

theorem appended_of_contains {set : ConditionSet α} {new : α} (now : Timestamp)
    (present : set.contains (Stamped.type new) = true) : set.appended new now = [] := if_pos present

theorem appended_of_absent {set : ConditionSet α} {new : α} (now : Timestamp)
    (absent : set.contains (Stamped.type new) = false) : set.appended new now = [firstEntry new now] :=
  if_neg (Bool.eq_false_iff.mp absent)

/-- An upsert is a rewriting of all entries and something at the end. The order of two upserts can only
be seen there. -/
theorem toList_upsert_eq_overwrite (set : ConditionSet α) (new : α) (now : Timestamp) :
    (set.upsert new now).2.toList = set.toList.map (overwrite new now) ++ set.appended new now := by
  simp only [appended, contains_iff]
  exact toList_upsert_eq fun entry _ => congrArg Prod.snd (replacing_observe entry new now)

theorem map_overwrite_of_absent {set : ConditionSet α} {new : α} (now : Timestamp)
    (absent : set.contains (Stamped.type new) = false) : set.toList.map (overwrite new now) = set.toList := by
  refine (List.map_congr_left fun entry member => overwrite_of_ne now fun same => ?_).trans (List.map_id' _)
  have present := contains_iff.mpr (same ▸ List.mem_map_of_mem member : Stamped.type new ∈ types set.toList)
  exact Bool.eq_false_iff.mp absent present

theorem contains_upsert_of_ne (set : ConditionSet α) {new : α} {type : String} (differ : Stamped.type new ≠ type)
    (now : Timestamp) : (set.upsert new now).2.contains type = set.contains type := by
  rw [contains, contains, get?_upsert_of_ne set new now differ]

theorem appended_upsert_of_ne (set : ConditionSet α) {first second : α}
    (apart : Stamped.type first ≠ Stamped.type second) (s t : Timestamp) :
    (set.upsert first s).2.appended second t = set.appended second t := by
  rw [appended, appended, contains_upsert_of_ne set apart]

theorem map_overwrite_appended (set : ConditionSet α) {first second : α}
    (apart : Stamped.type first ≠ Stamped.type second) (s t : Timestamp) :
    (set.appended first s).map (overwrite second t) = set.appended first s := by
  unfold appended
  split
  · rfl
  · rw [List.map_singleton, overwrite_of_ne t (by rwa [type_firstEntry])]

/-- The list after two upserts of different types. Which came first shows in what is appended alone. -/
theorem toList_upsert_upsert (set : ConditionSet α) {first second : α}
    (apart : Stamped.type first ≠ Stamped.type second) (s t : Timestamp) :
    ((set.upsert first s).2.upsert second t).2.toList =
      (set.toList.map (overwrite first s)).map (overwrite second t) ++
        (set.appended first s ++ set.appended second t) := by
  rw [toList_upsert_eq_overwrite, toList_upsert_eq_overwrite, appended_upsert_of_ne set apart, List.map_append,
    map_overwrite_appended set apart, List.append_assoc]

/-- The same list as for the other order, but for the two at the end. -/
theorem toList_upsert_upsert_comm (set : ConditionSet α) {first second : α}
    (apart : Stamped.type first ≠ Stamped.type second) (s t : Timestamp) :
    ((set.upsert second t).2.upsert first s).2.toList =
      (set.toList.map (overwrite first s)).map (overwrite second t) ++
        (set.appended second t ++ set.appended first s) := by
  have rewritten : (set.toList.map (overwrite second t)).map (overwrite first s) =
      (set.toList.map (overwrite first s)).map (overwrite second t) := by
    rw [List.map_map, List.map_map]
    exact List.map_congr_left fun entry _ => (overwrite_overwrite apart s t entry).symm
  rw [toList_upsert_upsert set apart.symm, rewritten]

theorem perm_upsert_upsert (set : ConditionSet α) {first second : α}
    (apart : Stamped.type first ≠ Stamped.type second) (s t : Timestamp) :
    ((set.upsert first s).2.upsert second t).2.toList.Perm ((set.upsert second t).2.upsert first s).2.toList := by
  rw [toList_upsert_upsert set apart, toList_upsert_upsert_comm set apart]
  exact List.perm_append_comm.append_left _

/-- What an upsert tells does not depend on one of another type before it. -/
theorem told_upsert_of_ne (set : ConditionSet α) {first second : α}
    (apart : Stamped.type first ≠ Stamped.type second) (s t : Timestamp) :
    ((set.upsert first s).2.upsert second t).1 = (set.upsert second t).1 := by
  rw [(upsert_eq _ second t).1, (upsert_eq set second t).1, get?_upsert_of_ne _ _ _ apart]

theorem nodup_toList (set : ConditionSet α) : set.toList.Nodup := set.nodup_types.of_map

section Same

variable {set other : ConditionSet α}

/-- Since each type stands once, as many entries with the same look-ups are the same entries. -/
theorem same_iff_perm [DecidableEq α] : set.same other = true ↔ set.toList.Perm other.toList := by
  rw [same, Bool.and_eq_true, beq_iff_eq, List.all_eq_true]
  simp only [beq_iff_eq, get?_eq_some_iff, and_true]
  constructor
  · rintro ⟨sizes, within⟩
    exact (List.subperm_of_subset set.nodup_toList within).perm_of_length_le sizes.ge
  · exact fun permuted => ⟨permuted.length_eq, fun entry member => permuted.mem_iff.mp member⟩

theorem get?_of_perm (permuted : set.toList.Perm other.toList) (type : String) :
    set.get? type = other.get? type := by
  refine Option.ext fun entry => ?_
  rw [get?_eq_some_iff, get?_eq_some_iff, permuted.mem_iff]

/-- Upserts into permuted lists leave permuted lists. -/
theorem perm_upsert (permuted : set.toList.Perm other.toList) (new : α) (now : Timestamp) :
    (set.upsert new now).2.toList.Perm (other.upsert new now).2.toList := by
  have behind : set.appended new now = other.appended new now := by
    rw [appended, appended, contains, contains, get?_of_perm permuted]
  rw [toList_upsert_eq_overwrite, toList_upsert_eq_overwrite, behind]
  exact (permuted.map _).append_right _

end Same

/-- What two upserts tell and leave, the one first or the other. -/
structure Commute [DecidableEq α] (set : ConditionSet α) (first second : α) (s t : Timestamp) : Prop where
  told_first : ((set.upsert second t).2.upsert first s).1 = (set.upsert first s).1
  told_second : ((set.upsert first s).2.upsert second t).1 = (set.upsert second t).1
  same : ((set.upsert first s).2.upsert second t).2.same ((set.upsert second t).2.upsert first s).2 = true
  known : set.contains (Stamped.type first) = true ∨ set.contains (Stamped.type second) = true →
    ((set.upsert first s).2.upsert second t).2.toList = ((set.upsert second t).2.upsert first s).2.toList
  new : set.contains (Stamped.type first) = false → set.contains (Stamped.type second) = false →
    ((set.upsert first s).2.upsert second t).2.toList = set.toList ++ [firstEntry first s, firstEntry second t] ∧
    ((set.upsert second t).2.upsert first s).2.toList = set.toList ++ [firstEntry second t, firstEntry first s]

/-- Two sets that cannot be told apart but by the order of their lists, now or after an upsert. -/
structure Interchangeable [DecidableEq α] (set other : ConditionSet α) : Prop where
  get? : ∀ type, set.get? type = other.get? type
  contains : ∀ type, set.contains type = other.contains type
  size : set.size = other.size
  isEmpty : set.isEmpty = other.isEmpty
  told : ∀ new now, (set.upsert new now).1 = (other.upsert new now).1
  left : ∀ new now, (set.upsert new now).2.same (other.upsert new now).2 = true

theorem commute_of_ne [DecidableEq α] (set : ConditionSet α) {first second : α}
    (apart : Stamped.type first ≠ Stamped.type second) (s t : Timestamp) : set.Commute first second s t where
  told_first := told_upsert_of_ne set apart.symm t s
  told_second := told_upsert_of_ne set apart s t
  same := same_iff_perm.mpr (perm_upsert_upsert set apart s t)
  known either := by
    -- One of the two appends nothing, so there is one order only.
    have swapped : set.appended first s ++ set.appended second t = set.appended second t ++ set.appended first s := by
      rcases either with present | present
      · rw [appended_of_contains s present, List.nil_append, List.append_nil]
      · rw [appended_of_contains t present, List.nil_append, List.append_nil]
    rw [toList_upsert_upsert set apart, toList_upsert_upsert_comm set apart, swapped]
  new firstAbsent secondAbsent := by
    rw [toList_upsert_upsert set apart, toList_upsert_upsert_comm set apart, map_overwrite_of_absent s firstAbsent,
      map_overwrite_of_absent t secondAbsent, appended_of_absent s firstAbsent, appended_of_absent t secondAbsent]
    exact ⟨rfl, rfl⟩

theorem interchangeable_of_perm [DecidableEq α] {set other : ConditionSet α}
    (permuted : set.toList.Perm other.toList) : set.Interchangeable other where
  get? := get?_of_perm permuted
  contains type := by rw [contains, contains, get?_of_perm permuted]
  size := permuted.length_eq
  isEmpty := permuted.isEmpty_eq
  told new now := by rw [(upsert_eq set new now).1, (upsert_eq other new now).1, get?_of_perm permuted]
  left new now := same_iff_perm.mpr (perm_upsert permuted new now)

/-- Upserts one after the other. -/
def upsertAll (set : ConditionSet α) (requests : List (α × Timestamp)) : ConditionSet α :=
  requests.foldl (fun left request => (left.upsert request.1 request.2).2) set

theorem perm_upsertAll {set other : ConditionSet α} (permuted : set.toList.Perm other.toList)
    (requests : List (α × Timestamp)) : (set.upsertAll requests).toList.Perm (other.upsertAll requests).toList := by
  induction requests generalizing set other with
  | nil => exact permuted
  | cons request rest ih => exact ih (perm_upsert permuted request.1 request.2)

/-- Upserts of as many types leave the same entries in whatever order they come. -/
theorem perm_upsertAll_of_perm {requests reordered : List (α × Timestamp)} (reorder : requests.Perm reordered)
    (distinct : (requests.map fun request => Stamped.type request.1).Nodup) (set : ConditionSet α) :
    (set.upsertAll requests).toList.Perm (set.upsertAll reordered).toList := by
  induction reorder generalizing set with
  | nil => exact .refl _
  | cons request _ ih => exact ih (List.nodup_cons.mp distinct).2 _
  | swap first second rest =>
    have apart : Stamped.type second.1 ≠ Stamped.type first.1 :=
      fun same => (List.nodup_cons.mp distinct).1 (List.mem_cons.mpr (.inl same))
    exact perm_upsertAll (perm_upsert_upsert set apart second.2 first.2) rest
  | trans reorder _ ih ih' =>
    exact (ih distinct set).trans (ih' ((reorder.map _).nodup_iff.mp distinct) set)

/-- Upserts of different types do not interfere. Sets are the same exactly when their lists are permutations of
each other, and then they cannot be told apart by look-ups, nor by what upserts tell and leave; so any number of
upserts of different types can be put in any order. -/
theorem upserts_commute [DecidableEq α] (set : ConditionSet α) :
    (∀ (first second : α) (s t : Timestamp), Stamped.type first ≠ Stamped.type second →
      set.Commute first second s t) ∧
    (∀ other : ConditionSet α, (set.same other = true ↔ set.toList.Perm other.toList) ∧
      (set.same other = true → set.Interchangeable other)) ∧
    ∀ requests reordered : List (α × Timestamp), requests.Perm reordered →
      (requests.map fun request => Stamped.type request.1).Nodup →
      (set.upsertAll requests).same (set.upsertAll reordered) = true :=
  ⟨fun _ _ s t apart => commute_of_ne set apart s t,
    fun _ => ⟨same_iff_perm, fun same => interchangeable_of_perm (same_iff_perm.mp same)⟩,
    fun _ _ reorder distinct => same_iff_perm.mpr (perm_upsertAll_of_perm reorder distinct set)⟩

/-- Two general conditions that are new, and two copied ones of which one is there already. -/
theorem upserts_commute_sample :
    let s : Timestamp := ⟨⟨2024, 5, 1, by decide, by decide, by decide⟩, 10, 0, 0, 0, by decide, by decide,
      by decide, by decide⟩
    let t : Timestamp := { s with hour := 9, hour_lt := by decide }
    let ready : Condition := .stamped s "Ready" .holds "Up" ""
    let placed : Condition := .stamped t "Placed" .unknown "" ""
    let left := ((empty.upsert ready s).2.upsert placed t).2
    let other := ((empty.upsert placed t).2.upsert ready s).2
    let shown : ConditionSet DeploymentCondition := .ofList [.unstamped "ClusterInstallStopped" .fails "Running" ""]
    let stopped : DeploymentCondition := .unstamped "ClusterInstallStopped" .holds "Ended" ""
    let failed : DeploymentCondition := .unstamped "ClusterInstallFailed" .holds "Disk" ""
    (ready.type ≠ placed.type ∧ left.toList = [ready, placed] ∧ other.toList = [placed, ready] ∧
      left.same other = true ∧ ∀ new now, (left.upsert new now).1 = (other.upsert new now).1) ∧
    (stopped.type ≠ failed.type ∧ ((shown.upsert failed t).2.upsert stopped s).1 = .changed .fails ∧
      ((shown.upsert stopped s).2.upsert failed t).2.toList = [stopped.copied s s, failed.copied t t] ∧
      ((shown.upsert failed t).2.upsert stopped s).2.toList = [stopped.copied s s, failed.copied t t] ∧
      (shown.upsertAll [(stopped, s), (failed, t)]).same (shown.upsertAll [(failed, t), (stopped, s)]) = true) := by
  intro s t ready placed left other shown stopped failed
  have general : ready.type ≠ placed.type := by decide
  have copied : stopped.type ≠ failed.type := by decide
  have generalOrders := (upserts_commute (empty : ConditionSet Condition)).1 ready placed s t general
  obtain ⟨readyFirst, placedFirst⟩ := generalOrders.new rfl rfl
  have alike := ((upserts_commute left).2.1 other).2 generalOrders.same
  obtain ⟨commute, _, reorder⟩ := upserts_commute shown
  have copiedOrders := commute stopped failed s t copied
  have stoppedFirst : ((shown.upsert stopped s).2.upsert failed t).2.toList =
      [stopped.copied s s, failed.copied t t] := rfl
  exact ⟨⟨general, readyFirst, placedFirst, generalOrders.same, alike.told⟩, copied, copiedOrders.told_first,
    stoppedFirst, (copiedOrders.known (.inl rfl)).symm.trans stoppedFirst, reorder _ _ (.swap ..) (by decide)⟩

end ConditionSet

end Step

end InstallStatus
