import Mathlib
import InstallStatus.Condition.Set

/-!
Condition sets as keyed lists. An upsert either rewrites the one entry of its type, whose place stays,
or appends; the entry it leaves is the new record but for its transition time.
-/

namespace InstallStatus

section Lists

variable {α : Type} [Stamped α]

theorem mem_types {entries : List α} {type : String} :
    type ∈ types entries ↔ ∃ entry ∈ entries, Stamped.type entry = type := List.mem_map

/-- To take a list that has each type once leaves it alone, as after a set was written back. -/
theorem firstOfEach_of_nodup {entries : List α} (nodup : (types entries).Nodup) :
    firstOfEach entries = entries := by
  induction entries with
  | nil => rfl
  | cons first rest ih =>
    simp only [types, List.map_cons, List.nodup_cons] at nodup
    rw [firstOfEach, ih nodup.2, List.filter_eq_self.mpr]
    intro entry member
    rw [bne_iff_ne]
    exact fun same => nodup.1 (same ▸ List.mem_map_of_mem member)

/-- A new type is appended, and changes at the time of the upsert. -/
theorem upsertInto_of_absent {new : α} (now : Timestamp) {entries : List α}
    (absent : Stamped.type new ∉ types entries) :
    upsertInto new now entries = (.added, entries ++ [Stamped.setTransitionTime now new]) := by
  induction entries with
  | nil => rfl
  | cons first rest ih =>
    simp only [types, List.map_cons, List.mem_cons, not_or] at absent
    rw [upsertInto, if_neg fun same => absent.1 same.symm, ih absent.2, List.cons_append]

/-- An entry that is replaced keeps its place. As each type stands once, a map over all entries says so. -/
theorem upsertInto_of_mem {old new : α} (now : Timestamp) {entries : List α}
    (nodup : (types entries).Nodup) (member : old ∈ entries)
    (same : Stamped.type old = Stamped.type new) :
    upsertInto new now entries =
      ((replacing old new now).1,
        entries.map fun entry =>
          if Stamped.type entry = Stamped.type new then (replacing old new now).2 else entry) := by
  induction entries with
  | nil => cases member
  | cons first rest ih =>
    simp only [types, List.map_cons, List.nodup_cons] at nodup
    obtain ⟨apart, nodup⟩ := nodup
    rcases List.mem_cons.mp member with here | later
    · subst here
      have others : ∀ entry ∈ rest, ¬ Stamped.type entry = Stamped.type new :=
        fun entry inRest also => apart (same.trans also.symm ▸ List.mem_map_of_mem inRest)
      have kept : rest.map (fun entry =>
          if Stamped.type entry = Stamped.type new then (replacing old new now).2 else entry) = rest := by
        refine (List.map_congr_left fun entry inRest => if_neg (others entry inRest)).trans ?_
        exact List.map_id' rest
      rw [upsertInto, if_pos same, List.map_cons, if_pos same, kept]
    · have differ : ¬ Stamped.type first = Stamped.type new :=
        fun also => apart (also.trans same.symm ▸ List.mem_map_of_mem later)
      rw [upsertInto, if_neg differ, ih nodup later, List.map_cons, if_neg differ]

theorem replacing_eq (old new : α) (now : Timestamp) :
    ∃ time, (replacing old new now).2 = Stamped.setTransitionTime time new := by
  unfold replacing
  split
  · exact ⟨_, rfl⟩
  · exact ⟨now, rfl⟩

/-- The entry that an upsert leaves for its type is the new record, its transition time apart. -/
theorem eq_of_mem_upsertInto {new entry : α} {now : Timestamp} {entries : List α}
    (nodup : (types entries).Nodup) (member : entry ∈ (upsertInto new now entries).2)
    (same : Stamped.type entry = Stamped.type new) :
    ∃ time, entry = Stamped.setTransitionTime time new := by
  by_cases present : Stamped.type new ∈ types entries
  · obtain ⟨old, inEntries, oldType⟩ := mem_types.mp present
    rw [upsertInto_of_mem now nodup inEntries oldType] at member
    obtain ⟨source, _, image⟩ := List.mem_map.mp member
    split at image
    · rw [← image]
      exact replacing_eq old new now
    · rename_i differ
      rw [image] at differ
      exact absurd same differ
  · rw [upsertInto_of_absent now present] at member
    rcases List.mem_append.mp member with earlier | last
    · exact absurd (same ▸ List.mem_map_of_mem earlier) present
    · exact ⟨now, List.mem_singleton.mp last⟩

/-- Entries of other types are the same before and after an upsert. -/
theorem mem_upsertInto_of_ne {new entry : α} {now : Timestamp} {entries : List α}
    (nodup : (types entries).Nodup) (differ : Stamped.type entry ≠ Stamped.type new) :
    entry ∈ (upsertInto new now entries).2 ↔ entry ∈ entries := by
  by_cases present : Stamped.type new ∈ types entries
  · obtain ⟨old, inEntries, oldType⟩ := mem_types.mp present
    rw [upsertInto_of_mem now nodup inEntries oldType]
    constructor
    · intro member
      obtain ⟨source, inSource, image⟩ := List.mem_map.mp member
      split at image
      · rw [← image, type_replacing] at differ
        exact absurd rfl differ
      · exact image ▸ inSource
    · exact fun member => List.mem_map.mpr ⟨entry, member, if_neg differ⟩
  · rw [upsertInto_of_absent now present, List.mem_append, List.mem_singleton]
    refine ⟨fun member => member.resolve_right fun last => differ ?_, .inl⟩
    rw [last, Stamped.type_setTransitionTime]

end Lists

namespace ConditionSet

variable {α : Type} [Stamped α]

theorem ext_toList {first second : ConditionSet α} (same : first.toList = second.toList) :
    first = second := by
  cases first
  cases second
  cases same
  rfl

/-- A set is regained from the list that it is written as. -/
theorem ofList_toList (set : ConditionSet α) : ofList set.toList = set :=
  ext_toList (firstOfEach_of_nodup set.nodup_types)

/-- In a set a look-up finds every entry, and no entry stands behind another of its type. -/
theorem get?_eq_some_iff {set : ConditionSet α} {type : String} {entry : α} :
    set.get? type = some entry ↔ entry ∈ set.toList ∧ Stamped.type entry = type := by
  have nodup := set.nodup_types
  rw [get?, List.find?_eq_some_iff_append]
  constructor
  · rintro ⟨same, before, after, shape, _⟩
    refine ⟨shape ▸ List.mem_append_right before (List.mem_cons_self ..), ?_⟩
    simpa using same
  · rintro ⟨member, same⟩
    obtain ⟨before, after, shape⟩ := List.append_of_mem member
    refine ⟨by simpa using same, before, after, shape, fun other inBefore => ?_⟩
    rw [shape, types, List.map_append, List.nodup_append] at nodup
    have apart := nodup.2.2 _ (List.mem_map_of_mem inBefore) _
      (List.mem_map_of_mem (List.mem_cons_self (a := entry) (l := after)))
    simpa [← same] using apart

theorem find?_firstOfEach (entries : List α) (type : String) :
    (firstOfEach entries).find? (fun entry => Stamped.type entry == type) =
      entries.find? fun entry => Stamped.type entry == type := by
  induction entries with
  | nil => rfl
  | cons first rest ih =>
    simp only [firstOfEach, List.find?_cons, List.find?_filter]
    by_cases same : Stamped.type first = type
    · simp only [same, beq_self_eq_true]
    · have differ : (Stamped.type first == type) = false := beq_false_of_ne same
      simp only [differ]
      rw [← ih]
      congr 1
      funext entry
      by_cases also : Stamped.type entry = type
      · simpa [also] using fun back => same back.symm
      · simp [also]

/-- A look-up in a list and in the set of it give the same entry. -/
theorem get?_ofList (entries : List α) (type : String) :
    (ofList entries).get? type = entries.find? fun entry => Stamped.type entry == type :=
  find?_firstOfEach entries type

theorem contains_iff {set : ConditionSet α} {type : String} :
    set.contains type = true ↔ type ∈ types set.toList := by
  rw [contains, Option.isSome_iff_exists, mem_types]
  simp only [get?_eq_some_iff]

theorem toList_upsert (set : ConditionSet α) (new : α) (now : Timestamp) :
    (set.upsert new now).2.toList = (upsertInto (Stamped.observe now new) now set.toList).2 := rfl

theorem types_upsert (set : ConditionSet α) (new : α) (now : Timestamp) :
    types (set.upsert new now).2.toList =
      if Stamped.type new ∈ types set.toList then types set.toList
      else types set.toList ++ [Stamped.type new] := by
  rw [toList_upsert, types_upsertInto, Stamped.type_observe]

theorem mem_types_upsert (set : ConditionSet α) (new : α) (now : Timestamp) (type : String) :
    type ∈ types (set.upsert new now).2.toList ↔ type ∈ types set.toList ∨ type = Stamped.type new := by
  rw [types_upsert]
  split
  · rename_i present
    exact ⟨.inl, fun either => either.elim id fun same => same ▸ present⟩
  · rw [List.mem_append, List.mem_singleton]

theorem eq_of_mem_upsert {set : ConditionSet α} {new entry : α} {now : Timestamp}
    (member : entry ∈ (set.upsert new now).2.toList) (same : Stamped.type entry = Stamped.type new) :
    ∃ time, entry = Stamped.setTransitionTime time (Stamped.observe now new) :=
  eq_of_mem_upsertInto set.nodup_types member (same.trans (Stamped.type_observe now new).symm)

/-- An upsert leaves the entries of all other types alone. -/
theorem mem_upsert_of_ne {set : ConditionSet α} {new entry : α} {now : Timestamp}
    (differ : Stamped.type entry ≠ Stamped.type new) :
    entry ∈ (set.upsert new now).2.toList ↔ entry ∈ set.toList :=
  mem_upsertInto_of_ne set.nodup_types (by rwa [Stamped.type_observe])

/-- An upsert of a record whose status is the stored one rewrites each entry of its type to the new
record with the stored transition time. -/
theorem upsert_again {set : ConditionSet α} {new : α} {now : Timestamp} {f : α → α}
    (present : Stamped.type new ∈ types set.toList)
    (rewritten : ∀ entry ∈ set.toList, Stamped.type entry = Stamped.type new →
      (replacing entry (Stamped.observe now new) now).2 = f entry) :
    (set.upsert new now).2.toList =
      set.toList.map fun entry => if Stamped.type entry = Stamped.type new then f entry else entry := by
  obtain ⟨old, member, same⟩ := mem_types.mp present
  have observed := Stamped.type_observe now new
  rw [toList_upsert, upsertInto_of_mem now set.nodup_types member (same.trans observed.symm), observed]
  refine List.map_congr_left fun entry inSet => ?_
  split
  · rename_i also
    have one : some entry = some old := by
      rw [← (get?_eq_some_iff.mpr ⟨inSet, also⟩), ← (get?_eq_some_iff.mpr ⟨member, same⟩)]
    rw [← rewritten entry inSet also, Option.some.inj one]
  · rfl

end ConditionSet

end InstallStatus
