import Mathlib
import InstallStatus.Json.Basic

/-!
The fields of sorted objects. What a key carries after a field was set, taken out or collected from a
list holds of any fields; that each key stands once is kept where the keys ascend.
-/

namespace InstallStatus.Json.Fields

/-- The keys ascend, and so each stands once. -/
def Ascending (fields : Fields) : Prop := fields.Pairwise fun a b => a.1 < b.1

theorem get?_nil (key : String) : get? [] key = none := rfl

theorem get?_cons (field : String × Json) (rest : Fields) (key : String) :
    get? (field :: rest) key = if key = field.1 then some field.2 else rest.get? key := by
  obtain ⟨other, value⟩ := field
  by_cases same : key = other
  · rw [same, get?, List.lookup_cons_self, if_pos rfl]
  · have apart : (key == other) = false := by simpa using same
    simp only [get?, List.lookup_cons, apart, if_neg same]

theorem get?_append (first second : Fields) (key : String) :
    get? (first ++ second) key = (first.get? key).or (second.get? key) :=
  List.lookup_append

theorem mem_of_get? {fields : Fields} {key : String} {value : Json}
    (found : fields.get? key = some value) : (key, value) ∈ fields := by
  obtain ⟨before, after, same, _⟩ := List.lookup_eq_some_iff.mp found
  rw [same]
  exact List.mem_append_right before (List.mem_cons_self ..)

/-- A key carries nothing exactly where no field has it, whatever the order of the fields. -/
theorem get?_eq_none_iff {fields : Fields} {key : String} :
    fields.get? key = none ↔ ∀ field ∈ fields, field.1 ≠ key := by
  simp only [get?, List.lookup_eq_none_iff, bne_iff_ne]
  exact ⟨fun all field member same => all field member same.symm,
    fun all field member same => all field member same.symm⟩

/-- Most laws of objects need no more of the order than this. -/
theorem Ascending.nodup {fields : Fields} (ascending : fields.Ascending) :
    (fields.map Prod.fst).Nodup := by
  rw [List.nodup_iff_pairwise_ne, List.pairwise_map]
  exact ascending.imp fun less => less.ne

/-- Where each key stands once, a look-up finds every field and not just the first of its key. -/
theorem get?_of_mem {fields : Fields} (nodup : (fields.map Prod.fst).Nodup) {field : String × Json}
    (member : field ∈ fields) : fields.get? field.1 = some field.2 := by
  induction fields with
  | nil => cases member
  | cons first rest ih =>
    simp only [List.map_cons, List.nodup_cons] at nodup
    rw [get?_cons]
    rcases List.mem_cons.mp member with same | later
    · rw [same, if_pos rfl]
    · have apart : field.1 ≠ first.1 := fun same => nodup.1 (same ▸ List.mem_map_of_mem later)
      rw [if_neg apart, ih nodup.2 later]

theorem get?_eq_some_iff {fields : Fields} (nodup : (fields.map Prod.fst).Nodup) {key : String}
    {value : Json} : fields.get? key = some value ↔ (key, value) ∈ fields :=
  ⟨mem_of_get?, fun member => get?_of_mem nodup member⟩

/-- Where each key stands once, the last field of a key is the first one. -/
theorem last?_eq_get? {fields : Fields} (nodup : (fields.map Prod.fst).Nodup) (key : String) :
    fields.last? key = fields.get? key := by
  have reversed : (fields.reverse.map Prod.fst).Nodup := by
    rw [List.map_reverse]
    exact List.nodup_reverse.mpr nodup
  apply Option.ext
  intro value
  change get? fields.reverse key = some value ↔ _
  rw [get?_eq_some_iff reversed, get?_eq_some_iff nodup, List.mem_reverse]

/-- To set a key changes what that key carries and nothing else, whether the fields are sorted or not. -/
theorem get?_insert (key other : String) (value : Json) (fields : Fields) :
    (fields.insert key value).get? other = if other = key then some value else fields.get? other := by
  induction fields with
  | nil => rw [insert, get?_cons]
  | cons field rest ih =>
    obtain ⟨k, v⟩ := field
    rw [insert]
    split
    · rw [get?_cons]
    · split
      · rename_i same
        subst same
        by_cases here : other = key <;> simp only [get?_cons, here, if_true, if_false]
      · rename_i apart
        by_cases here : other = key
        · subst here
          simp only [get?_cons, if_neg apart, ih, if_true]
        · simp only [get?_cons, ih, if_neg here]

/-- All fields of the key are taken out, so that a later one of a repeated key does not show up in its
place. -/
theorem get?_erase (key other : String) (fields : Fields) :
    (fields.erase key).get? other = if other = key then none else fields.get? other := by
  induction fields with
  | nil => simp [erase, get?_nil]
  | cons field rest ih =>
    simp only [erase] at ih ⊢
    by_cases gone : field.1 = key
    · rw [List.filter_cons_of_neg (by simpa using gone), ih, get?_cons]
      by_cases here : other = key
      · simp only [here, if_true]
      · simp only [if_neg here, if_neg (fun same : other = field.1 => here (same.trans gone))]
    · rw [List.filter_cons_of_pos (by simpa using gone), get?_cons, get?_cons, ih]
      by_cases first : other = field.1
      · simp only [if_pos first, if_neg (fun same : other = key => gone (first.symm.trans same))]
      · simp only [if_neg first]

/-- Nothing but the new field comes in, and so what holds of all fields is kept. -/
theorem mem_insert {key : String} {value : Json} {fields : Fields} {field : String × Json}
    (member : field ∈ fields.insert key value) : field = (key, value) ∨ field ∈ fields := by
  induction fields with
  | nil => exact .inl (List.mem_singleton.mp member)
  | cons first rest ih =>
    obtain ⟨k, v⟩ := first
    rw [insert] at member
    split at member
    · exact List.mem_cons.mp member
    · split at member
      · exact (List.mem_cons.mp member).imp_right (List.mem_cons_of_mem _)
      · rcases List.mem_cons.mp member with here | later
        · exact .inr (here ▸ List.mem_cons_self ..)
        · exact (ih later).imp_right (List.mem_cons_of_mem _)

/-- A new field is put where its key belongs, and one whose key is there takes the place it finds. -/
theorem Ascending.insert {fields : Fields} (ascending : fields.Ascending) (key : String)
    (value : Json) : (fields.insert key value).Ascending := by
  induction fields with
  | nil => exact List.pairwise_singleton ..
  | cons first rest ih =>
    obtain ⟨k, v⟩ := first
    obtain ⟨above, tail⟩ := List.pairwise_cons.mp ascending
    rw [Fields.insert]
    split
    · rename_i less
      refine List.pairwise_cons.mpr ⟨fun field member => ?_, ascending⟩
      rcases List.mem_cons.mp member with here | later
      · exact here ▸ less
      · exact less.trans (above field later)
    · split
      · rename_i same
        exact List.pairwise_cons.mpr ⟨fun field member => same ▸ above field member, tail⟩
      · rename_i noLess apart
        refine List.pairwise_cons.mpr ⟨fun field member => ?_, ih tail⟩
        rcases mem_insert member with here | later
        · rw [here]
          exact lt_of_le_of_ne (not_lt.mp noLess) (Ne.symm apart)
        · exact above field later

theorem Ascending.erase {fields : Fields} (ascending : fields.Ascending) (key : String) :
    (fields.erase key).Ascending :=
  List.Pairwise.sublist List.filter_sublist ascending

theorem ofList_append (first second : List (String × Json)) :
    ofList (first ++ second) =
      second.foldl (fun sorted field => sorted.insert field.1 field.2) (ofList first) := by
  rw [ofList, ofList, List.foldl_append]

/-- Fields are collected from the front, which makes the end of the list the place for an induction. -/
theorem ofList_concat (fields : List (String × Json)) (field : String × Json) :
    ofList (fields ++ [field]) = (ofList fields).insert field.1 field.2 := by
  rw [ofList_append, List.foldl_cons, List.foldl_nil]

/-- Any list of fields becomes a sorted object, repeated keys or not. -/
theorem ascending_ofList (fields : List (String × Json)) : (ofList fields).Ascending := by
  induction fields using List.reverseRecOn with
  | nil => exact List.Pairwise.nil
  | append_singleton fields field ih =>
    rw [ofList_concat]
    exact ih.insert field.1 field.2

/-- Of a repeated key the last value counts once the fields are collected. -/
theorem get?_ofList (fields : List (String × Json)) (key : String) :
    (ofList fields).get? key = last? fields key := by
  induction fields using List.reverseRecOn with
  | nil => rfl
  | append_singleton fields field ih =>
    have front : last? (fields ++ [field]) key = get? (field :: fields.reverse) key := by
      rw [last?, List.reverse_append]
      rfl
    rw [ofList_concat, get?_insert, front, get?_cons, ih]
    rfl

theorem mem_ofList {fields : List (String × Json)} {field : String × Json}
    (member : field ∈ ofList fields) : field ∈ fields := by
  induction fields using List.reverseRecOn with
  | nil => cases member
  | append_singleton fields last ih =>
    rw [ofList_concat] at member
    rcases mem_insert member with here | earlier
    · exact List.mem_append_right fields (List.mem_singleton.mpr here)
    · exact List.mem_append_left _ (ih earlier)

end InstallStatus.Json.Fields
