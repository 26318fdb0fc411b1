import Mathlib
import InstallStatus.Json.MergePatch
import InstallStatus.Proofs.SortedFields

/-!
What a merge patch leaves of its target, key by key. A sorted patch laid over a sorted document gives a
sorted document, so no key is ever written twice.
-/

namespace InstallStatus.Json

instance (fields : Fields) : Decidable fields.Ascending :=
  inferInstanceAs (Decidable (List.Pairwise _ _))

mutual

/-- Whether every object in the document lists its keys in ascending order, each once. -/
def isSorted : Json → Bool
  | .array items => itemsSorted items
  | .object fields => decide (Fields.Ascending fields) && fieldsSorted fields
  | _ => true

def itemsSorted : List Json → Bool
  | [] => true
  | item :: rest => item.isSorted && itemsSorted rest

def fieldsSorted : List (String × Json) → Bool
  | [] => true
  | (_, value) :: rest => value.isSorted && fieldsSorted rest

end

/-- The mutual definition as a statement about all items, so that later proofs never open the recursion. -/
theorem itemsSorted_iff {items : List Json} :
    itemsSorted items = true ↔ ∀ item ∈ items, item.isSorted = true := by
  induction items with
  | nil => simp [itemsSorted]
  | cons item rest ih => simp only [itemsSorted, Bool.and_eq_true, ih, List.forall_mem_cons]

theorem fieldsSorted_iff {fields : List (String × Json)} :
    fieldsSorted fields = true ↔ ∀ field ∈ fields, field.2.isSorted = true := by
  induction fields with
  | nil => simp [fieldsSorted]
  | cons field rest ih => simp only [fieldsSorted, Bool.and_eq_true, ih, List.forall_mem_cons]

/-- The fields of a sorted object. -/
def Fields.Sorted (fields : Fields) : Prop :=
  fields.Ascending ∧ ∀ field ∈ fields, field.2.isSorted = true

/-- An object is sorted by its own keys and by the value of every field. -/
theorem isSorted_object {fields : Fields} :
    (Json.object fields).isSorted = true ↔ Fields.Sorted fields := by
  simp only [isSorted, Bool.and_eq_true, decide_eq_true_eq, fieldsSorted_iff, Fields.Sorted]

theorem isSorted_array {items : List Json} :
    (Json.array items).isSorted = true ↔ ∀ item ∈ items, item.isSorted = true := by
  rw [isSorted, itemsSorted_iff]

namespace Fields

theorem sorted_nil : Sorted [] := ⟨List.Pairwise.nil, fun _ member => nomatch member⟩

theorem Sorted.nodup {fields : Fields} (sorted : fields.Sorted) : (fields.map Prod.fst).Nodup :=
  sorted.1.nodup

/-- What a look-up in a sorted object gives is sorted too. -/
theorem Sorted.get? {fields : Fields} (sorted : fields.Sorted) {key : String} {value : Json}
    (found : fields.get? key = some value) : value.isSorted = true :=
  sorted.2 _ (mem_of_get? found)

/-- A key that is absent counts as null, which is sorted as well; a merge starts from it. -/
theorem Sorted.getD {fields : Fields} (sorted : fields.Sorted) (key : String) :
    ((fields.get? key).getD .null).isSorted = true := by
  cases found : fields.get? key with
  | none => rfl
  | some value => exact sorted.get? found

theorem Sorted.insert {fields : Fields} (sorted : fields.Sorted) (key : String) {value : Json}
    (inner : value.isSorted = true) : (fields.insert key value).Sorted := by
  refine ⟨sorted.1.insert key value, fun field member => ?_⟩
  rcases mem_insert member with here | other
  · rw [here]
    exact inner
  · exact sorted.2 field other

theorem Sorted.erase {fields : Fields} (sorted : fields.Sorted) (key : String) :
    (fields.erase key).Sorted :=
  ⟨sorted.1.erase key, fun field member => sorted.2 field (List.mem_filter.mp member).1⟩

/-- The fields of a record need no order of their own for the object made of them to be sorted. -/
theorem sorted_ofList {fields : List (String × Json)}
    (inner : ∀ field ∈ fields, field.2.isSorted = true) : (ofList fields).Sorted :=
  ⟨ascending_ofList fields, fun field member => inner field (mem_ofList member)⟩

end Fields

theorem sorted_fields {document : Json} (sorted : document.isSorted = true) :
    document.fields.Sorted := by
  cases document with
  | object fields => exact isSorted_object.mp sorted
  | _ => exact Fields.sorted_nil

/-- Used for the parts of a stored object that a server reads: its metadata and its status. -/
theorem sorted_member {document : Json} (sorted : document.isSorted = true) (key : String) :
    (document.member key).isSorted = true :=
  (sorted_fields sorted).getD key

mutual

/-- A merge keeps objects sorted all the way down, so stored objects stay so whatever patches they take. -/
theorem isSorted_merge {target : Json} (sorted : target.isSorted = true) (patch : Json)
    (patchSorted : patch.isSorted = true) : (target.merge patch).isSorted = true := by
  cases patch with
  | object patch =>
    rw [merge]
    exact isSorted_object.mpr
      (sorted_mergeFields (sorted_fields sorted) patch (isSorted_object.mp patchSorted).2)
  | _ => exact patchSorted

theorem sorted_mergeFields {fields : Fields} (sorted : fields.Sorted) (patch : List (String × Json))
    (patchSorted : ∀ field ∈ patch, field.2.isSorted = true) : (mergeFields fields patch).Sorted := by
  match patch with
  | [] => exact sorted
  | (key, value) :: rest =>
    obtain ⟨first, later⟩ := List.forall_mem_cons.mp patchSorted
    rw [mergeFields]
    split
    · exact sorted_mergeFields (sorted.erase key) rest later
    · exact sorted_mergeFields (sorted.insert key (isSorted_merge (sorted.getD key) value first)) rest
        later

end

namespace Fields

/-- Lays one field of a patch over an object: null takes the key out, and any other value is joined with
what the key carries. -/
def lay (join : Option Json → Json → Json) (fields : Fields) (field : String × Json) : Fields :=
  if field.2.isNull then fields.erase field.1
  else fields.insert field.1 (join (fields.get? field.1) field.2)

/-- A patch laid over an object, field by field. -/
def laid (join : Option Json → Json → Json) (fields : Fields) (patch : List (String × Json)) : Fields :=
  patch.foldl (lay join) fields

theorem get?_lay (join : Option Json → Json → Json) (fields : Fields) (field : String × Json)
    (key : String) :
    (fields.lay join field).get? key =
      if key = field.1 then
        if field.2.isNull then none else some (join (fields.get? field.1) field.2)
      else fields.get? key := by
  rw [lay]
  split
  · rw [get?_erase]
  · rw [get?_insert]

theorem Ascending.lay {fields : Fields} (ascending : fields.Ascending)
    (join : Option Json → Json → Json) (field : String × Json) : (fields.lay join field).Ascending := by
  rw [Fields.lay]
  split
  · exact ascending.erase field.1
  · exact ascending.insert field.1 _

/-- What a key carries after a patch: the patch counts where it names the key, and null takes it out. -/
theorem get?_laid {patch : Fields} (nodup : (patch.map Prod.fst).Nodup)
    (join : Option Json → Json → Json) (fields : Fields) (key : String) :
    (fields.laid join patch).get? key =
      match patch.get? key with
      | none => fields.get? key
      | some value => if value.isNull then none else some (join (fields.get? key) value) := by
  induction patch generalizing fields with
  | nil => rfl
  | cons field rest ih =>
    simp only [List.map_cons, List.nodup_cons] at nodup
    rw [laid, List.foldl_cons, ← laid, ih nodup.2, get?_cons, get?_lay]
    by_cases here : key = field.1
    · subst here
      have gone : get? rest field.1 = none :=
        get?_eq_none_iff.mpr fun other member same => nodup.1 (same ▸ List.mem_map_of_mem member)
      simp only [gone, if_true]
    · simp only [here, if_false]

theorem Ascending.laid {fields : Fields} (ascending : fields.Ascending)
    (join : Option Json → Json → Json) (patch : List (String × Json)) :
    (fields.laid join patch).Ascending := by
  induction patch generalizing fields with
  | nil => exact ascending
  | cons field rest ih => exact ih (ascending.lay join field)

end Fields

/-- What a merge makes of a value laid over the one that a key carries, if it carries one. -/
def mergeOver (old? : Option Json) (value : Json) : Json := merge (old?.getD .null) value

/-- The recursion of a merge over the fields of a patch is a fold, in which only the join is its own. -/
theorem mergeFields_eq_laid (fields : Fields) (patch : List (String × Json)) :
    mergeFields fields patch = fields.laid mergeOver patch := by
  induction patch generalizing fields with
  | nil => rfl
  | cons field rest ih =>
    obtain ⟨key, value⟩ := field
    rw [mergeFields, Fields.laid, List.foldl_cons, ← Fields.laid, Fields.lay]
    split <;> exact ih _

/-- The law by which all statements about merged objects are proved: key by key, and null takes a key
out. -/
theorem get?_mergeFields {patch : Fields} (nodup : (patch.map Prod.fst).Nodup) (fields : Fields)
    (key : String) :
    (mergeFields fields patch).get? key =
      match patch.get? key with
      | none => fields.get? key
      | some value =>
        if value.isNull then none else some (merge ((fields.get? key).getD .null) value) := by
  rw [mergeFields_eq_laid, Fields.get?_laid nodup]
  rfl

/-- A target that is no object counts as one without fields. -/
theorem fields_merge (target : Json) (patch : Fields) :
    (target.merge (.object patch)).fields = mergeFields target.fields patch := by
  rw [merge]
  rfl

end InstallStatus.Json
