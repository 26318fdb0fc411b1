import Mathlib
import InstallStatus.Json.Identity
import InstallStatus.Proofs.MergeLaws
import InstallStatus.Proofs.SameValue

/-!
What the patch between two objects carries, key by key: it names the keys at which they do not agree, and
gives each what the second object has there. A patch laid over an object agrees with a third one by the same
cases. Without floating-point numbers equality of values is identity.
-/

namespace InstallStatus.Json

mutual

/-- Whether no floating-point number occurs in the document. -/
def isWhole : Json → Bool
  | .number (.float _) => false
  | .array items => itemsWhole items
  | .object fields => fieldsWhole fields
  | _ => true

def itemsWhole : List Json → Bool
  | [] => true
  | item :: rest => item.isWhole && itemsWhole rest

def fieldsWhole : List (String × Json) → Bool
  | [] => true
  | (_, value) :: rest => value.isWhole && fieldsWhole rest

end

theorem itemsWhole_iff {items : List Json} :
    itemsWhole items = true ↔ ∀ item ∈ items, item.isWhole = true := by
  induction items with
  | nil => simp [itemsWhole]
  | cons item rest ih => simp only [itemsWhole, Bool.and_eq_true, ih, List.forall_mem_cons]

theorem fieldsWhole_iff {fields : List (String × Json)} :
    fieldsWhole fields = true ↔ ∀ field ∈ fields, field.2.isWhole = true := by
  induction fields with
  | nil => simp [fieldsWhole]
  | cons field rest ih => simp only [fieldsWhole, Bool.and_eq_true, ih, List.forall_mem_cons]

theorem isWhole_array {items : List Json} :
    (Json.array items).isWhole = true ↔ ∀ item ∈ items, item.isWhole = true := by
  rw [isWhole, itemsWhole_iff]

theorem isWhole_object {fields : Fields} :
    (Json.object fields).isWhole = true ↔ ∀ field ∈ fields, field.2.isWhole = true := by
  rw [isWhole, fieldsWhole_iff]

mutual

/-- Only the two floating-point zeros are equal without being identical. -/
theorem same_eq_identical {a : Json} (whole : a.isWhole = true) (b : Json) :
    same a b = identical a b := by
  cases a with
  | number a =>
    cases a with
    | float => cases whole
    | int a =>
      cases b with
      | number b => cases b <;> simp [same, identical, Number.same]
      | _ => rfl
  | array as =>
    cases b with
    | array bs => exact sameItems_eq_identical whole bs
    | _ => rfl
  | object as =>
    cases b with
    | object bs => exact sameFields_eq_identical whole bs
    | _ => rfl
  | _ => cases b <;> rfl

theorem sameItems_eq_identical {as : List Json} (whole : itemsWhole as = true) (bs : List Json) :
    sameItems as bs = identicalItems as bs := by
  match as, bs with
  | [], [] => rfl
  | [], _ :: _ => rfl
  | _ :: _, [] => rfl
  | a :: as, b :: bs =>
    simp only [itemsWhole, Bool.and_eq_true] at whole
    simp only [sameItems, identicalItems, same_eq_identical whole.1 b,
      sameItems_eq_identical whole.2 bs]

theorem sameFields_eq_identical {as : List (String × Json)} (whole : fieldsWhole as = true)
    (bs : List (String × Json)) : sameFields as bs = identicalFields as bs := by
  match as, bs with
  | [], [] => rfl
  | [], _ :: _ => rfl
  | _ :: _, [] => rfl
  | (k, a) :: as, (l, b) :: bs =>
    simp only [fieldsWhole, Bool.and_eq_true] at whole
    simp only [sameFields, identicalFields, same_eq_identical whole.1 b,
      sameFields_eq_identical whole.2 bs]

end

/-- Where no such number occurs, a comparison of values may be read as equality of documents. -/
theorem same_iff_eq {a : Json} (whole : a.isWhole = true) (b : Json) : same a b = true ↔ a = b := by
  rw [same_eq_identical whole, identical_iff]

namespace Fields

theorem nodup_filter {fields : Fields} (nodup : (fields.map Prod.fst).Nodup) (p : String × Json → Bool) :
    ((fields.filter p).map Prod.fst).Nodup :=
  nodup.sublist (List.filter_sublist.map _)

theorem get?_filter {fields : Fields} (nodup : (fields.map Prod.fst).Nodup)
    (p : String × Json → Bool) (key : String) :
    get? (fields.filter p) key = (fields.get? key).filter fun value => p (key, value) := by
  apply Option.ext
  intro value
  rw [get?_eq_some_iff (nodup_filter nodup p), Option.filter_eq_some_iff, get?_eq_some_iff nodup, List.mem_filter]

theorem get?_map_null (fields : Fields) (key : String) :
    get? (fields.map fun field => (field.1, .null)) key = (fields.get? key).map fun _ => .null := by
  induction fields with
  | nil => rfl
  | cons field rest ih =>
    rw [List.map_cons, get?_cons, get?_cons, ih]
    split <;> rfl

/-- A patch never names a key twice, so that each of its fields has an effect. -/
theorem nodup_patchTo (before after : Fields) : ((before.patchTo after).map Prod.fst).Nodup :=
  (ascending_ofList _).nodup

/-- The patch carries what is new or differs and null for what is gone. -/
theorem get?_patchTo {before after : Fields} (beforeNodup : (before.map Prod.fst).Nodup)
    (afterNodup : (after.map Prod.fst).Nodup) (key : String) :
    (before.patchTo after).get? key =
      match after.get? key with
      | some value => if before.holds key value then none else some value
      | none => (before.get? key).map fun _ => .null := by
  have apart : (((after.filter fun field => !before.holds field.1 field.2) ++
      (before.filter fun field => !after.contains field.1).map fun field =>
        (field.1, Json.null)).map Prod.fst).Nodup := by
    rw [List.map_append, List.map_map]
    refine List.nodup_append.mpr ⟨nodup_filter afterNodup _, nodup_filter beforeNodup _,
      fun k hk l hl same => ?_⟩
    obtain ⟨kept, keptMem, rfl⟩ := List.mem_map.mp hk
    obtain ⟨gone, goneMem, rfl⟩ := List.mem_map.mp hl
    have found := get?_of_mem afterNodup (List.mem_filter.mp keptMem).1
    have absent := (List.mem_filter.mp goneMem).2
    simp only [Function.comp_apply] at same
    simp [contains, ← same, found] at absent
  rw [patchTo, get?_ofList, last?_eq_get? apart, get?_append, get?_map_null,
    get?_filter afterNodup, get?_filter beforeNodup]
  cases found : after.get? key with
  | none => cases before.get? key <;> simp [contains, found]
  | some value =>
    simp only [Option.filter_some]
    cases held : before.holds key value <;> simp [contains, found]

section

variable {before after : Fields} (beforeNodup : (before.map Prod.fst).Nodup)
  (afterNodup : (after.map Prod.fst).Nodup) {key : String}

include beforeNodup afterNodup

/-- Where the objects agree the patch is silent. -/
theorem get?_patchTo_of_sameAt (same : before.SameAt after key) : (before.patchTo after).get? key = none := by
  rw [get?_patchTo beforeNodup afterNodup]
  cases carried : after.get? key with
  | none => simp only [(sameAt_iff_of_none carried).mp same, Option.map_none]
  | some value => simp only [(sameAt_iff_of_some carried).mp same, if_true]

/-- Where the objects differ the patch gives what the second has, or null if that has nothing. -/
theorem get?_patchTo_of_unlike (unlike : ¬ before.SameAt after key) :
    (before.patchTo after).get? key = some ((after.get? key).getD .null) := by
  rw [get?_patchTo beforeNodup afterNodup]
  cases carried : after.get? key with
  | none =>
    obtain ⟨old, found⟩ := Option.ne_none_iff_exists'.mp (unlike ∘ (sameAt_iff_of_none carried).mpr)
    simp only [found, Option.map_some, Option.getD_none]
  | some value =>
    have differs := unlike ∘ (sameAt_iff_of_some carried).mpr
    simp only [if_neg differs, Option.getD_some]

/-- The keys of a patch are exactly those at which the objects differ; no other would be needed. -/
theorem contains_patchTo_iff : (before.patchTo after).contains key = true ↔ ¬ before.SameAt after key := by
  by_cases same : before.SameAt after key
  · rw [contains, get?_patchTo_of_sameAt beforeNodup afterNodup same]
    exact iff_of_false Bool.false_ne_true (not_not_intro same)
  · rw [contains, get?_patchTo_of_unlike beforeNodup afterNodup same]
    exact iff_of_true rfl same

end

theorem sameAt_iff_of_whole {before after : Fields} (whole : ∀ field ∈ before, field.2.isWhole = true)
    (key : String) : before.SameAt after key ↔ before.get? key = after.get? key := by
  cases carried : after.get? key with
  | none => exact sameAt_iff_of_none carried
  | some value =>
    rw [sameAt_iff_of_some carried, holds]
    cases found : before.get? key with
    | none => exact iff_of_false Bool.false_ne_true (Option.some_ne_none value).symm
    | some old => rw [Option.some.injEq, same_iff_eq (whole _ (mem_of_get? found))]

/-- Without floating-point numbers the patch names the keys whose values are not the same ones. -/
theorem get?_patchTo_whole {before after : Fields} (beforeNodup : (before.map Prod.fst).Nodup)
    (afterNodup : (after.map Prod.fst).Nodup) (whole : ∀ field ∈ before, field.2.isWhole = true)
    (key : String) :
    (before.patchTo after).get? key =
      if before.get? key = after.get? key then none else some ((after.get? key).getD .null) := by
  have same_iff : before.SameAt after key ↔ _ := sameAt_iff_of_whole whole key
  split
  · rename_i same
    exact get?_patchTo_of_sameAt beforeNodup afterNodup (same_iff.mpr same)
  · rename_i unlike
    exact get?_patchTo_of_unlike beforeNodup afterNodup (unlike ∘ same_iff.mp)

section

variable {join : Option Json → Json → Json} {fields patch after : Fields} {key : String}
  (nodup : (patch.map Prod.fst).Nodup)

include nodup

theorem sameAt_laid_of_none (left : patch.get? key = none) :
    (fields.laid join patch).SameAt after key ↔ fields.SameAt after key := by
  have carried := get?_laid nodup join fields key
  rw [left] at carried
  rw [SameAt, SameAt, carried]

/-- Null in a patch brings about absence, whatever was there before. -/
theorem sameAt_laid_of_null (patched : patch.get? key = some .null) (gone : after.get? key = none) :
    (fields.laid join patch).SameAt after key := by
  rw [sameAt_iff_of_none gone, get?_laid nodup, patched]
  rfl

/-- Where a patch has the value wanted, it is there afterwards unless it is null or joined to another. -/
theorem sameAt_laid_of_some {value : Json} (patched : patch.get? key = some value)
    (wanted : after.get? key = some value) :
    (fields.laid join patch).SameAt after key ↔
      value ≠ .null ∧ (join (fields.get? key) value).same value = true := by
  have carried := get?_laid nodup join fields key
  rw [patched] at carried
  rw [sameAt_iff_of_some wanted, holds, carried]
  cases value <;> simp [isNull]

end

theorem eq_nil_iff_get? {fields : Fields} : fields = [] ↔ ∀ key, fields.get? key = none := by
  constructor
  · rintro rfl key
    rfl
  · intro absent
    cases fields with
    | nil => rfl
    | cons field rest =>
      have first := absent field.1
      rw [get?_cons, if_pos rfl] at first
      cases first

end Fields

end InstallStatus.Json
