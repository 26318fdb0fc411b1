import Mathlib
import InstallStatus.Json.MergePatch
import InstallStatus.Proofs.PatchLaws

/-!
When the patch between two objects, laid over the first, gives the second. The patch holds each changed
member whole, but is laid over the old member at every depth: a null within the new member takes a key
out, and a key that the new member lacks stays.
-/

namespace InstallStatus.Json

/-- A document is reached from the members of its objects. -/
@[elab_as_elim]
theorem memberInduction {motive : Json → Prop}
    (step : ∀ document : Json,
      (∀ key value, document.fields.get? key = some value → motive value) → motive document)
    (document : Json) : motive document :=
  step document fun _ value _ => memberInduction step value
termination_by document
decreasing_by
  rename_i found
  cases document with
  | object fields =>
    have smaller : sizeOf _ < sizeOf fields := List.sizeOf_lt_of_mem (Fields.mem_of_get? found)
    simp only [Prod.mk.sizeOf_spec] at smaller
    simp only [object.sizeOf_spec]
    omega
  | _ => cases found

/-- The value behind a path of keys that leads through objects only. -/
def at? : Json → List String → Option Json
  | document, [] => some document
  | document, key :: path => (document.fields.get? key).bind fun value => value.at? path

/-- Neither the document nor any value that objects alone lead to is null. -/
def NullFree (document : Json) : Prop := ∀ path, document.at? path ≠ some .null

/-- Wherever a path leads to objects in both documents, the new one has every key of the old one. -/
def KeepsKeys (old new : Json) : Prop :=
  ∀ path (before after : Fields), old.at? path = some (.object before) → new.at? path = some (.object after) →
    ∀ key, before.contains key = true → after.contains key = true

theorem nullFree_iff {document : Json} :
    document.NullFree ↔
      document ≠ .null ∧ ∀ key value, document.fields.get? key = some value → value.NullFree := by
  constructor
  · intro free
    refine ⟨fun null => free [] (congrArg some null), fun key value found path reached => ?_⟩
    refine free (key :: path) ?_
    rw [at?, found]
    exact reached
  · rintro ⟨present, inner⟩ path reached
    cases path with
    | nil => exact present (Option.some.inj reached)
    | cons key path =>
      obtain ⟨value, found, further⟩ := Option.bind_eq_some_iff.mp reached
      exact inner key value found path further

theorem keepsKeys_of_leaf {new : Json} (leaf : ∀ fields, new ≠ .object fields) (old : Json) :
    old.KeepsKeys new := by
  intro path before after _ there
  have bare : new.fields = [] := by
    cases new with
    | object fields => exact absurd rfl (leaf fields)
    | _ => rfl
  cases path with
  | nil => exact absurd (Option.some.inj there) (leaf after)
  | cons key path =>
    rw [at?, bare] at there
    cases there

theorem Fields.contains_imp_iff {before after : Fields} {key : String} :
    (before.contains key = true → after.contains key = true) ↔
      (after.get? key = none → before.get? key = none) := by
  rw [contains, contains]
  cases before.get? key <;> cases after.get? key <;> simp

/-- A merge takes no key out unless it is told to with null, so a key that is to go must not have been
there. -/
theorem keepsKeys_object {old : Json} {new : Fields} :
    old.KeepsKeys (.object new) ↔
      (∀ key, new.get? key = none → old.fields.get? key = none) ∧
        ∀ key oldValue value, old.fields.get? key = some oldValue → new.get? key = some value →
          oldValue.KeepsKeys value := by
  constructor
  · intro keeps
    refine ⟨fun key lacked => ?_, fun key oldValue value found carried path before after here there => ?_⟩
    · cases old with
      | object before => exact Fields.contains_imp_iff.mp (keeps [] before new rfl rfl key) lacked
      | _ => rfl
    · refine keeps (key :: path) before after ?_ ?_
      · rw [at?, found]
        exact here
      · rw [at?, fields, carried]
        exact there
  · rintro ⟨top, inner⟩ path before after here there key
    cases path with
    | nil =>
      obtain rfl := Option.some.inj here
      obtain rfl := object.inj (Option.some.inj there)
      exact Fields.contains_imp_iff.mpr (top key)
    | cons step path =>
      obtain ⟨oldValue, found, here⟩ := Option.bind_eq_some_iff.mp here
      obtain ⟨value, carried, there⟩ := Option.bind_eq_some_iff.mp there
      exact inner step oldValue value found carried path before after here there key

theorem keepsKeys_getD {fields : Fields} {key : String} {value : Json} :
    ((fields.get? key).getD .null).KeepsKeys value ↔
      ∀ old, fields.get? key = some old → old.KeepsKeys value := by
  cases fields.get? key with
  | none =>
    refine ⟨fun _ old found => (nomatch found), fun _ path before after here => ?_⟩
    cases path <;> cases here
  | some old => exact ⟨fun keeps _ found => Option.some.inj found ▸ keeps, fun keeps => keeps old rfl⟩

/-- One level of a merge: given how each member of the new object fares, how the object itself fares. -/
theorem same_merge_object {target : Json} {new : Fields} (targetSorted : target.isSorted = true)
    (ascending : new.Ascending)
    (members : ∀ key value, new.get? key = some value →
      (value ≠ .null ∧ (mergeOver (target.fields.get? key) value).same value = true ↔
        value.NullFree ∧ ((target.fields.get? key).getD .null).KeepsKeys value)) :
    (target.merge (.object new)).same (.object new) = true ↔
      (Json.object new).NullFree ∧ target.KeepsKeys (.object new) := by
  have carried_iff : ∀ {key value}, new.get? key = some value →
      ((target.fields.laid mergeOver new).SameAt new key ↔
        value.NullFree ∧ ∀ old, target.fields.get? key = some old → old.KeepsKeys value) :=
    fun {key value} carried => (Fields.sameAt_laid_of_some ascending.nodup carried carried).trans
      ((members key value carried).trans (and_congr_right fun _ => keepsKeys_getD))
  have lacked_iff : ∀ {key}, new.get? key = none →
      ((target.fields.laid mergeOver new).SameAt new key ↔ target.fields.get? key = none) :=
    fun lacked => (Fields.sameAt_laid_of_none ascending.nodup lacked).trans
      (Fields.sameAt_iff_of_none lacked)
  rw [merge, same, mergeFields_eq_laid,
    Fields.sameFields_iff ((sorted_fields targetSorted).1.laid mergeOver new) ascending]
  constructor
  · intro agree
    refine ⟨nullFree_iff.mpr ⟨nofun, fun key value carried => ?_⟩, keepsKeys_object.mpr
      ⟨fun key lacked => (lacked_iff lacked).mp (agree key), fun key old value found carried => ?_⟩⟩
    · exact ((carried_iff carried).mp (agree key)).1
    · exact ((carried_iff carried).mp (agree key)).2 old found
  · rintro ⟨free, keeps⟩ key
    have inner := (nullFree_iff.mp free).2 key
    obtain ⟨top, kept⟩ := keepsKeys_object.mp keeps
    cases carried : new.get? key with
    | none => exact (lacked_iff carried).mpr (top key carried)
    | some value =>
      exact (carried_iff carried).mpr
        ⟨inner value carried, fun old found => kept key old value found carried⟩

/-- A value laid over a target gives itself again exactly if no null hides in it and it has every key of
the target that the merge would leave there. -/
theorem same_merge_iff {target value : Json} (targetSorted : target.isSorted = true)
    (sorted : value.isSorted = true) :
    value ≠ .null ∧ (target.merge value).same value = true ↔ value.NullFree ∧ target.KeepsKeys value := by
  -- The target goes down with the value: below a key stands what the target has there, null if nothing.
  induction value using memberInduction generalizing target with
  | step value ih =>
    cases value with
    | object new =>
      obtain ⟨ascending, inner⟩ := isSorted_object.mp sorted
      have level := same_merge_object targetSorted ascending fun key value carried =>
        ih key value carried ((sorted_fields targetSorted).getD key) (inner _ (Fields.mem_of_get? carried))
      exact (and_iff_right nofun).trans level
    | null => exact ⟨fun both => absurd rfl both.1, fun both => absurd rfl (both.1 [])⟩
    | _ =>
      refine ⟨fun _ => ⟨nullFree_iff.mpr ⟨nofun, ?_⟩, keepsKeys_of_leaf ?_ target⟩,
        fun _ => ⟨nofun, same_self _⟩⟩
      · intro key value found
        cases found
      · intro fields same
        cases same

/-- A key on which two objects agree is left alone, one that the second lacks is taken out, and any other is
merged. -/
theorem sameAt_patched_iff {before after : Fields} (beforeSorted : before.Sorted) (afterSorted : after.Sorted)
    (key : String) :
    (before.laid mergeOver (before.patchTo after)).SameAt after key ↔
      ∀ value, after.get? key = some value → ¬ before.SameAt after key →
        value.NullFree ∧ ∀ old, before.get? key = some old → old.KeepsKeys value := by
  have nodup := Fields.nodup_patchTo before after
  by_cases held : before.SameAt after key
  · have left := Fields.get?_patchTo_of_sameAt beforeSorted.nodup afterSorted.nodup held
    exact iff_of_true ((Fields.sameAt_laid_of_none nodup left).mpr held) fun _ _ changed => absurd held changed
  · have patched := Fields.get?_patchTo_of_unlike beforeSorted.nodup afterSorted.nodup held
    cases carried : after.get? key with
    | none =>
      rw [carried, Option.getD_none] at patched
      exact iff_of_true (Fields.sameAt_laid_of_null nodup patched carried) nofun
    | some value =>
      rw [carried, Option.getD_some] at patched
      have merged := same_merge_iff (beforeSorted.getD key) (afterSorted.get? carried)
      rw [Fields.sameAt_laid_of_some nodup patched carried, mergeOver, merged, keepsKeys_getD]
      constructor
      · intro fits other same _
        obtain rfl := Option.some.inj same
        exact fits
      · intro fits
        exact fits value rfl held

/-- What the patch between two objects, if there is one, makes of the first. -/
theorem patched_eq (before after : Fields) :
    ∃ patch?, patchBetween (.object before) (.object after) = .ok patch? ∧
      patch?.elim (.object before) (Json.object before).merge =
        .object (before.laid mergeOver (before.patchTo after)) := by
  refine ⟨_, rfl, ?_⟩
  rw [← mergeFields_eq_laid]
  cases before.patchTo after <;> rfl

/-- Laying the patch between two objects over the first gives the second exactly if no null hides in a
changed member, itself included, and every object within it has the keys of the object that it is laid over. -/
theorem patched_same_iff {before after : Fields} (beforeSorted : (Json.object before).isSorted = true)
    (afterSorted : (Json.object after).isSorted = true) :
    ∃ patch?, patchBetween (.object before) (.object after) = .ok patch? ∧
      ((patch?.elim (.object before) (Json.object before).merge).same (.object after) = true ↔
        ∀ key value, after.get? key = some value → ¬ before.SameAt after key →
          value.NullFree ∧ ∀ old, before.get? key = some old → old.KeepsKeys value) := by
  have beforeFields := isSorted_object.mp beforeSorted
  have afterFields := isSorted_object.mp afterSorted
  obtain ⟨patch?, between, laid⟩ := patched_eq before after
  refine ⟨patch?, between, ?_⟩
  rw [laid, same, Fields.sameFields_iff (beforeFields.1.laid mergeOver _) afterFields.1]
  exact forall_congr' (sameAt_patched_iff beforeFields afterFields)

/-- A key dropped one level down is still there after the patch. -/
theorem patched_same_iff_nested :
    let before : Fields := [("a", .object [("x", nat 1), ("y", nat 2)])]
    let after : Fields := [("a", .object [("x", nat 1)])]
    (Json.object before).isSorted = true ∧ (Json.object after).isSorted = true ∧
      ∃ patch?, patchBetween (.object before) (.object after) = .ok patch? ∧
        (patch?.elim (.object before) (Json.object before).merge).same (.object after) = false := by
  intro before after
  have beforeSorted : (Json.object before).isSorted = true := by decide
  have afterSorted : (Json.object after).isSorted = true := by decide
  obtain ⟨patch?, between, same_iff⟩ := patched_same_iff beforeSorted afterSorted
  refine ⟨beforeSorted, afterSorted, patch?, between, Bool.eq_false_iff.mpr fun same => ?_⟩
  have unlike : ¬ before.SameAt after "a" := by
    rw [Fields.sameAt_iff_of_some rfl]
    decide
  have keeps := (same_iff.mp same "a" _ rfl unlike).2 _ rfl
  have kept := keeps [] _ _ rfl rfl "y" rfl
  cases kept

end InstallStatus.Json
