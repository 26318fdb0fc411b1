import Mathlib
import InstallStatus.Projection
import InstallStatus.Proofs.PatchLaws

/-!
The patch between two documents names exactly the keys at which they differ. Laid key by key over the
first it gives the second, and no part of it does.
-/

namespace InstallStatus.Json

/-- A document that may be patched: an object, or null, which stands for an object without fields. -/
def IsPatchable (document : Json) : Prop := document = .null ∨ ∃ fields, document = .object fields

theorem patchable_of_isPatchable {document : Json} (fit : document.IsPatchable) :
    patchable document = .ok document.fields := by
  rcases fit with rfl | ⟨fields, rfl⟩ <;> rfl

theorem patchable_of_unfit {document : Json} (unfit : ¬ document.IsPatchable) :
    patchable document = .error document := by
  cases document with
  | null => exact absurd (.inl rfl) unfit
  | object fields => exact absurd (.inr ⟨fields, rfl⟩) unfit
  | _ => rfl

/-- The first document is looked at first, and the failure names the one that is at fault. -/
theorem patchBetween_eq_error_iff {before after document : Json} :
    patchBetween before after = .error document ↔
      ¬ before.IsPatchable ∧ document = before ∨
        before.IsPatchable ∧ ¬ after.IsPatchable ∧ document = after := by
  by_cases first : before.IsPatchable
  · by_cases second : after.IsPatchable
    · simp [patchBetween, patchable_of_isPatchable first, patchable_of_isPatchable second, first, second,
        bind, Except.bind, pure, Except.pure]
    · simp [patchBetween, patchable_of_isPatchable first, patchable_of_unfit second, first, second,
        bind, Except.bind, eq_comm]
  · simp [patchBetween, patchable_of_unfit first, first, bind, Except.bind, eq_comm]

theorem patchBetween_of_isPatchable {before after : Json} (first : before.IsPatchable)
    (second : after.IsPatchable) :
    patchBetween before after =
      .ok (if (before.fields.patchTo after.fields).isEmpty then none
        else some (.object (before.fields.patchTo after.fields))) := by
  rw [patchBetween, patchable_of_isPatchable first, patchable_of_isPatchable second]
  rfl

namespace Fields

/-- The fields with those of a patch laid over them, each value whole: null takes a key out. -/
def overlay (fields patch : Fields) : Fields := fields.laid (fun _ value => value) patch

theorem Ascending.overlay {fields : Fields} (ascending : fields.Ascending) (patch : Fields) :
    (fields.overlay patch).Ascending :=
  ascending.laid _ patch

section

variable {before after : Fields} (ascending : before.Ascending) (ascending' : after.Ascending)
  (kept : String → Bool)

include ascending ascending'

/-- A part of the patch, laid over the first object, agrees with the second where the two agreed before and
where the part was left in. -/
theorem sameAt_overlay_iff {key : String} (present : after.get? key ≠ some .null) :
    (before.overlay ((before.patchTo after).filter fun field => kept field.1)).SameAt after key ↔
      before.SameAt after key ∨ kept key = true := by
  have nodup := nodup_patchTo before after
  have part := nodup_filter nodup fun field => kept field.1
  have patched := get?_filter nodup (fun field => kept field.1) key
  by_cases same : before.SameAt after key
  · rw [get?_patchTo_of_sameAt ascending.nodup ascending'.nodup same, Option.filter_none] at patched
    exact iff_of_true ((sameAt_laid_of_none part patched).mpr same) (.inl same)
  · rw [get?_patchTo_of_unlike ascending.nodup ascending'.nodup same, Option.filter_some] at patched
    cases left : kept key with
    | false =>
      simp only [left, Bool.false_eq_true, if_false] at patched
      exact iff_of_false (same ∘ (sameAt_laid_of_none part patched).mp)
        (not_or_intro same Bool.false_ne_true)
    | true =>
      simp only [left, if_true] at patched
      refine iff_of_true ?_ (.inr rfl)
      cases carried : after.get? key with
      | none =>
        rw [carried, Option.getD_none] at patched
        exact sameAt_laid_of_null part patched carried
      | some value =>
        rw [carried, Option.getD_some] at patched
        have notNull : value ≠ .null := fun null => present (carried.trans (congrArg some null))
        exact (sameAt_laid_of_some part patched carried).mpr ⟨notNull, same_self value⟩

/-- The parts of the patch that do its work are those that leave out none of its keys. -/
theorem sameFields_overlay_iff (present : ∀ key, after.get? key ≠ some .null) :
    sameFields (before.overlay ((before.patchTo after).filter fun field => kept field.1)) after = true ↔
      ∀ key, (before.patchTo after).contains key = true → kept key = true := by
  rw [sameFields_iff (ascending.overlay _) ascending']
  refine forall_congr' fun key => ?_
  rw [sameAt_overlay_iff ascending ascending' kept (present key),
    contains_patchTo_iff ascending.nodup ascending'.nodup, or_iff_not_imp_left]

end

theorem patchTo_eq_nil_iff {before after : Fields} (ascending : before.Ascending)
    (ascending' : after.Ascending) : before.patchTo after = [] ↔ sameFields before after = true := by
  rw [eq_nil_iff_get?, sameFields_iff ascending ascending']
  refine forall_congr' fun key => ?_
  rw [← not_iff_not, ← contains_patchTo_iff ascending.nodup ascending'.nodup, contains,
    Option.isSome_iff_ne_none]

/-- A patch that names the keys at which two objects differ, and no others. Where the second object has no
null of its own, the patch makes the second of the first, and no part of the patch does. -/
structure IsExact (patch before after : Fields) : Prop where
  names : ∀ key, patch.contains key = true ↔ ¬ before.SameAt after key
  enough : (∀ key, after.get? key ≠ some .null) → sameFields (before.overlay patch) after = true
  needed : (∀ key, after.get? key ≠ some .null) →
    ∀ kept : String → Bool, (∃ key, patch.contains key = true ∧ kept key = false) →
      sameFields (before.overlay (patch.filter fun field => kept field.1)) after = false

/-- Each part of the patch is needed and all of them together are enough. -/
theorem isExact_patchTo {before after : Fields} (ascending : before.Ascending)
    (ascending' : after.Ascending) : (before.patchTo after).IsExact before after where
  names _ := contains_patchTo_iff ascending.nodup ascending'.nodup
  enough present := by
    have whole := (sameFields_overlay_iff ascending ascending' (fun _ => true) present).mpr fun _ _ => rfl
    rwa [List.filter_true] at whole
  needed present kept dropped := by
    obtain ⟨key, named, left⟩ := dropped
    refine Bool.eq_false_iff.mpr fun same => ?_
    have stays := (sameFields_overlay_iff ascending ascending' kept present).mp same key named
    rw [left] at stays
    cases stays

end Fields

/-- The patch between two documents fails exactly on one that is neither an object nor null, the first such.
Otherwise there is none for equal objects, and an exact one for others. -/
theorem patchBetween_exact {before after : Json} (beforeSorted : before.isSorted = true)
    (afterSorted : after.isSorted = true) :
    (∀ failure, (patchBetween before after).mapError Failure.ofUnpatchable = .error failure ↔
      ¬ before.IsPatchable ∧ failure = .ofUnpatchable before ∨
        before.IsPatchable ∧ ¬ after.IsPatchable ∧ failure = .ofUnpatchable after) ∧
    (before.IsPatchable → after.IsPatchable →
      ∃ patch?, patchBetween before after = .ok patch? ∧
        (patch? = none ↔ sameFields before.fields after.fields = true) ∧
        ∀ document, patch? = some document →
          ∃ patch : Fields, document = .object patch ∧ patch.IsExact before.fields after.fields) := by
  obtain ⟨ascending, -⟩ := sorted_fields beforeSorted
  obtain ⟨ascending', -⟩ := sorted_fields afterSorted
  refine ⟨fun failure => ⟨fun failed => ?_, ?_⟩, fun first second => ?_⟩
  · cases result : patchBetween before after with
    | ok patch? =>
      rw [result] at failed
      cases failed
    | error document =>
      rw [result] at failed
      obtain rfl := Except.error.inj failed
      rcases patchBetween_eq_error_iff.mp result with ⟨unfit, rfl⟩ | ⟨fit, unfit, rfl⟩
      · exact .inl ⟨unfit, rfl⟩
      · exact .inr ⟨fit, unfit, rfl⟩
  · rintro (⟨unfit, rfl⟩ | ⟨fit, unfit, rfl⟩)
    · rw [patchBetween_eq_error_iff.mpr (.inl ⟨unfit, rfl⟩)]
      rfl
    · rw [patchBetween_eq_error_iff.mpr (.inr ⟨fit, unfit, rfl⟩)]
      rfl
  · refine ⟨_, patchBetween_of_isPatchable first second, ?_, fun document found => ?_⟩
    · rw [← Fields.patchTo_eq_nil_iff ascending ascending', ← List.isEmpty_iff]
      split
      · rename_i empty
        exact iff_of_true rfl empty
      · rename_i nonempty
        exact iff_of_false nofun nonempty
    · split at found
      · cases found
      · obtain rfl := Option.some.inj found
        exact ⟨_, rfl, Fields.isExact_patchTo ascending ascending'⟩

/-- A null that the second object lacks is a difference: the patch names its key, and needs to. -/
theorem patchBetween_exact_sample :
    let before : Fields := [("a", nat 1), ("b", .array [nat 1]), ("gone", .string "x"), ("n", .null)]
    let after : Fields := [("a", nat 2), ("b", .array [nat 1]), ("d", .bool true)]
    (Json.object before).isSorted = true ∧ (Json.object after).isSorted = true ∧
      ∃ patch : Fields, patchBetween (.object before) (.object after) = .ok (some (.object patch)) ∧
        patch.contains "n" = true ∧ sameFields (before.overlay patch) after = true ∧
        sameFields (before.overlay (patch.filter fun field => field.1 != "n")) after = false := by
  intro before after
  have beforeSorted : (Json.object before).isSorted = true := by decide
  have afterSorted : (Json.object after).isSorted = true := by decide
  obtain ⟨patch?, between, none_iff, found⟩ :=
    (patchBetween_exact beforeSorted afterSorted).2 (.inr ⟨before, rfl⟩) (.inr ⟨after, rfl⟩)
  have differ : ¬ sameFields before after = true := by decide
  cases patch? with
  | none => exact absurd (none_iff.mp rfl) differ
  | some document =>
    obtain ⟨patch, rfl, exactly⟩ := found document rfl
    have present : ∀ key, after.get? key ≠ some .null := by
      intro key carried
      have member := Fields.mem_of_get? carried
      simp [after, nat] at member
    have named : patch.contains "n" = true := by
      rw [exactly.names, fields, fields, Fields.sameAt_iff_of_none rfl]
      decide
    exact ⟨beforeSorted, afterSorted, patch, between, named, exactly.enough present,
      exactly.needed present (fun key => key != "n") ⟨"n", named, by decide⟩⟩

end InstallStatus.Json
