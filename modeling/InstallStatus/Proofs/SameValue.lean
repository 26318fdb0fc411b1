import Mathlib
import InstallStatus.Json.MergePatch
import InstallStatus.Proofs.SortedFields

/-!
Equality of values, in which the two floating-point zeros are equal. Every document is equal to itself, and
sorted objects are equal exactly if each key carries equal values in both or stands in neither.
-/

namespace InstallStatus.Json

theorem Number.same_self (n : Number) : n.same n = true := by
  cases n with
  | int n => exact beq_self_eq_true n
  | float x => simp only [Number.same, Binary64.same, beq_self_eq_true, Bool.true_or, Bool.and_self]

mutual

/-- Values are equal to themselves, the floating-point ones included: there is none that is not. -/
theorem same_self (a : Json) : a.same a = true := by
  cases a with
  | null => rfl
  | bool b => exact beq_self_eq_true b
  | number n => exact n.same_self
  | string s => exact beq_self_eq_true s
  | array items => exact sameItems_self items
  | object fields => exact sameFields_self fields

theorem sameItems_self (items : List Json) : sameItems items items = true := by
  match items with
  | [] => rfl
  | item :: rest => rw [sameItems, same_self item, sameItems_self rest, Bool.and_self]

theorem sameFields_self (fields : List (String × Json)) : sameFields fields fields = true := by
  match fields with
  | [] => rfl
  | (key, value) :: rest =>
    rw [sameFields, beq_self_eq_true, same_self value, sameFields_self rest, Bool.and_self, Bool.and_self]

end

namespace Fields

/-- The key carries equal values in both objects, or stands in neither. -/
def SameAt (before after : Fields) (key : String) : Prop :=
  match before.get? key, after.get? key with
  | some old, some new => old.same new = true
  | none, none => True
  | _, _ => False

theorem sameAt_iff_of_some {before after : Fields} {key : String} {new : Json}
    (carried : after.get? key = some new) : before.SameAt after key ↔ before.holds key new = true := by
  rw [SameAt, holds, carried]
  cases before.get? key <;> simp

theorem sameAt_iff_of_none {before after : Fields} {key : String} (gone : after.get? key = none) :
    before.SameAt after key ↔ before.get? key = none := by
  rw [SameAt, gone]
  cases before.get? key <;> simp

/-- Lists of fields that are compared place by place agree at every key. -/
theorem sameAt_of_sameFields {as bs : Fields} (same : sameFields as bs = true) (key : String) :
    as.SameAt bs key := by
  induction as generalizing bs with
  | nil =>
    cases bs with
    | nil => exact trivial
    | cons field bs => cases same
  | cons field as ih =>
    cases bs with
    | nil => cases same
    | cons other bs =>
      obtain ⟨k, a⟩ := field
      obtain ⟨l, b⟩ := other
      simp only [sameFields, Bool.and_eq_true, beq_iff_eq] at same
      obtain ⟨⟨rfl, first⟩, rest⟩ := same
      by_cases here : key = k
      · simp only [SameAt, get?_cons, here, if_true, first]
      · simpa only [SameAt, get?_cons, here, if_false] using ih rest

theorem get?_eq_none_of_below {fields : Fields} {key : String} (below : ∀ field ∈ fields, key < field.1) :
    fields.get? key = none :=
  get?_eq_none_iff.mpr fun field member same => (below field member).ne same.symm

/-- A sorted object has no key below its first one. -/
theorem Ascending.get?_of_lt {first : String × Json} {rest : Fields}
    (ascending : Ascending (first :: rest)) {key : String} (less : key < first.1) :
    get? (first :: rest) key = none := by
  refine get?_eq_none_of_below fun field member => ?_
  rcases List.mem_cons.mp member with rfl | later
  · exact less
  · exact less.trans ((List.pairwise_cons.mp ascending).1 field later)

/-- Objects that agree at every key have the same fields. The keys have to ascend, so that the first
fields of both have the same key. -/
theorem sameFields_of_sameAt {as bs : Fields} (ascending : as.Ascending) (ascending' : bs.Ascending)
    (same : ∀ key, as.SameAt bs key) : sameFields as bs = true := by
  induction as generalizing bs with
  | nil =>
    cases bs with
    | nil => rfl
    | cons other bs =>
      have absent := same other.1
      simp only [SameAt, get?_nil, get?_cons, if_true] at absent
  | cons field as ih =>
    cases bs with
    | nil =>
      have absent := same field.1
      simp only [SameAt, get?_nil, get?_cons, if_true] at absent
    | cons other bs =>
      obtain ⟨k, a⟩ := field
      obtain ⟨l, b⟩ := other
      obtain ⟨above, tail⟩ := List.pairwise_cons.mp ascending
      obtain ⟨above', tail'⟩ := List.pairwise_cons.mp ascending'
      -- The smaller one of two unlike first keys would stand in one of the objects alone.
      have first : k = l := by
        rcases lt_trichotomy k l with less | equal | more
        · have absent := same k
          simp only [SameAt, ascending'.get?_of_lt less, get?_cons, if_true] at absent
        · exact equal
        · have absent := same l
          simp only [SameAt, ascending.get?_of_lt more, get?_cons, if_true] at absent
      subst first
      have here := same k
      simp only [SameAt, get?_cons, if_true] at here
      have rest : ∀ key, SameAt as bs key := by
        intro key
        by_cases again : key = k
        · subst again
          rw [SameAt, get?_eq_none_of_below above, get?_eq_none_of_below above']
          exact trivial
        · simpa only [SameAt, get?_cons, again, if_false] using same key
      rw [sameFields, beq_self_eq_true, here, ih tail tail' rest, Bool.and_self, Bool.and_self]

theorem sameFields_iff {as bs : Fields} (ascending : as.Ascending) (ascending' : bs.Ascending) :
    sameFields as bs = true ↔ ∀ key, as.SameAt bs key :=
  ⟨sameAt_of_sameFields, sameFields_of_sameAt ascending ascending'⟩

end Fields

end InstallStatus.Json
