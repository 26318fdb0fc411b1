import Mathlib
import InstallStatus.Proofs.Digits
import InstallStatus.Text.Word

/-!
How a number below `2 ^ 64` is written: in decimal digits, after a plus sign or without one. What is read as
a number is what is written so, and nothing else is; white space around it makes no difference.
-/

namespace InstallStatus.Text

/-- Digits that stand for a number below `2 ^ 64`. Zeros in front do not count. -/
structure Decimal (digits : List Char) (word : UInt64) : Prop where
  written : digits ≠ []
  decimal : ∀ c ∈ digits, isDigit c = true
  value : natOf digits = word.toNat

/-- The ways to write a number. -/
inductive Spells : List Char → UInt64 → Prop
  | plain {digits : List Char} {word : UInt64} (stands : Decimal digits word) : Spells digits word
  | signed {digits : List Char} {word : UInt64} (stands : Decimal digits word) : Spells ('+' :: digits) word

/-- A number with any amount of white space on either side. -/
def HoldsWord (text : String) (word : UInt64) : Prop :=
  ∃ before written after, text.toList = before ++ written ++ after ∧ (∀ c ∈ before, isBlank c = true) ∧
    (∀ c ∈ after, isBlank c = true) ∧ Spells written word

/-- The number that digits lead to from a number. -/
def natFrom (n : Nat) (digits : List Char) : Nat := digits.foldl (fun n c => n * 10 + digitValue c) n

/-- More digits never make a number less, so that a number that is too great stays so. -/
theorem le_natFrom (n : Nat) (digits : List Char) : n ≤ natFrom n digits := by
  induction digits generalizing n with
  | nil => exact le_rfl
  | cons c rest ih =>
    have step := ih (n * 10 + digitValue c)
    rw [natFrom, List.foldl_cons, ← natFrom]
    omega

/-- Reading stops at the first number that is too large. More digits would not make it smaller. -/
theorem readDigitsFrom_eq_ok_iff {n m : Nat} {cs : List Char} (bound : n < 2 ^ 64) :
    readDigitsFrom n cs = .ok m ↔ (∀ c ∈ cs, isDigit c = true) ∧ natFrom n cs = m ∧ m < 2 ^ 64 := by
  induction cs generalizing n with
  | nil =>
    simp only [readDigitsFrom, natFrom, List.foldl_nil, Except.ok.injEq, List.not_mem_nil, false_implies,
      implies_true, true_and]
    exact ⟨fun same => ⟨same, same ▸ bound⟩, And.left⟩
  | cons c rest ih =>
    have size : UInt64.size = 2 ^ 64 := rfl
    have further : natFrom n (c :: rest) = natFrom (n * 10 + digitValue c) rest := rfl
    rw [readDigitsFrom, List.forall_mem_cons, further, size]
    by_cases digit : isDigit c = true
    · by_cases fits : n * 10 + digitValue c < 2 ^ 64
      · simp only [digit, fits, Bool.not_true, Bool.false_eq_true, if_false, if_true, true_and]
        exact ih fits
      · have grows := le_natFrom (n * 10 + digitValue c) rest
        simp only [digit, fits, Bool.not_true, Bool.false_eq_true, if_false, true_and]
        refine ⟨nofun, fun ⟨_, same, inside⟩ => ?_⟩
        omega
    · simp only [digit, Bool.not_false, if_true, Bool.false_eq_true, false_and, iff_false]
      exact nofun

/-- The digits are read one by one and given up as soon as the number is too great; only the whole number
counts. -/
theorem readDigits_eq_ok_iff {digits : List Char} {word : UInt64} (written : digits ≠ []) :
    (readDigitsFrom 0 digits).map Nat.toUInt64 = .ok word ↔ Decimal digits word := by
  constructor
  · intro read
    cases found : readDigitsFrom 0 digits with
    | error cause =>
      rw [found] at read
      cases read
    | ok n =>
      rw [found] at read
      obtain ⟨decimal, value, inside⟩ := (readDigitsFrom_eq_ok_iff (by decide)).mp found
      obtain rfl : n.toUInt64 = word := Except.ok.inj read
      exact ⟨written, decimal, value.trans (UInt64.toNat_ofNat_of_lt inside).symm⟩
  · rintro ⟨_, decimal, value⟩
    have read : readDigitsFrom 0 digits = .ok word.toNat :=
      (readDigitsFrom_eq_ok_iff (by decide)).mpr ⟨decimal, value, word.toNat_lt⟩
    rw [read]
    exact congrArg Except.ok (UInt64.ofNat_toNat)

theorem not_decimal_plus (rest : List Char) (word : UInt64) : ¬ Decimal ('+' :: rest) word := fun stands =>
  absurd (stands.decimal '+' (List.mem_cons_self ..)) (by decide)

theorem spells_plus_iff {digits : List Char} {word : UInt64} : Spells ('+' :: digits) word ↔ Decimal digits word := by
  constructor
  · intro spelt
    cases spelt with
    | plain stands => exact absurd stands (not_decimal_plus digits word)
    | signed stands => exact stands
  · exact .signed

theorem spells_iff_of_head {cs : List Char} {word : UInt64} (unsigned : ∀ rest, cs ≠ '+' :: rest) :
    Spells cs word ↔ Decimal cs word := by
  constructor
  · intro spelt
    cases spelt with
    | plain stands => exact stands
    | signed _ => exact absurd rfl (unsigned _)
  · exact .plain

/-- What is read as a number is what spells it. -/
theorem readWord_eq_ok_iff {cs : List Char} {word : UInt64} : readWord cs = .ok word ↔ Spells cs word := by
  unfold readWord
  split
  · rw [spells_iff_of_head (by simp)]
    exact ⟨nofun, fun stands => absurd rfl stands.written⟩
  · rw [spells_plus_iff]
    exact ⟨nofun, fun stands => absurd rfl stands.written⟩
  · rename_i digits more
    have written : digits ≠ [] := fun none => more none
    rw [spells_plus_iff, readDigits_eq_ok_iff written]
  · rename_i written _ unsigned
    rw [spells_iff_of_head unsigned, readDigits_eq_ok_iff written]

theorem Spells.ne_nil {cs : List Char} {word : UInt64} (spelt : Spells cs word) : cs ≠ [] := by
  cases spelt with
  | plain stands => exact stands.written
  | signed _ => exact List.cons_ne_nil _ _

/-- A number has no white space in it, so that what is trimmed is what stands around it. -/
theorem Spells.not_isBlank {cs : List Char} {word : UInt64} (spelt : Spells cs word) :
    ∀ c ∈ cs, isBlank c = false := by
  cases spelt with
  | plain stands => exact fun c member => not_isBlank_of_isDigit (stands.decimal c member)
  | signed stands =>
    refine List.forall_mem_cons.mpr ⟨by decide, fun c member => ?_⟩
    exact not_isBlank_of_isDigit (stands.decimal c member)

theorem trimStart_append {before cs : List Char} (blank : ∀ c ∈ before, isBlank c = true) :
    trimStart (before ++ cs) = trimStart cs :=
  List.dropWhile_append_of_pos blank

theorem trimEnd_append {cs after : List Char} (blank : ∀ c ∈ after, isBlank c = true) :
    trimEnd (cs ++ after) = trimEnd cs := by
  have blank' : ∀ c ∈ after.reverse, isBlank c = true := fun c member => blank c (List.mem_reverse.mp member)
  rw [trimEnd, List.reverse_append, List.dropWhile_append_of_pos blank', ← trimEnd]

/-- The white space around a text is cut off and no more than that. -/
theorem trim_eq {before solid after : List Char} (blank : ∀ c ∈ before, isBlank c = true)
    (blank' : ∀ c ∈ after, isBlank c = true) (nonempty : solid ≠ []) (visible : ∀ c ∈ solid, isBlank c = false) :
    trim (before ++ solid ++ after) = solid := by
  have first : trimStart (before ++ solid ++ after) = solid ++ after := by
    rw [List.append_assoc, trimStart_append blank]
    refine trimStart_of_head fun c head => visible c ?_
    rw [List.head?_append_of_ne_nil _ nonempty] at head
    exact List.mem_of_mem_head? head
  have last : trimStart solid.reverse = solid.reverse :=
    trimStart_of_head fun c head => visible c (List.mem_reverse.mp (List.mem_of_mem_head? head))
  rw [trim, first, trimEnd_append blank', trimEnd, ← trimStart, last, List.reverse_reverse]

/-- Trimming takes white space from both ends and nothing else. -/
theorem exists_eq_append_trim (cs : List Char) :
    ∃ before after, cs = before ++ trim cs ++ after ∧ (∀ c ∈ before, isBlank c = true) ∧
      ∀ c ∈ after, isBlank c = true := by
  have first : cs.takeWhile isBlank ++ trimStart cs = cs := List.takeWhile_append_dropWhile
  have last : (trimStart cs).reverse.takeWhile isBlank ++ (trimStart cs).reverse.dropWhile isBlank =
      (trimStart cs).reverse := List.takeWhile_append_dropWhile
  refine ⟨cs.takeWhile isBlank, ((trimStart cs).reverse.takeWhile isBlank).reverse, ?_,
    fun c member => List.mem_takeWhile_imp member,
    fun c member => List.mem_takeWhile_imp (List.mem_reverse.mp member)⟩
  have ends := congrArg List.reverse last
  rw [List.reverse_append, List.reverse_reverse] at ends
  rw [List.append_assoc, trim, trimEnd, ends, first]

/-- A number is read out of a text with its white space cut off if and only if the text holds it. -/
theorem readWord_trim_eq_ok_iff {text : String} {word : UInt64} :
    readWord (trim text.toList) = .ok word ↔ HoldsWord text word := by
  rw [readWord_eq_ok_iff]
  constructor
  · intro spelt
    obtain ⟨before, after, whole, blank, blank'⟩ := exists_eq_append_trim text.toList
    exact ⟨before, _, after, whole, blank, blank', spelt⟩
  · rintro ⟨before, written, after, whole, blank, blank', spelt⟩
    rw [whole, trim_eq blank blank' spelt.ne_nil spelt.not_isBlank]
    exact spelt

end InstallStatus.Text
