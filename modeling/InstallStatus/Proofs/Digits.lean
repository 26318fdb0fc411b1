import Mathlib
import InstallStatus.Text.Blank
import InstallStatus.Text.Digits

/-!
Digits written and read back. Zeros in front change the width of a number and not its value.
-/

namespace InstallStatus.Text

theorem isDigit_eq (c : Char) : isDigit c = c.isDigit := by
  simp only [isDigit, Char.isDigit, Char.le_def]

theorem isDigit_digitsOf {n : Nat} {c : Char} (member : c ∈ digitsOf n) : isDigit c = true := by
  rw [isDigit_eq]
  exact Nat.isDigit_of_mem_toDigits (by decide) (by decide) member

theorem isDigit_padded {width n : Nat} {c : Char} (member : c ∈ padded width n) :
    isDigit c = true := by
  rcases List.mem_append.mp member with zero | digit
  · rw [(List.mem_replicate.mp zero).2]
    rfl
  · exact isDigit_digitsOf digit

theorem isDigit_of_head {cs rest : List Char} {c : Char} (digits : ∀ d ∈ cs, isDigit d = true)
    (nonempty : cs ≠ []) (head : (cs ++ rest).head? = some c) : isDigit c = true := by
  obtain ⟨d, ds, same⟩ := List.exists_cons_of_ne_nil nonempty
  subst same
  simp only [List.cons_append, List.head?_cons, Option.some.injEq] at head
  subst head
  exact digits d (List.mem_cons_self ..)

theorem padded_ne_nil (width n : Nat) : padded width n ≠ [] :=
  List.append_ne_nil_of_right_ne_nil _ Nat.toDigits_ne_nil

theorem natOf_eq (digits : List Char) : natOf digits = Nat.ofDigitChars 10 digits 0 := by
  simp only [natOf, Nat.ofDigitChars_eq_foldl, digitValue, Nat.mul_comm 10]
  rfl

/-- Leading zeros do not count. -/
theorem natOf_padded (width n : Nat) : natOf (padded width n) = n := by
  rw [natOf_eq, padded, Nat.ofDigitChars_append, Nat.ofDigitChars_replicate_zero, Nat.mul_zero]
  exact Nat.ofDigitChars_ten_toDigits

/-- A number that fits its width takes up exactly that. -/
theorem length_padded {width n : Nat} (positive : 0 < width) (bound : n < 10 ^ width) :
    (padded width n).length = width := by
  have fits : (digitsOf n).length ≤ width :=
    (Nat.length_toDigits_le_iff (by decide) positive).mpr bound
  simp only [padded, List.length_append, List.length_replicate]
  omega

theorem not_isBlank_of_isDigit {c : Char} (digit : isDigit c = true) : isBlank c = false := by
  simp only [isDigit, Bool.and_eq_true, decide_eq_true_eq, Char.le_def, UInt32.le_iff_toNat_le] at digit
  have lower : 48 ≤ c.toNat := digit.1
  have upper : c.toNat ≤ 57 := digit.2
  simp only [isBlank, Bool.or_eq_false_iff, Bool.and_eq_false_iff, beq_eq_false_iff_ne,
    decide_eq_false_iff_not]
  omega

theorem trimStart_of_head {cs : List Char} (solid : ∀ c, cs.head? = some c → isBlank c = false) :
    trimStart cs = cs := by
  cases cs with
  | nil => rfl
  | cons c rest => exact List.dropWhile_cons_of_neg (by simp [solid c rfl])

/-- No white space is taken away in front of a number, so the text behind it is as it was. -/
theorem trimStart_digits {cs : List Char} (rest : List Char)
    (digits : ∀ d ∈ cs, isDigit d = true) (nonempty : cs ≠ []) :
    trimStart (cs ++ rest) = cs ++ rest :=
  trimStart_of_head fun _ head => not_isBlank_of_isDigit (isDigit_of_head digits nonempty head)

/-- The digits at the front end where the next character is none, or where the limit cuts them. -/
theorem takeWhile_take_digits {cs rest : List Char} {limit : Nat}
    (digits : ∀ d ∈ cs, isDigit d = true)
    (ends : cs.length = limit ∨
      cs.length ≤ limit ∧ ∀ c, rest.head? = some c → isDigit c = false) :
    ((cs ++ rest).take limit).takeWhile isDigit = cs := by
  rcases ends with exact | ⟨fits, stop⟩
  · rw [← exact, List.take_left]
    exact List.takeWhile_eq_self_iff.mpr digits
  · rw [List.take_append, List.take_of_length_le fits, List.takeWhile_append_of_pos digits]
    cases rest with
    | nil => simp
    | cons c others =>
      cases limit - cs.length with
      | zero => simp
      | succ k => simp [stop c rfl]

end InstallStatus.Text
