import Mathlib
import InstallStatus.Json.Printer
import InstallStatus.Proofs.Digits
import InstallStatus.Proofs.PatchLaws

/-!
The compact text of a document is the text of no other, as long as the document has no floating-point
numbers. Of two documents, each with some text behind it, that read alike, both the documents and the
texts behind them are the same; only a number needs that what follows it is no digit.
-/

namespace InstallStatus

/-- A text that does not go on with a digit. -/
def Text.Ends (rest : List Char) : Prop := ∀ c, rest.head? = some c → isDigit c = false

namespace Text

theorem ends_nil : Ends [] := fun _ head => nomatch head

theorem ends_cons {c : Char} (other : isDigit c = false) (rest : List Char) : Ends (c :: rest) := by
  intro d head
  cases head
  exact other

theorem natOf_digitsOf (n : Nat) : natOf (digitsOf n) = n := by
  rw [natOf_eq]
  exact Nat.ofDigitChars_ten_toDigits

/-- The digits of a number end where the text behind them begins, as long as that is no digit. -/
theorem takeWhile_digits {cs rest : List Char} (digits : ∀ d ∈ cs, isDigit d = true)
    (ends : Ends rest) : (cs ++ rest).takeWhile isDigit = cs := by
  rw [List.takeWhile_append_of_pos digits]
  cases rest with
  | nil => simp
  | cons c others => simp [ends c rfl]

/-- A number is told from the text behind it, and so is that text. -/
theorem digitsOf_append_inj {m n : Nat} {r s : List Char} (first : Ends r) (second : Ends s)
    (same : digitsOf m ++ r = digitsOf n ++ s) : m = n ∧ r = s := by
  have digits : digitsOf m = digitsOf n := by
    rw [← takeWhile_digits (fun _ => isDigit_digitsOf) first, same,
      takeWhile_digits (fun _ => isDigit_digitsOf) second]
  refine ⟨?_, List.append_cancel_left (digits ▸ same)⟩
  rw [← natOf_digitsOf m, digits, natOf_digitsOf]

theorem exists_digitsOf (n : Nat) : ∃ d ds, digitsOf n = d :: ds ∧ isDigit d = true := by
  obtain ⟨d, ds, shape⟩ := List.exists_cons_of_ne_nil (show digitsOf n ≠ [] from Nat.toDigits_ne_nil)
  refine ⟨d, ds, shape, isDigit_digitsOf (n := n) ?_⟩
  rw [shape]
  exact List.mem_cons_self ..

end Text

namespace Json

open Text (Ends ends_nil ends_cons digitsOf digitsOf_append_inj exists_digitsOf isDigit)

theorem intChars_ofNat (n : Nat) : intChars n = digitsOf n := by
  rw [intChars, digitsOf, ← Nat.toList_repr]
  rfl

theorem intChars_negSucc (n : Nat) : intChars (.negSucc n) = '-' :: digitsOf (n + 1) := by
  rw [intChars, digitsOf, ← Nat.toList_repr, Int.toString_eq_repr, Int.repr_eq_if]
  simp

theorem digitsOf_ne_minus (n : Nat) (r s : List Char) : digitsOf n ++ r ≠ '-' :: s := by
  intro same
  obtain ⟨d, ds, shape, digit⟩ := exists_digitsOf n
  rw [shape] at same
  cases same
  cases digit

/-- The sign comes first and no digit is one, so whole numbers of either sign are told apart too. -/
theorem intChars_append_inj {m n : Int} {r s : List Char} (first : Ends r) (second : Ends s)
    (same : intChars m ++ r = intChars n ++ s) : m = n ∧ r = s := by
  cases m with
  | ofNat m =>
    cases n with
    | ofNat n =>
      simp only [Int.ofNat_eq_natCast, intChars_ofNat] at same
      obtain ⟨rfl, rest⟩ := digitsOf_append_inj first second same
      exact ⟨rfl, rest⟩
    | negSucc n =>
      simp only [Int.ofNat_eq_natCast, intChars_ofNat, intChars_negSucc] at same
      exact absurd same (digitsOf_ne_minus m r _)
  | negSucc m =>
    cases n with
    | ofNat n =>
      simp only [Int.ofNat_eq_natCast, intChars_ofNat, intChars_negSucc] at same
      exact absurd same.symm (digitsOf_ne_minus n s _)
    | negSucc n =>
      simp only [intChars_negSucc, List.cons_append, List.cons.injEq, true_and] at same
      obtain ⟨digits, rest⟩ := digitsOf_append_inj first second same
      exact ⟨congrArg Int.negSucc (Nat.succ.inj digits), rest⟩

/-- The codes of the characters that do not stand for themselves in a string. -/
def escaped : List Nat := 34 :: 92 :: List.range 32

/-- All characters but a few from the beginning of the table stand for themselves. -/
theorem escapeChar_plain {c : Char} (plain : c.toNat ∉ escaped) : escapeChar c = [c] := by
  simp only [escaped, List.mem_cons, List.mem_range, not_or, not_lt] at plain
  obtain ⟨quote, backslash, large⟩ := plain
  have noQuote : c ≠ '"' := fun same => quote (congrArg Char.toNat same)
  have noBackslash : c ≠ '\\' := fun same => backslash (congrArg Char.toNat same)
  simp only [escapeChar, noQuote, noBackslash, large, if_true, if_false]

/-- Every escape begins with a backslash. The characters that are escaped are few enough to look at each. -/
theorem head?_escapeChar : ∀ n ∈ escaped, (escapeChar (Char.ofNat n)).head? = some '\\' := by
  decide +kernel

/-- No escape is the beginning of another. -/
theorem escapeChar_starts : ∀ m ∈ escaped, ∀ n ∈ escaped,
    escapeChar (Char.ofNat m) <+: escapeChar (Char.ofNat n) → m = n := by
  decide +kernel

theorem exists_escape {c : Char} (special : c.toNat ∈ escaped) : ∃ cs, escapeChar c = '\\' :: cs := by
  have head := head?_escapeChar _ special
  rw [Char.ofNat_toNat] at head
  exact List.head?_eq_some_iff.mp head

theorem eq_of_escapeChar_starts {c d : Char} (first : c.toNat ∈ escaped) (second : d.toNat ∈ escaped)
    (starts : escapeChar c <+: escapeChar d) : c = d := by
  rw [← Char.ofNat_toNat c, ← Char.ofNat_toNat d] at starts ⊢
  exact congrArg Char.ofNat (escapeChar_starts _ first _ second starts)

/-- No character is written so that it could be taken for the end of a string. -/
theorem exists_escapeChar (c : Char) : ∃ d ds, escapeChar c = d :: ds ∧ d ≠ '"' := by
  by_cases special : c.toNat ∈ escaped
  · obtain ⟨ds, shape⟩ := exists_escape special
    exact ⟨'\\', ds, shape, by decide⟩
  · refine ⟨c, [], escapeChar_plain special, ?_⟩
    rintro rfl
    exact special (List.mem_cons_self ..)

/-- A character that is escaped is never taken for one that is not, since the backslash itself is
escaped. -/
theorem escapeChar_special_ne {c d : Char} {r s : List Char} (special : c.toNat ∈ escaped)
    (plain : d.toNat ∉ escaped) : escapeChar c ++ r ≠ escapeChar d ++ s := by
  intro same
  obtain ⟨cs, shape⟩ := exists_escape special
  rw [shape, escapeChar_plain plain] at same
  cases same
  exact plain (by decide)

theorem escapeChar_append_inj {c d : Char} {r s : List Char}
    (same : escapeChar c ++ r = escapeChar d ++ s) : c = d ∧ r = s := by
  have eq : c = d := by
    by_cases first : c.toNat ∈ escaped
    · by_cases second : d.toNat ∈ escaped
      · rcases List.append_eq_append_iff.mp same with ⟨_, shape, _⟩ | ⟨_, shape, _⟩
        · exact eq_of_escapeChar_starts first second ⟨_, shape.symm⟩
        · exact (eq_of_escapeChar_starts second first ⟨_, shape.symm⟩).symm
      · exact absurd same (escapeChar_special_ne first second)
    · by_cases second : d.toNat ∈ escaped
      · exact absurd same.symm (escapeChar_special_ne second first)
      · rw [escapeChar_plain first, escapeChar_plain second] at same
        exact (List.cons.inj same).1
  subst eq
  exact ⟨rfl, List.append_cancel_left same⟩

/-- The closing quote ends the string, and the induction is on the characters of the first one. -/
theorem escaped_append_inj {cs ds r s : List Char}
    (same : cs.flatMap escapeChar ++ '"' :: r = ds.flatMap escapeChar ++ '"' :: s) :
    cs = ds ∧ r = s := by
  induction cs generalizing ds with
  | nil =>
    cases ds with
    | nil => exact ⟨rfl, (List.cons.inj same).2⟩
    | cons d ds =>
      obtain ⟨e, es, shape, other⟩ := exists_escapeChar d
      simp only [List.flatMap_cons, shape, List.flatMap_nil, List.nil_append, List.cons_append,
        List.cons.injEq] at same
      exact absurd same.1.symm other
  | cons c cs ih =>
    cases ds with
    | nil =>
      obtain ⟨e, es, shape, other⟩ := exists_escapeChar c
      simp only [List.flatMap_cons, shape, List.flatMap_nil, List.nil_append, List.cons_append,
        List.cons.injEq] at same
      exact absurd same.1 other
    | cons d ds =>
      simp only [List.flatMap_cons, List.append_assoc] at same
      obtain ⟨rfl, rest⟩ := escapeChar_append_inj same
      obtain ⟨rfl, after⟩ := ih rest
      exact ⟨rfl, after⟩

/-- Strings with any characters are told from one another and from the text behind them. -/
theorem stringChars_append_inj {a b : String} {r s : List Char}
    (same : stringChars a ++ r = stringChars b ++ s) : a = b ∧ r = s := by
  simp only [stringChars, List.cons_append, List.append_assoc, List.nil_append,
    List.cons.injEq, true_and] at same
  obtain ⟨chars, rest⟩ := escaped_append_inj same
  exact ⟨String.toList_inj.mp chars, rest⟩

/-- What stands behind the first item of a list, up to its close, with some text behind that. -/
def trailing (close : Char) (rest : List Char) : List (List Char) → List Char
  | [] => close :: rest
  | item :: items => ',' :: (item ++ trailing close rest items)

/-- A list that is not empty, up to its close and the text behind that: its first item, and what trails
it. -/
theorem intercalate_trailing (close : Char) (rest item : List Char) (items : List (List Char)) :
    List.intercalate [','] (item :: items) ++ close :: rest = item ++ trailing close rest items := by
  induction items generalizing item with
  | nil => simp [List.intercalate, trailing]
  | cons next items ih =>
    have step : List.intercalate [','] (item :: next :: items) =
        item ++ ',' :: List.intercalate [','] (next :: items) := by
      simp [List.intercalate]
    rw [step, List.append_assoc, List.cons_append, ih, trailing]

/-- Behind an item there is a comma or the closing bracket, and neither goes on with a number. -/
theorem ends_trailing {close : Char} (other : isDigit close = false) (rest : List Char)
    (items : List (List Char)) : Ends (trailing close rest items) := by
  cases items with
  | nil => exact ends_cons other rest
  | cons item items => exact ends_cons (by decide) _

/-- Whether an item begins with the character that closes the list. -/
def Closes (close : Char) (item : List Char) : Prop := ∃ rest tail, item ++ rest = close :: tail

/-- An empty list is told from one with items by whether its close comes first. -/
theorem trailing_of_listed {close : Char} {xs ys : List (List Char)} {r s : List Char}
    (first : ∀ x, xs.head? = some x → ¬Closes close x)
    (second : ∀ y, ys.head? = some y → ¬Closes close y)
    (same : List.intercalate [','] xs ++ close :: r = List.intercalate [','] ys ++ close :: s) :
    trailing close r xs = trailing close s ys := by
  cases xs with
  | nil =>
    cases ys with
    | nil => exact same
    | cons y ys =>
      rw [intercalate_trailing] at same
      exact absurd ⟨_, _, same.symm⟩ (second y rfl)
  | cons x xs =>
    cases ys with
    | nil =>
      rw [intercalate_trailing] at same
      exact absurd ⟨_, _, same⟩ (first x rfl)
    | cons y ys =>
      rw [intercalate_trailing, intercalate_trailing] at same
      exact congrArg (',' :: ·) same

/-- The form of the documents whose text begins with a character; the greatest number is that of none. -/
def formOf (c : Char) : Nat :=
  if c = 'n' then 0
  else if c = 't' then 1
  else if c = 'f' then 2
  else if c = '"' then 3
  else if c = '[' then 4
  else if c = '{' then 5
  else if c = '-' ∨ isDigit c = true then 6
  else 7

def form : Json → Nat
  | .null => 0
  | .bool true => 1
  | .bool false => 2
  | .string _ => 3
  | .array _ => 4
  | .object _ => 5
  | .number _ => 6

theorem formOf_digit {c : Char} (digit : isDigit c = true) : formOf c = 6 := by
  have other (d : Char) (letter : isDigit d = false) : c ≠ d := by
    rintro rfl
    rw [letter] at digit
    cases digit
  simp only [formOf, other 'n' rfl, other 't' rfl, other 'f' rfl, other '"' rfl, other '[' rfl,
    other '{' rfl, digit, or_true, if_true, if_false]

theorem form_lt (a : Json) : a.form < 7 := by
  cases a with
  | bool b => cases b <;> decide
  | _ => simp only [form, Nat.reduceLT]

/-- Without floating-point numbers, whose texts are not looked into here, the first character gives the
form away. -/
theorem exists_chars {a : Json} (whole : a.isWhole = true) :
    ∃ c cs, a.chars = c :: cs ∧ formOf c = a.form := by
  cases a with
  | null => exact ⟨_, _, rfl, rfl⟩
  | bool b => cases b <;> exact ⟨_, _, rfl, rfl⟩
  | string s => exact ⟨_, _, rfl, rfl⟩
  | array items => exact ⟨_, _, rfl, rfl⟩
  | object fields => exact ⟨_, _, rfl, rfl⟩
  | number n =>
    cases n with
    | float x => cases whole
    | int n =>
      cases n with
      | ofNat n =>
        obtain ⟨d, ds, shape, digit⟩ := exists_digitsOf n
        exact ⟨d, ds, (intChars_ofNat n).trans shape, formOf_digit digit⟩
      | negSucc n => exact ⟨'-', _, intChars_negSucc n, rfl⟩

/-- Documents that begin alike have the same form, whatever stands behind them. -/
theorem form_eq {a b : Json} (first : a.isWhole = true) (second : b.isWhole = true)
    {r s : List Char} (same : a.chars ++ r = b.chars ++ s) : a.form = b.form := by
  obtain ⟨c, cs, left, form⟩ := exists_chars first
  obtain ⟨d, ds, right, form'⟩ := exists_chars second
  rw [left, right] at same
  rw [← form, ← form', (List.cons.inj same).1]

/-- An item is a document, and none begins with a bracket that closes. -/
theorem not_closes_itemChars {items : List Json} (whole : itemsWhole items = true) (x : List Char)
    (head : (itemChars items).head? = some x) : ¬Closes ']' x := by
  rintro ⟨rest, tail, same⟩
  cases items with
  | nil => cases head
  | cons item items =>
    cases head
    simp only [itemsWhole, Bool.and_eq_true] at whole
    obtain ⟨c, cs, shape, form⟩ := exists_chars whole.1
    rw [shape] at same
    have less := form_lt item
    rw [← form, (List.cons.inj same).1] at less
    exact absurd less (by decide)

theorem not_closes_fieldChars (fields : List (String × Json)) (x : List Char)
    (head : (fieldChars fields).head? = some x) : ¬Closes '}' x := by
  rintro ⟨rest, tail, same⟩
  cases fields with
  | nil => cases head
  | cons field fields =>
    cases head
    cases same

mutual

/-- The induction is on both documents at once, with any text behind each, since a part has the rest of
the whole behind it. -/
theorem chars_append_inj (a b : Json) (first : a.isWhole = true) (second : b.isWhole = true)
    {r s : List Char} (ends : Ends r) (ends' : Ends s) (same : a.chars ++ r = b.chars ++ s) :
    a = b ∧ r = s := by
  -- The first character tells the form, so that unlike documents are ruled out below.
  have form := form_eq first second same
  cases a with
  | null =>
    cases b with
    | null => exact ⟨rfl, List.append_cancel_left same⟩
    | bool b => cases b <;> cases form
    | _ => cases form
  | bool a =>
    cases b with
    | bool b =>
      have eq : a = b := by cases a <;> cases b <;> first | rfl | cases form
      subst eq
      exact ⟨rfl, List.append_cancel_left same⟩
    | _ => cases a <;> cases form
  | number a =>
    cases b with
    | number b =>
      cases a with
      | float => cases first
      | int a =>
        cases b with
        | float => cases second
        | int b =>
          obtain ⟨rfl, rest⟩ := intChars_append_inj ends ends' same
          exact ⟨rfl, rest⟩
    | bool b => cases b <;> cases form
    | _ => cases form
  | string a =>
    cases b with
    | string b =>
      obtain ⟨rfl, rest⟩ := stringChars_append_inj same
      exact ⟨rfl, rest⟩
    | bool b => cases b <;> cases form
    | _ => cases form
  | array as =>
    cases b with
    | array bs =>
      simp only [chars, List.cons_append, List.append_assoc, List.nil_append, List.cons.injEq,
        true_and] at same
      obtain ⟨rfl, rest⟩ := trailing_items_inj as bs first second
        (trailing_of_listed (not_closes_itemChars first) (not_closes_itemChars second) same)
      exact ⟨rfl, rest⟩
    | bool b => cases b <;> cases form
    | _ => cases form
  | object as =>
    cases b with
    | object bs =>
      simp only [chars, List.cons_append, List.append_assoc, List.nil_append, List.cons.injEq,
        true_and] at same
      obtain ⟨rfl, rest⟩ := trailing_fields_inj as bs first second
        (trailing_of_listed (not_closes_fieldChars as) (not_closes_fieldChars bs) same)
      exact ⟨rfl, rest⟩
    | bool b => cases b <;> cases form
    | _ => cases form

theorem trailing_items_inj (as bs : List Json) (first : itemsWhole as = true)
    (second : itemsWhole bs = true) {r s : List Char}
    (same : trailing ']' r (itemChars as) = trailing ']' s (itemChars bs)) : as = bs ∧ r = s := by
  match as, bs with
  | [], [] => exact ⟨rfl, (List.cons.inj same).2⟩
  | [], _ :: _ => cases same
  | _ :: _, [] => cases same
  | a :: as, b :: bs =>
    simp only [itemsWhole, Bool.and_eq_true] at first second
    obtain ⟨rfl, rest⟩ := chars_append_inj a b first.1 second.1 (ends_trailing rfl _ _)
      (ends_trailing rfl _ _) (List.cons.inj same).2
    obtain ⟨rfl, after⟩ := trailing_items_inj as bs first.2 second.2 rest
    exact ⟨rfl, after⟩

theorem trailing_fields_inj (as bs : List (String × Json)) (first : fieldsWhole as = true)
    (second : fieldsWhole bs = true) {r s : List Char}
    (same : trailing '}' r (fieldChars as) = trailing '}' s (fieldChars bs)) : as = bs ∧ r = s := by
  match as, bs with
  | [], [] => exact ⟨rfl, (List.cons.inj same).2⟩
  | [], _ :: _ => cases same
  | _ :: _, [] => cases same
  | (k, a) :: as, (l, b) :: bs =>
    simp only [fieldsWhole, Bool.and_eq_true] at first second
    simp only [fieldChars, trailing, List.append_assoc, List.cons_append, List.cons.injEq,
      true_and] at same
    obtain ⟨rfl, colon⟩ := stringChars_append_inj same
    obtain ⟨rfl, rest⟩ := chars_append_inj a b first.1 second.1 (ends_trailing rfl _ _)
      (ends_trailing rfl _ _) (List.cons.inj colon).2
    obtain ⟨rfl, after⟩ := trailing_fields_inj as bs first.2 second.2 rest
    exact ⟨rfl, after⟩

end

/-- With nothing behind the texts, equal texts are texts of equal documents. -/
theorem compact_inj {a b : Json} (first : a.isWhole = true) (second : b.isWhole = true) :
    a.compact = b.compact ↔ a = b := by
  refine ⟨fun same => ?_, congrArg compact⟩
  have texts : a.chars ++ [] = b.chars ++ [] := by
    rw [List.append_nil, List.append_nil]
    exact String.ofList_injective same
  exact (chars_append_inj a b first second ends_nil ends_nil texts).1

end Json

end InstallStatus
