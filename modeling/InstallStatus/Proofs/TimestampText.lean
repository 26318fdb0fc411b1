import Mathlib
import InstallStatus.Proofs.Digits
import InstallStatus.Time.Reader

/-!
The text of a timestamp reads back as that timestamp: leap seconds, every width of the fraction and
the years outside of four digits included. Each reader is shown to take exactly the part that its
writer left, whatever follows.
-/

namespace InstallStatus.Timestamp

open Text

theorem readDigits_append {cs : List Char} (limit : Nat) (rest : List Char)
    (digits : ∀ d ∈ cs, isDigit d = true) (nonempty : cs ≠ [])
    (ends : cs.length = limit ∨
      cs.length ≤ limit ∧ ∀ c, rest.head? = some c → isDigit c = false) :
    readDigits limit (cs ++ rest) = .ok (cs, rest) := by
  have front := takeWhile_take_digits digits ends
  have some : (cs ++ rest).isEmpty = false := by
    simp only [List.isEmpty_eq_false_iff]
    exact List.append_ne_nil_of_left_ne_nil nonempty rest
  have found : cs.isEmpty = false := by simpa only [List.isEmpty_eq_false_iff] using nonempty
  simp only [readDigits, front, some, found, List.drop_left]
  rfl

theorem readNumber_padded {n least greatest : Nat} (rest : List Char) (small : n < 100)
    (lower : least ≤ n) (upper : n ≤ greatest) :
    readNumber 2 least greatest (padded 2 n ++ rest) = .ok (n, rest) := by
  have digits : ∀ d ∈ padded 2 n, isDigit d = true := fun _ => isDigit_padded
  have width : (padded 2 n).length = 2 := length_padded (by decide) (by omega)
  simp only [readNumber, trimStart_digits rest digits (padded_ne_nil 2 n),
    readDigits_append 2 rest digits (padded_ne_nil 2 n) (.inl width), natOf_padded, bind,
    Except.bind, if_pos (And.intro lower upper)]

theorem readDivider_self {divider : Char} (rest : List Char) (solid : isBlank divider = false) :
    readDivider divider (divider :: rest) = .ok rest := by
  have front : trimStart (divider :: rest) = divider :: rest :=
    trimStart_of_head fun c head => by simpa [← Option.some.inj head] using solid
  simp only [readDivider, front, if_true]

/-- A year of four digits at most is read without a sign. -/
theorem readYear_plain {n : Nat} (rest : List Char) (small : n ≤ 9999) :
    readYear (padded 4 n ++ rest) = .ok ((n : Int), rest) := by
  have digits : ∀ d ∈ padded 4 n, isDigit d = true := fun _ => isDigit_padded
  have width : (padded 4 n).length = 4 := length_padded (by decide) (by omega)
  have within : Int32.minValue.toInt ≤ (n : Int) ∧ (n : Int) ≤ Int32.maxValue.toInt := by
    have lowest : Int32.minValue.toInt = -2147483648 := by decide
    have highest : Int32.maxValue.toInt = 2147483647 := by decide
    omega
  have read := readDigits_append 4 rest digits (padded_ne_nil 4 n) (.inl width)
  obtain ⟨c, cs, front⟩ := List.exists_cons_of_ne_nil (padded_ne_nil 4 n)
  have digit : isDigit c = true := digits c (by simp [front])
  have noMinus : c ≠ '-' := by rintro rfl; exact absurd digit (by decide)
  have noPlus : c ≠ '+' := by rintro rfl; exact absurd digit (by decide)
  simp only [readYear, trimStart_digits rest digits (padded_ne_nil 4 n)]
  rw [front, List.cons_append] at read ⊢
  split
  · rename_i same; exact absurd (List.cons.inj same).1 noMinus
  · rename_i same; exact absurd (List.cons.inj same).1 noPlus
  · simp only [read, Except.map, bind, Except.bind, ← front, natOf_padded, Bool.false_eq_true,
      if_false, if_pos within]

/-- After a sign a year takes all digits up to the next divider. -/
theorem readYear_signed {n : Nat} (rest : List Char) (negative : Bool) (bound : n ≤ 2147483647) :
    readYear ((if negative then '-' else '+') :: (padded 4 n ++ '-' :: rest)) =
      .ok (if negative then -(n : Int) else n, '-' :: rest) := by
  have digits : ∀ d ∈ padded 4 n, isDigit d = true := fun _ => isDigit_padded
  have stop : ∀ c, ('-' :: rest).head? = some c → isDigit c = false := by
    intro c head
    rw [← Option.some.inj head]
    rfl
  have read := readDigits_append (padded 4 n ++ '-' :: rest).length ('-' :: rest) digits
    (padded_ne_nil 4 n) (.inr ⟨by simp, stop⟩)
  have front : ∀ sign, isBlank sign = false →
      trimStart (sign :: (padded 4 n ++ '-' :: rest)) = sign :: (padded 4 n ++ '-' :: rest) := by
    intro sign solid
    exact trimStart_of_head fun c head => by rw [← Option.some.inj head]; exact solid
  have lowest : Int32.minValue.toInt = -2147483648 := by decide
  have highest : Int32.maxValue.toInt = 2147483647 := by decide
  cases negative with
  | true =>
    have within : Int32.minValue.toInt ≤ -(n : Int) ∧ -(n : Int) ≤ Int32.maxValue.toInt := by omega
    simp only [readYear, if_true, front '-' rfl, read, Except.map, bind, Except.bind, natOf_padded,
      if_pos within]
  | false =>
    have within : Int32.minValue.toInt ≤ (n : Int) ∧ (n : Int) ≤ Int32.maxValue.toInt := by omega
    simp only [readYear, Bool.false_eq_true, if_false, front '+' rfl, read, Except.map, bind,
      Except.bind, natOf_padded, if_pos within]

/-- Years of more than four digits are written with a sign, and read with one. -/
theorem readYear_yearChars {year : Int} (rest : List Char)
    (bounds : Date.firstYear ≤ year ∧ year ≤ Date.lastYear) :
    readYear (yearChars year ++ '-' :: rest) = .ok (year, '-' :: rest) := by
  simp only [Date.firstYear, Date.lastYear] at bounds
  by_cases plain : 0 ≤ year ∧ year ≤ 9999
  · have read := readYear_plain ('-' :: rest) (show year.toNat ≤ 9999 by omega)
    simpa only [yearChars, if_pos plain, Int.toNat_of_nonneg plain.1] using read
  · have read := readYear_signed rest (year < 0) (show year.natAbs ≤ 2147483647 by omega)
    have value : (if decide (year < 0) = true then -(year.natAbs : Int) else year.natAbs) = year := by
      simp only [decide_eq_true_eq]
      split <;> omega
    rw [value] at read
    simpa only [yearChars, if_neg plain, decide_eq_true_eq, List.cons_append] using read

/-- A fraction is written with as few digits as it needs in groups of three, and read back whole. -/
theorem readFraction_fractionChars {nanos : Nat} (bound : nanos < 1_000_000_000) :
    readFraction (fractionChars nanos ++ ['Z']) = .ok (nanos, ['Z']) := by
  have stop : ∀ c, ['Z'].head? = some c → isDigit c = false := by
    intro c head
    rw [← Option.some.inj head]
    rfl
  have part : ∀ {width n : Nat}, 0 < width → width ≤ 9 → n < 10 ^ width →
      readFraction ('.' :: padded width n ++ ['Z']) = .ok (n * Nat.pow 10 (9 - width), ['Z']) := by
    intro width n positive atMost small
    have digits : ∀ d ∈ padded width n, isDigit d = true := fun _ => isDigit_padded
    have length := length_padded positive small
    have read := readDigits_append 9 ['Z'] digits (padded_ne_nil width n) (.inr ⟨by omega, stop⟩)
    simp only [List.cons_append, readFraction, read, bind, Except.bind, natOf_padded, length]
    rfl
  unfold fractionChars
  split
  · rename_i zero; subst zero; rfl
  · split
    · rename_i _ whole
      have value : nanos / 1000000 * Nat.pow 10 (9 - 3) = nanos := by
        change nanos / 1000000 * 1000000 = nanos
        omega
      rw [part (by decide) (by decide) (by omega), value]
    · split
      · rename_i _ _ whole
        have value : nanos / 1000 * Nat.pow 10 (9 - 6) = nanos := by
          change nanos / 1000 * 1000 = nanos
          omega
        rw [part (by decide) (by decide) (by omega), value]
      · rw [part (by decide) (by decide) (by omega)]
        simp

theorem earlier?_zero (t : Timestamp) : t.earlier? 0 = some t := by
  have hour := t.hour_lt
  have minute := t.minute_lt
  have early : ¬ ((t.hour * 60 + t.minute : Nat) : Int) < 0 := by omega
  have within : ((t.hour * 60 + t.minute : Nat) : Int) < 1440 := by omega
  have clock : (((t.hour * 60 + t.minute : Nat) : Int) % 1440).toNat = t.hour * 60 + t.minute := by
    omega
  have hours : (t.hour * 60 + t.minute) / 60 = t.hour := by omega
  have minutes : (t.hour * 60 + t.minute) % 60 = t.minute := by omega
  simp only [earlier?, Int.sub_zero, if_neg early, if_pos within, clock, hours, minutes,
    Option.bind_some, of?, hour, minute, t.second_le, t.nanos_lt, and_self, dite_true]

theorem daysIn_le (year : Int) (month : Nat) : Date.daysIn year month ≤ 31 := by
  unfold Date.daysIn
  split
  · split <;> decide
  · split <;> decide

/-- The parts in turn, each with the text of the next behind it. -/
theorem ofChars_chars (t : Timestamp) : ofChars t.chars = .ok t := by
  have year := t.date.year_mem
  have month := t.date.month_mem
  have day := t.date.day_mem
  have longest := daysIn_le t.date.year t.date.month
  have hour := t.hour_lt
  have minute := t.minute_lt
  have second := t.second_le
  have date : Date.of? t.date.year t.date.month t.date.day = some t.date := by
    simp only [Date.of?, dif_pos year, dif_pos month, dif_pos day]
  have here : of? t.date t.hour t.minute t.second t.nanos = some t := by
    simp only [of?, hour, minute, second, t.nanos_lt, and_self, dite_true]
  have zone : readZone (trimStart ['Z']) = .ok (0, []) := rfl
  simp only [ofChars, chars, secondChars, List.append_assoc, List.cons_append,
    readYear_yearChars _ year, bind, Except.bind, readDivider_self _ (show isBlank '-' = false from rfl),
    readDivider_self _ (show isBlank ':' = false from rfl),
    readNumber_padded _ (show t.date.month < 100 by omega) month.1 month.2,
    readNumber_padded _ (show t.date.day < 100 by omega) day.1 (show t.date.day ≤ 31 by omega),
    readMiddle, true_or, if_true,
    readNumber_padded _ (show t.hour < 100 by omega) (Nat.zero_le _) (show t.hour ≤ 23 by omega),
    readNumber_padded _ (show t.minute < 100 by omega) (Nat.zero_le _) (show t.minute ≤ 59 by omega),
    readNumber_padded _ (show t.second < 100 by omega) (Nat.zero_le _) second,
    readFraction_fractionChars t.nanos_lt, zone, date, here, toExcept, earlier?_zero]
  rfl

/-- A timestamp survives being written and read. -/
theorem read_text (t : Timestamp) : read t.text = .ok t := by
  rw [read, text, String.toList_ofList, ofChars_chars]

end InstallStatus.Timestamp
