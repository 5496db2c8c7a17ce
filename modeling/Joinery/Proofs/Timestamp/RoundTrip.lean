import Joinery.Proofs.Text.Numerals
import Joinery.Timestamp
import Mathlib.Algebra.Group.Nat.Defs

/-!
# Points in time are read back

The text of a point in time stands for that point in time, to the nanosecond and with a
leap second kept.

Main statement: `Joinery.Timestamp.ofString?_text`.
-/

namespace Joinery.Timestamp

open Text

/-- The date exists and the time is one of a day. -/
structure IsCivil (t : Timestamp) : Prop where
  date : t.date.isValid = true
  minute : t.minute < 1440
  second : t.second ≤ 60
  nanosecond : t.nanosecond < 1000000000

theorem isDigit_of_mem_padded {width n : Nat} : ∀ c ∈ padded width n, c.isDigit = true := by
  intro c mem
  rcases List.mem_append.mp mem with zero | digit
  · rw [List.eq_of_mem_replicate zero]
    decide
  · exact isDigit_of_mem_toDigits c digit

theorem padded_ne_nil (width n : Nat) : padded width n ≠ [] :=
  List.append_ne_nil_of_right_ne_nil _ Nat.toDigits_ne_nil

theorem length_padded {width n : Nat} (positive : 0 < width) (small : n < 10 ^ width) :
    (padded width n).length = width := by
  have few : (Nat.toDigits 10 n).length ≤ width :=
    (Nat.length_toDigits_le_iff (by decide) positive).mpr small
  rw [padded, List.length_append, List.length_replicate]
  exact Nat.sub_add_cancel few

theorem ofDigitChars_padded (width n : Nat) : Nat.ofDigitChars 10 (padded width n) 0 = n := by
  rw [padded, ofDigitChars_replicate_zero_append]
  exact Nat.ofDigitChars_ten_toDigits

/-- Digits are read up to the width, which they fill unless something else follows. -/
theorem readNumber_append {width : Nat} {ds rest : List Char} (some_digit : ds ≠ [])
    (all : ∀ c ∈ ds, c.isDigit = true) (fits : ds.length ≤ width)
    (stop : ds.length = width ∨ StopsDigits rest) :
    readNumber width (ds ++ rest) = some (Nat.ofDigitChars 10 ds 0, rest) := by
  have taken : ((ds ++ rest).take width).takeWhile Char.isDigit = ds := by
    rw [List.take_append, List.take_of_length_le fits]
    refine takeWhile_isDigit_append all ?_
    rcases stop with full | stop
    · simp [full, StopsDigits]
    · intro c front
      rw [List.head?_take] at front
      split at front
      · exact nomatch front
      · exact stop c front
  rw [readNumber, taken]
  split
  · exact absurd rfl some_digit
  · rw [List.drop_left]

theorem readNumber_padded_append {width n : Nat} (positive : 0 < width) (small : n < 10 ^ width)
    (rest : List Char) : readNumber width (padded width n ++ rest) = some (n, rest) := by
  have length := length_padded positive small
  rw [readNumber_append (padded_ne_nil width n) isDigit_of_mem_padded (Nat.le_of_eq length)
    (.inl length), ofDigitChars_padded]

theorem skipBlanks_padded_append (width n : Nat) (rest : List Char) :
    skipBlanks (padded width n ++ rest) = padded width n ++ rest := by
  obtain ⟨c, more, written⟩ := List.exists_cons_of_ne_nil (padded_ne_nil width n)
  have digit : c.isDigit = true := isDigit_of_mem_padded c (written ▸ List.mem_cons_self)
  have mark : isBlank c = false := Code.isBlank_of_isAlphanum (by simp [Char.isAlphanum, digit])
  rw [written]
  exact List.dropWhile_cons_of_neg (by simp [mark])

theorem readField_padded_append {greatest n : Nat} (small : n < 100) (within : n ≤ greatest)
    (rest : List Char) : readField greatest (padded 2 n ++ rest) = some (n, rest) := by
  rw [readField, skipBlanks_padded_append, readNumber_padded_append (by decide) small,
    Option.bind_some, if_pos within]

theorem readMark_cons {mark : Char} (printed : isBlank mark = false) (rest : List Char) :
    readMark mark (mark :: rest) = some rest := by
  have kept : skipBlanks (mark :: rest) = mark :: rest :=
    List.dropWhile_cons_of_neg (by simp [printed])
  rw [readMark, kept]
  exact if_pos rfl

/-- After a sign, all digits belong to the year. -/
theorem readNumber_signed_year {n : Nat} {rest : List Char} (stop : StopsDigits rest) :
    readNumber (padded 4 n ++ rest).length (padded 4 n ++ rest) = some (n, rest) := by
  have fits : (padded 4 n).length ≤ (padded 4 n ++ rest).length := by
    rw [List.length_append]
    exact Nat.le_add_right _ _
  rw [readNumber_append (padded_ne_nil 4 n) isDigit_of_mem_padded fits (.inr stop),
    ofDigitChars_padded]

theorem readYear_yearChars_append (year : Int) {rest : List Char} (stop : StopsDigits rest) :
    readYear (yearChars year ++ rest) = some (year, rest) := by
  rw [yearChars]
  split_ifs with plain negative
  · have digits : readNumber 4 (padded 4 year.toNat ++ rest) = _ :=
      readNumber_padded_append (by decide) (by omega) rest
    obtain ⟨c, more, written⟩ := List.exists_cons_of_ne_nil (padded_ne_nil 4 year.toNat)
    have digit : c.isDigit = true := isDigit_of_mem_padded c (written ▸ List.mem_cons_self)
    rw [readYear, skipBlanks_padded_append, written, List.cons_append]
    rw [written, List.cons_append] at digits
    split
    · obtain ⟨rfl, -⟩ := List.cons.inj ‹_›
      exact absurd digit (by decide)
    · obtain ⟨rfl, -⟩ := List.cons.inj ‹_›
      exact absurd digit (by decide)
    · rw [digits, Option.map_some, Int.toNat_of_nonneg plain.1]
  · have kept : skipBlanks ('-' :: (padded 4 year.natAbs ++ rest)) = _ :=
      List.dropWhile_cons_of_neg (by decide)
    rw [List.cons_append, readYear, kept]
    simp only [readNumber_signed_year stop, Option.map_some]
    have value : -(year.natAbs : Int) = year := by omega
    rw [value]
  · have kept : skipBlanks ('+' :: (padded 4 year.natAbs ++ rest)) = _ :=
      List.dropWhile_cons_of_neg (by decide)
    rw [List.cons_append, readYear, kept]
    simp only [readNumber_signed_year stop, Option.map_some]
    rw [Int.natAbs_of_nonneg (Int.not_lt.mp negative)]

theorem daysIn_le (year : Int) (month : Nat) : Date.daysIn year month ≤ 31 := by
  rw [Date.daysIn]
  split_ifs <;> decide

theorem readDate_append {date : Date} (valid : date.isValid = true) {rest : List Char} :
    readDate (yearChars date.year ++ '-' :: (padded 2 date.month ++ '-' ::
      (padded 2 date.day ++ rest))) = some (date, rest) := by
  have bounds := valid
  simp only [Date.isValid, Bool.and_eq_true, decide_eq_true_eq] at bounds
  obtain ⟨⟨⟨-, month⟩, -⟩, day⟩ := bounds
  have days := daysIn_le date.year date.month
  have dash (rest : List Char) : StopsDigits ('-' :: rest) := by rintro _ ⟨⟩; decide
  have mark (rest : List Char) : readMark '-' ('-' :: rest) = some rest :=
    readMark_cons (by decide) rest
  simp only [readDate, readYear_yearChars_append date.year (dash _), mark,
    readField_padded_append (show date.month < 100 by omega) month,
    readField_padded_append (show date.day < 100 by omega) (show date.day ≤ 31 by omega),
    Option.bind_eq_bind, Option.bind_some, valid, if_true]

/-- A fraction of up to nine digits counts in nanoseconds. -/
theorem readFraction_padded_append {width n : Nat} (positive : 0 < width) (narrow : width ≤ 9)
    (small : n < 10 ^ width) (rest : List Char) :
    readFraction ('.' :: (padded width n ++ 'Z' :: rest)) =
      some (n * 10 ^ (9 - width), 'Z' :: rest) := by
  have length := length_padded positive small
  have digits : (padded width n ++ 'Z' :: rest).takeWhile Char.isDigit = padded width n := by
    refine takeWhile_isDigit_append isDigit_of_mem_padded ?_
    rintro _ ⟨⟩
    decide
  have nine : (padded width n ++ List.replicate 9 '0').take 9 =
      padded width n ++ List.replicate (9 - width) '0' := by
    rw [List.take_append, length, List.take_of_length_le (by omega), List.take_replicate,
      Nat.min_eq_left (by omega)]
  have value : Nat.ofDigitChars 10 (padded width n ++ List.replicate (9 - width) '0') 0 =
      n * 10 ^ (9 - width) := by
    rw [Nat.ofDigitChars_append, ofDigitChars_padded, Nat.ofDigitChars_eq_ofDigitChars_zero,
      ofDigitChars_replicate_zero, List.length_replicate, Nat.add_zero, Nat.mul_comm]
  rw [readFraction, digits]
  split
  · exact absurd ‹_› (padded_ne_nil width n)
  · rw [nine, value, List.drop_left]

theorem readFraction_fractionChars_append {nanosecond : Nat} (small : nanosecond < 1000000000)
    (rest : List Char) :
    readFraction (fractionChars nanosecond ++ 'Z' :: rest) = some (nanosecond, 'Z' :: rest) := by
  rw [fractionChars]
  split_ifs with whole millis micros
  · rw [whole]
    rfl
  · rw [List.cons_append, readFraction_padded_append (by decide) (by decide) (by omega)]
    simp only [Option.some.injEq, Prod.mk.injEq, and_true]
    omega
  · rw [List.cons_append, readFraction_padded_append (by decide) (by decide) (by omega)]
    simp only [Option.some.injEq, Prod.mk.injEq, and_true]
    omega
  · rw [List.cons_append, readFraction_padded_append (by decide) (by decide) small]
    simp

theorem readTime_append {minute second nanosecond : Nat} (minutes : minute < 1440)
    (seconds : second ≤ 60) (nanoseconds : nanosecond < 1000000000) (rest : List Char) :
    readTime (padded 2 (minute / 60) ++ ':' :: (padded 2 (minute % 60) ++
      ':' :: (padded 2 second ++ (fractionChars nanosecond ++ 'Z' :: rest)))) =
      some ((minute, second, nanosecond), 'Z' :: rest) := by
  have mark (rest : List Char) : readMark ':' (':' :: rest) = some rest :=
    readMark_cons (by decide) rest
  simp only [readTime, mark,
    readField_padded_append (show minute / 60 < 100 by omega) (show minute / 60 ≤ 23 by omega),
    readField_padded_append (show minute % 60 < 100 by omega) (show minute % 60 ≤ 59 by omega),
    readField_padded_append (show second < 100 by omega) seconds,
    readFraction_fractionChars_append nanoseconds, Option.bind_eq_bind, Option.bind_some,
    Nat.div_add_mod]
  rfl

/-- A time in UTC is what clocks show there. -/
theorem ofLocal_utc {date : Date} (valid : date.isValid = true) {minute : Nat}
    (of_day : minute < 1440) (second nanosecond : Nat) :
    ofLocal date minute second nanosecond 0 = some ⟨date, minute, second, nanosecond⟩ := by
  have counted : Date.inRange date.year = true := by
    simp only [Date.isValid, Bool.and_eq_true] at valid
    exact valid.1.1.1.1
  have early : ¬(minute : Int) - 0 < 0 := by omega
  have late : ¬1440 ≤ (minute : Int) - 0 := by omega
  simp only [ofLocal, if_neg early, if_neg late, counted, if_true]
  simp

/-- The text of a point in time is read as that point in time. -/
theorem ofString?_text {t : Timestamp} (civil : t.IsCivil) : ofString? t.text = some t := by
  have time := readTime_append civil.minute civil.second civil.nanosecond []
  have zone : readOffset (skipBlanks ['Z']) = some (0, []) := by decide
  rw [ofString?, text, String.toList_ofList, chars, List.append_assoc, read]
  simp only [readDate_append civil.date, isSeparator, time, zone, Option.bind_eq_bind,
    Option.bind_some]
  exact ofLocal_utc civil.date civil.minute t.second t.nanosecond

end Joinery.Timestamp
