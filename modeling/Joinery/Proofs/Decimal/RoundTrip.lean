import Joinery.Decimal.Text
import Joinery.Proofs.Text.Numerals

/-!
# Decimals are read back

The text of a decimal stands for the same amount with the same places. Only the sign of a
zero is lost.

Main statement: `Joinery.Decimal.ofString?_text`.
-/

namespace Joinery.Decimal

open Text

/-- The decimal without the sign that a zero may have. -/
def withoutZeroSign (x : Decimal) : Decimal :=
  ofParts x.negative x.mantissa x.scale x.mantissa_lt x.scale_le

theorem signed_withoutZeroSign (x : Decimal) : x.withoutZeroSign.signed = x.signed := by
  by_cases zero : x.mantissa = 0
  · simp [withoutZeroSign, ofParts, signed, zero]
  · simp [withoutZeroSign, ofParts, signed, zero]

theorem sameAmount_withoutZeroSign (x : Decimal) : x.withoutZeroSign.sameAmount x = true := by
  have same (scale : Nat) : x.withoutZeroSign.signedAt scale = x.signedAt scale := by
    rw [signedAt, signedAt, signed_withoutZeroSign]
    rfl
  simp [sameAmount, compare, same]

theorem withoutZeroSign_of_isPositive {x : Decimal} (positive : x.isPositive = true) :
    x.withoutZeroSign = x := by
  obtain ⟨negative, mantissa, scale, fits, places⟩ := x
  simp only [isPositive, Bool.and_eq_true, Bool.not_eq_true'] at positive
  simp [withoutZeroSign, ofParts, positive.2]

theorem isNegative_withoutZeroSign (x : Decimal) : x.withoutZeroSign.isNegative = x.isNegative := by
  by_cases zero : x.mantissa = 0 <;> simp [withoutZeroSign, ofParts, isNegative, zero]

theorem isDigit_of_mem_digits {x : Decimal} : ∀ c ∈ x.digits, c.isDigit = true := by
  intro c mem
  rw [digits] at mem
  rcases List.mem_append.mp mem with zero | digit
  · rw [List.eq_of_mem_replicate zero]
    decide
  · split_ifs at digit
    · exact nomatch digit
    · exact isDigit_of_mem_toDigits c digit

theorem scale_le_length_digits (x : Decimal) : x.scale ≤ x.digits.length := by
  rw [digits, List.length_append, List.length_replicate]
  omega

/-- The digits stand for the mantissa. -/
theorem ofDigitChars_digits (x : Decimal) : Nat.ofDigitChars 10 x.digits 0 = x.mantissa := by
  rw [digits, ofDigitChars_replicate_zero_append]
  split_ifs with zero
  · rw [zero]
    rfl
  · exact Nat.ofDigitChars_ten_toDigits

theorem length_fractionDigits (x : Decimal) : x.fractionDigits.length = x.scale := by
  have places := scale_le_length_digits x
  rw [fractionDigits, List.length_drop]
  omega

theorem isDigit_of_mem_fractionDigits {x : Decimal} :
    ∀ c ∈ x.fractionDigits, c.isDigit = true := fun c mem =>
  isDigit_of_mem_digits c (List.mem_of_mem_drop mem)

theorem wholeDigits_ne_nil (x : Decimal) : x.wholeDigits ≠ [] := by
  rw [wholeDigits]
  split
  · exact List.cons_ne_nil _ _
  · assumption

theorem isDigit_of_mem_wholeDigits {x : Decimal} : ∀ c ∈ x.wholeDigits, c.isDigit = true := by
  intro c mem
  rw [wholeDigits] at mem
  split at mem
  · obtain rfl := List.mem_singleton.mp mem
    decide
  · exact isDigit_of_mem_digits c (List.mem_of_mem_take mem)

/-- The digits before and after the point stand for the mantissa. -/
theorem ofDigitChars_parts (x : Decimal) :
    Nat.ofDigitChars 10 x.fractionDigits (Nat.ofDigitChars 10 x.wholeDigits 0) = x.mantissa := by
  have all := List.take_append_drop (x.digits.length - x.scale) x.digits
  rw [← Nat.ofDigitChars_append, ← ofDigitChars_digits, wholeDigits, fractionDigits]
  split
  · rename_i none
    rw [none, List.nil_append] at all
    rw [all]
    exact ofDigitChars_replicate_zero_append 1 x.digits
  · rw [all]

/-- Digits before the point are all kept if the number fits. -/
theorem readDigits_whole_append {ds : List Char} (all : ∀ c ∈ ds, c.isDigit = true) (m : Nat)
    (fits : Nat.ofDigitChars 10 ds m < limit) (started : Bool) (rest : List Char) :
    readDigits started false m 0 (ds ++ rest) =
      readDigits (started || !ds.isEmpty) false (Nat.ofDigitChars 10 ds m) 0 rest := by
  induction ds generalizing m started with
  | nil => simp
  | cons c more ih =>
      have digit := all c List.mem_cons_self
      rw [Nat.ofDigitChars_cons, Nat.mul_comm] at fits ⊢
      have grown := Nat.lt_of_le_of_lt (le_ofDigitChars more _) fits
      rw [List.cons_append, readDigits]
      simp only [Bool.false_and, Bool.false_eq_true, if_false, digit, if_true, grown]
      rw [ih (fun d mem => all d (List.mem_cons_of_mem c mem)) _ fits]
      simp

/-- Digits after the point are all kept if the number and its places fit. -/
theorem readDigits_fraction {ds : List Char} (all : ∀ c ∈ ds, c.isDigit = true) (m scale : Nat)
    (fits : Nat.ofDigitChars 10 ds m < limit) (places : scale + ds.length ≤ 28) :
    readDigits true true m scale ds = some (Nat.ofDigitChars 10 ds m, scale + ds.length) := by
  induction ds generalizing m scale with
  | nil => rfl
  | cons c more ih =>
      have digit := all c List.mem_cons_self
      rw [List.length_cons] at places
      rw [Nat.ofDigitChars_cons, Nat.mul_comm] at fits ⊢
      have grown := Nat.lt_of_le_of_lt (le_ofDigitChars more _) fits
      have room : scale ≠ 28 := by omega
      rw [readDigits]
      simp only [room, decide_false, Bool.and_false, Bool.false_eq_true, if_false, digit, if_true,
        grown]
      rw [ih (fun d mem => all d (List.mem_cons_of_mem c mem)) _ _ fits (by omega),
        List.length_cons]
      congr 2
      omega

/-- A digit stands in front of a magnitude. -/
theorem exists_magnitudeChars_eq_cons (x : Decimal) :
    ∃ c more, x.magnitudeChars = c :: more ∧ c.isDigit = true := by
  obtain ⟨c, more, written⟩ := List.exists_cons_of_ne_nil (wholeDigits_ne_nil x)
  have digit : c.isDigit = true := isDigit_of_mem_wholeDigits c (written ▸ List.mem_cons_self)
  rw [magnitudeChars, written]
  split
  · exact ⟨c, more, rfl, digit⟩
  · exact ⟨c, more ++ '.' :: x.fractionDigits, rfl, digit⟩

theorem readDigits_magnitudeChars (x : Decimal) :
    readDigits false false 0 0 x.magnitudeChars = some (x.mantissa, x.scale) := by
  have value := ofDigitChars_parts x
  have length := length_fractionDigits x
  have fits := x.mantissa_lt
  have whole_fits : Nat.ofDigitChars 10 x.wholeDigits 0 < limit := by
    rw [← value] at fits
    exact Nat.lt_of_le_of_lt (le_ofDigitChars _ _) fits
  have whole (rest : List Char) := readDigits_whole_append isDigit_of_mem_wholeDigits 0 whole_fits
    false rest
  have started : (false || !x.wholeDigits.isEmpty) = true := by simp [wholeDigits_ne_nil x]
  rw [started] at whole
  rw [magnitudeChars]
  split
  · rename_i none
    rw [none, Nat.ofDigitChars_nil] at value
    rw [none] at length
    have read := whole []
    rw [List.append_nil, value, readDigits, if_pos rfl] at read
    rw [read, ← length]
    rfl
  · have point (m : Nat) (rest : List Char) :
        readDigits true false m 0 ('.' :: rest) = readDigits true true m 0 rest := by
      simp [readDigits]
    have places : 0 + x.fractionDigits.length ≤ 28 := by
      rw [Nat.zero_add, length]
      exact x.scale_le
    rw [← value] at fits
    rw [whole, point, readDigits_fraction isDigit_of_mem_fractionDigits _ 0 fits places, value,
      length, Nat.zero_add]

/-- The text of a decimal stands for the decimal, without a sign if it is zero. -/
theorem ofString?_text (x : Decimal) : ofString? x.text = some x.withoutZeroSign := by
  have sign : readSign (if x.negative then '-' :: x.magnitudeChars else x.magnitudeChars) =
      (x.negative, x.magnitudeChars) := by
    split_ifs with negative
    · rw [negative]
      rfl
    · obtain ⟨c, more, written, digit⟩ := exists_magnitudeChars_eq_cons x
      have minus : c ≠ '-' := ne_of_isDigit digit (by decide)
      have plus : c ≠ '+' := ne_of_isDigit digit (by decide)
      rw [written]
      simp [readSign, minus, plus, negative]
  have fits : x.mantissa < limit ∧ x.scale ≤ 28 := ⟨x.mantissa_lt, x.scale_le⟩
  have plain : readPlain (if x.negative then '-' :: x.magnitudeChars else x.magnitudeChars) =
      some x.withoutZeroSign := by
    rw [readPlain, sign, readDigits_magnitudeChars, Option.bind_some, ofParts?, dif_pos fits]
    rfl
  rw [ofString?, read, text, String.toList_ofList, plain]
  rfl

end Joinery.Decimal
