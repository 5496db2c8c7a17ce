import Joinery.Proofs.Code.Reading

/-!
# Whole numbers in texts

The text of a whole number is its numeral, with a minus sign in front of a negative one.
A reader that takes digits off a text takes exactly the numeral, if something else
follows.
-/

namespace Joinery.Text

open Code

/-- The sign in front of a whole number. -/
def signChars (n : Int) : List Char := if n < 0 then ['-'] else []

theorem toList_toString_int (n : Int) :
    (toString n).toList = signChars n ++ Nat.toDigits 10 n.natAbs := by
  cases n with
  | ofNat m =>
      have sign : signChars (.ofNat m) = [] := if_neg (Int.not_lt.mpr (Int.natCast_nonneg m))
      rw [sign]
      exact String.toList_ofList
  | negSucc m =>
      have sign : signChars (.negSucc m) = ['-'] := if_pos (Int.negSucc_lt_zero m)
      rw [sign]
      exact (String.toList_append ..).trans (congrArg _ String.toList_ofList)

theorem isDigit_of_mem_toDigits {n : Nat} : ∀ c ∈ Nat.toDigits 10 n, c.isDigit = true :=
  (isNumeral_toDigits n).digits

theorem toDigits_ne_cons {c : Char} (other : c.isDigit = false) (n : Nat) (more : List Char) :
    Nat.toDigits 10 n ≠ c :: more := by
  intro same
  have digit := isDigit_of_mem_toDigits (n := n) c (same ▸ List.mem_cons_self)
  exact absurd digit (by simp [other])

theorem ne_of_isDigit {c mark : Char} (digit : c.isDigit = true) (other : mark.isDigit = false) :
    c ≠ mark := by
  rintro rfl
  exact absurd digit (by simp [other])

/-- More digits stand for no smaller number. -/
theorem le_ofDigitChars (ds : List Char) (m : Nat) : m ≤ Nat.ofDigitChars 10 ds m := by
  rw [Nat.ofDigitChars_eq_ofDigitChars_zero]
  exact Nat.le_trans (Nat.le_mul_of_pos_left m (Nat.pow_pos (by decide))) (Nat.le_add_right _ _)

theorem ofDigitChars_replicate_zero (count : Nat) :
    Nat.ofDigitChars 10 (List.replicate count '0') 0 = 0 := by
  induction count with
  | zero => rfl
  | succ count ih =>
      rw [List.replicate_succ, Nat.ofDigitChars_cons]
      exact ih

theorem ofDigitChars_replicate_zero_append (count : Nat) (ds : List Char) :
    Nat.ofDigitChars 10 (List.replicate count '0' ++ ds) 0 = Nat.ofDigitChars 10 ds 0 := by
  rw [Nat.ofDigitChars_append, ofDigitChars_replicate_zero]

/-- A text does not go on with a digit. -/
def StopsDigits (rest : List Char) : Prop := ∀ c ∈ rest.head?, c.isDigit = false

theorem stopsDigits_dropWhile (cs : List Char) : StopsDigits (cs.dropWhile Char.isDigit) := by
  intro c head
  have stop := List.head?_dropWhile_not Char.isDigit cs
  rw [Option.mem_def.mp head] at stop
  exact stop

theorem takeWhile_isDigit_append {ds rest : List Char} (all : ∀ c ∈ ds, c.isDigit = true)
    (stop : StopsDigits rest) : (ds ++ rest).takeWhile Char.isDigit = ds :=
  (digits_append all rest stop).1

theorem dropWhile_isDigit_append {ds rest : List Char} (all : ∀ c ∈ ds, c.isDigit = true)
    (stop : StopsDigits rest) : (ds ++ rest).dropWhile Char.isDigit = rest :=
  (digits_append all rest stop).2

/-- The front of the text of a whole number is a minus sign or a digit. -/
theorem exists_toString_int_eq_cons (n : Int) :
    ∃ c more, (toString n).toList = c :: more ∧ (c = '-' ∨ c.isDigit = true) := by
  rw [toList_toString_int, signChars]
  split
  · exact ⟨'-', _, rfl, .inl rfl⟩
  · obtain ⟨c, more, digits⟩ := List.exists_cons_of_ne_nil (isNumeral_toDigits n.natAbs).ne_nil
    refine ⟨c, more, digits, .inr ?_⟩
    exact isDigit_of_mem_toDigits c (digits ▸ List.mem_cons_self)

/-- A mark that is neither is not what a number starts with. -/
theorem notMem_of_sign_or_digit {c : Char} (front : c = '-' ∨ c.isDigit = true) {marks : List Char}
    (others : (marks.all fun mark => mark != '-' && !mark.isDigit) = true) : c ∉ marks := by
  intro mem
  have other := List.all_eq_true.mp others c mem
  rcases front with rfl | digit
  · simp at other
  · simp [digit] at other

end Joinery.Text
