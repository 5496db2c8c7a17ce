import Joinery.Proofs.Code.Reading
import Mathlib.Data.List.Basic

/-!
# The language of codes

A code is a letter with digits, numerals between parentheses separated by commas,
and letters without repetition. Main statement: these texts and no others are
read, and what is read is the text before the parenthesis, the values of the
numerals in order and the set of the letters.
-/

namespace Joinery.Code

/-- The parts of a text of the form `preset(n1,...,nk)letters`. -/
structure Layout where
  preset : List Char
  numerals : List (List Char)
  letters : List Char

namespace Layout

/-- The parts with their parentheses and commas, and nothing else. -/
def chars (layout : Layout) : List Char :=
  layout.preset ++ '(' :: ([','].intercalate layout.numerals ++ ')' :: layout.letters)

/-- The parts are those of a code. -/
structure WellFormed (layout : Layout) : Prop where
  preset : IsPreset layout.preset
  some_numeral : layout.numerals ≠ []
  numerals : ∀ n ∈ layout.numerals, IsNumeral n ∧ numeralValue n ≤ 4294967295
  letters : ∀ c ∈ layout.letters, c.isAlpha = true
  distinct : layout.letters.Nodup

/-- The specification that the parts stand for. -/
structure Denotes (layout : Layout) (spec : Specification) : Prop where
  preset : spec.presetId.toList = layout.preset
  dimensions : spec.dimensions.map UInt32.toNat = layout.numerals.map numeralValue
  flags : ∀ c, c ∈ spec.flags ↔ c ∈ layout.letters

end Layout

theorem dimensionChars_eq_intercalate (ds : List UInt32) :
    Specification.dimensionChars ds =
      [','].intercalate (ds.map fun d => Nat.toDigits 10 d.toNat) := by
  induction ds with
  | nil => rfl
  | cons d rest ih =>
      cases rest with
      | nil => simp [Specification.dimensionChars]
      | cons e more =>
          rw [dimensionChars_cons_of_ne_nil (by simp), ih]
          simp

/-- Numerals that stand for dimensions are their decimal digits. -/
theorem numerals_eq_map {numerals : List (List Char)} {ds : List UInt32}
    (each : ∀ n ∈ numerals, IsNumeral n)
    (values : ds.map UInt32.toNat = numerals.map numeralValue) :
    numerals = ds.map fun d => Nat.toDigits 10 d.toNat := by
  calc
    numerals = numerals.map fun n => Nat.toDigits 10 (numeralValue n) := by
      rw [List.map_congr_left fun n mem => (each n mem).toDigits_value, List.map_id']
    _ = (ds.map UInt32.toNat).map (Nat.toDigits 10) := by rw [values, List.map_map]; rfl
    _ = ds.map fun d => Nat.toDigits 10 d.toNat := List.map_map

/-- A code with its flags in some order is laid out in the parts of a code. -/
theorem exists_layout {spec : Specification} {letters : List Char} (readable : spec.Readable)
    (perm : letters.Perm spec.flags.toList) :
    ∃ layout : Layout, layout.WellFormed ∧ spec.charsWith letters = layout.chars ∧
      layout.Denotes spec := by
  obtain ⟨distinct, members⟩ := FlagSet.perm_toList_iff.mp perm
  refine ⟨⟨spec.presetId.toList, spec.dimensions.map fun d => Nat.toDigits 10 d.toNat, letters⟩,
    ?_, ?_, ?_⟩
  · constructor
    · exact readable.preset
    · simpa using readable.some_dimension
    · intro n mem
      obtain ⟨d, -, rfl⟩ := List.mem_map.mp mem
      have bound := d.toNat_lt
      exact ⟨isNumeral_toDigits d.toNat, by rw [numeralValue_toDigits]; omega⟩
    · exact fun c mem => readable.letters c ((members c).mpr mem)
    · exact distinct
  · rw [Specification.charsWith, Layout.chars, dimensionChars_eq_intercalate]
  · constructor
    · rfl
    · simp
    · exact members

theorem Layout.Denotes.readable {layout : Layout} {spec : Specification}
    (denotes : layout.Denotes spec) (wellFormed : layout.WellFormed) :
    spec.Readable ∧ layout.letters.Perm spec.flags.toList ∧
      layout.chars = spec.charsWith layout.letters := by
  have digits : layout.numerals = spec.dimensions.map fun d => Nat.toDigits 10 d.toNat :=
    numerals_eq_map (fun n mem => (wellFormed.numerals n mem).1) denotes.dimensions
  refine ⟨?_, ?_, ?_⟩
  · constructor
    · exact denotes.preset ▸ wellFormed.preset
    · intro none
      exact wellFormed.some_numeral (by simp [digits, none])
    · exact fun c mem => wellFormed.letters c ((denotes.flags c).mp mem)
  · exact FlagSet.perm_toList_iff.mpr ⟨wellFormed.distinct, denotes.flags⟩
  · rw [Specification.charsWith, Layout.chars, dimensionChars_eq_intercalate, denotes.preset,
      digits]

/-- The texts that are read, and what they are read as. A text is read as a
specification exactly when it consists of the parts of a code and these stand for the
specification. -/
theorem parse_eq_ok_iff (code : String) (spec : Specification) :
    parse code = .ok spec ↔
      ∃ layout : Layout, layout.WellFormed ∧ code.toList = layout.chars ∧ layout.Denotes spec := by
  rw [parse, read_eq_ok_iff]
  constructor
  · rintro ⟨readable, letters, perm, written⟩
    rw [written]
    exact exists_layout readable perm
  · rintro ⟨layout, wellFormed, written, denotes⟩
    obtain ⟨readable, perm, same⟩ := denotes.readable wellFormed
    exact ⟨readable, layout.letters, perm, written.trans same⟩

end Joinery.Code
