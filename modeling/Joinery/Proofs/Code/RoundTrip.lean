import Joinery.Proofs.Code.Reading

/-!
# Writing a code and reading it back

Main statement: the canonical code of a specification, whatever its texts contain,
is either refused or read as that very specification; it is read when a code can
carry the specification, and every specification that was read from a code is such
a one. A code whose flags ascend is the canonical one.
-/

namespace Joinery

/-- A mark splits a text in one way, if it does not occur again where two splits would
differ. -/
theorem append_cons_inj {mark : Char} {left right left' right' : List Char}
    (once : mark ∉ left' ∨ mark ∉ right) (once' : mark ∉ left ∨ mark ∉ right')
    (same : left ++ mark :: right = left' ++ mark :: right') : left = left' ∧ right = right' := by
  rcases List.append_eq_append_iff.mp same with ⟨gap, rfl, split⟩ | ⟨gap, rfl, split⟩
  · cases gap with
    | nil => exact ⟨by simp, (List.cons.inj split).2⟩
    | cons c more =>
        obtain ⟨rfl, rfl⟩ := List.cons.inj split
        simp at once
  · cases gap with
    | nil => exact ⟨by simp, (List.cons.inj split).2.symm⟩
    | cons c more =>
        obtain ⟨rfl, rfl⟩ := List.cons.inj split
        simp at once'

namespace Specification

open Code

theorem notMem_dimensionChars {mark : Char} (plain : mark.isDigit = false) (differs : mark ≠ ',')
    (ds : List UInt32) : mark ∉ dimensionChars ds := by
  intro mem
  rcases isDigit_or_comma_of_mem_dimensionChars mark mem with digit | comma
  · rw [plain] at digit
    cases digit
  · exact differs comma

theorem dimensionChars_eq_nil_iff {ds : List UInt32} : dimensionChars ds = [] ↔ ds = [] := by
  constructor
  · intro none
    cases ds with
    | nil => rfl
    | cons d rest =>
        by_cases last : rest = []
        · subst last
          exact absurd none Nat.toDigits_ne_nil
        · simp [dimensionChars_cons_of_ne_nil last] at none
  · rintro rfl
    rfl

/-- The written dimensions determine the dimensions, as they can be read back. -/
theorem dimensionChars_injective {ds es : List UInt32}
    (same : dimensionChars ds = dimensionChars es) : ds = es := by
  by_cases none : ds = []
  · subst none
    exact (dimensionChars_eq_nil_iff.mp same.symm).symm
  · have some_dimension : es ≠ [] := fun empty =>
      none (dimensionChars_eq_nil_iff.mp (same.trans (dimensionChars_eq_nil_iff.mpr empty)))
    have read := readDimensions_append none 0 []
    have read' := readDimensions_append some_dimension 0 []
    rw [same] at read
    exact (Prod.mk.inj (Except.ok.inj (read.symm.trans read'))).1

variable {spec other : Specification} {letters : List Char}

theorem parse_canonicalCode_eq_ok_iff_charsWith :
    parse spec.canonicalCode = .ok other ↔
      other.Readable ∧ ∃ letters, letters.Perm other.flags.toList ∧
        spec.charsWith spec.flags.toList = other.charsWith letters := by
  rw [parse, canonicalCode, String.toList_ofList, read_eq_ok_iff, canonicalChars_eq]

/-- The parts of a code of a readable specification hold none of the parentheses. -/
theorem Readable.mark_notMem (readable : other.Readable)
    (perm : letters.Perm other.flags.toList) {mark : Char} (plain : mark.isAlphanum = false)
    (differs : mark ≠ ',') :
    mark ∉ other.presetId.toList ∧ mark ∉ dimensionChars other.dimensions ∧ mark ∉ letters := by
  refine ⟨?_, ?_, ?_⟩
  · intro mem
    have alphanum := readable.preset.isAlphanum mark mem
    rw [plain] at alphanum
    cases alphanum
  · exact notMem_dimensionChars (Bool.or_eq_false_iff.mp plain).2 differs _
  · intro mem
    have letter := readable.letters mark (perm.mem_iff.mp mem)
    simp [Char.isAlphanum, letter] at plain

/-- The closing parenthesis ends the dimensions, as it is no part of them. -/
theorem eq_of_parts (perm : letters.Perm other.flags.toList)
    (preset : spec.presetId.toList = other.presetId.toList)
    (inner : dimensionChars spec.dimensions ++ ')' :: spec.flags.toList =
      dimensionChars other.dimensions ++ ')' :: letters) : spec = other := by
  have no_close (ds : List UInt32) : ')' ∉ dimensionChars ds :=
    notMem_dimensionChars (by decide) (by decide) ds
  obtain ⟨dimensions, flags⟩ := append_cons_inj (.inl (no_close _)) (.inl (no_close _)) inner
  have same_preset : spec.presetId = other.presetId := String.toList_inj.mp preset
  have same_dimensions := dimensionChars_injective dimensions
  have same_flags : spec.flags = other.flags := FlagSet.eq_of_perm (flags ▸ perm)
  cases spec
  cases other
  simp_all

/-- Two specifications that share a text are equal if a code can carry one of them:
the parentheses fix where the preset and the dimensions end. -/
theorem eq_of_charsWith_eq (readable : other.Readable) (perm : letters.Perm other.flags.toList)
    (same : spec.charsWith spec.flags.toList = other.charsWith letters) : spec = other := by
  obtain ⟨preset_open, dimensions_open, letters_open⟩ :=
    readable.mark_notMem perm (show '('.isAlphanum = false by decide) (by decide)
  have inner_open : '(' ∉ dimensionChars other.dimensions ++ ')' :: letters := by
    simp [dimensions_open, letters_open]
  obtain ⟨preset, inner⟩ := append_cons_inj (.inl preset_open) (.inr inner_open) same
  exact eq_of_parts perm preset inner

/-- The canonical code is never misread. -/
theorem eq_of_parse_canonicalCode (read : parse spec.canonicalCode = .ok other) :
    spec = other := by
  obtain ⟨readable, letters, perm, same⟩ := parse_canonicalCode_eq_ok_iff_charsWith.mp read
  exact eq_of_charsWith_eq readable perm same

theorem parse_canonicalCode_eq_ok_iff : parse spec.canonicalCode = .ok spec ↔ spec.Readable := by
  rw [parse_canonicalCode_eq_ok_iff_charsWith]
  constructor
  · exact fun read => read.1
  · exact fun readable => ⟨readable, spec.flags.toList, .rfl, rfl⟩

/-- In a code the letters are what stands behind the closing parenthesis. -/
theorem Readable.eq_letters_of_charsWith {front letters others : List Char}
    (readable : spec.Readable) (perm : others.Perm spec.flags.toList)
    (written : front ++ ')' :: letters = spec.charsWith others) :
    front = spec.presetId.toList ++ '(' :: dimensionChars spec.dimensions ∧ letters = others := by
  obtain ⟨preset_close, dimensions_close, others_close⟩ :=
    readable.mark_notMem perm (show ')'.isAlphanum = false by decide) (by decide)
  have front_close : ')' ∉ spec.presetId.toList ++ '(' :: dimensionChars spec.dimensions := by
    simp [preset_close, dimensions_close]
  refine append_cons_inj (.inl front_close) (.inr others_close) (written.trans ?_)
  rw [charsWith]
  simp

/-- A code with ascending flags is the canonical code of what it describes. -/
theorem canonicalCode_eq_of_ascending {code : String} (read : parse code = .ok spec)
    {front : List Char} (written : code.toList = front ++ ')' :: letters)
    (ascending : letters.Pairwise (· < ·)) : spec.canonicalCode = code := by
  rw [parse, read_eq_ok_iff] at read
  obtain ⟨readable, others, perm, same⟩ := read
  obtain ⟨-, rfl⟩ := readable.eq_letters_of_charsWith perm (written.symm.trans same)
  have sorted : letters = spec.flags.toList := FlagSet.eq_toList_of_perm ascending perm
  rw [canonicalCode, canonicalChars_eq, ← sorted, ← same, String.ofList_toList]

/-- What becomes of a specification that is written as its canonical code and read
again. -/
theorem parse_canonicalCode (spec : Specification) :
    ((∃ fault, parse spec.canonicalCode = .error fault) ∨ parse spec.canonicalCode = .ok spec) ∧
    (parse spec.canonicalCode = .ok spec ↔
      IsPreset spec.presetId.toList ∧ spec.dimensions ≠ [] ∧
        ∀ c ∈ spec.flags, c.isAlpha = true) ∧
    (∀ code, parse code = .ok spec → parse spec.canonicalCode = .ok spec ∧
      ∀ front letters, code.toList = front ++ ')' :: letters → letters.Pairwise (· < ·) →
        spec.canonicalCode = code) := by
  refine ⟨?_, ?_, ?_⟩
  · cases read : parse spec.canonicalCode with
    | error fault => exact Or.inl ⟨fault, rfl⟩
    | ok other =>
        obtain rfl := eq_of_parse_canonicalCode read
        exact Or.inr rfl
  · rw [parse_canonicalCode_eq_ok_iff]
    constructor
    · exact fun readable => ⟨readable.preset, readable.some_dimension, readable.letters⟩
    · exact fun ⟨preset, some_dimension, letters⟩ => ⟨preset, some_dimension, letters⟩
  · intro code read
    refine ⟨?_, fun front letters => canonicalCode_eq_of_ascending read⟩
    rw [parse_canonicalCode_eq_ok_iff]
    rw [parse, read_eq_ok_iff] at read
    exact read.1

end Specification

end Joinery
