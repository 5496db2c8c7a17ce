import Joinery.Configurator
import Joinery.Proofs.Validation.RoundTrip

/-!
# Keys of generations

Models are shared under the canonical code of a checked specification and whether they
are closed. Main statement: two codes that are accepted share a key just where one comes
from the other by a change of the order of its letters; such codes describe the same
piece and are quoted alike. The texts of different keys differ.
-/

namespace Joinery

namespace Code

/-- One code comes from the other by a change of the order of the letters behind the
closing parenthesis. -/
def Reordered (code other : String) : Prop :=
  ∃ front letters letters', code.toList = front ++ ')' :: letters ∧
    other.toList = front ++ ')' :: letters' ∧ letters.Perm letters'

/-- The codes that are read alike differ in the order of their letters. -/
theorem reordered_iff_parse {code other : String} {spec : Specification}
    (read : parse code = .ok spec) : Reordered code other ↔ parse other = .ok spec := by
  rw [parse, read_eq_ok_iff] at read ⊢
  obtain ⟨readable, written, perm, same⟩ := read
  constructor
  · rintro ⟨front, letters, letters', split, split', reordered⟩
    obtain ⟨rfl, rfl⟩ := readable.eq_letters_of_charsWith perm (split.symm.trans same)
    refine ⟨readable, letters', reordered.symm.trans perm, split'.trans ?_⟩
    simp [Specification.charsWith]
  · rintro ⟨-, written', perm', same'⟩
    refine ⟨spec.presetId.toList ++ '(' :: Specification.dimensionChars spec.dimensions, written,
      written', ?_, ?_, perm.trans perm'.symm⟩
    · simp [same, Specification.charsWith]
    · simp [same', Specification.charsWith]

end Code

namespace Specification

open Code

variable {spec other : Specification}

/-- Several dimensions do not ascend as characters, as a digit stands before a comma. -/
theorem not_ascending_dimensionChars {ds : List UInt32} (several : 1 < ds.length) :
    ¬(dimensionChars ds).Pairwise (· < ·) := by
  match ds, several with
  | d :: e :: rest, _ =>
    intro ascending
    rw [dimensionChars_cons_of_ne_nil (by simp), List.pairwise_append] at ascending
    obtain ⟨c, digits⟩ := List.exists_mem_of_ne_nil _ (Nat.toDigits_ne_nil (b := 10) (n := d.toNat))
    have below : c < ',' := ascending.2.2 c digits ',' (by simp)
    have least := (Char.isDigit_iff_toNat.mp ((isNumeral_toDigits d.toNat).digits c digits)).1
    exact absurd (UInt32.lt_iff_toNat_lt.mp below) (Nat.not_lt.mpr (le_trans (by decide) least))

/-- What stands between the parentheses cannot stand among flags, as these ascend. So the
parenthesis that opens after an id is the only one that can. -/
theorem eq_nil_of_open_eq_append_open {gap letters : List Char} {ds : List UInt32}
    (several : 1 < ds.length)
    (same : '(' :: (dimensionChars spec.dimensions ++ ')' :: spec.flags.toList) =
      gap ++ '(' :: (dimensionChars ds ++ ')' :: letters)) : gap = [] := by
  cases gap with
  | nil => rfl
  | cons first front =>
      have no_open : '(' ∉ dimensionChars spec.dimensions :=
        notMem_dimensionChars (by decide) (by decide) _
      have inner : dimensionChars spec.dimensions ++ ')' :: spec.flags.toList =
          front ++ '(' :: (dimensionChars ds ++ ')' :: letters) := (List.cons.inj same).2
      apply (List.append_eq_append_iff.mp inner).elim
      · rintro ⟨gap, -, split⟩
        cases gap with
        | nil => exact absurd (List.cons.inj split).1 (by decide)
        | cons c more =>
            have flags : spec.flags.toList = more ++ '(' :: (dimensionChars ds ++ ')' :: letters) :=
              (List.cons.inj split).2
            have ascending := spec.flags.ascending
            rw [flags, List.pairwise_append, List.pairwise_cons, List.pairwise_append] at ascending
            exact absurd ascending.2.1.2.1 (not_ascending_dimensionChars several)
      · rintro ⟨gap, closed, split⟩
        cases gap with
        | nil => exact absurd (List.cons.inj split).1 (by decide)
        | cons c more =>
            obtain ⟨rfl, -⟩ := List.cons.inj split
            exact absurd (by simp [closed]) no_open

/-- Specifications of several dimensions have different codes, whatever their ids and
flags are. -/
theorem eq_of_canonicalChars_eq (several : 1 < spec.dimensions.length)
    (several' : 1 < other.dimensions.length) (same : spec.canonicalChars = other.canonicalChars) :
    spec = other := by
  rcases List.append_eq_append_iff.mp same with ⟨gap, preset, inner⟩ | ⟨gap, preset, inner⟩
  · obtain rfl := eq_nil_of_open_eq_append_open several' inner
    exact eq_of_parts .rfl (by simp [preset]) (List.cons.inj inner).2
  · obtain rfl := eq_nil_of_open_eq_append_open several inner
    exact eq_of_parts .rfl (by simp [preset]) (List.cons.inj inner).2.symm

/-- A parenthesis that ends a canonical code stands behind a digit or a smaller flag, never
behind a letter. -/
theorem canonicalChars_ne_append (some_dimension : spec.dimensions ≠ []) (front : List Char) :
    spec.canonicalChars ≠ front ++ ['d', ')'] := by
  intro same
  obtain ⟨inner, last, written⟩ : ∃ inner last, dimensionChars spec.dimensions = inner ++ [last] :=
    ⟨_, _, (List.dropLast_append_getLast (mt dimensionChars_eq_nil_iff.mp some_dimension)).symm⟩
  have no_letter : 'd' ∉ dimensionChars spec.dimensions :=
    notMem_dimensionChars (by decide) (by decide) _
  have ascending : spec.flags.toList.reverse.Pairwise fun a b => b < a :=
    List.pairwise_reverse.mpr spec.flags.ascending
  have back := congrArg List.reverse same
  simp only [canonicalChars, written, List.reverse_append, List.reverse_cons, List.append_assoc,
    List.reverse_nil, List.nil_append, List.cons_append] at back
  match flags : spec.flags.toList.reverse with
  | [] =>
      rw [flags] at back
      obtain rfl : last = 'd' := by simpa using (List.cons.inj (List.cons.inj back).2).1
      exact no_letter (by simp [written])
  | [_] =>
      rw [flags] at back
      exact absurd (List.cons.inj (List.cons.inj back).2).1 (by decide)
  | a :: b :: rest =>
      rw [flags] at back ascending
      obtain rfl : a = ')' := (List.cons.inj back).1
      obtain rfl : b = 'd' := (List.cons.inj (List.cons.inj back).2).1
      exact absurd (List.pairwise_cons.mp ascending).1 (by simp)

end Specification

namespace GenerationKey

variable {checked other : CheckedSpecification} {closed closed' : Bool}

/-- A key determines the checked specification, not only its code. -/
theorem ofChecked_injective (same : ofChecked checked closed = ofChecked other closed') :
    checked = other ∧ closed = closed' := by
  obtain ⟨code, state⟩ := GenerationKey.mk.inj same
  have spec : checked.spec = other.spec :=
    Specification.eq_of_canonicalChars_eq checked.several_dimensions other.several_dimensions
      (String.ofList_injective code)
  exact ⟨CheckedSpecification.eq_of_spec_eq spec, state⟩

theorem toList_text_open (checked : CheckedSpecification) :
    (ofChecked checked false).text.toList = checked.spec.canonicalChars := by
  change (String.ofList checked.spec.canonicalChars).toList = _
  rw [String.toList_ofList]

theorem toList_text_closed (checked : CheckedSpecification) :
    (ofChecked checked true).text.toList = checked.spec.canonicalChars ++ " (closed)".toList := by
  change (String.ofList checked.spec.canonicalChars ++ " (closed)").toList = _
  rw [String.toList_append, String.toList_ofList]

/-- The mark of a closed model is never taken for a part of a code. -/
theorem text_open_ne_text_closed (checked other : CheckedSpecification) :
    (ofChecked checked false).text ≠ (ofChecked other true).text := by
  intro same
  have chars := congrArg String.toList same
  rw [toList_text_open, toList_text_closed] at chars
  have some_dimension : checked.spec.dimensions ≠ [] :=
    List.ne_nil_of_length_pos (Nat.zero_lt_of_lt checked.several_dimensions)
  refine Specification.canonicalChars_ne_append some_dimension
    (other.spec.canonicalChars ++ " (close".toList) (chars.trans ?_)
  rw [List.append_assoc]
  rfl

/-- The text of a key determines the key. -/
theorem ofChecked_eq_of_text_eq
    (same : (ofChecked checked closed).text = (ofChecked other closed').text) :
    ofChecked checked closed = ofChecked other closed' := by
  have code_of_chars (chars : checked.spec.canonicalChars = other.spec.canonicalChars) :
      checked.canonicalCode = other.canonicalCode := congrArg String.ofList chars
  cases closed <;> cases closed'
  case false.false =>
    have chars := congrArg String.toList same
    rw [toList_text_open, toList_text_open] at chars
    rw [ofChecked, ofChecked, code_of_chars chars]
  case false.true => exact absurd same (text_open_ne_text_closed checked other)
  case true.false => exact absurd same.symm (text_open_ne_text_closed other checked)
  case true.true =>
    have chars := congrArg String.toList same
    rw [toList_text_closed, toList_text_closed] at chars
    rw [ofChecked, ofChecked, code_of_chars (List.append_cancel_right chars)]

/-- Two codes that are accepted share a key just where they differ in the order of their
letters and are both closed or both open. Such codes describe the same piece, so they are
quoted alike. The texts of keys tell all keys apart, also those of other registries. -/
theorem key_eq_iff_reordered {code code' : String} {checked checked' : CheckedSpecification}
    (accepted : Registry.standard.check code = .ok checked)
    (accepted' : Registry.standard.check code' = .ok checked') (closed closed' : Bool) :
    (ofChecked checked closed = ofChecked checked' closed' ↔
      closed = closed' ∧ Code.Reordered code code') ∧
    (Code.Reordered code code' → checked = checked' ∧
      ∀ (prices : PriceList) (request : QuoteRequest),
        prices.quote code request = prices.quote code' request) ∧
    ∀ (x y : CheckedSpecification) (i j : Bool),
      (ofChecked x i).text = (ofChecked y j).text → ofChecked x i = ofChecked y j := by
  have read := (Registry.check_eq_ok_iff.mp accepted).1
  have read' := (Registry.check_eq_ok_iff.mp accepted').1
  have reordered_iff : Code.Reordered code code' ↔ checked = checked' := by
    rw [Code.reordered_iff_parse read]
    constructor
    · intro same
      exact CheckedSpecification.eq_of_spec_eq (Except.ok.inj (same.symm.trans read'))
    · rintro rfl
      exact read'
  refine ⟨?_, ?_, fun _ _ _ _ => ofChecked_eq_of_text_eq⟩
  · rw [reordered_iff]
    constructor
    · intro same
      exact (ofChecked_injective same).symm
    · rintro ⟨rfl, rfl⟩
      rfl
  · intro reordered
    obtain rfl := reordered_iff.mp reordered
    refine ⟨rfl, fun prices request => ?_⟩
    rw [PriceList.quote, PriceList.quote, accepted, accepted']

/-- Shelving on a base board shares its model whichever of the two is asked for first. -/
theorem key_eq_iff_reordered_shelving :
    ∃ first second : CheckedSpecification,
      Registry.standard.check "M1(2000,500,1000)bE" = .ok first ∧
      Registry.standard.check "M1(2000,500,1000)Eb" = .ok second ∧
      ofChecked first true = ofChecked second true := by
  have accepted : Registry.standard.violations ⟨"M1", [2000, 500, 1000], .ofList ['E', 'b']⟩ = [] :=
    by decide +kernel
  have admitted := Registry.violations_eq_nil_iff.mp accepted
  have read : Code.parse "M1(2000,500,1000)bE" =
      .ok ⟨"M1", [2000, 500, 1000], .ofList ['E', 'b']⟩ := by decide +kernel
  have read' : Code.parse "M1(2000,500,1000)Eb" =
      .ok ⟨"M1", [2000, 500, 1000], .ofList ['E', 'b']⟩ := by decide +kernel
  have board_first : Registry.standard.check "M1(2000,500,1000)bE" =
      .ok ⟨_, Registry.standard, accepted⟩ := Registry.check_eq_ok_iff.mpr ⟨read, admitted⟩
  have shelves_first : Registry.standard.check "M1(2000,500,1000)Eb" =
      .ok ⟨_, Registry.standard, accepted⟩ := Registry.check_eq_ok_iff.mpr ⟨read', admitted⟩
  have reordered : Code.Reordered "M1(2000,500,1000)bE" "M1(2000,500,1000)Eb" :=
    ⟨"M1(2000,500,1000".toList, ['b', 'E'], ['E', 'b'], rfl, rfl, .swap _ _ _⟩
  exact ⟨_, _, board_first, shelves_first,
    (key_eq_iff_reordered board_first shelves_first true true).1.mpr ⟨rfl, reordered⟩⟩

end GenerationKey

end Joinery
