import Joinery.Code.Parser
import Mathlib.Data.List.Induction
import Mathlib.Data.List.Nodup
import Mathlib.Data.List.Perm.Basic
import Mathlib.Data.List.TakeWhile

/-!
# What the reader of codes accepts

Each part of the reader is inverted: it succeeds exactly on texts of one form, and
then returns what that form stands for. Main statement: a text is read as a
specification exactly when it is the canonical code of that specification with
the flags in some order, and the preset, the dimensions and the flags are such as
a code can carry.
-/

namespace Joinery

namespace FlagSet

theorem nodup (flags : FlagSet) : flags.toList.Nodup :=
  flags.ascending.imp fun below => Char.ne_of_lt below

/-- A set is listed in ascending order in one way. -/
theorem eq_toList_of_perm {flags : FlagSet} {letters : List Char}
    (ascending : letters.Pairwise (· < ·)) (perm : letters.Perm flags.toList) :
    letters = flags.toList :=
  perm.eq_of_pairwise (fun _ _ _ _ below above => absurd below (Char.lt_asymm above))
    ascending flags.ascending

theorem eq_of_perm {flags others : FlagSet} (perm : flags.toList.Perm others.toList) :
    flags = others := by
  have same : flags.toList = others.toList := eq_toList_of_perm flags.ascending perm
  cases flags
  cases others
  simpa using same

theorem eq_of_mem_iff {flags others : FlagSet} (same : ∀ c, c ∈ flags ↔ c ∈ others) :
    flags = others :=
  eq_of_perm ((List.perm_ext_iff_of_nodup flags.nodup others.nodup).mpr same)

/-- A list without repetition has the members of a set exactly when it lists the set. -/
theorem perm_toList_iff {flags : FlagSet} {letters : List Char} :
    letters.Perm flags.toList ↔ letters.Nodup ∧ ∀ c, c ∈ flags ↔ c ∈ letters := by
  constructor
  · intro perm
    exact ⟨perm.nodup_iff.mpr flags.nodup, fun c => perm.symm.mem_iff⟩
  · rintro ⟨distinct, members⟩
    exact (List.perm_ext_iff_of_nodup distinct flags.nodup).mpr fun c => (members c).symm

end FlagSet

namespace Code

/-- A numeral: digits, and a zero in front only as the numeral `0`. -/
structure IsNumeral (cs : List Char) : Prop where
  ne_nil : cs ≠ []
  digits : ∀ c ∈ cs, c.isDigit = true
  leading : cs.head? = some '0' → cs = ['0']

/-- The number that digits stand for. -/
abbrev numeralValue (cs : List Char) : Nat := Nat.ofDigitChars 10 cs 0

theorem digitChar_of_isDigit {c : Char} (digit : c.isDigit = true) :
    Nat.digitChar (c.toNat - '0'.toNat) = c ∧ c.toNat - '0'.toNat < 10 := by
  obtain ⟨low, high⟩ := Char.isDigit_iff_toNat.mp digit
  have value : c.toNat - '0'.toNat < 10 := by
    have zero : '0'.toNat = 48 := rfl
    have nine : '9'.toNat = 57 := rfl
    omega
  refine ⟨?_, value⟩
  apply Char.toNat_inj.mp
  rw [Nat.toNat_digitChar_of_lt_ten value]
  have zero : '0'.toNat = 48 := rfl
  omega

/-- The value of a numeral is written as that numeral. -/
theorem IsNumeral.toDigits_value {cs : List Char} (numeral : IsNumeral cs) :
    Nat.toDigits 10 (numeralValue cs) = cs := by
  induction cs using List.reverseRecOn with
  | nil => exact absurd rfl numeral.ne_nil
  | append_singleton front c ih =>
      obtain ⟨same, small⟩ := digitChar_of_isDigit (numeral.digits c (by simp))
      have value : numeralValue (front ++ [c]) =
          10 * numeralValue front + (c.toNat - '0'.toNat) := by
        simp [numeralValue, Nat.ofDigitChars_append, Nat.ofDigitChars_cons]
      have last : Nat.toDigits 10 (c.toNat - '0'.toNat) = [c] := by
        rw [Nat.toDigits_of_lt_base small, same]
      cases front with
      | nil => rw [value]; simpa using last
      | cons d rest =>
          have nonzero : d ≠ '0' := by
            rintro rfl
            simpa using numeral.leading rfl
          have shorter : IsNumeral (d :: rest) :=
            ⟨by simp, fun x mem => numeral.digits x (by simp at mem ⊢; tauto),
              fun zero => absurd (Option.some.inj zero) nonzero⟩
          have written := ih shorter
          have positive : 0 < numeralValue (d :: rest) := by
            apply Nat.pos_of_ne_zero
            intro zero
            rw [zero, Nat.toDigits_zero] at written
            exact nonzero (List.cons.inj written).1.symm
          rw [value, ← Nat.toDigits_append_toDigits (by decide) positive small, written, last]

theorem isNumeral_toDigits (n : Nat) : IsNumeral (Nat.toDigits 10 n) where
  ne_nil := Nat.toDigits_ne_nil
  digits := fun _ mem => Nat.isDigit_of_mem_toDigits (by decide) (by decide) mem
  leading := by
    induction n using Nat.strongRecOn with
    | ind n ih =>
        intro zero
        by_cases small : n < 10
        · rw [Nat.toDigits_of_lt_base small] at zero ⊢
          exact congrArg (fun c => [c]) (Option.some.inj zero)
        · have front := Nat.toDigits_of_base_le (b := 10) (by decide) (Nat.not_lt.mp small)
          have shorter : n / 10 < n := Nat.div_lt_self (by omega) (by decide)
          have head : (Nat.toDigits 10 (n / 10)).head? = some '0' := by
            rw [front, List.head?_append_of_ne_nil _ Nat.toDigits_ne_nil] at zero
            exact zero
          -- The front would be the numeral `0`, but the number has two digits or more.
          have value := congrArg numeralValue (ih (n / 10) shorter head)
          rw [numeralValue, Nat.ofDigitChars_ten_toDigits] at value
          have none : numeralValue ['0'] = 0 := rfl
          omega

theorem numeralValue_toDigits (n : Nat) : numeralValue (Nat.toDigits 10 n) = n :=
  Nat.ofDigitChars_ten_toDigits

theorem isNumeral_iff {cs : List Char} {n : Nat} :
    IsNumeral cs ∧ numeralValue cs = n ↔ cs = Nat.toDigits 10 n := by
  constructor
  · rintro ⟨numeral, rfl⟩
    exact numeral.toDigits_value.symm
  · rintro rfl
    exact ⟨isNumeral_toDigits n, numeralValue_toDigits n⟩

theorem digits_append {ds : List Char} (all : ∀ c ∈ ds, c.isDigit = true) (rest : List Char)
    (stop : ∀ c ∈ rest.head?, c.isDigit = false) :
    digits (ds ++ rest) = ds ∧ afterDigits (ds ++ rest) = rest := by
  have none : digits rest = [] ∧ afterDigits rest = rest := by
    cases rest with
    | nil => exact ⟨rfl, rfl⟩
    | cons c more =>
        have other : c.isDigit = false := stop c rfl
        simp [digits, afterDigits, other]
  constructor
  · exact (List.takeWhile_append_of_pos all).trans (by simpa using none.1)
  · exact (List.dropWhile_append_of_pos all).trans none.2

theorem isDigit_of_mem_digits {cs : List Char} : ∀ c ∈ digits cs, c.isDigit = true :=
  fun _ mem => List.mem_takeWhile_imp mem

/-- A letter and at least one digit. -/
def IsPreset : List Char → Prop
  | [] => False
  | c :: ds => c.isAlpha = true ∧ ds ≠ [] ∧ ∀ d ∈ ds, d.isDigit = true

theorem readPreset_eq_ok_iff {cs preset rest : List Char} :
    readPreset cs = .ok (preset, rest) ↔
      IsPreset preset ∧ (∀ c ∈ rest.head?, c.isAlphanum = false) ∧ cs = preset ++ rest := by
  constructor
  · intro read
    cases cs with
    | nil => cases read
    | cons c more =>
        simp only [readPreset] at read
        split at read
        · cases read
        split at read
        · cases read
        split at read
        · cases read
        rename_i letter some_digit stop
        obtain ⟨rfl, rfl⟩ := Prod.mk.inj (Except.ok.inj read)
        refine ⟨⟨by simpa using letter, some_digit, isDigit_of_mem_digits⟩, ?_, ?_⟩
        · intro d head
          simpa [Option.mem_def.mp head] using stop
        · rw [List.cons_append, digits_append_afterDigits]
  · rintro ⟨shape, stop, rfl⟩
    cases preset with
    | nil => exact shape.elim
    | cons c ds =>
        obtain ⟨letter, some_digit, all⟩ := shape
        have no_digit : ∀ d ∈ rest.head?, d.isDigit = false := by
          intro d head
          have other := stop d head
          rw [Char.isAlphanum, Bool.or_eq_false_iff] at other
          exact other.2
        obtain ⟨front, back⟩ := digits_append all rest no_digit
        have no_letter : rest.head?.any Char.isAlphanum = false := by
          cases head : rest.head? with
          | none => rfl
          | some d => exact stop d head
        simp [readPreset, letter, front, back, some_digit, no_letter]

theorem readDimension_eq_ok_iff {position : Nat} {cs : List Char} {d : UInt32} :
    readDimension position cs = .ok d ↔ digits cs = Nat.toDigits 10 d.toNat := by
  rw [← isNumeral_iff]
  constructor
  · intro read
    rw [readDimension] at read
    split at read
    · cases read
    split at read
    · cases read
    split at read
    · rename_i some_digit leading fits
      obtain rfl := Except.ok.inj read
      refine ⟨⟨some_digit, isDigit_of_mem_digits, fun zero => ?_⟩, rfl⟩
      have short : (digits cs).length ≤ 1 := Nat.not_lt.mp fun long => leading ⟨zero, long⟩
      cases shape : digits cs with
      | nil => exact absurd shape some_digit
      | cons c more =>
          rw [shape] at zero short
          have single : more = [] := by simpa using short
          simpa [single] using zero
    · cases read
  · rintro ⟨numeral, value⟩
    have leading : ¬((digits cs).head? = some '0' ∧ 1 < (digits cs).length) := by
      rintro ⟨zero, long⟩
      rw [numeral.leading zero] at long
      exact absurd long (by decide)
    have fits : Nat.ofDigitChars 10 (digits cs) 0 < UInt32.size := by
      exact value.trans_lt d.toNat_lt
    rw [readDimension, if_neg numeral.ne_nil, if_neg leading, dif_pos fits]
    exact congrArg Except.ok (UInt32.toNat_inj.mp value)

theorem readDimensions_step {position next : Nat} {cs tail : List Char} {ds : List UInt32} :
    readDimensions position cs = .ok (ds, next, tail) ↔
      ∃ d, readDimension position cs = .ok d ∧
        (afterDigits cs = ')' :: tail ∧ ds = [d] ∧ next = position + (digits cs).length + 1 ∨
          ∃ more rest, afterDigits cs = ',' :: more ∧ ds = d :: rest ∧
            readDimensions (position + (digits cs).length + 1) more = .ok (rest, next, tail)) := by
  constructor
  · intro read
    rw [readDimensions] at read
    cases first : readDimension position cs with
    | error fault => rw [first] at read; cases read
    | ok d =>
        simp only [first] at read
        refine ⟨d, rfl, ?_⟩
        split at read
        · cases read
        rename_i c more found
        split at read
        · rename_i comma
          subst comma
          cases later : readDimensions (position + (digits cs).length + 1) more with
          | error fault => rw [later] at read; cases read
          | ok parts =>
              rw [later] at read
              obtain ⟨values, after⟩ := parts
              obtain ⟨rfl, rfl⟩ := Prod.mk.inj (Except.ok.inj read)
              exact Or.inr ⟨more, values, found, rfl, later⟩
        split at read
        · rename_i closing
          subst closing
          obtain ⟨rfl, rfl, rfl⟩ : [d] = ds ∧ _ = next ∧ more = tail := by simpa using read
          exact Or.inl ⟨found, rfl, rfl⟩
        · cases read
  · rintro ⟨d, first, ⟨closed, rfl, rfl⟩ | ⟨more, rest, comma, rfl, later⟩⟩
    · rw [readDimensions, first]
      dsimp only
      split
      · rename_i ended
        rw [closed] at ended
        cases ended
      · rename_i c after found
        obtain ⟨rfl, rfl⟩ := List.cons.inj (found.symm.trans closed)
        rfl
    · rw [readDimensions, first]
      dsimp only
      split
      · rename_i ended
        rw [comma] at ended
        cases ended
      · rename_i c after found
        obtain ⟨rfl, rfl⟩ := List.cons.inj (found.symm.trans comma)
        simp [later]

theorem dimensionChars_singleton (d : UInt32) :
    Specification.dimensionChars [d] = Nat.toDigits 10 d.toNat := rfl

theorem dimensionChars_cons_of_ne_nil {d : UInt32} {ds : List UInt32} (more : ds ≠ []) :
    Specification.dimensionChars (d :: ds) =
      Nat.toDigits 10 d.toNat ++ ',' :: Specification.dimensionChars ds := by
  cases ds with
  | nil => exact absurd rfl more
  | cons e rest => rfl

theorem readDimensions_eq_ok_iff {position next : Nat} {cs tail : List Char}
    {ds : List UInt32} :
    readDimensions position cs = .ok (ds, next, tail) ↔
      ds ≠ [] ∧ cs = Specification.dimensionChars ds ++ ')' :: tail ∧
        next = position + (Specification.dimensionChars ds).length + 1 := by
  induction ds generalizing position next cs with
  | nil =>
      rw [readDimensions_step]
      simp
  | cons d rest ih =>
      rw [readDimensions_step]
      constructor
      · rintro ⟨e, read, ⟨closed, same, rfl⟩ | ⟨more, others, comma, same, later⟩⟩
        · obtain ⟨rfl, rfl⟩ := List.cons.inj same
          have front := readDimension_eq_ok_iff.mp read
          refine ⟨by simp, ?_, by rw [front]; rfl⟩
          rw [← digits_append_afterDigits cs, front, closed]
          rfl
        · obtain ⟨rfl, rfl⟩ := List.cons.inj same
          have front := readDimension_eq_ok_iff.mp read
          obtain ⟨some_more, rfl, rfl⟩ := ih.mp later
          rw [dimensionChars_cons_of_ne_nil some_more]
          refine ⟨by simp, ?_, by simp [front]; omega⟩
          rw [← digits_append_afterDigits cs, front, comma]
          simp
      · rintro ⟨-, rfl, rfl⟩
        have all := (isNumeral_toDigits d.toNat).digits
        by_cases last : rest = []
        · subst last
          rw [dimensionChars_singleton]
          obtain ⟨front, back⟩ := digits_append all (')' :: tail) (by simp)
          exact ⟨d, readDimension_eq_ok_iff.mpr front, Or.inl ⟨back, rfl, by rw [front]⟩⟩
        · rw [dimensionChars_cons_of_ne_nil last, List.append_assoc, List.cons_append]
          obtain ⟨front, back⟩ :=
            digits_append all (',' :: (Specification.dimensionChars rest ++ ')' :: tail)) (by simp)
          refine ⟨d, readDimension_eq_ok_iff.mpr front, Or.inr ⟨_, rest, back, rfl, ?_⟩⟩
          exact ih.mpr ⟨last, rfl, by rw [front]; simp; omega⟩

theorem readDimensions_append {ds : List UInt32} (some_dimension : ds ≠ []) (position : Nat)
    (tail : List Char) :
    readDimensions position (Specification.dimensionChars ds ++ ')' :: tail) =
      .ok (ds, position + (Specification.dimensionChars ds).length + 1, tail) :=
  readDimensions_eq_ok_iff.mpr ⟨some_dimension, rfl, rfl⟩

theorem readFlags_eq_ok_iff {position : Nat} {seen flags : FlagSet} {letters : List Char} :
    readFlags position seen letters = .ok flags ↔
      (∀ c ∈ letters, c.isAlpha = true) ∧ letters.Nodup ∧ (∀ c ∈ letters, c ∉ seen) ∧
        ∀ c, c ∈ flags ↔ c ∈ seen ∨ c ∈ letters := by
  induction letters generalizing position seen with
  | nil =>
      constructor
      · intro read
        obtain rfl := Except.ok.inj read
        simp
      · rintro ⟨-, -, -, members⟩
        have same : seen = flags := FlagSet.eq_of_mem_iff fun c => by simp [members]
        rw [readFlags, same]
  | cons c rest ih =>
      rw [readFlags]
      by_cases letter : c.isAlpha = true
      · by_cases again : c ∈ seen
        · simp [letter, again]
        · have fresh : seen.contains c = false := by
            rw [← Bool.not_eq_true, FlagSet.contains_iff]
            exact again
          rw [if_neg (by simp [letter]), if_neg (by simp [fresh]), ih]
          constructor
          · rintro ⟨letters, distinct, unseen, members⟩
            have once : c ∉ rest := fun mem => unseen c mem (by simp)
            refine ⟨by simpa [letter] using letters, by simp [once, distinct], ?_, ?_⟩
            · intro x mem
              rcases List.mem_cons.mp mem with rfl | mem
              · exact again
              · exact fun old => unseen x mem (by simp [old])
            · intro x
              rw [members]
              simp only [FlagSet.mem_insert, List.mem_cons]
              tauto
          · rintro ⟨letters, distinct, unseen, members⟩
            obtain ⟨once, distinct⟩ := List.nodup_cons.mp distinct
            refine ⟨fun x mem => letters x (List.mem_cons_of_mem c mem), distinct, ?_, ?_⟩
            · intro x mem
              rw [FlagSet.mem_insert]
              rintro (rfl | old)
              · exact once mem
              · exact unseen x (List.mem_cons_of_mem c mem) old
            · intro x
              rw [members]
              simp only [FlagSet.mem_insert, List.mem_cons]
              tauto
      · simp [letter]

/-- Letters are read as a set exactly when they list it. -/
theorem readFlags_empty_eq_ok_iff {position : Nat} {flags : FlagSet} {letters : List Char} :
    readFlags position .empty letters = .ok flags ↔
      (∀ c ∈ flags, c.isAlpha = true) ∧ letters.Perm flags.toList := by
  rw [readFlags_eq_ok_iff, FlagSet.perm_toList_iff]
  constructor
  · rintro ⟨letters, distinct, -, members⟩
    have same : ∀ c, c ∈ flags ↔ c ∈ _ := fun c => by simpa using members c
    exact ⟨fun c mem => letters c ((same c).mp mem), distinct, same⟩
  · rintro ⟨letters, distinct, members⟩
    exact ⟨fun c mem => letters c ((members c).mpr mem), distinct, by simp, by simpa using members⟩

end Code

namespace Specification

/-- The characters of a code with the flags in a given order. -/
def charsWith (spec : Specification) (letters : List Char) : List Char :=
  spec.presetId.toList ++ '(' :: (dimensionChars spec.dimensions ++ ')' :: letters)

theorem canonicalChars_eq (spec : Specification) :
    spec.canonicalChars = spec.charsWith spec.flags.toList := rfl

/-- A code can carry the specification: its preset is a letter with digits, it has a
dimension, and its flags are letters. -/
structure Readable (spec : Specification) : Prop where
  preset : Code.IsPreset spec.presetId.toList
  some_dimension : spec.dimensions ≠ []
  letters : ∀ c ∈ spec.flags, c.isAlpha = true

end Specification

namespace Code

variable {cs letters : List Char} {spec : Specification}

theorem readUnblanked_eq_ok_iff :
    readUnblanked cs = .ok spec ↔
      spec.Readable ∧ ∃ letters, letters.Perm spec.flags.toList ∧ cs = spec.charsWith letters := by
  constructor
  · intro read
    rw [readUnblanked] at read
    split at read
    · cases read
    rename_i preset rest front
    split at read
    · rename_i inner
      split at read
      · cases read
      rename_i dimensions position tail middle
      split at read
      · cases read
      rename_i flags back
      obtain rfl := Except.ok.inj read
      obtain ⟨shape, -, rfl⟩ := readPreset_eq_ok_iff.mp front
      obtain ⟨some_dimension, rfl, -⟩ := readDimensions_eq_ok_iff.mp middle
      obtain ⟨letters, perm⟩ := readFlags_empty_eq_ok_iff.mp back
      refine ⟨⟨by simpa using shape, some_dimension, letters⟩, tail, perm, ?_⟩
      simp [Specification.charsWith]
    · cases read
  · rintro ⟨readable, letters, perm, rfl⟩
    have front : readPreset (spec.charsWith letters) = .ok (spec.presetId.toList, _) :=
      readPreset_eq_ok_iff.mpr ⟨readable.preset, by simp, rfl⟩
    have middle := readDimensions_append readable.some_dimension
      (spec.presetId.toList.length + 1) letters
    have back (position : Nat) : readFlags position .empty letters = .ok spec.flags :=
      readFlags_empty_eq_ok_iff.mpr ⟨readable.letters, perm⟩
    simp only [readUnblanked, front, middle, back, String.ofList_toList]

theorem toNat_of_isAlphanum {c : Char} (alphanum : c.isAlphanum = true) :
    48 ≤ c.toNat ∧ c.toNat ≤ 57 ∨ 65 ≤ c.toNat ∧ c.toNat ≤ 90 ∨ 97 ≤ c.toNat ∧ c.toNat ≤ 122 := by
  rw [Char.isAlphanum, Bool.or_eq_true] at alphanum
  rcases alphanum with letter | digit
  · rcases (Bool.or_eq_true _ _).mp letter with upper | lower
    · have bounds : 'A'.val ≤ c.val ∧ c.val ≤ 'Z'.val := of_decide_eq_true upper
      rw [UInt32.le_iff_toNat_le, UInt32.le_iff_toNat_le] at bounds
      exact Or.inr (Or.inl bounds)
    · obtain ⟨low, high⟩ := (Bool.and_eq_true _ _).mp lower
      have bounds : 'a'.val ≤ c.val ∧ c.val ≤ 'z'.val :=
        ⟨of_decide_eq_true low, of_decide_eq_true high⟩
      rw [UInt32.le_iff_toNat_le, UInt32.le_iff_toNat_le] at bounds
      exact Or.inr (Or.inr bounds)
  · exact Or.inl (Char.isDigit_iff_toNat.mp digit)

theorem isBlank_of_isAlphanum {c : Char} (alphanum : c.isAlphanum = true) :
    Text.isBlank c = false := by
  have place := toNat_of_isAlphanum alphanum
  simp only [Text.isBlank, Text.blankRanges, List.any_cons, List.any_nil, Bool.or_false,
    Bool.or_eq_false_iff, Bool.and_eq_false_imp, decide_eq_true_eq, decide_eq_false_iff_not,
    not_le]
  omega

theorem IsPreset.isAlphanum {cs : List Char} (shape : IsPreset cs) :
    ∀ c ∈ cs, c.isAlphanum = true := by
  intro c mem
  cases cs with
  | nil => cases mem
  | cons first ds =>
      obtain ⟨letter, -, all⟩ := shape
      rcases List.mem_cons.mp mem with rfl | mem
      · simp [Char.isAlphanum, letter]
      · simp [Char.isAlphanum, all c mem]

theorem isDigit_or_comma_of_mem_dimensionChars {ds : List UInt32} :
    ∀ c ∈ Specification.dimensionChars ds, c.isDigit = true ∨ c = ',' := by
  intro c mem
  induction ds with
  | nil => cases mem
  | cons d rest ih =>
      by_cases last : rest = []
      · subst last
        exact Or.inl ((isNumeral_toDigits d.toNat).digits c mem)
      · rw [dimensionChars_cons_of_ne_nil last, List.mem_append, List.mem_cons] at mem
        rcases mem with mem | rfl | mem
        · exact Or.inl ((isNumeral_toDigits d.toNat).digits c mem)
        · exact Or.inr rfl
        · exact ih mem

/-- The characters of a code are letters, digits and three marks. -/
theorem isBlank_of_mem_charsWith (readable : spec.Readable)
    (perm : letters.Perm spec.flags.toList) :
    ∀ c ∈ spec.charsWith letters, Text.isBlank c = false := by
  intro c mem
  simp only [Specification.charsWith, List.mem_append, List.mem_cons] at mem
  rcases mem with mem | rfl | mem | rfl | mem
  · exact isBlank_of_isAlphanum (readable.preset.isAlphanum c mem)
  · decide
  · rcases isDigit_or_comma_of_mem_dimensionChars c mem with digit | rfl
    · exact isBlank_of_isAlphanum (by simp [Char.isAlphanum, digit])
    · decide
  · decide
  · have letter := readable.letters c (perm.mem_iff.mp mem)
    exact isBlank_of_isAlphanum (by simp [Char.isAlphanum, letter])

/-- A text is read as a specification exactly when it is the code of that
specification with the flags in some order. -/
theorem read_eq_ok_iff :
    read cs = .ok spec ↔
      spec.Readable ∧ ∃ letters, letters.Perm spec.flags.toList ∧ cs = spec.charsWith letters := by
  rw [read]
  constructor
  · intro reads
    split at reads
    · cases reads
    split at reads
    · cases reads
    · exact readUnblanked_eq_ok_iff.mp reads
  · intro written
    obtain ⟨readable, letters, perm, rfl⟩ := written
    have unblanked : (spec.charsWith letters).findIdx? Text.isBlank = none :=
      List.findIdx?_eq_none_iff.mpr (isBlank_of_mem_charsWith readable perm)
    rw [if_neg (by simp [Specification.charsWith]), unblanked]
    exact readUnblanked_eq_ok_iff.mpr ⟨readable, letters, perm, rfl⟩

end Code

end Joinery
