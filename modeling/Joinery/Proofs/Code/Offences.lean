import Joinery.Proofs.Code.Reading
import Joinery.Proofs.Text.Numerals

/-!
# Where a text stops being a code

A text that is not a code is put down to one place in it. Main statement: what stands
before that place can still become a code, and what ends just behind it cannot, unless the
text broke off there; a numeral that is no dimension is put down to its first digit, and
then what ends with its last digit cannot become a code. Only a blank is looked for in
advance, wherever it stands.

The proof follows the reader. What may follow the part of a text that is already read is a
language of its own: the inside of the parentheses, then letters that have not come yet.
-/

namespace Joinery

namespace Code

/-- A text that is read as a specification. -/
def IsCode (text : List Char) : Prop := ∃ spec, read text = .ok spec

/-- The beginning of some code. -/
def Viable (front : List Char) : Prop := ∃ rest, IsCode (front ++ rest)

theorem Viable.of_append {front more : List Char} (viable : Viable (front ++ more)) :
    Viable front := by
  obtain ⟨rest, code⟩ := viable
  exact ⟨more ++ rest, by rwa [← List.append_assoc]⟩

end Code

namespace CodeFault

/-- A text may break off for these reasons; the others need something that is there. -/
def Cause.IsMissing : Cause → Prop
  | .empty | .invalidPresetId | .expectedOpenParen | .unclosedParenthesis => True
  | _ => False

/-- A numeral as a whole is the reason. -/
def Cause.IsNumeral : Cause → Prop
  | .leadingZero | .dimensionOverflow => True
  | _ => False

/-- The character that a cause names. -/
def Cause.found? : Cause → Option Char
  | .invalidDimension c => some c
  | .invalidFlag c => some c
  | .duplicateFlag c => some c
  | _ => none

theorem Cause.IsMissing.not_isNumeral {cause : Cause} (missing : cause.IsMissing) :
    ¬cause.IsNumeral := by
  cases cause <;> first | exact missing.elim | exact id

theorem Cause.IsMissing.found?_eq_none {cause : Cause} (missing : cause.IsMissing) :
    cause.found? = none := by
  cases cause <;> first | exact missing.elim | rfl

/-- A fault lies between two parts of a text: the first can still become a code, and the
second begins with what prevents that. -/
structure LiesBetween (fault : CodeFault) (front rest : List Char) : Prop where
  position : fault.position = front.length
  viable : Code.Viable front
  /-- Where the text breaks off, something is missing. -/
  missing : rest = [] → fault.cause.IsMissing
  offending : ∀ c more, rest = c :: more → ¬fault.cause.IsNumeral → ¬Code.Viable (front ++ [c])
  /-- A dimension begins here, and its digits are more than a code can have. -/
  numeral : fault.cause.IsNumeral →
    (∃ before mark, front = before ++ [mark] ∧ (mark = '(' ∨ mark = ',')) ∧
      Code.digits rest ≠ [] ∧ ¬Code.Viable (front ++ Code.digits rest)
  found : ∀ c, fault.cause.found? = some c → rest.head? = some c

/-- A fault lies somewhere in a text that follows another. -/
def LiesIn (fault : CodeFault) (front cs : List Char) : Prop :=
  ∃ more rest, cs = more ++ rest ∧ fault.LiesBetween (front ++ more) rest

variable {fault : CodeFault} {front rest cs : List Char}

theorem LiesBetween.liesIn (lies : fault.LiesBetween front rest) : fault.LiesIn front rest :=
  ⟨[], rest, rfl, by rwa [List.append_nil]⟩

theorem LiesIn.append {piece : List Char} (lies : fault.LiesIn (front ++ piece) cs) :
    fault.LiesIn front (piece ++ cs) := by
  obtain ⟨more, rest, rfl, lies⟩ := lies
  exact ⟨piece ++ more, rest, (List.append_assoc ..).symm, by rwa [← List.append_assoc]⟩

end CodeFault

namespace Code

open CodeFault

variable {front cs text : List Char} {position : Nat} {fault : CodeFault}

/-- A character that no code goes on with is an offence. -/
theorem liesBetween_of_offence {c : Char} {more : List Char} (viable : Viable front)
    (ends : ¬Viable (front ++ [c])) {cause : Cause} (single : ¬cause.IsNumeral)
    (named : ∀ d, cause.found? = some d → d = c) :
    LiesBetween ⟨front.length, cause⟩ front (c :: more) where
  position := rfl
  viable := viable
  missing := nofun
  offending := by
    rintro d rest same -
    obtain ⟨rfl, -⟩ := List.cons.inj same
    exact ends
  numeral := fun numeral => absurd numeral single
  found := by
    intro d found
    rw [named d found]
    rfl

/-- Where a text breaks off that some code goes on with, something is missing. -/
theorem liesBetween_of_missing (viable : Viable front) {cause : Cause} (missing : cause.IsMissing) :
    LiesBetween ⟨front.length, cause⟩ front [] where
  position := rfl
  viable := viable
  missing := fun _ => missing
  offending := nofun
  numeral := fun numeral => absurd numeral missing.not_isNumeral
  found := by
    intro d found
    rw [missing.found?_eq_none] at found
    cases found

/-- A text makes a code together with what was read before just if it is of a language. -/
def Continues (front : List Char) (accepts : List Char → Prop) : Prop :=
  ∀ text, IsCode (front ++ text) ↔ accepts text

variable {accepts others : List Char → Prop}

theorem Continues.append {piece : List Char} (continues : Continues front accepts)
    (residual : ∀ text, accepts (piece ++ text) ↔ others text) :
    Continues (front ++ piece) others := by
  intro text
  rw [List.append_assoc, continues, residual]

theorem Continues.viable (continues : Continues front accepts) (accepted : accepts text) :
    Viable front :=
  ⟨text, (continues text).mpr accepted⟩

theorem Continues.not_viable {piece : List Char} (continues : Continues front accepts)
    (refused : ∀ text, ¬accepts (piece ++ text)) : ¬Viable (front ++ piece) := by
  rintro ⟨rest, code⟩
  rw [List.append_assoc, continues] at code
  exact refused rest code

/-- A character that nothing accepted begins with is an offence. -/
theorem Continues.liesBetween_of_refused {c : Char} {more : List Char}
    (continues : Continues front accepts) (accepted : accepts text)
    (refused : ∀ text, ¬accepts (c :: text)) {cause : Cause} (single : ¬cause.IsNumeral)
    (named : ∀ d, cause.found? = some d → d = c) :
    LiesBetween ⟨front.length, cause⟩ front (c :: more) :=
  liesBetween_of_offence (continues.viable accepted) (continues.not_viable refused) single named

/-- Letters that can follow when some have come. -/
def IsLetters (seen : FlagSet) (text : List Char) : Prop :=
  (∀ c ∈ text, c.isAlpha = true) ∧ text.Nodup ∧ ∀ c ∈ text, c ∉ seen

theorem isLetters_nil (seen : FlagSet) : IsLetters seen [] := by
  simp [IsLetters]

theorem isLetters_cons_iff {seen : FlagSet} {c : Char} :
    IsLetters seen (c :: text) ↔ c.isAlpha = true ∧ c ∉ seen ∧ IsLetters (seen.insert c) text := by
  simp only [IsLetters, List.forall_mem_cons, List.nodup_cons, FlagSet.mem_insert, not_or]
  constructor
  · rintro ⟨⟨letter, letters⟩, ⟨once, distinct⟩, fresh, unseen⟩
    exact ⟨letter, fresh, letters, distinct,
      fun x mem => ⟨fun same => once (same ▸ mem), unseen x mem⟩⟩
  · rintro ⟨letter, fresh, letters, distinct, unseen⟩
    exact ⟨⟨letter, letters⟩, ⟨fun mem => (unseen c mem).1 rfl, distinct⟩, fresh,
      fun x mem => (unseen x mem).2⟩

/-- A fault among the letters lies at the first that cannot follow. -/
theorem liesIn_of_readFlags {seen : FlagSet} (continues : Continues front (IsLetters seen))
    (failed : readFlags front.length seen cs = .error fault) : fault.LiesIn front cs := by
  induction cs generalizing front seen with
  | nil => cases failed
  | cons c rest ih =>
      rw [readFlags] at failed
      split at failed
      · rename_i other
        obtain rfl := Except.error.inj failed
        have refused (text : List Char) : ¬IsLetters seen (c :: text) := by
          intro letters
          simp [(isLetters_cons_iff.mp letters).1] at other
        have lies : LiesBetween ⟨front.length, .invalidFlag c⟩ front (c :: rest) :=
          continues.liesBetween_of_refused (isLetters_nil seen) refused id
            fun d found => (Option.some.inj found).symm
        exact lies.liesIn
      split at failed
      · rename_i again
        obtain rfl := Except.error.inj failed
        have refused (text : List Char) : ¬IsLetters seen (c :: text) := by
          intro letters
          exact (isLetters_cons_iff.mp letters).2.1 ((FlagSet.contains_iff _ _).mp again)
        have lies : LiesBetween ⟨front.length, .duplicateFlag c⟩ front (c :: rest) :=
          continues.liesBetween_of_refused (isLetters_nil seen) refused id
            fun d found => (Option.some.inj found).symm
        exact lies.liesIn
      · rename_i letter fresh
        have letter : c.isAlpha = true := by simpa using letter
        have fresh : c ∉ seen := fun mem => fresh ((FlagSet.contains_iff _ _).mpr mem)
        have follows : Continues (front ++ [c]) (IsLetters (seen.insert c)) := by
          refine continues.append fun text => ?_
          rw [List.singleton_append, isLetters_cons_iff]
          exact ⟨fun letters => letters.2.2, fun letters => ⟨letter, fresh, letters⟩⟩
        have lies := ih follows (by simpa using failed)
        exact lies.append

/-- What can follow an opening parenthesis or a comma. -/
def IsInside (text : List Char) : Prop :=
  ∃ ds tail, ds ≠ [] ∧ text = Specification.dimensionChars ds ++ ')' :: tail ∧
    IsLetters .empty tail

theorem isInside_iff (position : Nat) :
    IsInside text ↔ ∃ ds next tail, readDimensions position text = .ok (ds, next, tail) ∧
      IsLetters .empty tail := by
  simp only [readDimensions_eq_ok_iff]
  constructor
  · rintro ⟨ds, tail, some_dimension, written, letters⟩
    exact ⟨ds, _, tail, ⟨some_dimension, written, rfl⟩, letters⟩
  · rintro ⟨ds, next, tail, ⟨some_dimension, written, -⟩, letters⟩
    exact ⟨ds, tail, some_dimension, written, letters⟩

/-- The inside starts with a dimension, and a comma or the closing parenthesis follows. -/
theorem isInside_step :
    IsInside text ↔ ∃ d : UInt32, digits text = Nat.toDigits 10 d.toNat ∧
      ((∃ tail, afterDigits text = ')' :: tail ∧ IsLetters .empty tail) ∨
        ∃ more, afterDigits text = ',' :: more ∧ IsInside more) := by
  constructor
  · intro inside
    obtain ⟨ds, next, tail, read, letters⟩ := (isInside_iff 0).mp inside
    obtain ⟨d, first, ⟨closed, -, -⟩ | ⟨more, rest, comma, -, later⟩⟩ := readDimensions_step.mp read
    · exact ⟨d, readDimension_eq_ok_iff.mp first, Or.inl ⟨tail, closed, letters⟩⟩
    · have inside := (isInside_iff _).mpr ⟨rest, next, tail, later, letters⟩
      exact ⟨d, readDimension_eq_ok_iff.mp first, Or.inr ⟨more, comma, inside⟩⟩
  · rintro ⟨d, first, ⟨tail, closed, letters⟩ | ⟨more, comma, inside⟩⟩
    · have read : readDimension 0 text = .ok d := readDimension_eq_ok_iff.mpr first
      exact (isInside_iff 0).mpr ⟨[d], _, tail,
        readDimensions_step.mpr ⟨d, read, Or.inl ⟨closed, rfl, rfl⟩⟩, letters⟩
    · have read : readDimension 0 text = .ok d := readDimension_eq_ok_iff.mpr first
      obtain ⟨rest, next, tail, later, letters⟩ :=
        (isInside_iff (0 + (digits text).length + 1)).mp inside
      exact (isInside_iff 0).mpr ⟨d :: rest, next, tail,
        readDimensions_step.mpr ⟨d, read, Or.inr ⟨more, rest, comma, rfl, later⟩⟩, letters⟩

/-- A numeral that stands for a dimension can be closed, or followed by more dimensions. -/
theorem isInside_append_iff {c : Char} {d : UInt32} (stop : c.isDigit = false) :
    IsInside (Nat.toDigits 10 d.toNat ++ c :: text) ↔
      c = ')' ∧ IsLetters .empty text ∨ c = ',' ∧ IsInside text := by
  obtain ⟨front, back⟩ := digits_append (isNumeral_toDigits d.toNat).digits (c :: text) (by simpa)
  rw [isInside_step, front, back]
  constructor
  · rintro ⟨-, -, ⟨tail, closed, letters⟩ | ⟨more, comma, inside⟩⟩
    · obtain ⟨rfl, rfl⟩ := List.cons.inj closed
      exact Or.inl ⟨rfl, letters⟩
    · obtain ⟨rfl, rfl⟩ := List.cons.inj comma
      exact Or.inr ⟨rfl, inside⟩
  · rintro (⟨rfl, letters⟩ | ⟨rfl, inside⟩)
    · exact ⟨d, rfl, Or.inl ⟨text, rfl, letters⟩⟩
    · exact ⟨d, rfl, Or.inr ⟨text, rfl, inside⟩⟩

/-- Behind the closing parenthesis there are only letters. -/
theorem isInside_dimensionChars_iff {ds : List UInt32} (some_dimension : ds ≠ []) :
    IsInside (Specification.dimensionChars ds ++ ')' :: text) ↔ IsLetters .empty text := by
  rw [isInside_iff 0]
  simp [readDimensions_append some_dimension]

/-- The shortest inside. -/
theorem isInside_zero : IsInside ['0', ')'] :=
  ⟨[0], [], by simp, rfl, isLetters_nil _⟩

/-- Without a digit in front nothing can be inside. -/
theorem digits_ne_nil_of_isInside (inside : IsInside text) : digits text ≠ [] := by
  obtain ⟨d, first, -⟩ := isInside_step.mp inside
  rw [first]
  exact Nat.toDigits_ne_nil

/-- Digits that go on are those of a dimension if the inside begins with them. -/
theorem exists_dimension_of_isInside {ds : List Char} (all : ∀ c ∈ ds, c.isDigit = true)
    (inside : IsInside (ds ++ text)) :
    IsNumeral (ds ++ digits text) ∧ numeralValue (ds ++ digits text) < UInt32.size := by
  obtain ⟨d, first, -⟩ := isInside_step.mp inside
  have longer : digits (ds ++ text) = ds ++ digits text := List.takeWhile_append_of_pos all
  obtain ⟨numeral, value⟩ := isNumeral_iff.mpr (longer.symm.trans first)
  exact ⟨numeral, value ▸ d.toNat_lt⟩

/-- A fault in a numeral lies at its first digit. -/
theorem liesBetween_of_numeral (continues : Continues front IsInside)
    (starts : ∃ before mark, front = before ++ [mark] ∧ (mark = '(' ∨ mark = ','))
    (some_digit : digits cs ≠ []) (refused : ∀ text, ¬IsInside (digits cs ++ text)) {cause : Cause}
    (numeral : cause.IsNumeral) : LiesBetween ⟨front.length, cause⟩ front cs where
  position := rfl
  viable := continues.viable isInside_zero
  missing := by
    rintro rfl
    exact absurd rfl some_digit
  offending := fun _ _ _ single => absurd numeral single
  numeral := fun _ => ⟨starts, some_digit, continues.not_viable refused⟩
  found := by
    intro c found
    cases cause <;> first | exact numeral.elim | cases found

/-- A dimension that cannot be read is at fault where it begins. -/
theorem liesBetween_of_readDimension (continues : Continues front IsInside)
    (starts : ∃ before mark, front = before ++ [mark] ∧ (mark = '(' ∨ mark = ','))
    (failed : readDimension front.length cs = .error fault) : fault.LiesBetween front cs := by
  rw [readDimension] at failed
  split at failed
  · rename_i none
    obtain rfl := Except.error.inj failed
    cases cs with
    | nil => exact liesBetween_of_missing (continues.viable isInside_zero) trivial
    | cons c more =>
        have other : c.isDigit = false := by
          by_contra digit
          simp [digits, digit] at none
        have refused (text : List Char) : ¬IsInside (c :: text) := by
          intro inside
          exact digits_ne_nil_of_isInside inside (by simp [digits, other])
        rw [missingDimension]
        split
        · exact continues.liesBetween_of_refused isInside_zero refused id
            fun d found => by cases found
        · exact continues.liesBetween_of_refused isInside_zero refused id
            fun d found => (Option.some.inj found).symm
  rename_i some_digit
  split at failed
  · rename_i leading
    obtain rfl := Except.error.inj failed
    refine liesBetween_of_numeral continues starts some_digit (fun text inside => ?_) trivial
    obtain ⟨numeral, -⟩ := exists_dimension_of_isInside isDigit_of_mem_digits inside
    have zero : (digits cs ++ digits text).head? = some '0' := by
      rw [List.head?_append, leading.1]
      rfl
    have length := congrArg List.length (numeral.leading zero)
    rw [List.length_append, List.length_singleton] at length
    omega
  split at failed
  · cases failed
  · rename_i large
    obtain rfl := Except.error.inj failed
    refine liesBetween_of_numeral continues starts some_digit (fun text inside => ?_) trivial
    obtain ⟨-, small⟩ := exists_dimension_of_isInside isDigit_of_mem_digits inside
    rw [numeralValue, Nat.ofDigitChars_append] at small
    exact large ((Text.le_ofDigitChars _ _).trans_lt small)

/-- How the dimensions fail: the first one does, or what follows it, or the others do. -/
theorem readDimensions_eq_error
    (failed : readDimensions position cs = .error fault) :
    readDimension position cs = .error fault ∨
      ∃ d : UInt32, digits cs = Nat.toDigits 10 d.toNat ∧
        (afterDigits cs = [] ∧ fault = ⟨position + (digits cs).length, .unclosedParenthesis⟩ ∨
          ∃ c more, afterDigits cs = c :: more ∧
            (c = ',' ∧ readDimensions (position + (digits cs).length + 1) more = .error fault ∨
              c ≠ ',' ∧ c ≠ ')' ∧
                fault = ⟨position + (digits cs).length, .invalidDimension c⟩)) := by
  rw [readDimensions] at failed
  cases first : readDimension position cs with
  | error earlier =>
      rw [first] at failed
      exact Or.inl (congrArg _ (Except.error.inj failed))
  | ok d =>
      simp only [first] at failed
      refine Or.inr ⟨d, readDimension_eq_ok_iff.mp first, ?_⟩
      split at failed
      · rename_i ended
        exact Or.inl ⟨ended, (Except.error.inj failed).symm⟩
      rename_i c more found
      refine Or.inr ⟨c, more, found, ?_⟩
      split at failed
      · rename_i comma
        refine Or.inl ⟨comma, ?_⟩
        split at failed
        · rename_i later
          exact later.trans (congrArg _ (Except.error.inj failed))
        · cases failed
      split at failed
      · cases failed
      · rename_i no_comma open_still
        exact Or.inr ⟨no_comma, open_still, (Except.error.inj failed).symm⟩

/-- A fault inside the parentheses, at a dimension or just behind one. -/
theorem liesIn_of_readDimensions (continues : Continues front IsInside)
    (starts : ∃ before mark, front = before ++ [mark] ∧ (mark = '(' ∨ mark = ','))
    (failed : readDimensions front.length cs = .error fault) : fault.LiesIn front cs := by
  induction size : cs.length using Nat.strongRecOn generalizing front cs with
  | ind n ih =>
      rcases readDimensions_eq_error failed with
        first | ⟨d, numeral, ⟨ended, rfl⟩ | ⟨c, more, next, later⟩⟩
      · exact (liesBetween_of_readDimension continues starts first).liesIn
      · have whole : cs = digits cs ++ [] := by
          rw [← ended, digits_append_afterDigits]
        have viable : Viable (front ++ digits cs) := by
          refine ⟨[')'], ?_⟩
          rw [List.append_assoc, continues, numeral, isInside_append_iff rfl]
          exact Or.inl ⟨rfl, isLetters_nil _⟩
        refine ⟨digits cs, [], whole, ?_⟩
        rw [← List.length_append]
        exact liesBetween_of_missing viable trivial
      have whole : cs = digits cs ++ c :: more := by
        rw [← next, digits_append_afterDigits]
      have stop : c.isDigit = false := Text.stopsDigits_dropWhile cs c (congrArg List.head? next)
      rcases later with ⟨rfl, later⟩ | ⟨no_comma, open_still, rfl⟩
      · have follows : Continues (front ++ (digits cs ++ [','])) IsInside := by
          refine continues.append fun text => ?_
          rw [numeral, List.append_assoc, List.singleton_append, isInside_append_iff rfl]
          simp
        have shorter : more.length < n := by
          rw [← size, whole, List.length_append, List.length_cons]
          omega
        have offset : (front ++ (digits cs ++ [','])).length =
            front.length + (digits cs).length + 1 := by
          simp only [List.length_append, List.length_singleton]
          omega
        have lies := ih more.length shorter follows ⟨front ++ digits cs, ',', by simp, Or.inr rfl⟩
          (by rwa [offset]) rfl
        have lies := lies.append
        rwa [List.append_assoc, List.singleton_append, ← whole] at lies
      · have follows : Continues (front ++ digits cs) fun text => IsInside (digits cs ++ text) :=
          continues.append fun text => Iff.rfl
        have accepted : IsInside (digits cs ++ [')']) := by
          rw [numeral, isInside_append_iff rfl]
          exact Or.inl ⟨rfl, isLetters_nil _⟩
        have refused (text : List Char) : ¬IsInside (digits cs ++ c :: text) := by
          rw [numeral, isInside_append_iff stop]
          simp [no_comma, open_still]
        refine ⟨digits cs, c :: more, whole, ?_⟩
        rw [← List.length_append]
        exact follows.liesBetween_of_refused accepted refused id
          fun d found => (Option.some.inj found).symm

theorem isCode_iff :
    IsCode text ↔
      ∃ preset inner, IsPreset preset ∧ text = preset ++ '(' :: inner ∧ IsInside inner := by
  simp only [IsCode, read_eq_ok_iff]
  constructor
  · rintro ⟨spec, readable, letters, perm, rfl⟩
    obtain ⟨distinct, members⟩ := FlagSet.perm_toList_iff.mp perm
    have listed : IsLetters .empty letters :=
      ⟨fun c mem => readable.letters c ((members c).mpr mem), distinct, by simp⟩
    exact ⟨spec.presetId.toList, _, readable.preset, rfl, spec.dimensions, letters,
      readable.some_dimension, rfl, listed⟩
  · rintro ⟨preset, inner, shape, rfl, ds, tail, some_dimension, rfl, letters, distinct, -⟩
    have members (c : Char) : c ∈ FlagSet.ofList tail ↔ c ∈ tail := FlagSet.mem_ofList tail c
    refine ⟨⟨String.ofList preset, ds, .ofList tail⟩, ⟨?_, some_dimension, ?_⟩, tail, ?_, ?_⟩
    · rwa [String.toList_ofList]
    · exact fun c mem => letters c ((members c).mp mem)
    · exact FlagSet.perm_toList_iff.mpr ⟨distinct, members⟩
    · rw [Specification.charsWith, String.toList_ofList]

/-- A preset can only be followed by a parenthesis, or by more digits. -/
theorem isCode_append_iff {preset : List Char} (shape : IsPreset preset) {c : Char}
    (stop : c.isDigit = false) : IsCode (preset ++ c :: text) ↔ c = '(' ∧ IsInside text := by
  rw [isCode_iff]
  constructor
  · rintro ⟨other, inner, shape', same, inside⟩
    cases preset with
    | nil => exact shape.elim
    | cons first ds =>
        cases other with
        | nil => exact shape'.elim
        | cons first' ds' =>
            have same : ds ++ c :: text = ds' ++ '(' :: inner := (List.cons.inj same).2
            have back := (digits_append shape.2.2 (c :: text) (by simpa)).2
            have back' := (digits_append shape'.2.2 ('(' :: inner) (by simp)).2
            rw [same, back'] at back
            obtain ⟨rfl, rfl⟩ := List.cons.inj back
            exact ⟨rfl, inside⟩
  · rintro ⟨rfl, inside⟩
    exact ⟨preset, text, shape, rfl, inside⟩

theorem IsPreset.viable {preset : List Char} (shape : IsPreset preset) : Viable preset :=
  ⟨['(', '0', ')'], (isCode_append_iff shape rfl).mpr ⟨rfl, isInside_zero⟩⟩

theorem viable_letter {c : Char} (letter : c.isAlpha = true) : Viable [c] := by
  have shape : IsPreset ([c] ++ ['0']) := ⟨letter, by simp, by simp⟩
  exact shape.viable.of_append

theorem viable_nil : Viable [] := (viable_letter (c := 'A') rfl).of_append

/-- A code begins with a letter, and a digit follows. -/
theorem isAlpha_of_isCode {c : Char} (code : IsCode (c :: text)) :
    c.isAlpha = true ∧ ∀ d ∈ text.head?, d.isDigit = true := by
  obtain ⟨preset, inner, shape, same, -⟩ := isCode_iff.mp code
  cases preset with
  | nil => exact shape.elim
  | cons first ds =>
      obtain ⟨rfl, rfl⟩ := List.cons.inj same
      obtain ⟨letter, some_digit, all⟩ := shape
      refine ⟨letter, fun d head => all d (List.mem_of_mem_head? ?_)⟩
      rwa [← List.head?_append_of_ne_nil ds some_digit]

/-- Neither a digit nor a parenthesis stands behind the preset. -/
theorem IsPreset.liesBetween {preset rest : List Char} (shape : IsPreset preset)
    (stop : Text.StopsDigits rest) (closed : ∀ c ∈ rest.head?, c ≠ '(') {cause : Cause}
    (missing : cause.IsMissing) : LiesBetween ⟨preset.length, cause⟩ preset rest := by
  cases rest with
  | nil => exact liesBetween_of_missing shape.viable missing
  | cons c more =>
      have ends : ¬Viable (preset ++ [c]) := by
        rintro ⟨text, code⟩
        rw [List.append_assoc, List.singleton_append, isCode_append_iff shape (stop c rfl)] at code
        exact closed c rfl code.1
      refine liesBetween_of_offence shape.viable ends missing.not_isNumeral fun d found => ?_
      rw [missing.found?_eq_none] at found
      cases found

/-- A fault in the preset lies where the letter or the first digit should be, or at a letter
behind the digits. -/
theorem liesIn_of_readPreset (failed : readPreset cs = .error fault) : fault.LiesIn [] cs := by
  cases cs with
  | nil =>
      obtain rfl := Except.error.inj failed
      have lies : LiesBetween ⟨0, .invalidPresetId⟩ [] [] :=
        liesBetween_of_missing viable_nil trivial
      exact lies.liesIn
  | cons c more =>
      rw [readPreset] at failed
      split at failed
      · rename_i other
        obtain rfl := Except.error.inj failed
        have ends : ¬Viable ([] ++ [c]) := by
          rintro ⟨rest, code⟩
          simp [(isAlpha_of_isCode code).1] at other
        have lies : LiesBetween ⟨0, .invalidPresetId⟩ [] (c :: more) :=
          liesBetween_of_offence viable_nil ends id fun d found => by cases found
        exact lies.liesIn
      rename_i letter
      have letter : c.isAlpha = true := by simpa using letter
      split at failed
      · rename_i none
        obtain rfl := Except.error.inj failed
        have lies : LiesBetween ⟨1, .invalidPresetId⟩ [c] more := by
          cases more with
          | nil => exact liesBetween_of_missing (viable_letter letter) trivial
          | cons d rest =>
              refine liesBetween_of_offence (viable_letter letter) ?_ id
                fun d found => by cases found
              rintro ⟨text, code⟩
              have digit := (isAlpha_of_isCode code).2 d rfl
              simp [digits, digit] at none
        exact ⟨[c], more, rfl, lies⟩
      rename_i some_digit
      split at failed
      · rename_i again
        obtain rfl := Except.error.inj failed
        have shape : IsPreset (c :: digits more) := ⟨letter, some_digit, isDigit_of_mem_digits⟩
        have closed : ∀ d ∈ (afterDigits more).head?, d ≠ '(' := by
          rintro d head rfl
          rw [Option.mem_def.mp head] at again
          cases again
        have lies : LiesBetween ⟨(digits more).length + 1, .invalidPresetId⟩ (c :: digits more)
            (afterDigits more) :=
          shape.liesBetween (Text.stopsDigits_dropWhile more) closed trivial
        refine ⟨c :: digits more, afterDigits more, ?_, ?_⟩
        · rw [List.cons_append, digits_append_afterDigits]
        · rwa [Nat.add_comm]
      · cases failed

theorem liesIn_of_readUnblanked (failed : readUnblanked cs = .error fault) :
    fault.LiesIn [] cs := by
  rw [readUnblanked] at failed
  split at failed
  · rename_i earlier front
    obtain rfl := Except.error.inj failed
    exact liesIn_of_readPreset front
  rename_i preset rest front
  obtain ⟨shape, other, rfl⟩ := readPreset_eq_ok_iff.mp front
  split at failed
  · rename_i inner
    have inside : Continues (preset ++ ['(']) IsInside := by
      intro text
      rw [List.append_assoc, List.singleton_append, isCode_append_iff shape rfl]
      simp
    have offset : (preset ++ ['(']).length = preset.length + 1 := List.length_append
    have starts : ∃ before mark, preset ++ ['('] = before ++ [mark] ∧ (mark = '(' ∨ mark = ',') :=
      ⟨preset, '(', rfl, Or.inl rfl⟩
    have lies : fault.LiesIn (preset ++ ['(']) inner := by
      split at failed
      · rename_i earlier middle
        obtain rfl := Except.error.inj failed
        exact liesIn_of_readDimensions inside starts (by rwa [offset])
      rename_i dimensions position tail middle
      obtain ⟨some_dimension, rfl, rfl⟩ := readDimensions_eq_ok_iff.mp middle
      split at failed
      · rename_i earlier back
        obtain rfl := Except.error.inj failed
        have letters :
            Continues (preset ++ ['('] ++ (Specification.dimensionChars dimensions ++ [')']))
              (IsLetters .empty) := by
          refine inside.append fun text => ?_
          rw [List.append_assoc, List.singleton_append, isInside_dimensionChars_iff some_dimension]
        have length :
            (preset ++ ['('] ++ (Specification.dimensionChars dimensions ++ [')'])).length =
              preset.length + 1 + (Specification.dimensionChars dimensions).length + 1 := by
          simp only [List.length_append, List.length_singleton]
          omega
        have lies := (liesIn_of_readFlags letters (by rwa [length])).append
        rwa [List.append_assoc, List.singleton_append] at lies
      · cases failed
    have lies : fault.LiesIn [] ((preset ++ ['(']) ++ inner) := LiesIn.append lies
    rwa [List.append_assoc, List.singleton_append] at lies
  · rename_i open_missing
    obtain rfl := Except.error.inj failed
    have stop : Text.StopsDigits rest := by
      intro c head
      have other := other c head
      rw [Char.isAlphanum, Bool.or_eq_false_iff] at other
      exact other.2
    have closed : ∀ c ∈ rest.head?, c ≠ '(' := by
      rintro c head rfl
      cases rest with
      | nil => cases head
      | cons d more =>
          obtain rfl := Option.some.inj head
          exact open_missing more rfl
    have lies : LiesBetween ⟨preset.length, .expectedOpenParen⟩ preset rest :=
      shape.liesBetween stop closed trivial
    exact ⟨preset, rest, rfl, lies⟩

/-- Where a text stops being a code. The first blank is the fault, if there is one. If
not, the text in front of the fault can still become a code, and what the fault stands at
prevents that, or the text ends there. -/
theorem offence_of_parse_eq_error {code : String} {fault : CodeFault}
    (failed : parse code = .error fault) :
    (∀ front c rest, code.toList = front ++ c :: rest →
        (∀ d ∈ front, Text.isBlank d = false) → Text.isBlank c = true →
          fault = ⟨front.length, .whitespace⟩) ∧
      ((∀ c ∈ code.toList, Text.isBlank c = false) →
        ∃ front rest, code.toList = front ++ rest ∧ fault.LiesBetween front rest) := by
  rw [parse, read] at failed
  constructor
  · intro front c rest whole none blank
    have first : code.toList.findIdx? Text.isBlank = some front.length := by
      rw [whole, List.findIdx?_append, List.findIdx?_eq_none_iff.mpr none, List.findIdx?_cons]
      simp [blank]
    rw [if_neg (by simp [whole]), first] at failed
    exact (Except.error.inj failed).symm
  · intro none
    split at failed
    · rename_i empty
      obtain rfl := Except.error.inj failed
      exact ⟨[], [], empty, liesBetween_of_missing viable_nil trivial⟩
    · rw [List.findIdx?_eq_none_iff.mpr none] at failed
      obtain ⟨front, rest, whole, lies⟩ := liesIn_of_readUnblanked failed
      exact ⟨front, rest, whole, lies⟩

theorem offence_of_leading_zero :
    parse "M1(1000,04,1000)b" = .error ⟨8, .leadingZero⟩ ∧
      ∃ front rest, "M1(1000,04,1000)b".toList = front ++ rest ∧
        LiesBetween ⟨8, .leadingZero⟩ front rest := by
  have failed : parse "M1(1000,04,1000)b" = .error ⟨8, .leadingZero⟩ := by decide +kernel
  have unblanked : ("M1(1000,04,1000)b".toList.all fun c => !Text.isBlank c) = true := by
    decide +kernel
  refine ⟨failed, (offence_of_parse_eq_error failed).2 fun c mem => ?_⟩
  simpa using List.all_eq_true.mp unblanked c mem

end Code

end Joinery
