import Joinery.Proofs.Text.Numerals
import Joinery.Proofs.Toml.Quotes
import Joinery.Toml.Printer
import Joinery.Toml.Reader

/-!
# Values of a document are read back

What is written for a whole number, a truth value, a text or an empty list is read back up
to the end of its line, and a number is not taken for a date.

Main statement: `Joinery.Toml.readValue_append`.
-/

namespace Joinery.Toml

open Text

/-- Digits up to the end of a line. -/
def IsDigitLine (cs : List Char) : Prop :=
  ∃ ds rest, cs = ds ++ '\n' :: rest ∧ ∀ c ∈ ds, c.isDigit = true

theorem IsDigitLine.readPair {cs left : List Char} {least greatest n : Nat} (line : IsDigitLine cs)
    (read : readPair least greatest cs = some (n, left)) : IsDigitLine left := by
  obtain ⟨ds, rest, rfl, all⟩ := line
  obtain ⟨⟨m, after⟩, two, kept⟩ := Option.bind_eq_some_iff.mp read
  obtain ⟨-, same⟩ := Option.ite_none_right_eq_some.mp kept
  obtain ⟨rfl, rfl⟩ := Prod.mk.inj (Option.some.inj same)
  match ds with
  | [] => cases rest <;> simp [Timestamp.readTwoDigits] at two
  | [a] => simp [Timestamp.readTwoDigits] at two
  | a :: b :: more =>
      simp only [List.cons_append, Timestamp.readTwoDigits, Option.ite_none_right_eq_some,
        Option.some.injEq, Prod.mk.injEq] at two
      exact ⟨more, rest, two.2.2.symm, fun c mem => all c (by simp [mem])⟩

theorem IsDigitLine.passMark {cs : List Char} {mark : Char} (line : IsDigitLine cs)
    (digit : mark.isDigit = false) (inside : mark ≠ '\n') : passMark mark cs = none := by
  obtain ⟨ds, rest, rfl, all⟩ := line
  cases ds with
  | nil => exact if_neg (Ne.symm inside)
  | cons c more =>
      refine if_neg ?_
      rintro rfl
      exact absurd (all c List.mem_cons_self) (by simp [digit])

theorem IsDigitLine.passDay {cs : List Char} (line : IsDigitLine cs) : passDay cs = none := by
  cases first : Toml.readPair 0 99 cs with
  | none => simp [Toml.passDay, first]
  | some century =>
      have line := line.readPair first
      cases second : Toml.readPair 0 99 century.2 with
      | none => simp [Toml.passDay, first, second]
      | some year =>
          have dash : Toml.passMark '-' year.2 = none :=
            (line.readPair second).passMark (by decide) (by decide)
          simp [Toml.passDay, first, second, dash]

theorem IsDigitLine.passTime {cs : List Char} (line : IsDigitLine cs) : passTime cs = none := by
  cases first : Toml.readPair 0 23 cs with
  | none => simp [Toml.passTime, passPair, first]
  | some hour =>
      have colon : Toml.passMark ':' hour.2 = none :=
        (line.readPair first).passMark (by decide) (by decide)
      simp [Toml.passTime, passPair, first, colon]

/-- A word that starts with anything but a digit is not a date. -/
theorem passDate_cons {c : Char} (other : c.isDigit = false) (rest : List Char) :
    passDate (c :: rest) = none := by
  have pair (least greatest : Nat) : readPair least greatest (c :: rest) = none := by
    cases rest <;> simp [readPair, Timestamp.readTwoDigits, other]
  simp [passDate, passDay, passTime, passPair, pair]

theorem passDate_toString_append (n : Int) (rest : List Char) :
    passDate ((toString n).toList ++ '\n' :: rest) = none := by
  rw [toList_toString_int, signChars]
  split_ifs
  · exact passDate_cons (by decide) _
  · have line : IsDigitLine (Nat.toDigits 10 n.natAbs ++ '\n' :: rest) :=
      ⟨_, rest, rfl, isDigit_of_mem_toDigits⟩
    rw [List.nil_append, passDate, line.passDay]
    exact line.passTime

theorem readDigits_of_isDigit {ds : List Char} (some_digit : ds ≠ [])
    (all : ∀ c ∈ ds, c.isDigit = true) : readDigits Char.isDigit ds = some ds := by
  induction ds with
  | nil => exact absurd rfl some_digit
  | cons c more ih =>
      have digit := all c List.mem_cons_self
      cases more with
      | nil => simp [readDigits, digit]
      | cons d others =>
          have next := all d (by simp)
          have read := ih (List.cons_ne_nil d others) fun e mem =>
            all e (List.mem_cons_of_mem c mem)
          rw [readDigits, if_pos digit, read]
          · rfl
          · exact List.cons_ne_nil d others
          · rintro _ same
            exact ne_of_isDigit next (by decide) (List.cons.inj same).1

theorem splitAt_of_notMem {mark : Char → Bool} {cs : List Char} (none : ∀ c ∈ cs, mark c = false) :
    splitAt mark cs = (cs, Option.none) := by
  have all : ∀ c ∈ cs, (!mark c) = true := fun c mem => by simp [none c mem]
  have taken : cs.takeWhile (fun c => !mark c) = cs := by simpa using all
  have left : cs.dropWhile (fun c => !mark c) = [] := by simpa using all
  rw [splitAt, taken, left]
  rfl

theorem readDecimal_toDigits (negative : Bool) (n : Nat) :
    readDecimal negative (Nat.toDigits 10 n) = whole? (if negative then -n else n) := by
  have numeral := Code.isNumeral_toDigits n
  have other {mark : Char} (no_digit : mark.isDigit = false) :
      ∀ c ∈ Nat.toDigits 10 n, ¬c = mark :=
    fun c mem => ne_of_isDigit (numeral.digits c mem) no_digit
  have no_power : splitAt (fun c => c = 'e' || c = 'E') (Nat.toDigits 10 n) = (_, none) :=
    splitAt_of_notMem fun c mem => by
      simp [other (show 'e'.isDigit = false by decide) c mem,
        other (show 'E'.isDigit = false by decide) c mem]
  have no_fraction : splitAt (fun c => c = '.') (Nat.toDigits 10 n) = (_, none) :=
    splitAt_of_notMem fun c mem => by simp [other (show '.'.isDigit = false by decide) c mem]
  have whole : readWhole (Nat.toDigits 10 n) = some (Nat.toDigits 10 n) := by
    rw [readWhole, readDigits_of_isDigit numeral.ne_nil numeral.digits, Option.bind_some, if_neg]
    rintro ⟨zero, long⟩
    simp [numeral.leading zero] at long
  have value : Nat.ofDigitChars 10 (Nat.toDigits 10 n) 0 = n := Nat.ofDigitChars_ten_toDigits
  simp [readDecimal, no_power, no_fraction, whole, value]

/-- A numeral in base ten, with a sign or not, is read as such. -/
theorem readNumber_of_readSign {cs : List Char} {negative : Bool} {n : Nat}
    (based : ∀ mark more, mark ∈ ['x', 'o', 'b'] → cs ≠ '0' :: mark :: more)
    (sign : readSign cs = (negative, Nat.toDigits 10 n)) :
    readNumber cs = whole? (if negative then -n else n) := by
  rw [readNumber, sign]
  · dsimp only
    rw [if_neg, readDecimal_toDigits]
    exact not_or.mpr ⟨toDigits_ne_cons (by decide) n _, toDigits_ne_cons (by decide) n _⟩
  · exact fun ds => based 'x' ds (by decide)
  · exact fun ds => based 'o' ds (by decide)
  · exact fun ds => based 'b' ds (by decide)

theorem readWord_toString {n : Int} {value : Int64} (fits : int64? n = some value) :
    readWord (toString n).toList = some (.int n) := by
  obtain ⟨c, more, written, front⟩ := exists_toString_int_eq_cons n
  have word (letter : Char) (others : List Char) (no_digit : letter.isDigit = false)
      (no_sign : letter ≠ '-') : (toString n).toList ≠ letter :: others := by
    rw [written]
    intro same
    obtain ⟨rfl, -⟩ := List.cons.inj same
    rcases front with sign | digit
    · exact no_sign sign
    · exact absurd digit (by simp [no_digit])
  rw [readWord, if_neg (word 't' _ (by decide) (by decide)),
    if_neg (word 'f' _ (by decide) (by decide)), toList_toString_int, signChars]
  have kept : whole? n = some (.int n) := by
    rw [whole?, fits]
    rfl
  split_ifs with negative
  · have based (mark : Char) (others : List Char) (_ : mark ∈ ['x', 'o', 'b']) :
        ['-'] ++ Nat.toDigits 10 n.natAbs ≠ '0' :: mark :: others := by simp
    have value : -(n.natAbs : Int) = n := by omega
    rw [readNumber_of_readSign based rfl, if_pos rfl, value, kept]
  · have based (mark : Char) (others : List Char) (letter : mark ∈ ['x', 'o', 'b']) :
        [] ++ Nat.toDigits 10 n.natAbs ≠ '0' :: mark :: others := by
      intro same
      have mem : mark ∈ Nat.toDigits 10 n.natAbs := by
        rw [← List.nil_append (Nat.toDigits 10 n.natAbs), same]
        simp
      have digit := isDigit_of_mem_toDigits mark mem
      simp only [List.mem_cons, List.not_mem_nil, or_false] at letter
      rcases letter with rfl | rfl | rfl <;> exact absurd digit (by decide)
    have sign : readSign ([] ++ Nat.toDigits 10 n.natAbs) = (false, Nat.toDigits 10 n.natAbs) := by
      obtain ⟨d, others, digits⟩ :=
        List.exists_cons_of_ne_nil (Code.isNumeral_toDigits n.natAbs).ne_nil
      have digit := isDigit_of_mem_toDigits d (digits ▸ List.mem_cons_self)
      rw [List.nil_append, digits, readSign]
      · exact fun _ same => ne_of_isDigit digit (by decide) (List.cons.inj same).1
      · exact fun _ same => ne_of_isDigit digit (by decide) (List.cons.inj same).1
    have value : (n.natAbs : Int) = n := by omega
    rw [readNumber_of_readSign based sign, if_neg (by decide), value, kept]

/-- A word is read up to the end of its line. -/
theorem readSimple_append {cs : List Char} {value : Json} (rest : List Char)
    (undated : passDate (cs ++ '\n' :: rest) = none) (word : ∀ c ∈ cs, isWordChar c = true)
    (read : readWord cs = some value) :
    readSimple (cs ++ '\n' :: rest) = some (value, '\n' :: rest) := by
  have line : isWordChar '\n' = false := by decide
  have taken : (cs ++ '\n' :: rest).takeWhile isWordChar = cs := by
    rw [List.takeWhile_append_of_pos word]
    simp [line]
  have left : (cs ++ '\n' :: rest).dropWhile isWordChar = '\n' :: rest := by
    rw [List.dropWhile_append_of_pos word]
    simp [line]
  rw [readSimple, readDate, undated, taken, left, read]
  rfl

theorem readValue_eq_readSimple {c : Char} (other : c ∉ ['"', '\x27', '[', '\x7b']) (depth : Nat)
    (rest : List Char) : readValue depth (c :: rest) = readSimple (c :: rest) := by
  simp only [List.mem_cons, List.not_mem_nil, or_false, not_or] at other
  obtain ⟨double, single, bracket, brace⟩ := other
  rw [readValue]
  all_goals simp_all

theorem isWordChar_of_mem_toString {n : Int} :
    ∀ c ∈ (toString n).toList, isWordChar c = true := by
  intro c mem
  rw [toList_toString_int, List.mem_append] at mem
  rcases mem with sign | digit
  · rw [signChars] at sign
    split_ifs at sign
    · obtain rfl := List.mem_singleton.mp sign
      decide
    · exact absurd sign List.not_mem_nil
  · simp [isWordChar, isBare, Char.isAlphanum, isDigit_of_mem_toDigits c digit]

/-- A value is read back up to the end of its line. -/
theorem readValue_append {value : Json} {chars : List Char}
    (written : valueChars value = some chars) (depth : Nat) (rest : List Char) :
    readValue (depth + 1) (chars ++ '\n' :: rest) = some (value, '\n' :: rest) := by
  cases value with
  | str s =>
      obtain rfl := Option.some.inj written
      have read : readQuoted (quoted s ++ '\n' :: rest) = _ :=
        readQuoted_quoted_append s ⟨by simp, by simp⟩
      obtain ⟨more, front | front⟩ := exists_quoted_eq_cons s <;>
      · rw [front, List.cons_append] at read ⊢
        rw [readValue, read, Option.map_some, String.ofList_toList]
  | int n =>
      obtain ⟨value, fits, rfl⟩ := Option.map_eq_some_iff.mp written
      have read := readSimple_append rest (passDate_toString_append n rest)
        isWordChar_of_mem_toString (readWord_toString fits)
      obtain ⟨c, more, front, sign_or_digit⟩ := exists_toString_int_eq_cons n
      rw [front, List.cons_append] at read ⊢
      rw [readValue_eq_readSimple (notMem_of_sign_or_digit sign_or_digit (by decide)), read]
  | bool b =>
      obtain rfl := Option.some.inj written
      have undated : passDate ((toString b).toList ++ '\n' :: rest) = none := by
        cases b <;> exact passDate_cons (by decide) _
      have plain : ∀ c ∈ (toString b).toList, isWordChar c = true :=
        List.all_eq_true.mp (by cases b <;> decide)
      have word : readWord (toString b).toList = some (.bool b) := by cases b <;> rfl
      rw [← readSimple_append rest undated plain word]
      cases b <;> exact readValue_eq_readSimple (by decide) _ _
  | arr items =>
      cases items with
      | nil =>
          obtain rfl := Option.some.inj written
          simp [readValue, readItems, skipLayout, isGap]
      | cons item rest => exact nomatch written
  | null | real | obj => exact nomatch written

theorem carriage_notMem_valueChars {value : Json} {chars : List Char}
    (written : valueChars value = some chars) : '\r' ∉ chars := by
  cases value with
  | str s =>
      obtain rfl := Option.some.inj written
      exact carriage_notMem_quoted s
  | int n =>
      obtain ⟨-, -, rfl⟩ := Option.map_eq_some_iff.mp written
      exact fun mem => absurd (isWordChar_of_mem_toString _ mem) (by decide)
  | bool b =>
      obtain rfl := Option.some.inj written
      cases b <;> decide
  | arr items =>
      cases items with
      | nil =>
          obtain rfl := Option.some.inj written
          decide
      | cons item rest => exact nomatch written
  | null | real | obj => exact nomatch written

theorem skipGap_cons_of_not_gap {c : Char} (mark : isGap c = false) (rest : List Char) :
    skipGap (c :: rest) = c :: rest :=
  List.dropWhile_cons_of_neg (by simp [mark])

theorem skipGap_valueChars_append {value : Json} {chars : List Char}
    (written : valueChars value = some chars) (rest : List Char) :
    skipGap (chars ++ rest) = chars ++ rest := by
  have front : ∃ c more, chars = c :: more ∧ isGap c = false := by
    cases value with
    | str s =>
        obtain rfl := Option.some.inj written
        obtain ⟨more, front | front⟩ := exists_quoted_eq_cons s
        · exact ⟨_, more, front, by decide⟩
        · exact ⟨_, more, front, by decide⟩
    | int n =>
        obtain ⟨-, -, rfl⟩ := Option.map_eq_some_iff.mp written
        obtain ⟨c, more, front, number⟩ := exists_toString_int_eq_cons n
        have other : c ∉ [' ', '\t'] := notMem_of_sign_or_digit number (by decide)
        exact ⟨c, more, front, by simpa [isGap] using other⟩
    | bool b =>
        obtain rfl := Option.some.inj written
        cases b
        · exact ⟨'f', _, rfl, by decide⟩
        · exact ⟨'t', _, rfl, by decide⟩
    | arr items =>
        cases items with
        | nil =>
            obtain rfl := Option.some.inj written
            exact ⟨'[', _, rfl, by decide⟩
        | cons item rest => exact nomatch written
    | null | real | obj => exact nomatch written
  obtain ⟨c, more, rfl, mark⟩ := front
  exact skipGap_cons_of_not_gap mark _

end Joinery.Toml
