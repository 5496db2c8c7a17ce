import Joinery.Toml.Text
import Mathlib.Tactic.SplitIfs

/-!
# Quoted texts are read back

Whatever a text is, the style that is chosen for it shows it so that a reader finds the same
text, and stops behind its quotes if no further quote follows.

Main statement: `Joinery.Toml.readQuoted_quoted_append`.
-/

namespace Joinery.Toml

theorem scalar?_control {c : Char} (small : c.toNat < 0x100) :
    scalar? ['0', '0', Text.hexDigitUpper (c.toNat / 16), Text.hexDigitUpper (c.toNat % 16)] =
      some c := by
  have zero : Text.hexValue? '0' = some 0 := by decide
  have upper := Text.hexValue?_hexDigitUpper (c.toNat / 16) (by omega)
  have lower := Text.hexValue?_hexDigitUpper (c.toNat % 16) (by omega)
  have value : Text.hexNumber? ['0', '0', Text.hexDigitUpper (c.toNat / 16),
      Text.hexDigitUpper (c.toNat % 16)] = some c.toNat := by
    simp only [Text.hexNumber?, List.foldl_cons, List.foldl_nil, Option.bind_some,
      Option.map_some, zero, upper, lower, Option.some.injEq]
    omega
  have valid : c.toNat.isValidChar := c.valid
  rw [scalar?, value, Option.bind_some, if_pos valid, Char.ofNat_toNat]

/-- Characters that an escape names are far from the end of a line. -/
theorem endsLine_cons_of_not_gap {c : Char} (mark : isGap c = false) (line : c ≠ '\n')
    (rest : List Char) : endsLine (c :: rest) = false := by
  rw [endsLine, List.dropWhile_cons_of_neg (by simp [mark])]
  simpa using line

theorem readBasic_escape_append (long : Bool) {c : Char} (other : c ≠ '"') (tail : List Char) :
    readBasic long false (escape c ++ tail) =
      (readBasic long false tail).map fun r => (c :: r.1, r.2) := by
  have named {letter : Char} (mark : isGap letter = false) (line : letter ≠ '\n')
      (known : escaped? letter = some c) (short : letter ≠ 'u') (wide : letter ≠ 'U') :
      readBasic long false ('\\' :: letter :: tail) =
        (readBasic long false tail).map fun r => (c :: r.1, r.2) := by
    rw [readBasic, endsLine_cons_of_not_gap mark line, Bool.and_false, known]
    · rfl
    · rintro _ _ _ _ _ rfl
      exact absurd rfl short
    · rintro _ _ _ _ _ _ _ _ _ rfl
      exact absurd rfl wide
  unfold escape
  split_ifs with back tab line feed carriage backslash plain
  iterate 6
    subst c
    exact named (by decide) (by decide) (by decide) (by decide) (by decide)
  · rw [List.singleton_append, readBasic]
    · simp [backslash, plain]
    all_goals simp_all
  · have small : c.toNat < 0x100 := by
      simp only [isPlain, Bool.or_eq_true, decide_eq_true_eq, Bool.and_eq_true, not_or,
        not_and] at plain
      omega
    have read := scalar?_control small
    simp only [List.cons_append, List.nil_append, readBasic, read, Option.bind_some]

theorem readBasic_quote_append (long : Bool) (tail : List Char) :
    readBasic long false ('\\' :: '"' :: tail) =
      (readBasic long false tail).map fun r => ('"' :: r.1, r.2) := by
  have ends : endsLine ('"' :: tail) = false :=
    endsLine_cons_of_not_gap (by decide) (by decide) tail
  have known : escaped? '"' = some '"' := by decide
  simp [readBasic, ends, known]

/-- An escape starts with a backslash; other characters stand as they are. -/
theorem head?_escape_ne {c mark : Char} (other : c ≠ mark) (slash : mark ≠ '\\')
    (tail : List Char) : (escape c ++ tail).head? ≠ some mark := by
  unfold escape
  split_ifs
  iterate 6 simpa using slash.symm
  · simpa using other
  · simpa using slash.symm

/-- Where no more quotes may stand as they are, and at any other character, no quote comes
first. -/
theorem head?_basicChars_ne_quote {long : Bool} {quotes run : Nat} {c : Char}
    (closed : c = '"' → quotes ≤ run) (more tail : List Char) :
    (basicChars long quotes run (c :: more) ++ tail).head? ≠ some '"' := by
  rw [basicChars]
  split_ifs with quote room line
  · exact absurd room (Nat.not_lt.mpr (closed quote))
  · simp
  · simp
  · rw [List.append_assoc]
    exact head?_escape_ne quote (by decide) _

theorem readBasic_basicChars_short (cs rest : List Char) :
    readBasic false false (basicChars false 0 0 cs ++ '"' :: rest) = some (cs, rest) := by
  induction cs with
  | nil => rfl
  | cons c more ih =>
      rw [basicChars]
      by_cases quote : c = '"'
      · subst quote
        rw [if_pos rfl, if_neg (Nat.lt_irrefl 0), List.cons_append, List.cons_append,
          readBasic_quote_append, ih]
        rfl
      · rw [if_neg quote, if_neg (by simp), List.append_assoc, readBasic_escape_append false quote,
          ih]
        rfl

theorem readLiteral_short_append {cs : List Char}
    (plain : ∀ c ∈ cs, isPlain c = true ∧ c ≠ '\x27') (rest : List Char) :
    readLiteral false (cs ++ '\x27' :: rest) = some (cs, rest) := by
  induction cs with
  | nil => rfl
  | cons c more ih =>
      obtain ⟨shown, other⟩ := plain c List.mem_cons_self
      have read := ih fun d mem => plain d (List.mem_cons_of_mem c mem)
      rw [List.cons_append, readLiteral, shown, Bool.true_or, if_pos rfl, read]
      · rfl
      · exact other

/-- At most two marks stand in front. -/
theorem closeLong_replicate_append {mark : Char} {count : Nat} (few : count ≤ 2) {rest : List Char}
    (stop : rest.head? ≠ some mark) :
    closeLong mark (List.replicate count mark ++ rest) = (List.replicate count mark, rest) := by
  have taken : (List.replicate count mark ++ rest).takeWhile (fun c => c = mark) =
      List.replicate count mark := by
    rw [List.takeWhile_append_of_pos (by simp)]
    cases rest with
    | nil => simp
    | cons c more =>
        have other : ¬c = mark := fun same => stop (by rw [same]; rfl)
        simp [other]
  rw [closeLong, taken, List.take_of_length_le (by simpa using few), List.drop_left]

/-- A quote is part of the text unless two more follow. -/
theorem readBasic_long_cons_quote {tail : List Char}
    (single : ∀ more, tail ≠ '"' :: '"' :: more) :
    readBasic true false ('"' :: tail) =
      (readBasic true false tail).map fun r => ('"' :: r.1, r.2) := by
  rw [readBasic, if_pos rfl]
  exact single

theorem readBasic_long_close (count : Nat) (few : count ≤ 2) {rest : List Char}
    (stop : rest.head? ≠ some '"') :
    readBasic true false ('"' :: '"' :: '"' :: (List.replicate count '"' ++ rest)) =
      some (List.replicate count '"', rest) := by
  rw [readBasic, if_pos rfl, closeLong_replicate_append few stop]

/-- Of the quotes of a text, only those at its end stand before two more. -/
theorem basicChars_ne_two_quotes (run : Nat) {cs : List Char} (some_char : cs ≠ [])
    (other : run = 0 → cs ≠ ['"']) (tail more : List Char) :
    basicChars true 2 (run + 1) cs ++ tail ≠ '"' :: '"' :: more := by
  intro same
  obtain ⟨c, later, rfl⟩ := List.exists_cons_of_ne_nil some_char
  by_cases open_pair : c = '"' ∧ run = 0
  · obtain ⟨rfl, rfl⟩ := open_pair
    obtain ⟨d, last, rfl⟩ : ∃ d last, later = d :: last :=
      List.exists_cons_of_ne_nil fun empty => other rfl (by rw [empty])
    rw [basicChars, if_pos rfl, if_pos (by decide), List.cons_append] at same
    have second := congrArg List.head? (List.cons.inj same).2
    exact head?_basicChars_ne_quote (fun _ => Nat.le_refl 2) last tail second
  · have closed : c = '"' → 2 ≤ run + 1 := fun quote => by
      have written : run ≠ 0 := fun none => open_pair ⟨quote, none⟩
      omega
    exact head?_basicChars_ne_quote closed later tail (congrArg List.head? same)

theorem readBasic_basicChars_long (cs : List Char) (run : Nat) {rest : List Char}
    (stop : rest.head? ≠ some '"') :
    readBasic true false (basicChars true 2 run cs ++ '"' :: '"' :: '"' :: rest) =
      some (cs, rest) := by
  induction cs generalizing run with
  | nil => exact readBasic_long_close 0 (by decide) stop
  | cons c more ih =>
      by_cases quote : c = '"'
      · subst quote
        by_cases room : run < 2
        · rw [basicChars, if_pos rfl, if_pos room, List.cons_append]
          by_cases last : more = []
          · subst last
            exact readBasic_long_close 1 (by decide) stop
          · by_cases pair : run = 0 ∧ more = ['"']
            · obtain ⟨rfl, rfl⟩ := pair
              exact readBasic_long_close 2 (by decide) stop
            · have single := basicChars_ne_two_quotes run last
                (fun first alone => pair ⟨first, alone⟩) ('"' :: '"' :: '"' :: rest)
              rw [readBasic_long_cons_quote single, ih]
              rfl
        · rw [basicChars, if_pos rfl, if_neg room, List.cons_append, List.cons_append,
            readBasic_quote_append, ih]
          rfl
      · rw [basicChars, if_neg quote]
        split_ifs with line
        · obtain rfl : c = '\n' := by simpa using line
          rw [List.cons_append, readBasic, ih]
          · rfl
          all_goals simp
        · rw [List.append_assoc, readBasic_escape_append true quote, ih]
          rfl

theorem le_longestRun (mark : Char) (run : Nat) (cs : List Char) :
    run ≤ longestRun mark run cs := by
  induction cs generalizing run with
  | nil => exact Nat.le_refl run
  | cons c rest ih =>
      rw [longestRun]
      split_ifs
      · exact Nat.le_trans (Nat.le_succ run) (ih (run + 1))
      · exact Nat.le_max_left _ _

theorem longestRun_mono (mark : Char) {run later : Nat} (below : run ≤ later) (cs : List Char) :
    longestRun mark run cs ≤ longestRun mark later cs := by
  induction cs generalizing run later with
  | nil => exact below
  | cons c rest ih =>
      rw [longestRun, longestRun]
      split_ifs
      · exact ih (Nat.succ_le_succ below)
      · omega

theorem readLiteral_long_cons_mark {tail : List Char}
    (single : ∀ more, tail ≠ '\x27' :: '\x27' :: more) :
    readLiteral true ('\x27' :: tail) =
      (readLiteral true tail).map fun r => ('\x27' :: r.1, r.2) := by
  rw [readLiteral, if_pos rfl]
  exact single

theorem readLiteral_long_close (count : Nat) (few : count ≤ 2) {rest : List Char}
    (stop : rest.head? ≠ some '\x27') :
    readLiteral true ('\x27' :: '\x27' :: '\x27' :: (List.replicate count '\x27' ++ rest)) =
      some (List.replicate count '\x27', rest) := by
  rw [readLiteral, if_pos rfl, closeLong_replicate_append few stop]

theorem readLiteral_long_append {cs : List Char} (shown : ∀ c ∈ cs, isPlain c = true ∨ c = '\n')
    (few : longestRun '\x27' 0 cs ≤ 2) {rest : List Char} (stop : rest.head? ≠ some '\x27') :
    readLiteral true (cs ++ '\x27' :: '\x27' :: '\x27' :: rest) = some (cs, rest) := by
  induction cs with
  | nil => exact readLiteral_long_close 0 (by decide) stop
  | cons c more ih =>
      have later := fun d mem => shown d (List.mem_cons_of_mem c mem)
      rw [longestRun] at few
      by_cases mark : c = '\x27'
      · subst mark
        rw [if_pos rfl] at few
        by_cases last : more = []
        · subst last
          exact readLiteral_long_close 1 (by decide) stop
        by_cases pair : more = ['\x27']
        · subst pair
          exact readLiteral_long_close 2 (by decide) stop
        -- A third mark in a row would make the run too long.
        have single : ∀ after, more ++ '\x27' :: '\x27' :: '\x27' :: rest ≠
            '\x27' :: '\x27' :: after := by
          intro after same
          obtain ⟨d, others, rfl⟩ := List.exists_cons_of_ne_nil last
          obtain ⟨rfl, next⟩ := List.cons.inj same
          obtain ⟨e, others, rfl⟩ : ∃ e back, others = e :: back :=
            List.exists_cons_of_ne_nil fun empty => pair (by rw [empty])
          obtain ⟨rfl, -⟩ := List.cons.inj next
          rw [longestRun, if_pos rfl, longestRun, if_pos rfl] at few
          exact absurd (Nat.le_trans (le_longestRun _ 3 others) few) (by decide)
        have shorter := Nat.le_trans (longestRun_mono '\x27' (Nat.zero_le 1) more) few
        rw [List.cons_append, readLiteral_long_cons_mark single, ih later shorter]
        rfl
      · rw [if_neg mark] at few
        have shorter := Nat.le_trans (Nat.le_max_right 0 _) few
        have accepted : (isPlain c || (true && decide (c = '\n'))) = true := by
          simpa using shown c List.mem_cons_self
        rw [List.cons_append, readLiteral, if_pos accepted, ih later shorter]
        · rfl
        all_goals simp_all

/-- The line end after the opening quotes is skipped, and no other. -/
theorem skipBreak_openingBreak_append {cs body : List Char}
    (front : '\n' ∉ cs → body.head? ≠ some '\n') : skipBreak (openingBreak cs ++ body) = body := by
  rw [openingBreak]
  split_ifs with several
  · rfl
  · have other := front (by simpa using several)
    rw [List.nil_append, skipBreak]
    rintro _ rfl
    exact other rfl

/-- No further quote follows. -/
def EndsQuotes (rest : List Char) : Prop := rest.head? ≠ some '"' ∧ rest.head? ≠ some '\x27'

variable {cs rest : List Char}

theorem Style.plain_of_shows {style : Style} (shows : style.shows cs = true) :
    ∀ c ∈ cs, isPlain c = true ∨ c = '\n' := by
  intro c mem
  rw [Style.shows.eq_def, Bool.and_eq_true, Bool.not_eq_true', needsEscape,
    List.any_eq_false] at shows
  have shown := shows.1 c mem
  by_cases plain : isPlain c = true
  · exact .inl plain
  · exact .inr (by simpa [plain] using shown)

theorem one_le_longestRun {mark : Char} (mem : mark ∈ cs) (run : Nat) :
    1 ≤ longestRun mark run cs := by
  induction cs generalizing run with
  | nil => exact nomatch mem
  | cons c more ih =>
      rw [longestRun]
      split_ifs with same
      · exact Nat.le_trans (Nat.le_add_left 1 run) (le_longestRun mark (run + 1) more)
      · have later := (List.mem_cons.mp mem).resolve_left (Ne.symm same)
        exact Nat.le_trans (ih later 0) (Nat.le_max_right _ _)

/-- A quote and no second one open a text on one line. -/
theorem readQuoted_basic (ends : EndsQuotes rest) :
    readQuoted (Style.basic.write cs ++ rest) = some (cs, rest) := by
  have written : Style.basic.write cs ++ rest =
      '"' :: (basicChars false 0 0 cs ++ '"' :: rest) := by
    simp [Style.write]
  rw [written, readQuoted]
  · exact readBasic_basicChars_short cs rest
  · intro more same
    have same := (List.cons.inj same).2
    cases cs with
    | nil => exact ends.1 (congrArg List.head? (List.cons.inj same).2)
    | cons c others =>
        exact head?_basicChars_ne_quote (fun _ => Nat.le_refl 0) others _
          (congrArg List.head? same)
  · simp

theorem readQuoted_literal (shows : Style.literal.shows cs = true) (ends : EndsQuotes rest) :
    readQuoted (Style.literal.write cs ++ rest) = some (cs, rest) := by
  have shown := Style.plain_of_shows shows
  simp only [Style.shows, Bool.and_eq_true, decide_eq_true_eq, Bool.not_eq_true',
    List.contains_eq_mem, decide_eq_false_iff_not] at shows
  have mark : '\x27' ∉ cs := fun mem =>
    absurd (one_le_longestRun mem 0) (by simp [shows.2.1])
  have plain : ∀ c ∈ cs, isPlain c = true ∧ c ≠ '\x27' := fun c mem =>
    ⟨(shown c mem).resolve_right fun line => shows.2.2 (line ▸ mem),
      fun same => mark (same ▸ mem)⟩
  have written : Style.literal.write cs ++ rest = '\x27' :: (cs ++ '\x27' :: rest) := by
    simp [Style.write]
  rw [written, readQuoted]
  · exact readLiteral_short_append plain rest
  · simp
  · intro more same
    have same := (List.cons.inj same).2
    cases cs with
    | nil => exact ends.2 (congrArg List.head? (List.cons.inj same).2)
    | cons c others => exact (plain c List.mem_cons_self).2 (List.cons.inj same).1

theorem readQuoted_longBasic (ends : EndsQuotes rest) :
    readQuoted (Style.longBasic.write cs ++ rest) = some (cs, rest) := by
  have front : '\n' ∉ cs →
      (basicChars true 2 0 cs ++ '"' :: '"' :: '"' :: rest).head? ≠ some '\n' := by
    intro single
    cases cs with
    | nil => simp [basicChars]
    | cons c more =>
        have other : c ≠ '\n' := fun same => single (by simp [same])
        rw [basicChars]
        split_ifs with quote room line
        · simp
        · simp
        · exact absurd (by simpa using line) other
        · rw [List.append_assoc]
          exact head?_escape_ne other (by decide) _
  have written : Style.longBasic.write cs ++ rest = '"' :: '"' :: '"' :: (openingBreak cs ++
      (basicChars true 2 0 cs ++ '"' :: '"' :: '"' :: rest)) := by
    simp [Style.write]
  rw [written, readQuoted, skipBreak_openingBreak_append front,
    readBasic_basicChars_long cs 0 ends.1]

theorem readQuoted_longLiteral (shows : Style.longLiteral.shows cs = true)
    (ends : EndsQuotes rest) :
    readQuoted (Style.longLiteral.write cs ++ rest) = some (cs, rest) := by
  have shown := Style.plain_of_shows shows
  simp only [Style.shows, Bool.and_eq_true, decide_eq_true_eq] at shows
  have front : '\n' ∉ cs →
      (cs ++ '\x27' :: '\x27' :: '\x27' :: rest).head? ≠ some '\n' := by
    intro single
    cases cs with
    | nil => simp
    | cons c more => simpa using fun same : c = '\n' => single (by simp [same])
  have written : Style.longLiteral.write cs ++ rest = '\x27' :: '\x27' :: '\x27' ::
      (openingBreak cs ++ (cs ++ '\x27' :: '\x27' :: '\x27' :: rest)) := by
    simp [Style.write]
  rw [written, readQuoted, skipBreak_openingBreak_append front,
    readLiteral_long_append shown shows.2 ends.2]

/-- Every text is read back from its quoted form. -/
theorem readQuoted_quoted_append (text : String) (ends : EndsQuotes rest) :
    readQuoted (quoted text ++ rest) = some (text.toList, rest) := by
  rw [quoted, Style.choose]
  split
  · rename_i style found
    have shows := List.find?_some found
    cases style with
    | basic => exact readQuoted_basic ends
    | literal => exact readQuoted_literal shows ends
    | longBasic => exact readQuoted_longBasic ends
    | longLiteral => exact readQuoted_longLiteral shows ends
  · split_ifs
    · exact readQuoted_longBasic ends
    · exact readQuoted_basic ends

theorem exists_quoted_eq_cons (text : String) :
    ∃ more, quoted text = '"' :: more ∨ quoted text = '\x27' :: more := by
  rw [quoted]
  cases Style.choose text.toList with
  | basic => exact ⟨_, .inl rfl⟩
  | literal => exact ⟨_, .inr rfl⟩
  | longBasic => exact ⟨_, .inl rfl⟩
  | longLiteral => exact ⟨_, .inr rfl⟩

theorem carriage_notMem_escape (c : Char) : '\r' ∉ escape c := by
  have digit {n : Nat} (small : n < 16) : '\r' ≠ Text.hexDigitUpper n := by
    intro same
    have value := Text.hexValue?_hexDigitUpper n small
    rw [← same] at value
    exact absurd value (by simp [show Text.hexValue? '\r' = none by decide])
  unfold escape
  split_ifs with back tab line feed carriage backslash plain
  iterate 6 simp
  · simpa using Ne.symm carriage
  · simp only [isPlain, Bool.or_eq_true, decide_eq_true_eq, Bool.and_eq_true, not_or,
      not_and] at plain
    simp [digit (show c.toNat / 16 < 16 by omega), digit (show c.toNat % 16 < 16 by omega)]

theorem carriage_notMem_basicChars (long : Bool) (quotes run : Nat) (cs : List Char) :
    '\r' ∉ basicChars long quotes run cs := by
  induction cs generalizing run with
  | nil => exact List.not_mem_nil
  | cons c more ih =>
      rw [basicChars]
      split_ifs
      · simpa using ih (run + 1)
      · simpa using ih 0
      · simpa using ih 0
      · rw [List.mem_append, not_or]
        exact ⟨carriage_notMem_escape c, ih 0⟩

theorem carriage_notMem_quoted (text : String) : '\r' ∉ quoted text := by
  have opening (cs : List Char) : '\r' ∉ openingBreak cs := by
    rw [openingBreak]
    split_ifs <;> simp
  have basic (cs : List Char) : '\r' ∉ Style.basic.write cs := by
    simp [Style.write, carriage_notMem_basicChars]
  have longBasic (cs : List Char) : '\r' ∉ Style.longBasic.write cs := by
    simp [Style.write, carriage_notMem_basicChars, opening]
  have shown {style : Style} {cs : List Char} (shows : style.shows cs = true) : '\r' ∉ cs :=
    fun mem => absurd (Style.plain_of_shows shows '\r' mem) (by decide)
  rw [quoted, Style.choose]
  split
  · rename_i style found
    have shows := List.find?_some found
    have other := shown shows
    cases style with
    | basic => exact basic _
    | longBasic => exact longBasic _
    | literal => simpa [Style.write] using other
    | longLiteral => simpa [Style.write, opening] using other
  · split_ifs
    · exact longBasic _
    · exact basic _

end Joinery.Toml
