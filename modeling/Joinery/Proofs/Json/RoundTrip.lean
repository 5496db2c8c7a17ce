import Joinery.Json.Printer
import Joinery.Json.Reader
import Joinery.Proofs.Text.Numerals

/-!
# Values that survive being written and read

A value whose numbers are whole and of 64 bits is read back from its written form as what
it was, as long as it nests no deeper than the reader goes; deeper ones are refused.

Main statement: `Joinery.Json.readValue_compactChars`.
-/

namespace Joinery.Json

open Text

/-- All numbers of the value are whole and have 64 bits, with a sign or without. -/
inductive IsWhole : Json → Prop
  | null : IsWhole null
  | bool (b : Bool) : IsWhole (bool b)
  | int {n : Int} (low : -9223372036854775808 ≤ n) (high : n < 18446744073709551616) :
      IsWhole (int n)
  | str (s : String) : IsWhole (str s)
  | arr {items : List Json} (all : ∀ item ∈ items, IsWhole item) : IsWhole (arr items)
  | obj {fields : List (String × Json)} (all : ∀ field ∈ fields, IsWhole field.2) :
      IsWhole (obj fields)

theorem IsWhole.fields {fields : List (String × Json)} (whole : (Json.obj fields).IsWhole) :
    ∀ field ∈ fields, field.2.IsWhole := by
  cases whole with
  | obj all => exact all

mutual

/-- How many lists and objects stand within each other. -/
def depth : Json → Nat
  | arr items => itemsDepth items + 1
  | obj fields => fieldsDepth fields + 1
  | _ => 0

/-- The depth of the deepest item. -/
def itemsDepth : List Json → Nat
  | [] => 0
  | item :: rest => max item.depth (itemsDepth rest)

/-- The depth of the deepest value of a field. -/
def fieldsDepth : List (String × Json) → Nat
  | [] => 0
  | (_, value) :: rest => max value.depth (fieldsDepth rest)

end

theorem itemsDepth_le_iff {items : List Json} {limit : Nat} :
    itemsDepth items ≤ limit ↔ ∀ item ∈ items, item.depth ≤ limit := by
  induction items with
  | nil => simp [itemsDepth]
  | cons item rest ih => rw [itemsDepth, Nat.max_le, ih, List.forall_mem_cons]

theorem fieldsDepth_le_iff {fields : List (String × Json)} {limit : Nat} :
    fieldsDepth fields ≤ limit ↔ ∀ field ∈ fields, field.2.depth ≤ limit := by
  induction fields with
  | nil => simp [fieldsDepth]
  | cons field rest ih => rw [fieldsDepth, Nat.max_le, ih, List.forall_mem_cons]

theorem depth_arr_le_succ_iff {items : List Json} {limit : Nat} :
    (arr items).depth ≤ limit + 1 ↔ ∀ item ∈ items, item.depth ≤ limit := by
  rw [depth, Nat.succ_le_succ_iff, itemsDepth_le_iff]

theorem depth_obj_le_succ_iff {fields : List (String × Json)} {limit : Nat} :
    (obj fields).depth ≤ limit + 1 ↔ ∀ field ∈ fields, field.2.depth ≤ limit := by
  rw [depth, Nat.succ_le_succ_iff, fieldsDepth_le_iff]

/-- A control character is written by its number, which two digits give. -/
theorem hexNumber?_control {n : Nat} (small : n < 0x20) :
    hexNumber? ['0', '0', hexDigit (n / 16), hexDigit (n % 16)] = some n := by
  have zero : hexValue? '0' = some 0 := by decide
  have upper : hexValue? (hexDigit (n / 16)) = some (n / 16) := hexValue?_hexDigit _ (by omega)
  have lower : hexValue? (hexDigit (n % 16)) = some (n % 16) := hexValue?_hexDigit _ (by omega)
  simp only [hexNumber?, List.foldl_cons, List.foldl_nil, Option.bind_some, Option.map_some, zero,
    upper, lower, Option.some.injEq]
  omega

theorem readText_escape_append (c : Char) (tail : List Char) :
    readText (escape c ++ tail) = (readText tail).map fun r => (c :: r.1, r.2) := by
  unfold escape
  split_ifs with quote backslash back feed line carriage tab control
  iterate 7 subst c; simp [readText, escaped?]
  · have low : isLowHalf c.toNat = false := by simp [isLowHalf]; omega
    have high : isHighHalf c.toNat = false := by simp [isHighHalf]; omega
    simp [readText, hexNumber?_control control, low, high]
  · rw [List.singleton_append, readText]
    · rw [if_neg (by simp [control, backslash])]
    · exact quote
    · exact fun _ _ _ _ _ same _ => backslash same
    · exact fun _ _ same _ => backslash same

/-- A written text is read as what it was. -/
theorem readText_flatMap_escape (cs rest : List Char) :
    readText (cs.flatMap escape ++ '"' :: rest) = some (cs, rest) := by
  induction cs with
  | nil => simp [readText]
  | cons c more ih => rw [List.flatMap_cons, List.append_assoc, readText_escape_append, ih]; rfl

/-- What follows a number does not go on with it. -/
def EndsNumber (rest : List Char) : Prop :=
  ∀ c ∈ rest.head?, c.isDigit = false ∧ c ≠ '.' ∧ c ≠ 'e' ∧ c ≠ 'E'

theorem EndsNumber.stopsDigits {rest : List Char} (ends : EndsNumber rest) : StopsDigits rest :=
  fun c front => (ends c front).1

theorem readFraction_of_ends {rest : List Char} (ends : EndsNumber rest) :
    readFraction rest = some (none, rest) := by
  cases rest with
  | nil => rfl
  | cons c more =>
      rw [readFraction]
      rintro _ ⟨rfl, -⟩
      exact (ends '.' rfl).2.1 rfl

theorem readPower_of_ends {rest : List Char} (ends : EndsNumber rest) :
    readPower rest = some (none, rest) := by
  cases rest with
  | nil => rfl
  | cons c more => simp [readPower, (ends c rfl).2.2.1, (ends c rfl).2.2.2]

/-- All digits are kept while they fit. -/
theorem keepDigits_of_lt {ds : List Char} {kept : Nat}
    (fits : Nat.ofDigitChars 10 ds kept < keptLimit) :
    keepDigits kept ds = (Nat.ofDigitChars 10 ds kept, []) := by
  induction ds generalizing kept with
  | nil => rfl
  | cons c more ih =>
      rw [Nat.ofDigitChars_cons] at fits ⊢
      have grown : 10 * kept + (c.toNat - '0'.toNat) < keptLimit := by
        rw [Nat.ofDigitChars_eq_ofDigitChars_zero] at fits
        have grows := Nat.le_mul_of_pos_left (10 * kept + (c.toNat - '0'.toNat))
          (Nat.pow_pos (n := more.length) (show 0 < 10 by decide))
        omega
      rw [keepDigits, if_pos grown, ih fits]

theorem readWhole_toDigits_append (n : Nat) {rest : List Char} (stop : StopsDigits rest) :
    readWhole (Nat.toDigits 10 n ++ rest) = some (Nat.toDigits 10 n, rest) := by
  have numeral := Code.isNumeral_toDigits n
  have digits : readDigits (Nat.toDigits 10 n ++ rest) = some (Nat.toDigits 10 n, rest) := by
    rw [readDigits, takeWhile_isDigit_append numeral.digits stop,
      dropWhile_isDigit_append numeral.digits stop]
    split
    · exact absurd ‹_› numeral.ne_nil
    · rfl
  rw [readWhole, digits, Option.bind_some, if_neg]
  rintro ⟨zero, long⟩
  simp [numeral.leading zero] at long

theorem numberOf_of_int {n : Int} (low : -9223372036854775808 ≤ n)
    (high : n < 18446744073709551616) :
    numberOf (n < 0) (Nat.toDigits 10 n.natAbs) none none = some (int n) := by
  have value : Nat.ofDigitChars 10 (Nat.toDigits 10 n.natAbs) 0 = n.natAbs :=
    Nat.ofDigitChars_ten_toDigits
  have kept : keepDigits 0 (Nat.toDigits 10 n.natAbs) = (n.natAbs, []) := by
    rw [keepDigits_of_lt, value]
    rw [value, keptLimit, UInt64.size]
    omega
  have bounded : (!decide (n < 0)) = true ∨ n.natAbs ≠ 0 ∧ n.natAbs ≤ 9223372036854775808 := by
    by_cases negative : n < 0
    · exact .inr ⟨by omega, by omega⟩
    · exact .inl (by simp [negative])
  have signed : (if decide (n < 0) = true then -(n.natAbs : Int) else n.natAbs) = n := by
    by_cases negative : n < 0
    · rw [if_pos (decide_eq_true negative)]
      omega
    · rw [if_neg (by simp [negative])]
      omega
  rw [numberOf, kept]
  dsimp only
  rw [if_pos ⟨⟨rfl, rfl, rfl⟩, bounded⟩, signed]

/-- The number is taken for its sign and its numeral. -/
theorem readNumber_toString_append {n : Int} (low : -9223372036854775808 ≤ n)
    (high : n < 18446744073709551616) {rest : List Char} (ends : EndsNumber rest) :
    readNumber ((toString n).toList ++ rest) = some (int n, rest) := by
  have read := numberOf_of_int low high
  have whole := readWhole_toDigits_append n.natAbs ends.stopsDigits
  rw [toList_toString_int, signChars]
  by_cases negative : n < 0
  · rw [decide_eq_true negative] at read
    simp [readNumber, negative, whole, readFraction_of_ends ends, readPower_of_ends ends, read]
  · rw [decide_eq_false negative] at read
    have unsigned : (Nat.toDigits 10 n.natAbs ++ rest).head? ≠ some '-' := by
      rw [List.head?_append_of_ne_nil _ Nat.toDigits_ne_nil]
      intro sign
      exact absurd (isDigit_of_mem_toDigits _ (List.mem_of_head? sign)) (by decide)
    simp [-List.head?_append, readNumber, negative, unsigned, whole, readFraction_of_ends ends,
      readPower_of_ends ends, read]

theorem skipGap_cons_of_not_gap {c : Char} (mark : isGap c = false) (rest : List Char) :
    skipGap (c :: rest) = c :: rest :=
  List.dropWhile_cons_of_neg (by simp [mark])

/-- Every part is worth a character, its comma or the closing one. -/
theorem length_le_joined (parts : List (List Char)) : parts.length ≤ (joined parts).length + 1 := by
  induction parts with
  | nil => exact Nat.zero_le _
  | cons part rest ih =>
      cases rest with
      | nil => exact Nat.le_add_left 1 _
      | cons next more =>
          simp only [joined, List.length_append, List.length_cons] at ih ⊢
          omega

/-- The first part stands in front. -/
theorem exists_skipGap_joined_eq {α : Type} {write : α → List Char} {xs : List α}
    (some_part : xs ≠ [])
    (starts : ∀ x ∈ xs, ∀ tail, skipGap (write x ++ tail) = write x ++ tail) (rest : List Char) :
    ∃ x ∈ xs, ∃ tail, skipGap (joined (xs.map write) ++ rest) = write x ++ tail := by
  obtain ⟨x, more, rfl⟩ := List.exists_cons_of_ne_nil some_part
  refine ⟨x, List.mem_cons_self, ?_⟩
  cases more with
  | nil => exact ⟨rest, starts x List.mem_cons_self rest⟩
  | cons next later =>
      refine ⟨',' :: (joined ((next :: later).map write) ++ rest), ?_⟩
      rw [← starts x List.mem_cons_self]
      exact congrArg skipGap (List.append_assoc ..)

/-- Written parts with commas between them are read one by one, if each of them is; `fits`
says which of them are. -/
theorem readItems_joined {α β : Type} {item : Reader β} {write : α → List Char} {value : α → β}
    {fits : α → Prop} [DecidablePred fits] {close : Char} (notComma : close ≠ ',')
    (closes : isGap close = false) {xs : List α} (some_part : xs ≠ [])
    (starts : ∀ x ∈ xs, ∀ tail, skipGap (write x ++ tail) = write x ++ tail)
    (reads : ∀ x ∈ xs, ∀ c ∈ [',', close], ∀ tail,
      item (write x ++ c :: tail) = if fits x then some (value x, c :: tail) else none)
    {budget : Nat} (enough : xs.length ≤ budget) (rest : List Char) :
    readItems item close budget (joined (xs.map write) ++ close :: rest) =
      if ∀ x ∈ xs, fits x then some (xs.map value, rest) else none := by
  induction xs generalizing budget with
  | nil => exact absurd rfl some_part
  | cons x more ih =>
      cases budget with
      | zero => exact absurd enough (by simp)
      | succ budget =>
          have first := starts x List.mem_cons_self
          have read := reads x List.mem_cons_self
          cases more with
          | nil =>
              rw [List.map_singleton, joined, readItems, first, read close (by simp) rest]
              by_cases fit : fits x
              · simp [fit, skipGap_cons_of_not_gap closes, notComma]
              · simp [fit]
          | cons next later =>
              have tail := ih (List.cons_ne_nil _ _)
                (fun y mem => starts y (List.mem_cons_of_mem x mem))
                (fun y mem => reads y (List.mem_cons_of_mem x mem)) (Nat.le_of_succ_le_succ enough)
              have comma : isGap ',' = false := by decide
              rw [List.map_cons, joined, List.append_assoc, List.cons_append, readItems, first,
                read ',' (by simp)]
              · by_cases fit : fits x
                · simp only [fit, if_true, skipGap_cons_of_not_gap comma, tail,
                    List.forall_mem_cons, true_and]
                  split_ifs <;> rfl
                · simp [fit]
              · exact List.cons_ne_nil _ _

/-- The number of characters is a budget that suffices for the parts among them. -/
theorem readItems_joined_length {α β : Type} {item : Reader β} {write : α → List Char}
    {value : α → β} {fits : α → Prop} [DecidablePred fits] {close : Char} (notComma : close ≠ ',')
    (closes : isGap close = false) {xs : List α} (some_part : xs ≠ [])
    (starts : ∀ x ∈ xs, ∀ tail, skipGap (write x ++ tail) = write x ++ tail)
    (reads : ∀ x ∈ xs, ∀ c ∈ [',', close], ∀ tail,
      item (write x ++ c :: tail) = if fits x then some (value x, c :: tail) else none)
    {text : List Char} (rest : List Char)
    (written : text = joined (xs.map write) ++ close :: rest) :
    readItems item close text.length text =
      if ∀ x ∈ xs, fits x then some (xs.map value, rest) else none := by
  have enough : xs.length ≤ text.length := by
    have parts := length_le_joined (xs.map write)
    rw [List.length_map] at parts
    rw [written, List.length_append, List.length_cons]
    omega
  rw [written] at enough ⊢
  exact readItems_joined notComma closes some_part starts reads enough rest

/-- The written form of a field. -/
def fieldChars (field : String × Json) : List Char :=
  quoted field.1 ++ ':' :: compactChars field.2

theorem compactItems_eq_map (items : List Json) : compactItems items = items.map compactChars := by
  induction items with
  | nil => rfl
  | cons item rest ih => rw [compactItems, ih, List.map_cons]

theorem compactFields_eq_map (fields : List (String × Json)) :
    compactFields fields = fields.map fieldChars := by
  induction fields with
  | nil => rfl
  | cons field rest ih => rw [compactFields, ih, List.map_cons, fieldChars]

theorem compactChars_arr_append (items : List Json) (rest : List Char) :
    (arr items).compactChars ++ rest =
      '[' :: (joined (items.map compactChars) ++ ']' :: rest) := by
  rw [compactChars, compactItems_eq_map, List.cons_append, List.append_assoc, List.singleton_append]

theorem compactChars_obj_append (fields : List (String × Json)) (rest : List Char) :
    (obj fields).compactChars ++ rest =
      '\x7b' :: (joined (fields.map fieldChars) ++ '\x7d' :: rest) := by
  rw [compactChars, compactFields_eq_map, List.cons_append, List.append_assoc,
    List.singleton_append]

theorem readText_quoted (s : String) (rest : List Char) :
    readText (s.toList.flatMap escape ++ ['"'] ++ rest) = some (s.toList, rest) := by
  rw [List.append_assoc]
  exact readText_flatMap_escape s.toList rest

/-- No blank and no closing bracket stands in front of a value. -/
theorem IsWhole.exists_compactChars_eq_cons {value : Json} (whole : value.IsWhole) :
    ∃ c more, value.compactChars = c :: more ∧ isGap c = false ∧ c ≠ ']' := by
  cases whole with
  | null | str | arr | obj => exact ⟨_, _, rfl, by decide, by decide⟩
  | bool b => cases b <;> exact ⟨_, _, rfl, by decide, by decide⟩
  | int low high =>
      obtain ⟨c, more, written, front⟩ := exists_toString_int_eq_cons _
      refine ⟨c, more, written, ?_⟩
      rcases front with rfl | digit
      · exact ⟨by decide, by decide⟩
      · constructor
        · by_contra gap
          simp only [isGap, Bool.not_eq_false, Bool.or_eq_true, decide_eq_true_eq] at gap
          rcases gap with ((rfl | rfl) | rfl) | rfl <;> exact absurd digit (by decide)
        · rintro rfl
          exact absurd digit (by decide)

theorem IsWhole.skipGap_compactChars_append {value : Json} (whole : value.IsWhole)
    (tail : List Char) : skipGap (value.compactChars ++ tail) = value.compactChars ++ tail := by
  obtain ⟨c, more, written, mark, -⟩ := whole.exists_compactChars_eq_cons
  rw [written]
  exact skipGap_cons_of_not_gap mark _

theorem readValue_eq_readNumber {c : Char} (front : c = '-' ∨ c.isDigit = true) (limit : Nat)
    (rest : List Char) : readValue limit (c :: rest) = readNumber (c :: rest) := by
  -- What any other kind of value starts with is neither a sign nor a digit.
  have other {mark : Char} {more : List Char} (same : c :: rest = mark :: more)
      (kind : mark ∈ ['n', 't', 'f', '"', '[', '\x7b']) : False := by
    obtain ⟨rfl, -⟩ := List.cons.inj same
    revert front
    revert kind
    simp only [List.mem_cons, List.not_mem_nil, or_false]
    rintro (rfl | rfl | rfl | rfl | rfl | rfl) <;> decide
  rw [readValue]
  all_goals intros
  all_goals exact other ‹_› (by decide)

theorem endsNumber_cons {c close : Char} (closing : close = ']' ∨ close = '\x7d')
    (mark : c ∈ [',', close]) (tail : List Char) : EndsNumber (c :: tail) := by
  rintro _ ⟨⟩
  simp only [List.mem_cons, List.not_mem_nil, or_false] at mark
  rcases mark with rfl | rfl
  · decide
  · rcases closing with rfl | rfl <;> decide

theorem readField_fieldChars_append {α : Type} (value : String → Reader α) {field : String × Json}
    (whole : field.2.IsWhole) (tail : List Char) :
    readField value (fieldChars field ++ tail) =
      (value field.1 (field.2.compactChars ++ tail)).map fun r => ((field.1, r.1), r.2) := by
  have colon (rest : List Char) : skipGap (':' :: rest) = ':' :: rest :=
    skipGap_cons_of_not_gap (by decide) rest
  rw [fieldChars, quoted, List.cons_append, List.cons_append, readField, List.append_assoc,
    List.cons_append, readText_quoted]
  simp only [colon, String.ofList_toList, whole.skipGap_compactChars_append]

theorem readItems_compactChars {items : List Json} {limit : Nat} (some_item : items ≠ [])
    (whole : ∀ item ∈ items, item.IsWhole)
    (reads : ∀ item ∈ items, ∀ tail, EndsNumber tail → readValue limit (item.compactChars ++ tail) =
      if item.depth ≤ limit then some (item, tail) else none)
    {text : List Char} (rest : List Char)
    (written : text = joined (items.map compactChars) ++ ']' :: rest) :
    readItems (readValue limit) ']' text.length text =
      if ∀ item ∈ items, item.depth ≤ limit then some (items, rest) else none := by
  rw [readItems_joined_length (by decide) (by decide) some_item
    (fun item mem => (whole item mem).skipGap_compactChars_append)
    (fun item mem c mark tail => reads item mem _ (endsNumber_cons (.inl rfl) mark tail)) rest
    written, List.map_id']

theorem skipGap_fieldChars_append (field : String × Json) (tail : List Char) :
    skipGap (fieldChars field ++ tail) = fieldChars field ++ tail :=
  skipGap_cons_of_not_gap (by decide) _

/-- Written fields are read one by one, if the value of each of them is. -/
theorem readItems_fieldChars {α : Type} {fields : List (String × Json)} {read : String → Reader α}
    {value : String × Json → α} {fits : String × Json → Prop} [DecidablePred fits]
    (some_field : fields ≠ []) (whole : ∀ field ∈ fields, field.2.IsWhole)
    (reads : ∀ field ∈ fields, ∀ tail, EndsNumber tail →
      read field.1 (field.2.compactChars ++ tail) =
        if fits field then some (value field, tail) else none)
    {text : List Char} (rest : List Char)
    (written : text = joined (fields.map fieldChars) ++ '\x7d' :: rest) :
    readItems (readField read) '\x7d' text.length text =
      if ∀ field ∈ fields, fits field then
        some (fields.map fun field => (field.1, value field), rest)
      else none := by
  refine readItems_joined_length (by decide) (by decide) some_field
    (fun field _ => skipGap_fieldChars_append field) (fun field mem c mark tail => ?_) rest written
  rw [readField_fieldChars_append read (whole field mem),
    reads field mem _ (endsNumber_cons (.inr rfl) mark tail)]
  split_ifs <;> rfl

/-- The first item stands right after the opening bracket of a list that has one. -/
theorem exists_skipGap_items_eq_cons {items : List Json} (some_item : items ≠ [])
    (whole : ∀ item ∈ items, item.IsWhole) (rest : List Char) :
    ∃ c more, skipGap (joined (items.map compactChars) ++ rest) = c :: more ∧ c ≠ ']' := by
  obtain ⟨item, mem, tail, front⟩ := exists_skipGap_joined_eq some_item
    (fun item mem => (whole item mem).skipGap_compactChars_append) rest
  obtain ⟨c, more, written, -, other⟩ := (whole item mem).exists_compactChars_eq_cons
  exact ⟨c, more ++ tail, by rw [front, written, List.cons_append], other⟩

/-- A quote stands right after the opening brace of an object that has fields. -/
theorem exists_skipGap_fields_eq_cons {fields : List (String × Json)} (some_field : fields ≠ [])
    (rest : List Char) :
    ∃ more, skipGap (joined (fields.map fieldChars) ++ rest) = '"' :: more := by
  obtain ⟨field, -, tail, front⟩ := exists_skipGap_joined_eq some_field
    (fun field _ => skipGap_fieldChars_append field) rest
  exact ⟨_, front⟩

/-- A value is read back from its written form, unless it nests too deep. -/
theorem readValue_compactChars {value : Json} (whole : value.IsWhole) {limit : Nat}
    {rest : List Char} (ends : EndsNumber rest) :
    readValue limit (value.compactChars ++ rest) =
      if value.depth ≤ limit then some (value, rest) else none := by
  induction whole generalizing limit rest with
  | null => simp [compactChars, readValue, depth]
  | bool b => cases b <;> simp [compactChars, readValue, depth]
  | @int n low high =>
      obtain ⟨c, more, written, front⟩ := exists_toString_int_eq_cons n
      have flat : (int n).depth ≤ limit := Nat.zero_le limit
      rw [if_pos flat, compactChars, ← readNumber_toString_append low high ends, written]
      exact readValue_eq_readNumber front limit _
  | str s =>
      have flat : (str s).depth ≤ limit := Nat.zero_le limit
      rw [if_pos flat, compactChars, quoted, List.cons_append, readValue, readText_quoted,
        Option.map_some, String.ofList_toList]
  | @arr items all ih =>
      rw [compactChars_arr_append]
      cases limit with
      | zero => simp [readValue, depth]
      | succ limit =>
          rw [readValue]
          by_cases empty : items = []
          · subst empty
            simp [joined, skipGap_cons_of_not_gap, isGap, depth, itemsDepth]
          · obtain ⟨c, more, front, other⟩ := exists_skipGap_items_eq_cons empty all (']' :: rest)
            have read : readItems (readValue limit) ']' _ _ = _ :=
              readItems_compactChars empty all (fun item mem _ ends => ih item mem ends) rest rfl
            rw [front]
            split
            · exact absurd (List.cons.inj ‹_›).1 other
            · rw [read]
              simp only [depth_arr_le_succ_iff]
              split_ifs <;> rfl
  | @obj fields all ih =>
      rw [compactChars_obj_append]
      cases limit with
      | zero => simp [readValue, depth]
      | succ limit =>
          rw [readValue]
          by_cases empty : fields = []
          · subst empty
            simp [joined, skipGap_cons_of_not_gap, isGap, depth, fieldsDepth]
          · obtain ⟨more, front⟩ := exists_skipGap_fields_eq_cons empty ('\x7d' :: rest)
            have read : readItems (readField fun _ => readValue limit) '\x7d' _ _ = _ :=
              readItems_fieldChars empty all (fun field mem _ ends => ih field mem ends) rest rfl
            simp only [front, read, depth_obj_le_succ_iff]
            split_ifs <;> simp

theorem IsWhole.skipGap_compactChars {value : Json} (whole : value.IsWhole) :
    skipGap value.compactChars = value.compactChars := by
  simpa using whole.skipGap_compactChars_append []

/-- A document is read back, unless it nests too deep. -/
theorem parse?_compact {value : Json} (whole : value.IsWhole) :
    parse? value.compact = if value.depth ≤ depthLimit then some value else none := by
  have ends : EndsNumber [] := by simp [EndsNumber]
  have read : readValue depthLimit (value.compactChars ++ []) = _ :=
    readValue_compactChars whole ends
  rw [List.append_nil] at read
  rw [parse?, readAll?, compact, String.toList_ofList, whole.skipGap_compactChars, read]
  split_ifs <;> rfl

/-- A structure all of whose fields are known is read back, unless it nests too deep. -/
theorem parseStructure?_compact {names : List String} {fields : List (String × Json)}
    (known : ∀ field ∈ fields, field.1 ∈ names) (whole : (obj fields).IsWhole) :
    parseStructure? names (obj fields).compact =
      if (obj fields).depth ≤ depthLimit then some (obj fields) else none := by
  have all := whole.fields
  have written := compactChars_obj_append fields []
  have reads : ∀ field ∈ fields, ∀ tail, EndsNumber tail →
      readKnown names field.1 (field.2.compactChars ++ tail) =
        if field.2.depth ≤ depthLimit - 1 then some (some field.2, tail) else none := by
    intro field mem tail ends
    rw [readKnown, if_pos (by simpa using known field mem),
      readValue_compactChars (all field mem) ends]
    split_ifs <;> rfl
  rw [List.append_nil] at written
  rw [parseStructure?, readAll?, compact, String.toList_ofList, whole.skipGap_compactChars, written,
    readStructure]
  by_cases empty : fields = []
  · subst empty
    simp [joined, skipGap, isGap, depth, fieldsDepth, depthLimit]
  · obtain ⟨more, front⟩ := exists_skipGap_fields_eq_cons empty ['\x7d']
    have read := readItems_fieldChars empty all reads [] rfl
    have shallow_iff : (obj fields).depth ≤ depthLimit ↔
        ∀ field ∈ fields, field.2.depth ≤ depthLimit - 1 := depth_obj_le_succ_iff
    simp only [front, read, shallow_iff]
    by_cases shallow : ∀ field ∈ fields, field.2.depth ≤ depthLimit - 1
    · rw [if_pos shallow, if_pos shallow]
      simp [skipGap]
    · rw [if_neg shallow, if_neg shallow]
      rfl

end Joinery.Json
