import Joinery.Proofs.Json.RoundTrip

/-!
# Values written over several lines

The blanks and line ends between the parts of a value do not count. Main statement: a value
whose numbers are whole is read back from its form over several lines, as it is from its form
in one, unless it nests too deep.
-/

namespace Joinery.Json

variable {level limit : Nat}

/-- The written form of a field over several lines. -/
def prettyField (level : Nat) (field : String × Json) : List Char :=
  quoted field.1 ++ ':' :: ' ' :: prettyChars level field.2

theorem prettyItems_eq_map (items : List Json) :
    prettyItems level items = items.map (prettyChars level) := by
  induction items with
  | nil => rfl
  | cons item rest ih => rw [prettyItems, ih, List.map_cons]

theorem prettyFields_eq_map (fields : List (String × Json)) :
    prettyFields level fields = fields.map (prettyField level) := by
  induction fields with
  | nil => rfl
  | cons field rest ih => rw [prettyFields, ih, List.map_cons, prettyField]

theorem prettyChars_arr {items : List Json} (some_item : items ≠ []) :
    prettyChars level (arr items) = '[' :: (stacked (level + 1)
      (items.map (prettyChars (level + 1))) ++ lineStart level ++ [']']) := by
  cases items with
  | nil => exact absurd rfl some_item
  | cons item rest =>
      rw [prettyChars, prettyItems_eq_map]
      exact some_item

theorem prettyChars_obj {fields : List (String × Json)} (some_field : fields ≠ []) :
    prettyChars level (obj fields) = '\x7b' :: (stacked (level + 1)
      (fields.map (prettyField (level + 1))) ++ lineStart level ++ ['\x7d']) := by
  cases fields with
  | nil => exact absurd rfl some_field
  | cons field rest =>
      rw [prettyChars, prettyFields_eq_map]
      exact some_field

/-- A line start is all blanks. -/
theorem skipGap_lineStart_append (level : Nat) (rest : List Char) :
    skipGap (lineStart level ++ rest) = skipGap rest := by
  refine List.dropWhile_append_of_pos fun c mem => ?_
  rcases List.mem_cons.mp mem with rfl | blank
  · rfl
  · rw [(List.mem_replicate.mp blank).2]
    rfl

theorem endsNumber_lineStart (level : Nat) (rest : List Char) :
    EndsNumber (lineStart level ++ rest) := by
  rintro c ⟨⟩
  decide

/-- Every part is worth a line. -/
theorem length_le_stacked (level : Nat) (parts : List (List Char)) :
    parts.length ≤ (stacked level parts).length := by
  induction parts with
  | nil => exact Nat.le_refl 0
  | cons part rest ih =>
      cases rest with
      | nil => simp [stacked, lineStart]
      | cons next more =>
          simp only [stacked, lineStart, List.length_append, List.length_cons] at ih ⊢
          omega

/-- The first part stands in front, blanks apart. -/
theorem exists_skipGap_stacked_eq {α : Type} (level : Nat) {write : α → List Char} {xs : List α}
    (some_part : xs ≠ [])
    (starts : ∀ x ∈ xs, ∀ tail, skipGap (write x ++ tail) = write x ++ tail) (rest : List Char) :
    ∃ x ∈ xs, ∃ tail, skipGap (stacked level (xs.map write) ++ rest) = write x ++ tail := by
  obtain ⟨x, more, rfl⟩ := List.exists_cons_of_ne_nil some_part
  refine ⟨x, List.mem_cons_self, ?_⟩
  cases more with
  | nil =>
      refine ⟨rest, ?_⟩
      rw [List.map_singleton, stacked, List.append_assoc, skipGap_lineStart_append,
        starts x List.mem_cons_self]
  | cons next later =>
      refine ⟨',' :: (stacked level ((next :: later).map write) ++ rest), ?_⟩
      rw [List.map_cons, stacked, List.append_assoc, List.append_assoc, List.cons_append,
        skipGap_lineStart_append, starts x List.mem_cons_self]
      exact List.cons_ne_nil _ _

/-- Parts on lines of their own are read one by one, if each of them is. -/
theorem readItems_stacked {α β : Type} {item : Reader β} {write : α → List Char} {value : α → β}
    {close : Char} (notComma : close ≠ ',') (closes : isGap close = false) {xs : List α}
    (some_part : xs ≠ [])
    (starts : ∀ x ∈ xs, ∀ tail, skipGap (write x ++ tail) = write x ++ tail)
    (reads : ∀ x ∈ xs, ∀ tail, EndsNumber tail → item (write x ++ tail) = some (value x, tail))
    {budget : Nat} (enough : xs.length ≤ budget) (last : Nat) (rest : List Char) :
    readItems item close budget (stacked level (xs.map write) ++ (lineStart last ++ close :: rest))
      = some (xs.map value, rest) := by
  induction xs generalizing budget with
  | nil => exact absurd rfl some_part
  | cons x more ih =>
      cases budget with
      | zero => exact absurd enough (by simp)
      | succ budget =>
          have first := starts x List.mem_cons_self
          have read := reads x List.mem_cons_self
          cases more with
          | nil =>
              rw [List.map_singleton, stacked, List.append_assoc, readItems,
                skipGap_lineStart_append, first, read _ (endsNumber_lineStart last _)]
              simp [skipGap_lineStart_append, skipGap_cons_of_not_gap closes, notComma]
          | cons next later =>
              have tail := ih (List.cons_ne_nil _ _)
                (fun y mem => starts y (List.mem_cons_of_mem x mem))
                (fun y mem => reads y (List.mem_cons_of_mem x mem)) (Nat.le_of_succ_le_succ enough)
              have comma : isGap ',' = false := by decide
              have ends (more : List Char) : EndsNumber (',' :: more) := by
                rintro c ⟨⟩
                decide
              rw [List.map_cons, stacked, List.append_assoc, List.append_assoc, List.cons_append,
                readItems, skipGap_lineStart_append, first, read _ (ends _)]
              · simp only [skipGap_cons_of_not_gap comma, if_true, tail]
                rfl
              · exact List.cons_ne_nil _ _

/-- The number of characters is a budget that suffices for the parts among them. -/
theorem readItems_stacked_length {α β : Type} (level : Nat) {item : Reader β}
    {write : α → List Char} {value : α → β} {close : Char} (notComma : close ≠ ',')
    (closes : isGap close = false) {xs : List α} (some_part : xs ≠ [])
    (starts : ∀ x ∈ xs, ∀ tail, skipGap (write x ++ tail) = write x ++ tail)
    (reads : ∀ x ∈ xs, ∀ tail, EndsNumber tail → item (write x ++ tail) = some (value x, tail))
    (last : Nat) (rest : List Char) {text : List Char}
    (written : text = stacked level (xs.map write) ++ (lineStart last ++ close :: rest)) :
    readItems item close text.length text = some (xs.map value, rest) := by
  have enough : xs.length ≤ text.length := by
    have parts := length_le_stacked level (xs.map write)
    rw [List.length_map] at parts
    rw [written, List.length_append]
    exact Nat.le_add_right_of_le parts
  rw [written] at enough ⊢
  exact readItems_stacked notComma closes some_part starts reads enough last rest

/-- No blank and no closing bracket stands in front of a value. -/
theorem IsWhole.exists_prettyChars_eq_cons {value : Json} (whole : value.IsWhole) (level : Nat) :
    ∃ c more, value.prettyChars level = c :: more ∧ isGap c = false ∧ c ≠ ']' := by
  cases value with
  | arr items => cases items <;> exact ⟨_, _, rfl, by decide, by decide⟩
  | obj fields => cases fields <;> exact ⟨_, _, rfl, by decide, by decide⟩
  | _ => exact whole.exists_compactChars_eq_cons

theorem IsWhole.skipGap_prettyChars_append {value : Json} (whole : value.IsWhole) (level : Nat)
    (tail : List Char) :
    skipGap (value.prettyChars level ++ tail) = value.prettyChars level ++ tail := by
  obtain ⟨c, more, written, mark, -⟩ := whole.exists_prettyChars_eq_cons level
  rw [written]
  exact skipGap_cons_of_not_gap mark _

theorem skipGap_prettyField_append (field : String × Json) (tail : List Char) :
    skipGap (prettyField level field ++ tail) = prettyField level field ++ tail :=
  skipGap_cons_of_not_gap (by decide) _

theorem readField_prettyField_append {read : Reader Json} {field : String × Json}
    (whole : field.2.IsWhole) (tail : List Char) :
    readField (fun _ => read) (prettyField level field ++ tail) =
      (read (field.2.prettyChars level ++ tail)).map fun r => ((field.1, r.1), r.2) := by
  have colon (rest : List Char) : skipGap (':' :: rest) = ':' :: rest :=
    skipGap_cons_of_not_gap (by decide) rest
  have blank (rest : List Char) : skipGap (' ' :: rest) = skipGap rest := rfl
  rw [prettyField, quoted, List.cons_append, List.cons_append, readField, List.append_assoc,
    List.cons_append, List.cons_append, readText_quoted]
  simp only [colon, blank, String.ofList_toList, whole.skipGap_prettyChars_append]

/-- A value that is written in one line at any level is read back. -/
theorem readValue_of_one_line {value : Json} (whole : value.IsWhole)
    (shallow : value.depth ≤ limit) {rest : List Char} (ends : EndsNumber rest)
    (flat : value.prettyChars level = value.compactChars) :
    readValue limit (value.prettyChars level ++ rest) = some (value, rest) := by
  rw [flat, readValue_compactChars whole ends, if_pos shallow]

/-- A value is read back from its form over several lines, unless it nests too deep. -/
theorem readValue_prettyChars {value : Json} (whole : value.IsWhole)
    (shallow : value.depth ≤ limit) {rest : List Char} (ends : EndsNumber rest) :
    readValue limit (value.prettyChars level ++ rest) = some (value, rest) := by
  induction whole generalizing level limit rest with
  | null => exact readValue_of_one_line .null shallow ends rfl
  | bool b => exact readValue_of_one_line (.bool b) shallow ends rfl
  | str s => exact readValue_of_one_line (.str s) shallow ends rfl
  | int low high => exact readValue_of_one_line (.int low high) shallow ends rfl
  | @arr items all ih =>
      by_cases empty : items = []
      · subst empty
        exact readValue_of_one_line (.arr all) shallow ends rfl
      · obtain ⟨limit, rfl⟩ : ∃ less, limit = less + 1 :=
          Nat.exists_eq_add_one.mpr (Nat.lt_of_lt_of_le (Nat.succ_pos _) shallow)
        rw [depth_arr_le_succ_iff] at shallow
        have starts : ∀ item ∈ items, ∀ tail, skipGap (item.prettyChars (level + 1) ++ tail) =
            item.prettyChars (level + 1) ++ tail :=
          fun item mem => (all item mem).skipGap_prettyChars_append _
        obtain ⟨item, mem, tail, front⟩ := exists_skipGap_stacked_eq (level + 1) empty starts
          (lineStart level ++ ']' :: rest)
        obtain ⟨c, more, written, -, other⟩ := (all item mem).exists_prettyChars_eq_cons (level + 1)
        rw [written, List.cons_append] at front
        have read : readItems (readValue limit) ']' _ _ = some (items.map id, rest) :=
          readItems_stacked_length (level + 1) (by decide) (by decide) empty starts
            (fun item mem tail ends => ih item mem (shallow item mem) ends) level rest rfl
        rw [prettyChars_arr empty, List.cons_append, List.append_assoc, List.append_assoc,
          List.singleton_append, readValue, front]
        split
        · exact absurd (List.cons.inj ‹_›).1 other
        · rw [read, List.map_id]
          rfl
  | @obj fields all ih =>
      by_cases empty : fields = []
      · subst empty
        exact readValue_of_one_line (.obj all) shallow ends rfl
      · obtain ⟨limit, rfl⟩ : ∃ less, limit = less + 1 :=
          Nat.exists_eq_add_one.mpr (Nat.lt_of_lt_of_le (Nat.succ_pos _) shallow)
        rw [depth_obj_le_succ_iff] at shallow
        have starts : ∀ field ∈ fields, ∀ tail, skipGap (prettyField (level + 1) field ++ tail) =
            prettyField (level + 1) field ++ tail := fun field _ => skipGap_prettyField_append field
        obtain ⟨field, -, tail, front⟩ := exists_skipGap_stacked_eq (level + 1) empty starts
          (lineStart level ++ '\x7d' :: rest)
        have reads : ∀ field ∈ fields, ∀ tail, EndsNumber tail →
            readField (fun _ => readValue limit) (prettyField (level + 1) field ++ tail) =
              some (id field, tail) := by
          intro field mem tail ends
          rw [readField_prettyField_append (all field mem), ih field mem (shallow field mem) ends]
          rfl
        have read : readItems (readField fun _ => readValue limit) '\x7d' _ _ =
            some (fields.map id, rest) :=
          readItems_stacked_length (level + 1) (by decide) (by decide) empty starts reads level rest
            rfl
        rw [prettyField, quoted, List.cons_append, List.cons_append] at front
        rw [prettyChars_obj empty, List.cons_append, List.append_assoc, List.append_assoc,
          List.singleton_append, readValue, front]
        rw [read, List.map_id]
        rfl

/-- A document over several lines is read back, unless it nests too deep. -/
theorem parse?_pretty {value : Json} (whole : value.IsWhole) (shallow : value.depth ≤ depthLimit) :
    parse? (value.pretty ++ "\n") = some value := by
  have ends : EndsNumber ['\n'] := by
    rintro c ⟨⟩
    decide
  rw [parse?, readAll?, pretty, String.toList_append, String.toList_ofList]
  have start := whole.skipGap_prettyChars_append 0 ['\n']
  have read : readValue depthLimit (value.prettyChars 0 ++ ['\n']) = some (value, ['\n']) :=
    readValue_prettyChars whole shallow ends
  have text : "\n".toList = ['\n'] := rfl
  rw [text, start, read]
  rfl

end Joinery.Json
