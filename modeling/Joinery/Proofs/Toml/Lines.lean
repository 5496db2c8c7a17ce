import Joinery.Proofs.Toml.Values

/-!
# Lines of a document are read back

Each line that is written for an entry or a header is read as that statement, and a written
document as the statements of its lines, one after another.

Main statements: `Joinery.Toml.reads_documentChars`, `Joinery.Toml.Reads.parse?_ofList`.
-/

namespace Joinery.Toml

open Text

/-- A key that needs no quotes. -/
def IsBareKey (key : String) : Prop := key.toList ≠ [] ∧ ∀ c ∈ key.toList, isBare c = true

instance (key : String) : Decidable (IsBareKey key) :=
  decidable_of_iff (key.toList ≠ [] ∧ key.toList.all isBare = true)
    (and_congr_right' List.all_eq_true)

/-- Bare characters are none of those that give a document its layout. -/
theorem ne_of_isBare {c mark : Char} (bare : isBare c = true) (other : isBare mark = false) :
    c ≠ mark := by
  rintro rfl
  exact absurd bare (by simp [other])

theorem isGap_of_isBare {c : Char} (bare : isBare c = true) : isGap c = false := by
  simp [isGap, ne_of_isBare bare (show isBare ' ' = false by decide),
    ne_of_isBare bare (show isBare '\t' = false by decide)]

variable {key : String} {rest : List Char}

theorem IsBareKey.exists_cons (bare : IsBareKey key) :
    ∃ c more, key.toList = c :: more ∧ isBare c = true := by
  obtain ⟨c, more, written⟩ := List.exists_cons_of_ne_nil bare.1
  exact ⟨c, more, written, bare.2 c (written ▸ List.mem_cons_self)⟩

theorem readPart_append (bare : IsBareKey key) (stop : ∀ c ∈ rest.head?, isBare c = false) :
    readPart (key.toList ++ rest) = some (key, rest) := by
  have taken : (key.toList ++ rest).takeWhile isBare = key.toList := by
    rw [List.takeWhile_append_of_pos bare.2]
    cases rest with
    | nil => simp
    | cons c more => simp [stop c rfl]
  have left : (key.toList ++ rest).dropWhile isBare = rest := by
    rw [List.dropWhile_append_of_pos bare.2]
    cases rest with
    | nil => rfl
    | cons c more => simp [stop c rfl]
  have unquoted : readShort (key.toList ++ rest) = none := by
    obtain ⟨c, more, written, front⟩ := bare.exists_cons
    have double : c ≠ '"' := ne_of_isBare front (by decide)
    have single : c ≠ '\x27' := ne_of_isBare front (by decide)
    rw [written, List.cons_append]
    simp [readShort, double, single]
  rw [readPart, unquoted, taken, left]
  dsimp only
  split
  · exact absurd ‹_› bare.1
  · rw [String.ofList_toList]

/-- A key of one part ends before anything but a point. -/
theorem readKey_append (bare : IsBareKey key) (stop : ∀ c ∈ rest.head?, isBare c = false)
    (single : (skipGap rest).head? ≠ some '.') :
    readKey (key.toList ++ rest) = some ([key], skipGap rest) := by
  have front : skipGap (key.toList ++ rest) = key.toList ++ rest := by
    obtain ⟨c, more, written, front⟩ := bare.exists_cons
    rw [written]
    exact skipGap_cons_of_not_gap (isGap_of_isBare front) _
  rw [readKey, depthLimit, readParts, front, readPart_append bare stop]
  dsimp only
  split
  · exact absurd (by simp_all) single
  · rfl

/-- The characters are lines that read as these statements, whatever follows them. -/
structure Reads (chars : List Char) (statements : List Statement) : Prop where
  /-- Nothing would change if line ends were unified. -/
  unbroken : '\r' ∉ chars
  /-- Nothing would be taken for a byte order mark. -/
  unmarked : chars.head? ≠ some '\uFEFF'
  read : ∃ lines ≤ chars.length, ∀ budget rest,
    readStatements (budget + lines) (chars ++ rest) =
      (readStatements budget rest).map (statements ++ ·)

theorem Reads.nil : Reads [] [] where
  unbroken := List.not_mem_nil
  unmarked := by simp
  read := ⟨0, Nat.le_refl 0, fun budget rest => by simp⟩

theorem Reads.append {front back : List Char} {first second : List Statement}
    (before : Reads front first) (after : Reads back second) :
    Reads (front ++ back) (first ++ second) where
  unbroken := by
    rw [List.mem_append, not_or]
    exact ⟨before.unbroken, after.unbroken⟩
  unmarked := by
    cases front with
    | nil => exact after.unmarked
    | cons c more => exact before.unmarked
  read := by
    obtain ⟨lines, few, read⟩ := before.read
    obtain ⟨others, few', read'⟩ := after.read
    refine ⟨others + lines, by rw [List.length_append]; omega, fun budget rest => ?_⟩
    rw [← Nat.add_assoc, List.append_assoc, read, read', Option.map_map]
    simp [Function.comp_def]

/-- An empty line says nothing. -/
theorem Reads.break : Reads ['\n'] [] where
  unbroken := by decide
  unmarked := by decide
  read := by
    refine ⟨1, Nat.le_refl 1, fun budget rest => ?_⟩
    have line : skipGap ('\n' :: rest) = '\n' :: rest := skipGap_cons_of_not_gap (by decide) rest
    simp [readStatements, line]

theorem readLineEnd_break (rest : List Char) : readLineEnd ('\n' :: rest) = some rest := by
  have line : skipGap ('\n' :: rest) = '\n' :: rest := skipGap_cons_of_not_gap (by decide) rest
  simp [readLineEnd, line]

/-- A line with a statement on it reads as that statement. -/
theorem Reads.line {c : Char} {more : List Char} {statement : Statement}
    (unbroken : '\r' ∉ c :: more) (front : c ∉ [' ', '\t', '\n', '#', '\uFEFF'])
    (read : ∀ rest, readStatement (c :: more ++ '\n' :: rest) = some (statement, '\n' :: rest)) :
    Reads (c :: more ++ ['\n']) [statement] where
  unbroken := by simpa using unbroken
  unmarked := by
    rintro same
    exact front (by simp [Option.some.inj same])
  read := by
    simp only [List.mem_cons, List.not_mem_nil, or_false, not_or] at front
    refine ⟨1, by simp, fun budget rest => ?_⟩
    have start : skipGap (c :: more ++ ['\n'] ++ rest) = c :: (more ++ '\n' :: rest) := by
      rw [List.append_assoc]
      exact skipGap_cons_of_not_gap (by simp [isGap, front]) _
    have first := read rest
    rw [List.cons_append] at first
    rw [readStatements, start]
    split
    · exact absurd ‹_› (List.cons_ne_nil _ _)
    · exact absurd (List.cons.inj ‹_›).1 front.2.2.1
    · exact absurd (List.cons.inj ‹_›).1 front.2.2.2.1
    · rw [first]
      dsimp only
      rw [readLineEnd_break]
      rfl

theorem notMem_of_isBare {c : Char} (bare : isBare c = true) {marks : List Char}
    (others : (marks.all fun mark => !isBare mark) = true) : c ∉ marks := by
  intro mem
  have other := List.all_eq_true.mp others c mem
  simp [bare] at other

theorem IsBareKey.carriage_notMem (bare : IsBareKey key) : '\r' ∉ key.toList := fun mem =>
  absurd (bare.2 _ mem) (by decide)

theorem reads_entry {value : Json} {line : List Char} (bare : IsBareKey key)
    (written : entryChars key value = some line) : Reads line [.entry [key] value] := by
  obtain ⟨chars, shown, rfl⟩ := Option.map_eq_some_iff.mp written
  obtain ⟨c, more, front, first⟩ := bare.exists_cons
  have equals (rest : List Char) :
      readKey (key.toList ++ ' ' :: '=' :: rest) = some ([key], '=' :: rest) := by
    have gap : skipGap (' ' :: '=' :: rest) = '=' :: rest := by simp [skipGap, isGap]
    rw [readKey_append bare, gap]
    · rintro _ ⟨⟩
      decide
    · simp [gap]
  have read (rest : List Char) :
      readEntry (readValue 79) (key.toList ++ ' ' :: '=' :: ' ' :: (chars ++ '\n' :: rest)) =
        some (([key], value), '\n' :: rest) := by
    have gap : skipGap (' ' :: (chars ++ '\n' :: rest)) = chars ++ '\n' :: rest :=
      (List.dropWhile_cons_of_pos (by decide)).trans (skipGap_valueChars_append shown _)
    simp only [readEntry, equals, gap, readValue_append shown, Option.map_some]
  have statement (rest : List Char) :
      readStatement (key.toList ++ ' ' :: '=' :: ' ' :: (chars ++ '\n' :: rest)) =
        some (.entry [key] value, '\n' :: rest) := by
    have entry := read rest
    have bracket : c ≠ '[' := ne_of_isBare first (by decide)
    rw [front, List.cons_append] at entry ⊢
    simp [readStatement, bracket, depthLimit, entry]
  have unbroken : '\r' ∉ key.toList ++ ' ' :: '=' :: ' ' :: chars := by
    simp [bare.carriage_notMem, carriage_notMem_valueChars shown]
  have lines : Reads (key.toList ++ ' ' :: '=' :: ' ' :: chars ++ ['\n']) [.entry [key] value] := by
    rw [front, List.cons_append] at unbroken ⊢
    refine Reads.line unbroken (notMem_of_isBare first (by decide)) fun rest => ?_
    have same := statement rest
    rw [front] at same
    simpa using same
  simpa using lines

/-- The name of a header ends at its bracket. -/
theorem readKey_bracket (bare : IsBareKey key) (rest : List Char) :
    readKey (key.toList ++ ']' :: rest) = some ([key], ']' :: rest) := by
  have gap : skipGap (']' :: rest) = ']' :: rest := skipGap_cons_of_not_gap (by decide) rest
  rw [readKey_append bare, gap]
  · rintro _ ⟨⟩
    decide
  · simp [gap]

theorem reads_header (bare : IsBareKey key) :
    Reads (headerChars key ++ ['\n']) [.header [key]] := by
  obtain ⟨c, more, front, first⟩ := bare.exists_cons
  have bracket : c ≠ '[' := ne_of_isBare first (by decide)
  refine Reads.line ?_ (by decide) fun rest => ?_
  · simp [bare.carriage_notMem]
  · have name := readKey_bracket bare ('\n' :: rest)
    rw [front, List.cons_append] at name
    simp [front, readStatement, bracket, name]

theorem reads_itemHeader (bare : IsBareKey key) :
    Reads (itemHeaderChars key ++ ['\n']) [.item [key]] := by
  refine Reads.line ?_ (by decide) fun rest => ?_
  · simp [bare.carriage_notMem]
  · have name := readKey_bracket bare (']' :: '\n' :: rest)
    simp [readStatement, name]

/-- The keys of a table need no quotes and are all different. -/
structure PlainKeys (fields : List (String × Json)) : Prop where
  bare : ∀ field ∈ fields, IsBareKey field.1
  distinct : (fields.map Prod.fst).Nodup

/-- The keys of a document and of all its tables are plain. -/
structure IsPlainDocument (fields : List (String × Json)) : Prop where
  keys : PlainKeys fields
  table : ∀ name inner, (name, .obj inner) ∈ fields → PlainKeys inner
  item : ∀ name items, (name, .arr items) ∈ fields →
    ∀ item ∈ items, ∃ inner, item = .obj inner ∧ PlainKeys inner

/-- The statements of entries. -/
def entryStatements (fields : List (String × Json)) : List Statement :=
  fields.map fun field => .entry [field.1] field.2

/-- The statements of a table under a header. -/
def tableStatements (header : Statement) : Json → List Statement
  | .obj fields => header :: entryStatements fields
  | _ => []

/-- The statements of the tables of a field. -/
def sectionStatements : String × Json → List (List Statement)
  | (name, .obj fields) => [tableStatements (.header [name]) (.obj fields)]
  | (name, .arr items) => items.map (tableStatements (.item [name]))
  | _ => []

/-- The statements of a document: its entries first, then table by table. -/
def documentStatements (fields : List (String × Json)) : List Statement :=
  entryStatements (fields.filter isEntry) ++ (fields.flatMap sectionStatements).flatten

theorem reads_entries {fields : List (String × Json)} {lines : List Char}
    (bare : ∀ field ∈ fields, IsBareKey field.1) (written : entriesChars fields = some lines) :
    Reads lines (entryStatements fields) := by
  induction fields generalizing lines with
  | nil =>
      obtain rfl := Option.some.inj written
      exact Reads.nil
  | cons field rest ih =>
      rw [entriesChars] at written
      split at written
      · obtain rfl := Option.some.inj written
        exact (reads_entry (bare field List.mem_cons_self) ‹_›).append
          (ih (fun other mem => bare other (List.mem_cons_of_mem field mem)) ‹_›)
      · exact nomatch written

theorem reads_table {header : List Char} {statement : Statement} {table : Json} {chars : List Char}
    (first : Reads (header ++ ['\n']) [statement])
    (bare : ∀ fields, table = .obj fields → PlainKeys fields)
    (written : tableChars header table = some chars) :
    Reads chars (tableStatements statement table) := by
  cases table with
  | obj fields =>
      obtain ⟨lines, entries, rfl⟩ := Option.map_eq_some_iff.mp written
      simpa [tableStatements] using first.append (reads_entries (bare fields rfl).bare entries)
  | _ => exact nomatch written

/-- A block in front of others, after which there is an empty line. -/
theorem Reads.stacked_cons {block : List Char} {more : List (List Char)}
    {first second : List Statement} (front : Reads block first)
    (back : Reads (stacked more) second) : Reads (stacked (block :: more)) (first ++ second) := by
  cases more with
  | nil => simpa [stacked] using front.append back
  | cons next blocks => simpa [stacked] using (front.append Reads.break).append back

/-- Blocks with empty lines between them read one after another. -/
theorem reads_stacked {written : List (Option (List Char))} {tables : List (List Statement)}
    (each : List.Forall₂ (fun written statements => ∀ chars, written = some chars →
      Reads chars statements) written tables)
    {blocks : List (List Char)} (all : written.mapM id = some blocks) :
    Reads (stacked blocks) tables.flatten := by
  induction each generalizing blocks with
  | nil =>
      obtain rfl := Option.some.inj all
      exact Reads.nil
  | @cons block statements others later first rest ih =>
      simp only [List.mapM_cons, Option.bind_eq_bind, Option.bind_eq_some_iff, Option.pure_def,
        Option.some.injEq] at all
      obtain ⟨chars, shown, more, others_shown, rfl⟩ := all
      exact (first chars shown).stacked_cons (ih others_shown)

/-- Each table of a field is written as its statements. -/
theorem reads_tablesOf {field : String × Json} (bare : IsBareKey field.1)
    (table : ∀ inner, field.2 = .obj inner → PlainKeys inner)
    (item : ∀ items, field.2 = .arr items →
      ∀ item ∈ items, ∃ inner, item = .obj inner ∧ PlainKeys inner) :
    List.Forall₂ (fun written statements => ∀ chars, written = some chars → Reads chars statements)
      (tablesOf field) (sectionStatements field) := by
  obtain ⟨name, value⟩ := field
  cases value with
  | obj inner =>
      refine .cons (fun chars written => ?_) .nil
      refine reads_table (reads_header bare) (fun fields same => ?_) written
      exact table fields same
  | arr items =>
      rw [tablesOf, sectionStatements, List.forall₂_map_left_iff, List.forall₂_map_right_iff,
        List.forall₂_same]
      intro table mem chars written
      obtain ⟨inner, rfl, keys⟩ := item items rfl table mem
      refine reads_table (reads_itemHeader bare) (fun fields same => ?_) written
      exact Json.obj.inj same ▸ keys
  | _ => exact .nil

theorem reads_documentChars {fields : List (String × Json)} (plain : IsPlainDocument fields)
    {chars : List Char} (written : documentChars fields = some chars) :
    Reads chars (documentStatements fields) := by
  have each (some_fields : List (String × Json)) (among : ∀ field ∈ some_fields, field ∈ fields) :
      List.Forall₂ (fun written statements => ∀ chars, written = some chars →
        Reads chars statements) (some_fields.flatMap tablesOf)
        (some_fields.flatMap sectionStatements) := by
    induction some_fields with
    | nil => exact .nil
    | cons field rest ih =>
        have mem := among field List.mem_cons_self
        refine List.rel_append (reads_tablesOf (plain.keys.bare field mem) ?_ ?_)
          (ih fun other later => among other (List.mem_cons_of_mem field later))
        · intro inner same
          exact plain.table field.1 inner (same ▸ mem)
        · intro items same
          exact plain.item field.1 items (same ▸ mem)
  have top {lines : List Char} (entries : entriesChars (fields.filter isEntry) = some lines) :=
    reads_entries (fun field mem => plain.keys.bare field (List.mem_of_mem_filter mem)) entries
  rw [documentChars] at written
  split at written
  · rename_i tables entries blocks
    obtain rfl := Option.some.inj written
    exact (top entries).append (reads_stacked (each fields fun _ => id) blocks)
  · rename_i lines tables _ entries blocks
    obtain rfl := Option.some.inj written
    exact (top entries).stacked_cons (reads_stacked (each fields fun _ => id) blocks)
  · exact nomatch written

theorem unifyBreaks_of_notMem {cs : List Char} (unbroken : '\r' ∉ cs) : unifyBreaks cs = cs := by
  induction cs with
  | nil => rfl
  | cons c rest ih =>
      rw [List.mem_cons, not_or] at unbroken
      rw [unifyBreaks, ih unbroken.2]
      rintro _ rfl
      exact absurd rfl unbroken.1

theorem skipMark_of_head?_ne {cs : List Char} (unmarked : cs.head? ≠ some '\uFEFF') :
    skipMark cs = cs := by
  rw [skipMark]
  rintro _ rfl
  exact unmarked rfl

/-- What is written is read as its statements. -/
theorem Reads.parse?_ofList {chars : List Char} {statements : List Statement}
    (reads : Reads chars statements) :
    parse? (String.ofList chars) = (Table.extendAll .empty [] statements).map Table.toJson := by
  obtain ⟨lines, few, read⟩ := reads.read
  have all : readStatements chars.length chars = some statements := by
    have rest : readStatements (chars.length - lines) [] = some [] := by
      cases chars.length - lines <;> rfl
    have read := read (chars.length - lines) []
    rw [Nat.sub_add_cancel few, List.append_nil, rest] at read
    simpa using read
  simp only [parse?, String.toList_ofList, skipMark_of_head?_ne reads.unmarked,
    unifyBreaks_of_notMem reads.unbroken, all, Option.bind_some]

end Joinery.Toml
