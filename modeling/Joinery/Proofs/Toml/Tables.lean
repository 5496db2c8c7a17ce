import Joinery.Proofs.Toml.Lines

/-!
# Documents are read back

The statements of a written document build its tables up again, one after another: what has
been built stays, and every statement extends the table that was opened last.

Main statement: `Joinery.Toml.parse?_write?`.
-/

namespace Joinery.Toml

variable {key name : String} {node old : Node} {entries front : List (String × Node)}

theorem putEntry_of_notMem (fresh : key ∉ entries.map Prod.fst) :
    Table.putEntry key node entries = entries ++ [(key, node)] := by
  induction entries with
  | nil => rfl
  | cons entry rest ih =>
      rw [List.map_cons, List.mem_cons, not_or] at fresh
      rw [Table.putEntry, if_neg (Ne.symm fresh.1), ih fresh.2, List.cons_append]

theorem putEntry_append_singleton (fresh : key ∉ front.map Prod.fst) :
    Table.putEntry key node (front ++ [(key, old)]) = front ++ [(key, node)] := by
  induction front with
  | nil => exact if_pos rfl
  | cons entry rest ih =>
      rw [List.map_cons, List.mem_cons, not_or] at fresh
      rw [List.cons_append, Table.putEntry, if_neg (Ne.symm fresh.1), ih fresh.2, List.cons_append]

theorem lookup_of_notMem (fresh : key ∉ entries.map Prod.fst) : entries.lookup key = none := by
  rw [List.lookup_eq_none_iff]
  intro entry mem
  have other : key ≠ entry.1 := fun same => fresh (same ▸ List.mem_map_of_mem mem)
  simpa using other

theorem lookup_append_singleton (fresh : key ∉ front.map Prod.fst) :
    (front ++ [(key, node)]).lookup key = some node := by
  rw [List.lookup_append, lookup_of_notMem fresh]
  simp

/-- What changes the open table of a document changes its entries in their place. -/
def Opens (current : List String) (place : List (String × Node) → Table) : Prop :=
  ∀ change entries, (∀ changed, change ⟨.header, entries⟩ = some changed →
      changed.origin = .header) →
    (place entries).within false change current =
      (change ⟨.header, entries⟩).map fun changed => place changed.entries

theorem opens_document : Opens [] (Table.mk .header) := by
  intro change entries same
  rw [Table.within]
  cases changed : change ⟨.header, entries⟩ with
  | none => rfl
  | some table =>
      obtain ⟨origin, grown⟩ := table
      obtain rfl : origin = .header := same _ changed
      rfl

theorem opens_table (fresh : name ∉ front.map Prod.fst) :
    Opens [name] fun entries => ⟨.header, front ++ [(name, .table .header entries)]⟩ := by
  intro change entries same
  simp only [Table.within, Table.find?, lookup_append_singleton fresh, Bool.false_and,
    Bool.false_eq_true, if_false, Table.put, putEntry_append_singleton fresh]
  cases changed : change ⟨.header, entries⟩ with
  | none => rfl
  | some table =>
      obtain ⟨origin, grown⟩ := table
      obtain rfl : origin = .header := same _ changed
      rfl

theorem opens_item (fresh : name ∉ front.map Prod.fst) (tables : List (List (String × Node))) :
    Opens [name] fun entries => ⟨.header, front ++ [(name, .items (tables ++ [entries]))]⟩ := by
  intro change entries _
  simp only [Table.within, Table.find?, lookup_append_singleton fresh, List.getLast?_concat,
    List.dropLast_concat, Table.put, putEntry_append_singleton fresh]

/-- The nodes of entries. -/
def valueNodes (fields : List (String × Json)) : List (String × Node) :=
  fields.map fun field => (field.1, .value field.2)

/-- An entry with a new key comes last in the open table. -/
theorem extend_entry {current : List String} {place : List (String × Node) → Table}
    (opens : Opens current place) (fresh : key ∉ entries.map Prod.fst) (value : Json) :
    (place entries).extend current (.entry [key] value) =
      some (place (entries ++ [(key, .value value)]), current) := by
  have defined : Table.defineAt [] key value ⟨.header, entries⟩ =
      some ⟨.header, entries ++ [(key, .value value)]⟩ := by
    simp [Table.defineAt, Table.within, Table.define, Table.find?, lookup_of_notMem fresh,
      Table.put, putEntry_of_notMem fresh]
  have change : Table.splitName (fun path key => Table.defineAt path key value ⟨.header, entries⟩)
      [key] = some ⟨.header, entries ++ [(key, .value value)]⟩ := defined
  rw [Table.extend, opens, change]
  · rfl
  · intro changed same
    rw [change] at same
    obtain rfl := Option.some.inj same
    rfl

/-- The entries of a table come one after another behind those that it has. -/
theorem extendAll_entries {current : List String} {place : List (String × Node) → Table}
    (opens : Opens current place) (entries : List (String × Node)) {fields : List (String × Json)}
    (distinct : (entries.map Prod.fst ++ fields.map Prod.fst).Nodup) (later : List Statement) :
    (place entries).extendAll current (entryStatements fields ++ later) =
      (place (entries ++ valueNodes fields)).extendAll current later := by
  induction fields generalizing entries with
  | nil => simp [entryStatements, valueNodes]
  | cons field rest ih =>
      have fresh : field.1 ∉ entries.map Prod.fst := fun mem =>
        (List.nodup_append.mp distinct).2.2 _ mem _ (by simp) rfl
      have grown : ((entries ++ [(field.1, Node.value field.2)]).map Prod.fst ++
          rest.map Prod.fst).Nodup := by simpa using distinct
      rw [entryStatements, List.map_cons, List.cons_append, Table.extendAll,
        extend_entry opens fresh]
      dsimp only
      rw [← entryStatements, ih _ grown, valueNodes, valueNodes, List.map_cons, List.append_assoc,
        List.singleton_append]

/-- The entries of a table, as nodes. -/
def tableNodes : Json → List (String × Node)
  | .obj fields => valueNodes fields
  | _ => []

/-- The node of a section of a document. -/
def sectionNode : Json → Node
  | .obj fields => .table .header (valueNodes fields)
  | .arr items => .items (items.map tableNodes)
  | value => .value value

/-- A section with all its tables comes last in the document. -/
theorem extendAll_table (fresh : name ∉ front.map Prod.fst) {fields : List (String × Json)}
    (plain : PlainKeys fields) (current : List String) (later : List Statement) :
    (Table.mk .header front).extendAll current
        (tableStatements (.header [name]) (.obj fields) ++ later) =
      (Table.mk .header (front ++ [(name, sectionNode (.obj fields))])).extendAll [name] later := by
  have opened : (Table.mk .header front).extend current (.header [name]) =
      some (⟨.header, front ++ [(name, .table .header [])]⟩, [name]) := by
    simp [Table.extend, Table.splitName, Table.within, Table.openTable, Table.find?,
      lookup_of_notMem fresh, Table.put, putEntry_of_notMem fresh]
  have filled := extendAll_entries (opens_table fresh) [] plain.distinct later
  rw [tableStatements, List.cons_append, Table.extendAll, opened]
  exact filled

/-- Further tables of a list come last in it. -/
theorem extendAll_items (fresh : name ∉ front.map Prod.fst) {items : List Json}
    (plain : ∀ item ∈ items, ∃ inner, item = .obj inner ∧ PlainKeys inner)
    (tables : List (List (String × Node))) (current : List String) (later : List Statement) :
    (Table.mk .header (front ++ [(name, .items tables)])).extendAll current
        ((items.map (tableStatements (.item [name]))).flatten ++ later) =
      (Table.mk .header (front ++ [(name, .items (tables ++ items.map tableNodes))])).extendAll
        (if items = [] then current else [name]) later := by
  induction items generalizing tables current with
  | nil => simp
  | cons item rest ih =>
      obtain ⟨fields, rfl, keys⟩ := plain item List.mem_cons_self
      have opened : (Table.mk .header (front ++ [(name, .items tables)])).extend current
          (.item [name]) =
            some (⟨.header, front ++ [(name, .items (tables ++ [[]]))]⟩, [name]) := by
        simp [Table.extend, Table.splitName, Table.within, Table.openItem, Table.find?,
          lookup_append_singleton fresh, Table.put, putEntry_append_singleton fresh]
      have filled := extendAll_entries (opens_item fresh tables) [] keys.distinct
        ((rest.map (tableStatements (.item [name]))).flatten ++ later)
      have others := ih (fun other mem => plain other (List.mem_cons_of_mem _ mem))
        (tables ++ [valueNodes fields]) [name]
      rw [List.map_cons, List.flatten_cons, tableStatements, List.cons_append, List.cons_append,
        List.append_assoc, Table.extendAll, opened]
      dsimp only
      rw [filled, List.nil_append, others]
      simp [tableNodes]

/-- A field that is no entry becomes a section behind those that are there. -/
theorem extendAll_section {field : String × Json} (no_entry : isEntry field = false)
    (fresh : field.1 ∉ front.map Prod.fst) (table : ∀ inner, field.2 = .obj inner → PlainKeys inner)
    (item : ∀ items, field.2 = .arr items →
      ∀ item ∈ items, ∃ inner, item = .obj inner ∧ PlainKeys inner)
    (current : List String) (later : List Statement) :
    (Table.mk .header front).extendAll current ((sectionStatements field).flatten ++ later) =
      (Table.mk .header (front ++ [(field.1, sectionNode field.2)])).extendAll [field.1] later := by
  obtain ⟨name, value⟩ := field
  cases value with
  | obj fields =>
      rw [sectionStatements, List.flatten_singleton]
      exact extendAll_table fresh (table fields rfl) current later
  | arr items =>
      cases items with
      | nil => exact absurd no_entry (by simp [isEntry])
      | cons first rest =>
          have filled := extendAll_items fresh (item (first :: rest) rfl) [] current later
          obtain ⟨fields, rfl, -⟩ := item (first :: rest) rfl first List.mem_cons_self
          -- The first table of a list makes the list, as if it had been there, but empty.
          have opened : (Table.mk .header front).extend current (.item [name]) =
              (Table.mk .header (front ++ [(name, .items [])])).extend current (.item [name]) := by
            simp [Table.extend, Table.splitName, Table.within, Table.openItem, Table.find?,
              lookup_of_notMem fresh, lookup_append_singleton fresh, Table.put,
              putEntry_of_notMem fresh, putEntry_append_singleton fresh]
          simp only [List.map_cons, List.flatten_cons, tableStatements, List.cons_append,
            Table.extendAll] at filled
          simp only [sectionStatements, List.map_cons, List.flatten_cons, tableStatements,
            List.cons_append, Table.extendAll, opened]
          rw [filled, if_neg (List.cons_ne_nil _ _), List.nil_append]
          rfl
  | _ => exact absurd no_entry (by simp [isEntry])

/-- Whether a field is a section of its own. -/
def isSection (field : String × Json) : Bool := !isEntry field

theorem sectionStatements_of_isEntry {field : String × Json} (entry : isEntry field = true) :
    sectionStatements field = [] := by
  obtain ⟨name, value⟩ := field
  cases value with
  | obj fields => exact absurd entry (by simp [isEntry])
  | arr items =>
      cases items with
      | nil => rfl
      | cons first rest => exact absurd entry (by simp [isEntry])
  | _ => rfl

/-- The sections of a document come one after another. -/
theorem extendAll_sections {fields : List (String × Json)} (plain : IsPlainDocument fields)
    {some_fields : List (String × Json)} (among : ∀ field ∈ some_fields, field ∈ fields)
    (distinct : (front.map Prod.fst ++ (some_fields.filter isSection).map Prod.fst).Nodup)
    (current : List String) :
    (Table.mk .header front).extendAll current (some_fields.flatMap sectionStatements).flatten =
      some ⟨.header, front ++
        (some_fields.filter isSection).map fun field => (field.1, sectionNode field.2)⟩ := by
  induction some_fields generalizing front current with
  | nil => simp [Table.extendAll]
  | cons field rest ih =>
      have mem := among field List.mem_cons_self
      have others := fun other later => among other (List.mem_cons_of_mem field later)
      by_cases entry : isEntry field = true
      · have skipped : isSection field = false := by simp [isSection, entry]
        rw [List.filter_cons_of_neg (by simp [skipped])] at distinct ⊢
        rw [List.flatMap_cons, sectionStatements_of_isEntry entry, List.nil_append]
        exact ih others distinct current
      · have kept : isSection field = true := by simp [isSection, entry]
        rw [List.filter_cons_of_pos kept] at distinct ⊢
        have fresh : field.1 ∉ front.map Prod.fst := fun mem =>
          (List.nodup_append.mp distinct).2.2 _ mem _ (by simp) rfl
        have grown : ((front ++ [(field.1, sectionNode field.2)]).map Prod.fst ++
            (rest.filter isSection).map Prod.fst).Nodup := by simpa using distinct
        have opened := extendAll_section (by simpa using entry) fresh
          (fun inner same => plain.table field.1 inner (same ▸ mem))
          (fun items same => plain.item field.1 items (same ▸ mem)) current
          (rest.flatMap sectionStatements).flatten
        rw [List.flatMap_cons, List.flatten_append, opened, ih others grown]
        simp

theorem fields_valueNodes (fields : List (String × Json)) :
    Node.fields (valueNodes fields) = fields := by
  induction fields with
  | nil => rfl
  | cons field rest ih =>
      rw [valueNodes, List.map_cons, ← valueNodes, Node.fields, Node.toJson, ih]

theorem objects_tableNodes {items : List Json}
    (tables : ∀ item ∈ items, ∃ inner, item = .obj inner ∧ PlainKeys inner) :
    Node.objects (items.map tableNodes) = items := by
  induction items with
  | nil => rfl
  | cons item rest ih =>
      obtain ⟨fields, rfl, -⟩ := tables item List.mem_cons_self
      rw [List.map_cons, Node.objects, tableNodes, fields_valueNodes,
        ih fun other mem => tables other (List.mem_cons_of_mem _ mem)]

theorem toJson_sectionNode {value : Json} (item : ∀ items, value = .arr items →
    ∀ item ∈ items, ∃ inner, item = .obj inner ∧ PlainKeys inner) :
    (sectionNode value).toJson = value := by
  cases value with
  | obj fields => rw [sectionNode, Node.toJson, fields_valueNodes]
  | arr items => rw [sectionNode, Node.toJson, objects_tableNodes (item items rfl)]
  | _ => rfl

theorem fields_append (first second : List (String × Node)) :
    Node.fields (first ++ second) = Node.fields first ++ Node.fields second := by
  induction first with
  | nil => rfl
  | cons entry rest ih => rw [List.cons_append, Node.fields, ih, Node.fields, List.cons_append]

theorem fields_sectionNodes {fields : List (String × Json)}
    (item : ∀ field ∈ fields, ∀ items, field.2 = .arr items →
      ∀ item ∈ items, ∃ inner, item = .obj inner ∧ PlainKeys inner) :
    Node.fields (fields.map fun field => (field.1, sectionNode field.2)) = fields := by
  induction fields with
  | nil => rfl
  | cons field rest ih =>
      rw [List.map_cons, Node.fields, toJson_sectionNode (item field List.mem_cons_self),
        ih fun other mem => item other (List.mem_cons_of_mem field mem)]

/-- A document that can be written is read back, its entries before its sections. -/
theorem parse?_write? {fields : List (String × Json)} (plain : IsPlainDocument fields)
    {text : String} (written : write? (.obj fields) = some text) :
    parse? text = some (.obj (fields.filter isEntry ++ fields.filter isSection)) := by
  obtain ⟨chars, shown, rfl⟩ := Option.map_eq_some_iff.mp written
  have entries_distinct : ((fields.filter isEntry).map Prod.fst).Nodup :=
    plain.keys.distinct.sublist (List.filter_sublist.map _)
  have all_distinct : ((valueNodes (fields.filter isEntry)).map Prod.fst ++
      (fields.filter isSection).map Prod.fst).Nodup := by
    have all : (fields.filter isEntry ++ fields.filter isSection).Perm fields :=
      List.filter_append_perm isEntry fields
    have names : (valueNodes (fields.filter isEntry)).map Prod.fst =
        (fields.filter isEntry).map Prod.fst := by simp [valueNodes, Function.comp_def]
    rw [names, ← List.map_append]
    exact (all.map Prod.fst).nodup_iff.mpr plain.keys.distinct
  have entries := extendAll_entries opens_document [] entries_distinct
    (fields.flatMap sectionStatements).flatten
  have sections := extendAll_sections plain (fun _ mem => mem) all_distinct []
  have item : ∀ field ∈ fields.filter isSection, ∀ items, field.2 = .arr items →
      ∀ item ∈ items, ∃ inner, item = .obj inner ∧ PlainKeys inner := fun field mem items same =>
    plain.item field.1 items (same ▸ List.mem_of_mem_filter mem)
  rw [(reads_documentChars plain shown).parse?_ofList, Table.empty, documentStatements, entries,
    List.nil_append, sections, Option.map_some, Table.toJson, fields_append, fields_valueNodes,
    fields_sectionNodes item]

end Joinery.Toml
