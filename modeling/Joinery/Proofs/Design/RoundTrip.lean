import Joinery.Design
import Joinery.Proofs.Json.RoundTrip
import Joinery.Proofs.Json.Structures
import Joinery.Proofs.Timestamp.RoundTrip

/-!
# Stored designs are read as what was written

The document of a stored design is read back field by field, whether the store gives the id
as a text or as a number of 64 bits, as long as the data of the design nests no deeper than
documents may. A document that gives a field twice is refused, and no record is without an
id.

Main statement: `Joinery.StoredDesign.documents_survive`.
-/

namespace Joinery

open Json

/-- The data is in normal form, all numbers in it are whole and of 64 bits, and the point in
time exists. -/
structure Design.IsExchanged (design : Design) : Prop where
  normal : design.data.sorted = design.data
  whole : design.data.IsWhole
  created : design.createdAt.IsCivil

/-- How deep the data of a design may nest. -/
def Design.depthLimit : Nat := 126

theorem isWhole_optionalStr (text : Option String) : (optionalStr text).IsWhole := by
  cases text <;> constructor

theorem depth_optionalStr (text : Option String) : (optionalStr text).depth = 0 := by
  cases text <;> rfl

theorem asOptionalText_optionalStr (text : Option String) :
    asOptionalText (optionalStr text) = some text := by
  cases text <;> rfl

theorem isWhole_int64 (n : Int64) : (Json.int n.toInt).IsWhole := by
  have low := n.le_toInt
  have high := n.toInt_lt
  exact .int (by omega) (by omega)

variable {design : Design}

theorem Design.IsExchanged.isWhole_fields (exchanged : design.IsExchanged) :
    ∀ field ∈ design.fields, field.2.IsWhole := by
  simp only [Design.fields, List.forall_mem_cons, List.not_mem_nil, false_imp_iff, implies_true,
    and_true]
  exact ⟨.str _, .str _, exchanged.whole, isWhole_int64 _, .str _, isWhole_optionalStr _,
    isWhole_optionalStr _, .str _⟩

/-- Only the data of a design nests. -/
theorem Design.depth_fields_le_iff {limit : Nat} :
    (∀ field ∈ design.fields, field.2.depth ≤ limit) ↔ design.data.depth ≤ limit := by
  simp [Design.fields, depth, depth_optionalStr]

/-- The fields of a document give the design back. -/
theorem Design.ofGiven_eq_some (exchanged : design.IsExchanged) {given : Given}
    (all : ∀ field ∈ design.fields, given field.1 = some field.2) :
    ofGiven given = some design := by
  simp only [fields, List.forall_mem_cons, List.not_mem_nil, false_imp_iff, implies_true,
    and_true] at all
  obtain ⟨name, prompt, data, price, glbUrl, dxfUrl, thumbnailUrl, createdAt⟩ := all
  have whole_price : asInt64 (.int design.price.toInt) = some design.price :=
    (int64?_eq_some_iff _ _).mpr rfl
  simp [ofGiven, required, withDefault, name, prompt, data, price, glbUrl, dxfUrl, thumbnailUrl,
    createdAt, asText, asOptionalText_optionalStr, whole_price, exchanged.normal,
    Timestamp.ofString?_text exchanged.created]

theorem Design.mem_fieldNames : ∀ field ∈ design.fields, field.1 ∈ fieldNames := by
  simp [fields, fieldNames]

theorem Design.ofText?_compact (exchanged : design.IsExchanged) :
    Design.ofText? design.toJson.compact =
      if design.data.depth ≤ depthLimit then some design else none := by
  have distinct : (design.fields.map Prod.fst).Nodup := show fieldNames.Nodup by decide
  obtain ⟨given, found, all⟩ := exists_givenByName fieldNames distinct
  have shallow : (obj design.fields).depth ≤ Json.depthLimit ↔ design.data.depth ≤ depthLimit :=
    depth_obj_le_succ_iff.trans depth_fields_le_iff
  rw [ofText?, toJson, parseStructure?_compact mem_fieldNames (.obj exchanged.isWhole_fields)]
  simp only [shallow]
  split_ifs
  · have read : Design.ofJson? (obj design.fields) = Design.ofGiven given := by
      rw [ofJson?, Json.given, found, Option.bind_some]
    have same := ofGiven_eq_some exchanged fun field mem => all field mem (mem_fieldNames field mem)
    rw [Option.bind_some, read, same]
  · rfl

theorem append_ofList_ne_empty (front : String) {cs : List Char} (some_char : cs ≠ []) :
    front ++ String.ofList cs ≠ "" := by
  intro empty
  have chars := congrArg String.toList empty
  simp [some_char] at chars

theorem Binary64.scientificText_ne_empty (x : Binary64) : x.scientificText ≠ "" := by
  rw [scientificText]
  generalize x.shortest Rounding.halfEven = found
  obtain ⟨shortest, exponent⟩ := found
  by_cases zero : x.isZero = true
  · rw [if_pos zero]
    exact append_ofList_ne_empty x.signText (List.cons_ne_nil '0' ['.', '0'])
  · rw [if_neg zero]
    apply append_ofList_ne_empty
    have digits : Nat.toDigits 10 shortest ≠ [] := Nat.toDigits_ne_nil
    dsimp only
    split_ifs
    · simp
    · simp
    · simp
    · split
      · exact List.cons_ne_nil _ _
      · exact List.cons_ne_nil _ _
      · exact absurd ‹_› digits

namespace Artifacts

/-- The fields of the document of artifacts. -/
def fields (artifacts : Artifacts) : List (String × Json) :=
  [("glb_url", .str artifacts.glbUrl), ("dxf_url", optionalStr artifacts.dxfUrl)]

theorem isWhole_fields (artifacts : Artifacts) : ∀ field ∈ artifacts.fields, field.2.IsWhole := by
  simp only [fields, List.forall_mem_cons, List.not_mem_nil, false_imp_iff, implies_true, and_true]
  exact ⟨.str _, isWhole_optionalStr _⟩

/-- The document of artifacts is read back, whatever they are. -/
theorem ofText?_compact (artifacts : Artifacts) :
    ofText? artifacts.toJson.compact = some artifacts := by
  have known : ∀ field ∈ artifacts.fields, field.1 ∈ fieldNames := by simp [fields, fieldNames]
  have shallow : (obj artifacts.fields).depth ≤ depthLimit := by
    simp [fields, depth, fieldsDepth, depth_optionalStr, depthLimit]
  have distinct : (artifacts.fields.map Prod.fst).Nodup := show fieldNames.Nodup by decide
  obtain ⟨given, found, all⟩ := exists_givenByName fieldNames distinct
  have glbUrl : given "glb_url" = _ := all _ List.mem_cons_self (by simp [fieldNames])
  have dxfUrl : given "dxf_url" = _ :=
    all _ (List.mem_cons_of_mem _ List.mem_cons_self) (by simp [fieldNames])
  have parsed := parseStructure?_compact known (.obj artifacts.isWhole_fields)
  rw [if_pos shallow] at parsed
  have decoded : Artifacts.ofJson? (obj artifacts.fields) = some artifacts := by
    simp [ofJson?, Json.given, found, required, withDefault, glbUrl, dxfUrl, asText,
      asOptionalText_optionalStr]
  rw [ofText?, toJson, ← fields, parsed, Option.bind_some, decoded]

end Artifacts

namespace StoredDesign

/-- The fields of a document that gives an id. -/
def fieldsWith (id : Json) (design : Design) : List (String × Json) := ("id", id) :: design.fields

theorem nodup_fieldsWith (id : Json) (design : Design) :
    ((fieldsWith id design).map Prod.fst).Nodup :=
  show ("id" :: Design.fieldNames).Nodup by decide

theorem isWhole_fieldsWith (exchanged : design.IsExchanged) {id : Json} (whole : id.IsWhole) :
    (obj (fieldsWith id design)).IsWhole :=
  .obj (List.forall_mem_cons.mpr ⟨whole, exchanged.isWhole_fields⟩)

/-- Only the data of a stored design nests. -/
theorem depth_fieldsWith_le_iff {id : Json} (flat : id.depth = 0) :
    (obj (fieldsWith id design)).depth ≤ depthLimit ↔
      design.data.depth ≤ Design.depthLimit := by
  have own : (∀ field ∈ fieldsWith id design, field.2.depth ≤ Design.depthLimit) ↔
      design.data.depth ≤ Design.depthLimit := by
    rw [fieldsWith, List.forall_mem_cons, flat, Design.depth_fields_le_iff]
    exact and_iff_right (Nat.zero_le _)
  exact depth_obj_le_succ_iff.trans own

/-- An object with an id and the fields of a design is a stored design. -/
theorem ofJson?_fieldsWith (exchanged : design.IsExchanged) {id : Json} {text : String}
    (read : readId id = some text) :
    StoredDesign.ofJson? (obj (fieldsWith id design)) = some ⟨text, design⟩ := by
  have distinct := nodup_fieldsWith id design
  obtain ⟨ids, id_found, id_given⟩ := exists_givenByName ["id"] distinct
  obtain ⟨given, found, all⟩ := exists_givenByName Design.fieldNames distinct
  have id_field : ids "id" = some id := id_given ("id", id) List.mem_cons_self (by simp)
  have same : Design.ofGiven given = some design := by
    refine Design.ofGiven_eq_some exchanged fun field mem => ?_
    exact all field (List.mem_cons_of_mem _ mem) (Design.mem_fieldNames field mem)
  simp [ofJson?, id_found, found, required, id_field, read, same]

/-- A document with an id is read back with what the id is read as. -/
theorem ofText?_fieldsWith (exchanged : design.IsExchanged) {id : Json} {text : String}
    (whole : id.IsWhole) (flat : id.depth = 0) (read : readId id = some text) :
    ofText? (obj (fieldsWith id design)).compact =
      if design.data.depth ≤ Design.depthLimit then some ⟨text, design⟩ else none := by
  rw [ofText?, parse?_compact (isWhole_fieldsWith exchanged whole)]
  simp only [depth_fieldsWith_le_iff flat]
  split_ifs
  · exact ofJson?_fieldsWith exchanged read
  · rfl

theorem readId_str {id : String} (named : id ≠ "") : readId (.str id) = some id := by
  rw [readId, if_neg]
  rw [String.isEmpty_iff]
  exact named

theorem readId_ne_empty {value : Json} {id : String} (read : readId value = some id) : id ≠ "" := by
  cases value with
  | str s =>
      rw [readId] at read
      split at read
      · exact nomatch read
      · rintro rfl
        obtain rfl := Option.some.inj read
        exact absurd rfl ‹_›
  | int n =>
      obtain rfl := Option.some.inj read
      obtain ⟨c, more, written, -⟩ := Text.exists_toString_int_eq_cons n
      intro empty
      rw [empty] at written
      exact nomatch written
  | real x =>
      obtain rfl := Option.some.inj read
      exact x.scientificText_ne_empty
  | _ => exact nomatch read

theorem id_ne_empty_of_ofText? {text : String} {stored : StoredDesign}
    (read : ofText? text = some stored) : stored.id ≠ "" := by
  obtain ⟨value, -, decoded⟩ := Option.bind_eq_some_iff.mp read
  cases value with
  | obj fields =>
      simp only [ofJson?, Option.bind_eq_bind, Option.bind_eq_some_iff] at decoded
      obtain ⟨ids, -, given, -, id, found, design, -, same⟩ := decoded
      obtain ⟨value, -, read_id⟩ := Option.bind_eq_some_iff.mp found
      obtain rfl := Option.some.inj same
      exact readId_ne_empty read_id
  | _ => exact nomatch decoded

/-- A document in which a field of a stored design occurs twice is refused. -/
theorem ofText?_of_isRepeated {text name : String} {fields : List (String × Json)}
    (parsed : parse? text = some (obj fields)) (known : name ∈ "id" :: Design.fieldNames)
    (twice : isRepeated fields name = true) : ofText? text = none := by
  rw [ofText?, parsed, Option.bind_some, ofJson?]
  rcases List.mem_cons.mp known with rfl | known
  · rw [givenByName_of_isRepeated (List.mem_singleton.mpr rfl) twice]
    rfl
  · rw [givenByName_of_isRepeated known twice]
    cases givenByName ["id"] fields <;> rfl

/-- A field put once more among those of a document spoils the document. -/
theorem ofText?_insert (exchanged : design.IsExchanged) {id value : Json} (whole_id : id.IsWhole)
    (whole : value.IsWhole) {name : String} {before after : List (String × Json)}
    (parts : before ++ after = fieldsWith id design)
    (mem : name ∈ (fieldsWith id design).map Prod.fst) :
    ofText? (obj (before ++ (name, value) :: after)).compact = none := by
  have all := (isWhole_fieldsWith exchanged whole_id).fields
  have known : name ∈ "id" :: Design.fieldNames := mem
  rw [← parts] at all mem
  have parsed : (obj (before ++ (name, value) :: after)).IsWhole := by
    refine .obj fun field mem => ?_
    rcases List.mem_append.mp mem with front | back
    · exact all field (List.mem_append_left _ front)
    · rcases List.mem_cons.mp back with rfl | back
      · exact whole
      · exact all field (List.mem_append_right _ back)
  by_cases shallow : (obj (before ++ (name, value) :: after)).depth ≤ depthLimit
  · exact ofText?_of_isRepeated ((parse?_compact parsed).trans (if_pos shallow)) known
      (isRepeated_insert mem)
  · rw [ofText?, parse?_compact parsed, if_neg shallow]
    rfl

/-- A stored design is read from its document as it was, exactly if its data nests no deeper
than documents may, and so it is if the store gives the id as a number of 64 bits. Whatever
is read has an id, and a field that is given twice spoils a document, whatever it is and
wherever it stands. Designs without an id and artifacts are read as they were, too. -/
theorem documents_survive {stored : StoredDesign} (named : stored.id ≠ "")
    (exchanged : stored.design.IsExchanged) :
    ofText? stored.toJson.compact =
      (if stored.design.data.depth ≤ 126 then some stored else none) ∧
    (∀ n : Int, -9223372036854775808 ≤ n → n < 18446744073709551616 →
      ofText? (obj (("id", .int n) :: stored.design.fields)).compact =
        if stored.design.data.depth ≤ 126 then some { stored with id := toString n } else none) ∧
    (∀ text other, ofText? text = some other → other.id ≠ "") ∧
    (∀ text fields, parse? text = some (obj fields) →
      (∃ name ∈ "id" :: Design.fieldNames, isRepeated fields name = true) → ofText? text = none) ∧
    (∀ before after, before ++ after = ("id", .str stored.id) :: stored.design.fields →
      ∀ name ∈ "id" :: Design.fieldNames, ∀ value, value.IsWhole →
        ofText? (obj (before ++ (name, value) :: after)).compact = none) ∧
    Design.ofText? stored.design.toJson.compact =
      (if stored.design.data.depth ≤ 126 then some stored.design else none) ∧
    ∀ artifacts : Artifacts, Artifacts.ofText? artifacts.toJson.compact = some artifacts := by
  refine ⟨?_, fun n low high => ?_, fun text other => id_ne_empty_of_ofText?, ?_, ?_,
    Design.ofText?_compact exchanged, Artifacts.ofText?_compact⟩
  · exact ofText?_fieldsWith exchanged (.str _) rfl (readId_str named)
  · exact ofText?_fieldsWith exchanged (.int low high) rfl rfl
  · rintro text fields parsed ⟨name, known, twice⟩
    exact ofText?_of_isRepeated parsed known twice
  · intro before after parts name known value whole
    exact ofText?_insert exchanged (.str _) whole parts known

/-- A shelf with numbers at the ends of their ranges and a text that needs escapes. -/
def shelf : Design where
  name := "Shelf \"Hall\"\n"
  prompt := "M1(1500,730,500)b"
  data := .arr [.int (-9223372036854775808), .int 18446744073709551615, .str "\x00\\"]
  price := -1
  glbUrl := ""
  dxfUrl := none
  thumbnailUrl := some "é"
  createdAt := ⟨⟨0, 2, 29⟩, 1439, 60, 1000⟩

theorem isExchanged_shelf : shelf.IsExchanged where
  normal := rfl
  whole := by
    refine .arr ?_
    simp only [List.forall_mem_cons, List.not_mem_nil, false_imp_iff, implies_true, and_true]
    exact ⟨.int (by decide) (by decide), .int (by decide) (by decide), .str _⟩
  created := ⟨by decide, by decide, by decide, by decide⟩

theorem documents_survive_shelf :
    ("cfg-1" ≠ "" ∧ shelf.IsExchanged) ∧
      ofText? (StoredDesign.toJson ⟨"cfg-1", shelf⟩).compact = some ⟨"cfg-1", shelf⟩ :=
  ⟨⟨by decide, isExchanged_shelf⟩, (documents_survive (by decide) isExchanged_shelf).1⟩

/-- Lists within each other. -/
def nested : Nat → Json
  | 0 => .arr []
  | levels + 1 => .arr [nested levels]

theorem isWhole_nested (levels : Nat) : (nested levels).IsWhole := by
  induction levels with
  | zero => exact .arr (fun _ mem => nomatch mem)
  | succ levels ih => exact .arr (fun _ mem => (List.mem_singleton.mp mem) ▸ ih)

theorem sorted_nested (levels : Nat) : (nested levels).sorted = nested levels := by
  induction levels with
  | zero => rfl
  | succ levels ih => rw [nested, sorted, sortedItems, sortedItems, ih]

theorem depth_nested (levels : Nat) : (nested levels).depth = levels + 1 := by
  induction levels with
  | zero => rfl
  | succ levels ih =>
      rw [nested, depth, itemsDepth, itemsDepth, ih, Nat.max_eq_left (Nat.zero_le _)]

/-- A number beyond 64 bits is no id as it stands, and data that nests too deep is not read
back. -/
theorem not_all_documents_survive :
    (¬∀ (stored : StoredDesign) (n : Int), stored.id ≠ "" → stored.design.IsExchanged →
      ofText? (obj (("id", .int n) :: stored.design.fields)).compact =
        some { stored with id := toString n }) ∧
    ¬∀ stored : StoredDesign, stored.id ≠ "" → stored.design.IsExchanged →
      ofText? stored.toJson.compact = some stored := by
  constructor
  · intro all
    have same := all ⟨"1", shelf⟩ 18446744073709551616 (by decide) isExchanged_shelf
    have read : (ofText? (obj (fieldsWith (.int 18446744073709551616) shelf)).compact).map
        (·.id) = some "1.8446744073709552e+19" := by
      rw [ofText?, parse?, readAll?, compact, String.toList_ofList]
      decide +kernel
    rw [fieldsWith, same] at read
    exact absurd (Option.some.inj read) (by decide)
  · intro all
    have deep : Design.IsExchanged { shelf with data := nested 126 } :=
      ⟨sorted_nested 126, isWhole_nested 126, isExchanged_shelf.created⟩
    have read := all ⟨"1", { shelf with data := nested 126 }⟩ (by decide) deep
    have refused := ofText?_fieldsWith deep (.str "1") rfl (readId_str (by decide))
    rw [if_neg (by simp [depth_nested, Design.depthLimit])] at refused
    exact absurd (read.symm.trans refused) (by simp)

end StoredDesign

end Joinery
