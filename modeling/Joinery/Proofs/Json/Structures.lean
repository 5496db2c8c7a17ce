import Joinery.Json.Decode

/-!
# Fields of structures

A structure gets the fields that an object gives under its names, unless one of them is
given twice.
-/

namespace Joinery.Json

variable {fields : List (String × Json)} {name : String}

theorem isRepeated_iff : isRepeated fields name = true ↔ 1 < (fields.map Prod.fst).count name := by
  rw [isRepeated, decide_eq_true_iff, List.count_eq_countP, List.countP_map,
    ← List.countP_eq_length_filter]
  rfl

/-- Fields of different names are all given. -/
theorem exists_givenByName (names : List String) (distinct : (fields.map Prod.fst).Nodup) :
    ∃ given, givenByName names fields = some given ∧
      ∀ field ∈ fields, field.1 ∈ names → given field.1 = some field.2 := by
  have single : ¬names.any (isRepeated fields) = true := by
    rw [List.any_eq_true]
    rintro ⟨name, -, twice⟩
    rw [isRepeated_iff] at twice
    exact absurd (List.nodup_iff_count.mp distinct name) (Nat.not_le.mpr twice)
  refine ⟨_, if_neg single, fun field mem known => ?_⟩
  rw [if_pos (List.contains_iff_mem.mpr known)]
  exact (Index.lookup_eq_some_iff (List.pairwise_map.mp distinct)).mpr mem

/-- A structure that has just the fields of an object is given all of them. -/
theorem exists_given (format : Format) {value : Json} (object : value = .obj fields)
    (distinct : (fields.map Prod.fst).Nodup) :
    ∃ found, given format (fields.map Prod.fst) value = some found ∧
      ∀ field ∈ fields, found field.1 = some field.2 := by
  obtain ⟨found, same, all⟩ := exists_givenByName (fields.map Prod.fst) distinct
  refine ⟨found, ?_, fun field mem => all field mem (List.mem_map_of_mem mem)⟩
  rw [object]
  exact same

theorem givenByName_of_isRepeated {names : List String} (known : name ∈ names)
    (twice : isRepeated fields name = true) :
    givenByName names fields = none :=
  if_pos (List.any_eq_true.mpr ⟨name, known, twice⟩)

/-- A field that is put among fields that have its name occurs twice. -/
theorem isRepeated_insert {before after : List (String × Json)} {value : Json}
    (mem : name ∈ (before ++ after).map Prod.fst) :
    isRepeated (before ++ (name, value) :: after) name = true := by
  rw [isRepeated_iff]
  have there := List.count_pos_iff.mpr mem
  rw [List.map_append, List.count_append] at there ⊢
  rw [List.map_cons, List.count_cons_self]
  omega

theorem asNatBelow_toNat {limit n : Nat} (small : n < limit) :
    asNatBelow limit (.int n) = some n := by
  rw [asNatBelow, if_pos ⟨Int.natCast_nonneg n, Int.ofNat_lt.mpr small⟩, Int.toNat_natCast]

theorem asUInt64_toNat (n : UInt64) : asUInt64 (.int n.toNat) = some n := by
  rw [asUInt64, asNatBelow_toNat n.toNat_lt, Option.map_some, UInt64.ofNat_toNat]

theorem asUInt32_toNat (n : UInt32) : asUInt32 (.int n.toNat) = some n := by
  rw [asUInt32, asNatBelow_toNat n.toNat_lt, Option.map_some, UInt32.ofNat_toNat]

/-- A list is decoded item by item. -/
theorem asList_map {α β : Type} {decode : Json → Option β} {encode : α → Json} {value : α → β}
    (reads : ∀ x, decode (encode x) = some (value x)) (items : List α) :
    asList decode (.arr (items.map encode)) = some (items.map value) := by
  rw [asList]
  induction items with
  | nil => rfl
  | cons x rest ih => simp [reads, ih]

end Joinery.Json
