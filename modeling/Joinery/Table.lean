/-!
# Finite tables

A table holds values under keys, each key at most once. Its view is `get?`: what
is put under a key is found there, and what is erased is gone.
-/

namespace Joinery

/-- Values under keys. -/
structure Table (κ α : Type) where
  entries : List (κ × α)
  distinct : (entries.map Prod.fst).Nodup

namespace Table

variable {κ α : Type} [DecidableEq κ]

/-- The table without entries. -/
def empty : Table κ α := ⟨[], List.nodup_nil⟩

/-- The value under a key. -/
def get? (table : Table κ α) (key : κ) : Option α := table.entries.lookup key

/-- The table without a key. -/
def erase (table : Table κ α) (key : κ) : Table κ α where
  entries := table.entries.filter fun entry => entry.1 ≠ key
  distinct := (List.filter_sublist.map Prod.fst).nodup table.distinct

/-- The table with a value under a key, whatever was there before. -/
def put (table : Table κ α) (key : κ) (value : α) : Table κ α where
  entries := (key, value) :: (table.erase key).entries
  distinct := by
    refine List.nodup_cons.2 ⟨fun h => ?_, (table.erase key).distinct⟩
    obtain ⟨entry, h, same⟩ := List.mem_map.1 h
    exact absurd same (by simpa using (List.mem_filter.1 h).2)

/-- The number of keys. -/
def size (table : Table κ α) : Nat := table.entries.length

theorem get?_eq_some_iff (table : Table κ α) (key : κ) (value : α) :
    table.get? key = some value ↔ (key, value) ∈ table.entries := by
  obtain ⟨entries, distinct⟩ := table
  simp only [get?]
  induction entries with
  | nil => simp
  | cons entry rest ih =>
    obtain ⟨k, v⟩ := entry
    simp only [List.map_cons, List.nodup_cons] at distinct
    by_cases same : key = k
    · subst same
      have absent : (key, value) ∉ rest := fun h => distinct.1 (List.mem_map_of_mem h)
      simp only [List.lookup_cons, BEq.rfl, Option.some.injEq, List.mem_cons, absent, or_false,
        Prod.mk.injEq, true_and, eq_comm]
    · have other : (key == k) = false := by simpa using same
      rw [List.lookup_cons, other]
      simp [ih distinct.2, same]

@[simp] theorem get?_empty (key : κ) : (empty : Table κ α).get? key = none := by
  rw [get?, empty, List.lookup_nil]

theorem get?_erase (table : Table κ α) (key other : κ) :
    (table.erase key).get? other = if other = key then none else table.get? other := by
  apply Option.ext
  intro value
  rw [get?_eq_some_iff]
  by_cases same : other = key
  · simp [erase, same]
  · simp [erase, same, get?_eq_some_iff]

theorem get?_put (table : Table κ α) (key other : κ) (value : α) :
    (table.put key value).get? other = if other = key then some value else table.get? other := by
  by_cases same : other = key
  · simp [put, get?, same]
  · have differs : (other == key) = false := by simpa using same
    have erased := get?_erase table key other
    rw [if_neg same] at erased
    rw [if_neg same, ← erased]
    simp [put, get?, List.lookup_cons, differs]

@[simp] theorem get?_erase_self (table : Table κ α) (key : κ) :
    (table.erase key).get? key = none := by
  simp [get?_erase]

theorem get?_erase_of_ne (table : Table κ α) {key other : κ} (differs : other ≠ key) :
    (table.erase key).get? other = table.get? other := by
  simp [get?_erase, differs]

@[simp] theorem get?_put_self (table : Table κ α) (key : κ) (value : α) :
    (table.put key value).get? key = some value := by
  simp [get?_put]

theorem get?_put_of_ne (table : Table κ α) {key other : κ} (value : α) (differs : other ≠ key) :
    (table.put key value).get? other = table.get? other := by
  simp [get?_put, differs]

/-- A table in which nothing is found has no keys. -/
theorem size_eq_zero_iff (table : Table κ α) :
    table.size = 0 ↔ ∀ key, table.get? key = none := by
  simp only [size, List.length_eq_zero_iff, Option.eq_none_iff_forall_ne_some, ne_eq,
    get?_eq_some_iff, List.eq_nil_iff_forall_not_mem, Prod.forall]

end Table

end Joinery
