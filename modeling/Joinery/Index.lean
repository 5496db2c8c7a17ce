/-!
# Indexes

An index keeps values under text keys, in strictly ascending order of the keys
by code points. Catalogs and registries are indexes: their listings come out in
key order, and no key occurs twice.
-/

namespace Joinery

/-- Values under distinct text keys, in ascending key order. -/
structure Index (α : Type) where
  entries : List (String × α)
  ascending : entries.Pairwise fun a b => a.1 < b.1

namespace Index

variable {α : Type}

/-- Puts a value under a key, in the place of the value that was there. -/
def place (key : String) (value : α) : List (String × α) → List (String × α)
  | [] => [(key, value)]
  | entry :: rest =>
    if key < entry.1 then (key, value) :: entry :: rest
    else if key = entry.1 then (key, value) :: rest
    else entry :: place key value rest

theorem mem_place (key : String) (value : α) (entries : List (String × α))
    (h : entries.Pairwise fun a b => a.1 < b.1) (entry : String × α) :
    entry ∈ place key value entries ↔
      entry = (key, value) ∨ (entry ∈ entries ∧ entry.1 ≠ key) := by
  induction entries with
  | nil => simp [place]
  | cons first rest ih =>
    obtain ⟨least, tail⟩ := List.pairwise_cons.1 h
    by_cases below : key < first.1
    · have above : ∀ e ∈ first :: rest, e.1 ≠ key := by
        intro e he
        rcases List.mem_cons.1 he with rfl | he
        · exact fun same => String.lt_irrefl key (by rw [same] at below; exact below)
        · intro same
          have far := String.lt_trans below (least e he)
          rw [same] at far
          exact String.lt_irrefl key far
      simp only [place, if_pos below, List.mem_cons]
      grind
    · by_cases same : key = first.1
      · subst same
        have above : ∀ e ∈ rest, e.1 ≠ first.1 :=
          fun e he eq => String.lt_irrefl first.1 (by have h := least e he; rw [eq] at h; exact h)
        simp only [place, if_neg below, if_pos, List.mem_cons]
        grind
      · simp only [place, if_neg below, if_neg same, List.mem_cons, ih tail]
        grind

theorem place_ascending (key : String) (value : α) (entries : List (String × α))
    (h : entries.Pairwise fun a b => a.1 < b.1) :
    (place key value entries).Pairwise fun a b => a.1 < b.1 := by
  induction entries with
  | nil => simp [place]
  | cons first rest ih =>
    obtain ⟨least, tail⟩ := List.pairwise_cons.1 h
    by_cases below : key < first.1
    · rw [place, if_pos below]
      refine List.pairwise_cons.2 ⟨fun e he => ?_, h⟩
      rcases List.mem_cons.1 he with rfl | he
      · exact below
      · exact String.lt_trans below (least e he)
    · by_cases same : key = first.1
      · rw [place, if_neg below, if_pos same]
        exact List.pairwise_cons.2 ⟨fun e he => same ▸ least e he, tail⟩
      · rw [place, if_neg below, if_neg same]
        refine List.pairwise_cons.2 ⟨fun e he => ?_, ih tail⟩
        rcases (mem_place key value rest tail e).1 he with rfl | ⟨he, _⟩
        · exact Std.not_le.1 fun h => same (String.le_antisymm h (String.not_lt.1 below))
        · exact least e he

/-- The index without entries. -/
def empty : Index α := ⟨[], List.Pairwise.nil⟩

/-- The index with a value under a key, whatever was there before. -/
def put (index : Index α) (key : String) (value : α) : Index α :=
  ⟨place key value index.entries, place_ascending key value _ index.ascending⟩

/-- The value under a key. -/
def get? (index : Index α) (key : String) : Option α := index.entries.lookup key

/-- Whether a key has a value. -/
def contains (index : Index α) (key : String) : Bool := index.entries.any (·.1 = key)

/-- The index with one more key, or nothing if the key is taken. -/
def add? (index : Index α) (key : String) (value : α) : Option (Index α) :=
  if index.contains key then none else some (index.put key value)

/-- The values, in the order of their keys. -/
def values (index : Index α) : List α := index.entries.map Prod.snd

/-- The number of keys. -/
def size (index : Index α) : Nat := index.entries.length

/-- Whether there is no key. -/
def isEmpty (index : Index α) : Bool := index.entries.isEmpty

theorem mem_put (index : Index α) (key : String) (value : α) (entry : String × α) :
    entry ∈ (index.put key value).entries ↔
      entry = (key, value) ∨ (entry ∈ index.entries ∧ entry.1 ≠ key) :=
  mem_place key value index.entries index.ascending entry

theorem contains_iff (index : Index α) (key : String) :
    index.contains key = true ↔ ∃ value, (key, value) ∈ index.entries := by
  simp only [contains, List.any_eq_true, decide_eq_true_eq]
  exact ⟨fun ⟨e, he, same⟩ => ⟨e.2, same ▸ he⟩, fun ⟨v, hv⟩ => ⟨_, hv, rfl⟩⟩

theorem mem_of_add? {index grown : Index α} {key : String} {value : α}
    (h : index.add? key value = some grown) (entry : String × α) :
    entry ∈ grown.entries ↔ entry = (key, value) ∨ entry ∈ index.entries := by
  by_cases taken : index.contains key = true
  · simp [add?, taken] at h
  · have fresh : ∀ e ∈ index.entries, e.1 ≠ key := fun e he same =>
      taken ((index.contains_iff key).2 ⟨e.2, same ▸ he⟩)
    simp only [add?, if_neg taken, Option.some.injEq] at h
    subst h
    rw [mem_put]
    constructor
    · exact Or.imp_right And.left
    · exact Or.imp_right fun he => ⟨he, fresh entry he⟩

/-- Among distinct keys the first entry of a key is the only one. -/
theorem lookup_eq_some_iff {entries : List (String × α)}
    (distinct : entries.Pairwise fun a b => a.1 ≠ b.1) {key : String} {value : α} :
    entries.lookup key = some value ↔ (key, value) ∈ entries := by
  rw [List.lookup_eq_some_iff]
  constructor
  · rintro ⟨front, back, rfl, -⟩
    simp
  · intro mem
    obtain ⟨front, back, rfl⟩ := List.append_of_mem mem
    have earlier := (List.pairwise_append.mp distinct).2.2
    refine ⟨front, back, rfl, fun entry before => ?_⟩
    simpa using (earlier entry before (key, value) (by simp)).symm

theorem distinct (index : Index α) : index.entries.Pairwise fun a b => a.1 ≠ b.1 := by
  apply index.ascending.imp
  intro a b below same
  rw [same] at below
  exact String.lt_irrefl _ below

theorem get?_eq_some_iff (index : Index α) (key : String) (value : α) :
    index.get? key = some value ↔ (key, value) ∈ index.entries :=
  lookup_eq_some_iff index.distinct

theorem get?_put (index : Index α) (key other : String) (value : α) :
    (index.put key value).get? other = if other = key then some value else index.get? other := by
  apply Option.ext
  intro found
  rw [get?_eq_some_iff, mem_put]
  by_cases same : other = key
  · simp [same, eq_comm]
  · simp [same, get?_eq_some_iff]

theorem contains_eq_isSome (index : Index α) (key : String) :
    index.contains key = (index.get? key).isSome := by
  rw [Bool.eq_iff_iff, contains_iff, Option.isSome_iff_exists]
  simp only [get?_eq_some_iff]

end Index

end Joinery
