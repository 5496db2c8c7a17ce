import Joinery.Binary64
import Joinery.Index

/-!
# JSON values

A JSON value with its object fields in the order in which they are written.
Whole numbers are kept apart from doubles. The normal form of a value sorts the
fields of every object and keeps the last of repeated ones: its fields are put in their
places one by one, from the last to the first.
-/

namespace Joinery

/-- A JSON value. -/
inductive Json where
  | null
  | bool (b : Bool)
  | int (n : Int)
  | real (x : Binary64)
  | str (s : String)
  | arr (items : List Json)
  | obj (fields : List (String × Json))

namespace Json

/-- A text, or `null` for its absence. -/
def optionalStr : Option String → Json
  | none => null
  | some s => str s

/-- The value of the last field of a name. -/
def field? (name : String) : Json → Option Json
  | obj fields => fields.reverse.lookup name
  | _ => none

/-- The value of the last field of a name; an absent field and one that is
`null` mean the same. -/
def given? (name : String) (value : Json) : Option Json :=
  match value.field? name with
  | some null => none
  | found => found

mutual

/-- The value with the fields of every object in key order, the last of repeated
fields standing for all. -/
def sorted : Json → Json
  | arr items => arr (sortedItems items)
  | obj fields => obj (sortedFields fields).entries
  | value => value

/-- The items in normal form. -/
def sortedItems : List Json → List Json
  | [] => []
  | item :: rest => item.sorted :: sortedItems rest

/-- The fields in normal form, by key. -/
def sortedFields : List (String × Json) → Index Json
  | [] => .empty
  | (name, value) :: rest =>
    let later := sortedFields rest
    if later.contains name then later else later.put name value.sorted

end

theorem sortedItems_map {α : Type} (f : α → Json) (xs : List α) :
    sortedItems (xs.map f) = xs.map fun x => (f x).sorted := by
  induction xs with
  | nil => rfl
  | cons x xs ih => rw [List.map_cons, sortedItems, ih, List.map_cons]

/-- Fields in the order of their names with one more in its place, unless its name is taken. -/
def insertField (name : String) (value : Json) : List (String × Json) → List (String × Json)
  | [] => [(name, value)]
  | field :: rest =>
    if name < field.1 then (name, value) :: field :: rest
    else if field.1 < name then field :: insertField name value rest
    else field :: rest

theorem insertField_of_fresh {name : String} {fields : List (String × Json)} (value : Json)
    (fresh : ∀ field ∈ fields, field.1 ≠ name) :
    insertField name value fields = Index.place name value fields := by
  induction fields with
  | nil => rfl
  | cons field rest ih =>
      obtain ⟨other, fresh_rest⟩ := List.forall_mem_cons.mp fresh
      rw [insertField, Index.place, if_neg (Ne.symm other), ih fresh_rest]
      by_cases before : name < field.1
      · rw [if_pos before, if_pos before]
      · have after : field.1 < name := Std.lt_of_le_of_ne (String.not_lt.mp before) other
        rw [if_neg before, if_neg before, if_pos after]

theorem insertField_of_mem {name : String} {old : Json} {fields : List (String × Json)}
    (value : Json) (ascending : fields.Pairwise fun a b => a.1 < b.1) (mem : (name, old) ∈ fields) :
    insertField name value fields = fields := by
  induction fields with
  | nil => cases mem
  | cons field rest ih =>
      obtain ⟨least, ascending⟩ := List.pairwise_cons.mp ascending
      rcases List.mem_cons.mp mem with rfl | later
      · rw [insertField, if_neg (String.lt_irrefl _), if_neg (String.lt_irrefl _)]
      · have above := least _ later
        rw [insertField, if_neg (String.lt_asymm above), if_pos above, ih ascending later]

theorem sortedFields_nil : (sortedFields []).entries = [] := by
  rw [sortedFields]
  rfl

theorem sortedFields_cons (name : String) (value : Json) (rest : List (String × Json)) :
    (sortedFields ((name, value) :: rest)).entries =
      insertField name value.sorted (sortedFields rest).entries := by
  rw [sortedFields]
  split
  · rename_i taken
    obtain ⟨old, mem⟩ := (Index.contains_iff _ _).mp taken
    exact (insertField_of_mem _ (sortedFields rest).ascending mem).symm
  · rename_i fresh
    refine (insertField_of_fresh _ fun field mem same => fresh ?_).symm
    exact (Index.contains_iff _ _).mpr ⟨field.2, same ▸ mem⟩

end Json

end Joinery
