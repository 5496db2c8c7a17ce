/-!
# Flag sets

A flag is one character that asks for a feature of a piece of furniture. A set
of flags is kept as its members in strictly ascending order, so that equal
sets are equal lists and a set has one written form.
-/

namespace Joinery

/-- A finite set of flags, listed in strictly ascending order. -/
structure FlagSet where
  toList : List Char
  ascending : toList.Pairwise (· < ·)
deriving DecidableEq

namespace FlagSet

/-- The place of a flag among ascending flags; a flag that is there stays once. -/
def insertSorted (flag : Char) : List Char → List Char
  | [] => [flag]
  | c :: rest =>
    if flag < c then flag :: c :: rest
    else if flag = c then c :: rest
    else c :: insertSorted flag rest

theorem mem_insertSorted (flag x : Char) (cs : List Char) :
    x ∈ insertSorted flag cs ↔ x = flag ∨ x ∈ cs := by
  induction cs with
  | nil => simp [insertSorted]
  | cons c rest ih =>
    by_cases below : flag < c
    · simp [insertSorted, below]
    · by_cases same : flag = c
      · subst same
        simp [insertSorted]
      · simp only [insertSorted, if_neg below, if_neg same, List.mem_cons, ih]
        exact or_left_comm

theorem insertSorted_ascending (flag : Char) (cs : List Char)
    (h : cs.Pairwise (· < ·)) : (insertSorted flag cs).Pairwise (· < ·) := by
  induction cs with
  | nil => simp [insertSorted]
  | cons c rest ih =>
    obtain ⟨least, tail⟩ := List.pairwise_cons.1 h
    by_cases below : flag < c
    · rw [insertSorted, if_pos below]
      refine List.pairwise_cons.2 ⟨fun x hx => ?_, h⟩
      rcases List.mem_cons.1 hx with rfl | hx
      · exact below
      · exact Char.lt_trans below (least x hx)
    · by_cases same : flag = c
      · rw [insertSorted, if_neg below, if_pos same]
        exact h
      · rw [insertSorted, if_neg below, if_neg same]
        refine List.pairwise_cons.2 ⟨fun x hx => ?_, ih tail⟩
        rcases (mem_insertSorted flag x rest).1 hx with rfl | hx
        · exact Std.not_le.1 fun h => same (Char.le_antisymm h (Char.not_lt.1 below))
        · exact least x hx

/-- The set without members. -/
def empty : FlagSet := ⟨[], List.Pairwise.nil⟩

/-- The set with one more member. -/
def insert (flag : Char) (flags : FlagSet) : FlagSet :=
  ⟨insertSorted flag flags.toList, insertSorted_ascending flag _ flags.ascending⟩

/-- The set of the characters of a list; repetitions do not count. -/
def ofList (cs : List Char) : FlagSet :=
  cs.foldl (fun flags c => flags.insert c) empty

/-- Whether a flag is in the set. -/
def contains (flags : FlagSet) (flag : Char) : Bool := flags.toList.contains flag

instance : Membership Char FlagSet := ⟨fun flags flag => flag ∈ flags.toList⟩

theorem mem_def (flags : FlagSet) (flag : Char) : flag ∈ flags ↔ flag ∈ flags.toList := Iff.rfl

@[simp] theorem contains_iff (flags : FlagSet) (flag : Char) :
    flags.contains flag = true ↔ flag ∈ flags := by
  simp [contains, mem_def]

@[simp] theorem mem_insert (flags : FlagSet) (flag x : Char) :
    x ∈ flags.insert flag ↔ x = flag ∨ x ∈ flags :=
  mem_insertSorted flag x flags.toList

@[simp] theorem not_mem_empty (flag : Char) : flag ∉ empty := by
  simp [mem_def, empty]

theorem mem_ofList (cs : List Char) (x : Char) : x ∈ ofList cs ↔ x ∈ cs := by
  suffices h : ∀ (flags : FlagSet),
      x ∈ cs.foldl (fun flags c => flags.insert c) flags ↔ x ∈ cs ∨ x ∈ flags by
    simpa [ofList] using h empty
  induction cs with
  | nil => simp
  | cons c rest ih =>
    intro flags
    simp only [List.foldl_cons, ih, mem_insert, List.mem_cons]
    grind

/-- The number of members. -/
def size (flags : FlagSet) : Nat := flags.toList.length

/-- Whether the set has no member. -/
def isEmpty (flags : FlagSet) : Bool := flags.toList.isEmpty

/-- The members that are not in another set, in ascending order. -/
def difference (flags others : FlagSet) : List Char :=
  flags.toList.filter fun flag => !others.contains flag

theorem mem_difference (flags others : FlagSet) (x : Char) :
    x ∈ flags.difference others ↔ x ∈ flags ∧ x ∉ others := by
  simp [difference, mem_def, contains]

/-- Whether every member is in another set. -/
def isSubset (flags others : FlagSet) : Bool := flags.toList.all others.contains

theorem isSubset_iff (flags others : FlagSet) :
    flags.isSubset others = true ↔ ∀ x ∈ flags, x ∈ others := by
  simp [isSubset, mem_def, contains]

/-- The members written one after the other. -/
def text (flags : FlagSet) : String := String.ofList flags.toList

end FlagSet

end Joinery
