import Joinery.Flags
import Joinery.Index

/-!
# Presets and their registry

A preset is a family of furniture: the name and range of each dimension slot,
the flags it understands and those it demands. A registry holds consistent
presets under distinct ids.
-/

namespace Joinery

/-- An inclusive range of millimetres. -/
structure DimensionRange where
  min : UInt32
  max : UInt32
deriving DecidableEq

/-- Whether a dimension lies in the range, ends included. -/
def DimensionRange.contains (range : DimensionRange) (d : UInt32) : Bool :=
  range.min ≤ d && d ≤ range.max

theorem DimensionRange.contains_iff (range : DimensionRange) (d : UInt32) :
    range.contains d = true ↔ range.min ≤ d ∧ d ≤ range.max := by
  simp [DimensionRange.contains]

/-- What a preset table says about one family of furniture. -/
structure Preset where
  id : String
  label : String
  /-- The name of each slot, in order. -/
  slotNames : List String
  /-- The range of each slot; their number is the number of dimensions. -/
  ranges : List DimensionRange
  /-- The flags that the preset understands. -/
  allowed : FlagSet
  /-- The flags that every piece of this family must carry. -/
  required : FlagSet
deriving DecidableEq

/-- Why a table of presets is refused. -/
inductive RegistryFault where
  | unsupportedArity (preset : String) (arity : Nat)
  | slotNameMismatch (preset : String)
  | emptyRange (preset : String) (slot : Nat)
  | requiredNotAllowed (preset : String)
  | duplicate (preset : String)
deriving DecidableEq

/-- The text of a refusal. -/
def RegistryFault.message : RegistryFault → String
  | .unsupportedArity preset arity =>
    s!"preset '{preset}' has unsupported arity {arity} (expected 3 or 4)"
  | .slotNameMismatch preset =>
    s!"preset '{preset}' has a slot name count different from its arity"
  | .emptyRange preset slot => s!"preset '{preset}' slot {slot} has min greater than max"
  | .requiredNotAllowed preset => s!"preset '{preset}' requires a flag it does not allow"
  | .duplicate preset => s!"preset '{preset}' is registered twice"

namespace Preset

/-- The number of dimensions of a piece of this family. -/
def arity (preset : Preset) : Nat := preset.ranges.length

/-- A preset with four slots has a sloped top: its last slot is the greatest
height. -/
def isSloped (preset : Preset) : Bool := preset.arity = 4

/-- The name of a slot, or `dimension` where there is none. -/
def slotName (preset : Preset) (slot : Nat) : String :=
  preset.slotNames.getD slot "dimension"

/-- The first inconsistency of a preset, in the order arity, slot names, empty
ranges, demanded flags. -/
def fault? (preset : Preset) : Option RegistryFault :=
  if preset.arity < 3 ∨ 4 < preset.arity then
    some (.unsupportedArity preset.id preset.arity)
  else if preset.slotNames.length ≠ preset.arity then some (.slotNameMismatch preset.id)
  else match preset.ranges.findIdx? (fun range => range.max < range.min) with
    | some slot => some (.emptyRange preset.id slot)
    | none =>
      if preset.required.isSubset preset.allowed then none
      else some (.requiredNotAllowed preset.id)

end Preset

/-- Consistent presets, each under its own id. -/
structure Registry where
  presets : Index Preset
  consistent : ∀ entry ∈ presets.entries, entry.1 = entry.2.id ∧ entry.2.fault? = none

namespace Registry

/-- The registry without presets. -/
def empty : Registry := ⟨.empty, fun _ h => nomatch h⟩

/-- Adds a preset. An inconsistent one is refused before a repeated one. -/
def add (registry : Registry) (preset : Preset) : Except RegistryFault Registry :=
  match sound : preset.fault? with
  | some fault => .error fault
  | none =>
    match added : registry.presets.add? preset.id preset with
    | none => .error (.duplicate preset.id)
    | some presets => .ok ⟨presets, fun entry h => by
        rcases (Index.mem_of_add? added entry).1 h with rfl | h
        · exact ⟨rfl, sound⟩
        · exact registry.consistent entry h⟩

/-- Adds presets in order, up to the first that is refused. -/
def addAll (registry : Registry) : List Preset → Except RegistryFault Registry
  | [] => .ok registry
  | preset :: rest =>
    match registry.add preset with
    | .error fault => .error fault
    | .ok grown => grown.addAll rest

/-- The registry of a list of presets. -/
def ofList (presets : List Preset) : Except RegistryFault Registry := empty.addAll presets

/-- The preset with an id. -/
def lookup (registry : Registry) (id : String) : Option Preset := registry.presets.get? id

/-- The presets in the order of their ids. -/
def toList (registry : Registry) : List Preset := registry.presets.values

end Registry

end Joinery
