import Joinery.Preset

/-!
# The standard presets

The four families of furniture that are on offer without further registration.
The flags are `b` base board, `E` shelves, `F` closed back, `P` doors,
`T` drawers and `S` wardrobe rail.
-/

namespace Joinery.Preset

/-- A preset whose slots carry the usual names: width, depth, height and, for
four ranges, the greatest height. -/
def withUsualSlots (id label : String) (ranges : List (UInt32 × UInt32))
    (allowed required : List Char) : Preset where
  id := id
  label := label
  slotNames :=
    if ranges.length = 4 then ["width", "depth", "height", "max height"]
    else ["width", "depth", "height"]
  ranges := ranges.map fun range => ⟨range.1, range.2⟩
  allowed := .ofList allowed
  required := .ofList required

/-- The standard families. -/
def standard : List Preset :=
  [withUsualSlots "M1" "Free-standing shelving" [(300, 3000), (200, 800), (300, 2500)]
      ['b', 'E', 'F', 'P', 'T'] ['b'],
    withUsualSlots "M2" "Sloped attic unit"
      [(300, 4000), (200, 800), (300, 2500), (300, 3000)] ['b', 'E', 'F', 'P', 'T'] [],
    withUsualSlots "M3" "Wardrobe" [(400, 3000), (450, 700), (1000, 2600)]
      ['b', 'E', 'F', 'P', 'T', 'S'] ['b', 'F'],
    withUsualSlots "M4" "Low sideboard" [(400, 3000), (250, 600), (200, 1000)]
      ['b', 'E', 'F', 'P', 'T'] ['b']]

end Joinery.Preset

namespace Joinery.Registry

theorem ofList_standard_isOk : (ofList Preset.standard).isOk = true := by
  decide +kernel

/-- The registry of the standard families. -/
def standard : Registry :=
  match ofList Preset.standard with
  | .ok registry => registry
  | .error _ => empty

theorem ofList_standard : ofList Preset.standard = .ok standard := by
  have ok := ofList_standard_isOk
  unfold standard
  split
  · assumption
  · next h => simp [h, Except.isOk, Except.toBool] at ok

end Joinery.Registry
