import Joinery.Proofs.Code.RoundTrip
import Joinery.Proofs.Validation.Report

/-!
# Codes of checked specifications

A registry takes presets of any id and with any flags, while a code can only carry ids of
a letter with digits, and letters as flags. Main statement: what a registry accepts
survives being written as a code just where its id and its flags can be written, and all
that a registry accepts survives just where this holds of its presets. There are
registries where it does not.
-/

namespace Joinery

open Code

instance : DecidablePred IsPreset
  | [] => inferInstanceAs (Decidable False)
  | c :: ds =>
    decidable_of_iff (c.isAlpha = true ∧ ds ≠ [] ∧ ds.all Char.isDigit = true)
      (by simp [IsPreset, List.all_eq_true])

namespace Preset

/-- Codes can carry the id of the preset and every flag that it understands. -/
structure Writable (preset : Preset) : Prop where
  id : IsPreset preset.id.toList
  flags : ∀ flag ∈ preset.allowed, flag.isAlpha = true

instance (preset : Preset) : Decidable preset.Writable :=
  decidable_of_iff
    (IsPreset preset.id.toList ∧ preset.allowed.toList.all Char.isAlpha = true)
    ⟨fun ⟨id, flags⟩ => ⟨id, List.all_eq_true.mp flags⟩,
      fun ⟨id, flags⟩ => ⟨id, List.all_eq_true.mpr flags⟩⟩

/-- The smallest piece of a family, with everything that can be asked for. -/
def smallest (preset : Preset) : Specification :=
  ⟨preset.id, preset.ranges.map DimensionRange.min, preset.allowed⟩

/-- A consistent preset admits some specification. -/
theorem Consistent.admits_smallest {preset : Preset} (consistent : preset.Consistent) :
    preset.Admits preset.smallest where
  arity := List.length_map _
  ranges := by
    intro slot d range dimension slotRange
    simp only [smallest, List.getElem?_map, slotRange, Option.map_some, Option.some.injEq]
      at dimension
    rw [← dimension]
    exact ⟨UInt32.le_refl _, consistent.ranges range (List.mem_of_getElem? slotRange)⟩
  required := consistent.required
  allowed := fun _ asked => asked

end Preset

namespace Registry

variable {registry : Registry} {spec : Specification} {checked : CheckedSpecification}

theorem Admits.readable_iff (admitted : registry.Admits spec) :
    spec.Readable ↔ IsPreset spec.presetId.toList ∧ ∀ flag ∈ spec.flags, flag.isAlpha = true := by
  have some_dimension : spec.dimensions ≠ [] := by
    intro none
    have count := admitted.length_dimensions
    simp [none] at count
  constructor
  · exact fun readable => ⟨readable.preset, readable.letters⟩
  · exact fun ⟨preset, letters⟩ => ⟨preset, some_dimension, letters⟩

/-- A specification that is admitted survives just where a code can carry it. -/
theorem Admits.check_canonicalCode_eq_ok_iff (admitted : registry.Admits checked.spec) :
    registry.check checked.canonicalCode = .ok checked ↔
      parse checked.canonicalCode = .ok checked.spec := by
  rw [check_eq_ok_iff, and_iff_left admitted]

theorem Admits.readable (writable : ∀ id preset, registry.lookup id = some preset → preset.Writable)
    (admitted : registry.Admits spec) : spec.Readable := by
  obtain ⟨preset, known, asked⟩ := admitted
  obtain ⟨same, -⟩ := consistent_of_lookup known
  have carried := writable _ _ known
  rw [readable_iff ⟨preset, known, asked⟩, ← same]
  exact ⟨carried.id, fun flag mem => carried.flags flag (asked.allowed flag mem)⟩

/-- What becomes of a code of an accepted specification that is read and checked again. It
comes to the same if the code can be read, which depends on the id and the flags alone.
Every accepted specification survives just in the registries whose presets can be
written. -/
theorem canonicalCode_survives_iff (registry : Registry) :
    (∀ spec checked, registry.validate spec = .ok checked →
      (parse checked.canonicalCode = .ok checked.spec ↔
        IsPreset spec.presetId.toList ∧ ∀ flag ∈ spec.flags, flag.isAlpha = true) ∧
      (registry.check checked.canonicalCode = .ok checked ↔
        parse checked.canonicalCode = .ok checked.spec)) ∧
    ((∀ spec checked, registry.validate spec = .ok checked →
        parse checked.canonicalCode = .ok checked.spec ∧
          registry.check checked.canonicalCode = .ok checked) ↔
      ∀ id preset, registry.lookup id = some preset → preset.Writable) := by
  refine ⟨fun spec checked accepted => ?_, fun survives id preset known => ?_,
    fun writable spec checked accepted => ?_⟩
  · obtain ⟨admitted, rfl⟩ := validate_eq_ok_iff.mp accepted
    refine ⟨?_, admitted.check_canonicalCode_eq_ok_iff⟩
    rw [CheckedSpecification.canonicalCode, Specification.parse_canonicalCode_eq_ok_iff,
      admitted.readable_iff]
  · obtain ⟨rfl, consistent⟩ := consistent_of_lookup known
    have admitted : registry.Admits preset.smallest := ⟨preset, known, consistent.admits_smallest⟩
    have accepted : registry.validate preset.smallest =
        .ok ⟨preset.smallest, registry, violations_eq_nil_iff.mpr admitted⟩ :=
      validate_eq_ok_iff.mpr ⟨admitted, rfl⟩
    have readable : preset.smallest.Readable :=
      Specification.parse_canonicalCode_eq_ok_iff.mp (survives _ _ accepted).1
    exact ⟨readable.preset, readable.letters⟩
  · obtain ⟨admitted, rfl⟩ := validate_eq_ok_iff.mp accepted
    have read : parse checked.canonicalCode = .ok checked.spec :=
      Specification.parse_canonicalCode_eq_ok_iff.mpr (admitted.readable writable)
    exact ⟨read, admitted.check_canonicalCode_eq_ok_iff.mpr read⟩

/-- Codes can carry the standard presets, so all that is accepted of them survives. -/
theorem check_canonicalCode_of_standard (accepted : standard.validate spec = .ok checked) :
    standard.check checked.canonicalCode = .ok checked := by
  have writable : ∀ preset ∈ Preset.standard, preset.Writable := by decide +kernel
  obtain ⟨admitted, rfl⟩ := validate_eq_ok_iff.mp accepted
  rw [admitted.check_canonicalCode_eq_ok_iff]
  exact Specification.parse_canonicalCode_eq_ok_iff.mpr
    (admitted.readable fun _ preset known => writable preset (mem_of_ofList ofList_standard known))

end Registry

/-- A kitchen block of a fixed size, whose id has no digit. -/
def kitchenBlock : Preset :=
  .withUsualSlots "K" "Kitchen block" [(600, 600), (600, 600), (900, 900)] ['P'] []

/-- The registry of the kitchen block alone. -/
def kitchens : Registry := ⟨⟨[("K", kitchenBlock)], by simp⟩, by decide +kernel⟩

/-- A registry takes the kitchen block and accepts one with doors, whose code cannot be
read. -/
theorem not_all_canonicalCodes_read :
    ¬∀ (presets : List Preset) (registry : Registry) (spec : Specification)
      (checked : CheckedSpecification), Registry.ofList presets = .ok registry →
        registry.validate spec = .ok checked → parse checked.canonicalCode = .ok checked.spec := by
  intro all
  have built : Registry.ofList [kitchenBlock] = .ok kitchens := by rfl
  have accepted : kitchens.violations kitchenBlock.smallest = [] := by decide +kernel
  have validated : kitchens.validate kitchenBlock.smallest = .ok ⟨_, kitchens, accepted⟩ := by rfl
  have read := all _ _ _ _ built validated
  have refused : parse kitchenBlock.smallest.canonicalCode = .error ⟨1, .invalidPresetId⟩ := by
    decide +kernel
  exact absurd (refused.symm.trans read) (by simp)

end Joinery
