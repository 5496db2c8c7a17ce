import Joinery.Preset

/-!
# What a registry promises of its presets

A preset without a fault has three slots or four, a name for each of them, no empty
range, and demands no flag that it does not understand. Whatever a registry finds
under an id is such a preset, carries that id, and was listed when the registry was built.
-/

namespace Joinery

namespace Preset

/-- A preset that can be satisfied and reported on. -/
structure Consistent (preset : Preset) : Prop where
  arity : preset.arity = 3 ∨ preset.arity = 4
  names : preset.slotNames.length = preset.arity
  ranges : ∀ range ∈ preset.ranges, range.min ≤ range.max
  required : ∀ flag ∈ preset.required, flag ∈ preset.allowed

theorem fault?_eq_none_iff (preset : Preset) : preset.fault? = none ↔ preset.Consistent := by
  rw [fault?]
  constructor
  · intro sound
    split at sound
    · cases sound
    rename_i arity
    split at sound
    · cases sound
    rename_i names
    split at sound
    · cases sound
    rename_i full
    split at sound
    · rename_i required
      refine ⟨by omega, Decidable.not_not.mp names, fun range mem => ?_,
        (FlagSet.isSubset_iff _ _).mp required⟩
      simpa using List.findIdx?_eq_none_iff.mp full range mem
    · cases sound
  · intro consistent
    have full : preset.ranges.findIdx? (fun range => range.max < range.min) = none :=
      List.findIdx?_eq_none_iff.mpr fun range mem => by simpa using consistent.ranges range mem
    have required := (FlagSet.isSubset_iff _ _).mpr consistent.required
    rw [if_neg (by have arity := consistent.arity; omega),
      if_neg (Decidable.not_not.mpr consistent.names), full]
    simp [required]

end Preset

namespace Registry

variable {registry : Registry} {id : String} {preset : Preset}

theorem mem_of_lookup (found : registry.lookup id = some preset) :
    (id, preset) ∈ registry.presets.entries :=
  (registry.presets.get?_eq_some_iff id preset).mp found

theorem consistent_of_lookup (found : registry.lookup id = some preset) :
    preset.id = id ∧ preset.Consistent := by
  obtain ⟨same, sound⟩ := registry.consistent (id, preset) (mem_of_lookup found)
  exact ⟨same.symm, preset.fault?_eq_none_iff.mp sound⟩

theorem presets_of_add {grown : Registry} (added : registry.add preset = .ok grown) :
    registry.presets.add? preset.id preset = some grown.presets := by
  rw [add] at added
  split at added
  · cases added
  split at added
  · cases added
  · cases added
    assumption

/-- Adding presets brings in no others. -/
theorem mem_of_addAll {presets : List Preset} {grown : Registry}
    (added : registry.addAll presets = .ok grown) {entry : String × Preset}
    (mem : entry ∈ grown.presets.entries) :
    entry ∈ registry.presets.entries ∨ entry.2 ∈ presets := by
  induction presets generalizing registry with
  | nil =>
      cases added
      exact .inl mem
  | cons preset rest ih =>
      rw [addAll] at added
      split at added
      · cases added
      · rename_i next one
        apply (ih added).elim
        · intro earlier
          apply ((Index.mem_of_add? (presets_of_add one) entry).mp earlier).elim
          · rintro rfl
            exact .inr List.mem_cons_self
          · exact .inl
        · exact fun later => .inr (List.mem_cons_of_mem _ later)

/-- Whatever is found in the registry of a list is listed. -/
theorem mem_of_ofList {presets : List Preset} (built : ofList presets = .ok registry)
    (found : registry.lookup id = some preset) : preset ∈ presets :=
  (mem_of_addAll built (mem_of_lookup found)).elim (fun none => nomatch none) fun listed => listed

end Registry

end Joinery
