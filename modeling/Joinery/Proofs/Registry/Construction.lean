import Joinery.Proofs.Registry.Consistency
import Mathlib.Data.List.Nodup

/-!
# How a registry is built

Presets are added one after the other, up to the first that is refused. Main statement: a
list comes to a registry just if its presets are consistent and their ids differ, and the
registry then holds these presets and no others. Otherwise the fault is that of the first
preset that is inconsistent or repeats an id, and its inconsistencies are looked for before
the repetition.
-/

namespace Joinery

namespace Preset

/-- What is wrong with a preset by itself: the first inconsistency in the order arity, slot
names, lowest empty range, demanded flags. -/
inductive HasFault (preset : Preset) : RegistryFault → Prop where
  | arity (unsupported : ¬(preset.arity = 3 ∨ preset.arity = 4)) :
      HasFault preset (.unsupportedArity preset.id preset.arity)
  | names (supported : preset.arity = 3 ∨ preset.arity = 4)
      (mismatch : preset.slotNames.length ≠ preset.arity) :
      HasFault preset (.slotNameMismatch preset.id)
  | range {slot : Nat} {range : DimensionRange} (supported : preset.arity = 3 ∨ preset.arity = 4)
      (named : preset.slotNames.length = preset.arity)
      (here : preset.ranges[slot]? = some range) (empty : range.max < range.min)
      (lowest : ∀ below < slot, ∀ other, preset.ranges[below]? = some other →
        other.min ≤ other.max) :
      HasFault preset (.emptyRange preset.id slot)
  | required {flag : Char} (supported : preset.arity = 3 ∨ preset.arity = 4)
      (named : preset.slotNames.length = preset.arity)
      (full : ∀ range ∈ preset.ranges, range.min ≤ range.max)
      (demanded : flag ∈ preset.required) (unknown : flag ∉ preset.allowed) :
      HasFault preset (.requiredNotAllowed preset.id)

/-- Why a preset is refused after others: for a fault of its own or, if it has none, because
one of the others has its id. -/
inductive Refused (earlier : List Preset) (preset : Preset) : RegistryFault → Prop where
  | inconsistent {fault : RegistryFault} (wrong : preset.HasFault fault) :
      Refused earlier preset fault
  | repeated (consistent : preset.Consistent) (taken : ∃ other ∈ earlier, other.id = preset.id) :
      Refused earlier preset (.duplicate preset.id)

/-- Presets that can stand in one registry. -/
structure AreCompatible (presets : List Preset) : Prop where
  consistent : ∀ preset ∈ presets, preset.Consistent
  distinct : presets.Pairwise fun a b => a.id ≠ b.id

/-- The lowest empty range is the first that is found. -/
theorem findIdx?_empty_eq_some_iff {ranges : List DimensionRange} {slot : Nat} :
    ranges.findIdx? (fun range => range.max < range.min) = some slot ↔
      ∃ range, ranges[slot]? = some range ∧ range.max < range.min ∧
        ∀ below < slot, ∀ other, ranges[below]? = some other → other.min ≤ other.max := by
  rw [List.findIdx?_eq_some_iff_getElem]
  constructor
  · rintro ⟨inside, empty, lowest⟩
    refine ⟨ranges[slot], List.getElem?_eq_getElem inside, by simpa using empty, ?_⟩
    intro below under other found
    obtain ⟨_, rfl⟩ := List.getElem?_eq_some_iff.mp found
    simpa using lowest below under
  · rintro ⟨range, here, empty, lowest⟩
    obtain ⟨inside, rfl⟩ := List.getElem?_eq_some_iff.mp here
    refine ⟨inside, by simpa using empty, fun below under => ?_⟩
    simpa using lowest below under _ (List.getElem?_eq_getElem (by omega))

theorem fault?_eq_some_iff {preset : Preset} {fault : RegistryFault} :
    preset.fault? = some fault ↔ preset.HasFault fault := by
  rw [fault?]
  constructor
  · intro wrong
    split at wrong
    · cases wrong
      exact .arity (by omega)
    rename_i supported
    have supported : preset.arity = 3 ∨ preset.arity = 4 := by omega
    split at wrong
    · rename_i mismatch
      cases wrong
      exact .names supported mismatch
    rename_i named
    have named := Decidable.not_not.mp named
    split at wrong
    · rename_i slot found
      cases wrong
      obtain ⟨range, here, empty, lowest⟩ := findIdx?_empty_eq_some_iff.mp found
      exact .range supported named here empty lowest
    · rename_i full
      split at wrong
      · cases wrong
      · rename_i demands
        cases wrong
        rw [FlagSet.isSubset_iff] at demands
        push Not at demands
        obtain ⟨flag, demanded, unknown⟩ := demands
        refine .required supported named (fun range mem => ?_) demanded unknown
        simpa using List.findIdx?_eq_none_iff.mp full range mem
  · intro wrong
    cases wrong with
    | arity unsupported => rw [if_pos (by omega)]
    | names supported mismatch => rw [if_neg (by omega), if_pos mismatch]
    | range supported named here empty lowest =>
        rw [if_neg (by omega), if_neg (Decidable.not_not.mpr named),
          findIdx?_empty_eq_some_iff.mpr ⟨_, here, empty, lowest⟩]
    | required supported named full demanded unknown =>
        have found : preset.ranges.findIdx? (fun range => range.max < range.min) = none :=
          List.findIdx?_eq_none_iff.mpr fun range mem => by simpa using full range mem
        have demands : ¬preset.required.isSubset preset.allowed = true :=
          fun subset => unknown ((FlagSet.isSubset_iff _ _).mp subset _ demanded)
        rw [if_neg (by omega), if_neg (Decidable.not_not.mpr named), found]
        simp only [if_neg demands]

theorem HasFault.not_consistent {preset : Preset} {fault : RegistryFault}
    (wrong : preset.HasFault fault) : ¬preset.Consistent := by
  rw [← fault?_eq_none_iff, fault?_eq_some_iff.mpr wrong]
  simp

theorem areCompatible_concat_iff {earlier : List Preset} {preset : Preset} :
    AreCompatible (earlier ++ [preset]) ↔
      AreCompatible earlier ∧ preset.Consistent ∧ ∀ other ∈ earlier, other.id ≠ preset.id := by
  constructor
  · rintro ⟨consistent, distinct⟩
    rw [List.pairwise_append] at distinct
    refine ⟨⟨fun other mem => consistent other (List.mem_append_left _ mem), distinct.1⟩,
      consistent preset (by simp), fun other mem => distinct.2.2 other mem preset (by simp)⟩
  · rintro ⟨⟨consistent, distinct⟩, last, fresh⟩
    refine ⟨fun other mem => ?_, List.pairwise_append.mpr ⟨distinct, by simp, ?_⟩⟩
    · apply (List.mem_append.mp mem).elim (consistent other)
      rintro here
      rwa [List.mem_singleton.mp here]
    · simpa using fresh

theorem AreCompatible.of_append {front back : List Preset} (both : AreCompatible (front ++ back)) :
    AreCompatible front :=
  ⟨fun preset mem => both.consistent preset (List.mem_append_left _ mem),
    (List.pairwise_append.mp both.distinct).1⟩

/-- A preset that is refused cannot stand in one registry with those before it. -/
theorem Refused.not_areCompatible {earlier : List Preset} {preset : Preset}
    {fault : RegistryFault} (refused : preset.Refused earlier fault) :
    ¬AreCompatible (earlier ++ [preset]) := by
  intro compatible
  obtain ⟨-, consistent, fresh⟩ := areCompatible_concat_iff.mp compatible
  cases refused with
  | inconsistent wrong => exact wrong.not_consistent consistent
  | repeated _ taken =>
      obtain ⟨other, mem, same⟩ := taken
      exact fresh other mem same

end Preset

namespace Registry

open Preset

variable {registry grown : Registry} {earlier presets : List Preset} {preset : Preset}
  {fault : RegistryFault}

/-- A registry that holds just the presets that were added to it. -/
structure Holds (registry : Registry) (presets : List Preset) : Prop where
  compatible : AreCompatible presets
  entries : ∀ preset, (preset.id, preset) ∈ registry.presets.entries ↔ preset ∈ presets

namespace Holds

theorem lookup_eq_some_iff (holds : registry.Holds presets) {id : String} :
    registry.lookup id = some preset ↔ preset ∈ presets ∧ preset.id = id := by
  constructor
  · intro found
    obtain rfl := (consistent_of_lookup found).1
    exact ⟨(holds.entries preset).mp (mem_of_lookup found), rfl⟩
  · rintro ⟨listed, rfl⟩
    exact (registry.presets.get?_eq_some_iff _ _).mpr ((holds.entries preset).mpr listed)

theorem contains_iff (holds : registry.Holds presets) {id : String} :
    registry.presets.contains id = true ↔ ∃ preset ∈ presets, preset.id = id := by
  rw [Index.contains_eq_isSome, Option.isSome_iff_exists]
  exact exists_congr fun _ => holds.lookup_eq_some_iff

theorem lookup_eq_none_iff (holds : registry.Holds presets) {id : String} :
    registry.lookup id = none ↔ ∀ preset ∈ presets, preset.id ≠ id := by
  rw [← Option.not_isSome_iff_eq_none, lookup, ← Index.contains_eq_isSome, holds.contains_iff]
  push Not
  rfl

theorem mem_toList_iff (holds : registry.Holds presets) :
    preset ∈ registry.toList ↔ preset ∈ presets := by
  rw [← holds.entries, toList, Index.values, List.mem_map]
  constructor
  · rintro ⟨entry, mem, rfl⟩
    rwa [← (registry.consistent entry mem).1]
  · exact fun mem => ⟨_, mem, rfl⟩

end Holds

/-- The presets of any registry are listed in the strict order of their ids. -/
theorem toList_ascending (registry : Registry) :
    registry.toList.Pairwise fun a b => a.id < b.id := by
  rw [toList, Index.values, List.pairwise_map]
  refine registry.presets.ascending.imp_of_mem fun {first second} mem mem' below => ?_
  rwa [← (registry.consistent first mem).1, ← (registry.consistent second mem').1]

/-- A registry lists each preset that it holds once. -/
theorem Holds.perm_toList (holds : registry.Holds presets) : registry.toList.Perm presets := by
  have once : registry.toList.Nodup := by
    refine registry.toList_ascending.imp fun {a b} below same => ?_
    rw [same] at below
    exact String.lt_irrefl _ below
  have once' : presets.Nodup :=
    holds.compatible.distinct.imp fun differ same => differ (congrArg Preset.id same)
  exact (List.perm_ext_iff_of_nodup once once').mpr fun _ => holds.mem_toList_iff

theorem add_eq_error_iff (holds : registry.Holds earlier) :
    registry.add preset = .error fault ↔ preset.Refused earlier fault := by
  have taken : registry.presets.add? preset.id preset = none ↔
      ∃ other ∈ earlier, other.id = preset.id := by
    rw [← holds.contains_iff, Index.add?]
    split <;> simp_all
  rw [add]
  constructor
  · intro refused
    split at refused
    · rename_i own found
      obtain rfl := Except.error.inj refused
      exact .inconsistent (fault?_eq_some_iff.mp found)
    · rename_i sound
      split at refused
      · rename_i full
        obtain rfl := Except.error.inj refused
        exact .repeated (preset.fault?_eq_none_iff.mp sound) (taken.mp full)
      · cases refused
  · intro refused
    split
    · rename_i own found
      cases refused with
      | inconsistent wrong =>
          rw [fault?_eq_some_iff.mpr wrong] at found
          rw [Option.some.inj found]
      | repeated consistent =>
          rw [preset.fault?_eq_none_iff.mpr consistent] at found
          cases found
    · rename_i sound
      cases refused with
      | inconsistent wrong =>
          rw [fault?_eq_some_iff.mpr wrong] at sound
          cases sound
      | repeated _ repeats =>
          split
          · rfl
          · rename_i added
            rw [taken.mpr repeats] at added
            cases added

theorem Holds.add (holds : registry.Holds earlier) (added : registry.add preset = .ok grown) :
    grown.Holds (earlier ++ [preset]) := by
  have accepted : ∀ fault, ¬preset.Refused earlier fault := fun fault refused => by
    rw [(add_eq_error_iff holds).mpr refused] at added
    cases added
  have consistent : preset.Consistent := by
    rw [← preset.fault?_eq_none_iff]
    exact Option.eq_none_iff_forall_ne_some.mpr fun fault found =>
      accepted fault (.inconsistent (fault?_eq_some_iff.mp found))
  have fresh : ∀ other ∈ earlier, other.id ≠ preset.id := fun other mem same =>
    accepted _ (.repeated consistent ⟨other, mem, same⟩)
  refine ⟨areCompatible_concat_iff.mpr ⟨holds.compatible, consistent, fresh⟩, fun other => ?_⟩
  rw [Index.mem_of_add? (presets_of_add added), holds.entries, List.mem_append, or_comm,
    List.mem_singleton, Prod.mk.injEq]
  exact or_congr_right ⟨And.right, fun same => ⟨congrArg Preset.id same, same⟩⟩

theorem exists_add_iff (holds : registry.Holds earlier) :
    (∃ grown, registry.add preset = .ok grown) ↔ AreCompatible (earlier ++ [preset]) := by
  constructor
  · rintro ⟨grown, added⟩
    exact (holds.add added).compatible
  · intro compatible
    cases tried : registry.add preset with
    | ok grown => exact ⟨grown, rfl⟩
    | error fault =>
        exact absurd compatible ((add_eq_error_iff holds).mp tried).not_areCompatible

/-- What a registry holds at each moment are the presets added so far. -/
theorem Holds.addAll (holds : registry.Holds earlier)
    (added : registry.addAll presets = .ok grown) : grown.Holds (earlier ++ presets) := by
  induction presets generalizing registry earlier with
  | nil =>
      cases added
      rwa [List.append_nil]
  | cons first rest ih =>
      rw [Registry.addAll] at added
      split at added
      · cases added
      · rename_i next one
        rw [List.append_cons]
        exact ih (holds.add one) added

/-- The first preset that is refused ends the work, after others that could be added. -/
theorem addAll_eq_error_iff (holds : registry.Holds earlier) :
    registry.addAll presets = .error fault ↔ ∃ before preset after,
      presets = before ++ preset :: after ∧ AreCompatible (earlier ++ before) ∧
        preset.Refused (earlier ++ before) fault := by
  induction presets generalizing registry earlier with
  | nil => simp [Registry.addAll]
  | cons first rest ih =>
      simp only [List.cons_eq_append_iff]
      rw [Registry.addAll]
      cases tried : registry.add first with
      | error fault' =>
          have refused := (add_eq_error_iff holds).mp tried
          constructor
          · intro same
            obtain rfl := Except.error.inj same
            refine ⟨[], first, rest, .inl ⟨rfl, rfl⟩, ?_⟩
            rw [List.append_nil]
            exact ⟨holds.compatible, refused⟩
          · rintro ⟨before, preset, after, ⟨rfl, split⟩ | ⟨more, rfl, -⟩, compatible, refused'⟩
            · obtain ⟨rfl, -⟩ := List.cons.inj split
              rw [List.append_nil, ← add_eq_error_iff holds, tried] at refused'
              exact congrArg _ (Except.error.inj refused')
            · rw [List.append_cons] at compatible
              obtain ⟨grown, added⟩ := (exists_add_iff holds).mpr compatible.of_append
              rw [tried] at added
              cases added
      | ok grown =>
          dsimp only
          rw [ih (holds.add tried)]
          constructor
          · rintro ⟨before, preset, after, rfl, compatible, refused⟩
            rw [← List.append_cons] at compatible refused
            exact ⟨first :: before, preset, after, .inr ⟨before, rfl, rfl⟩, compatible, refused⟩
          · rintro ⟨before, preset, after, ⟨rfl, split⟩ | ⟨more, rfl, rfl⟩, compatible, refused⟩
            · obtain ⟨rfl, -⟩ := List.cons.inj split
              rw [List.append_nil, ← add_eq_error_iff holds, tried] at refused
              cases refused
            · rw [List.append_cons] at compatible refused
              exact ⟨more, preset, after, rfl, compatible, refused⟩

theorem holds_empty : empty.Holds [] :=
  ⟨⟨by simp, .nil⟩, fun _ => by simp [empty, Index.empty]⟩

/-- What comes of a list of presets. It is a registry just if the presets are consistent and
their ids differ; the registry then finds under each id the preset that is listed with it, and
lists all of them once, in the strict order of their ids. Otherwise the fault is that of the
first preset that is refused, after others that are consistent and have ids of their own. -/
theorem ofList_course (presets : List Preset) :
    ((∃ registry, ofList presets = .ok registry) ↔
      (∀ preset ∈ presets, preset.Consistent) ∧ presets.Pairwise fun a b => a.id ≠ b.id) ∧
    (∀ registry, ofList presets = .ok registry →
      (∀ id preset, registry.lookup id = some preset ↔ preset ∈ presets ∧ preset.id = id) ∧
      (∀ id, registry.lookup id = none ↔ ∀ preset ∈ presets, preset.id ≠ id) ∧
      registry.toList.Perm presets ∧ registry.toList.Pairwise fun a b => a.id < b.id) ∧
    ∀ fault, ofList presets = .error fault ↔ ∃ before preset after,
      presets = before ++ preset :: after ∧
      (∀ earlier ∈ before, earlier.Consistent) ∧ (before.Pairwise fun a b => a.id ≠ b.id) ∧
      preset.Refused before fault := by
  have failed (fault : RegistryFault) : ofList presets = .error fault ↔
      ∃ before preset after, presets = before ++ preset :: after ∧
        AreCompatible before ∧ preset.Refused before fault :=
    addAll_eq_error_iff holds_empty
  refine ⟨⟨?_, ?_⟩, fun registry built => ?_, fun fault => ?_⟩
  · rintro ⟨registry, built⟩
    have holds := holds_empty.addAll built
    exact ⟨holds.compatible.consistent, holds.compatible.distinct⟩
  · rintro ⟨consistent, distinct⟩
    cases built : ofList presets with
    | ok registry => exact ⟨registry, rfl⟩
    | error fault =>
        obtain ⟨before, preset, after, rfl, -, refused⟩ := (failed fault).mp built
        have compatible : AreCompatible (before ++ preset :: after) := ⟨consistent, distinct⟩
        rw [List.append_cons] at compatible
        exact absurd compatible.of_append refused.not_areCompatible
  · have holds : registry.Holds presets := holds_empty.addAll built
    exact ⟨fun _ _ => holds.lookup_eq_some_iff, fun _ => holds.lookup_eq_none_iff,
      holds.perm_toList, registry.toList_ascending⟩
  · rw [failed]
    constructor
    · rintro ⟨before, preset, after, split, compatible, refused⟩
      exact ⟨before, preset, after, split, compatible.consistent, compatible.distinct, refused⟩
    · rintro ⟨before, preset, after, split, consistent, distinct, refused⟩
      exact ⟨before, preset, after, split, ⟨consistent, distinct⟩, refused⟩

end Registry

end Joinery
