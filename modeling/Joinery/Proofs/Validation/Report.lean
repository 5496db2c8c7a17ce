import Joinery.Proofs.Registry.Consistency
import Joinery.Validation
import Mathlib.Data.List.Forall2
import Mathlib.Data.List.Nodup
import Mathlib.Data.List.Perm.Basic

/-!
# Reports on specifications

A report states every violation of a preset once, in a fixed order. Main statement: a
registry accepts just the specifications that the preset they name admits, and about
every other one it makes the one report there is, in which no two entries are about
the same field.
-/

namespace Joinery

/-- The items with a property, each once and in ascending order. -/
structure Enumerates {α : Type} [LT α] (items : List α) (property : α → Prop) : Prop where
  ascending : items.Pairwise (· < ·)
  mem_iff : ∀ x, x ∈ items ↔ property x

namespace Enumerates

variable {α : Type} [LT α] {items others : List α} {property : α → Prop}

theorem nodup [Std.Asymm (α := α) (· < ·)] (listed : Enumerates items property) :
    items.Nodup := by
  refine listed.ascending.imp ?_
  rintro a _ below rfl
  exact Std.Asymm.asymm a a below below

/-- There is one such listing. -/
theorem unique [Std.Asymm (α := α) (· < ·)] (listed : Enumerates items property)
    (listed' : Enumerates others property) : items = others := by
  have same : items.Perm others := (List.perm_ext_iff_of_nodup listed.nodup listed'.nodup).mpr
    fun x => (listed.mem_iff x).trans (listed'.mem_iff x).symm
  exact same.eq_of_pairwise (fun a b _ _ below above => absurd above (Std.Asymm.asymm a b below))
    listed.ascending listed'.ascending

theorem eq_nil_iff (listed : Enumerates items property) : items = [] ↔ ∀ x, ¬property x := by
  simp only [List.eq_nil_iff_forall_not_mem, listed.mem_iff]

end Enumerates

theorem FlagSet.enumerates_difference (flags others : FlagSet) :
    Enumerates (flags.difference others) fun flag => flag ∈ flags ∧ flag ∉ others where
  ascending := flags.ascending.filter _
  mem_iff := flags.mem_difference others

namespace Preset

/-- A specification has a dimension for each slot of the preset, in the range of that
slot, every flag that is demanded and none that is not understood. -/
structure Admits (preset : Preset) (spec : Specification) : Prop where
  arity : spec.dimensions.length = preset.arity
  ranges : ∀ (slot : Nat) (d : UInt32) (range : DimensionRange), spec.dimensions[slot]? = some d →
    preset.ranges[slot]? = some range → range.min ≤ d ∧ d ≤ range.max
  required : ∀ flag ∈ preset.required, flag ∈ spec.flags
  allowed : ∀ flag ∈ spec.flags, flag ∈ preset.allowed

/-- A slot that both sides have, whose dimension is out of its range. -/
def Misses (preset : Preset) (spec : Specification) (slot : Nat) : Prop :=
  ∃ d range, spec.dimensions[slot]? = some d ∧ preset.ranges[slot]? = some range ∧
    ¬(range.min ≤ d ∧ d ≤ range.max)

/-- The entry about a slot whose dimension is out of its range. It carries the name that
the preset has for the slot. -/
inductive RangeEntry (preset : Preset) (spec : Specification) : Nat → Violation → Prop
  | mk {slot : Nat} {d : UInt32} {range : DimensionRange} {name : String}
      (dimension : spec.dimensions[slot]? = some d) (slotRange : preset.ranges[slot]? = some range)
      (named : preset.slotNames[slot]? = some name) (outside : ¬(range.min ≤ d ∧ d ≤ range.max)) :
      RangeEntry preset spec slot (.outOfRange slot name range d)

/-- The entry about the number of dimensions, if that differs from the preset's. -/
def arityEntry (preset : Preset) (spec : Specification) : List Violation :=
  if spec.dimensions.length = preset.arity then []
  else [.arityMismatch preset.arity spec.dimensions.length]

/-- A report goes from the number of dimensions over the slots out of range to the flags
that are missing and those that are unknown, each in ascending order. -/
def Reports (preset : Preset) (spec : Specification) (found : List Violation) : Prop :=
  ∃ (slots : List Nat) (ranged : List Violation) (missing unknown : List Char),
    Enumerates slots (preset.Misses spec) ∧
    List.Forall₂ (preset.RangeEntry spec) slots ranged ∧
    Enumerates missing (fun flag => flag ∈ preset.required ∧ flag ∉ spec.flags) ∧
    Enumerates unknown (fun flag => flag ∈ spec.flags ∧ flag ∉ preset.allowed) ∧
    found = preset.arityEntry spec ++ ranged ++ missing.map .missingRequiredFlag ++
      unknown.map .unknownFlag

variable {preset : Preset} {spec : Specification} {found others : List Violation}

theorem RangeEntry.unique : Relator.RightUnique (preset.RangeEntry spec) := by
  intro slot entry other first second
  obtain ⟨dimension, range, named, -⟩ := first
  obtain ⟨dimension', range', named', -⟩ := second
  obtain rfl := Option.some.inj (dimension.symm.trans dimension')
  obtain rfl := Option.some.inj (range.symm.trans range')
  obtain rfl := Option.some.inj (named.symm.trans named')
  rfl

/-- A preset and a specification leave room for one report. -/
theorem Reports.unique (report : preset.Reports spec found)
    (report' : preset.Reports spec others) : found = others := by
  obtain ⟨slots, ranged, missing, unknown, slots_eq, entries, missing_eq, unknown_eq, rfl⟩ := report
  obtain ⟨_, ranged', _, _, slots_eq', entries', missing_eq', unknown_eq', rfl⟩ := report'
  obtain rfl := slots_eq.unique slots_eq'
  obtain rfl := missing_eq.unique missing_eq'
  obtain rfl := unknown_eq.unique unknown_eq'
  obtain rfl := List.right_unique_forall₂' RangeEntry.unique entries entries'
  rfl

/-- Nothing is reported just where the preset admits the specification. -/
theorem Reports.eq_nil_iff (report : preset.Reports spec found) :
    found = [] ↔ preset.Admits spec := by
  obtain ⟨slots, ranged, missing, unknown, slots_eq, entries, missing_eq, unknown_eq, rfl⟩ := report
  have arity : preset.arityEntry spec = [] ↔ spec.dimensions.length = preset.arity := by
    simp [arityEntry]
  have ranges : ranged = [] ↔ ∀ slot, ¬preset.Misses spec slot := by
    rw [← slots_eq.eq_nil_iff, ← List.length_eq_zero_iff, ← entries.length_eq,
      List.length_eq_zero_iff]
  simp only [List.append_eq_nil_iff, List.map_eq_nil_iff, arity, ranges, missing_eq.eq_nil_iff,
    unknown_eq.eq_nil_iff, not_and_not_right]
  constructor
  · rintro ⟨⟨⟨arity, ranges⟩, required⟩, allowed⟩
    refine ⟨arity, fun slot d range dimension slotRange => ?_, required, allowed⟩
    by_contra outside
    exact ranges slot ⟨d, range, dimension, slotRange, outside⟩
  · rintro ⟨arity, ranges, required, allowed⟩
    refine ⟨⟨⟨arity, ?_⟩, required⟩, allowed⟩
    rintro slot ⟨d, range, dimension, slotRange, outside⟩
    exact outside (ranges slot d range dimension slotRange)

end Preset

namespace Preset

variable {preset : Preset} {spec : Specification}

theorem slotName_eq {slot : Nat} {name : String} (named : preset.slotNames[slot]? = some name) :
    preset.slotName slot = name := by
  rw [slotName, List.getD_eq_getElem?_getD, named, Option.getD_some]

theorem getElem?_of_drop_eq_cons {α : Type} {items rest : List α} {n : Nat} {x : α}
    (front : items.drop n = x :: rest) : items[n]? = some x ∧ items.drop (n + 1) = rest := by
  constructor
  · rw [← Nat.add_zero n, ← List.getElem?_drop, front, List.getElem?_cons_zero]
  · rw [← List.tail_drop, front, List.tail_cons]

/-- Behind the last slot that both sides have, nothing is missed. -/
theorem enumerates_nil_of_drop {first : Nat}
    (ended : spec.dimensions.drop first = [] ∨ preset.ranges.drop first = []) :
    Enumerates [] fun slot => first ≤ slot ∧ preset.Misses spec slot := by
  refine ⟨.nil, fun slot => iff_of_false (by simp) ?_⟩
  rintro ⟨le, d, range, dimension, slotRange, -⟩
  rw [← Nat.add_sub_cancel' le, ← List.getElem?_drop] at dimension slotRange
  rcases ended with ended | ended
  · simp [ended] at dimension
  · simp [ended] at slotRange

/-- From a slot on, the entries are those about the slots that are missed from there on. -/
theorem outOfRange_entries (names : preset.slotNames.length = preset.arity) {first : Nat}
    {ds : List UInt32} {ranges : List DimensionRange} (dimensions : spec.dimensions.drop first = ds)
    (slotRanges : preset.ranges.drop first = ranges) :
    ∃ slots, Enumerates slots (fun slot => first ≤ slot ∧ preset.Misses spec slot) ∧
      List.Forall₂ (preset.RangeEntry spec) slots (preset.outOfRange first ds ranges) := by
  induction ds generalizing first ranges with
  | nil => exact ⟨[], enumerates_nil_of_drop (Or.inl dimensions), .nil⟩
  | cons d ds ih =>
      cases ranges with
      | nil => exact ⟨[], enumerates_nil_of_drop (Or.inr slotRanges), .nil⟩
      | cons range ranges =>
          obtain ⟨dimension, dimensions⟩ := getElem?_of_drop_eq_cons dimensions
          obtain ⟨slotRange, slotRanges⟩ := getElem?_of_drop_eq_cons slotRanges
          obtain ⟨slots, ⟨ascending, members⟩, entries⟩ := ih dimensions slotRanges
          have missed : preset.Misses spec first ↔ range.contains d = false := by
            simp [Misses, dimension, slotRange, ← Bool.not_eq_true, range.contains_iff]
          rw [outOfRange]
          split
          · rename_i within
            have kept : ¬preset.Misses spec first := by simp [missed, within]
            refine ⟨slots, ⟨ascending, fun slot => ?_⟩, entries⟩
            rw [members, Nat.succ_le_iff, Nat.lt_iff_le_and_ne]
            grind
          · rename_i outside
            obtain ⟨name, named⟩ : ∃ name, preset.slotNames[first]? = some name := by
              have bound : first < preset.ranges.length :=
                (List.getElem?_eq_some_iff.mp slotRange).1
              exact ⟨_, List.getElem?_eq_getElem (names ▸ bound)⟩
            refine ⟨first :: slots, ⟨?_, fun slot => ?_⟩, .cons ?_ entries⟩
            · exact List.pairwise_cons.mpr ⟨fun slot mem => ((members slot).mp mem).1, ascending⟩
            · rw [List.mem_cons, members, Nat.succ_le_iff, Nat.lt_iff_le_and_ne]
              grind
            · rw [slotName_eq named]
              exact .mk dimension slotRange named (by rwa [← range.contains_iff])

theorem reports_violations (preset : Preset) (spec : Specification)
    (consistent : preset.Consistent) :
    preset.Reports spec (preset.violations spec) := by
  obtain ⟨slots, listed, entries⟩ :=
    outOfRange_entries consistent.names spec.dimensions.drop_zero preset.ranges.drop_zero
  refine ⟨slots, _, _, _, by simpa using listed, entries, ?_, ?_, rfl⟩
  · exact preset.required.enumerates_difference spec.flags
  · exact spec.flags.enumerates_difference preset.allowed

end Preset

namespace Violation

/-- What a violation is about. -/
inductive Place where
  | preset
  | dimensions
  | dimension (slot : Nat)
  | flag (letter : Char)

namespace Place

/-- The path of the field at a place. -/
def path : Place → String
  | preset => "preset"
  | dimensions => "dimensions"
  | dimension slot => s!"dimensions[{slot}]"
  | flag letter => s!"flags.{letter}"

theorem toList_path (place : Place) :
    place.path.toList = match place with
      | preset => "preset".toList
      | dimensions => "dimensions".toList
      | dimension slot => "dimensions[".toList ++ (Nat.toDigits 10 slot ++ [']'])
      | flag letter => "flags.".toList ++ [letter] := by
  cases place <;> simp [path, toString, Nat.repr]

/-- Different places have different paths. -/
theorem path_injective : Function.Injective path := by
  intro a b same
  have chars := congrArg String.toList same
  rw [toList_path, toList_path] at chars
  cases a <;> cases b <;> simp at chars ⊢
  case dimension.dimension =>
    have value := congrArg (Nat.ofDigitChars 10 · 0) chars
    simpa only [Nat.ofDigitChars_ten_toDigits] using value
  case flag.flag => exact chars

end Place

/-- Missing and unknown flags are named at the same places. -/
def place : Violation → Place
  | unknownPreset _ => .preset
  | arityMismatch .. => .dimensions
  | outOfRange slot .. => .dimension slot
  | missingRequiredFlag flag => .flag flag
  | unknownFlag flag => .flag flag

theorem field_eq_path (violation : Violation) : violation.field = violation.place.path := by
  cases violation <;> rfl

end Violation

namespace Preset

variable {preset : Preset} {spec : Specification} {found : List Violation}

theorem map_place_of_entries {slots : List Nat} {ranged : List Violation}
    (entries : List.Forall₂ (preset.RangeEntry spec) slots ranged) :
    ranged.map Violation.place = slots.map .dimension := by
  induction entries with
  | nil => rfl
  | cons first _ ih =>
      cases first
      rw [List.map_cons, List.map_cons, ih]
      rfl

/-- No flag is both missing and unknown, as the preset understands what it demands. -/
theorem Reports.nodup_fields (consistent : preset.Consistent) (report : preset.Reports spec found) :
    (found.map Violation.field).Nodup := by
  obtain ⟨slots, ranged, missing, unknown, slots_eq, entries, missing_eq, unknown_eq, rfl⟩ := report
  have apart : ∀ flag ∈ missing, flag ∉ unknown := by
    intro flag absent present
    have demanded := ((missing_eq.mem_iff flag).mp absent).1
    exact ((unknown_eq.mem_iff flag).mp present).2 (consistent.required flag demanded)
  have places (entries : List Violation) :
      entries.map Violation.field = (entries.map Violation.place).map Violation.Place.path := by
    rw [List.map_map]
    exact List.map_congr_left fun entry _ => entry.field_eq_path
  rw [places]
  apply List.Nodup.map Violation.Place.path_injective
  have slots_once : (slots.map Violation.Place.dimension).Nodup :=
    slots_eq.nodup.map fun _ _ same => Violation.Place.dimension.inj same
  have flags_once : ((missing ++ unknown).map Violation.Place.flag).Nodup :=
    (missing_eq.nodup.append unknown_eq.nodup apart).map fun _ _ same =>
      Violation.Place.flag.inj same
  have split : (preset.arityEntry spec ++ ranged ++ missing.map Violation.missingRequiredFlag ++
      unknown.map Violation.unknownFlag).map Violation.place =
        (preset.arityEntry spec).map Violation.place ++
          (slots.map .dimension ++ (missing ++ unknown).map .flag) := by
    simp [map_place_of_entries entries, Function.comp_def, Violation.place]
  rw [split, List.nodup_append, List.nodup_append, arityEntry]
  refine ⟨?_, ⟨slots_once, flags_once, ?_⟩, ?_⟩
  · split <;> simp
  · rintro _ dimension _ flag rfl
    obtain ⟨slot, -, rfl⟩ := List.mem_map.mp dimension
    simp at flag
  · rintro _ count _ other rfl
    split at count
    · simp at count
    · obtain rfl : _ = Violation.Place.dimensions := by simpa [Violation.place] using count
      simp at other

end Preset

/-- It does not matter which registry accepts a specification. -/
theorem CheckedSpecification.eq_of_spec_eq {checked other : CheckedSpecification}
    (same : checked.spec = other.spec) : checked = other := by
  cases checked
  cases other
  simpa using same

namespace Registry

/-- A registry admits what the preset of the given id admits. -/
def Admits (registry : Registry) (spec : Specification) : Prop :=
  ∃ preset, registry.lookup spec.presetId = some preset ∧ preset.Admits spec

/-- Without a preset to compare with, that alone is reported. -/
def Reports (registry : Registry) (spec : Specification) (found : List Violation) : Prop :=
  match registry.lookup spec.presetId with
  | none => found = [.unknownPreset spec.presetId]
  | some preset => preset.Reports spec found

variable {registry : Registry} {spec : Specification} {found others : List Violation}

theorem reports_iff : registry.Reports spec found ↔ found = registry.violations spec := by
  rw [Reports, violations]
  cases known : registry.lookup spec.presetId with
  | none => rfl
  | some preset =>
      have report := preset.reports_violations spec (consistent_of_lookup known).2
      exact ⟨fun other => other.unique report, fun same => same ▸ report⟩

theorem violations_eq_nil_iff : registry.violations spec = [] ↔ registry.Admits spec := by
  rw [violations, Admits]
  cases known : registry.lookup spec.presetId with
  | none => simp
  | some preset =>
      have report := preset.reports_violations spec (consistent_of_lookup known).2
      simp [report.eq_nil_iff]

theorem Admits.length_dimensions (admitted : registry.Admits spec) :
    spec.dimensions.length = 3 ∨ spec.dimensions.length = 4 := by
  obtain ⟨preset, known, admitted⟩ := admitted
  rw [admitted.arity]
  exact (consistent_of_lookup known).2.arity

theorem nodup_fields : ((registry.violations spec).map Violation.field).Nodup := by
  rw [violations]
  cases known : registry.lookup spec.presetId with
  | none => simp
  | some preset =>
      have consistent := (consistent_of_lookup known).2
      exact (preset.reports_violations spec consistent).nodup_fields consistent

theorem validate_eq_ok_iff {checked : CheckedSpecification} :
    registry.validate spec = .ok checked ↔ registry.Admits spec ∧ checked.spec = spec := by
  rw [validate, ← violations_eq_nil_iff]
  split
  · rename_i accepted
    rw [Except.ok.injEq]
    constructor
    · rintro rfl
      exact ⟨accepted, rfl⟩
    · rintro ⟨-, rfl⟩
      rfl
  · rename_i refused
    simp [refused]

theorem check_eq_ok_iff {code : String} {checked : CheckedSpecification} :
    registry.check code = .ok checked ↔
      Code.parse code = .ok checked.spec ∧ registry.Admits checked.spec := by
  rw [check]
  cases read : Code.parse code with
  | error fault => simp
  | ok spec =>
      dsimp only
      cases compared : registry.validate spec with
      | error violations =>
          have refused : ¬registry.Admits spec := by
            intro admitted
            rw [validate, dif_pos (violations_eq_nil_iff.mpr admitted)] at compared
            cases compared
          simp only [reduceCtorEq, Except.ok.injEq, false_iff, not_and]
          exact fun same => same ▸ refused
      | ok other =>
          obtain ⟨admitted, rfl⟩ := validate_eq_ok_iff.mp compared
          simp only [Except.ok.injEq]
          constructor
          · rintro rfl
            exact ⟨rfl, admitted⟩
          · rintro ⟨same, -⟩
            exact CheckedSpecification.eq_of_spec_eq same

/-- A code is on offer if it can be read and nothing in what it describes disagrees. -/
theorem exists_check_iff {code : String} :
    (∃ checked, registry.check code = .ok checked) ↔
      ∃ spec, Code.parse code = .ok spec ∧ registry.violations spec = [] := by
  constructor
  · rintro ⟨checked, accepted⟩
    obtain ⟨read, admitted⟩ := check_eq_ok_iff.mp accepted
    exact ⟨checked.spec, read, violations_eq_nil_iff.mpr admitted⟩
  · rintro ⟨spec, read, none⟩
    exact ⟨⟨spec, registry, none⟩, check_eq_ok_iff.mpr ⟨read, violations_eq_nil_iff.mp none⟩⟩

/-- A specification is accepted as it is just where the preset it names admits it.
Otherwise the registry makes the one report on it, which is not empty and names no field
twice. -/
theorem validate_eq_report (registry : Registry) (spec : Specification) :
    ((∃ checked, registry.validate spec = .ok checked ∧ checked.spec = spec) ↔
      registry.Admits spec) ∧
    (¬registry.Admits spec →
      ∃ violations, registry.validate spec = .error violations ∧ violations.toList ≠ [] ∧
        (∀ found, registry.Reports spec found ↔ found = violations.toList) ∧
        (violations.toList.map Violation.field).Nodup) := by
  constructor
  · constructor
    · rintro ⟨checked, accepted, -⟩
      exact (validate_eq_ok_iff.mp accepted).1
    · intro admitted
      have accepted := violations_eq_nil_iff.mpr admitted
      exact ⟨⟨spec, registry, accepted⟩, validate_eq_ok_iff.mpr ⟨admitted, rfl⟩, rfl⟩
  · intro refused
    have some_violation : registry.violations spec ≠ [] := mt violations_eq_nil_iff.mp refused
    refine ⟨⟨registry.violations spec, some_violation⟩, ?_, some_violation, ?_, nodup_fields⟩
    · rw [validate, dif_neg some_violation]
    · exact fun found => reports_iff

end Registry

namespace CheckedSpecification

theorem exists_admits (checked : CheckedSpecification) :
    ∃ registry : Registry, registry.Admits checked.spec := by
  obtain ⟨registry, accepted⟩ := checked.accepted
  exact ⟨registry, Registry.violations_eq_nil_iff.mp accepted⟩

/-- A checked specification has three dimensions or four. -/
theorem length_dimensions (checked : CheckedSpecification) :
    checked.spec.dimensions.length = 3 ∨ checked.spec.dimensions.length = 4 := by
  obtain ⟨registry, admitted⟩ := checked.exists_admits
  exact admitted.length_dimensions

theorem several_dimensions (checked : CheckedSpecification) :
    1 < checked.spec.dimensions.length := by
  have count := checked.length_dimensions
  omega

end CheckedSpecification

end Joinery
