import Joinery.Proofs.Pricing.Amounts

/-!
# Which volumes there are

A volume is a product of whole millimetres, divided by a power of ten; the mean of two
heights is taken by multiplying by five and dividing by ten. Main statement: the product
needs no more than 128 bits, the volume is the exact one with the fewest places, and it
is missing only where a mean of heights takes the product past what a decimal holds. No
specification of the standard presets comes near that.
-/

namespace Joinery

open Decimal

/-- The whole number and the places of a volume, where each number that comes up on the
way has to pass a check. -/
def checkedVolumeParts (check : Int → Option Int) (dimensions : List UInt32)
    (policy : HeightPolicy) : Option (Int × Nat) :=
  let dim (slot : Nat) : Int := millimetres dimensions slot
  (check (dim 0 * dim 1)).bind fun footprint =>
    match policy, dimensions[3]? with
    | .averageWithMaximum, some top =>
      (check (dim 2 + top.toNat)).bind fun heights =>
        (check (footprint * heights)).bind fun doubled =>
          (check (doubled * 5)).map fun mantissa => (mantissa, 10)
    | _, _ => (check (footprint * dim 2)).map fun mantissa => (mantissa, 9)

theorem millimetres_lt (dimensions : List UInt32) (slot : Nat) :
    millimetres dimensions slot < 2 ^ 32 :=
  (dimensions.getD slot 0).toNat_lt

/-- A footprint takes up 64 bits. -/
theorem footprint_lt (dimensions : List UInt32) :
    millimetres dimensions 0 * millimetres dimensions 1 < 2 ^ 64 :=
  calc
    _ < 2 ^ 32 * 2 ^ 32 :=
      Nat.mul_lt_mul'' (millimetres_lt dimensions 0) (millimetres_lt dimensions 1)
    _ = 2 ^ 64 := by norm_num

/-- The product of three dimensions takes up 96 bits. -/
theorem declared_lt (dimensions : List UInt32) :
    millimetres dimensions 0 * millimetres dimensions 1 * millimetres dimensions 2 < limit :=
  calc
    _ < 2 ^ 64 * 2 ^ 32 :=
      Nat.mul_lt_mul'' (footprint_lt dimensions) (millimetres_lt dimensions 2)
    _ = limit := by norm_num [limit]

theorem heights_lt (dimensions : List UInt32) :
    millimetres dimensions 2 + millimetres dimensions 3 < 2 ^ 33 := by
  have declared := millimetres_lt dimensions 2
  have top := millimetres_lt dimensions 3
  omega

/-- The product of a footprint with the sum of two heights takes up 97 bits. -/
theorem doubled_lt (dimensions : List UInt32) :
    millimetres dimensions 0 * millimetres dimensions 1 *
      (millimetres dimensions 2 + millimetres dimensions 3) < 2 ^ 97 :=
  calc
    _ < 2 ^ 64 * 2 ^ 33 := Nat.mul_lt_mul'' (footprint_lt dimensions) (heights_lt dimensions)
    _ = 2 ^ 97 := by norm_num

/-- Five times as much takes up 100 bits, which is the most that comes up. -/
theorem averaged_lt (dimensions : List UInt32) :
    millimetres dimensions 0 * millimetres dimensions 1 *
      (millimetres dimensions 2 + millimetres dimensions 3) * 5 < 2 ^ 100 := by
  have doubled := doubled_lt dimensions
  omega

/-- Whatever lets numbers of 100 bits pass does not get in the way of a volume. -/
theorem checkedVolumeParts_eq {check : Int → Option Int}
    (passes : ∀ n : Nat, n < 2 ^ 100 → check n = some (n : Int)) (dimensions : List UInt32)
    (policy : HeightPolicy) :
    checkedVolumeParts check dimensions policy =
      some (((volumeParts dimensions policy).1 : Int), (volumeParts dimensions policy).2) := by
  have footprint := passes _ ((footprint_lt dimensions).trans (by norm_num))
  have declared := passes _ ((declared_lt dimensions).trans (by norm_num [limit]))
  have heights := passes _ ((heights_lt dimensions).trans (by norm_num))
  have doubled := passes _ ((doubled_lt dimensions).trans (by norm_num))
  have averaged := passes _ (averaged_lt dimensions)
  push_cast at footprint declared heights doubled averaged
  cases policy with
  | declaredHeight =>
      rw [volumeParts_of_declared (Or.inl rfl)]
      simp [checkedVolumeParts, footprint, declared]
  | averageWithMaximum =>
      cases last : dimensions[3]? with
      | none =>
          have short : dimensions.length < 4 := by
            have past := List.getElem?_eq_none_iff.mp last
            omega
          rw [volumeParts_of_declared (Or.inr short)]
          simp [checkedVolumeParts, last, footprint, declared]
      | some top =>
          obtain ⟨several, -⟩ := List.getElem?_eq_some_iff.mp last
          have same : top.toNat = millimetres dimensions 3 := by
            simp [millimetres, List.getD_eq_getElem?_getD, last]
          rw [volumeParts_of_averaged several]
          simp [checkedVolumeParts, last, same, footprint, heights, doubled, averaged]

/-- The 128 bit number with a sign that a whole number is, if it fits. -/
def int128? (n : Int) : Option Int := if -2 ^ 127 ≤ n ∧ n < 2 ^ 127 then some n else none

theorem int128?_natCast (n : Nat) (small : n < 2 ^ 100) : int128? n = some (n : Int) := by
  apply if_pos
  omega

variable {dimensions : List UInt32} {policy : HeightPolicy} {v : Decimal}

theorem isNormal_of_volume (made : volume dimensions policy = .ok v) : v.IsNormal := by
  rw [volume] at made
  dsimp only at made
  split at made
  · obtain rfl := Except.ok.inj made
    exact isNormal_normalize _
  · cases made

/-- With the declared height there is always a volume, and it is the exact one. -/
theorem exists_volume_of_declared
    (declared : policy = .declaredHeight ∨ dimensions.length < 4) :
    ∃ v, volume dimensions policy = .ok v ∧
      v.value = millimetres dimensions 0 * millimetres dimensions 1 *
        millimetres dimensions 2 / 10 ^ 9 := by
  have parts := volumeParts_of_declared declared
  obtain ⟨v, made, value⟩ := exists_volume (by rw [parts]; exact declared_lt dimensions)
  refine ⟨v, made, ?_⟩
  rw [value, parts]
  push_cast
  rfl

/-- With the mean of two heights the volume is exact as long as it fits. -/
theorem exists_volume_of_averaged (several : 4 ≤ dimensions.length)
    (fits : 5 * millimetres dimensions 0 * millimetres dimensions 1 *
      (millimetres dimensions 2 + millimetres dimensions 3) < limit) :
    ∃ v, volume dimensions .averageWithMaximum = .ok v ∧
      v.value = millimetres dimensions 0 * millimetres dimensions 1 *
        (millimetres dimensions 2 + millimetres dimensions 3) / (2 * 10 ^ 9) := by
  have parts := volumeParts_of_averaged several
  have whole : (volumeParts dimensions .averageWithMaximum).1 < limit := by
    rw [parts]
    linarith
  obtain ⟨v, made, value⟩ := exists_volume whole
  refine ⟨v, made, ?_⟩
  rw [value, parts]
  push_cast
  ring

/-- The volume does not depend on more than the parts that it is computed from. -/
theorem volume_congr {others : List UInt32} {policy' : HeightPolicy}
    (declared : policy = .declaredHeight ∨ dimensions.length < 4)
    (declared' : policy' = .declaredHeight ∨ others.length < 4)
    (same : ∀ slot < 3, millimetres others slot = millimetres dimensions slot) :
    volume others policy' = volume dimensions policy := by
  have parts : volumeParts others policy' = volumeParts dimensions policy := by
    rw [volumeParts_of_declared declared, volumeParts_of_declared declared', same 0 (by decide),
      same 1 (by decide), same 2 (by decide)]
  rw [volume, parts]
  rfl

/-- No range of a standard preset goes beyond four metres. -/
theorem max_le_of_mem_standard :
    ∀ entry ∈ Registry.standard.presets.entries, ∀ range ∈ entry.2.ranges,
      range.max.toNat ≤ 4000 := by
  decide +kernel

theorem millimetres_le_of_admits {spec : Specification} (admitted : Registry.standard.Admits spec)
    (slot : Nat) : millimetres spec.dimensions slot ≤ 4000 := by
  obtain ⟨preset, known, admitted⟩ := admitted
  rw [millimetres, List.getD_eq_getElem?_getD]
  cases given : spec.dimensions[slot]? with
  | none => decide
  | some d =>
      obtain ⟨within, -⟩ := List.getElem?_eq_some_iff.mp given
      rw [admitted.arity, Preset.arity] at within
      have ranged := List.getElem?_eq_getElem within
      have below := (admitted.ranges slot d _ given ranged).2
      have top := max_le_of_mem_standard _ (Registry.mem_of_lookup known) _
        (List.getElem_mem within)
      exact (UInt32.le_iff_toNat_le.mp below).trans top

/-- What a standard preset admits has a volume with either height. -/
theorem exists_volume_of_admits {spec : Specification}
    (admitted : Registry.standard.Admits spec) (policy : HeightPolicy) :
    ∃ v, volume spec.dimensions policy = .ok v := by
  have most := millimetres_le_of_admits admitted
  by_cases declared : policy = .declaredHeight ∨ spec.dimensions.length < 4
  · obtain ⟨v, made, -⟩ := exists_volume_of_declared declared
    exact ⟨v, made⟩
  · obtain ⟨averaged, several⟩ := not_or.mp declared
    obtain rfl : policy = .averageWithMaximum := by
      cases policy with
      | declaredHeight => exact absurd rfl averaged
      | averageWithMaximum => rfl
    have footprint := Nat.mul_le_mul (Nat.mul_le_mul_left 5 (most 0)) (most 1)
    have product := Nat.mul_le_mul footprint (Nat.add_le_add (most 2) (most 3))
    obtain ⟨v, made, -⟩ := exists_volume_of_averaged (Nat.not_lt.mp several)
      (product.trans_lt (by norm_num [limit]))
    exact ⟨v, made⟩

/-- What the volume of a list of dimensions is. No number on the way to it needs more than
128 bits with a sign. With the declared height, which is the only one if there are not four
dimensions, it is the exact product of the first three, and nothing else plays a part in it.
With the mean of two heights it is exact too, unless five times the product with the sum of
the two needs more than 96 bits; then there is none. It is written with the fewest places,
and whatever a standard preset admits has one. -/
theorem volume_exact (dimensions : List UInt32) (policy : HeightPolicy) :
    let d (slot : Nat) : Nat := millimetres dimensions slot
    checkedVolumeParts int128? dimensions policy =
      some (((volumeParts dimensions policy).1 : Int), (volumeParts dimensions policy).2) ∧
    (policy = .declaredHeight ∨ dimensions.length < 4 →
      (∃ v, volume dimensions policy = .ok v ∧ v.value = d 0 * d 1 * d 2 / 10 ^ 9) ∧
      ∀ (others : List UInt32) (policy' : HeightPolicy),
        policy' = .declaredHeight ∨ others.length < 4 →
          (∀ slot < 3, millimetres others slot = d slot) →
            volume others policy' = volume dimensions policy) ∧
    (policy = .averageWithMaximum → 4 ≤ dimensions.length →
      (∀ fault, volume dimensions policy = .error fault ↔
        fault = .overflow "volume" ∧ 2 ^ 96 ≤ 5 * d 0 * d 1 * (d 2 + d 3)) ∧
      (5 * d 0 * d 1 * (d 2 + d 3) < 2 ^ 96 →
        ∃ v, volume dimensions policy = .ok v ∧
          v.value = d 0 * d 1 * (d 2 + d 3) / (2 * 10 ^ 9))) ∧
    (∀ v, volume dimensions policy = .ok v → v.IsNormal) ∧
    ∀ spec checked, Registry.standard.validate spec = .ok checked →
      ∃ v, volume spec.dimensions policy = .ok v := by
  intro d
  refine ⟨checkedVolumeParts_eq int128?_natCast dimensions policy, ?_, ?_,
    fun v made => isNormal_of_volume made, ?_⟩
  · intro declared
    exact ⟨exists_volume_of_declared declared,
      fun others policy' declared' same => volume_congr declared declared' same⟩
  · rintro rfl several
    have limit_eq : limit = 2 ^ 96 := by norm_num [limit]
    refine ⟨fun fault => ?_, fun fits => exists_volume_of_averaged several (limit_eq ▸ fits)⟩
    have same : d 0 * d 1 * (d 2 + d 3) * 5 = 5 * d 0 * d 1 * (d 2 + d 3) := by ring
    rw [volume_eq_error_iff, volumeParts_of_averaged several, limit_eq, ← same]
  · intro spec checked accepted
    exact exists_volume_of_admits (Registry.validate_eq_ok_iff.mp accepted).1 policy

/-- An attic unit of the largest dimensions that can be written is too large for the mean of
its heights, but not for the declared one. -/
example :
    volume [4294967295, 4294967295, 4294967295, 4294967295] .averageWithMaximum =
      .error (.overflow "volume") := by
  decide +kernel

end Joinery
