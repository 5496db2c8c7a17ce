import Joinery.Proofs.Decimal.Fitting
import Mathlib.Data.Rat.Floor

/-!
# Decimals as rational amounts

A decimal stands for a rational number, whatever its places. Main statements: a
product or a sum of amounts that are not below zero is the exact result rounded to
what fits; so it is exact whenever some decimal is the exact result, it grows with
the exact result, and it fits wherever a greater one does. Rounding to whole units
takes the nearest number, a half going away from zero.
-/

namespace Joinery.Decimal

open Rounding

variable {x y : Decimal}

/-- The rational number that a decimal stands for. -/
def value (x : Decimal) : ℚ := x.signed / 10 ^ x.scale

/-- Some decimal is the amount. -/
def Representable (q : ℚ) : Prop := ∃ x : Decimal, x.value = q

theorem value_ofParts (negative : Bool) {m s : Nat} (fits : m < limit) (places : s ≤ 28) :
    (ofParts negative m s fits places).value = (if negative then -m else m : ℚ) / 10 ^ s := by
  by_cases none : m = 0
  · subst none
    simp [value, signed, ofParts]
  · cases negative <;> simp [value, signed, ofParts, none]

@[simp] theorem value_zero : Decimal.zero.value = 0 := by
  simp [value, signed, Decimal.zero, ofParts]

theorem value_of_nonneg (nonneg : 0 ≤ x.value) : x.value = x.mantissa / 10 ^ x.scale := by
  cases sign : x.negative with
  | false => simp [value, signed, sign]
  | true =>
      have positive : (0 : ℚ) < 10 ^ x.scale := by positivity
      have none : (x.mantissa : ℚ) = 0 := by
        rw [value, signed, sign, if_pos rfl, le_div_iff₀ positive] at nonneg
        push_cast at nonneg
        have least : (0 : ℚ) ≤ x.mantissa := Nat.cast_nonneg _
        linarith
      simp [value, signed, sign, none]

theorem value_eq_zero_iff : x.value = 0 ↔ x.isZero = true := by
  cases sign : x.negative <;> simp [value, signed, sign, isZero]

theorem negative_eq_false (nonneg : 0 ≤ x.value) (some_amount : x.isZero = false) :
    x.negative = false := by
  by_contra sign
  have below : x.value = -(x.mantissa / 10 ^ x.scale) := by
    simp [value, signed, Bool.eq_true_of_not_eq_false sign, neg_div]
  have same := value_of_nonneg nonneg
  have none : x.value = 0 := by linarith
  rw [value_eq_zero_iff, some_amount] at none
  cases none

theorem value_pos (positive : x.isPositive = true) : 0 < x.value := by
  obtain ⟨some_amount, sign⟩ : x.mantissa ≠ 0 ∧ x.negative = false := by
    simpa [isPositive] using positive
  have mantissa : (0 : ℚ) < x.mantissa := by exact_mod_cast Nat.pos_of_ne_zero some_amount
  rw [value, signed, sign]
  exact div_pos mantissa (by positivity)

theorem value_nonneg (plus : x.isNegative = false) : 0 ≤ x.value := by
  by_cases none : x.mantissa = 0
  · exact (value_eq_zero_iff.mpr (by simp [isZero, none])).ge
  · have sign : x.negative = false := by simpa [isNegative, none] using plus
    rw [value, signed, sign]
    exact div_nonneg (Nat.cast_nonneg _) (by positivity)

theorem value_pos_iff : 0 < x.value ↔ x.isPositive = true := by
  refine ⟨fun positive => ?_, value_pos⟩
  have some_amount : x.isZero = false := by
    by_contra none
    rw [value_eq_zero_iff.mpr (Bool.eq_true_of_not_eq_false none)] at positive
    exact lt_irrefl _ positive
  have sign := negative_eq_false positive.le some_amount
  have mantissa : x.mantissa ≠ 0 := by simpa [isZero] using some_amount
  simp [isPositive, sign, mantissa]

theorem value_nonneg_iff : 0 ≤ x.value ↔ x.isNegative = false := by
  refine ⟨fun nonneg => ?_, value_nonneg⟩
  by_cases none : x.isZero = true
  · have mantissa : x.mantissa = 0 := by simpa [isZero] using none
    simp [isNegative, mantissa]
  · simp [isNegative, negative_eq_false nonneg (Bool.eq_false_iff.mpr none)]

theorem value_ofUInt32 (n : UInt32) : (ofUInt32 n).value = n.toNat := by
  simp [ofUInt32, value_ofParts]

/-- The exact result of an operation is rounded to what fits, or does not fit even as a
whole number. -/
inductive Carries (q : ℚ) : Option Decimal → Prop
  | kept {x : Decimal} {r p : Nat} (fitted : Fitted q r p) (value : x.value = r / 10 ^ p) :
      Carries q (some x)
  | lost (long : limit ≤ nearest q) : Carries q none

variable {q q' : ℚ} {result result' : Option Decimal} {x' : Decimal}

/-- A smaller exact result fits as well, and is not kept as a greater amount. -/
theorem Carries.mono (carries : Carries q result) (carries' : Carries q' (some x'))
    (nonneg : 0 ≤ q) (le : q ≤ q') : ∃ x, result = some x ∧ x.value ≤ x'.value := by
  cases carries' with
  | @kept _ r' p' fitted' value' =>
  cases carries with
  | kept fitted value =>
      refine ⟨_, rfl, ?_⟩
      rw [value, value']
      exact fitted.mono fitted' nonneg le
  | lost long =>
      have nonneg' : 0 ≤ q' := nonneg.trans le
      have more : q ≤ q' * 10 ^ p' := by
        calc
          q ≤ q' := le
          _ = q' * 1 := (mul_one q').symm
          _ ≤ q' * 10 ^ p' := mul_le_mul_of_nonneg_left (one_le_pow₀ (by norm_num)) nonneg'
      have reached := nearest_mono nonneg more
      have small := fitted'.fits
      rw [fitted'.rounded] at small
      omega

theorem Carries.value_eq_held (carries : Carries q (some x)) (nonneg : 0 ≤ q) :
    x.value = held q := by
  cases carries with
  | kept fitted value => exact value.trans (fitted.eq_held nonneg)

/-- The result is exact if and only if some decimal is the exact result. -/
theorem Carries.value_eq_iff (carries : Carries q (some x)) (nonneg : 0 ≤ q) :
    x.value = q ↔ Representable q := by
  constructor
  · exact fun exact => ⟨x, exact⟩
  · rintro ⟨y, rfl⟩
    cases carries with
    | kept fitted value =>
        exact value.trans (fitted.exact y.mantissa_lt y.scale_le (value_of_nonneg nonneg))

theorem Carries.of_value_eq (carries : Carries q (some x)) (same : y.value = x.value) :
    Carries q (some y) := by
  cases carries with
  | kept fitted value => exact .kept fitted (same.trans value)

theorem Carries.value_nonneg (carries : Carries q (some x)) : 0 ≤ x.value := by
  cases carries with
  | kept fitted value =>
      rw [value]
      positivity

/-- There is a result just where the nearest whole number fits. -/
theorem Carries.isSome_iff (carries : Carries q result) (nonneg : 0 ≤ q) :
    result.isSome = true ↔ nearest q < limit := by
  cases carries with
  | @kept x r p fitted value =>
      have more : q ≤ q * 10 ^ p := le_mul_of_one_le_right nonneg (one_le_pow₀ (by norm_num))
      have whole : nearest q ≤ r := fitted.rounded ▸ nearest_mono nonneg more
      simp [whole.trans_lt fitted.fits]
  | lost long => simp [long]

/-- A decimal keeps its own amount. -/
theorem carries_self (nonneg : 0 ≤ x.value) : Carries x.value (some x) := by
  have whole : x.value * 10 ^ x.scale = x.mantissa := by
    rw [value_of_nonneg nonneg]
    field_simp
  refine .kept ⟨x.scale_le, x.mantissa_lt, ?_, fun _ => Or.inl whole.symm⟩ (value_of_nonneg nonneg)
  rw [whole, nearest_natCast]

/-- A decimal is held as it is. -/
theorem held_eq_self (nonneg : 0 ≤ q) (representable : Representable q) : held q = q := by
  obtain ⟨x, rfl⟩ := representable
  exact ((carries_self nonneg).value_eq_held nonneg).symm

/-- A decimal that bounds the exact result from above bounds what is kept. -/
theorem Carries.value_le (carries : Carries q (some x)) (nonneg : 0 ≤ q) (le : q ≤ y.value) :
    x.value ≤ y.value := by
  obtain ⟨kept, same, below⟩ := carries.mono (carries_self (nonneg.trans le)) nonneg le
  obtain rfl := Option.some.inj same
  exact below

/-- A decimal that bounds the exact result from below bounds what is kept. -/
theorem Carries.le_value (carries : Carries q (some x)) (nonneg : 0 ≤ y.value)
    (le : y.value ≤ q) : y.value ≤ x.value := by
  obtain ⟨kept, same, below⟩ := (carries_self nonneg).mono carries nonneg le
  obtain rfl := Option.some.inj same
  exact below

theorem carries_bind_fit? {m s : Nat} {make : Nat × Nat → Option Decimal}
    (makes : ∀ r p, r < limit → p ≤ 28 → ∃ x, make (r, p) = some x ∧ x.value = r / 10 ^ p) :
    Carries (m / 10 ^ s : ℚ) ((fit? m s).bind make) := by
  cases fits : fit? m s with
  | none => exact .lost (le_nearest_of_fit?_eq_none fits)
  | some parts =>
      obtain ⟨r, p⟩ := parts
      have fitted := fitted_of_fit? fits
      obtain ⟨x, made, value⟩ := makes r p fitted.fits fitted.places
      rw [Option.bind_some, made]
      exact .kept fitted value

theorem ofParts?_false {r p : Nat} (fits : r < limit) (places : p ≤ 28) :
    ∃ x, ofParts? false r p = some x ∧ x.value = r / 10 ^ p := by
  refine ⟨ofParts false r p fits places, by rw [ofParts?, dif_pos ⟨fits, places⟩], ?_⟩
  simp [value_ofParts]

theorem ofSignedParts?_false {r p : Nat} (fits : r < limit) (places : p ≤ 28) :
    ∃ x, ofSignedParts? false r p = some x ∧ x.value = r / 10 ^ p := by
  refine ⟨⟨false, r, p, fits, places⟩, by rw [ofSignedParts?, dif_pos ⟨fits, places⟩], ?_⟩
  simp [value, signed]

/-- Two mantissas of 32 bits with more than 47 places between them have a product that
is nearest to zero. -/
theorem fitted_zero_of_areShort (short : areShort x y = true) (places : 47 < x.scale + y.scale) :
    Fitted ((x.mantissa * y.mantissa : Nat) / 10 ^ (x.scale + y.scale) : ℚ) 0 28 := by
  obtain ⟨low, low'⟩ : x.mantissa < 2 ^ 32 ∧ y.mantissa < 2 ^ 32 := by
    have short : max x.mantissa y.mantissa < UInt32.size := by simpa [areShort] using short
    exact max_lt_iff.mp short
  have product : x.mantissa * y.mantissa < 2 ^ 64 := by
    calc
      x.mantissa * y.mantissa < 2 ^ 32 * 2 ^ 32 := Nat.mul_lt_mul'' low low'
      _ = 2 ^ 64 := by norm_num
  have bound : ((x.mantissa * y.mantissa : Nat) / 10 ^ (x.scale + y.scale) * 10 ^ 28 : ℚ) <
      1 / 2 := by
    have cast : ((x.mantissa * y.mantissa : Nat) : ℚ) < 2 ^ 64 := by exact_mod_cast product
    have more : (10 : ℚ) ^ 48 ≤ 10 ^ (x.scale + y.scale) :=
      pow_le_pow_right₀ (by norm_num) places
    rw [div_mul_eq_mul_div, div_lt_iff₀ (by positivity)]
    linarith
  have least := nearest_eq_zero (by positivity) bound
  exact ⟨le_rfl, by decide, least.symm, by simp⟩

theorem carries_mul (nonneg : 0 ≤ x.value) (nonneg' : 0 ≤ y.value) :
    Carries (x.value * y.value) (x.mul? y) := by
  by_cases zero : x.isZero = true ∨ y.isZero = true
  · have none : x.value * y.value = 0 := by
      rcases zero with zero | zero <;> simp [value_eq_zero_iff.mpr zero]
    have nothing : x.mul? y = some .zero := by
      rcases zero with zero | zero <;> simp [mul?, zero]
    rw [none, nothing]
    exact value_zero ▸ carries_self value_zero.ge
  · have amounts : x.isZero = false ∧ y.isZero = false := by simpa using zero
    have product : x.value * y.value =
        ((x.mantissa * y.mantissa : Nat) / 10 ^ (x.scale + y.scale) : ℚ) := by
      rw [value_of_nonneg nonneg, value_of_nonneg nonneg', pow_add]
      push_cast
      field_simp
    have sign : (x.negative != y.negative) = false := by
      simp [negative_eq_false nonneg amounts.1, negative_eq_false nonneg' amounts.2]
    rw [product]
    by_cases tiny : areShort x y = true ∧ 47 < x.scale + y.scale
    · have nothing : x.mul? y = some .zero := by simp [mul?, tiny]
      rw [nothing]
      exact .kept (fitted_zero_of_areShort tiny.1 tiny.2) (by simp)
    · have fitting : x.mul? y = (fit? (x.mantissa * y.mantissa) (x.scale + y.scale)).bind
          fun parts => if areShort x y then ofParts? false parts.1 parts.2
            else ofSignedParts? false parts.1 parts.2 := by
        simp only [mul?, amounts, sign]
        rw [if_neg (by simpa using tiny)]
      rw [fitting]
      apply carries_bind_fit?
      intro r p fits places
      split
      · exact ofParts?_false fits places
      · exact ofSignedParts?_false fits places

theorem signedAt_div {scale : Nat} (le : x.scale ≤ scale) :
    (x.signedAt scale / 10 ^ scale : ℚ) = x.value := by
  have split : (10 : ℚ) ^ scale = 10 ^ (scale - x.scale) * 10 ^ x.scale := by
    rw [← pow_add, Nat.sub_add_cancel le]
  have shifted : (x.signedAt scale : ℚ) = x.signed * 10 ^ (scale - x.scale) := by
    rw [signedAt]
    push_cast [Nat.pow_eq]
    rfl
  rw [value, shifted, split]
  field_simp

theorem carries_add (nonneg : 0 ≤ x.value) (nonneg' : 0 ≤ y.value) :
    Carries (x.value + y.value) (x.add? y) := by
  by_cases zero : x.isZero = true
  · rw [value_eq_zero_iff.mpr zero, zero_add, add?, if_pos zero]
    exact carries_self nonneg'
  by_cases zero' : y.isZero = true
  · rw [value_eq_zero_iff.mpr zero', add_zero, add?, if_neg zero, if_pos zero']
    exact carries_self nonneg
  · rw [add?, if_neg zero, if_neg zero']
    dsimp only
    generalize common : max x.scale y.scale = scale
    have exact : ((x.signedAt scale + y.signedAt scale : Int) / 10 ^ scale : ℚ) =
        x.value + y.value := by
      rw [Int.cast_add, add_div, signedAt_div (by omega), signedAt_div (by omega)]
    have least : 0 ≤ x.signedAt scale + y.signedAt scale := by
      have least : (0 : ℚ) ≤ (x.signedAt scale + y.signedAt scale : Int) := by
        have nonneg_sum : (0 : ℚ) ≤ x.value + y.value := add_nonneg nonneg nonneg'
        rwa [← exact, le_div_iff₀ (by positivity), zero_mul] at nonneg_sum
      exact_mod_cast least
    have magnitude : ((x.signedAt scale + y.signedAt scale).natAbs : ℚ) =
        (x.signedAt scale + y.signedAt scale : Int) := by
      rw [← Int.cast_natCast, Int.natAbs_of_nonneg least]
    rw [← exact, ← magnitude]
    apply carries_bind_fit?
    intro r p fits places
    rw [decide_eq_false (Int.not_lt.mpr least)]
    exact ofParts?_false fits places

theorem trim_div (m s : Nat) : ((trim m s).1 / 10 ^ (trim m s).2 : ℚ) = m / 10 ^ s := by
  induction s generalizing m with
  | zero => rfl
  | succ s ih =>
      rw [trim]
      split
      · rename_i tens
        have whole : m / 10 * 10 = m := Nat.div_mul_cancel (Nat.dvd_of_mod_eq_zero tens)
        have rational : ((m / 10 : Nat) : ℚ) * 10 = m := by exact_mod_cast whole
        rw [ih, pow_succ, ← rational]
        field_simp
      · rfl

@[simp] theorem value_normalize (x : Decimal) : x.normalize.value = x.value := by
  rw [normalize]
  split
  · rename_i zero
    rw [value_zero, value_eq_zero_iff.mpr zero]
  · have trimmed := trim_div x.mantissa x.scale
    rw [value_ofParts]
    cases sign : x.negative with
    | false => simpa [value, signed, sign] using trimmed
    | true => simpa [value, signed, sign, neg_div] using trimmed

/-- No zero stands at the end of the fraction. -/
def IsNormal (x : Decimal) : Prop := x.scale = 0 ∨ x.mantissa % 10 ≠ 0

theorem trim_isNormal (m s : Nat) : (trim m s).2 = 0 ∨ (trim m s).1 % 10 ≠ 0 := by
  induction s generalizing m with
  | zero => exact Or.inl rfl
  | succ s ih =>
      rw [trim]
      split
      · exact ih (m / 10)
      · rename_i last
        exact Or.inr last

theorem isNormal_normalize (x : Decimal) : x.normalize.IsNormal := by
  rw [normalize]
  split
  · exact Or.inl rfl
  · exact trim_isNormal x.mantissa x.scale

/-- The nearest whole number, a half going away from zero. -/
def halfAway (q : ℚ) : ℤ := if q < 0 then -⌊-q + 1 / 2⌋ else ⌊q + 1 / 2⌋

theorem halfAway_of_nonneg (nonneg : 0 ≤ q) : halfAway q = ⌊q + 1 / 2⌋ :=
  if_neg (not_lt.mpr nonneg)

theorem halfUp_eq_floor (n : Nat) {d : Nat} (pos : 0 < d) :
    (halfUp n d : ℤ) = ⌊(n / d + 1 / 2 : ℚ)⌋ := by
  have half : (n / d + 1 / 2 : ℚ) = (2 * n + d : Nat) / (2 * d : Nat) := by
    have positive : (d : ℚ) ≠ 0 := by exact_mod_cast pos.ne'
    push_cast
    field_simp
  rw [halfUp_eq n d pos, half, Rat.floor_natCast_div_natCast]
  rfl

theorem round_eq_halfAway (x : Decimal) : x.round = halfAway x.value := by
  have magnitude := halfUp_eq_floor x.mantissa (Nat.pow_pos (n := x.scale) (show 0 < 10 by decide))
  cases sign : x.negative with
  | false =>
      have value : x.value = x.mantissa / 10 ^ x.scale := by simp [Decimal.value, signed, sign]
      have nonneg : 0 ≤ x.value := by rw [value]; positivity
      rw [halfAway_of_nonneg nonneg, value]
      simpa [round, sign] using magnitude
  | true =>
      have value : x.value = -(x.mantissa / 10 ^ x.scale) := by
        simp [Decimal.value, signed, sign, neg_div]
      by_cases none : x.mantissa = 0
      · have zero : x.value = 0 := by simp [value, none]
        have nothing : halfUp 0 (10 ^ x.scale) = 0 := by simp [halfUp]
        have down : ⌊(1 / 2 : ℚ)⌋ = 0 := by norm_num
        rw [zero, halfAway_of_nonneg le_rfl, zero_add, down]
        simp [round, none, nothing]
      · have below : x.value < 0 := by
          have positive : (0 : ℚ) < x.mantissa := by exact_mod_cast Nat.pos_of_ne_zero none
          rw [value, neg_lt_zero]
          positivity
        rw [halfAway, if_pos below, value, neg_neg]
        simpa [round, sign] using magnitude

theorem representable_add_half {k : ℕ} (small : k ≤ 2 ^ 63) : Representable (k + 1 / 2) := by
  have fits : 10 * k + 5 < limit := by
    norm_num [limit] at small ⊢
    omega
  refine ⟨ofParts false (10 * k + 5) 1 fits (by decide), ?_⟩
  rw [value_ofParts]
  push_cast
  ring

theorem Carries.lt_of_halfAway_lt (carries : Carries q (some x))
    (small : halfAway x.value < 2 ^ 63) : q < 2 ^ 63 := by
  by_contra large
  have whole : (ofParts false (2 ^ 63) 0 (by decide) (by decide)).value = 2 ^ 63 := by
    norm_num [value_ofParts]
  have reached := carries.le_value (whole ▸ by positivity) (whole ▸ not_lt.mp large)
  rw [whole] at reached
  rw [halfAway_of_nonneg carries.value_nonneg, Int.floor_lt] at small
  push_cast at small
  linarith

/-- What is kept of an exact result has the same nearest whole number, unless it was
brought up onto a half. Halves are decimals themselves, so nothing is brought across
one. -/
theorem Carries.halfAway_eq_iff (carries : Carries q (some x)) (nonneg : 0 ≤ q)
    (small : halfAway x.value < 2 ^ 63) :
    halfAway x.value = halfAway q ↔ ¬(q < x.value ∧ ∃ k : ℕ, x.value = k + 1 / 2) := by
  have bounded : q < 2 ^ 63 := carries.lt_of_halfAway_lt small
  rw [halfAway_of_nonneg carries.value_nonneg, halfAway_of_nonneg nonneg]
  constructor
  · rintro same ⟨raised, k, half⟩
    have up : ⌊x.value + 1 / 2⌋ = k + 1 := by
      rw [Int.floor_eq_iff, half]
      push_cast
      constructor <;> linarith
    have down : ⌊q + 1 / 2⌋ < k + 1 := by
      rw [Int.floor_lt]
      push_cast
      linarith
    omega
  · intro away
    obtain ⟨k, whole⟩ := Int.eq_ofNat_of_zero_le
      (Int.floor_nonneg.mpr (show 0 ≤ q + 1 / 2 by linarith))
    obtain ⟨least, most⟩ : (k : ℚ) ≤ q + 1 / 2 ∧ q + 1 / 2 < k + 1 := by
      simpa using Int.floor_eq_iff.mp whole
    have few : k ≤ 2 ^ 63 := by
      have below : (k : ℚ) < 2 ^ 63 + 1 := by linarith
      exact Nat.lt_succ_iff.mp (by exact_mod_cast below)
    -- The exact result lies between two halves, and so does what is kept.
    have lower : (k : ℚ) ≤ x.value + 1 / 2 := by
      cases k with
      | zero =>
          have nonneg' := carries.value_nonneg
          push_cast
          linarith
      | succ k =>
          obtain ⟨y, half⟩ := representable_add_half (Nat.le_of_succ_le few)
          push_cast at least ⊢
          have kept := carries.le_value (half ▸ by positivity) (half.trans_le (by linarith))
          linarith
    have upper : x.value + 1 / 2 < k + 1 := by
      obtain ⟨y, half⟩ := representable_add_half few
      have kept := carries.value_le nonneg (show q ≤ y.value by linarith)
      have apart : x.value ≠ k + 1 / 2 := fun tie => away ⟨by linarith, k, tie⟩
      have below : x.value < k + 1 / 2 := lt_of_le_of_ne (kept.trans_eq half) apart
      linarith
    rw [whole, Int.floor_eq_iff]
    exact ⟨by exact_mod_cast lower, by exact_mod_cast upper⟩

end Joinery.Decimal
