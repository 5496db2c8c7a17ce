import Joinery.Proofs.Pricing.Amounts
import Mathlib.Data.Sign.Basic
import Mathlib.Tactic.Linarith

/-!
# Amounts in whole units

An amount is rounded to the nearest whole number of units, a half going away from zero.
Main statement: this succeeds just for the amounts whose nearest number has 64 bits, whatever
their sign, mantissa and places; it depends on the amount alone, keeps the order of amounts
and changes its sign with them.
-/

namespace Joinery

namespace Decimal

variable {q q' : ℚ}

theorem halfAway_zero : halfAway 0 = 0 := by
  rw [halfAway_of_nonneg le_rfl]
  norm_num

theorem halfAway_neg (q : ℚ) : halfAway (-q) = -halfAway q := by
  rcases lt_trichotomy q 0 with below | rfl | above
  · rw [halfAway_of_nonneg (neg_nonneg.mpr below.le), halfAway, if_pos below, neg_neg]
  · rw [neg_zero, halfAway_zero, neg_zero]
  · rw [halfAway_of_nonneg above.le, halfAway, if_pos (neg_neg_of_pos above), neg_neg]

/-- The magnitude is rounded, and keeps its sign. -/
theorem halfAway_eq_sign_mul (q : ℚ) : halfAway q = SignType.sign q * ⌊|q| + 1 / 2⌋ := by
  rcases lt_trichotomy q 0 with below | rfl | above
  · rw [halfAway, if_pos below, sign_neg below, abs_of_neg below]
    simp
  · rw [halfAway_zero, sign_zero]
    simp
  · rw [halfAway_of_nonneg above.le, sign_pos above, abs_of_pos above]
    simp

/-- A positive number is reached from half a unit below it on. -/
theorem le_halfAway_iff {k : ℤ} (positive : 0 < k) : k ≤ halfAway q ↔ k - 1 / 2 ≤ q := by
  have least : (1 : ℚ) ≤ k := by exact_mod_cast positive
  by_cases below : q < 0
  · have none : 0 ≤ ⌊-q + 1 / 2⌋ := Int.floor_nonneg.mpr (by linarith)
    rw [halfAway, if_pos below]
    constructor
    · intro reached
      omega
    · intro near
      linarith
  · rw [halfAway_of_nonneg (not_lt.mp below), Int.le_floor]
    exact sub_le_iff_le_add.symm

theorem halfAway_le_neg_iff {k : ℤ} (positive : 0 < k) :
    halfAway q ≤ -k ↔ q ≤ -k + 1 / 2 := by
  have mirrored := le_halfAway_iff (q := -q) positive
  rw [halfAway_neg] at mirrored
  rw [le_neg, mirrored]
  constructor
  · intro near
    linarith
  · intro near
    linarith

theorem abs_halfAway_sub_le (q : ℚ) : |(halfAway q : ℚ) - q| ≤ 1 / 2 := by
  have nearest (r : ℚ) : |(⌊r + 1 / 2⌋ : ℚ) - r| ≤ 1 / 2 := by
    have low := Int.floor_le (r + 1 / 2)
    have high := Int.lt_floor_add_one (r + 1 / 2)
    rw [abs_le]
    constructor <;> linarith
  by_cases below : q < 0
  · have mirrored := nearest (-q)
    rw [halfAway, if_pos below, Int.cast_neg, ← abs_neg]
    rwa [neg_sub, sub_neg_eq_add, add_comm, ← sub_neg_eq_add]
  · rw [halfAway_of_nonneg (not_lt.mp below)]
    exact nearest q

/-- Two amounts in the wrong order would be equal, half a unit from both numbers. -/
theorem halfAway_mono (le : q ≤ q') : halfAway q ≤ halfAway q' := by
  by_contra wrong
  have apart : (halfAway q' : ℚ) + 1 ≤ halfAway q := by exact_mod_cast not_le.mp wrong
  have near := abs_le.mp (abs_halfAway_sub_le q)
  have near' := abs_le.mp (abs_halfAway_sub_le q')
  have same : q = q' := by linarith
  exact wrong (same ▸ le_rfl)

theorem halfAway_intCast (n : ℤ) : halfAway n = n := by
  have near := abs_le.mp (abs_halfAway_sub_le (n : ℚ))
  have low : (halfAway (n : ℚ) : ℚ) < n + 1 := by linarith
  have high : (n : ℚ) < halfAway (n : ℚ) + 1 := by linarith
  norm_cast at low high
  omega

theorem value_ofInt64 (n : Int64) : (ofInt64 n).value = n.toInt := by
  rw [ofInt64, value_ofParts, pow_zero, div_one]
  rcases lt_or_ge n.toInt 0 with below | above
  · have magnitude : (n.toInt.natAbs : ℤ) = -n.toInt := Int.ofNat_natAbs_of_nonpos below.le
    rw [if_pos (by simpa using below), ← Int.cast_natCast, magnitude]
    simp
  · have magnitude : (n.toInt.natAbs : ℤ) = n.toInt := Int.natAbs_of_nonneg above
    rw [if_neg (by simpa using above), ← Int.cast_natCast, magnitude]

end Decimal

theorem int64?_eq_none_iff {n : Int} :
    int64? n = none ↔ ¬(-9223372036854775808 ≤ n ∧ n < 9223372036854775808) := by
  rw [int64?]
  split <;> simp_all

namespace Money

open Decimal

variable {x y : Money} {units units' : Int64}

theorem roundToUnits?_eq_some_iff :
    x.roundToUnits? = some units ↔ units.toInt = halfAway x.value := by
  rw [roundToUnits?, int64?_eq_some_iff, round_eq_halfAway]

theorem roundToUnits?_eq_none_iff :
    x.roundToUnits? = none ↔
      ¬(Int64.minValue.toInt ≤ halfAway x.value ∧ halfAway x.value ≤ Int64.maxValue.toInt) := by
  have least : Int64.minValue.toInt = -9223372036854775808 := by rfl
  have greatest : Int64.maxValue.toInt = 9223372036854775807 := by rfl
  have below (k : ℤ) : k ≤ 9223372036854775807 ↔ k < 9223372036854775808 := by omega
  rw [roundToUnits?, int64?_eq_none_iff, round_eq_halfAway, least, greatest, below]

/-- The amounts that are too far from zero begin half a unit beyond the numbers of 64 bits. -/
theorem roundToUnits?_eq_none_iff_far :
    x.roundToUnits? = none ↔
      x.value ≤ Int64.minValue.toInt - 1 / 2 ∨ Int64.maxValue.toInt + 1 / 2 ≤ x.value := by
  have least : Int64.minValue.toInt = -9223372036854775808 := by rfl
  have greatest : Int64.maxValue.toInt = 9223372036854775807 := by rfl
  have low := halfAway_le_neg_iff (q := x.value) (k := 9223372036854775809) (by decide)
  have high := le_halfAway_iff (q := x.value) (k := 9223372036854775808) (by decide)
  have outside : x.roundToUnits? = none ↔
      halfAway x.value ≤ -9223372036854775809 ∨ 9223372036854775808 ≤ halfAway x.value := by
    rw [roundToUnits?_eq_none_iff, least, greatest]
    omega
  rw [outside, low, high, least, greatest]
  norm_num

/-- What rounding to whole units comes to, for any amount. The result is the magnitude with a
half added and its fraction cut off, under the sign of the amount, just if this has 64 bits:
so it fails from half a unit beyond the least and the greatest such number on. It keeps the
order of amounts, is opposite for opposite amounts, does not depend on the places, is at most
half a unit off, and gives back every number of 64 bits. -/
theorem roundToUnits?_nearest_of_int64 (x : Money) :
    (∀ units, x.roundToUnits? = some units ↔
      units.toInt = SignType.sign x.value * ⌊|x.value| + 1 / 2⌋) ∧
    (x.roundToUnits? = none ↔
      ¬(Int64.minValue.toInt ≤ SignType.sign x.value * ⌊|x.value| + 1 / 2⌋ ∧
        SignType.sign x.value * ⌊|x.value| + 1 / 2⌋ ≤ Int64.maxValue.toInt)) ∧
    (x.roundToUnits? = none ↔
      x.value ≤ Int64.minValue.toInt - 1 / 2 ∨ Int64.maxValue.toInt + 1 / 2 ≤ x.value) ∧
    (∀ (y : Money) (units units' : Int64), x.value ≤ y.value → x.roundToUnits? = some units →
      y.roundToUnits? = some units' → units ≤ units') ∧
    (∀ (y : Money) (units units' : Int64), y.value = -x.value → x.roundToUnits? = some units →
      y.roundToUnits? = some units' → units'.toInt = -units.toInt) ∧
    (∀ y : Money, y.value = x.value → y.roundToUnits? = x.roundToUnits?) ∧
    (∀ units, x.roundToUnits? = some units → |units.toInt - x.value| ≤ 1 / 2) ∧
    ∀ units, (ofUnits units).roundToUnits? = some units := by
  simp only [← halfAway_eq_sign_mul]
  refine ⟨fun _ => roundToUnits?_eq_some_iff, roundToUnits?_eq_none_iff,
    roundToUnits?_eq_none_iff_far, fun y units units' le here there => ?_,
    fun y units units' opposite here there => ?_, fun y same => ?_,
    fun units here => ?_, fun units => ?_⟩
  · rw [roundToUnits?_eq_some_iff] at here there
    rw [Int64.le_iff_toInt_le, here, there]
    exact halfAway_mono le
  · rw [roundToUnits?_eq_some_iff] at here there
    rw [here, there, opposite, halfAway_neg]
  · rw [roundToUnits?, roundToUnits?, round_eq_halfAway, round_eq_halfAway]
    exact congrArg (fun q => int64? (halfAway q)) same
  · rw [roundToUnits?_eq_some_iff.mp here]
    exact abs_halfAway_sub_le x.value
  · rw [roundToUnits?_eq_some_iff, value, ofUnits, value_ofInt64, halfAway_intCast]

end Money

end Joinery
