import Joinery.Decimal
import Mathlib.Algebra.Order.Field.Basic
import Mathlib.Data.Nat.Find
import Mathlib.Data.Rat.Lemmas
import Mathlib.Tactic.FieldSimp
import Mathlib.Tactic.Linarith
import Mathlib.Tactic.NormNum
import Mathlib.Tactic.Positivity
import Mathlib.Tactic.Ring

/-!
# Rounding to what fits

An exact result is kept at the greatest scale, 28 places at most, at which its
mantissa fits 96 bits. The number of places depends on the amount, so a greater
amount may lose more of them. Main statements: what is kept is the amount itself
whenever some mantissa and scale can hold it, and a greater amount is never kept as
a smaller one, nor kept where a smaller one is not.
-/

namespace Joinery.Rounding

variable {n d n' d' k : Nat}

/-- Rounding moves a quotient by a half at most. -/
theorem halfEven_bounds (n : Nat) (pos : 0 < d) :
    (halfEven n d : ℚ) ≤ n / d + 1 / 2 ∧ (n / d : ℚ) ≤ halfEven n d + 1 / 2 := by
  have split := Nat.div_add_mod n d
  have small := Nat.mod_lt n pos
  have bounds : d * (2 * halfEven n d) ≤ 2 * n + d ∧ 2 * n ≤ d * (2 * halfEven n d) + d := by
    have down : d * (2 * (n / d)) = 2 * (d * (n / d)) := by ring
    have up : d * (2 * (n / d + 1)) = 2 * (d * (n / d)) + 2 * d := by ring
    rw [halfEven]
    split
    · rw [up]
      omega
    · rw [down]
      omega
  have positive : (0 : ℚ) < d := by exact_mod_cast pos
  have upper : (d : ℚ) * (2 * halfEven n d) ≤ 2 * n + d := by exact_mod_cast bounds.1
  have lower : (2 : ℚ) * n ≤ d * (2 * halfEven n d) + d := by exact_mod_cast bounds.2
  constructor
  · rw [← sub_le_iff_le_add, le_div_iff₀ positive]
    linarith
  · rw [div_le_iff₀ positive]
    linarith

/-- Half way between two numbers the even one is taken. -/
theorem halfEven_even (pos : 0 < d) (tie : (n / d : ℚ) = k + 1 / 2) : halfEven n d % 2 = 0 := by
  have positive : (d : ℚ) ≠ 0 := by exact_mod_cast pos.ne'
  have double : 2 * n = 2 * (d * k) + d := by
    field_simp at tie
    have double : (2 * n : ℚ) = 2 * (d * k) + d := by linarith
    exact_mod_cast double
  have parts : n / d = k ∧ n % d = n - d * k := by
    rw [Nat.div_mod_unique pos]
    omega
  rw [halfEven, parts.1, parts.2]
  split <;> omega

/-- A greater quotient is not rounded to a smaller number: if it were, both would lie
half way between the two numbers and be rounded to the same. -/
theorem halfEven_mono (pos : 0 < d) (pos' : 0 < d') (le : (n / d : ℚ) ≤ n' / d') :
    halfEven n d ≤ halfEven n' d' := by
  by_contra above
  have step : halfEven n' d' + 1 ≤ halfEven n d := Nat.not_le.mp above
  have rational : (halfEven n' d' : ℚ) + 1 ≤ halfEven n d := by exact_mod_cast step
  obtain ⟨low, -⟩ := halfEven_bounds n pos
  obtain ⟨-, high⟩ := halfEven_bounds n' pos'
  have tie : (n / d : ℚ) = halfEven n' d' + 1 / 2 := by linarith
  have tie' : (n' / d' : ℚ) = halfEven n' d' + 1 / 2 := by linarith
  have next : (halfEven n d : ℚ) = halfEven n' d' + 1 := by linarith
  have consecutive : halfEven n d = halfEven n' d' + 1 := by exact_mod_cast next
  have even := halfEven_even pos tie
  have even' := halfEven_even pos' tie'
  omega

/-- The number nearest to an amount, the even one of two. -/
def nearest (q : ℚ) : Nat := halfEven q.num.natAbs q.den

variable {q r : ℚ}

theorem natAbs_num_div_den (nonneg : 0 ≤ q) : (q.num.natAbs / q.den : ℚ) = q := by
  rw [← Int.cast_natCast, Int.natAbs_of_nonneg (Rat.num_nonneg.mpr nonneg), Rat.num_div_den]

theorem halfEven_eq_nearest (n : Nat) (pos : 0 < d) : halfEven n d = nearest (n / d) := by
  have same : ((n / d : ℚ).num.natAbs / (n / d : ℚ).den : ℚ) = n / d :=
    natAbs_num_div_den (by positivity)
  apply le_antisymm
  · exact halfEven_mono pos (Rat.den_pos _) same.ge
  · exact halfEven_mono (Rat.den_pos _) pos same.le

theorem nearest_mono (nonneg : 0 ≤ q) (le : q ≤ r) : nearest q ≤ nearest r := by
  apply halfEven_mono q.den_pos r.den_pos
  rwa [natAbs_num_div_den nonneg, natAbs_num_div_den (nonneg.trans le)]

@[simp] theorem nearest_natCast (k : Nat) : nearest k = k := by
  simp [nearest]

theorem nearest_le (nonneg : 0 ≤ q) (le : q ≤ k) : nearest q ≤ k := by
  simpa using nearest_mono nonneg le

theorem le_nearest (le : (k : ℚ) ≤ q) : k ≤ nearest q := by
  simpa using nearest_mono (Nat.cast_nonneg k) le

theorem nearest_bounds (nonneg : 0 ≤ q) :
    (nearest q : ℚ) ≤ q + 1 / 2 ∧ q ≤ nearest q + 1 / 2 := by
  have bounds := halfEven_bounds q.num.natAbs q.den_pos
  rwa [natAbs_num_div_den nonneg] at bounds

theorem nearest_eq_zero (nonneg : 0 ≤ q) (small : q < 1 / 2) : nearest q = 0 := by
  have near := (nearest_bounds nonneg).1
  have below : (nearest q : ℚ) < 1 := by linarith
  exact Nat.lt_one_iff.mp (by exact_mod_cast below)

end Joinery.Rounding

namespace Joinery.Decimal

open Rounding

/-- The greatest scale up to `places` at which the rounded mantissa fits. -/
theorem fitBelow_eq_some {m s places r p : Nat} (fits : fitBelow m s places = some (r, p)) :
    p ≤ places ∧ r = halfEven m (10 ^ (s - p)) ∧ r < limit ∧
      (p < places → limit ≤ halfEven m (10 ^ (s - (p + 1)))) := by
  induction places with
  | zero =>
      rw [fitBelow] at fits
      split at fits
      · obtain ⟨rfl, rfl⟩ := Prod.mk.inj (Option.some.inj fits)
        exact ⟨le_rfl, rfl, by assumption, by simp⟩
      · cases fits
  | succ places ih =>
      rw [fitBelow] at fits
      split at fits
      · obtain ⟨rfl, rfl⟩ := Prod.mk.inj (Option.some.inj fits)
        exact ⟨le_rfl, rfl, by assumption, by simp⟩
      · rename_i long
        obtain ⟨below, value, small, greatest⟩ := ih fits
        refine ⟨by omega, value, small, fun _ => ?_⟩
        by_cases last : p = places
        · subst last
          exact Nat.not_lt.mp long
        · exact greatest (by omega)

theorem fitBelow_eq_none {m s places : Nat} (none : fitBelow m s places = none) :
    limit ≤ halfEven m (10 ^ s) := by
  induction places with
  | zero =>
      rw [fitBelow] at none
      split at none
      · cases none
      · exact Nat.not_lt.mp (by assumption)
  | succ places ih =>
      rw [fitBelow] at none
      split at none
      · cases none
      · exact ih none

/-- The mantissa `r` with `p` places is what an amount is rounded to: the nearest with
that many places, which fits, while one place more is not needed or does not fit. -/
structure Fitted (q : ℚ) (r p : Nat) : Prop where
  places : p ≤ 28
  fits : r < limit
  rounded : r = nearest (q * 10 ^ p)
  greatest : p < 28 → (r : ℚ) = q * 10 ^ p ∨ limit ≤ nearest (q * 10 ^ (p + 1))

theorem halfEven_eq_nearest_places {m s p : Nat} (le : p ≤ s) :
    halfEven m (10 ^ (s - p)) = nearest (m / 10 ^ s * 10 ^ p) := by
  rw [halfEven_eq_nearest m (by positivity)]
  congr 1
  have split : (10 : ℚ) ^ s = 10 ^ (s - p) * 10 ^ p := by rw [← pow_add, Nat.sub_add_cancel le]
  push_cast
  rw [split]
  field_simp

theorem fitted_of_fit? {m s r p : Nat} (fits : fit? m s = some (r, p)) :
    Fitted (m / 10 ^ s) r p := by
  obtain ⟨below, value, small, greatest⟩ := fitBelow_eq_some fits
  have within : p ≤ s ∧ p ≤ 28 := Nat.le_min.mp below
  refine ⟨within.2, small, value.trans (halfEven_eq_nearest_places within.1), fun short => ?_⟩
  by_cases all : p = s
  · subst all
    left
    rw [value]
    simp
  · right
    rw [← halfEven_eq_nearest_places (by omega)]
    exact greatest (by omega)

theorem le_nearest_of_fit?_eq_none {m s : Nat} (none : fit? m s = none) :
    limit ≤ nearest (m / 10 ^ s) := by
  have long := fitBelow_eq_none none
  rwa [halfEven_eq_nearest m (by positivity), Nat.cast_pow, Nat.cast_ofNat] at long

variable {q q' : ℚ} {r p r' p' : Nat}

theorem mul_pow_eq (q : ℚ) {p p' : Nat} (le : p ≤ p') :
    q * 10 ^ p' = q * 10 ^ p * 10 ^ (p' - p) := by
  rw [mul_assoc, ← pow_add, Nat.add_sub_cancel' le]

/-- An amount that is whole at some place is whole at every later one. -/
theorem mul_pow_of_whole {m p p' : Nat} (le : p ≤ p') (whole : (m : ℚ) = q * 10 ^ p) :
    ((m * 10 ^ (p' - p) : Nat) : ℚ) = q * 10 ^ p' := by
  rw [mul_pow_eq q le, ← whole]
  push_cast
  rfl

/-- If one place more would overflow, ten times the kept mantissa reaches the limit: the
last digit of the limit is a six, so a tenth of the limit is rounded up. -/
theorem Fitted.limit_le_of_long (fitted : Fitted q r p) (nonneg : 0 ≤ q)
    (long : limit ≤ nearest (q * 10 ^ (p + 1))) : limit ≤ 10 * r := by
  have reached : ((limit : Nat) : ℚ) ≤ q * 10 ^ (p + 1) + 1 / 2 :=
    (Nat.cast_le.mpr long).trans (nearest_bounds (by positivity)).1
  have close : q * 10 ^ p ≤ r + 1 / 2 := by
    rw [fitted.rounded]
    exact (nearest_bounds (by positivity)).2
  rw [pow_succ, ← mul_assoc] at reached
  have above : (7922816251426433759354395033 : ℚ) < r := by
    norm_num [limit] at reached
    linarith
  have above' : 7922816251426433759354395033 < r := by exact_mod_cast above
  norm_num [limit]
  omega

/-- A greater amount is not kept as a smaller one. Where the two keep different numbers
of places, either the one with fewer is exact, or it is so great that the other does
not reach it. -/
theorem Fitted.mono (fitted : Fitted q r p) (fitted' : Fitted q' r' p') (nonneg : 0 ≤ q)
    (le : q ≤ q') : (r / 10 ^ p : ℚ) ≤ r' / 10 ^ p' := by
  have scaled (places : Nat) : q * 10 ^ places ≤ q' * 10 ^ places :=
    mul_le_mul_of_nonneg_right le (by positivity)
  have small := fitted.fits
  rcases lt_trichotomy p p' with fewer | rfl | more
  · rcases fitted.greatest (fewer.trans_le fitted'.places) with exact | long
    · have kept := mul_pow_of_whole fewer.le exact
      have reached : r * 10 ^ (p' - p) ≤ r' := by
        rw [fitted'.rounded]
        exact le_nearest (kept.trans_le (scaled p'))
      rw [exact, mul_div_assoc, div_self (by positivity), mul_one, le_div_iff₀ (by positivity),
        ← kept]
      exact_mod_cast reached
    · have more_places : q * 10 ^ (p + 1) ≤ q' * 10 ^ p' := by
        calc
          q * 10 ^ (p + 1) ≤ q' * 10 ^ (p + 1) := scaled (p + 1)
          _ ≤ q' * 10 ^ p' :=
            mul_le_mul_of_nonneg_left (pow_le_pow_right₀ (by norm_num) fewer) (nonneg.trans le)
      have reached := nearest_mono (by positivity) more_places
      have small' := fitted'.fits
      rw [fitted'.rounded] at small'
      omega
  · have reached : r ≤ r' := by
      rw [fitted.rounded, fitted'.rounded]
      exact nearest_mono (by positivity) (scaled p)
    exact div_le_div_of_nonneg_right (by exact_mod_cast reached) (by positivity)
  · rcases fitted'.greatest (more.trans_le fitted.places) with exact | long
    · have kept := mul_pow_of_whole more.le exact
      have reached : r ≤ r' * 10 ^ (p - p') := by
        rw [fitted.rounded]
        exact nearest_le (by positivity) ((scaled p).trans kept.ge)
      rw [exact, mul_div_assoc _ _ ((10 : ℚ) ^ p'), div_self (by positivity), mul_one,
        div_le_iff₀ (by positivity), ← kept]
      exact_mod_cast reached
    · have tenth := fitted'.limit_le_of_long (nonneg.trans le) long
      have shift : (10 : ℚ) * 10 ^ p' ≤ 10 ^ p := by
        rw [← pow_succ']
        exact pow_le_pow_right₀ (by norm_num) more
      have below : (r : ℚ) ≤ 10 * r' := by exact_mod_cast (show r ≤ 10 * r' by omega)
      rw [div_le_div_iff₀ (by positivity) (by positivity)]
      calc
        (r : ℚ) * 10 ^ p' ≤ 10 * r' * 10 ^ p' := mul_le_mul_of_nonneg_right below (by positivity)
        _ = r' * (10 * 10 ^ p') := by ring
        _ ≤ r' * 10 ^ p := mul_le_mul_of_nonneg_left shift (by positivity)

/-- What is held of an amount: the nearest with as many places as fit, 28 at most. -/
def held (q : ℚ) : ℚ :=
  let places := Nat.findGreatest (fun p => nearest (q * 10 ^ p) < limit) 28
  nearest (q * 10 ^ places) / 10 ^ places

/-- What an amount is rounded to depends on the amount alone. -/
theorem Fitted.eq_held (fitted : Fitted q r p) (nonneg : 0 ≤ q) : (r / 10 ^ p : ℚ) = held q := by
  let Fits (places : Nat) : Prop := nearest (q * 10 ^ places) < limit
  let places := Nat.findGreatest Fits 28
  have fits : Fits p := fitted.rounded.ge.trans_lt fitted.fits
  have greatest : Fitted q (nearest (q * 10 ^ places)) places := by
    refine ⟨Nat.findGreatest_le 28, Nat.findGreatest_spec (P := Fits) fitted.places fits, rfl, ?_⟩
    intro short
    have long : ¬Fits (places + 1) := Nat.findGreatest_is_greatest (Nat.lt_succ_self _) short
    exact .inr (Nat.not_lt.mp long)
  exact le_antisymm (fitted.mono greatest nonneg le_rfl) (greatest.mono fitted nonneg le_rfl)

/-- What fits some mantissa and scale is kept as it is. -/
theorem Fitted.exact (fitted : Fitted q r p) {m s : Nat} (fits : m < limit) (places : s ≤ 28)
    (value : q = m / 10 ^ s) : (r / 10 ^ p : ℚ) = q := by
  have whole : (m : ℚ) = q * 10 ^ s := by
    rw [value]
    field_simp
  by_cases within : s ≤ p
  · have kept := mul_pow_of_whole within whole
    have same : r = m * 10 ^ (p - s) := by rw [fitted.rounded, ← kept, nearest_natCast]
    rw [div_eq_iff (by positivity), ← kept, same]
  · have fewer : p < s := Nat.not_le.mp within
    rcases fitted.greatest (fewer.trans_le places) with exact | long
    · rw [exact, mul_div_assoc, div_self (by positivity), mul_one]
    · have nonneg : 0 ≤ q := by
        rw [value]
        positivity
      have below : q * 10 ^ (p + 1) ≤ m := by
        rw [whole]
        exact mul_le_mul_of_nonneg_left (pow_le_pow_right₀ (by norm_num) fewer) nonneg
      have reached := nearest_le (by positivity) below
      omega

end Joinery.Decimal
