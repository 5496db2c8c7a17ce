/-!
# Rounding quotients of natural numbers

Two rules: a half goes to the even neighbour, or a half goes up. Signed numbers
are rounded by magnitude, so half up means half away from zero.
-/

namespace Joinery.Rounding

/-- The quotient rounded to the nearest number; a half goes to the even one. -/
def halfEven (n d : Nat) : Nat :=
  if d < 2 * (n % d) ∨ (2 * (n % d) = d ∧ n / d % 2 = 1) then n / d + 1 else n / d

/-- The quotient rounded to the nearest number; a half goes up. -/
def halfUp (n d : Nat) : Nat := if d ≤ 2 * (n % d) then n / d + 1 else n / d

@[simp] theorem halfEven_one (n : Nat) : halfEven n 1 = n := by
  simp [halfEven, Nat.mod_one]

/-- Rounding half up is the floor after adding a half. -/
theorem halfUp_eq (n d : Nat) (pos : 0 < d) : halfUp n d = (2 * n + d) / (2 * d) := by
  have split := Nat.div_add_mod n d
  have small := Nat.mod_lt n pos
  have double : n / d * (2 * d) = 2 * (d * (n / d)) := by
    rw [Nat.mul_comm, Nat.mul_assoc]
  by_cases h : d ≤ 2 * (n % d)
  · rw [halfUp, if_pos h, eq_comm]
    refine Nat.div_eq_of_lt_le ?_ ?_
    · rw [Nat.add_mul, double]; omega
    · rw [Nat.add_mul, Nat.add_mul, double]; omega
  · rw [halfUp, if_neg h, eq_comm]
    refine Nat.div_eq_of_lt_le ?_ ?_
    · rw [double]; omega
    · rw [Nat.add_mul, double]; omega

end Joinery.Rounding
