/-!
# Whole numbers of 64 bits

Whole numbers are kept as they are until they have to fit 64 bits with a sign.
-/

namespace Joinery

/-- The 64 bit number that a whole number is, if it fits. -/
def int64? (n : Int) : Option Int64 :=
  if -9223372036854775808 ≤ n ∧ n < 9223372036854775808 then some (Int64.ofInt n) else none

theorem int64?_eq_some_iff (n : Int) (x : Int64) : int64? n = some x ↔ x.toInt = n := by
  have low := x.le_toInt
  have high := x.toInt_lt
  constructor
  · intro h
    rw [int64?] at h
    split at h
    · obtain rfl := Option.some.inj h
      exact Int64.toInt_ofInt_of_le (by omega) (by omega)
    · exact nomatch h
  · rintro rfl
    rw [int64?, if_pos (by omega), Int64.ofInt_toInt]

end Joinery
