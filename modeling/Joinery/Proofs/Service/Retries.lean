import Joinery.Service.Retry

/-!
# The course of a run of attempts

An attempt fails in passing if what counts of it is a fault that may pass by itself. Main
statement: a run makes one attempt or more, as many as the policy allows at most; all but
the last fail in passing, the last does not unless no retry is left, and its outcome is
that of the run.
-/

namespace Joinery.RetryPolicy

variable {α : Type} (policy : RetryPolicy)

/-- An attempt that is worth another one: it fails, and the fault may pass by itself. -/
def FailsInPassing (attempt : Attempt α) : Prop :=
  ∃ fault, policy.effective attempt = .error fault ∧ fault.isRetryable = true

/-- The course of a run that starts with the attempt of number `first` and may add `left`
further ones. -/
structure Course (attempts : Nat → Attempt α) (first left : Nat) (run : Run α) : Prop where
  some_attempt : first + 1 ≤ run.attempts
  bounded : run.attempts ≤ first + left + 1
  repeated : ∀ i, first ≤ i → i + 1 < run.attempts → policy.FailsInPassing (attempts i)
  stopped : ¬policy.FailsInPassing (attempts (run.attempts - 1)) ∨
    run.attempts = first + left + 1
  outcome : run.outcome = policy.effective (attempts (run.attempts - 1))

variable {policy} {attempts : Nat → Attempt α} {first left : Nat}

/-- A run may end with its first attempt, if this does not fail in passing or is the only
one allowed. -/
theorem Course.single
    (last : ¬policy.FailsInPassing (attempts first) ∨ left = 0) :
    policy.Course attempts first left ⟨first + 1, policy.effective (attempts first)⟩ where
  some_attempt := Nat.le_refl _
  bounded := by
    change first + 1 ≤ first + left + 1
    omega
  repeated := by
    intro i from_first before
    change i + 1 < first + 1 at before
    omega
  stopped := last.imp_right fun none_left => by rw [none_left]
  outcome := rfl

/-- A run goes on from an attempt that fails in passing. -/
theorem Course.cons {run : Run α} (passing : policy.FailsInPassing (attempts first))
    (rest : policy.Course attempts (first + 1) left run) :
    policy.Course attempts first (left + 1) run where
  some_attempt := Nat.le_of_succ_le rest.some_attempt
  bounded := by
    have := rest.bounded
    omega
  repeated := by
    intro i from_first before
    rcases Nat.eq_or_lt_of_le from_first with rfl | later
    · exact passing
    · exact rest.repeated i later before
  stopped := rest.stopped.imp_right fun all => by omega
  outcome := rest.outcome

theorem course_runFrom (policy : RetryPolicy) (attempts : Nat → Attempt α) (first left : Nat) :
    policy.Course attempts first left (policy.runFrom attempts first left) := by
  induction left generalizing first with
  | zero => exact Course.single (Or.inr rfl)
  | succ left ih =>
      rw [runFrom]
      split
      · rename_i value counted
        rw [← counted]
        refine Course.single (Or.inl ?_)
        rintro ⟨fault, failed, -⟩
        rw [counted] at failed
        cases failed
      · rename_i fault counted
        by_cases passing : fault.isRetryable = true
        · rw [if_pos passing]
          exact Course.cons ⟨fault, counted, passing⟩ (ih (first + 1))
        · rw [if_neg passing, ← counted]
          refine Course.single (Or.inl ?_)
          rintro ⟨other, failed, passes⟩
          obtain rfl : fault = other := Except.error.inj (counted.symm.trans failed)
          exact passing passes

/-- The course of a whole run. -/
theorem course_run (policy : RetryPolicy) (attempts : Nat → Attempt α) :
    policy.Course attempts 0 policy.maxRetries.toNat (policy.run attempts) :=
  course_runFrom policy attempts 0 policy.maxRetries.toNat

end Joinery.RetryPolicy
