import Joinery.Proofs.Service.Retries
import Mathlib.Algebra.Group.Nat.Defs
import Mathlib.Order.Bounds.Basic

/-!
# The loop of attempts

The loop goes round once for each attempt and counts the retries in 32 bits. Main
statement: it ends with the first attempt that does not fail in passing, or with the last
one allowed, if there is always a delay to be had; the count of retries never overflows, and
the run of the attempts is what the loop comes to.
-/

namespace Joinery.RetryPolicy

variable {α : Type} (policy : RetryPolicy) (backoff : Nat → Option Nat)
  (attempts : Nat → Attempt α)

/-- The loop begins a turn here. -/
inductive Reached : Progress → Prop
  | start : Reached ⟨0, 0⟩
  | turn {now next delay} (before : Reached now)
      (round : policy.turn backoff attempts now = .delayed delay next) : Reached next

/-- From a turn on, the loop ends with a run. -/
inductive LoopsTo : Progress → Run α → Prop
  | stop {now outcome} (last : policy.turn backoff attempts now = .stopped outcome) :
      LoopsTo now ⟨now.made + 1, outcome⟩
  | turn {now next delay run} (round : policy.turn backoff attempts now = .delayed delay next)
      (rest : LoopsTo next run) : LoopsTo now run

variable {policy backoff attempts} {now : Progress} {run : Run α} {k : Nat}

/-- The loop ends in one way at most. -/
theorem LoopsTo.deterministic {other : Run α}
    (loops : LoopsTo policy backoff attempts now run)
    (loops' : LoopsTo policy backoff attempts now other) : run = other := by
  induction loops with
  | stop last =>
      cases loops' with
      | stop last' =>
          obtain rfl := Turn.stopped.inj (last.symm.trans last')
          rfl
      | turn round' _ =>
          rw [last] at round'
          cases round'
  | turn round _ ih =>
      cases loops' with
      | stop last' =>
          rw [round] at last'
          cases last'
      | turn round' rest' =>
          obtain ⟨-, rfl⟩ := Turn.delayed.inj (round.symm.trans round')
          exact ih rest'

/-- A turn ends the loop if its attempt does not fail in passing, or no retry is left. -/
theorem turn_of_final
    (final : ¬policy.FailsInPassing (attempts now.made) ∨ policy.maxRetries ≤ now.retries) :
    policy.turn backoff attempts now = .stopped (policy.effective (attempts now.made)) := by
  rw [turn]
  cases counted : policy.effective (attempts now.made) with
  | ok value => rfl
  | error fault =>
      have ends : (!fault.isRetryable || decide (policy.maxRetries ≤ now.retries)) = true := by
        rcases final with settled | none_left
        · have permanent : ¬fault.isRetryable = true :=
            fun passes => settled ⟨fault, counted, passes⟩
          simp [permanent]
        · simp [none_left]
      exact if_pos ends

/-- Otherwise another turn follows a delay, and the retries are counted: they are fewer than
a number of 32 bits. -/
theorem turn_of_passing {delay : Nat} (passing : policy.FailsInPassing (attempts now.made))
    (left : now.retries < policy.maxRetries) (delayed : backoff now.made = some delay) :
    policy.turn backoff attempts now = .delayed delay ⟨now.made + 1, now.retries + 1⟩ ∧
      (now.retries + 1).toNat = now.retries.toNat + 1 := by
  obtain ⟨fault, counted, passes⟩ := passing
  have counts : now.retries.toNat + 1 < UInt32.size := by
    have below : now.retries.toNat < policy.maxRetries.toNat := UInt32.lt_iff_toNat_lt.mp left
    have size := policy.maxRetries.toNat_lt
    exact Nat.lt_of_le_of_lt below size
  have goes_on : (!fault.isRetryable || decide (policy.maxRetries ≤ now.retries)) = false := by
    simpa [passes] using left
  constructor
  · simp only [turn, counted, goes_on, delayed, if_pos counts, Bool.false_eq_true, if_false]
  · rw [UInt32.toNat_add, UInt32.toNat_one]
    exact Nat.mod_eq_of_lt counts

/-- The attempts that may end the loop: what counts of them does not fail in passing, or
they are the last one allowed. -/
def Final (policy : RetryPolicy) (attempts : Nat → Attempt α) : Set Nat :=
  {i | ¬policy.FailsInPassing (attempts i) ∨ i = policy.maxRetries.toNat}

/-- A run ends with the first attempt that may end it. -/
theorem Course.isLeast (course : policy.Course attempts 0 policy.maxRetries.toNat run) :
    IsLeast (policy.Final attempts) (run.attempts - 1) := by
  have some_attempt := course.some_attempt
  have bounded := course.bounded
  constructor
  · refine course.stopped.imp_right fun all => ?_
    omega
  · intro i final
    by_contra! before
    rcases final with settled | rfl
    · exact settled (course.repeated i (Nat.zero_le i) (by omega))
    · omega

section

variable (last : IsLeast (policy.Final attempts) k)
include last

/-- All attempts before the last one fail in passing, and more retries are left. -/
theorem passing_of_lt_last {i : Nat} (before : i < k) :
    policy.FailsInPassing (attempts i) ∧ i < policy.maxRetries.toNat := by
  have not_final : i ∉ policy.Final attempts := fun final => (last.2 final).not_gt before
  rw [Final, Set.mem_ofPred_eq, not_or, not_not] at not_final
  have allowed : k ≤ policy.maxRetries.toNat := last.2 (Or.inr rfl)
  exact ⟨not_final.1, by omega⟩

/-- Every attempt before the last one is followed by a turn that counts it. -/
theorem turn_of_lt_last (always : ∀ n, (backoff n).isSome) (counted : now.retries.toNat = now.made)
    (before : now.made < k) :
    ∃ delay, policy.turn backoff attempts now = .delayed delay ⟨now.made + 1, now.retries + 1⟩ ∧
      (now.retries + 1).toNat = now.made + 1 := by
  obtain ⟨passing, left⟩ := passing_of_lt_last last before
  obtain ⟨delay, delayed⟩ := Option.isSome_iff_exists.mp (always now.made)
  have left : now.retries < policy.maxRetries := by
    rwa [UInt32.lt_iff_toNat_lt, counted]
  obtain ⟨round, next⟩ := turn_of_passing passing left delayed
  exact ⟨delay, round, by rw [next, counted]⟩

theorem turn_of_last (counted : now.retries.toNat = now.made) (final : now.made = k) :
    policy.turn backoff attempts now = .stopped (policy.effective (attempts k)) := by
  rw [← final]
  refine turn_of_final ?_
  rw [UInt32.le_iff_toNat_le, counted]
  have member := last.1
  rw [← final] at member
  exact member.imp_right Eq.ge

/-- From each attempt up to the last one, the loop goes on to the last one. -/
theorem loopsTo_last (always : ∀ n, (backoff n).isSome) (counted : now.retries.toNat = now.made)
    (upto : now.made ≤ k) :
    LoopsTo policy backoff attempts now ⟨k + 1, policy.effective (attempts k)⟩ := by
  induction ahead : k - now.made generalizing now with
  | zero =>
      have final : now.made = k := by omega
      have stops : LoopsTo policy backoff attempts now _ :=
        .stop (turn_of_last last counted final)
      rwa [final] at stops
  | succ more ih =>
      obtain ⟨delay, round, next⟩ := turn_of_lt_last last always counted (by omega)
      have upto_next : now.made + 1 ≤ k := by omega
      have ahead_next : k - (now.made + 1) = more := by omega
      exact .turn round (ih next upto_next ahead_next)

/-- The loop never makes more attempts than to the last one, and it counts them all. -/
theorem counted_of_reached (always : ∀ n, (backoff n).isSome)
    (reached : Reached policy backoff attempts now) :
    now.retries.toNat = now.made ∧ now.made ≤ k := by
  induction reached with
  | start => exact ⟨rfl, Nat.zero_le k⟩
  | turn before round ih =>
      obtain ⟨counted, upto⟩ := ih
      rcases Nat.eq_or_lt_of_le upto with final | earlier
      · rw [turn_of_last last counted final] at round
        cases round
      · obtain ⟨delay, expected, next⟩ := turn_of_lt_last last always counted earlier
        obtain ⟨-, rfl⟩ := Turn.delayed.inj (expected.symm.trans round)
        exact ⟨next, earlier⟩

theorem turn_ne_overflowed (always : ∀ n, (backoff n).isSome)
    (reached : Reached policy backoff attempts now) :
    policy.turn backoff attempts now ≠ .overflowed := by
  obtain ⟨counted, upto⟩ := counted_of_reached last always reached
  rcases Nat.eq_or_lt_of_le upto with final | earlier
  · rw [turn_of_last last counted final]
    exact nofun
  · obtain ⟨delay, round, -⟩ := turn_of_lt_last last always counted earlier
    rw [round]
    exact nofun

end

/-- The loop is exact and bounded. If there is always a delay, the loop ends with the
first attempt that may end it, and in no other way; on the way there it counts each attempt
but this one as a retry, in 32 bits that never overflow. The run of the attempts is the same. -/
theorem loopsTo_iff_first_final (policy : RetryPolicy) (backoff : Nat → Option Nat)
    (attempts : Nat → Attempt α) (always : ∀ n, (backoff n).isSome) :
    ∃ k, IsLeast (policy.Final attempts) k ∧
      (∀ run, LoopsTo policy backoff attempts ⟨0, 0⟩ run ↔
        run = ⟨k + 1, policy.effective (attempts k)⟩) ∧
      (∀ now, Reached policy backoff attempts now →
        now.retries.toNat = now.made ∧ now.made ≤ k ∧
          policy.turn backoff attempts now ≠ .overflowed) ∧
      policy.run attempts = ⟨k + 1, policy.effective (attempts k)⟩ := by
  have course := course_run policy attempts
  have last := course.isLeast
  refine ⟨(policy.run attempts).attempts - 1, last, fun run => ?_, fun now reached => ?_, ?_⟩
  · have ends : LoopsTo policy backoff attempts ⟨0, 0⟩ _ :=
      loopsTo_last last always rfl (Nat.zero_le _)
    constructor
    · intro loops
      exact loops.deterministic ends
    · rintro rfl
      exact ends
  · obtain ⟨counted, upto⟩ := counted_of_reached last always reached
    exact ⟨counted, upto, turn_ne_overflowed last always reached⟩
  · rw [← course.outcome, Nat.sub_add_cancel course.some_attempt]

/-- The service is too busy at first; the second answer comes too late, and the third at the
last moment. -/
theorem loopsTo_third_attempt :
    (∀ n, (some (min (500 * 2 ^ n) standard.maxBackoff)).isSome) ∧
      LoopsTo standard (fun n => some (min (500 * 2 ^ n) standard.maxBackoff))
        (fun i => match i with
          | 0 => ⟨10, .error (.httpStatus 503 "busy")⟩
          | 1 => ⟨120001, .ok 1⟩
          | _ => ⟨120000, .ok 2⟩)
        ⟨0, 0⟩ ⟨3, .ok 2⟩ := by
  have always (n : Nat) : (some (min (500 * 2 ^ n) standard.maxBackoff)).isSome := rfl
  obtain ⟨k, -, ends, -, same⟩ := loopsTo_iff_first_final standard _ _ always
  refine ⟨always, (ends _).mpr ?_⟩
  rw [← same]
  rfl

end Joinery.RetryPolicy
