import Joinery.Service.Fault

/-!
# Deadlines and retries

An attempt takes some time and has an outcome. An attempt that runs past the
deadline counts as timed out, whatever it would have returned. Attempts are
repeated while they fail in a way that may pass, up to a number of retries,
by a loop that counts the retries and waits before each.
-/

namespace Joinery

/-- One attempt: how long it takes in milliseconds, and what it yields. -/
structure Attempt (α : Type) where
  duration : Nat
  outcome : Except ServiceFault α

/-- How long an attempt may take and how often it is repeated; times are in
milliseconds. -/
structure RetryPolicy where
  attemptTimeout : Nat
  maxRetries : UInt32
  initialBackoff : Nat
  maxBackoff : Nat
deriving DecidableEq

namespace RetryPolicy

/-- The usual policy: two minutes for an attempt, three retries. -/
def standard : RetryPolicy := ⟨120000, 3, 500, 10000⟩

/-- One attempt with a deadline. -/
def singleAttempt (attemptTimeout : Nat) : RetryPolicy :=
  { standard with attemptTimeout := attemptTimeout, maxRetries := 0 }

/-- The outcome that counts: an attempt that ends at its deadline is in time. -/
def effective {α : Type} (policy : RetryPolicy) (attempt : Attempt α) : Except ServiceFault α :=
  if attempt.duration ≤ policy.attemptTimeout then attempt.outcome
  else .error (.timeout (policy.attemptTimeout / 1000))

/-- What a sequence of attempts comes to: their number and the last outcome. -/
structure Run (α : Type) where
  attempts : Nat
  outcome : Except ServiceFault α

/-- Makes the attempt with number `first`, and further ones while retries are
left and the last fault may pass. -/
def runFrom {α : Type} (policy : RetryPolicy) (attempts : Nat → Attempt α) (first : Nat) :
    Nat → Run α
  | 0 => ⟨first + 1, policy.effective (attempts first)⟩
  | left + 1 =>
    match policy.effective (attempts first) with
    | .ok value => ⟨first + 1, .ok value⟩
    | .error fault =>
      if fault.isRetryable then runFrom policy attempts (first + 1) left
      else ⟨first + 1, .error fault⟩

/-- Makes attempts until one succeeds, fails for good, or is the last allowed. -/
def run {α : Type} (policy : RetryPolicy) (attempts : Nat → Attempt α) : Run α :=
  policy.runFrom attempts 0 policy.maxRetries.toNat

/-- Where the loop stands: how many attempts it has made, and how many of them it counts as
retries, in 32 bits. -/
structure Progress where
  made : Nat
  retries : UInt32
deriving DecidableEq

/-- What one turn of the loop comes to. -/
inductive Turn (α : Type) where
  /-- The outcome of the attempt is that of the loop. -/
  | stopped (outcome : Except ServiceFault α)
  /-- The next turn begins after a delay. -/
  | delayed (delay : Nat) (next : Progress)
  /-- The retries can no longer be counted. -/
  | overflowed

/-- One turn of the loop. Each turn that does not end it asks `backoff` for a delay, and
ends the loop after all if there is none. -/
def turn {α : Type} (policy : RetryPolicy) (backoff : Nat → Option Nat)
    (attempts : Nat → Attempt α) (now : Progress) : Turn α :=
  match policy.effective (attempts now.made) with
  | .ok value => .stopped (.ok value)
  | .error fault =>
    if !fault.isRetryable || policy.maxRetries ≤ now.retries then .stopped (.error fault)
    else match backoff now.made with
      | none => .stopped (.error fault)
      | some delay =>
        if now.retries.toNat + 1 < UInt32.size then .delayed delay ⟨now.made + 1, now.retries + 1⟩
        else .overflowed

end RetryPolicy

end Joinery
