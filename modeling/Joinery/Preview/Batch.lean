import Joinery.Preview
import Joinery.Service

/-!
# Batches of previews

Models for a list of keys, each asked for by a target of its own. Equal keys
share a call. Here all requests enter before the first call returns; calls then
return in the order in which they started, and nothing is looked up in the cache.
-/

namespace Joinery.Preview

/-- The target of a place in a batch. -/
def batchTarget (place : Nat) : String := s!"cli-{place}"

/-- The requests of a batch, from a place on. -/
def batchRequests (place : Nat) : List GenerationKey → List Event
  | [] => []
  | key :: rest => .enter (batchTarget place) key :: batchRequests (place + 1) rest

namespace Coordinator

/-- Answers calls from a service, from a number on. -/
def answerCalls {σ : Type} (services : Services σ) (number : Nat) :
    List Call → Coordinator × σ → Coordinator × σ
  | [], state => state
  | call :: rest, (c, world) =>
    let (result, world) := services.generate call.key world
    answerCalls services (number + 1) rest (c.finish number result, world)

/-- The state after a batch, when all callers have their results. -/
def runBatch {σ : Type} (services : Services σ) (capacity : Nat) (keys : List GenerationKey)
    (world : σ) : Coordinator × σ :=
  let entered := run capacity (batchRequests 0 keys)
  let (answered, world) := answerCalls services 0 entered.calls (entered, world)
  (answered.settleAll, world)

/-- How each request has ended; those that have not are as good as cancelled. -/
def outcomes (c : Coordinator) : List Outcome :=
  c.requests.map fun request =>
    match request.state with
    | .resolved outcome => outcome
    | _ => .failed .cancelled

end Coordinator

end Joinery.Preview
