import Joinery.Proofs.Preview.Calls
import Joinery.Proofs.Preview.Sharing

/-!
# Runs without withdrawals

As long as every request comes from a target of its own, nobody goes away and the gateway
has one answer for each key, no request is superseded and no call aborted. Main statements:
each event keeps this up, whoever is answered has the answer for the own key, and a key for
which there is a model costs one call at most if the cache does not give it up.
-/

namespace Joinery.Preview.Coordinator

/-- An event that fits into a batch: a request of a new target, an answer of the gateway, a
caller that takes its result, or a cache that gives something up. -/
inductive Fits (answer : GenerationKey → CallResult) (c : Coordinator) : Event → Prop
  | enter {target : String} {key : GenerationKey}
      (new : ∀ request ∈ c.requests, request.target ≠ target) : Fits answer c (.enter target key)
  | finish {number : Nat} {call : Call} (called : c.calls[number]? = some call) :
      Fits answer c (.finish number (answer call.key))
  | settle {number : Nat} : Fits answer c (.settle number)
  | evict {key : GenerationKey} : Fits answer c (.evict key)

/-- What holds of a coordinator as long as all events fit into a batch. -/
structure Steady (answer : GenerationKey → CallResult) (c : Coordinator) : Prop where
  sound : Sound c
  calm : Undisturbed c
  /-- What a call returns is the answer for its key. -/
  answered : ∀ {number : Nat} {call : Call}, c.calls[number]? = some call →
    call.state = .running ∨ call.state = .returned (answer call.key)
  /-- A call was made for each key that was asked for. -/
  asked : ∀ {number : Nat} {request : Request}, c.requests[number]? = some request →
    request.key ∈ c.keys

variable {answer : GenerationKey → CallResult} {c : Coordinator} {key : GenerationKey}
  {event : Event}

theorem steady_initial (capacity : Nat) : Steady answer (initial capacity) := by
  refine ⟨sound_initial capacity, undisturbed_initial capacity, ?_, ?_⟩ <;> simp [initial]

namespace Steady

/-- Whoever does not wait has the answer for the key. -/
theorem served (steady : Steady answer c) {number : Nat} {request : Request}
    (asked : c.requests[number]? = some request) (ended : request.state.isWaiting = false) :
    request.state = .resolved (.ofResult (answer request.key)) := by
  obtain ⟨result, resolved, other, id, called⟩ := steady.calm.served asked ended
  obtain returned := (steady.answered called).resolve_left (by simp)
  rw [resolved, CallState.returned.inj returned]

theorem calm_step (steady : Steady answer c) (fits : Fits answer c event) :
    Undisturbed (c.step event) := by
  cases fits with
  | enter new => exact steady.calm.enter (by simpa using new) _
  | finish => exact steady.calm.finish _ _
  | settle => exact steady.calm.settle _
  | evict => exact steady.calm.evict _

theorem answered_step (steady : Steady answer c) (fits : Fits answer c event) {number : Nat}
    {call : Call} (called : (c.step event).calls[number]? = some call) :
    call.state = .running ∨ call.state = .returned (answer call.key) := by
  have calm := steady.calm_step fits
  cases before : c.calls[number]? with
  | none => exact Or.inl (running_of_started called before)
  | some earlier =>
      obtain ⟨next, found, becomes⟩ := becomes_step before event
      obtain rfl := Option.some.inj (called.symm.trans found)
      cases becomes with
      | stays => exact steady.answered before
      | aborts => exact nomatch calm.answered called
      | dies => exact nomatch calm.answered called
      | returns running result cause =>
          cases fits with
          | enter => cases cause
          | settle | evict => cases cause
          | finish called' =>
              obtain ⟨rfl, rfl⟩ := Event.finish.inj cause
              obtain rfl := Option.some.inj (before.symm.trans called')
              exact Or.inr rfl

theorem mem_keys_of_called {number : Nat} {call : Call} (called : c.calls[number]? = some call) :
    call.key ∈ c.keys :=
  List.mem_map_of_mem (List.mem_of_getElem? called)

/-- A request that enters finds a call for its key, or starts one. -/
theorem mem_keys_enter (steady : Steady answer c) (target : String) (key : GenerationKey) :
    key ∈ (c.step (.enter target key)).keys := by
  rw [keys_step, List.mem_append]
  cases started : c.starts (.enter target key) with
  | some other =>
      obtain ⟨_, same, -⟩ := starts_eq_some_iff.mp started
      obtain ⟨-, rfl⟩ := Event.enter.inj same
      exact Or.inr (by simp)
  | none =>
      left
      cases stored : c.cache.get? key with
      | some artifacts =>
          obtain ⟨_, _, called⟩ := steady.calm.cached stored
          exact mem_keys_of_called called
      | none =>
          cases flies : c.inFlight.get? key with
          | some flight => exact mem_keys_of_called (steady.calm.flying flies)
          | none => simp [starts, stored, flies] at started

theorem asked_step (steady : Steady answer c) {number : Nat} {request : Request}
    (asked : (c.step event).requests[number]? = some request) :
    request.key ∈ (c.step event).keys := by
  cases before : c.requests[number]? with
  | none =>
      obtain ⟨target, key, rfl, -, -, rfl⟩ := enter_of_added asked before
      exact steady.mem_keys_enter target request.key
  | some earlier =>
      obtain ⟨next, found, continues⟩ := continues_step before event
      obtain rfl := Option.some.inj (asked.symm.trans found)
      have same_key : request.key = earlier.key := by cases continues <;> rfl
      rw [same_key, keys_step]
      exact List.mem_append_left _ (steady.asked before)

theorem step (steady : Steady answer c) (fits : Fits answer c event) :
    Steady answer (c.step event) where
  sound := steady.sound.step event
  calm := steady.calm_step fits
  answered := steady.answered_step fits
  asked := steady.asked_step

end Steady

/-- A key for which the gateway has a model, and which the cache has kept, costs one call at
most. -/
theorem Steady.length_callsFor_le_one (steady : Steady answer c) (retained : Retained key c)
    {artifacts : Artifacts} (ready : answer key = .ok artifacts) :
    (c.callsFor key).length ≤ 1 := by
  have live : ∀ call ∈ c.callsFor key, call.state.isLive = true := by
    intro call mem
    obtain ⟨there, same⟩ := List.mem_filter.mp mem
    obtain ⟨number, called⟩ := List.mem_iff_getElem?.mp there
    obtain rfl : call.key = key := by simpa using same
    rw [CallState.isLive_iff]
    rcases steady.answered called with running | returned
    · exact Or.inl running
    · exact Or.inr ⟨artifacts, by rw [returned, ready]⟩
  rw [← List.countP_eq_length.mpr live]
  exact retained.countP_live_le_one steady.sound.calls

end Joinery.Preview.Coordinator
