import Joinery.Proofs.Preview.History
import Joinery.Proofs.Preview.Soundness

/-!
# What the coordinator's tables hold

Main statements: in every state that a run reaches, whatever the cache has given
up on the way, nothing is in flight that nobody wants, nothing is both in flight
and cached, and each current ticket belongs to one request, which still waits; and
a request that holds the current ticket of its target waits for a call that has
returned or is in flight.
-/

namespace Joinery.Preview.Coordinator

variable {c : Coordinator}

/-- Without tickets nothing is in flight. -/
theorem Tended.inFlight_eq_none (tended : Tended c)
    (nobody : ∀ target, c.tickets.get? target = none) (key : GenerationKey) :
    c.inFlight.get? key = none := by
  cases flies : c.inFlight.get? key with
  | none => rfl
  | some flight =>
      obtain ⟨target, ticket, held, -⟩ := c.wants_iff.mp (tended key flight flies)
      rw [nobody] at held
      cases held

/-- The tables never leak. Each key in flight is that of a current ticket and is
not cached, and a running call is always in flight. Current tickets have ids of
their own; each belongs to one request, of its target, which still waits. Once no
request waits both tables are empty. -/
theorem tables_of_run (capacity : Nat) (events : List Event) :
    let c := run capacity events
    (∀ key flight, c.inFlight.get? key = some flight →
      (∃ target ticket, c.tickets.get? target = some ticket ∧ ticket.key = key) ∧
        c.cached key = none) ∧
    (∀ (number id : Nat) (key : GenerationKey), c.calls[number]? = some ⟨id, key, .running⟩ →
      c.inFlight.get? key = some ⟨id, number⟩) ∧
    (∀ target other ticket ticket', c.tickets.get? target = some ticket →
      c.tickets.get? other = some ticket' → ticket.id = ticket'.id → target = other) ∧
    (∀ target ticket, c.tickets.get? target = some ticket →
      ∃ number call : Nat,
        c.requests[number]? = some ⟨target, ticket.key, ticket.id, .waiting call⟩ ∧
          ∀ (other : Nat) (request : Request), c.requests[other]? = some request →
            request.ticket = ticket.id → other = number) ∧
    ((∀ request ∈ c.requests, request.state.isWaiting = false) →
      c.inFlightCount = 0 ∧ c.pendingTargets = 0) := by
  intro c
  obtain ⟨calls, tickets, tended⟩ : Sound c := sound_run capacity events
  refine ⟨?_, ?_, ?_, ?_, ?_⟩
  · intro key flight flies
    exact ⟨c.wants_iff.mp (tended key flight flies), calls.flight_uncached flies⟩
  · intro number id key called
    exact calls.running_flies called
  · intro target other ticket ticket' held held' same
    obtain ⟨number, call, asked, -⟩ := tickets.holder (by simp) held
    obtain ⟨number', call', asked', -⟩ := tickets.holder (by simp) held'
    obtain rfl := tickets.ticket_unique asked asked' same
    exact congrArg Request.target (Option.some.inj (asked.symm.trans asked'))
  · intro target ticket held
    obtain ⟨number, call, asked, -⟩ := tickets.holder (by simp) held
    refine ⟨number, call, asked, fun other request asked' same => ?_⟩
    exact tickets.ticket_unique asked' asked same
  · intro ended
    have nobody : ∀ target, c.tickets.get? target = none := by
      intro target
      cases held : c.tickets.get? target with
      | none => rfl
      | some ticket =>
          obtain ⟨number, call, asked, -⟩ := tickets.holder (by simp) held
          have waits := ended _ (List.mem_of_getElem? asked)
          cases waits
    exact ⟨(Table.size_eq_zero_iff _).mpr (tended.inFlight_eq_none nobody),
      (Table.size_eq_zero_iff _).mpr nobody⟩

/-- A target moves on to another model while a second still waits for the first one. -/
theorem tables_of_run_moved_on :
    let shelves : GenerationKey := ⟨"M1(1000,400,1000)b", false⟩
    let cabinet : GenerationKey := ⟨"M1(2000,500,1000)b", false⟩
    let events : List Event := [.enter "left" shelves, .enter "right" shelves,
      .enter "left" cabinet, .finish 0 (.ok ⟨"a.glb", none⟩), .settle 1]
    let c := run 1 events
    let ended := run 1 (events ++ [.drop 2, .settle 0])
    (c.inFlight.get? cabinet = some ⟨5, 1⟩ ∧
      (∃ target ticket, c.tickets.get? target = some ticket ∧ ticket.key = cabinet) ∧
        c.cached cabinet = none) ∧
    (c.tickets.get? "left" = some ⟨4, cabinet⟩ ∧ ∃ number call : Nat,
      c.requests[number]? = some ⟨"left", cabinet, 4, .waiting call⟩ ∧
        ∀ (other : Nat) (request : Request), c.requests[other]? = some request →
          request.ticket = 4 → other = number) ∧
    (∀ request ∈ ended.requests, request.state.isWaiting = false) ∧
      ended.inFlightCount = 0 ∧ ended.pendingTargets = 0 := by
  intro shelves cabinet events c ended
  have flies : c.inFlight.get? cabinet = some ⟨5, 1⟩ := by decide +kernel
  have held : c.tickets.get? "left" = some ⟨4, cabinet⟩ := by decide +kernel
  have settled : ∀ request ∈ ended.requests, request.state.isWaiting = false := by decide +kernel
  obtain ⟨flights, -, -, holders, -⟩ := tables_of_run 1 events
  obtain ⟨-, -, -, -, empty⟩ := tables_of_run 1 (events ++ [.drop 2, .settle 0])
  exact ⟨⟨flies, flights cabinet _ flies⟩, ⟨held, holders "left" _ held⟩, settled, empty settled⟩

/-- No waiter is stranded. A request that waits and holds its target's current
ticket waits for a call for its key that has returned, or is in flight under that
key and has not been aborted: it runs, or has crashed. -/
theorem served_of_current {capacity : Nat} {events : List Event} {number call : Nat}
    {request : Request} (asked : (run capacity events).requests[number]? = some request)
    (waits : request.state = .waiting call)
    (current : (run capacity events).isCurrent request = true) :
    let c := run capacity events
    (∃ id result, c.calls[call]? = some ⟨id, request.key, .returned result⟩) ∨
      ∃ id, c.inFlight.get? request.key = some ⟨id, call⟩ ∧
        (c.calls[call]? = some ⟨id, request.key, .running⟩ ∨
          c.calls[call]? = some ⟨id, request.key, .died⟩ ∧ .crash call ∈ events) := by
  obtain ⟨id, state, called, ⟨result, rfl⟩ | ⟨flies, rfl | rfl⟩⟩ :=
    (sound_run capacity events).call_of_current asked waits current
  · exact Or.inl ⟨id, result, called⟩
  · exact Or.inr ⟨id, flies, Or.inl called⟩
  · exact Or.inr ⟨id, flies, Or.inr ⟨called, crash_of_died called rfl⟩⟩

/-- A call fails, another target starts a new one for the key and is cancelled; the
first target still waits for the call that failed. -/
theorem served_of_current_restarted :
    let key : GenerationKey := ⟨"M1(1000,400,1000)b", false⟩
    let events : List Event := [.enter "left" key, .finish 0 (.error (.httpStatus 500 "boom")),
      .enter "right" key, .cancel "right"]
    let c := run 1 events
    let request : Request := ⟨"left", key, 1, .waiting 0⟩
    c.requests[0]? = some request ∧ c.isCurrent request = true ∧
      ((∃ id result, c.calls[0]? = some ⟨id, key, .returned result⟩) ∨
        ∃ id, c.inFlight.get? key = some ⟨id, 0⟩ ∧
          (c.calls[0]? = some ⟨id, key, .running⟩ ∨
            c.calls[0]? = some ⟨id, key, .died⟩ ∧ .crash 0 ∈ events)) := by
  intro key events c request
  have asked : c.requests[0]? = some request := by decide
  have current : c.isCurrent request = true := by decide
  exact ⟨asked, current, served_of_current asked rfl current⟩

end Joinery.Preview.Coordinator
