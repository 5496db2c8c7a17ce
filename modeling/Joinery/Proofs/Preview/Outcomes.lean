import Joinery.Proofs.Preview.History
import Joinery.Proofs.Preview.Soundness

/-!
# How requests end

Main statement: a request that was not answered at once is superseded exactly if
a later request or a cancel for its target came before it settled; any other
request ends with the result of a call for its own key.
-/

namespace Joinery.Preview

/-- Whether an event takes a target away from the request that holds it: a new
request or a cancel. -/
def Event.withdraws (target : String) : Event → Bool
  | .enter other _ => other = target
  | .cancel other => other = target
  | _ => false

namespace Coordinator

variable {c : Coordinator} {target : String} {key : GenerationKey}

/-- After a new request or a cancel a target has no ticket that is older. -/
theorem ticket_of_withdraws {event : Event} (withdraws : event.withdraws target = true)
    {ticket : Ticket} (held : (c.step event).tickets.get? target = some ticket) :
    ticket.id = c.lastId + 1 := by
  cases event with
  | enter other key =>
      obtain rfl : other = target := by simpa [Event.withdraws] using withdraws
      rcases c.enter_cases other key with ⟨_, -, same⟩ | ⟨_, -, -, same⟩ | ⟨-, -, same⟩
      · simp [step, same, forget] at held
      · simp [step, same] at held
        exact (congrArg Ticket.id held).symm
      · simp [step, same] at held
        exact (congrArg Ticket.id held).symm
  | cancel other =>
      obtain rfl : other = target := by simpa [Event.withdraws] using withdraws
      rcases c.cancel_cases other with ⟨same, nothing⟩ | ⟨_, -, same⟩
      · simp [step, same, nothing] at held
      · simp [step, same, forget] at held
  | finish | crash | settle | drop | evict => simp [Event.withdraws] at withdraws

theorem ticket_surrender (c : Coordinator) (target : String) (request : Request) :
    (c.surrender request).tickets.get? target = c.tickets.get? target ∨
      c.isCurrent request = true ∧ request.target = target ∧
        (c.surrender request).tickets.get? target = none := by
  rcases c.surrender_cases request with ⟨same, -⟩ | ⟨current, same⟩
  · exact Or.inl (by rw [same])
  · by_cases here : request.target = target
    · exact Or.inr ⟨current, here, by simp [same, forget, here]⟩
    · exact Or.inl (by simp [same, forget, Table.get?_erase_of_ne, Ne.symm here])

/-- From one state to the next a target has lost its ticket, as the request that held
it has come to its end. -/
def GivesUp (c next : Coordinator) (target : String) : Prop :=
  next.tickets.get? target = none ∧
    ∃ (number : Nat) (request : Request) (state : RequestState),
      c.requests[number]? = some request ∧ c.isCurrent request = true ∧
      request.target = target ∧ next.requests[number]? = some { request with state } ∧
      state.isWaiting = false

theorem ticket_of_ending {number : Nat} {request : Request} {state : RequestState}
    (asked : c.requests[number]? = some request) (ended : state.isWaiting = false)
    (target : String) :
    ((c.surrender request).setRequest number state).tickets.get? target =
        c.tickets.get? target ∨
      c.GivesUp ((c.surrender request).setRequest number state) target := by
  rcases c.ticket_surrender target request with kept | ⟨held, here, gone⟩
  · exact Or.inl kept
  · exact Or.inr ⟨gone, number, request, state, asked, held, here,
      by simp [getElem?_setRequest, asked], ended⟩

/-- Any other event leaves the ticket of a target alone, unless the request that
holds it comes to its end. -/
theorem ticket_of_not_withdraws {event : Event} (keeps : event.withdraws target = false) :
    (c.step event).tickets.get? target = c.tickets.get? target ∨
      c.GivesUp (c.step event) target := by
  cases event with
  | enter other key =>
      have differs : target ≠ other := by
        rintro rfl
        simp [Event.withdraws] at keeps
      rcases c.enter_cases other key with ⟨_, -, same⟩ | ⟨_, -, -, same⟩ | ⟨-, -, same⟩ <;>
        exact Or.inl (by simp [step, same, forget, Table.get?_erase_of_ne,
          Table.get?_put_of_ne, differs])
  | finish call result =>
      rcases c.finish_cases call result with same | ⟨id, key, -, same⟩ <;>
        exact Or.inl (by simp [step, same])
  | crash call =>
      rcases c.crash_cases call with same | ⟨id, key, -, same⟩ <;>
        exact Or.inl (by simp [step, same])
  | settle number =>
      rcases c.settle_cases number with same | ⟨request, _, _, _, asked, -, -, -, same⟩
      · exact Or.inl (by rw [step, same])
      · rw [step, same]
        exact ticket_of_ending asked rfl target
  | drop number =>
      rcases c.drop_cases number with same | ⟨request, asked, -, same⟩
      · exact Or.inl (by rw [step, same])
      · rw [step, same]
        exact ticket_of_ending asked rfl target
  | cancel withdrawn =>
      have differs : target ≠ withdrawn := by
        rintro rfl
        simp [Event.withdraws] at keeps
      rcases c.cancel_cases withdrawn with ⟨same, -⟩ | ⟨ticket, -, same⟩
      · exact Or.inl (by rw [step, same])
      · exact Or.inl (by simp [step, same, forget, Table.get?_erase_of_ne, differs])
  | evict key => exact Or.inl (by simp [step])

theorem Sound.not_isCurrent_step (sound : Sound c) {number : Nat} {request : Request}
    (asked : c.requests[number]? = some request) (stale : c.isCurrent request = false)
    (event : Event) : (c.step event).isCurrent request = false := by
  have issued := sound.tickets.ticket_le asked
  by_contra current
  obtain ⟨ticket, held, same⟩ := (isCurrent_iff _).mp (Bool.of_not_eq_false current)
  cases withdraws : event.withdraws request.target with
  | true =>
      have new := ticket_of_withdraws withdraws held
      omega
  | false =>
      rcases ticket_of_not_withdraws (c := c) withdraws with kept | ⟨gone, -⟩
      · have before : c.isCurrent request = true :=
          c.isCurrent_iff.mpr ⟨ticket, kept ▸ held, same⟩
        rw [stale] at before
        cases before
      · rw [gone] at held
        cases held

/-- As long as it waits, a current request stays current through any event but a new
request or a cancel for its target. -/
theorem Sound.isCurrent_step_iff (sound : Sound c) {number call : Nat} {request : Request}
    (asked : c.requests[number]? = some request) (waits : request.state = .waiting call)
    (current : c.isCurrent request = true) (event : Event)
    (still : (c.step event).requests[number]? = some request) :
    (c.step event).isCurrent request = true ↔ event.withdraws request.target = false := by
  have issued := sound.tickets.ticket_le asked
  obtain ⟨ticket, held, same⟩ := c.isCurrent_iff.mp current
  constructor
  · intro current'
    obtain ⟨ticket', held', same'⟩ := (isCurrent_iff _).mp current'
    cases withdraws : event.withdraws request.target with
    | false => rfl
    | true =>
        have new := ticket_of_withdraws withdraws held'
        omega
  · intro keeps
    rcases ticket_of_not_withdraws (c := c) keeps with
      kept | ⟨-, other, request', state, asked', current', here, next, ended⟩
    · exact (isCurrent_iff _).mpr ⟨ticket, kept ▸ held, same⟩
    · -- two current requests of one target are one request
      obtain ⟨ticket', held', same'⟩ := c.isCurrent_iff.mp current'
      rw [here, held] at held'
      obtain rfl := Option.some.inj held'
      obtain rfl := sound.tickets.ticket_unique asked asked' (same.symm.trans same')
      rw [still] at next
      have states := congrArg Request.state (Option.some.inj next)
      simp [waits] at states
      simp [← states, RequestState.isWaiting] at ended

/-- A waiting request is current as long as no new request or cancel for its target
has come. -/
theorem Sound.isCurrent_after_iff (sound : Sound c) {number call : Nat} {request : Request}
    (asked : c.requests[number]? = some request) (waits : request.state = .waiting call)
    (current : c.isCurrent request = true) (events : List Event)
    (still : (c.after events).requests[number]? = some request) :
    (c.after events).isCurrent request = true ↔
      ∀ event ∈ events, event.withdraws request.target = false := by
  induction events using List.reverseRecOn with
  | nil => simpa using current
  | append_singleton events event ih =>
      rw [after_append, after_cons, after_nil] at still ⊢
      obtain ⟨request', asked'⟩ := exists_request_after asked events
      obtain rfl := waiting_since [event] asked' still waits
      have sound' := sound.after events
      have until_now := ih asked'
      cases before : (c.after events).isCurrent request' with
      | true =>
          have kept := until_now.mp before
          rw [sound'.isCurrent_step_iff asked' waits before event still]
          constructor
          · intro keeps earlier mem
            rcases List.mem_append.mp mem with old | last
            · exact kept earlier old
            · rw [List.mem_singleton.mp last]
              exact keeps
          · intro keeps
            exact keeps event (List.mem_append_right _ List.mem_cons_self)
      | false =>
          rw [sound'.not_isCurrent_step asked' before event]
          constructor
          · intro current
            cases current
          · intro keeps
            have kept := until_now.mpr fun earlier mem => keeps earlier (List.mem_append_left _ mem)
            rw [before] at kept
            cases kept

/-- A request that enters is answered from the cache, or waits with the current ticket
of its target. -/
theorem added_of_enter {request : Request}
    (added : (c.enter target key).requests[c.requests.length]? = some request) :
    (∃ artifacts, c.cache.get? key = some artifacts ∧
        request.state = .resolved (.ready artifacts)) ∨
      ∃ call, request.state = .waiting call ∧ (c.enter target key).isCurrent request = true := by
  rcases c.enter_cases target key with
    ⟨artifacts, stored, same⟩ | ⟨flight, -, -, same⟩ | ⟨-, -, same⟩
  · rw [same, getElem?_record] at added
    obtain rfl : _ = request := by simpa using added
    exact Or.inl ⟨artifacts, stored, rfl⟩
  · rw [same, getElem?_record] at added
    obtain rfl : _ = request := by simpa using added
    exact Or.inr ⟨flight.call, rfl, by simp [same, isCurrent]⟩
  · rw [same, getElem?_record] at added
    obtain rfl : _ = request := by simpa using added
    exact Or.inr ⟨c.calls.length, rfl, by simp [same, isCurrent]⟩

/-- The request with this number was resolved as it entered. -/
def AnsweredAtOnce (capacity : Nat) (events : List Event) (number : Nat) (request : Request) :
    Prop :=
  ∃ before later : List Event, events = before ++ .enter request.target request.key :: later ∧
    (run capacity before).requests.length = number ∧
    (run capacity (before ++ [.enter request.target request.key])).requests[number]? = some request

/-- The request with this number still waits as it did when it entered, after the
events `between`. -/
def StillWaits (capacity : Nat) (events : List Event) (number : Nat) (request : Request)
    (between : List Event) : Prop :=
  ∃ before : List Event, events = before ++ .enter request.target request.key :: between ∧
    (run capacity before).requests.length = number ∧
    (run capacity (before ++ [.enter request.target request.key])).requests[number]? =
      some request ∧
    (run capacity events).requests[number]? = some request

/-- The request with this number settled with an outcome after it had waited through
the events `between`. -/
def Settles (capacity : Nat) (events : List Event) (number : Nat) (request : Request)
    (between : List Event) (outcome : Outcome) : Prop :=
  ∃ asked later : List Event, events = asked ++ .settle number :: later ∧
    StillWaits capacity asked number request between ∧
    (run capacity (asked ++ [.settle number])).requests[number]? =
      some { request with state := .resolved outcome }

variable {capacity : Nat} {events : List Event} {number : Nat} {request : Request}

theorem AnsweredAtOnce.append (answered : AnsweredAtOnce capacity events number request)
    (event : Event) : AnsweredAtOnce capacity (events ++ [event]) number request := by
  obtain ⟨before, later, rfl, counted, resolved⟩ := answered
  exact ⟨before, later ++ [event], by simp, counted, resolved⟩

theorem Settles.append {between : List Event} {outcome : Outcome}
    (settles : Settles capacity events number request between outcome) (event : Event) :
    Settles capacity (events ++ [event]) number request between outcome := by
  obtain ⟨asked, later, rfl, waits, resolved⟩ := settles
  exact ⟨asked, later ++ [event], by simp, waits, resolved⟩

/-- Every request that waits or has resolved came there by one of the courses. -/
theorem course_of_request (capacity : Nat) (events : List Event) {number : Nat} {request : Request}
    (asked : (run capacity events).requests[number]? = some request) :
    (request.state.isWaiting = true →
      ∃ between, StillWaits capacity events number request between) ∧
      ∀ outcome, request.state = .resolved outcome →
        AnsweredAtOnce capacity events number request ∨
          ∃ call between,
            Settles capacity events number { request with state := .waiting call } between
              outcome := by
  induction events using List.reverseRecOn generalizing request with
  | nil => simp [run, initial] at asked
  | append_singleton events event ih =>
      have last := asked
      rw [run_append, after_cons, after_nil] at asked
      cases before : (run capacity events).requests[number]? with
      | none =>
          obtain ⟨target, key, rfl, counted, rfl, rfl⟩ := enter_of_added asked before
          refine ⟨fun _ => ⟨[], events, rfl, counted.symm, last, last⟩, fun outcome _ => ?_⟩
          exact Or.inl ⟨events, [], rfl, counted.symm, last⟩
      | some earlier =>
          obtain ⟨waiting, resolved⟩ := ih before
          obtain ⟨request', found, continues⟩ := continues_step before event
          obtain rfl := Option.some.inj (asked.symm.trans found)
          cases continues with
          | stays =>
              refine ⟨fun waits => ?_, fun outcome ends => ?_⟩
              · obtain ⟨between, entered, rfl, counted, joined, -⟩ := waiting waits
                exact ⟨between ++ [event], entered, by simp, counted, joined, last⟩
              · rcases resolved outcome ends with answered | ⟨call, between, settles⟩
                · exact Or.inl (answered.append event)
                · exact Or.inr ⟨call, between, settles.append event⟩
          | @settles call called outcome' cause waits =>
              refine ⟨by simp [RequestState.isWaiting], fun outcome ends => Or.inr ?_⟩
              obtain ⟨between, still⟩ := waiting (by simp [waits, RequestState.isWaiting])
              obtain rfl := RequestState.resolved.inj ends
              subst cause
              refine ⟨call, between, events, [], rfl, ?_, last⟩
              obtain ⟨target, key, ticket, state⟩ := earlier
              obtain rfl : state = .waiting call := waits
              exact still
          | leaves =>
              exact ⟨by simp [RequestState.isWaiting], by simp⟩

/-- What a request that is answered at once gets was returned by a call for its key. -/
theorem AnsweredAtOnce.returned (answered : AnsweredAtOnce capacity events number request)
    {outcome : Outcome} (ends : request.state = .resolved outcome) :
    ∃ (call id : Nat) (artifacts : Artifacts), outcome = .ready artifacts ∧
      (run capacity events).calls[call]? = some ⟨id, request.key, .returned (.ok artifacts)⟩ := by
  obtain ⟨before, later, rfl, rfl, resolved⟩ := answered
  rw [run_append, after_cons, after_nil, step] at resolved
  rcases added_of_enter resolved with ⟨artifacts, stored, ready⟩ | ⟨call, waits, -⟩
  · obtain ⟨call, id, called⟩ := (sound_run capacity before).calls.cached_returned stored
    refine ⟨call, id, artifacts, RequestState.resolved.inj (ends.symm.trans ready), ?_⟩
    rw [run_append]
    exact ended_after called (by simp) _
  · rw [ends] at waits
    cases waits

/-- A request that settles takes what became of its call, unless a new request or a
cancel for its target came before. -/
theorem Settles.outcome_cases {call : Nat} {between : List Event} {outcome : Outcome}
    (settles : Settles capacity events number request between outcome)
    (waits : request.state = .waiting call) :
    ((∃ event ∈ between, event.withdraws request.target = true) ∧ outcome = .superseded) ∨
      (∀ event ∈ between, event.withdraws request.target = false) ∧
        ∃ id state, (run capacity events).calls[call]? = some ⟨id, request.key, state⟩ ∧
          outcomeOf state = some outcome ∧
          ((∃ result, state = .returned result) ∨ state = .died ∧ .crash call ∈ events) := by
  obtain ⟨asked, later, rfl, ⟨before, split, rfl, joined, still⟩, resolved⟩ := settles
  rw [run_append, after_cons, after_nil] at joined resolved
  have sound := sound_run capacity asked
  have unbroken : (run capacity asked).isCurrent request = true ↔
      ∀ event ∈ between, event.withdraws request.target = false := by
    rw [split, run_append, after_cons] at still ⊢
    rcases added_of_enter joined with ⟨_, -, ready⟩ | ⟨_, -, current⟩
    · rw [waits] at ready
      cases ready
    · have entered := (sound_run capacity before).step (.enter request.target request.key)
      exact entered.isCurrent_after_iff joined waits current between still
  obtain ⟨called, taken, found, ended, rfl⟩ := outcome_of_settle still waits resolved
  cases current : (run capacity asked).isCurrent request with
  | false =>
      refine Or.inl ⟨?_, by simp⟩
      have broken : ¬∀ event ∈ between, event.withdraws request.target = false := by
        rw [← unbroken, current]
        exact Bool.false_ne_true
      simpa using broken
  | true =>
      refine Or.inr ⟨unbroken.mp current, ?_⟩
      obtain ⟨id, state, found', fate⟩ := sound.call_of_current still waits current
      obtain rfl := Option.some.inj (found.symm.trans found')
      have lasts := ended_after found (fun running => by simp_all [outcomeOf])
        (.settle (run capacity before).requests.length :: later)
      rw [← run_append] at lasts
      refine ⟨id, state, lasts, by simpa using ended, ?_⟩
      rcases fate with returned | ⟨-, rfl | rfl⟩
      · exact Or.inl returned
      · cases ended
      · exact Or.inr ⟨rfl, List.mem_append_left _ (crash_of_died found rfl)⟩

/-- How requests end. A resolved request was answered at once, with what a call for
its key returned, or it waited for a call and settled. In the second case it is
superseded if a new request or a cancel for its target came in between; otherwise,
unless its call crashed, it gets what that call returned for its own key, whatever
happened to other targets. All that waited for one call and were not superseded get
the same. -/
theorem outcome_of_request (capacity : Nat) (events : List Event) :
    (∀ (number : Nat) (request : Request) (outcome : Outcome),
      (run capacity events).requests[number]? = some request → request.state = .resolved outcome →
        AnsweredAtOnce capacity events number request ∨
          ∃ call between,
            Settles capacity events number { request with state := .waiting call } between
              outcome) ∧
    (∀ (number : Nat) (request : Request) (outcome : Outcome),
      AnsweredAtOnce capacity events number request → request.state = .resolved outcome →
        ∃ (call id : Nat) (artifacts : Artifacts), outcome = .ready artifacts ∧
          (run capacity events).calls[call]? = some ⟨id, request.key, .returned (.ok artifacts)⟩) ∧
    (∀ (number call : Nat) (request : Request) (between : List Event) (outcome : Outcome),
      Settles capacity events number request between outcome → request.state = .waiting call →
        ((∃ event ∈ between, event.withdraws request.target = true) → outcome = .superseded) ∧
        ((∀ event ∈ between, event.withdraws request.target = false) → .crash call ∉ events →
          ∃ (id : Nat) (result : CallResult),
            (run capacity events).calls[call]? = some ⟨id, request.key, .returned result⟩ ∧
              outcome = .ofResult result)) ∧
    (∀ (number number' call : Nat) (request request' : Request) (between between' : List Event)
      (outcome outcome' : Outcome),
      Settles capacity events number request between outcome → request.state = .waiting call →
        Settles capacity events number' request' between' outcome' →
          request'.state = .waiting call → outcome ≠ .superseded → outcome' ≠ .superseded →
            outcome = outcome') := by
  refine ⟨?_, ?_, ?_, ?_⟩
  · intro number request outcome asked ends
    exact (course_of_request capacity events asked).2 outcome ends
  · intro number request outcome answered ends
    exact answered.returned ends
  · intro number call request between outcome settles waits
    rcases settles.outcome_cases waits with
      ⟨⟨event, mem, withdraws⟩, superseded⟩ | ⟨unbroken, id, state, called, ended, fate⟩
    · refine ⟨fun _ => superseded, fun unbroken => ?_⟩
      rw [unbroken event mem] at withdraws
      cases withdraws
    · refine ⟨fun ⟨event, mem, withdraws⟩ => ?_, fun _ survives => ?_⟩
      · rw [unbroken event mem] at withdraws
        cases withdraws
      · rcases fate with ⟨result, rfl⟩ | ⟨-, crashed⟩
        · exact ⟨id, result, called, (Option.some.inj ended).symm⟩
        · exact absurd crashed survives
  · intro number number' call request request' between between' outcome outcome' settles waits
      settles' waits' current current'
    rcases settles.outcome_cases waits with ⟨-, superseded⟩ | ⟨-, id, state, called, ended, -⟩
    · exact absurd superseded current
    · rcases settles'.outcome_cases waits' with
        ⟨-, superseded⟩ | ⟨-, id', state', called', ended', -⟩
      · exact absurd superseded current'
      · obtain rfl : state = state' :=
          congrArg Call.state (Option.some.inj (called.symm.trans called'))
        exact Option.some.inj (ended.symm.trans ended')

/-- Three targets share a call, one of which has moved on when it returns; a fourth comes
later. -/
theorem outcome_of_request_shared :
    let key : GenerationKey := ⟨"M1(1000,400,1000)b", false⟩
    let shelves : Artifacts := ⟨"a.glb", none⟩
    let events : List Event := [.enter "left" key, .enter "middle" key, .enter "right" key,
      .cancel "left", .finish 0 (.ok shelves), .settle 0, .settle 1, .settle 2, .enter "late" key]
    let left : Request := ⟨"left", key, 1, .waiting 0⟩
    let middle : Request := ⟨"middle", key, 3, .waiting 0⟩
    let right : Request := ⟨"right", key, 4, .waiting 0⟩
    let late : Request := ⟨"late", key, 5, .resolved (.ready shelves)⟩
    Settles 1 events 0 left (events.extract 1 5) .superseded ∧
      Settles 1 events 1 middle (events.extract 2 6) (.ready shelves) ∧
      Settles 1 events 2 right (events.extract 3 7) (.ready shelves) ∧
      AnsweredAtOnce 1 events 3 late ∧
      (∀ outcome, Settles 1 events 0 left (events.extract 1 5) outcome → outcome = .superseded) ∧
      (∃ (id : Nat) (result : CallResult),
        (run 1 events).calls[0]? = some ⟨id, key, .returned result⟩ ∧
          Outcome.ready shelves = .ofResult result) ∧
      (∀ outcome, Settles 1 events 2 right (events.extract 3 7) outcome →
        outcome ≠ .superseded → .ready shelves = outcome) ∧
      (∃ (call id : Nat) (artifacts : Artifacts), Outcome.ready shelves = .ready artifacts ∧
        (run 1 events).calls[call]? = some ⟨id, key, .returned (.ok artifacts)⟩) := by
  intro key shelves events left middle right late
  have left_settles : Settles 1 events 0 left (events.extract 1 5) .superseded :=
    ⟨events.take 5, events.drop 6, rfl,
      ⟨[], rfl, by decide, by decide +kernel, by decide +kernel⟩, by decide +kernel⟩
  have middle_settles : Settles 1 events 1 middle (events.extract 2 6) (.ready shelves) :=
    ⟨events.take 6, events.drop 7, rfl,
      ⟨events.take 1, rfl, by decide, by decide +kernel, by decide +kernel⟩, by decide +kernel⟩
  have right_settles : Settles 1 events 2 right (events.extract 3 7) (.ready shelves) :=
    ⟨events.take 7, events.drop 8, rfl,
      ⟨events.take 2, rfl, by decide, by decide +kernel, by decide +kernel⟩, by decide +kernel⟩
  have answered : AnsweredAtOnce 1 events 3 late :=
    ⟨events.take 8, [], rfl, by decide +kernel, by decide +kernel⟩
  obtain ⟨-, at_once, settled, shared⟩ := outcome_of_request 1 events
  have no_crash : Event.crash 0 ∉ events := by simp [events]
  have undisturbed : ∀ event ∈ events.extract 2 6, event.withdraws middle.target = false := by
    simp [events, List.extract, Event.withdraws, middle]
  have withdrawn : ∃ event ∈ events.extract 1 5, event.withdraws left.target = true :=
    ⟨.cancel "left", by simp [events, List.extract], rfl⟩
  have returned := (settled 1 0 middle _ _ middle_settles rfl).2 undisturbed no_crash
  have cached := at_once 3 late _ answered rfl
  refine ⟨left_settles, middle_settles, right_settles, answered, ?_, returned, ?_, cached⟩
  · intro outcome ends
    exact (settled 0 0 left _ outcome ends rfl).1 withdrawn
  · intro outcome ends current
    exact shared 1 2 0 middle right _ _ _ _ middle_settles rfl ends rfl (by simp) current

end Coordinator

end Joinery.Preview
