import Joinery.Proofs.Preview.Operations
import Mathlib.Data.List.Induction

/-!
# How calls and requests go on

One event changes a call only while it runs, and a request only while it waits.
Calls start and requests are added at the end of their histories, so that a
number always stands for the same call and the same request. From the step
lemmas follow those for runs: what has come to an end stays as it is.
-/

namespace Joinery.Preview.Coordinator

variable (c : Coordinator)

@[simp] theorem after_nil : c.after [] = c := rfl

theorem after_cons (event : Event) (events : List Event) :
    c.after (event :: events) = (c.step event).after events := rfl

theorem after_append (events later : List Event) :
    c.after (events ++ later) = (c.after events).after later := by
  simp [after, List.foldl_append]

theorem run_append (capacity : Nat) (events later : List Event) :
    run capacity (events ++ later) = (run capacity events).after later :=
  (initial capacity).after_append events later

theorem cache_surrender (request : Request) : (c.surrender request).cache = c.cache := by
  rcases c.surrender_cases request with ⟨same, -⟩ | ⟨-, same⟩ <;> simp [same]

theorem capacity_surrender (request : Request) : (c.surrender request).capacity = c.capacity := by
  rcases c.surrender_cases request with ⟨same, -⟩ | ⟨-, same⟩ <;> simp [same]

/-- No event changes how much the cache is to hold. -/
theorem capacity_step (event : Event) : (c.step event).capacity = c.capacity := by
  cases event with
  | enter target key =>
      have issued := (c.issue_keeps target key).2.2.2.2.1
      rcases c.enter_cases target key with ⟨_, -, same⟩ | ⟨_, -, -, same⟩ | ⟨-, -, same⟩ <;>
        · rw [step, same]
          exact issued
  | finish number result =>
      rcases c.finish_cases number result with same | ⟨id, key, -, same⟩ <;> simp [step, same]
  | crash number =>
      rcases c.crash_cases number with same | ⟨id, key, -, same⟩ <;> simp [step, same]
  | settle number =>
      rcases c.settle_cases number with same | ⟨request, _, _, _, -, -, -, -, same⟩
      · rw [step, same]
      · rw [step, same]
        exact c.capacity_surrender request
  | drop number =>
      rcases c.drop_cases number with same | ⟨request, -, -, same⟩
      · rw [step, same]
      · rw [step, same]
        exact c.capacity_surrender request
  | cancel target =>
      rcases c.cancel_cases target with ⟨same, -⟩ | ⟨ticket, -, same⟩ <;> simp [step, same]
  | evict key => exact (c.evict_keeps key).2.2.2.2.2

/-- The key for which an event starts a call: that of a request which finds it
neither cached nor in flight. -/
def starts (c : Coordinator) : Event → Option GenerationKey
  | .enter _ key => if c.cache.get? key = none ∧ c.inFlight.get? key = none then some key else none
  | _ => none

/-- The keys of all calls, in the order in which they started. -/
def keys (c : Coordinator) : List GenerationKey := c.calls.map Call.key

@[simp] theorem keys_setCall (number : Nat) (state : CallState) :
    (c.setCall number state).keys = c.keys := by
  apply List.ext_getElem?
  intro i
  simp only [keys, List.getElem?_map, getElem?_setCall]
  split <;> simp [Function.comp_def]

@[simp] theorem keys_abort (number : Nat) : (c.abort number).keys = c.keys := by
  apply List.ext_getElem?
  intro i
  simp only [keys, List.getElem?_map, getElem?_abort]
  split <;> simp [Function.comp_def]

@[simp] theorem keys_forget (target : String) : (c.forget target).keys = c.keys := rfl

@[simp] theorem keys_release (key : GenerationKey) : (c.release key).keys = c.keys := by
  rcases c.release_cases key with ⟨same, -⟩ | ⟨flight, -, -, same⟩
  · rw [same]
  · rw [same, keys_abort]
    rfl

@[simp] theorem keys_issue (target : String) (key : GenerationKey) :
    (c.issue target key).keys = c.keys := by
  rcases c.issue_cases target key with ⟨same, -⟩ | ⟨previous, -, -, same⟩
  · rw [same]
    rfl
  · rw [same, keys_release]
    rfl

@[simp] theorem keys_surrender (request : Request) : (c.surrender request).keys = c.keys := by
  rcases c.surrender_cases request with ⟨same, -⟩ | ⟨-, same⟩
  · rw [same]
  · rw [same, keys_release, keys_forget]

@[simp] theorem keys_start (key : GenerationKey) : (c.start key).keys = c.keys ++ [key] := by
  simp [keys, start]

/-- An event starts at most one call, for the key of the request that enters. -/
theorem keys_step (event : Event) : (c.step event).keys = c.keys ++ (c.starts event).toList := by
  cases event with
  | enter target key =>
      have issued := c.keys_issue target key
      rcases c.enter_cases target key with
        ⟨artifacts, stored, same⟩ | ⟨flight, missing, flies, same⟩ | ⟨missing, grounded, same⟩
      · have joins : c.starts (.enter target key) = none := by simp [starts, stored]
        rw [step, same, joins]
        exact issued.trans (List.append_nil _).symm
      · have joins : c.starts (.enter target key) = none := by simp [starts, flies]
        rw [step, same, joins]
        exact issued.trans (List.append_nil _).symm
      · have begins : c.starts (.enter target key) = some key := by
          simp [starts, missing, grounded]
        rw [step, same, begins, ← issued]
        exact (c.issue target key).keys_start key
  | finish number result =>
      refine Eq.trans ?_ (List.append_nil _).symm
      rcases c.finish_cases number result with same | ⟨id, key, -, same⟩
      · rw [step, same]
      · rw [step, same, keys_setCall]
        rfl
  | crash number =>
      rcases c.crash_cases number with same | ⟨id, key, -, same⟩ <;> simp [step, same, starts]
  | settle number =>
      refine Eq.trans ?_ (List.append_nil _).symm
      rcases c.settle_cases number with same | ⟨request, _, _, _, -, -, -, -, same⟩
      · rw [step, same]
      · rw [step, same]
        exact c.keys_surrender request
  | drop number =>
      refine Eq.trans ?_ (List.append_nil _).symm
      rcases c.drop_cases number with same | ⟨request, -, -, same⟩
      · rw [step, same]
      · rw [step, same]
        exact c.keys_surrender request
  | cancel target =>
      rcases c.cancel_cases target with ⟨same, -⟩ | ⟨ticket, -, same⟩ <;>
        simp [step, same, starts]
  | evict key => simp [step, starts, keys]

/-- What can become of a call by one event. -/
inductive Becomes (event : Event) (number : Nat) (call : Call) : Call → Prop
  | stays : Becomes event number call call
  | aborts (running : call.state = .running) :
      Becomes event number call { call with state := .aborted }
  | returns (running : call.state = .running) (result : CallResult)
      (cause : event = .finish number result) :
      Becomes event number call { call with state := .returned result }
  | dies (running : call.state = .running) (cause : event = .crash number) :
      Becomes event number call { call with state := .died }

variable {c}

/-- A release leaves a call as it is or aborts it while it runs. -/
theorem becomes_release {event : Event} {number : Nat} {call : Call}
    (called : c.calls[number]? = some call) (key : GenerationKey) :
    ∃ call', (c.release key).calls[number]? = some call' ∧ Becomes event number call call' := by
  rcases c.release_cases key with ⟨same, -⟩ | ⟨flight, -, -, same⟩
  · exact ⟨call, by rw [same, called], .stays⟩
  · rw [same, getElem?_abort]
    split
    · by_cases running : call.state = .running
      · exact ⟨{ call with state := .aborted }, by simp [called, running, CallState.abort],
          .aborts running⟩
      · have ended : call.state.abort = call.state := by
          rcases h : call.state <;> simp_all [CallState.abort]
        exact ⟨call, by simp [called, ended], .stays⟩
    · exact ⟨call, called, .stays⟩

theorem becomes_issue {event : Event} {number : Nat} {call : Call}
    (called : c.calls[number]? = some call) (target : String) (key : GenerationKey) :
    ∃ call', (c.issue target key).calls[number]? = some call' ∧
      Becomes event number call call' := by
  rcases c.issue_cases target key with ⟨same, -⟩ | ⟨previous, -, -, same⟩
  · exact ⟨call, by rw [same]; exact called, .stays⟩
  · rw [same]
    exact becomes_release (c := c.grant target key) called previous.key

theorem becomes_surrender {event : Event} {number : Nat} {call : Call}
    (called : c.calls[number]? = some call) (request : Request) :
    ∃ call', (c.surrender request).calls[number]? = some call' ∧
      Becomes event number call call' := by
  rcases c.surrender_cases request with ⟨same, -⟩ | ⟨-, same⟩
  · exact ⟨call, by rw [same, called], .stays⟩
  · rw [same]
    exact becomes_release (c := c.forget request.target) called request.key

/-- One event changes a call only while it runs. -/
theorem becomes_step {number : Nat} {call : Call} (called : c.calls[number]? = some call)
    (event : Event) :
    ∃ call', (c.step event).calls[number]? = some call' ∧ Becomes event number call call' := by
  cases event with
  | enter target key =>
      obtain ⟨call', found, becomes⟩ := becomes_issue called target key
      refine ⟨call', ?_, becomes⟩
      rcases c.enter_cases target key with ⟨_, -, same⟩ | ⟨_, -, -, same⟩ | ⟨-, -, same⟩
      · rw [step, same]
        exact found
      · rw [step, same]
        exact found
      · have bound : number < (c.issue target key).calls.length :=
          (List.getElem?_eq_some_iff.mp found).1
        rw [step, same, (record_keeps _ _).1, getElem?_start, if_neg (Nat.ne_of_lt bound), found]
  | finish other result =>
      rcases c.finish_cases other result with same | ⟨id, key, called', same⟩
      · exact ⟨call, by rw [step, same, called], .stays⟩
      · by_cases here : number = other
        · subst here
          obtain rfl := Option.some.inj (called.symm.trans called')
          exact ⟨⟨id, key, .returned result⟩, by simp [step, same, getElem?_setCall, called],
            .returns rfl result rfl⟩
        · exact ⟨call, by simp [step, same, getElem?_setCall, here, called], .stays⟩
  | crash other =>
      rcases c.crash_cases other with same | ⟨id, key, called', same⟩
      · exact ⟨call, by rw [step, same, called], .stays⟩
      · by_cases here : number = other
        · subst here
          obtain rfl := Option.some.inj (called.symm.trans called')
          exact ⟨⟨id, key, .died⟩, by simp [step, same, getElem?_setCall, called], .dies rfl rfl⟩
        · exact ⟨call, by simp [step, same, getElem?_setCall, here, called], .stays⟩
  | settle other =>
      rcases c.settle_cases other with same | ⟨request, _, _, _, -, -, -, -, same⟩
      · exact ⟨call, by rw [step, same, called], .stays⟩
      · rw [step, same]
        exact becomes_surrender called request
  | drop other =>
      rcases c.drop_cases other with same | ⟨request, -, -, same⟩
      · exact ⟨call, by rw [step, same, called], .stays⟩
      · rw [step, same]
        exact becomes_surrender called request
  | cancel target =>
      rcases c.cancel_cases target with ⟨same, -⟩ | ⟨ticket, -, same⟩
      · exact ⟨call, by rw [step, same, called], .stays⟩
      · rw [step, same]
        exact becomes_release (c := c.forget target) called ticket.key
  | evict key => exact ⟨call, by rw [step, (c.evict_keeps key).1, called], .stays⟩

/-- A call that has come to an end stays as it is. -/
theorem ended_after {number : Nat} {call : Call} (called : c.calls[number]? = some call)
    (ended : call.state ≠ .running) (events : List Event) :
    (c.after events).calls[number]? = some call := by
  induction events generalizing c with
  | nil => exact called
  | cons event rest ih =>
      obtain ⟨call', found, becomes⟩ := becomes_step called event
      cases becomes with
      | stays => exact ih found
      | aborts running => exact absurd running ended
      | returns running => exact absurd running ended
      | dies running => exact absurd running ended

/-- A call is running when it starts. -/
theorem running_of_started {number : Nat} {call : Call} {event : Event}
    (started : (c.step event).calls[number]? = some call) (absent : c.calls[number]? = none) :
    call.state = .running := by
  have past : c.calls.length ≤ number := List.getElem?_eq_none_iff.mp absent
  have added : (c.step event).calls.length ≠ c.calls.length := by
    have bound := (List.getElem?_eq_some_iff.mp started).1
    omega
  have lengths : (c.step event).calls.length = (c.keys ++ (c.starts event).toList).length := by
    rw [← c.keys_step event, keys, List.length_map]
  have new : (c.starts event).isSome = true := by
    cases nothing : c.starts event with
    | none => exact absurd (by simpa [nothing, keys] using lengths) added
    | some key => rfl
  cases event with
  | enter target key =>
      rcases c.enter_cases target key with ⟨_, stored, -⟩ | ⟨_, -, flies, -⟩ | ⟨-, -, same⟩
      · simp [starts, stored] at new
      · simp [starts, flies] at new
      · rw [step, same, (record_keeps _ _).1, getElem?_start] at started
        split at started
        · exact (congrArg Call.state (Option.some.inj started)).symm
        · have nothing : (c.issue target key).calls[number]? = none := by
            simpa using past
          rw [nothing] at started
          cases started
  | finish | crash | settle | drop | cancel | evict => simp [starts] at new

/-- A call dies by a crash only. -/
theorem crash_of_died {capacity : Nat} {events : List Event} {number : Nat} {call : Call}
    (called : (run capacity events).calls[number]? = some call) (dead : call.state = .died) :
    .crash number ∈ events := by
  induction events using List.reverseRecOn generalizing call with
  | nil => simp [run, initial] at called
  | append_singleton events event ih =>
      rw [run_append, after_cons, after_nil] at called
      cases before : (run capacity events).calls[number]? with
      | none => simp [running_of_started called before] at dead
      | some earlier =>
          obtain ⟨call', found, becomes⟩ := becomes_step before event
          obtain rfl := Option.some.inj (called.symm.trans found)
          cases becomes with
          | stays => exact List.mem_append_left _ (ih before dead)
          | aborts => cases dead
          | returns => cases dead
          | dies _ cause => simp [cause]

@[simp] theorem requests_surrender (request : Request) :
    (c.surrender request).requests = c.requests := by
  rcases c.surrender_cases request with ⟨same, -⟩ | ⟨-, same⟩ <;> simp [same]

theorem requests_enter (c : Coordinator) (target : String) (key : GenerationKey) :
    ∃ state, (c.enter target key).requests =
      c.requests ++ [⟨target, key, c.lastId + 1, state⟩] := by
  rcases c.enter_cases target key with ⟨artifacts, -, same⟩ | ⟨flight, -, -, same⟩ | ⟨-, -, same⟩
  · exact ⟨.resolved (.ready artifacts), by simp [same, record]⟩
  · exact ⟨.waiting flight.call, by simp [same, record]⟩
  · exact ⟨.waiting c.calls.length, by simp [same, record]⟩

/-- What can become of a request by one event. -/
inductive Continues (c : Coordinator) (event : Event) (number : Nat) (request : Request) :
    Request → Prop
  | stays : Continues c event number request request
  | settles {call : Nat} {called : Call} {outcome : Outcome} (cause : event = .settle number)
      (waits : request.state = .waiting call) (found : c.calls[call]? = some called)
      (ends : outcomeOf called.state = some outcome) :
      Continues c event number request
        { request with
          state := .resolved (if c.isCurrent request then outcome else .superseded) }
  | leaves (cause : event = .drop number) (waits : request.state.isWaiting = true) :
      Continues c event number request { request with state := .dropped }

/-- One event changes a request only while it waits. -/
theorem continues_step {number : Nat} {request : Request}
    (asked : c.requests[number]? = some request) (event : Event) :
    ∃ request', (c.step event).requests[number]? = some request' ∧
      Continues c event number request request' := by
  cases event with
  | enter target key =>
      obtain ⟨state, added⟩ := c.requests_enter target key
      refine ⟨request, ?_, .stays⟩
      rw [step, added, List.getElem?_append_left (List.getElem?_eq_some_iff.mp asked).1, asked]
  | finish call result =>
      rcases c.finish_cases call result with same | ⟨id, key, -, same⟩
      · exact ⟨request, by rw [step, same, asked], .stays⟩
      · exact ⟨request, by rw [step, same]; exact asked, .stays⟩
  | crash call =>
      rcases c.crash_cases call with same | ⟨id, key, -, same⟩
      · exact ⟨request, by rw [step, same, asked], .stays⟩
      · exact ⟨request, by rw [step, same]; exact asked, .stays⟩
  | settle other =>
      rcases c.settle_cases other with same | ⟨request', _, _, _, asked', waits, found, ends, same⟩
      · exact ⟨request, by rw [step, same, asked], .stays⟩
      · by_cases here : number = other
        · subst here
          obtain rfl := Option.some.inj (asked.symm.trans asked')
          exact ⟨_, by simp [step, same, getElem?_setRequest, asked],
            .settles rfl waits found ends⟩
        · exact ⟨request, by simp [step, same, getElem?_setRequest, here, asked], .stays⟩
  | drop other =>
      rcases c.drop_cases other with same | ⟨request', asked', waits, same⟩
      · exact ⟨request, by rw [step, same, asked], .stays⟩
      · by_cases here : number = other
        · subst here
          obtain rfl := Option.some.inj (asked.symm.trans asked')
          exact ⟨_, by simp [step, same, getElem?_setRequest, asked], .leaves rfl waits⟩
        · exact ⟨request, by simp [step, same, getElem?_setRequest, here, asked], .stays⟩
  | cancel target =>
      rcases c.cancel_cases target with ⟨same, -⟩ | ⟨ticket, -, same⟩
      · exact ⟨request, by rw [step, same, asked], .stays⟩
      · exact ⟨request, by simp [step, same, asked], .stays⟩
  | evict key => exact ⟨request, by rw [step, (c.evict_keeps key).2.1, asked], .stays⟩

/-- A request that settles takes what became of its call, if it is current. -/
theorem outcome_of_settle {number call : Nat} {request : Request} {outcome : Outcome}
    (asked : c.requests[number]? = some request) (waits : request.state = .waiting call)
    (resolved : (c.step (.settle number)).requests[number]? =
      some { request with state := .resolved outcome }) :
    ∃ (called : Call) (taken : Outcome), c.calls[call]? = some called ∧
      outcomeOf called.state = some taken ∧
      outcome = if c.isCurrent request then taken else .superseded := by
  obtain ⟨next, found, continues⟩ := continues_step asked (.settle number)
  have same := congrArg Request.state (Option.some.inj (found.symm.trans resolved))
  cases continues with
  | stays => simp [waits] at same
  | @settles call' called taken _ waits' ran ends =>
      obtain rfl : call' = call := RequestState.waiting.inj (waits'.symm.trans waits)
      exact ⟨called, taken, ran, ends, (RequestState.resolved.inj same).symm⟩
  | leaves cause => cases cause

theorem length_requests_step {event : Event}
    (others : ∀ target key, event ≠ .enter target key) :
    (c.step event).requests.length = c.requests.length := by
  cases event with
  | enter target key => exact absurd rfl (others target key)
  | finish call result =>
      rcases c.finish_cases call result with same | ⟨id, key, -, same⟩ <;> simp [step, same]
  | crash call =>
      rcases c.crash_cases call with same | ⟨id, key, -, same⟩ <;> simp [step, same]
  | settle other =>
      rcases c.settle_cases other with same | ⟨request, _, _, _, -, -, -, -, same⟩ <;>
        simp [step, same, setRequest]
  | drop other =>
      rcases c.drop_cases other with same | ⟨request, -, -, same⟩ <;> simp [step, same, setRequest]
  | cancel target =>
      rcases c.cancel_cases target with ⟨same, -⟩ | ⟨ticket, -, same⟩ <;> simp [step, same]
  | evict key => simp [step]

/-- Only a request that enters changes what is asked for. -/
theorem map_requests_step {α : Type} {event : Event}
    (others : ∀ target key, event ≠ .enter target key) (f : Request → α)
    (blind : ∀ (request : Request) (state : RequestState), f { request with state } = f request) :
    (c.step event).requests.map f = c.requests.map f := by
  apply List.ext_getElem?
  intro number
  rw [List.getElem?_map, List.getElem?_map]
  cases before : c.requests[number]? with
  | none =>
      have past : (c.step event).requests[number]? = none := by
        rw [List.getElem?_eq_none_iff, length_requests_step others]
        exact List.getElem?_eq_none_iff.mp before
      rw [past]
  | some request =>
      obtain ⟨next, found, continues⟩ := continues_step before event
      rw [found]
      cases continues <;> simp [blind]

/-- Only a request that enters is added to the history. -/
theorem enter_of_added {number : Nat} {request : Request} {event : Event}
    (added : (c.step event).requests[number]? = some request)
    (absent : c.requests[number]? = none) :
    ∃ target key, event = .enter target key ∧ number = c.requests.length ∧
      request.target = target ∧ request.key = key := by
  have past : c.requests.length ≤ number := List.getElem?_eq_none_iff.mp absent
  cases event with
  | enter target key =>
      obtain ⟨state, appended⟩ := c.requests_enter target key
      rw [step, appended, getElem?_concat] at added
      split at added
      · rename_i last
        obtain rfl := Option.some.inj added
        exact ⟨target, key, rfl, last, rfl, rfl⟩
      · rw [absent] at added
        cases added
  | finish | crash | settle | drop | cancel | evict =>
      have bound := (List.getElem?_eq_some_iff.mp added).1
      rw [length_requests_step (by simp)] at bound
      exact absurd bound (Nat.not_lt_of_le past)

theorem exists_request_after {number : Nat} {request : Request}
    (asked : c.requests[number]? = some request) (events : List Event) :
    ∃ request', (c.after events).requests[number]? = some request' := by
  induction events generalizing c request with
  | nil => exact ⟨request, asked⟩
  | cons event rest ih =>
      obtain ⟨next, found, -⟩ := continues_step asked event
      exact ih found

/-- A request that waits has waited for the same call ever since it entered. -/
theorem waiting_since (events : List Event) {number call : Nat} {earlier request : Request}
    (asked : c.requests[number]? = some earlier)
    (still : (c.after events).requests[number]? = some request)
    (waits : request.state = .waiting call) : earlier = request := by
  induction events generalizing c earlier with
  | nil => exact Option.some.inj (asked.symm.trans still)
  | cons event rest ih =>
      obtain ⟨next, found, continues⟩ := continues_step asked event
      have same := ih found still
      cases continues with
      | stays => exact same
      | settles => simp [← same] at waits
      | leaves => simp [← same] at waits

end Joinery.Preview.Coordinator
