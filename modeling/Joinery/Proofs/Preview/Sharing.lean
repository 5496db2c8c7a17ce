import Joinery.Proofs.Preview.History

/-!
# Requests that share calls undisturbed

Requests of different targets share calls; nobody goes away, no call dies, and the cache may
lose what it has at any time. Main statement: each event keeps a call running for everybody
who waits, and whoever is answered has what a call for the own key returned.
-/

namespace Joinery.Preview.Coordinator

/-- A call for the key has returned this result. -/
def Returned (c : Coordinator) (key : GenerationKey) (result : CallResult) : Prop :=
  ∃ number id : Nat, c.calls[number]? = some ⟨id, key, .returned result⟩

/-- What holds of a coordinator as long as nothing is withdrawn. -/
structure Undisturbed (c : Coordinator) : Prop where
  /-- No call is aborted or dies. -/
  answered : ∀ {number : Nat} {call : Call}, c.calls[number]? = some call →
    call.state = .running ∨ ∃ result, call.state = .returned result
  cached : ∀ {key : GenerationKey} {artifacts : Artifacts},
    c.cache.get? key = some artifacts → c.Returned key (.ok artifacts)
  flying : ∀ {key : GenerationKey} {flight : Flight}, c.inFlight.get? key = some flight →
    c.calls[flight.call]? = some ⟨flight.id, key, .running⟩
  /-- For each call in flight somebody waits. -/
  attended : ∀ {key : GenerationKey} {flight : Flight}, c.inFlight.get? key = some flight →
    ∃ (number : Nat) (request : Request), c.requests[number]? = some request ∧
      request.key = key ∧ request.state = .waiting flight.call
  /-- Whoever waits has the ticket of the target and a call for the key. -/
  waiting : ∀ {number call : Nat} {request : Request}, c.requests[number]? = some request →
    request.state = .waiting call →
      c.tickets.get? request.target = some ⟨request.ticket, request.key⟩ ∧
        ∃ (id : Nat) (state : CallState), c.calls[call]? = some ⟨id, request.key, state⟩
  /-- Whoever does not wait has what a call for the key returned. -/
  served : ∀ {number : Nat} {request : Request}, c.requests[number]? = some request →
    request.state.isWaiting = false →
      ∃ result, request.state = .resolved (.ofResult result) ∧ c.Returned request.key result
  holder : ∀ {target : String} {ticket : Ticket}, c.tickets.get? target = some ticket →
    target ∈ c.requests.map Request.target
  distinct : (c.requests.map Request.target).Nodup

variable {c : Coordinator} {key : GenerationKey} {number : Nat} {request : Request} {event : Event}

theorem undisturbed_initial (capacity : Nat) : Undisturbed (initial capacity) := by
  constructor <;> simp [initial]

/-- What has returned stays so. -/
theorem Returned.step {result : CallResult} (returned : c.Returned key result) (event : Event) :
    (c.step event).Returned key result := by
  obtain ⟨number, id, called⟩ := returned
  exact ⟨number, id, ended_after called (by simp) [event]⟩

/-- The flights that are left when a call returns are others. -/
theorem get?_flightsWithout {call : Call} {flight : Flight}
    (flies : (c.flightsWithout call).get? key = some flight) :
    c.inFlight.get? key = some flight ∧ (key = call.key → flight.id ≠ call.id) := by
  rw [flightsWithout] at flies
  split at flies
  · rw [Table.get?_erase] at flies
    split at flies
    · cases flies
    · rename_i differs
      exact ⟨flies, fun same => absurd same differs⟩
  · rename_i another
    refine ⟨flies, ?_⟩
    rintro rfl same
    simp [flies, same] at another

theorem length_requests_settle (c : Coordinator) (number : Nat) :
    (c.step (.settle number)).requests.length = c.requests.length :=
  length_requests_step (by simp)

namespace Undisturbed

theorem evict (calm : Undisturbed c) (key : GenerationKey) : Undisturbed (c.evict key) := by
  obtain ⟨calls, requests, -, tickets, inFlight, -⟩ := c.evict_keeps key
  have returned {key' : GenerationKey} {result : CallResult}
      (before : c.Returned key' result) : (c.evict key).Returned key' result :=
    before.step (.evict key)
  constructor
  case answered =>
    rw [calls]
    exact calm.answered
  case cached => exact fun stored => returned (calm.cached (c.get?_cache_evict stored))
  case flying =>
    rw [inFlight, calls]
    exact calm.flying
  case attended =>
    rw [inFlight, requests]
    exact calm.attended
  case waiting =>
    rw [requests, tickets, calls]
    exact calm.waiting
  case served =>
    rw [requests]
    intro number request asked ended
    obtain ⟨result, resolved, before⟩ := calm.served asked ended
    exact ⟨result, resolved, returned before⟩
  case holder =>
    rw [tickets, requests]
    exact calm.holder
  case distinct =>
    rw [requests]
    exact calm.distinct

/-- Each request has a target of its own. -/
theorem eq_of_target (calm : Undisturbed c) {other : Nat} {request' : Request}
    (asked : c.requests[number]? = some request) (asked' : c.requests[other]? = some request')
    (same : request.target = request'.target) : number = other := by
  have below : number < (c.requests.map Request.target).length := by
    rw [List.length_map]
    exact (List.getElem?_eq_some_iff.mp asked).1
  refine (List.getElem?_inj below calm.distinct).mp ?_
  rw [List.getElem?_map, List.getElem?_map, asked, asked', Option.map_some, Option.map_some, same]

/-- A request of a new target takes nothing away. -/
theorem issue_eq (calm : Undisturbed c) {target : String}
    (new : target ∉ c.requests.map Request.target) (key : GenerationKey) :
    c.issue target key = c.grant target key := by
  rcases c.issue_cases target key with ⟨same, -⟩ | ⟨previous, held, -⟩
  · exact same
  · exact absurd (calm.holder held) new

/-- While somebody has a result to take, somebody else waits for each call in flight. -/
theorem attended_elsewhere (calm : Undisturbed c) {call id : Nat} {done : GenerationKey}
    {result : CallResult} (asked : c.requests[number]? = some request)
    (waits : request.state = .waiting call)
    (found : c.calls[call]? = some ⟨id, done, .returned result⟩) {flight : Flight}
    (flies : c.inFlight.get? key = some flight) :
    ∃ (other : Nat) (waiter : Request), c.requests[other]? = some waiter ∧ waiter.key = key ∧
      waiter.state = .waiting flight.call ∧ other ≠ number := by
  obtain ⟨other, waiter, asked', same_key, waits'⟩ := calm.attended flies
  refine ⟨other, waiter, asked', same_key, waits', ?_⟩
  rintro rfl
  obtain rfl := Option.some.inj (asked.symm.trans asked')
  obtain rfl := RequestState.waiting.inj (waits.symm.trans waits')
  exact nomatch found.symm.trans (calm.flying flies)

/-- Whoever takes a result gives up the ticket and no call: others who wait for a later call
for the key still want it. -/
theorem surrender_eq (calm : Undisturbed c) {call id : Nat} {result : CallResult}
    (asked : c.requests[number]? = some request) (waits : request.state = .waiting call)
    (found : c.calls[call]? = some ⟨id, request.key, .returned result⟩)
    (current : c.isCurrent request = true) :
    c.surrender request = c.forget request.target := by
  rcases c.surrender_cases request with ⟨-, stale⟩ | ⟨-, gone⟩
  · exact nomatch current.symm.trans stale
  rw [gone]
  rcases (c.forget request.target).release_cases request.key with
    ⟨same, -⟩ | ⟨flight, unwanted, flies, -⟩
  · exact same
  · exfalso
    obtain ⟨other, waiter, asked', same_key, waits', elsewhere⟩ :=
      calm.attended_elsewhere asked waits found flies
    have differs : waiter.target ≠ request.target :=
      fun same => elsewhere (calm.eq_of_target asked' asked same)
    have wanted : (c.forget request.target).wants request.key = true := by
      refine (wants_iff _).mpr ⟨waiter.target, ⟨waiter.ticket, waiter.key⟩, ?_, same_key⟩
      rw [forget, Table.get?_erase_of_ne _ differs, (calm.waiting asked' waits').1]
    exact nomatch unwanted.symm.trans wanted

/-- Whoever takes a result gives up the ticket, and nothing else changes. -/
theorem settle_cases (calm : Undisturbed c) (number : Nat) :
    c.settle number = c ∨
      ∃ request call id result, c.requests[number]? = some request ∧
        request.state = .waiting call ∧
        c.calls[call]? = some ⟨id, request.key, .returned result⟩ ∧
        c.settle number =
          (c.forget request.target).setRequest number (.resolved (.ofResult result)) := by
  rcases c.settle_cases number with same | ⟨request, call, called, outcome, asked, waits, found,
    ends, same⟩
  · exact Or.inl same
  right
  obtain ⟨held, id, state, called_key⟩ := calm.waiting asked waits
  obtain rfl := Option.some.inj (found.symm.trans called_key)
  obtain ⟨result, rfl⟩ : ∃ result, state = .returned result := by
    refine (calm.answered found).resolve_left fun running => ?_
    rw [running] at ends
    cases ends
  obtain rfl : Outcome.ofResult result = outcome := Option.some.inj ends
  have current : c.isCurrent request = true := c.isCurrent_iff.mpr ⟨_, held, rfl⟩
  have kept := calm.surrender_eq asked waits found current
  exact ⟨request, call, id, result, asked, waits, found, by rw [same, kept, if_pos current]⟩

theorem settle (calm : Undisturbed c) (number : Nat) : Undisturbed (c.settle number) := by
  rcases calm.settle_cases number with same | ⟨request, call, id, result, asked, waits, found, same⟩
  · rwa [same]
  have requests (i : Nat) : (c.settle number).requests[i]? =
      if i = number then some { request with state := .resolved (.ofResult result) }
      else c.requests[i]? := by
    rw [same, getElem?_setRequest]
    by_cases here : i = number
    · simp [here, forget, asked]
    · simp [here, forget]
  have targets : (c.step (.settle number)).requests.map Request.target =
      c.requests.map Request.target := map_requests_step (by simp) _ fun _ _ => rfl
  rw [step, same] at targets
  rw [same] at requests ⊢
  constructor
  case answered => exact calm.answered
  case cached => exact calm.cached
  case flying => exact calm.flying
  case attended =>
    intro key flight flies
    obtain ⟨other, waiter, asked', same_key, waits', elsewhere⟩ :=
      calm.attended_elsewhere asked waits found flies
    exact ⟨other, waiter, by rw [requests, if_neg elsewhere, asked'], same_key, waits'⟩
  case waiting =>
    intro other call' waiter asked' waits'
    rw [requests] at asked'
    split at asked'
    · obtain rfl := Option.some.inj asked'
      cases waits'
    · rename_i elsewhere
      obtain ⟨held, called⟩ := calm.waiting asked' waits'
      refine ⟨?_, called⟩
      have differs : waiter.target ≠ request.target :=
        fun same_target => elsewhere (calm.eq_of_target asked' asked same_target)
      exact (Table.get?_erase_of_ne _ differs).trans held
  case served =>
    intro other served asked' ended
    rw [requests] at asked'
    split at asked'
    · obtain rfl := Option.some.inj asked'
      exact ⟨result, rfl, call, id, found⟩
    · exact calm.served asked' ended
  case holder =>
    intro target ticket held
    have held : (c.tickets.erase request.target).get? target = some ticket := held
    rw [Table.get?_erase] at held
    split at held
    · cases held
    · rw [targets]
      exact calm.holder held
  case distinct =>
    rw [targets]
    exact calm.distinct

theorem finish (calm : Undisturbed c) (number : Nat) (result : CallResult) :
    Undisturbed (c.finish number result) := by
  rcases c.finish_cases number result with same | ⟨id, done, running, same⟩
  · rwa [same]
  have calls := c.getElem?_finish running result
  have returned {key : GenerationKey} {earlier : CallResult} (before : c.Returned key earlier) :
      (c.finish number result).Returned key earlier := before.step (.finish number result)
  have flights {key : GenerationKey} {flight : Flight}
      (flies : (c.flightsWithout ⟨id, done, .running⟩).get? key = some flight) :
      c.inFlight.get? key = some flight ∧ flight.call ≠ number := by
    obtain ⟨flew, others⟩ := get?_flightsWithout flies
    refine ⟨flew, ?_⟩
    rintro rfl
    obtain ⟨same_id, same_key, -⟩ :=
      Call.mk.inj (Option.some.inj (running.symm.trans (calm.flying flew)))
    exact others same_key.symm same_id.symm
  rw [same] at calls returned ⊢
  constructor
  case answered =>
    intro i call called
    rw [calls] at called
    split at called
    · obtain rfl := Option.some.inj called
      exact Or.inr ⟨result, rfl⟩
    · exact calm.answered called
  case cached =>
    intro key artifacts stored
    have stored : (c.cacheWith done result).get? key = some artifacts := stored
    by_cases here : key = done
    · subst here
      cases result with
      | ok taken =>
          rw [cacheWith, Table.get?_put_self] at stored
          obtain rfl := Option.some.inj stored
          exact ⟨number, id, by rw [calls, if_pos rfl]⟩
      | error fault => exact returned (calm.cached stored)
    · rw [get?_cacheWith_of_ne _ here] at stored
      exact returned (calm.cached stored)
  case flying =>
    intro key flight flies
    obtain ⟨flew, another⟩ := flights flies
    rw [calls, if_neg another]
    exact calm.flying flew
  case attended =>
    intro key flight flies
    exact calm.attended (flights flies).1
  case waiting =>
    intro i call request asked waits
    obtain ⟨held, id', state, called⟩ := calm.waiting asked waits
    refine ⟨held, ?_⟩
    rw [calls]
    split
    · rename_i here
      subst here
      obtain ⟨rfl, rfl, -⟩ := Call.mk.inj (Option.some.inj (running.symm.trans called))
      exact ⟨_, _, rfl⟩
    · exact ⟨id', state, called⟩
  case served =>
    intro i request asked ended
    obtain ⟨taken, resolved, before⟩ := calm.served asked ended
    exact ⟨taken, resolved, returned before⟩
  case holder => exact calm.holder
  case distinct => exact calm.distinct

/-- A request of a new target comes in, after a call has started for it or not. -/
theorem record (calm : Undisturbed c) {d : Coordinator} (requests : d.requests = c.requests)
    (calls : ∀ {i : Nat} {call : Call}, c.calls[i]? = some call → d.calls[i]? = some call)
    (answered : ∀ {i : Nat} {call : Call}, d.calls[i]? = some call →
      call.state = .running ∨ ∃ result, call.state = .returned result)
    (cache : d.cache = c.cache)
    (flying : ∀ {key : GenerationKey} {flight : Flight}, d.inFlight.get? key = some flight →
      c.inFlight.get? key = some flight ∨
        d.calls[flight.call]? = some ⟨flight.id, key, .running⟩ ∧ request.key = key ∧
          request.state = .waiting flight.call)
    (tickets : ∀ target, target ≠ request.target → d.tickets.get? target = c.tickets.get? target)
    (new : request.target ∉ c.requests.map Request.target)
    (waiting : ∀ call, request.state = .waiting call →
      d.tickets.get? request.target = some ⟨request.ticket, request.key⟩ ∧
        ∃ (id : Nat) (state : CallState), d.calls[call]? = some ⟨id, request.key, state⟩)
    (served : request.state.isWaiting = false →
      ∃ result, request.state = .resolved (.ofResult result) ∧ d.Returned request.key result) :
    Undisturbed (d.record request) := by
  have returned {key : GenerationKey} {result : CallResult} :
      c.Returned key result → (d.record request).Returned key result := by
    rintro ⟨number, id, called⟩
    exact ⟨number, id, calls called⟩
  have recorded (i : Nat) : (d.record request).requests[i]? =
      if i = c.requests.length then some request else c.requests[i]? := by
    rw [getElem?_record, requests]
  have targets : (d.record request).requests.map Request.target =
      c.requests.map Request.target ++ [request.target] := by
    rw [Coordinator.record, List.map_append, requests, List.map_singleton]
  constructor
  case answered => exact answered
  case cached =>
    intro key artifacts stored
    exact returned (calm.cached (cache ▸ stored))
  case flying =>
    intro key flight flies
    rcases flying flies with flew | ⟨called, -⟩
    · exact calls (calm.flying flew)
    · exact called
  case attended =>
    intro key flight flies
    rcases flying flies with flew | ⟨-, same_key, waits⟩
    · obtain ⟨number, waiter, asked, same_key, waits⟩ := calm.attended flew
      have before : number ≠ c.requests.length :=
        Nat.ne_of_lt (List.getElem?_eq_some_iff.mp asked).1
      exact ⟨number, waiter, by rw [recorded, if_neg before, asked], same_key, waits⟩
    · exact ⟨c.requests.length, request, by rw [recorded, if_pos rfl], same_key, waits⟩
  case waiting =>
    intro i call waiter asked waits
    rw [recorded] at asked
    split at asked
    · obtain rfl := Option.some.inj asked
      exact waiting call waits
    · obtain ⟨held, id, state, called⟩ := calm.waiting asked waits
      have differs : waiter.target ≠ request.target := by
        intro same
        exact new (same ▸ List.mem_map_of_mem (List.mem_of_getElem? asked))
      exact ⟨(tickets _ differs).trans held, id, state, calls called⟩
  case served =>
    intro i earlier asked ended
    rw [recorded] at asked
    split at asked
    · obtain rfl := Option.some.inj asked
      exact served ended
    · obtain ⟨result, resolved, before⟩ := calm.served asked ended
      exact ⟨result, resolved, returned before⟩
  case holder =>
    intro target ticket held
    rw [targets, List.mem_append, List.mem_singleton]
    by_cases here : target = request.target
    · exact Or.inr here
    · exact Or.inl (calm.holder ((tickets target here).symm.trans held))
  case distinct =>
    rw [targets, List.nodup_append]
    refine ⟨calm.distinct, List.pairwise_singleton _ _, fun target mem last there same => ?_⟩
    exact new (List.mem_singleton.mp there ▸ same ▸ mem)

theorem enter (calm : Undisturbed c) {target : String}
    (new : target ∉ c.requests.map Request.target) (key : GenerationKey) :
    Undisturbed (c.enter target key) := by
  have issued := calm.issue_eq new key
  rcases c.enter_cases target key with
    ⟨artifacts, stored, same⟩ | ⟨flight, -, flies, same⟩ | ⟨missing, grounded, same⟩
  · rw [same, issued]
    refine calm.record rfl id calm.answered rfl Or.inl ?_ new (fun call waits => ?_) fun _ => ?_
    · intro other differs
      exact (Table.get?_erase_of_ne _ differs).trans (Table.get?_put_of_ne _ _ differs)
    · cases waits
    · exact ⟨.ok artifacts, rfl, calm.cached stored⟩
  · rw [same, issued]
    refine calm.record rfl id calm.answered rfl Or.inl ?_ new ?_ fun settled => by cases settled
    · intro other differs
      exact Table.get?_put_of_ne _ _ differs
    · intro call waits
      obtain rfl := RequestState.waiting.inj waits
      exact ⟨by simp [grant], flight.id, .running, calm.flying flies⟩
  · rw [same, issued]
    have calls := (c.grant target key).getElem?_start key
    have grown {i : Nat} {call : Call} (called : c.calls[i]? = some call) :
        ((c.grant target key).start key).calls[i]? = some call :=
      getElem?_start_of_some (c := c.grant target key) called key
    refine calm.record rfl grown ?_ rfl ?_ ?_ new ?_ fun settled => by cases settled
    · intro i call called
      rw [calls] at called
      split at called
      · obtain rfl := Option.some.inj called
        exact Or.inl rfl
      · exact calm.answered called
    · intro other flight flies
      rw [get?_inFlight_start] at flies
      split at flies
      · rename_i here
        obtain rfl := Option.some.inj flies
        exact Or.inr ⟨by rw [calls, if_pos rfl, here], here.symm, rfl⟩
      · exact Or.inl flies
    · intro other differs
      exact Table.get?_put_of_ne _ _ differs
    · intro call waits
      obtain rfl := RequestState.waiting.inj waits
      exact ⟨by simp [start, grant], _, _, (calls c.calls.length).trans (if_pos rfl)⟩

/-- Whoever waits for a call that has ended can take the result. -/
theorem settled_of_ended (calm : Undisturbed c)
    (ended : ∀ call ∈ c.calls, call.state ≠ .running)
    (asked : (c.step (.settle number)).requests[number]? = some request) :
    request.state.isWaiting = false := by
  obtain ⟨earlier, before⟩ : ∃ earlier, c.requests[number]? = some earlier := by
    refine Option.ne_none_iff_exists'.mp fun none => ?_
    obtain ⟨_, _, entered, -⟩ := enter_of_added asked none
    cases entered
  cases waits : request.state with
  | resolved outcome => rfl
  | dropped => rfl
  | waiting call =>
      exfalso
      obtain rfl := waiting_since [.settle number] before asked waits
      obtain ⟨-, id, state, called⟩ := calm.waiting before waits
      obtain ⟨result, rfl⟩ := (calm.answered called).resolve_left
        (ended _ (List.mem_of_getElem? called))
      have taken : ∃ outcome, (c.step (.settle number)).requests[number]? =
          some { earlier with state := .resolved outcome } := by
        rw [Coordinator.step, Coordinator.settle, before]
        simp only [waits, called, Option.bind_some, outcomeOf, getElem?_setRequest, if_true,
          requests_surrender, before, Option.map_some]
        exact ⟨_, rfl⟩
      obtain ⟨outcome, taken⟩ := taken
      have same := congrArg Request.state (Option.some.inj (asked.symm.trans taken))
      rw [waits] at same
      cases same

/-- Callers who take their results one after the other change nothing for the calls. -/
theorem after_settles (calm : Undisturbed c) (numbers : List Nat) :
    Undisturbed (c.after (numbers.map Event.settle)) ∧
      (c.after (numbers.map Event.settle)).calls = c.calls ∧
        (c.after (numbers.map Event.settle)).requests.length = c.requests.length := by
  induction numbers generalizing c with
  | nil => exact ⟨calm, rfl, rfl⟩
  | cons number rest ih =>
      obtain ⟨later, calls, requests⟩ := ih (calm.settle number)
      refine ⟨later, calls.trans ?_, requests.trans (length_requests_settle c number)⟩
      rcases calm.settle_cases number with same | ⟨_, _, _, _, -, -, -, same⟩
      · rw [same]
      · rw [same]
        rfl

/-- Once all calls have ended, nobody waits when everybody has taken a result in turn. -/
theorem settled_settleAll (calm : Undisturbed c)
    (ended : ∀ call ∈ c.calls, call.state ≠ .running) :
    ∀ request ∈ c.settleAll.requests, request.state.isWaiting = false := by
  have settles : c.settleAll = c.after ((List.range c.requests.length).map Event.settle) := by
    rw [settleAll, after, List.foldl_map]
    rfl
  rw [settles]
  intro request mem
  obtain ⟨number, asked⟩ := List.mem_iff_getElem?.mp mem
  have below : number < c.requests.length := by
    rw [← (calm.after_settles (List.range c.requests.length)).2.2]
    exact (List.getElem?_eq_some_iff.mp asked).1
  -- the turn of this request
  obtain ⟨front, back, split⟩ := List.append_of_mem (List.mem_range.mpr below)
  rw [split, List.map_append, List.map_cons, after_append, after_cons] at asked
  obtain ⟨turn, calls, requests⟩ := calm.after_settles front
  obtain ⟨taken, found⟩ :
      ∃ taken, ((c.after (front.map .settle)).step (.settle number)).requests[number]? =
        some taken := by
    refine ⟨_, List.getElem?_eq_getElem ?_⟩
    rwa [length_requests_settle, requests]
  have resolved := turn.settled_of_ended (by rwa [calls]) found
  cases waits : request.state with
  | resolved outcome => rfl
  | dropped => rfl
  | waiting call =>
      obtain rfl := waiting_since _ found asked waits
      rw [waits] at resolved
      cases resolved

end Undisturbed

end Joinery.Preview.Coordinator
