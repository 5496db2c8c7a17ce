import Joinery.Proofs.Preview.Flights

/-!
# Soundness of the coordinator

What holds in every state that a run reaches: the flights and the cache agree
with the history of calls, the tickets agree with the history of requests, and
every call in flight is wanted by some target. Each operation keeps its share of
this, each event keeps all of it, and so every run ends in a sound state.
-/

namespace Joinery.Preview.Coordinator

variable {c c' : Coordinator} {key other : GenerationKey}

/-- A call has returned for a key, or is the one in flight for it. -/
def Serves (c : Coordinator) (key : GenerationKey) (call : Nat) : Prop :=
  (∃ (id : Nat) (result : CallResult), c.calls[call]? = some ⟨id, key, .returned result⟩) ∨
    ∃ id : Nat, c.inFlight.get? key = some ⟨id, call⟩

/-- The tickets and the history of requests agree. The ticket of a `vacant` target
is new and its request not recorded yet. -/
structure TicketsSound (vacant : Option String) (c : Coordinator) : Prop where
  ticket_le : ∀ {number : Nat} {request : Request},
    c.requests[number]? = some request → request.ticket ≤ c.lastId
  ticket_unique : ∀ {number other : Nat} {request request' : Request},
    c.requests[number]? = some request → c.requests[other]? = some request' →
      request.ticket = request'.ticket → number = other
  /-- A current ticket is that of a waiting request, whose call serves it. -/
  holder : ∀ {target : String} {ticket : Ticket}, vacant ≠ some target →
    c.tickets.get? target = some ticket →
      ∃ number call : Nat,
        c.requests[number]? = some ⟨target, ticket.key, ticket.id, .waiting call⟩ ∧
          c.Serves ticket.key call

variable {vacant : Option String} {target : String} {call : Nat}

/-- A state with the same tickets and requests has sound tickets if the calls still
serve all keys that are wanted. -/
theorem TicketsSound.of_serves (sound : TicketsSound vacant c)
    (requests : c'.requests = c.requests) (lastId : c.lastId ≤ c'.lastId)
    (tickets : c'.tickets = c.tickets)
    (serves : ∀ key call, c.wants key = true → c.Serves key call → c'.Serves key call) :
    TicketsSound vacant c' where
  ticket_le := by
    intro number request asked
    exact Nat.le_trans (sound.ticket_le (requests ▸ asked)) lastId
  ticket_unique := by
    rw [requests]
    exact sound.ticket_unique
  holder := by
    intro target ticket filled held
    rw [tickets] at held
    obtain ⟨number, call, asked, served⟩ := sound.holder filled held
    exact ⟨number, call, requests ▸ asked,
      serves _ _ (c.wants_iff.mpr ⟨target, ticket, held, rfl⟩) served⟩

/-- No release takes away a call that some ticket asks for. -/
theorem Serves.release (served : c.Serves key call) (wanted : c.wants key = true)
    (other : GenerationKey) : (c.release other).Serves key call := by
  rcases served with ⟨id, result, returned⟩ | ⟨id, flies⟩
  · exact Or.inl ⟨id, result, returned_release_iff.mpr returned⟩
  · refine Or.inr ⟨id, ?_⟩
    by_cases same : key = other
    · subst same
      rw [show c.release key = c by simp [Coordinator.release, wanted], flies]
    · rw [get?_inFlight_release_of_ne c same, flies]

theorem Serves.start (served : c.Serves key call) (grounded : c.inFlight.get? other = none) :
    (c.start other).Serves key call := by
  rcases served with ⟨id, result, returned⟩ | ⟨id, flies⟩
  · exact Or.inl ⟨id, result, returned_start_iff.mpr returned⟩
  · refine Or.inr ⟨id, ?_⟩
    rw [get?_inFlight_start, if_neg, flies]
    rintro rfl
    rw [grounded] at flies
    cases flies

/-- A call in flight that returns goes on serving its key. -/
theorem Serves.finish (sound : CallsSound c) (served : c.Serves key call) (number : Nat)
    (result : CallResult) : (c.finish number result).Serves key call := by
  rcases sound.finish_cases number result with same | ⟨id, done, called, flies, same⟩
  · rwa [same]
  · rcases served with ⟨id', result', returned⟩ | ⟨id', flies'⟩
    · exact Or.inl ⟨id', result', returned_finish returned number result⟩
    · rw [same]
      by_cases here : key = done
      · subst here
        obtain rfl : number = call :=
          congrArg Flight.call (Option.some.inj (flies.symm.trans flies'))
        exact Or.inl ⟨id, result, by simp [getElem?_setCall, called]⟩
      · exact Or.inr ⟨id', by simp [Table.get?_erase_of_ne, here, flies']⟩

theorem Serves.crash (served : c.Serves key call) (number : Nat) :
    (c.crash number).Serves key call := by
  rcases served with ⟨id, result, returned⟩ | ⟨id, flies⟩
  · exact Or.inl ⟨id, result, returned_crash_iff.mpr returned⟩
  · refine Or.inr ⟨id, ?_⟩
    rcases c.crash_cases number with same | ⟨id', done, called, same⟩
    · rw [same, flies]
    · rw [same, (setCall_keeps _ _ _).2.2.2.1, flies]

theorem TicketsSound.release (sound : TicketsSound vacant c) (key : GenerationKey) :
    TicketsSound vacant (c.release key) :=
  sound.of_serves (by simp) (by simp) (by simp) fun _ _ wanted served => served.release wanted key

theorem TicketsSound.forget (sound : TicketsSound vacant c)
    (vacated : ∀ other, vacant = some other → other = target) :
    TicketsSound none (c.forget target) where
  ticket_le := sound.ticket_le
  ticket_unique := sound.ticket_unique
  holder := by
    intro other ticket _ held
    rw [Coordinator.forget, Table.get?_erase] at held
    split at held
    · cases held
    · rename_i differs
      exact sound.holder (fun filled => differs (vacated other filled)) held

theorem TicketsSound.issue (sound : TicketsSound none c) (target : String)
    (key : GenerationKey) : TicketsSound (some target) (c.issue target key) := by
  have granted : TicketsSound (some target) (c.grant target key) := by
    constructor
    · intro number request asked
      exact Nat.le_succ_of_le (sound.ticket_le asked)
    · exact sound.ticket_unique
    · intro other ticket filled held
      have differs : other ≠ target := fun same => filled (congrArg some same.symm)
      rw [grant, Table.get?_put_of_ne _ _ differs] at held
      exact sound.holder (by simp) held
  rcases c.issue_cases target key with ⟨same, -⟩ | ⟨previous, -, -, same⟩
  · rwa [same]
  · rw [same]
    exact granted.release previous.key

/-- Recording a request with a fresh ticket fills a vacant target, if the request
waits for a call that serves it. -/
theorem TicketsSound.record {request : Request} (sound : TicketsSound vacant c)
    (fresh : ∀ {number : Nat} {old : Request},
      c.requests[number]? = some old → old.ticket < request.ticket)
    (issued : request.ticket ≤ c.lastId)
    (filled : ∀ {target : String} {ticket : Ticket}, vacant = some target →
      c.tickets.get? target = some ticket →
        ∃ call, request = ⟨target, ticket.key, ticket.id, .waiting call⟩ ∧
          c.Serves ticket.key call) :
    TicketsSound none (c.record request) := by
  have requests := c.getElem?_record request
  constructor
  · intro number old asked
    rw [requests] at asked
    split at asked
    · cases asked
      exact issued
    · exact sound.ticket_le asked
  · intro number other first second asked asked' same
    rw [requests] at asked asked'
    split at asked
    · split at asked'
      · rename_i last last'
        rw [last, last']
      · cases asked
        exact absurd same (Nat.ne_of_gt (fresh asked'))
    · split at asked'
      · cases asked'
        exact absurd same (Nat.ne_of_lt (fresh asked))
      · exact sound.ticket_unique asked asked' same
  · intro target ticket _ held
    by_cases new : vacant = some target
    · obtain ⟨call, rfl, served⟩ := filled new held
      exact ⟨c.requests.length, call, by simp [requests], served⟩
    · obtain ⟨number, call, asked, served⟩ := sound.holder new held
      exact ⟨number, call, c.getElem?_record_of_some asked request, served⟩

/-- A request that holds no current ticket may change its state. -/
theorem TicketsSound.setRequest (sound : TicketsSound none c) (number : Nat)
    (state : RequestState)
    (stale : ∀ request, c.requests[number]? = some request → c.isCurrent request = false) :
    TicketsSound none (c.setRequest number state) := by
  have requests := fun i => c.getElem?_setRequest number i state
  have asked_before : ∀ {i : Nat} {request : Request},
      (c.setRequest number state).requests[i]? = some request →
        ∃ old, c.requests[i]? = some old ∧ old.ticket = request.ticket := by
    intro i request asked
    rw [requests] at asked
    split at asked
    · obtain ⟨old, asked', rfl⟩ := Option.map_eq_some_iff.mp asked
      exact ⟨old, asked', rfl⟩
    · exact ⟨request, asked, rfl⟩
  constructor
  · intro i request asked
    obtain ⟨old, asked', ticket⟩ := asked_before asked
    exact ticket ▸ sound.ticket_le asked'
  · intro i j request request' asked asked' same
    obtain ⟨old, before, ticket⟩ := asked_before asked
    obtain ⟨old', before', ticket'⟩ := asked_before asked'
    exact sound.ticket_unique before before' (by rw [ticket, ticket', same])
  · intro target ticket _ held
    obtain ⟨holder, call, asked, served⟩ := sound.holder (by simp) held
    refine ⟨holder, call, ?_, served⟩
    rw [requests, if_neg, asked]
    rintro rfl
    have current : c.isCurrent ⟨target, ticket.key, ticket.id, .waiting call⟩ = true :=
      c.isCurrent_iff.mpr ⟨ticket, held, rfl⟩
    rw [stale _ asked] at current
    cases current

/-- Every call in flight is wanted by some target. -/
def Tended (c : Coordinator) : Prop :=
  ∀ (key : GenerationKey) (flight : Flight),
    c.inFlight.get? key = some flight → c.wants key = true

@[simp] theorem wants_release : (c.release key).wants other = c.wants other := by
  simp [wants]

/-- Taking a ticket away leaves all keys wanted but the one it asks for. -/
theorem wants_forget {ticket : Ticket} (held : c.tickets.get? target = some ticket)
    (wanted : c.wants key = true) (differs : key ≠ ticket.key) :
    (c.forget target).wants key = true := by
  obtain ⟨other, ticket', held', rfl⟩ := c.wants_iff.mp wanted
  refine (wants_iff _).mpr ⟨other, ticket', ?_, rfl⟩
  rw [forget, Table.get?_erase_of_ne, held']
  rintro rfl
  rw [held] at held'
  exact differs (congrArg Ticket.key (Option.some.inj held').symm)

/-- A new ticket leaves all keys wanted but the one asked for before. -/
theorem wants_grant (target : String) (asked : GenerationKey) (wanted : c.wants key = true)
    (differs : ∀ ticket, c.tickets.get? target = some ticket → ticket.key ≠ key) :
    (c.grant target asked).wants key = true := by
  obtain ⟨other, ticket, held, rfl⟩ := c.wants_iff.mp wanted
  refine (wants_iff _).mpr ⟨other, ticket, ?_, rfl⟩
  rw [grant, Table.get?_put_of_ne, held]
  rintro rfl
  exact differs ticket held rfl

/-- A release makes up for one key that nobody wants any more. -/
theorem tended_release
    (others : ∀ (other : GenerationKey) (flight : Flight), other ≠ key →
      c.inFlight.get? other = some flight → c.wants other = true) :
    Tended (c.release key) := by
  intro other flight flies
  rw [wants_release]
  by_cases same : other = key
  · subst same
    rcases c.release_cases other with ⟨same, wanted | grounded⟩ | ⟨flight', -, -, same⟩
    · exact wanted
    · rw [same, grounded] at flies
      cases flies
    · simp [same] at flies
  · rw [get?_inFlight_release_of_ne c same] at flies
    exact others other flight same flies

/-- Taking away a ticket and releasing its key leaves no call unwanted. -/
theorem Tended.forget_release (tended : Tended c) {ticket : Ticket}
    (held : c.tickets.get? target = some ticket) :
    Tended ((c.forget target).release ticket.key) :=
  tended_release fun other flight differs flies =>
    wants_forget held (tended other flight flies) differs

theorem Tended.issue (tended : Tended c) (target : String) (key : GenerationKey) :
    Tended (c.issue target key) := by
  rcases c.issue_cases target key with ⟨same, unchanged⟩ | ⟨previous, held, -, same⟩
  · rw [same]
    intro other flight flies
    by_cases here : other = key
    · subst here
      exact (wants_iff _).mpr ⟨target, ⟨c.lastId + 1, other⟩, by simp [grant], rfl⟩
    · refine wants_grant target key (tended other flight flies) fun ticket held => ?_
      rw [unchanged ticket held]
      exact Ne.symm here
  · rw [same]
    refine tended_release fun other flight differs flies => ?_
    refine wants_grant target key (tended other flight flies) fun ticket held' => ?_
    rw [held] at held'
    obtain rfl := Option.some.inj held'
    exact Ne.symm differs

/-- What holds in every state that a run reaches. -/
structure Sound (c : Coordinator) : Prop where
  calls : CallsSound c
  tickets : TicketsSound none c
  tended : Tended c

theorem sound_initial (capacity : Nat) : Sound (initial capacity) := by
  refine ⟨⟨?_, ?_⟩, ?_, ?_⟩
  · constructor <;> simp [initial]
  · simp [initial]
  · constructor <;> simp [initial]
  · simp [Tended, initial]

/-- A current request waits for a call that serves its key. -/
theorem TicketsSound.of_current (sound : TicketsSound none c) {number : Nat} {request : Request}
    (asked : c.requests[number]? = some request) (current : c.isCurrent request = true) :
    c.tickets.get? request.target = some ⟨request.ticket, request.key⟩ ∧
      ∃ call, request.state = .waiting call ∧ c.Serves request.key call := by
  obtain ⟨ticket, held, same⟩ := c.isCurrent_iff.mp current
  obtain ⟨holder, call, asked', served⟩ := sound.holder (by simp) held
  obtain rfl := sound.ticket_unique asked asked' same.symm
  have itself := Option.some.inj (asked.symm.trans asked')
  rw [itself]
  exact ⟨held, call, rfl, served⟩

theorem not_isCurrent_surrender (request : Request) :
    (c.surrender request).isCurrent request = false := by
  rcases c.surrender_cases request with ⟨same, stale⟩ | ⟨-, same⟩
  · rw [same, stale]
  · simp [same, isCurrent, forget]

theorem Sound.surrender (sound : Sound c) {number : Nat} {request : Request}
    (asked : c.requests[number]? = some request) : Sound (c.surrender request) := by
  rcases c.surrender_cases request with ⟨same, -⟩ | ⟨current, same⟩
  · rwa [same]
  · have held := (sound.tickets.of_current asked current).1
    have forgotten : CallsSound (c.forget request.target) := sound.calls.congr rfl rfl rfl
    rw [same]
    exact ⟨forgotten.release _, (sound.tickets.forget (by simp)).release _,
      sound.tended.forget_release held⟩

/-- A request that has given up its ticket may come to its end. -/
theorem Sound.surrender_setRequest (sound : Sound c) {number : Nat} {request : Request}
    (asked : c.requests[number]? = some request) (state : RequestState) :
    Sound ((c.surrender request).setRequest number state) := by
  have surrendered := sound.surrender asked
  have kept : (c.surrender request).requests = c.requests := by
    rcases c.surrender_cases request with ⟨same, -⟩ | ⟨-, same⟩ <;> simp [same]
  refine ⟨surrendered.calls.congr rfl rfl rfl, ?_, surrendered.tended⟩
  refine surrendered.tickets.setRequest number state fun request' asked' => ?_
  rw [kept, asked] at asked'
  obtain rfl := Option.some.inj asked'
  exact not_isCurrent_surrender request

theorem Sound.enter (sound : Sound c) (target : String) (key : GenerationKey) :
    Sound (c.enter target key) := by
  have calls := sound.calls.issue target key
  have tickets := sound.tickets.issue target key
  have tended := sound.tended.issue target key
  have fresh : ∀ {number : Nat} {old : Request},
      (c.issue target key).requests[number]? = some old → old.ticket < c.lastId + 1 := by
    intro number old asked
    rw [(c.issue_keeps target key).1] at asked
    exact Nat.lt_succ_of_le (sound.tickets.ticket_le asked)
  have held : (c.issue target key).tickets.get? target = some ⟨c.lastId + 1, key⟩ := by simp
  have issued : c.lastId + 1 ≤ (c.issue target key).lastId := by simp
  rcases c.enter_cases target key with
    ⟨artifacts, stored, same⟩ | ⟨flight, missing, flies, same⟩ | ⟨missing, grounded, same⟩
  · rw [same]
    refine ⟨calls.congr rfl rfl rfl, ?_, ?_⟩
    · exact (tickets.forget (by simp)).record fresh issued (by simp)
    · -- nothing is in flight for the key of the ticket that goes
      intro other flight flies
      refine wants_forget held (tended other flight flies) ?_
      rintro rfl
      have uncached := calls.flight_uncached flies
      simp [stored] at uncached
  · rw [same]
    refine ⟨calls.congr rfl rfl rfl, tickets.record fresh issued ?_, tended⟩
    intro other ticket new held'
    obtain rfl := Option.some.inj new
    obtain rfl := Option.some.inj (held.symm.trans held')
    exact ⟨flight.call, rfl, Or.inr ⟨flight.id, by simp [flies]⟩⟩
  · rw [same]
    have grounded' : (c.issue target key).inFlight.get? key = none := by simp [grounded]
    have missing' : (c.issue target key).cache.get? key = none := by simp [missing]
    have started : TicketsSound (some target) ((c.issue target key).start key) :=
      tickets.of_serves rfl (Nat.le_succ _) rfl fun _ _ _ served => served.start grounded'
    refine ⟨(calls.start grounded' missing').congr rfl rfl rfl,
      started.record fresh (Nat.le_succ_of_le issued) ?_, ?_⟩
    · intro other ticket new held'
      obtain rfl := Option.some.inj new
      obtain rfl := Option.some.inj (held.symm.trans held')
      exact ⟨c.calls.length, rfl, Or.inr ⟨c.lastId + 2, by simp [get?_inFlight_start]⟩⟩
    · intro other flight flies
      by_cases here : other = key
      · subst here
        exact (wants_iff _).mpr ⟨target, _, held, rfl⟩
      · refine tended other flight ?_
        simpa [get?_inFlight_start, here] using flies

theorem Sound.finish (sound : Sound c) (number : Nat) (result : CallResult) :
    Sound (c.finish number result) := by
  have calls := sound.calls.finish number result
  rcases sound.calls.finish_cases number result with same | ⟨id, key, -, -, same⟩
  · rwa [same]
  · refine ⟨calls, ?_, ?_⟩
    · refine sound.tickets.of_serves (by simp [same]) (by simp [same]) (by simp [same]) ?_
      exact fun _ _ _ served => served.finish sound.calls number result
    · intro other flight flies
      rw [same] at flies ⊢
      simp only [setCall_keeps, Table.get?_erase] at flies
      split at flies
      · cases flies
      · exact sound.tended other flight flies

theorem Sound.crash (sound : Sound c) (number : Nat) : Sound (c.crash number) := by
  have calls := sound.calls.crash number
  rcases c.crash_cases number with same | ⟨id, key, -, same⟩
  · rwa [same]
  · refine ⟨calls, ?_, ?_⟩
    · refine sound.tickets.of_serves (by simp [same]) (by simp [same]) (by simp [same]) ?_
      exact fun _ _ _ served => served.crash number
    · rw [same]
      exact sound.tended

/-- Whatever the cache gives up, the calls in flight serve those who wait. -/
theorem Sound.evict (sound : Sound c) (key : GenerationKey) : Sound (c.evict key) := by
  obtain ⟨calls, requests, lastId, tickets, inFlight, -⟩ := c.evict_keeps key
  refine ⟨sound.calls.evict key, ?_, ?_⟩
  · refine sound.tickets.of_serves requests (Nat.le_of_eq lastId.symm) tickets ?_
    intro other call _ served
    rwa [Serves, calls, inFlight]
  · intro other flight flies
    rw [inFlight] at flies
    rw [wants, tickets]
    exact sound.tended other flight flies

theorem Sound.step (sound : Sound c) (event : Event) : Sound (c.step event) := by
  cases event with
  | enter target key => exact sound.enter target key
  | finish call result => exact sound.finish call result
  | crash call => exact sound.crash call
  | settle number =>
      rcases c.settle_cases number with same | ⟨request, _, _, _, asked, -, -, -, same⟩
      · simpa [Coordinator.step, same] using sound
      · simpa [Coordinator.step, same] using sound.surrender_setRequest asked _
  | drop number =>
      rcases c.drop_cases number with same | ⟨request, asked, -, same⟩
      · simpa [Coordinator.step, same] using sound
      · simpa [Coordinator.step, same] using sound.surrender_setRequest asked _
  | cancel target =>
      rcases c.cancel_cases target with ⟨same, -⟩ | ⟨ticket, held, same⟩
      · simpa [Coordinator.step, same] using sound
      · have forgotten : CallsSound (c.forget target) := sound.calls.congr rfl rfl rfl
        simp only [Coordinator.step, same]
        exact ⟨forgotten.release _, (sound.tickets.forget (by simp)).release _,
          sound.tended.forget_release held⟩
  | evict key => exact sound.evict key

/-- The call that a current request waits for is for its key. It has returned, or is
in flight and was not aborted. -/
theorem Sound.call_of_current (sound : Sound c) {number : Nat} {request : Request}
    (asked : c.requests[number]? = some request) (waits : request.state = .waiting call)
    (current : c.isCurrent request = true) :
    ∃ (id : Nat) (state : CallState), c.calls[call]? = some ⟨id, request.key, state⟩ ∧
      ((∃ result, state = .returned result) ∨
        c.inFlight.get? request.key = some ⟨id, call⟩ ∧ (state = .running ∨ state = .died)) := by
  obtain ⟨-, call', waits', served⟩ := sound.tickets.of_current asked current
  obtain rfl : call' = call := RequestState.waiting.inj (waits'.symm.trans waits)
  rcases served with ⟨id, result, called⟩ | ⟨id, flies⟩
  · exact ⟨id, .returned result, called, Or.inl ⟨result, rfl⟩⟩
  · obtain ⟨state, called, unreturned⟩ := sound.calls.flight_open flies
    exact ⟨id, state, called, Or.inr ⟨flies, unreturned⟩⟩

/-- Soundness lasts. -/
theorem Sound.after (sound : Sound c) (events : List Event) : Sound (c.after events) := by
  induction events generalizing c with
  | nil => exact sound
  | cons event rest ih => exact ih (sound.step event)

/-- Every run ends in a sound state. -/
theorem sound_run (capacity : Nat) (events : List Event) : Sound (run capacity events) :=
  (sound_initial capacity).after events

end Joinery.Preview.Coordinator
