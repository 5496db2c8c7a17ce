import Joinery.Preview

/-!
# What the coordinator's operations do

Each operation is described once: by what it keeps, and by a lemma that lists
everything it can make of a state. Later proofs go through these lemmas and do
not open the operations.
-/

namespace Joinery.Preview

section States
variable {state : CallState} {result : CallResult}

@[simp] theorem CallState.isRunning_iff : state.isRunning = true ↔ state = .running := by
  cases state <;> simp [isRunning]

@[simp] theorem CallState.abort_eq_returned_iff :
    state.abort = .returned result ↔ state = .returned result := by
  cases state <;> simp [abort]

@[simp] theorem CallState.abort_ne_running : state.abort ≠ .running := by
  cases state <;> simp [abort]

end States

namespace Coordinator

variable (c : Coordinator) {key other : GenerationKey} {target : String}

@[simp] theorem setCall_keeps (number : Nat) (state : CallState) :
    (c.setCall number state).requests = c.requests ∧
      (c.setCall number state).lastId = c.lastId ∧
      (c.setCall number state).tickets = c.tickets ∧
      (c.setCall number state).inFlight = c.inFlight ∧
      (c.setCall number state).cache = c.cache ∧
      (c.setCall number state).capacity = c.capacity :=
  ⟨rfl, rfl, rfl, rfl, rfl, rfl⟩

@[simp] theorem abort_keeps (number : Nat) :
    (c.abort number).requests = c.requests ∧
      (c.abort number).lastId = c.lastId ∧
      (c.abort number).tickets = c.tickets ∧
      (c.abort number).inFlight = c.inFlight ∧
      (c.abort number).cache = c.cache ∧
      (c.abort number).capacity = c.capacity :=
  ⟨rfl, rfl, rfl, rfl, rfl, rfl⟩

@[simp] theorem record_keeps (request : Request) :
    (c.record request).calls = c.calls ∧
      (c.record request).lastId = c.lastId ∧
      (c.record request).tickets = c.tickets ∧
      (c.record request).inFlight = c.inFlight ∧
      (c.record request).cache = c.cache ∧
      (c.record request).capacity = c.capacity :=
  ⟨rfl, rfl, rfl, rfl, rfl, rfl⟩

@[simp] theorem forget_keeps (target : String) :
    (c.forget target).calls = c.calls ∧
      (c.forget target).requests = c.requests ∧
      (c.forget target).lastId = c.lastId ∧
      (c.forget target).inFlight = c.inFlight ∧
      (c.forget target).cache = c.cache ∧
      (c.forget target).capacity = c.capacity :=
  ⟨rfl, rfl, rfl, rfl, rfl, rfl⟩

@[simp] theorem grant_keeps (target : String) (key : GenerationKey) :
    (c.grant target key).calls = c.calls ∧
      (c.grant target key).requests = c.requests ∧
      (c.grant target key).inFlight = c.inFlight ∧
      (c.grant target key).cache = c.cache ∧
      (c.grant target key).capacity = c.capacity :=
  ⟨rfl, rfl, rfl, rfl, rfl⟩

@[simp] theorem start_keeps (key : GenerationKey) :
    (c.start key).requests = c.requests ∧
      (c.start key).tickets = c.tickets ∧
      (c.start key).cache = c.cache ∧
      (c.start key).capacity = c.capacity :=
  ⟨rfl, rfl, rfl, rfl⟩

theorem getElem?_setCall (number i : Nat) (state : CallState) :
    (c.setCall number state).calls[i]? =
      if i = number then c.calls[i]?.map fun call => { call with state } else c.calls[i]? := by
  simp only [setCall, List.getElem?_modify]
  by_cases same : i = number
  · simp [same]
  · simp [same, Ne.symm same]

theorem getElem?_abort (number i : Nat) :
    (c.abort number).calls[i]? =
      if i = number then c.calls[i]?.map fun call => { call with state := call.state.abort }
      else c.calls[i]? := by
  simp only [abort, List.getElem?_modify]
  by_cases same : i = number
  · simp [same]
  · simp [same, Ne.symm same]

theorem getElem?_setRequest (number i : Nat) (state : RequestState) :
    (c.setRequest number state).requests[i]? =
      if i = number then c.requests[i]?.map fun request => { request with state }
      else c.requests[i]? := by
  simp only [setRequest, List.getElem?_modify]
  by_cases same : i = number
  · simp [same]
  · simp [same, Ne.symm same]

/-- Putting a known call in another state leaves its id and key. -/
theorem getElem?_setCall_of_some {number : Nat} {call : Call}
    (called : c.calls[number]? = some call) (state : CallState) (i : Nat) :
    (c.setCall number state).calls[i]? =
      if i = number then some { call with state } else c.calls[i]? := by
  rw [getElem?_setCall]
  by_cases same : i = number
  · simp [same, called]
  · simp [same]

/-- What stands at each place of a list with one more entry. -/
theorem getElem?_concat {α : Type} (entries : List α) (last : α) (i : Nat) :
    (entries ++ [last])[i]? = if i = entries.length then some last else entries[i]? := by
  by_cases same : i = entries.length
  · rw [if_pos same, same, List.getElem?_concat_length]
  · rw [if_neg same]
    rcases Nat.lt_or_gt_of_ne same with before | past
    · exact List.getElem?_append_left before
    · rw [List.getElem?_eq_none (Nat.le_of_lt past), List.getElem?_eq_none]
      rw [List.length_append]
      exact past

theorem getElem?_start (key : GenerationKey) (i : Nat) :
    (c.start key).calls[i]? =
      if i = c.calls.length then some ⟨c.lastId + 1, key, .running⟩ else c.calls[i]? :=
  getElem?_concat c.calls _ i

theorem getElem?_record (request : Request) (i : Nat) :
    (c.record request).requests[i]? =
      if i = c.requests.length then some request else c.requests[i]? :=
  getElem?_concat c.requests request i

theorem getElem?_start_of_some {number : Nat} {call : Call}
    (called : c.calls[number]? = some call) (key : GenerationKey) :
    (c.start key).calls[number]? = some call :=
  List.getElem?_append_left (List.getElem?_eq_some_iff.mp called).1 ▸ called

theorem getElem?_record_of_some {number : Nat} {request : Request}
    (asked : c.requests[number]? = some request) (added : Request) :
    (c.record added).requests[number]? = some request :=
  List.getElem?_append_left (List.getElem?_eq_some_iff.mp asked).1 ▸ asked

theorem get?_inFlight_start (key other : GenerationKey) :
    (c.start key).inFlight.get? other =
      if other = key then some ⟨c.lastId + 1, c.calls.length⟩ else c.inFlight.get? other := by
  simp [start, Table.get?_put]

theorem get?_cacheWith_of_ne (differs : other ≠ key) (result : CallResult) :
    (c.cacheWith key result).get? other = c.cache.get? other := by
  cases result with
  | ok artifacts => exact Table.get?_put_of_ne _ _ differs
  | error fault => rfl

/-- What a call returns is all that can come into the cache for its key. -/
theorem get?_cacheWith_self (missing : c.cache.get? key = none) (result : CallResult)
    (artifacts : Artifacts) :
    (c.cacheWith key result).get? key = some artifacts ↔ result = .ok artifacts := by
  cases result with
  | ok artifacts' => simp [cacheWith]
  | error fault => simp [cacheWith, missing]

theorem wants_iff :
    c.wants key = true ↔
      ∃ target ticket, c.tickets.get? target = some ticket ∧ ticket.key = key := by
  simp [wants, Table.get?_eq_some_iff]

theorem isCurrent_iff {request : Request} :
    c.isCurrent request = true ↔
      ∃ ticket, c.tickets.get? request.target = some ticket ∧ ticket.id = request.ticket := by
  simp [isCurrent, Option.any_eq_true]

/-- A release leaves the state alone when the key is wanted or not in flight. It
drops the flight of any other key and aborts its call. -/
theorem release_cases (key : GenerationKey) :
    (c.release key = c ∧ (c.wants key = true ∨ c.inFlight.get? key = none)) ∨
      ∃ flight, c.wants key = false ∧ c.inFlight.get? key = some flight ∧
        c.release key = { c with inFlight := c.inFlight.erase key }.abort flight.call := by
  cases wanted : c.wants key with
  | true => exact Or.inl ⟨by simp [release, wanted], Or.inl rfl⟩
  | false =>
      cases flies : c.inFlight.get? key with
      | none => exact Or.inl ⟨by simp [release, wanted, flies], Or.inr rfl⟩
      | some flight => exact Or.inr ⟨flight, rfl, rfl, by simp [release, wanted, flies]⟩

@[simp] theorem release_keeps (key : GenerationKey) :
    (c.release key).requests = c.requests ∧
      (c.release key).lastId = c.lastId ∧
      (c.release key).tickets = c.tickets ∧
      (c.release key).cache = c.cache ∧
      (c.release key).capacity = c.capacity ∧
      (c.release key).calls.length = c.calls.length := by
  rcases c.release_cases key with ⟨same, -⟩ | ⟨flight, -, -, same⟩
  · simp [same]
  · simp [same, abort]

theorem get?_inFlight_release_of_ne (differs : other ≠ key) :
    (c.release key).inFlight.get? other = c.inFlight.get? other := by
  rcases c.release_cases key with ⟨same, -⟩ | ⟨flight, -, -, same⟩
  · rw [same]
  · simp [same, Table.get?_erase_of_ne, differs]

theorem issue_cases (target : String) (key : GenerationKey) :
    (c.issue target key = c.grant target key ∧
        ∀ ticket, c.tickets.get? target = some ticket → ticket.key = key) ∨
      ∃ previous, c.tickets.get? target = some previous ∧ previous.key ≠ key ∧
        c.issue target key = (c.grant target key).release previous.key := by
  unfold issue
  cases held : c.tickets.get? target with
  | none => exact Or.inl ⟨rfl, by simp⟩
  | some previous =>
      by_cases same : previous.key = key
      · exact Or.inl ⟨by simp [Option.filter, same], by simp [same]⟩
      · exact Or.inr ⟨previous, rfl, same, by simp [Option.filter, same]⟩

@[simp] theorem issue_keeps (target : String) (key : GenerationKey) :
    (c.issue target key).requests = c.requests ∧
      (c.issue target key).lastId = c.lastId + 1 ∧
      (c.issue target key).tickets = c.tickets.put target ⟨c.lastId + 1, key⟩ ∧
      (c.issue target key).cache = c.cache ∧
      (c.issue target key).capacity = c.capacity ∧
      (c.issue target key).calls.length = c.calls.length ∧
      (c.issue target key).inFlight.get? key = c.inFlight.get? key := by
  rcases c.issue_cases target key with ⟨same, -⟩ | ⟨previous, -, differs, same⟩
  · simp [same, grant]
  · have kept := (c.grant target key).get?_inFlight_release_of_ne (Ne.symm differs)
    simp [same, kept]
    simp [grant]

/-- A request is answered from the cache, or joins the call in flight for its key,
or starts one. -/
theorem enter_cases (target : String) (key : GenerationKey) :
    (∃ artifacts, c.cache.get? key = some artifacts ∧
        c.enter target key = ((c.issue target key).forget target).record
          ⟨target, key, c.lastId + 1, .resolved (.ready artifacts)⟩) ∨
      (∃ flight, c.cache.get? key = none ∧ c.inFlight.get? key = some flight ∧
        c.enter target key = (c.issue target key).record
          ⟨target, key, c.lastId + 1, .waiting flight.call⟩) ∨
      (c.cache.get? key = none ∧ c.inFlight.get? key = none ∧
        c.enter target key = ((c.issue target key).start key).record
          ⟨target, key, c.lastId + 1, .waiting c.calls.length⟩) := by
  cases stored : c.cache.get? key with
  | some artifacts => exact Or.inl ⟨artifacts, rfl, by simp [enter, stored]⟩
  | none =>
      cases flies : c.inFlight.get? key with
      | some flight => exact Or.inr (Or.inl ⟨flight, rfl, rfl, by simp [enter, stored, flies]⟩)
      | none => exact Or.inr (Or.inr ⟨rfl, rfl, by simp [enter, stored, flies]⟩)

theorem finish_of_running {number id : Nat}
    (called : c.calls[number]? = some ⟨id, key, .running⟩) (result : CallResult) :
    c.finish number result =
      { c with
        cache := c.cacheWith key result
        inFlight := c.flightsWithout ⟨id, key, .running⟩ }.setCall number (.returned result) := by
  simp [finish, called]

theorem getElem?_finish {number id : Nat}
    (called : c.calls[number]? = some ⟨id, key, .running⟩) (result : CallResult) (i : Nat) :
    (c.finish number result).calls[i]? =
      if i = number then some ⟨id, key, .returned result⟩ else c.calls[i]? := by
  rw [c.finish_of_running called result]
  exact getElem?_setCall_of_some _ called (.returned result) i

/-- Only a running call finishes. -/
theorem finish_cases (number : Nat) (result : CallResult) :
    c.finish number result = c ∨
      ∃ id key, c.calls[number]? = some ⟨id, key, .running⟩ ∧
        c.finish number result =
          { c with
            cache := c.cacheWith key result
            inFlight := c.flightsWithout ⟨id, key, .running⟩ }.setCall number
              (.returned result) := by
  cases called : c.calls[number]? with
  | none => exact Or.inl (by simp [finish, called])
  | some call =>
      obtain ⟨id, key, state⟩ := call
      cases running : state.isRunning with
      | false => exact Or.inl (by simp [finish, called, running])
      | true =>
          obtain rfl := CallState.isRunning_iff.mp running
          exact Or.inr ⟨id, key, rfl, c.finish_of_running called result⟩

/-- Only a running call dies. -/
theorem crash_cases (number : Nat) :
    c.crash number = c ∨
      ∃ id key, c.calls[number]? = some ⟨id, key, .running⟩ ∧
        c.crash number = c.setCall number .died := by
  cases running : c.isRunning number with
  | false => exact Or.inl (by simp [crash, running])
  | true =>
      obtain ⟨⟨id, key, state⟩, called, runs⟩ :
          ∃ call, c.calls[number]? = some call ∧ call.state.isRunning = true := by
        simpa [isRunning, Option.any_eq_true] using running
      obtain rfl := CallState.isRunning_iff.mp runs
      exact Or.inr ⟨id, key, called, by simp [crash, running]⟩

theorem surrender_cases (request : Request) :
    (c.surrender request = c ∧ c.isCurrent request = false) ∨
      (c.isCurrent request = true ∧
        c.surrender request = (c.forget request.target).release request.key) := by
  cases current : c.isCurrent request with
  | false => exact Or.inl ⟨by simp [surrender, current], rfl⟩
  | true => exact Or.inr ⟨rfl, by simp [surrender, current]⟩

/-- Only a waiting request whose call has ended settles. -/
theorem settle_cases (number : Nat) :
    c.settle number = c ∨
      ∃ request call called outcome, c.requests[number]? = some request ∧
        request.state = .waiting call ∧ c.calls[call]? = some called ∧
        outcomeOf called.state = some outcome ∧
        c.settle number = (c.surrender request).setRequest number
          (.resolved (if c.isCurrent request then outcome else .superseded)) := by
  cases asked : c.requests[number]? with
  | none => exact Or.inl (by simp [settle, asked])
  | some request =>
      cases waits : request.state with
      | resolved _ => exact Or.inl (by simp [settle, asked, waits])
      | dropped => exact Or.inl (by simp [settle, asked, waits])
      | waiting call =>
          cases ended : c.calls[call]?.bind fun call => outcomeOf call.state with
          | none => exact Or.inl (by simp [settle, asked, waits, ended])
          | some outcome =>
              obtain ⟨called, found, ends⟩ := Option.bind_eq_some_iff.mp ended
              exact Or.inr ⟨request, call, called, outcome, rfl, waits, found, ends,
                by simp [settle, asked, waits, ended]⟩

/-- Only a waiting request is dropped. -/
theorem drop_cases (number : Nat) :
    c.drop number = c ∨
      ∃ request, c.requests[number]? = some request ∧ request.state.isWaiting = true ∧
        c.drop number = (c.surrender request).setRequest number .dropped := by
  cases asked : c.requests[number]? with
  | none => exact Or.inl (by simp [drop, asked])
  | some request =>
      cases waits : request.state.isWaiting with
      | false => exact Or.inl (by simp [drop, asked, waits])
      | true => exact Or.inr ⟨request, rfl, waits, by simp [drop, asked, waits]⟩

/-- Only a cache that holds more than its capacity gives something up. -/
theorem evict_cases (key : GenerationKey) :
    (c.evict key = c ∧ c.cache.size ≤ c.capacity) ∨
      (c.capacity < c.cache.size ∧ c.evict key = { c with cache := c.cache.erase key }) := by
  by_cases room : c.capacity < c.cache.size
  · exact Or.inr ⟨room, if_pos room⟩
  · exact Or.inl ⟨if_neg room, Nat.le_of_not_lt room⟩

@[simp] theorem evict_keeps (key : GenerationKey) :
    (c.evict key).calls = c.calls ∧
      (c.evict key).requests = c.requests ∧
      (c.evict key).lastId = c.lastId ∧
      (c.evict key).tickets = c.tickets ∧
      (c.evict key).inFlight = c.inFlight ∧
      (c.evict key).capacity = c.capacity := by
  rcases c.evict_cases key with ⟨same, -⟩ | ⟨-, same⟩ <;> simp [same]

/-- The cache gives nothing up that was not there, and nothing but what it has for the key. -/
theorem get?_cache_evict {artifacts : Artifacts}
    (stored : (c.evict key).cache.get? other = some artifacts) :
    c.cache.get? other = some artifacts := by
  rcases c.evict_cases key with ⟨same, -⟩ | ⟨-, same⟩
  · rwa [same] at stored
  · rw [same, Table.get?_erase] at stored
    split at stored
    · cases stored
    · exact stored

theorem get?_cache_evict_of_ne (differs : other ≠ key) :
    (c.evict key).cache.get? other = c.cache.get? other := by
  rcases c.evict_cases key with ⟨same, -⟩ | ⟨-, same⟩
  · rw [same]
  · rw [same, Table.get?_erase_of_ne _ differs]

theorem cancel_cases (target : String) :
    (c.cancel target = c ∧ c.tickets.get? target = none) ∨
      ∃ ticket, c.tickets.get? target = some ticket ∧
        c.cancel target = (c.forget target).release ticket.key := by
  cases held : c.tickets.get? target with
  | none => exact Or.inl ⟨by simp [cancel, held], rfl⟩
  | some ticket => exact Or.inr ⟨ticket, rfl, by simp [cancel, held]⟩

end Coordinator

end Joinery.Preview
