import Joinery.Proofs.Preview.History
import Joinery.Proofs.Preview.Soundness

/-!
# How many calls a key costs

Main statement: one call at a time runs for a key, and it starts only when the key is
neither cached nor in flight. As long as the cache does not give the key up, each call
but one for it has failed or was aborted, and once a call succeeds no other starts;
after a failure the next request starts one.
-/

namespace Joinery.Preview

namespace CallState

/-- Whether a call runs or has succeeded. -/
def isLive : CallState → Bool
  | running => true
  | returned (.ok _) => true
  | _ => false

/-- Whether a call has returned a fault or died. -/
def isFailed : CallState → Bool
  | returned (.error _) => true
  | died => true
  | _ => false

def isAborted : CallState → Bool
  | aborted => true
  | _ => false

theorem isLive_iff {state : CallState} :
    state.isLive = true ↔
      state = .running ∨ ∃ artifacts, state = .returned (.ok artifacts) := by
  rcases state with - | (fault | artifacts) | - | - <;> simp [isLive]

end CallState

namespace Coordinator

variable {c : Coordinator} {key other : GenerationKey}

/-- The calls that were ever started for a key. -/
def callsFor (c : Coordinator) (key : GenerationKey) : List Call :=
  c.calls.filter fun call => call.key = key

/-- The key is neither cached nor in flight. -/
def Idle (c : Coordinator) (key : GenerationKey) : Prop :=
  c.cached key = none ∧ c.inFlight.get? key = none

theorem starts_eq_some_iff {event : Event} :
    c.starts event = some key ↔ ∃ target, event = .enter target key ∧ c.Idle key := by
  cases event with
  | enter target other =>
      simp only [starts]
      constructor
      · intro started
        split at started
        · rename_i idle
          obtain rfl := Option.some.inj started
          exact ⟨target, rfl, idle⟩
        · cases started
      · rintro ⟨target', same, idle⟩
        obtain ⟨rfl, rfl⟩ := Event.enter.inj same
        exact if_pos idle
  | finish | crash | settle | drop | cancel | evict => simp [starts]

theorem length_callsFor (c : Coordinator) (key : GenerationKey) :
    (c.callsFor key).length = c.keys.count key := by
  rw [keys, List.count_eq_countP, List.countP_map, callsFor, List.countP_eq_length_filter]
  congr 1

theorem length_callsFor_step (c : Coordinator) (event : Event) (key : GenerationKey) :
    ((c.step event).callsFor key).length =
      (c.callsFor key).length + if c.starts event = some key then 1 else 0 := by
  rw [length_callsFor, length_callsFor, keys_step, List.count_append]
  cases c.starts event with
  | none => simp
  | some started => simp [List.count_singleton]

/-- Each call was started for a request of its own. -/
theorem length_callsFor_step_le
    (asked : (c.callsFor key).length ≤ (c.requests.map Request.key).count key) (event : Event) :
    ((c.step event).callsFor key).length ≤ ((c.step event).requests.map Request.key).count key := by
  rw [length_callsFor_step]
  by_cases entered : ∃ target other, event = .enter target other
  · obtain ⟨target, other, rfl⟩ := entered
    obtain ⟨state, added⟩ := c.requests_enter target other
    rw [step, added, List.map_append, List.count_append, List.map_singleton]
    split
    · rename_i started
      obtain ⟨_, same, -⟩ := starts_eq_some_iff.mp started
      obtain ⟨-, rfl⟩ := Event.enter.inj same
      rw [List.count_singleton_self]
      exact Nat.succ_le_succ asked
    · exact Nat.le_add_right_of_le asked
  · have nothing : c.starts event ≠ some key := by
      intro started
      obtain ⟨target, same, -⟩ := starts_eq_some_iff.mp started
      exact entered ⟨target, key, same⟩
    have others : ∀ target other, event ≠ .enter target other :=
      fun target other same => entered ⟨target, other, same⟩
    rw [if_neg nothing, map_requests_step others _ fun _ _ => rfl]
    exact asked

theorem Idle.release (idle : c.Idle key) (other : GenerationKey) : (c.release other).Idle key := by
  obtain ⟨missing, grounded⟩ := idle
  rcases c.release_cases other with ⟨same, -⟩ | ⟨flight, -, -, same⟩
  · rw [same]
    exact ⟨missing, grounded⟩
  · refine ⟨by simpa [cached] using missing, ?_⟩
    simp [same, Table.get?_erase, grounded]

theorem Idle.issue (idle : c.Idle key) (target : String) (other : GenerationKey) :
    (c.issue target other).Idle key := by
  have granted : (c.grant target other).Idle key := idle
  rcases c.issue_cases target other with ⟨same, -⟩ | ⟨previous, -, -, same⟩
  · rwa [same]
  · rw [same]
    exact granted.release previous.key

theorem Idle.surrender (idle : c.Idle key) (request : Request) :
    (c.surrender request).Idle key := by
  have forgotten : (c.forget request.target).Idle key := idle
  rcases c.surrender_cases request with ⟨same, -⟩ | ⟨-, same⟩
  · rwa [same]
  · rw [same]
    exact forgotten.release request.key

/-- A key stays idle until a request for it enters. -/
theorem Sound.idle_step (sound : Sound c) (idle : c.Idle key) {event : Event}
    (others : ∀ target, event ≠ .enter target key) : (c.step event).Idle key := by
  cases event with
  | enter target other =>
      have differs : key ≠ other := fun same => others target (same ▸ rfl)
      have issued := idle.issue target other
      rcases c.enter_cases target other with ⟨_, -, same⟩ | ⟨_, -, -, same⟩ | ⟨-, -, same⟩
      · rw [Coordinator.step, same]
        exact issued
      · rw [Coordinator.step, same]
        exact issued
      · rw [Coordinator.step, same]
        exact ⟨issued.1, by simpa [get?_inFlight_start, differs] using issued.2⟩
  | finish number result =>
      rcases sound.calls.finish_cases number result with same | ⟨id, other, -, flies, same⟩
      · rwa [Coordinator.step, same]
      · have differs : key ≠ other := by
          rintro rfl
          rw [idle.2] at flies
          cases flies
        rw [Coordinator.step, same]
        refine ⟨?_, by simp [Table.get?_erase, idle.2]⟩
        exact (get?_cacheWith_of_ne _ differs result).trans idle.1
  | crash number =>
      rcases c.crash_cases number with same | ⟨id, other, -, same⟩
      · rwa [Coordinator.step, same]
      · rw [Coordinator.step, same]
        exact idle
  | settle number =>
      rcases c.settle_cases number with same | ⟨request, _, _, _, -, -, -, -, same⟩
      · rwa [Coordinator.step, same]
      · rw [Coordinator.step, same]
        exact idle.surrender request
  | drop number =>
      rcases c.drop_cases number with same | ⟨request, -, -, same⟩
      · rwa [Coordinator.step, same]
      · rw [Coordinator.step, same]
        exact idle.surrender request
  | cancel target =>
      rcases c.cancel_cases target with ⟨same, -⟩ | ⟨ticket, -, same⟩
      · rwa [Coordinator.step, same]
      · have forgotten : (c.forget target).Idle key := idle
        rw [Coordinator.step, same]
        exact forgotten.release ticket.key
  | evict other =>
      obtain ⟨missing, grounded⟩ := idle
      refine ⟨?_, by simpa [Coordinator.step] using grounded⟩
      rw [cached, Option.eq_none_iff_forall_ne_some] at missing ⊢
      exact fun artifacts stored => missing artifacts (c.get?_cache_evict stored)

theorem Sound.idle_after (sound : Sound c) (idle : c.Idle key) {events : List Event}
    (others : ∀ target, .enter target key ∉ events) : (c.after events).Idle key := by
  induction events generalizing c with
  | nil => exact idle
  | cons event rest ih =>
      have first : ∀ target, event ≠ .enter target key :=
        fun target same => others target (same ▸ List.mem_cons_self)
      exact ih (sound.step event) (sound.idle_step idle first)
        fun target mem => others target (List.mem_cons_of_mem event mem)

/-- A call that fails leaves its key idle. -/
theorem Sound.idle_of_failure (sound : Sound c) {number id : Nat}
    (called : c.calls[number]? = some ⟨id, key, .running⟩) (fault : ServiceFault) :
    (c.step (.finish number (.error fault))).Idle key := by
  have flies := sound.calls.running_flies called
  have missing := sound.calls.flight_uncached flies
  rw [Coordinator.step, sound.calls.finish_of_running called]
  exact ⟨missing, by simp⟩

/-- A key has one running call at most. -/
theorem FlightsSound.running_unique (sound : FlightsSound c) {number other id id' : Nat}
    (called : c.calls[number]? = some ⟨id, key, .running⟩)
    (called' : c.calls[other]? = some ⟨id', key, .running⟩) : number = other := by
  have flies := sound.running_flies called
  have flies' := sound.running_flies called'
  exact congrArg Flight.call (Option.some.inj (flies.symm.trans flies'))

/-- A test that one place of a list at most passes counts at most one. -/
theorem countP_le_one {α : Type} {test : α → Bool} {entries : List α}
    (unique : ∀ (i j : Nat) (x y : α), entries[i]? = some x → entries[j]? = some y →
      test x = true → test y = true → i = j) :
    entries.countP test ≤ 1 := by
  induction entries with
  | nil => simp
  | cons head tail ih =>
      rw [List.countP_cons]
      cases first : test head with
      | false =>
          have rest := ih fun i j x y found found' passes passes' =>
            Nat.succ.inj (unique (i + 1) (j + 1) x y found found' passes passes')
          simpa using rest
      | true =>
          have none_later : tail.countP test = 0 := by
            refine List.countP_eq_zero.mpr fun x mem passes => ?_
            obtain ⟨i, found⟩ := List.mem_iff_getElem?.mp mem
            exact absurd (unique 0 (i + 1) head x rfl found first passes) (Nat.zero_ne_add_one i)
          simp [none_later]

/-- The cache has kept what calls for a key have returned, and so there was one at most that
succeeded. -/
structure Retained (key : GenerationKey) (c : Coordinator) : Prop where
  success_cached : ∀ {number id : Nat} {artifacts : Artifacts},
    c.calls[number]? = some ⟨id, key, .returned (.ok artifacts)⟩ →
      c.cache.get? key = some artifacts
  success_unique : ∀ {number other id id' : Nat} {artifacts artifacts' : Artifacts},
    c.calls[number]? = some ⟨id, key, .returned (.ok artifacts)⟩ →
      c.calls[other]? = some ⟨id', key, .returned (.ok artifacts')⟩ → number = other

theorem retained_initial (capacity : Nat) : Retained key (initial capacity) := by
  constructor <;> simp [initial]

/-- A call that has returned did so before the last event or by it. -/
theorem returned_of_step {event : Event} {number id : Nat} {result : CallResult}
    (returned : (c.step event).calls[number]? = some ⟨id, key, .returned result⟩) :
    c.calls[number]? = some ⟨id, key, .returned result⟩ ∨
      c.calls[number]? = some ⟨id, key, .running⟩ ∧ event = .finish number result := by
  cases before : c.calls[number]? with
  | none => cases running_of_started returned before
  | some earlier =>
      obtain ⟨next, found, becomes⟩ := becomes_step before event
      obtain rfl := Option.some.inj (found.symm.trans returned)
      obtain ⟨id', key', state⟩ := earlier
      cases becomes with
      | stays => exact Or.inl rfl
      | returns running result cause =>
          obtain rfl : state = .running := running
          exact Or.inr ⟨rfl, cause⟩

/-- What is cached stays so until the cache gives it up: no call runs for its key that could
return anything else. -/
theorem CallsSound.stored_step (sound : CallsSound c) {artifacts : Artifacts}
    (stored : c.cache.get? key = some artifacts) {event : Event} (kept : event ≠ .evict key) :
    (c.step event).cache.get? key = some artifacts := by
  cases event with
  | enter target other =>
      have issued : (c.issue target other).cache = c.cache := (c.issue_keeps target other).2.2.2.1
      rcases c.enter_cases target other with ⟨_, -, same⟩ | ⟨_, -, -, same⟩ | ⟨-, -, same⟩ <;>
        · rw [Coordinator.step, same, ← stored, ← issued]
          rfl
  | finish number result =>
      rcases c.finish_cases number result with same | ⟨id, other, called, -⟩
      · rwa [Coordinator.step, same]
      · have differs : key ≠ other := by
          rintro rfl
          have missing := sound.flight_uncached (sound.running_flies called)
          cases missing.symm.trans stored
        rw [Coordinator.step, cache_finish called, get?_cacheWith_of_ne _ differs, stored]
  | crash number =>
      rcases c.crash_cases number with same | ⟨id, other, -, same⟩ <;>
        simp [Coordinator.step, same, stored]
  | settle number =>
      rcases c.settle_cases number with same | ⟨request, _, _, _, -, -, -, -, same⟩
      · rwa [Coordinator.step, same]
      · rw [Coordinator.step, same, ← stored, ← c.cache_surrender request]
        rfl
  | drop number =>
      rcases c.drop_cases number with same | ⟨request, -, -, same⟩
      · rwa [Coordinator.step, same]
      · rw [Coordinator.step, same, ← stored, ← c.cache_surrender request]
        rfl
  | cancel target =>
      rcases c.cancel_cases target with ⟨same, -⟩ | ⟨ticket, -, same⟩ <;>
        simp [Coordinator.step, same, stored]
  | evict other =>
      have differs : key ≠ other := fun same => kept (same ▸ rfl)
      rw [Coordinator.step, get?_cache_evict_of_ne c differs, stored]

/-- What the cache has kept it keeps through any event but the one that takes it away. -/
theorem Retained.step (retained : Retained key c) (sound : CallsSound c) {event : Event}
    (kept : event ≠ .evict key) : Retained key (c.step event) where
  success_cached := by
    intro number id artifacts returned
    rcases returned_of_step returned with before | ⟨running, rfl⟩
    · exact sound.stored_step (retained.success_cached before) kept
    · rw [Coordinator.step, cache_finish running]
      simp [cacheWith]
  success_unique := by
    intro number other id id' artifacts artifacts' returned returned'
    -- what has returned before the event leaves no call running for the key
    have alone {i j n m : Nat} {found : Artifacts}
        (before : c.calls[i]? = some ⟨n, key, .returned (.ok found)⟩)
        (running : c.calls[j]? = some ⟨m, key, .running⟩) : False := by
      have missing := sound.flight_uncached (sound.running_flies running)
      cases missing.symm.trans (retained.success_cached before)
    rcases returned_of_step returned with before | ⟨running, rfl⟩
    · rcases returned_of_step returned' with before' | ⟨running', -⟩
      · exact retained.success_unique before before'
      · exact (alone before running').elim
    · rcases returned_of_step returned' with before' | ⟨-, same⟩
      · exact (alone before' running).elim
      · exact (Event.finish.inj same).1

/-- The cache keeps what it has through a run in which it does not give it up. -/
theorem Retained.after (retained : Retained key c) (sound : Sound c) {events : List Event}
    (kept : .evict key ∉ events) : Retained key (c.after events) := by
  induction events generalizing c with
  | nil => exact retained
  | cons event rest ih =>
      rw [List.mem_cons, not_or] at kept
      obtain ⟨first, later⟩ := kept
      exact ih (retained.step sound.calls (Ne.symm first)) (sound.step event) later

theorem retained_run {capacity : Nat} {events : List Event} (kept : .evict key ∉ events) :
    Retained key (run capacity events) :=
  (retained_initial capacity).after (sound_initial capacity) kept

/-- A key has one call at most that runs or has succeeded. -/
theorem Retained.live_unique (retained : Retained key c) (sound : CallsSound c)
    {number other id id' : Nat} {state state' : CallState}
    (called : c.calls[number]? = some ⟨id, key, state⟩) (live : state.isLive = true)
    (called' : c.calls[other]? = some ⟨id', key, state'⟩) (live' : state'.isLive = true) :
    number = other := by
  rcases CallState.isLive_iff.mp live with rfl | ⟨artifacts, rfl⟩
  · rcases CallState.isLive_iff.mp live' with rfl | ⟨artifacts', rfl⟩
    · exact sound.running_unique called called'
    · have stored := retained.success_cached called'
      rw [sound.flight_uncached (sound.running_flies called)] at stored
      cases stored
  · rcases CallState.isLive_iff.mp live' with rfl | ⟨artifacts', rfl⟩
    · have stored := retained.success_cached called
      rw [sound.flight_uncached (sound.running_flies called')] at stored
      cases stored
    · exact retained.success_unique called called'

theorem Retained.countP_live_le_one (retained : Retained key c) (sound : CallsSound c) :
    (c.callsFor key).countP (fun call => call.state.isLive) ≤ 1 := by
  rw [callsFor, List.countP_filter]
  refine countP_le_one fun i j x y found found' passes passes' => ?_
  obtain ⟨id, asked, state⟩ := x
  obtain ⟨id', asked', state'⟩ := y
  obtain ⟨live, rfl⟩ : state.isLive = true ∧ asked = key := by simpa using passes
  obtain ⟨live', rfl⟩ : state'.isLive = true ∧ asked' = asked := by simpa using passes'
  exact retained.live_unique sound found live found' live'

/-- Every call is live, has failed or was aborted. -/
theorem length_eq_countP_add (calls : List Call) :
    calls.length = calls.countP (fun call => call.state.isLive) +
      calls.countP (fun call => call.state.isFailed) +
      calls.countP (fun call => call.state.isAborted) := by
  induction calls with
  | nil => rfl
  | cons call rest ih =>
      simp only [List.length_cons, List.countP_cons, ih]
      rcases call.state with - | (fault | artifacts) | - | - <;>
        simp [CallState.isLive, CallState.isFailed, CallState.isAborted] <;> omega

/-- A key that is cached costs no more calls as long as the cache does not give it up. -/
theorem Sound.length_callsFor_after (sound : Sound c) {number : Nat} {call : Call}
    {artifacts : Artifacts} (retained : Retained call.key c)
    (called : c.calls[number]? = some call) (succeeded : call.state = .returned (.ok artifacts))
    {events : List Event} (kept : .evict call.key ∉ events) :
    ((c.after events).callsFor call.key).length = (c.callsFor call.key).length := by
  obtain ⟨id, key, state⟩ := call
  obtain rfl : state = .returned (.ok artifacts) := succeeded
  induction events generalizing c with
  | nil => rfl
  | cons event rest ih =>
      rw [List.mem_cons, not_or] at kept
      obtain ⟨first, later⟩ := kept
      have lasts := ended_after called (by simp) [event]
      have retained' := retained.step sound.calls (Ne.symm first)
      rw [after_cons, ih (sound.step event) retained' lasts later, length_callsFor_step, if_neg,
        Nat.add_zero]
      intro started
      obtain ⟨target, -, missing, -⟩ := starts_eq_some_iff.mp started
      have stored : c.cached key = some artifacts := retained.success_cached called
      rw [missing] at stored
      cases stored

/-- How many calls a key costs. One at most runs at a time. A call starts only when a
request finds its key neither cached nor in flight. What is cached for a key is what
a call for it returned. After a failure the next request starts a call. As long as the
cache does not give the key up, what a call for it returned is cached, all calls but one
have failed or were aborted, and no call starts after one has succeeded. -/
theorem calls_of_key (capacity : Nat) (events : List Event) (key : GenerationKey) :
    let c := run capacity events
    (∀ number other id id' : Nat, c.calls[number]? = some ⟨id, key, .running⟩ →
      c.calls[other]? = some ⟨id', key, .running⟩ → number = other) ∧
    (∀ event : Event, ((c.step event).callsFor key).length ≠ (c.callsFor key).length →
      ∃ target, event = .enter target key ∧ c.Idle key ∧
        ((c.step event).callsFor key).length = (c.callsFor key).length + 1) ∧
    (∀ artifacts : Artifacts, c.cached key = some artifacts →
      ∃ number id : Nat, c.calls[number]? = some ⟨id, key, .returned (.ok artifacts)⟩) ∧
    (∀ (number id : Nat) (fault : ServiceFault) (between : List Event) (target : String),
      c.calls[number]? = some ⟨id, key, .running⟩ → (∀ other, .enter other key ∉ between) →
        let d := c.after (.finish number (.error fault) :: between)
        ((d.step (.enter target key)).callsFor key).length = (d.callsFor key).length + 1) ∧
    (.evict key ∉ events →
      (∀ artifacts : Artifacts, c.cached key = some artifacts ↔
        ∃ number id : Nat, c.calls[number]? = some ⟨id, key, .returned (.ok artifacts)⟩) ∧
      (c.callsFor key).length ≤ 1 + (c.callsFor key).countP (fun call => call.state.isFailed) +
        (c.callsFor key).countP (fun call => call.state.isAborted) ∧
      ∀ (number id : Nat) (artifacts : Artifacts),
        c.calls[number]? = some ⟨id, key, .returned (.ok artifacts)⟩ →
          ∀ later : List Event, .evict key ∉ later →
            ((c.after later).callsFor key).length = (c.callsFor key).length) := by
  intro c
  have sound : Sound c := sound_run capacity events
  refine ⟨?_, ?_, ?_, ?_, fun kept => ?_⟩
  · intro number other id id' called called'
    exact sound.calls.running_unique called called'
  · intro event changed
    rw [length_callsFor_step] at changed ⊢
    split at changed
    · rename_i started
      obtain ⟨target, entered, idle⟩ := starts_eq_some_iff.mp started
      exact ⟨target, entered, idle, by rw [if_pos started]⟩
    · exact absurd rfl changed
  · intro artifacts
    exact sound.calls.cached_returned
  · intro number id fault between target called others d
    have failed := sound.idle_of_failure called fault
    have idle : d.Idle key := (sound.step _).idle_after failed others
    rw [length_callsFor_step, if_pos (starts_eq_some_iff.mpr ⟨target, rfl, idle⟩)]
  · have retained : Retained key c := retained_run kept
    refine ⟨fun artifacts => ⟨sound.calls.cached_returned, ?_⟩, ?_, ?_⟩
    · exact fun ⟨_, _, called⟩ => retained.success_cached called
    · have partition := length_eq_countP_add (c.callsFor key)
      have live := retained.countP_live_le_one sound.calls
      omega
    · intro number id artifacts called later kept'
      exact sound.length_callsFor_after retained called rfl kept'

/-- A call fails, the next request starts another, and when that succeeds no more follow. -/
theorem calls_of_key_retried :
    let key : GenerationKey := ⟨"M1(1000,400,1000)b", false⟩
    let shelves : Artifacts := ⟨"a.glb", none⟩
    let failed : List Event := [.finish 0 (.error (.httpStatus 500 "boom"))]
    let asked := run 1 [.enter "left" key]
    let events : List Event := .enter "left" key :: failed ++
      [.enter "right" key, .finish 1 (.ok shelves)]
    let c := run 1 events
    (asked.calls[0]? = some ⟨2, key, .running⟩ ∧
      (((asked.after failed).step (.enter "right" key)).callsFor key).length =
        ((asked.after failed).callsFor key).length + 1) ∧
    (.evict key ∉ events ∧ c.calls[1]? = some ⟨4, key, .returned (.ok shelves)⟩ ∧
      c.cached key = some shelves ∧ (c.callsFor key).length ≤ 2 ∧
      ∀ later : List Event, .evict key ∉ later →
        ((c.after later).callsFor key).length = (c.callsFor key).length) := by
  intro key shelves failed asked events c
  have called : asked.calls[0]? = some ⟨2, key, .running⟩ := rfl
  have returned : c.calls[1]? = some ⟨4, key, .returned (.ok shelves)⟩ := rfl
  have kept : Event.evict key ∉ events := by simp [events, failed]
  obtain ⟨-, -, -, restarts, -⟩ := calls_of_key 1 [.enter "left" key] key
  obtain ⟨-, -, -, -, lasting⟩ := calls_of_key 1 events key
  obtain ⟨cached, bounded, no_more⟩ := lasting kept
  have failures : (c.callsFor key).countP (fun call => call.state.isFailed) = 1 := by
    decide +kernel
  have aborts : (c.callsFor key).countP (fun call => call.state.isAborted) = 0 := by
    decide +kernel
  rw [failures, aborts] at bounded
  refine ⟨⟨called, ?_⟩, kept, returned, ?_, bounded, no_more 1 4 shelves returned⟩
  · exact restarts 0 2 _ [] "right" called (by simp)
  · exact (cached shelves).mpr ⟨1, 4, returned⟩

end Coordinator

end Joinery.Preview
