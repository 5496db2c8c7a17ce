import Joinery.Proofs.Preview.Operations

/-!
# Flights, the cache and the history of calls

A call is in flight from its start until it returns or is aborted; what is cached
for a key is what a call for it has returned. Each operation that touches calls
or the cache keeps both, as long as a call starts only for a key that is neither
cached nor in flight.
-/

namespace Joinery.Preview.Coordinator

/-- The flights agree with the history of calls. -/
structure FlightsSound (c : Coordinator) : Prop where
  /-- A call in flight has neither returned nor been aborted. -/
  flight_open : ∀ {key : GenerationKey} {flight : Flight}, c.inFlight.get? key = some flight →
    ∃ state : CallState, c.calls[flight.call]? = some ⟨flight.id, key, state⟩ ∧
      (state = .running ∨ state = .died)
  flight_uncached : ∀ {key : GenerationKey} {flight : Flight},
    c.inFlight.get? key = some flight → c.cache.get? key = none
  running_flies : ∀ {number id : Nat} {key : GenerationKey},
    c.calls[number]? = some ⟨id, key, .running⟩ → c.inFlight.get? key = some ⟨id, number⟩

/-- The flights, the cache and the history of calls agree. -/
structure CallsSound (c : Coordinator) : Prop extends FlightsSound c where
  /-- Whatever is cached for a key was returned by a call for it. -/
  cached_returned : ∀ {key : GenerationKey} {artifacts : Artifacts},
    c.cache.get? key = some artifacts →
      ∃ number id : Nat, c.calls[number]? = some ⟨id, key, .returned (.ok artifacts)⟩

variable {c c' : Coordinator} {key other : GenerationKey}

theorem FlightsSound.congr (sound : FlightsSound c) (calls : c'.calls = c.calls)
    (inFlight : c'.inFlight = c.inFlight) (cache : c'.cache = c.cache) : FlightsSound c' := by
  obtain ⟨openings, uncached, running⟩ := sound
  rw [← calls, ← inFlight] at openings running
  rw [← inFlight, ← cache] at uncached
  exact ⟨openings, uncached, running⟩

/-- A sound cache stays so as long as it grows no further and what has returned stays. -/
theorem CallsSound.of_flights (sound : CallsSound c) (flights : FlightsSound c')
    (returned : ∀ {number id : Nat} {key : GenerationKey} {result : CallResult},
      c.calls[number]? = some ⟨id, key, .returned result⟩ →
        c'.calls[number]? = some ⟨id, key, .returned result⟩)
    (cache : ∀ {key : GenerationKey} {artifacts : Artifacts},
      c'.cache.get? key = some artifacts → c.cache.get? key = some artifacts) :
    CallsSound c' where
  toFlightsSound := flights
  cached_returned := by
    intro key artifacts stored
    obtain ⟨number, id, called⟩ := sound.cached_returned (cache stored)
    exact ⟨number, id, returned called⟩

/-- Soundness of the calls is about three parts of a state only. -/
theorem CallsSound.congr (sound : CallsSound c) (calls : c'.calls = c.calls)
    (inFlight : c'.inFlight = c.inFlight) (cache : c'.cache = c.cache) : CallsSound c' := by
  refine sound.of_flights (sound.toFlightsSound.congr calls inFlight cache) ?_ ?_
  · intro number id key result called
    rwa [calls]
  · intro key artifacts stored
    rwa [cache] at stored

/-- Flights for different keys are different calls. -/
theorem FlightsSound.key_unique (sound : FlightsSound c) {flight flight' : Flight}
    (flies : c.inFlight.get? key = some flight) (flies' : c.inFlight.get? other = some flight')
    (same : flight.call = flight'.call) : key = other := by
  obtain ⟨state, called, -⟩ := sound.flight_open flies
  obtain ⟨state', called', -⟩ := sound.flight_open flies'
  rw [same, called'] at called
  exact (congrArg Call.key (Option.some.inj called)).symm

/-- A call may leave the table once it runs no longer, if that changes nothing about
other calls and keys. -/
theorem FlightsSound.land (sound : FlightsSound c) {flight : Flight}
    (flies : c.inFlight.get? key = some flight) (inFlight : c'.inFlight = c.inFlight.erase key)
    (cache : ∀ other, other ≠ key → c'.cache.get? other = c.cache.get? other)
    (calls : ∀ i, i ≠ flight.call → c'.calls[i]? = c.calls[i]?)
    (ended : ∀ call, c'.calls[flight.call]? = some call → call.state ≠ .running) :
    FlightsSound c' := by
  have remaining : ∀ {other : GenerationKey} {flight' : Flight},
      c'.inFlight.get? other = some flight' →
        other ≠ key ∧ c.inFlight.get? other = some flight' := by
    intro other flight' flies'
    rw [inFlight, Table.get?_erase] at flies'
    split at flies'
    · cases flies'
    · rename_i differs
      exact ⟨differs, flies'⟩
  constructor
  · intro other flight' flies'
    obtain ⟨differs, flew⟩ := remaining flies'
    obtain ⟨state, called, unreturned⟩ := sound.flight_open flew
    refine ⟨state, ?_, unreturned⟩
    rw [calls, called]
    intro same
    exact differs (sound.key_unique flew flies same)
  · intro other flight' flies'
    obtain ⟨differs, flew⟩ := remaining flies'
    rw [cache other differs]
    exact sound.flight_uncached flew
  · intro number id other called
    have differs : number ≠ flight.call := by
      rintro rfl
      exact ended _ called rfl
    have flew := sound.running_flies ((calls number differs).symm.trans called)
    rw [inFlight, Table.get?_erase_of_ne, flew]
    rintro rfl
    exact differs (congrArg Flight.call (Option.some.inj (flew.symm.trans flies)))

/-- No release changes what a call has returned. -/
theorem returned_release_iff {number id : Nat} {result : CallResult} :
    (c.release other).calls[number]? = some ⟨id, key, .returned result⟩ ↔
      c.calls[number]? = some ⟨id, key, .returned result⟩ := by
  rcases c.release_cases other with ⟨same, -⟩ | ⟨flight, -, -, same⟩
  · rw [same]
  · rw [same, getElem?_abort]
    split
    · rcases c.calls[number]? with - | ⟨id, key, state⟩ <;> simp
    · rfl

theorem CallsSound.release (sound : CallsSound c) (key : GenerationKey) :
    CallsSound (c.release key) := by
  rcases c.release_cases key with ⟨same, -⟩ | ⟨flight, -, flies, same⟩
  · rwa [same]
  · refine sound.of_flights ?_ returned_release_iff.mpr (by simp)
    refine sound.toFlightsSound.land flies (by simp [same]) (by simp) ?_ ?_
    · intro i differs
      rw [same, getElem?_abort, if_neg differs]
    · intro call called
      rw [same, getElem?_abort, if_pos rfl] at called
      obtain ⟨call', -, rfl⟩ := Option.map_eq_some_iff.mp called
      exact CallState.abort_ne_running

theorem CallsSound.issue (sound : CallsSound c) (target : String) (key : GenerationKey) :
    CallsSound (c.issue target key) := by
  have granted : CallsSound (c.grant target key) := sound.congr rfl rfl rfl
  rcases c.issue_cases target key with ⟨same, -⟩ | ⟨previous, -, -, same⟩
  · rwa [same]
  · rw [same]
    exact granted.release previous.key

theorem returned_start_iff {number id : Nat} {result : CallResult} :
    (c.start other).calls[number]? = some ⟨id, key, .returned result⟩ ↔
      c.calls[number]? = some ⟨id, key, .returned result⟩ := by
  constructor
  · intro called
    rw [getElem?_start] at called
    split at called
    · cases called
    · exact called
  · intro called
    exact c.getElem?_start_of_some called other

/-- A call may start for a key that is neither cached nor in flight. -/
theorem CallsSound.start (sound : CallsSound c) (grounded : c.inFlight.get? key = none)
    (missing : c.cache.get? key = none) : CallsSound (c.start key) := by
  have calls := c.getElem?_start key
  have flights := c.get?_inFlight_start key
  refine sound.of_flights ?_ returned_start_iff.mpr id
  constructor
  · intro other flight flies
    rw [flights] at flies
    split at flies
    · rename_i same
      obtain rfl := Option.some.inj flies
      exact ⟨.running, by simp [calls, same], Or.inl rfl⟩
    · obtain ⟨state, called, unreturned⟩ := sound.flight_open flies
      exact ⟨state, c.getElem?_start_of_some called key, unreturned⟩
  · intro other flight flies
    rw [flights] at flies
    split at flies
    · rename_i same
      rw [same]
      exact missing
    · exact sound.flight_uncached flies
  · intro number id other called
    rw [calls] at called
    split at called
    · rename_i last
      cases called
      rw [flights, if_pos rfl, last]
    · have flies := sound.running_flies called
      rw [flights, if_neg, flies]
      rintro rfl
      rw [grounded] at flies
      cases flies

/-- A sound coordinator takes a call that returns out of the table. -/
theorem FlightsSound.finish_of_running (sound : FlightsSound c) {number id : Nat}
    (called : c.calls[number]? = some ⟨id, key, .running⟩) (result : CallResult) :
    c.finish number result =
      { c with
        cache := c.cacheWith key result
        inFlight := c.inFlight.erase key }.setCall number (.returned result) := by
  have flies := sound.running_flies called
  rw [c.finish_of_running called, flightsWithout]
  simp [flies]

theorem FlightsSound.finish_cases (sound : FlightsSound c) (number : Nat) (result : CallResult) :
    c.finish number result = c ∨
      ∃ id key, c.calls[number]? = some ⟨id, key, .running⟩ ∧
        c.inFlight.get? key = some ⟨id, number⟩ ∧
        c.finish number result =
          { c with
            cache := c.cacheWith key result
            inFlight := c.inFlight.erase key }.setCall number (.returned result) := by
  rcases c.finish_cases number result with same | ⟨id, key, called, -⟩
  · exact Or.inl same
  · exact Or.inr ⟨id, key, called, sound.running_flies called,
      sound.finish_of_running called result⟩

/-- A call that has returned is not changed by another that returns. -/
theorem returned_finish {i id : Nat} {done : CallResult}
    (returned : c.calls[i]? = some ⟨id, key, .returned done⟩) (number : Nat)
    (result : CallResult) :
    (c.finish number result).calls[i]? = some ⟨id, key, .returned done⟩ := by
  rcases c.finish_cases number result with same | ⟨id', other, called, -⟩
  · rw [same, returned]
  · rw [c.getElem?_finish called, if_neg, returned]
    rintro rfl
    rw [called] at returned
    cases returned

section Finish
variable {number id : Nat}

theorem cache_finish (called : c.calls[number]? = some ⟨id, key, .running⟩)
    (result : CallResult) : (c.finish number result).cache = c.cacheWith key result := by
  rw [c.finish_of_running called]
  rfl

theorem FlightsSound.finish (sound : FlightsSound c)
    (called : c.calls[number]? = some ⟨id, key, .running⟩) (result : CallResult) :
    FlightsSound (c.finish number result) := by
  have calls := c.getElem?_finish called result
  refine sound.land (sound.running_flies called) ?_ ?_ ?_ ?_
  · rw [sound.finish_of_running called, (setCall_keeps _ _ _).2.2.2.1]
  · intro other differs
    rw [cache_finish called, get?_cacheWith_of_ne _ differs]
  · intro i differs
    rw [calls, if_neg differs]
  · intro call found
    rw [calls, if_pos rfl] at found
    cases found
    simp

theorem CallsSound.cached_returned_finish (sound : CallsSound c)
    (called : c.calls[number]? = some ⟨id, key, .running⟩) {result : CallResult}
    {artifacts : Artifacts}
    (stored : (c.finish number result).cache.get? other = some artifacts) :
    ∃ i id' : Nat,
      (c.finish number result).calls[i]? = some ⟨id', other, .returned (.ok artifacts)⟩ := by
  have missing := sound.flight_uncached (sound.running_flies called)
  rw [cache_finish called] at stored
  by_cases here : other = key
  · subst here
    obtain rfl := (c.get?_cacheWith_self missing result artifacts).mp stored
    exact ⟨number, id, by rw [c.getElem?_finish called, if_pos rfl]⟩
  · rw [get?_cacheWith_of_ne _ here] at stored
    obtain ⟨earlier, id', found⟩ := sound.cached_returned stored
    exact ⟨earlier, id', returned_finish found number result⟩

theorem CallsSound.finish (sound : CallsSound c) (number : Nat) (result : CallResult) :
    CallsSound (c.finish number result) := by
  rcases c.finish_cases number result with same | ⟨id, key, called, -⟩
  · rwa [same]
  · exact ⟨sound.toFlightsSound.finish called result, sound.cached_returned_finish called⟩

end Finish

theorem returned_crash_iff {number i id : Nat} {result : CallResult} :
    (c.crash number).calls[i]? = some ⟨id, key, .returned result⟩ ↔
      c.calls[i]? = some ⟨id, key, .returned result⟩ := by
  rcases c.crash_cases number with same | ⟨id', other, called, same⟩
  · rw [same]
  · rw [same, c.getElem?_setCall_of_some called]
    split
    · rename_i here
      simp [here, called]
    · rfl

theorem CallsSound.crash (sound : CallsSound c) (number : Nat) :
    CallsSound (c.crash number) := by
  rcases c.crash_cases number with same | ⟨id, key, called, same⟩
  · rwa [same]
  · have calls : ∀ i, (c.crash number).calls[i]? =
        if i = number then some ⟨id, key, .died⟩ else c.calls[i]? := by
      rw [same]
      exact c.getElem?_setCall_of_some called .died
    have inFlight : (c.crash number).inFlight = c.inFlight := by simp [same]
    have cache : (c.crash number).cache = c.cache := by simp [same]
    refine sound.of_flights ?_ returned_crash_iff.mpr fun stored => cache ▸ stored
    constructor
    · intro other flight flies
      rw [inFlight] at flies
      obtain ⟨state, called', unreturned⟩ := sound.flight_open flies
      by_cases here : flight.call = number
      · rw [here, called] at called'
        cases called'
        exact ⟨.died, by rw [calls, if_pos here], Or.inr rfl⟩
      · exact ⟨state, by rw [calls, if_neg here, called'], unreturned⟩
    · rw [inFlight, cache]
      exact sound.flight_uncached
    · intro i id' other runs
      rw [calls] at runs
      split at runs
      · cases runs
      · rw [inFlight]
        exact sound.running_flies runs

/-- The cache may give anything up. -/
theorem CallsSound.evict (sound : CallsSound c) (key : GenerationKey) :
    CallsSound (c.evict key) := by
  have kept := c.evict_keeps key
  refine sound.of_flights ?_ (fun called => by rwa [kept.1]) c.get?_cache_evict
  constructor
  · rw [kept.1, kept.2.2.2.2.1]
    exact sound.flight_open
  · intro other flight flies
    rw [kept.2.2.2.2.1] at flies
    have uncached := sound.flight_uncached flies
    rw [Option.eq_none_iff_forall_ne_some] at uncached ⊢
    exact fun artifacts stored => uncached artifacts (c.get?_cache_evict stored)
  · rw [kept.1, kept.2.2.2.2.1]
    exact sound.running_flies

end Joinery.Preview.Coordinator
