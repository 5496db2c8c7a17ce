import Joinery.Preview.Batch
import Joinery.Proofs.Preview.Steadiness
import Mathlib.Data.List.Count
import Mathlib.Data.List.Nodup
import Mathlib.Data.List.Perm.Subperm

/-!
# Batches in any order

The requests of a batch enter, share calls and take their results in an order that nobody
decides. Each has a target of its own, so none of them takes away from another. Main
statements: the order that a command follows is one of them and comes to the end, where every
request has what a call for its own key returned; and a key costs no more calls than it has
places. If the gateway has one answer for each key, what a request gets is the answer.
-/

namespace Joinery.Preview

/-- Places in a batch have targets of their own. -/
theorem batchTarget_inj {place other : Nat} :
    batchTarget place = batchTarget other ↔ place = other := by
  refine ⟨fun same => ?_, fun same => by rw [same]⟩
  have digits : Nat.toDigits 10 place = Nat.toDigits 10 other := by
    have chars := congrArg String.toList same
    simpa [batchTarget, String.toList_append] using chars
  calc
    place = Nat.ofDigitChars 10 (Nat.toDigits 10 place) 0 := Nat.ofDigitChars_ten_toDigits.symm
    _ = Nat.ofDigitChars 10 (Nat.toDigits 10 other) 0 := by rw [digits]
    _ = other := Nat.ofDigitChars_ten_toDigits

namespace Coordinator

variable {c : Coordinator} {key : GenerationKey} {keys : List GenerationKey} {places : List Nat}
  {event : Event}

/-- The requests are those of some places of a batch, in this order. -/
structure Placed (keys : List GenerationKey) (places : List Nat) (c : Coordinator) : Prop where
  targets : c.requests.map Request.target = places.map batchTarget
  keys : c.requests.map (fun request => some request.key) = places.map (keys[·]?)

theorem Placed.step (placed : Placed keys places c)
    (others : ∀ target key, event ≠ .enter target key) : Placed keys places (c.step event) where
  targets := (map_requests_step others _ fun _ _ => rfl).trans placed.targets
  keys := (map_requests_step others _ fun _ _ => rfl).trans placed.keys

theorem Placed.enter (placed : Placed keys places c) {place : Nat}
    (asks : keys[place]? = some key) :
    Placed keys (places ++ [place]) (c.step (.enter (batchTarget place) key)) := by
  obtain ⟨state, added⟩ := c.requests_enter (batchTarget place) key
  constructor
  · rw [Coordinator.step, added, List.map_append, List.map_append, placed.targets]
    rfl
  · rw [Coordinator.step, added, List.map_append, List.map_append, placed.keys, List.map_singleton,
      List.map_singleton, asks]

theorem Placed.length_requests (placed : Placed keys places c) :
    c.requests.length = places.length := by
  simpa using congrArg List.length placed.targets

/-- Every request has a place, whose key it asks for. -/
theorem Placed.place_of_request (placed : Placed keys places c) {number : Nat} {request : Request}
    (asked : c.requests[number]? = some request) :
    ∃ place, places[number]? = some place ∧ request.target = batchTarget place ∧
      keys[place]? = some request.key := by
  have target := congrArg (·[number]?) placed.targets
  have key := congrArg (·[number]?) placed.keys
  simp only [List.getElem?_map, asked, Option.map_some] at target key
  obtain ⟨place, here, same⟩ := Option.map_eq_some_iff.mp target.symm
  rw [here, Option.map_some, Option.some.injEq] at key
  exact ⟨place, here, same.symm, key.symm⟩

/-- Every place that has come has a request, which has its target. -/
theorem Placed.request_of_place (placed : Placed keys places c) {place : Nat}
    (entered : place ∈ places) :
    ∃ (number : Nat) (request : Request), c.requests[number]? = some request ∧
      request.target = batchTarget place ∧ keys[place]? = some request.key := by
  obtain ⟨number, here⟩ := List.mem_iff_getElem?.mp entered
  have target := congrArg (·[number]?) placed.targets
  simp only [List.getElem?_map, here, Option.map_some] at target
  obtain ⟨request, asked, same⟩ := Option.map_eq_some_iff.mp target
  obtain ⟨other, here', -, key⟩ := placed.place_of_request asked
  obtain rfl := Option.some.inj (here.symm.trans here')
  exact ⟨number, request, asked, same, key⟩

/-- The target of a place that has not come is new. -/
theorem Placed.new_target (placed : Placed keys places c) {place : Nat} (new : place ∉ places) :
    ∀ request ∈ c.requests, request.target ≠ batchTarget place := by
  intro request mem same
  obtain ⟨number, asked⟩ := List.mem_iff_getElem?.mp mem
  obtain ⟨other, here, target, -⟩ := placed.place_of_request asked
  obtain rfl := batchTarget_inj.mp (target.symm.trans same)
  exact new (List.mem_of_getElem? here)

end Coordinator

/-- What can happen while the models for some keys are generated: requests enter, calls return
a result that is allowed for their key, callers take their results, and the cache gives up what
is too much for it. The places whose requests have entered are listed in the order in which
they came. -/
inductive Proceeds (allowed : GenerationKey → CallResult → Prop) (capacity : Nat)
    (keys : List GenerationKey) : List Nat → Coordinator → Prop
  | start : Proceeds allowed capacity keys [] (.initial capacity)
  | enter {places : List Nat} {c : Coordinator} {place : Nat} {key : GenerationKey}
      (before : Proceeds allowed capacity keys places c) (asks : keys[place]? = some key)
      (new : place ∉ places) :
      Proceeds allowed capacity keys (places ++ [place])
        (c.step (.enter (batchTarget place) key))
  | finish {places : List Nat} {c : Coordinator} {number : Nat} {call : Call}
      {result : CallResult} (before : Proceeds allowed capacity keys places c)
      (called : c.calls[number]? = some call) (permitted : allowed call.key result) :
      Proceeds allowed capacity keys places (c.step (.finish number result))
  | settle {places : List Nat} {c : Coordinator}
      (before : Proceeds allowed capacity keys places c) (number : Nat) :
      Proceeds allowed capacity keys places (c.step (.settle number))
  | evict {places : List Nat} {c : Coordinator}
      (before : Proceeds allowed capacity keys places c) (key : GenerationKey) :
      Proceeds allowed capacity keys places (c.step (.evict key))

/-- A batch is over when every request has entered and nobody waits any more. -/
structure IsOver (keys : List GenerationKey) (places : List Nat) (c : Coordinator) : Prop where
  entered : ∀ place < keys.length, place ∈ places
  settled : ∀ request ∈ c.requests, request.state.isWaiting = false

open Coordinator

namespace Proceeds

variable {allowed : GenerationKey → CallResult → Prop} {capacity : Nat}
  {keys : List GenerationKey} {places : List Nat} {c : Coordinator}

theorem placed (proceeds : Proceeds allowed capacity keys places c) : Placed keys places c := by
  induction proceeds with
  | start => exact ⟨rfl, rfl⟩
  | enter _ asks _ ih => exact ih.enter asks
  | finish _ _ _ ih => exact ih.step (by simp)
  | settle _ _ ih => exact ih.step (by simp)
  | evict _ _ ih => exact ih.step (by simp)

theorem undisturbed (proceeds : Proceeds allowed capacity keys places c) : Undisturbed c := by
  induction proceeds with
  | start => exact undisturbed_initial capacity
  | enter before _ new ih =>
      refine ih.enter ?_ _
      rintro mem
      obtain ⟨request, there, same⟩ := List.mem_map.mp mem
      exact before.placed.new_target new request there same
  | finish _ _ _ ih => exact ih.finish _ _
  | settle _ number ih => exact ih.settle number
  | evict _ key ih => exact ih.evict key

/-- In the end every request has what a call for its key returned. -/
theorem resolved (proceeds : Proceeds allowed capacity keys places c)
    (finished : IsOver keys places c) {request : Request} (asked : request ∈ c.requests) :
    ∃ result, request.state = .resolved (.ofResult result) ∧ c.Returned request.key result := by
  obtain ⟨number, here⟩ := List.mem_iff_getElem?.mp asked
  exact proceeds.undisturbed.served here (finished.settled request asked)

/-- The requests of a batch may enter one after the other. -/
theorem after_batchRequests {done rest : List GenerationKey}
    (proceeds : Proceeds allowed capacity (done ++ rest) (List.range done.length) c) :
    Proceeds allowed capacity (done ++ rest) (List.range (done ++ rest).length)
      (c.after (batchRequests done.length rest)) := by
  induction rest generalizing done c with
  | nil => simpa [batchRequests] using proceeds
  | cons key rest ih =>
      have asks : (done ++ key :: rest)[done.length]? = some key := by simp
      have entered := proceeds.enter asks (by simp)
      rw [← List.range_succ] at entered
      have next := @ih (c.step (.enter (batchTarget done.length) key)) (done ++ [key])
        (by simpa using entered)
      simpa [batchRequests, after_cons] using next

/-- A call that returns has ended. -/
theorem ended_finish {number : Nat} {call call' : Call} {result : CallResult}
    (called : c.calls[number]? = some call)
    (called' : (c.step (.finish number result)).calls[number]? = some call') :
    call'.state ≠ .running := by
  obtain ⟨id, key, state⟩ := call
  by_cases running : state = .running
  · subst running
    rw [Coordinator.step, c.getElem?_finish called, if_pos rfl] at called'
    obtain rfl := Option.some.inj called'
    simp
  · have same := ended_after called running [.finish number result]
    obtain rfl := Option.some.inj (called'.symm.trans same)
    exact running

/-- The calls may return one after the other. -/
theorem after_answerCalls {σ : Type} {services : Services σ}
    (answers : ∀ key world, allowed key (services.generate key world).1) {number : Nat}
    {rest : List Call} (world : σ) (proceeds : Proceeds allowed capacity keys places c)
    (left : c.keys.drop number = rest.map Call.key)
    (ended : ∀ i < number, ∀ call, c.calls[i]? = some call → call.state ≠ .running) :
    Proceeds allowed capacity keys places (answerCalls services number rest (c, world)).1 ∧
      ∀ call ∈ (answerCalls services number rest (c, world)).1.calls, call.state ≠ .running := by
  induction rest generalizing number c world with
  | nil =>
      refine ⟨proceeds, fun call mem => ?_⟩
      obtain ⟨i, called⟩ := List.mem_iff_getElem?.mp mem
      have bound : c.keys.length ≤ number := List.drop_eq_nil_iff.mp left
      have place := (List.getElem?_eq_some_iff.mp called).1
      rw [Coordinator.keys, List.length_map] at bound
      exact ended i (Nat.lt_of_lt_of_le place bound) call called
  | cons call rest ih =>
      have key_there : c.keys[number]? = some call.key := by
        have first := congrArg (·[0]?) left
        simpa using first
      rw [Coordinator.keys, List.getElem?_map, Option.map_eq_some_iff] at key_there
      obtain ⟨call', called, same_key⟩ := key_there
      have allowed_key : allowed call'.key (services.generate call.key world).1 := by
        rw [same_key]
        exact answers call.key world
      refine ih _ (proceeds.finish called allowed_key) ?_ ?_
      · have same : (c.finish number (services.generate call.key world).1).keys = c.keys := by
          rw [← Coordinator.step, keys_step]
          simp [starts]
        rw [same, ← List.tail_drop, left]
        rfl
      · intro i below other called_i
        rcases Nat.lt_succ_iff_lt_or_eq.mp below with earlier | rfl
        · obtain ⟨before, called_before⟩ : ∃ before, c.calls[i]? = some before := by
            have place := (List.getElem?_eq_some_iff.mp called).1
            exact ⟨_, List.getElem?_eq_getElem (Nat.lt_trans earlier place)⟩
          have stays := ended_after called_before (ended i earlier before called_before)
            [.finish number (services.generate call.key world).1]
          obtain rfl := Option.some.inj (called_i.symm.trans stays)
          exact ended i earlier other called_before
        · exact ended_finish called called_i

theorem after_settles (proceeds : Proceeds allowed capacity keys places c) (numbers : List Nat) :
    Proceeds allowed capacity keys places (numbers.foldl Coordinator.settle c) := by
  induction numbers generalizing c with
  | nil => exact proceeds
  | cons number rest ih => exact ih (proceeds.settle number)

/-- A command generates in an order that is possible, and comes to the end. -/
theorem isOver_runBatch {σ : Type} {services : Services σ}
    (answers : ∀ key world, allowed key (services.generate key world).1) (capacity : Nat)
    (keys : List GenerationKey) (world : σ) :
    let c := (runBatch services capacity keys world).1
    Proceeds allowed capacity keys (List.range keys.length) c ∧
      IsOver keys (List.range keys.length) c := by
  intro c
  let entered := run capacity (batchRequests 0 keys)
  have all_entered : Proceeds allowed capacity keys (List.range keys.length) entered :=
    @after_batchRequests allowed capacity (.initial capacity) [] keys .start
  have none_before : ∀ i < 0, ∀ call, entered.calls[i]? = some call → call.state ≠ .running :=
    fun _ below => absurd below (Nat.not_lt_zero _)
  obtain ⟨answered, ended⟩ :=
    after_answerCalls answers world all_entered (by rw [List.drop_zero, Coordinator.keys])
      none_before
  exact ⟨answered.after_settles _, fun place below => List.mem_range.mpr below,
    answered.undisturbed.settled_settleAll ended⟩

theorem lt_of_mem (proceeds : Proceeds allowed capacity keys places c) {place : Nat}
    (entered : place ∈ places) : place < keys.length := by
  obtain ⟨_, _, -, -, key⟩ := proceeds.placed.request_of_place entered
  exact (List.getElem?_eq_some_iff.mp key).1

theorem nodup_places (proceeds : Proceeds allowed capacity keys places c) : places.Nodup := by
  induction proceeds with
  | start => exact List.nodup_nil
  | enter _ _ new ih => exact ih.append (List.nodup_singleton _) (by simpa using new)
  | finish _ _ _ ih | settle _ _ ih | evict _ _ ih => exact ih

/-- A key is asked for at most as often as it occurs in the batch. -/
theorem count_requests_le (proceeds : Proceeds allowed capacity keys places c)
    (key : GenerationKey) : (c.requests.map Request.key).count key ≤ keys.count key := by
  have occurrences (numbers : List Nat) : (numbers.map (keys[·]?)).count (some key) =
      numbers.countP fun place => keys[place]? == some key := by
    rw [List.count_eq_countP, List.countP_map]
    rfl
  have distinct : Function.Injective (some : GenerationKey → Option GenerationKey) :=
    fun _ _ => Option.some.inj
  have all_places : (List.range keys.length).map (keys[·]?) = keys.map some := by
    refine List.ext_getElem? fun place => ?_
    by_cases below : place < keys.length
    · simp [below]
    · simp [Nat.le_of_not_lt below]
  calc
    (c.requests.map Request.key).count key
      = (c.requests.map fun request => some request.key).count (some key) := by
        rw [← List.count_map_of_injective _ _ distinct key, List.map_map]
        rfl
    _ = places.countP fun place => keys[place]? == some key := by
        rw [proceeds.placed.keys, occurrences]
    _ ≤ (List.range keys.length).countP fun place => keys[place]? == some key := by
        refine List.Subperm.countP_le _ (List.subperm_of_subset proceeds.nodup_places ?_)
        exact fun place mem => List.mem_range.mpr (proceeds.lt_of_mem mem)
    _ = keys.count key := by
        rw [← occurrences, all_places, List.count_map_of_injective _ _ distinct]

/-- A key costs at most as many calls as it has places in the batch. -/
theorem length_callsFor_le (proceeds : Proceeds allowed capacity keys places c)
    (key : GenerationKey) : (c.callsFor key).length ≤ keys.count key := by
  refine Nat.le_trans ?_ (proceeds.count_requests_le key)
  induction proceeds with
  | start => exact Nat.le_refl 0
  | enter _ _ _ ih => exact length_callsFor_step_le ih _
  | finish _ _ _ ih => exact length_callsFor_step_le ih _
  | settle _ _ ih => exact length_callsFor_step_le ih _
  | evict _ _ ih => exact length_callsFor_step_le ih _

theorem capacity_eq (proceeds : Proceeds allowed capacity keys places c) :
    c.capacity = capacity := by
  induction proceeds with
  | start => rfl
  | enter _ _ _ ih | finish _ _ _ ih | settle _ _ ih | evict _ _ ih =>
      rw [capacity_step, ih]

end Proceeds

/-- The gateway returns nothing for a key but its answer for it. -/
def Answers (answer : GenerationKey → CallResult) (key : GenerationKey) (result : CallResult) :
    Prop :=
  result = answer key

namespace Proceeds

variable {answer : GenerationKey → CallResult} {capacity : Nat} {keys : List GenerationKey}
  {places : List Nat} {c : Coordinator}

theorem steady (proceeds : Proceeds (Answers answer) capacity keys places c) : Steady answer c := by
  induction proceeds with
  | start => exact steady_initial capacity
  | enter before _ new ih => exact ih.step (.enter (before.placed.new_target new))
  | finish _ called permitted ih =>
      rw [permitted]
      exact ih.step (.finish called)
  | settle _ _ ih => exact ih.step .settle
  | evict _ _ ih => exact ih.step .evict

/-- In the end every request has the answer for its key. -/
theorem answered (proceeds : Proceeds (Answers answer) capacity keys places c)
    (finished : IsOver keys places c) {request : Request} (asked : request ∈ c.requests) :
    request.state = .resolved (.ofResult (answer request.key)) := by
  obtain ⟨number, here⟩ := List.mem_iff_getElem?.mp asked
  exact proceeds.steady.served here (finished.settled request asked)

/-- In the end the outcomes are the answers for the keys of the batch, in their order. -/
theorem outcomes_eq
    (proceeds : Proceeds (Answers answer) capacity keys (List.range keys.length) c)
    (finished : IsOver keys (List.range keys.length) c) :
    c.outcomes = keys.map fun key => .ofResult (answer key) := by
  have resolved : c.outcomes = c.requests.map fun request => .ofResult (answer request.key) := by
    refine List.map_congr_left fun request mem => ?_
    rw [proceeds.answered finished mem]
  have same_keys : c.requests.map Request.key = keys := by
    apply List.ext_getElem?
    intro number
    rw [List.getElem?_map]
    cases asked : c.requests[number]? with
    | some request =>
        obtain ⟨place, here, -, key⟩ := proceeds.placed.place_of_request asked
        have below := (List.getElem?_eq_some_iff.mp here).1
        rw [List.length_range] at below
        rw [List.getElem?_range below] at here
        obtain rfl := Option.some.inj here
        exact key.symm
    | none =>
        have past := List.getElem?_eq_none_iff.mp asked
        rw [proceeds.placed.length_requests, List.length_range] at past
        exact (List.getElem?_eq_none_iff.mpr past).symm
  rw [resolved, ← same_keys, List.map_map]
  rfl

/-- Every place that has come has had a call for its key. -/
theorem one_le_length_callsFor (proceeds : Proceeds (Answers answer) capacity keys places c)
    {place : Nat} (entered : place ∈ places) {key : GenerationKey}
    (here : keys[place]? = some key) : 1 ≤ (c.callsFor key).length := by
  obtain ⟨number, request, asked, -, same⟩ := proceeds.placed.request_of_place entered
  obtain rfl := Option.some.inj (here.symm.trans same)
  rw [Coordinator.length_callsFor]
  exact List.count_pos_iff.mpr (proceeds.steady.asked asked)

end Proceeds

end Joinery.Preview
