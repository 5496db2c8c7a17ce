import Joinery.Proofs.Preview.Batches
import Mathlib.Data.List.Dedup
import Mathlib.Data.List.NodupEquivFin

/-!
# What a bounded cache costs

The gateway has one answer for each key of a batch. A key with a model is paid for once, unless
the cache gives the model up before the key is asked for again. Main statement: every order in
which the batch can go on costs one call for each key with a model just if the cache has room
for all these models, or each of these keys has one place only.
-/

namespace Joinery

namespace Table

variable {κ α : Type} [DecidableEq κ] {table : Table κ α} {keys : List κ}

/-- A table has no more keys than a list that they are all in. -/
theorem size_le_length
    (within : ∀ {key : κ} {value : α}, table.get? key = some value → key ∈ keys) :
    table.size ≤ keys.length := by
  have all : table.entries.map Prod.fst ⊆ keys := by
    intro key mem
    obtain ⟨⟨_, value⟩, there, rfl⟩ := List.mem_map.mp mem
    exact within ((table.get?_eq_some_iff _ _).mpr there)
  have counted := (List.subperm_of_subset table.distinct all).length_le
  rwa [List.length_map] at counted

/-- Different keys that are all found take up as much room. -/
theorem length_le_size (distinct : keys.Nodup)
    (found : ∀ key ∈ keys, ∃ value, table.get? key = some value) : keys.length ≤ table.size := by
  have all : keys ⊆ table.entries.map Prod.fst := by
    intro key mem
    obtain ⟨value, there⟩ := found key mem
    exact List.mem_map.mpr ⟨(key, value), (table.get?_eq_some_iff _ _).mp there, rfl⟩
  have counted := (List.subperm_of_subset distinct all).length_le
  rwa [List.length_map] at counted

end Table

namespace Preview

open Coordinator

variable {answer : GenerationKey → CallResult} {capacity : Nat} {keys : List GenerationKey}
  {places : List Nat} {c c' : Coordinator} {key : GenerationKey}

/-- The keys for which the gateway has a model, each of them once. -/
def modelled (answer : GenerationKey → CallResult) (keys : List GenerationKey) :
    List GenerationKey :=
  (keys.filter fun key => (answer key).isOk).dedup

theorem mem_modelled_iff :
    key ∈ modelled answer keys ↔ key ∈ keys ∧ ∃ artifacts, answer key = .ok artifacts := by
  rw [modelled, List.mem_dedup, List.mem_filter]
  cases answer key <;> simp [Except.isOk, Except.toBool]

namespace Proceeds

/-- What is cached is the model of a key of the batch. -/
theorem mem_modelled_of_cached (proceeds : Proceeds (Answers answer) capacity keys places c)
    {artifacts : Artifacts} (stored : c.cache.get? key = some artifacts) :
    answer key = .ok artifacts ∧ key ∈ modelled answer keys := by
  obtain ⟨number, id, called⟩ := proceeds.undisturbed.cached stored
  have returned := (proceeds.steady.answered called).resolve_left (by simp)
  have ready : answer key = .ok artifacts := (CallState.returned.inj returned).symm
  have some_call : 0 < (c.callsFor key).length := by
    refine List.length_pos_of_mem (List.mem_filter.mpr ⟨List.mem_of_getElem? called, ?_⟩)
    simp
  have some_place := Nat.lt_of_lt_of_le some_call (proceeds.length_callsFor_le key)
  exact ⟨ready, mem_modelled_iff.mpr ⟨List.count_pos_iff.mp some_place, artifacts, ready⟩⟩

/-- A cache that has room for all models gives none up. -/
theorem retained (proceeds : Proceeds (Answers answer) capacity keys places c)
    (room : (modelled answer keys).length ≤ capacity) : Retained key c := by
  induction proceeds with
  | start => exact retained_initial capacity
  | enter before _ _ ih => exact ih.step before.steady.sound.calls (by simp)
  | finish before _ _ ih => exact ih.step before.steady.sound.calls (by simp)
  | settle before _ ih => exact ih.step before.steady.sound.calls (by simp)
  | @evict places c before other ih =>
      rcases c.evict_cases other with ⟨same, -⟩ | ⟨full, -⟩
      · rwa [Coordinator.step, same]
      · have held : c.cache.size ≤ (modelled answer keys).length :=
          Table.size_le_length fun stored => (before.mem_modelled_of_cached stored).2
        rw [before.capacity_eq] at full
        exact absurd (Nat.le_trans held room) (Nat.not_le.mpr full)

/-- With room for all models a key that has one costs one call. -/
theorem length_callsFor_eq_one (proceeds : Proceeds (Answers answer) capacity keys places c)
    (finished : IsOver keys places c) (room : (modelled answer keys).length ≤ capacity)
    (mem : key ∈ modelled answer keys) : (c.callsFor key).length = 1 := by
  obtain ⟨wanted, artifacts, ready⟩ := mem_modelled_iff.mp mem
  obtain ⟨place, here⟩ := List.mem_iff_getElem?.mp wanted
  have entered := finished.entered place (List.getElem?_eq_some_iff.mp here).1
  exact Nat.le_antisymm (proceeds.steady.length_callsFor_le_one (proceeds.retained room) ready)
    (proceeds.one_le_length_callsFor entered here)

end Proceeds

/-- Nobody waits. -/
def Settled (c : Coordinator) : Prop := ∀ request ∈ c.requests, request.state.isWaiting = false

/-- From a moment when nobody waits to another nothing was given up. -/
structure Quietly (c c' : Coordinator) : Prop where
  settled : Settled c'
  calls : c.keys <+: c'.keys
  kept : ∀ {key : GenerationKey} {artifacts : Artifacts},
    c.cache.get? key = some artifacts → c'.cache.get? key = some artifacts

/-- When nobody waits, no call is in flight. -/
theorem Coordinator.Undisturbed.grounded_of_settled (calm : Undisturbed c) (rest : Settled c)
    (key : GenerationKey) : c.inFlight.get? key = none := by
  rw [Option.eq_none_iff_forall_ne_some]
  intro flight flies
  obtain ⟨number, request, asked, -, waits⟩ := calm.attended flies
  have ended := rest request (List.mem_of_getElem? asked)
  rw [waits] at ended
  cases ended

/-- When nobody waits, no call runs. -/
theorem Coordinator.Steady.ended_of_settled (steady : Steady answer c) (rest : Settled c)
    {number : Nat} {call : Call} (called : c.calls[number]? = some call) :
    call.state ≠ .running := by
  intro running
  obtain ⟨id, key, state⟩ := call
  obtain rfl : state = .running := running
  have flies := steady.sound.calls.running_flies called
  cases (steady.calm.grounded_of_settled rest key).symm.trans flies

/-- A request of a new target that finds nothing starts the next call. -/
theorem Coordinator.Undisturbed.calls_enter (calm : Undisturbed c) {target : String}
    (new : target ∉ c.requests.map Request.target) (idle : c.Idle key) :
    (c.step (.enter target key)).calls = c.calls ++ [⟨c.lastId + 2, key, .running⟩] := by
  obtain ⟨missing, grounded⟩ := idle
  rcases c.enter_cases target key with ⟨_, stored, -⟩ | ⟨_, -, flies, -⟩ | ⟨-, -, same⟩
  · cases missing.symm.trans stored
  · cases grounded.symm.trans flies
  · rw [Coordinator.step, same, calm.issue_eq new]
    rfl

/-- When nobody has waited before and the one call that was started returns, no call runs. -/
theorem Coordinator.Steady.ended_finish (steady : Steady answer c) (rest : Settled c) {id : Nat}
    (calls : c'.calls = c.calls ++ [⟨id, key, .running⟩]) (result : CallResult) :
    ∀ call ∈ (c'.step (.finish c.calls.length result)).calls, call.state ≠ .running := by
  intro call mem
  have started : c'.calls[c.calls.length]? = some ⟨id, key, .running⟩ := by
    rw [calls, List.getElem?_concat_length]
  obtain ⟨number, called⟩ := List.mem_iff_getElem?.mp mem
  have found := (getElem?_finish _ started result number).symm.trans called
  split at found
  · obtain rfl := Option.some.inj found
    simp
  · rename_i earlier
    rw [calls, getElem?_concat, if_neg earlier] at found
    exact steady.ended_of_settled rest found

/-- When nobody has waited before and the call of one more request has returned, nobody waits
once the one caller has taken the result. -/
theorem settled_of_last (events : List Event) (rest : Settled c)
    (calm : Undisturbed (c.after events))
    (one : (c.after events).requests.length = c.requests.length + 1)
    (ended : ∀ call ∈ (c.after events).calls, call.state ≠ .running) :
    Settled ((c.after events).step (.settle c.requests.length)) := by
  intro request mem
  obtain ⟨number, asked⟩ := List.mem_iff_getElem?.mp mem
  cases before : c.requests[number]? with
  | some earlier =>
      cases waits : request.state with
      | resolved outcome => rfl
      | dropped => rfl
      | waiting call =>
          have still : (c.after (events ++ [.settle c.requests.length])).requests[number]? =
              some request := by rwa [after_append]
          obtain rfl := waiting_since _ before still waits
          have settled := rest earlier (List.mem_of_getElem? before)
          rw [waits] at settled
          cases settled
  | none =>
      have past := List.getElem?_eq_none_iff.mp before
      have below := (List.getElem?_eq_some_iff.mp asked).1
      rw [length_requests_settle, one] at below
      obtain rfl : number = c.requests.length := by omega
      exact calm.settled_of_ended ended asked

namespace Proceeds

/-- A place whose key is cached is served at once. -/
theorem served_cached (proceeds : Proceeds (Answers answer) capacity keys places c)
    (rest : Settled c) (place : Nat) {artifacts : Artifacts}
    (stored : c.cache.get? key = some artifacts) :
    Quietly c (c.step (.enter (batchTarget place) key)) where
  settled := by
    intro request mem
    rcases c.enter_cases (batchTarget place) key with ⟨_, -, same⟩ | ⟨_, missing, -⟩ | ⟨missing, -⟩
    · have kept := (c.issue_keeps (batchTarget place) key).1
      rw [Coordinator.step, same, record, forget, kept] at mem
      rcases List.mem_append.mp mem with before | last
      · exact rest request before
      · rw [List.mem_singleton.mp last]
        rfl
    · cases missing.symm.trans stored
    · cases missing.symm.trans stored
  calls := by
    rw [keys_step]
    exact List.prefix_append _ _
  kept := fun found => proceeds.steady.sound.calls.stored_step found (by simp)

/-- A place can be served by a call of its own: the request enters, the call returns and the
caller takes the result. -/
theorem exists_paid (proceeds : Proceeds (Answers answer) capacity keys places c)
    (rest : Settled c) {place : Nat} (here : keys[place]? = some key) (new : place ∉ places)
    (missing : c.cache.get? key = none) :
    ∃ c', Proceeds (Answers answer) capacity keys (places ++ [place]) c' ∧ Quietly c c' ∧
      c'.keys = c.keys ++ [key] ∧
      ∀ artifacts, answer key = .ok artifacts → c'.cache.get? key = some artifacts := by
  have idle : c.Idle key := ⟨missing, proceeds.undisturbed.grounded_of_settled rest key⟩
  have new_target : batchTarget place ∉ c.requests.map Request.target := by
    simpa using proceeds.placed.new_target new
  let c₁ := c.step (.enter (batchTarget place) key)
  let c₂ := c₁.step (.finish c.calls.length (answer key))
  have entered : Proceeds (Answers answer) capacity keys (places ++ [place]) c₁ :=
    proceeds.enter here new
  have calls : c₁.calls = c.calls ++ [⟨c.lastId + 2, key, .running⟩] :=
    proceeds.undisturbed.calls_enter new_target idle
  have started : c₁.calls[c.calls.length]? = some ⟨c.lastId + 2, key, .running⟩ := by
    rw [calls, List.getElem?_concat_length]
  have returned : Proceeds (Answers answer) capacity keys (places ++ [place]) c₂ :=
    entered.finish started rfl
  have ended := proceeds.steady.ended_finish rest calls (answer key)
  have one : c₂.requests.length = c.requests.length + 1 := by
    obtain ⟨state, added⟩ := c.requests_enter (batchTarget place) key
    have more := congrArg List.length added
    rw [List.length_append] at more
    exact (length_requests_step (by simp)).trans more
  have begins : c.starts (.enter (batchTarget place) key) = some key :=
    starts_eq_some_iff.mpr ⟨_, rfl, idle⟩
  have all_keys : (c₂.step (.settle c.requests.length)).keys = c.keys ++ [key] := by
    rw [keys_step, keys_step, keys_step, begins]
    simp [starts]
  refine ⟨_, returned.settle c.requests.length, ⟨?_, ?_, fun stored => ?_⟩, all_keys, ?_⟩
  · exact settled_of_last [.enter (batchTarget place) key,
      .finish c.calls.length (answer key)] rest returned.undisturbed one ended
  · rw [all_keys]
    exact List.prefix_append _ _
  · refine returned.steady.sound.calls.stored_step ?_ (by simp)
    refine entered.steady.sound.calls.stored_step ?_ (by simp)
    exact proceeds.steady.sound.calls.stored_step stored (by simp)
  · intro artifacts ready
    have cached : c₂.cache.get? key = some artifacts := by
      have kept : c₂.cache = c₁.cacheWith key (answer key) := cache_finish started _
      rw [kept, ready]
      exact Table.get?_put_self _ _ _
    exact returned.steady.sound.calls.stored_step cached (by simp)

/-- One place more can be served from beginning to end before anything else happens. -/
theorem exists_served (proceeds : Proceeds (Answers answer) capacity keys places c)
    (rest : Settled c) {place : Nat} (here : keys[place]? = some key) (new : place ∉ places) :
    ∃ c', Proceeds (Answers answer) capacity keys (places ++ [place]) c' ∧ Quietly c c' ∧
      ∀ artifacts, answer key = .ok artifacts → c'.cache.get? key = some artifacts := by
  cases stored : c.cache.get? key with
  | none =>
      obtain ⟨c', paid, quietly, -, held⟩ := proceeds.exists_paid rest here new stored
      exact ⟨c', paid, quietly, held⟩
  | some artifacts =>
      have quietly := proceeds.served_cached rest place stored
      refine ⟨_, proceeds.enter here new, quietly, fun artifacts' ready => ?_⟩
      obtain rfl := Except.ok.inj ((proceeds.mem_modelled_of_cached stored).1.symm.trans ready)
      exact quietly.kept stored

/-- Places can be served one after the other. -/
theorem exists_served_all (proceeds : Proceeds (Answers answer) capacity keys places c)
    (rest : Settled c) {later : List Nat} (distinct : later.Nodup)
    (new : ∀ place ∈ later, place ∉ places) (within : ∀ place ∈ later, place < keys.length) :
    ∃ c', Proceeds (Answers answer) capacity keys (places ++ later) c' ∧ Quietly c c' ∧
      ∀ place ∈ later, ∀ key artifacts, keys[place]? = some key →
        answer key = .ok artifacts → c'.cache.get? key = some artifacts := by
  induction later generalizing c places with
  | nil =>
      rw [List.append_nil]
      exact ⟨c, proceeds, ⟨rest, List.prefix_refl _, id⟩, by simp⟩
  | cons place later ih =>
      rw [List.nodup_cons] at distinct
      rw [List.forall_mem_cons] at new within
      have here : keys[place]? = some keys[place] := List.getElem?_eq_getElem within.1
      obtain ⟨c₁, first, quietly, held⟩ := proceeds.exists_served rest here new.1
      have still_new : ∀ other ∈ later, other ∉ places ++ [place] := by
        intro other mem there
        rcases List.mem_append.mp there with before | last
        · exact new.2 other mem before
        · obtain rfl := List.mem_singleton.mp last
          exact distinct.1 mem
      obtain ⟨c₂, all, quietly', held'⟩ := ih first quietly.settled distinct.2 still_new within.2
      rw [List.append_assoc] at all
      refine ⟨c₂, all, ⟨quietly'.settled, quietly.calls.trans quietly'.calls,
        fun stored => quietly'.kept (quietly.kept stored)⟩, ?_⟩
      rw [List.forall_mem_cons]
      refine ⟨fun key artifacts found ready => ?_, held'⟩
      obtain rfl := Option.some.inj (here.symm.trans found)
      exact quietly'.kept (held artifacts ready)

/-- A batch that has come to rest can be brought to its end with the places that are left. -/
theorem exists_isOver (proceeds : Proceeds (Answers answer) capacity keys places c)
    (rest : Settled c) :
    ∃ places' c', Proceeds (Answers answer) capacity keys places' c' ∧ IsOver keys places' c' ∧
      c.keys <+: c'.keys := by
  let left := (List.range keys.length).filter (· ∉ places)
  have left_iff {place : Nat} : place ∈ left ↔ place < keys.length ∧ place ∉ places := by
    simp [left]
  have distinct : left.Nodup := List.nodup_range.filter _
  obtain ⟨c', all, quietly, -⟩ := proceeds.exists_served_all rest distinct
    (fun place mem => (left_iff.mp mem).2) fun place mem => (left_iff.mp mem).1
  refine ⟨_, c', all, ⟨fun place below => ?_, quietly.settled⟩, quietly.calls⟩
  by_cases entered : place ∈ places
  · exact List.mem_append_left _ entered
  · exact List.mem_append_right _ (left_iff.mpr ⟨below, entered⟩)

end Proceeds

/-- A key with several places has one that is not its first. -/
theorem exists_later_place (repeated : 1 < keys.count key) :
    ∃ place, keys[place]? = some key ∧ place ≠ keys.idxOf key := by
  obtain ⟨i, j, below, first, second⟩ := List.duplicate_iff_exists_distinct_get.mp
    (List.duplicate_iff_two_le_count.mpr repeated)
  by_cases here : i.val = keys.idxOf key
  · refine ⟨j, by simp [second], fun same => ?_⟩
    have different : i.val < j.val := below
    omega
  · exact ⟨i, by simp [first], here⟩

/-- A cache that has not room for all models can give one up before it is asked for again, and
then its key costs more than one call. -/
theorem exists_repeated (full : capacity < (modelled answer keys).length)
    (mem : key ∈ modelled answer keys) (repeated : 1 < keys.count key) :
    ∃ places c, Proceeds (Answers answer) capacity keys places c ∧ IsOver keys places c ∧
      1 < (c.callsFor key).length := by
  have found {other : GenerationKey} (there : other ∈ modelled answer keys) :
      keys[keys.idxOf other]? = some other :=
    List.getElem?_idxOf (mem_modelled_iff.mp there).1
  -- every model is generated once
  have distinct : ((modelled answer keys).map keys.idxOf).Nodup := by
    refine (List.nodup_dedup _).map_on fun one there other there' same => ?_
    have places := (found there).symm.trans (same ▸ found there')
    exact Option.some.inj places
  have within : ∀ place ∈ (modelled answer keys).map keys.idxOf, place < keys.length := by
    intro place mem
    obtain ⟨other, there, rfl⟩ := List.mem_map.mp mem
    exact List.idxOf_lt_length_iff.mpr (mem_modelled_iff.mp there).1
  have begun : Proceeds (Answers answer) capacity keys [] (.initial capacity) := .start
  obtain ⟨c₁, all, quietly, held⟩ :=
    begun.exists_served_all (by simp [Settled, initial]) distinct (by simp) within
  rw [List.nil_append] at all
  -- the cache holds them all, which is too much, and gives up that of the key
  have stored : ∀ other ∈ modelled answer keys, ∃ artifacts,
      c₁.cache.get? other = some artifacts := by
    intro other there
    obtain ⟨artifacts, ready⟩ := (mem_modelled_iff.mp there).2
    exact ⟨artifacts, held _ (List.mem_map_of_mem there) other artifacts (found there) ready⟩
  have overfull : c₁.capacity < c₁.cache.size := by
    rw [all.capacity_eq]
    exact Nat.lt_of_lt_of_le full (Table.length_le_size (List.nodup_dedup _) stored)
  have evicted := all.evict key
  have missing : (c₁.step (.evict key)).cache.get? key = none := by
    rw [Coordinator.step, Coordinator.evict, if_pos overfull, Table.get?_erase_self]
  have rest : Settled (c₁.step (.evict key)) := by
    rw [Settled, Coordinator.step, (c₁.evict_keeps key).2.1]
    exact quietly.settled
  -- another place of the key costs another call
  obtain ⟨place, here, later⟩ := exists_later_place repeated
  have new : place ∉ (modelled answer keys).map keys.idxOf := by
    intro there
    obtain ⟨other, known, rfl⟩ := List.mem_map.mp there
    obtain rfl := Option.some.inj ((found known).symm.trans here)
    exact later rfl
  obtain ⟨c₂, paid, quietly', again, -⟩ := evicted.exists_paid rest here new missing
  obtain ⟨places, c₃, last, finished, calls⟩ := paid.exists_isOver quietly'.settled
  refine ⟨places, c₃, last, finished, ?_⟩
  have once := evicted.one_le_length_callsFor (List.mem_map_of_mem mem) (found mem)
  rw [length_callsFor] at once ⊢
  calc
    1 < (c₁.step (.evict key)).keys.count key + 1 := Nat.lt_succ_of_le once
    _ = c₂.keys.count key := by rw [again, List.count_append, List.count_singleton_self]
    _ ≤ c₃.keys.count key := calls.sublist.count_le key

/-- Every order in which a batch can go on costs one call for each key that has a model just if
the cache has room for all these models, or no such key has several places. -/
theorem one_call_each_iff :
    (∀ places c, Proceeds (Answers answer) capacity keys places c → IsOver keys places c →
        ∀ key ∈ modelled answer keys, (c.callsFor key).length = 1) ↔
      (modelled answer keys).length ≤ capacity ∨
        ∀ key ∈ modelled answer keys, keys.count key = 1 := by
  constructor
  · intro once
    by_contra neither
    obtain ⟨full, some_key⟩ := not_or.mp neither
    obtain ⟨key, mem, several⟩ : ∃ key ∈ modelled answer keys, keys.count key ≠ 1 := by
      simpa using some_key
    have repeated : 1 < keys.count key :=
      Nat.lt_of_le_of_ne (List.count_pos_iff.mpr (mem_modelled_iff.mp mem).1) (Ne.symm several)
    obtain ⟨places, c, proceeds, finished, more⟩ :=
      exists_repeated (Nat.lt_of_not_le full) mem repeated
    exact absurd (once places c proceeds finished key mem) (Nat.ne_of_gt more)
  · rintro (room | single) places c proceeds finished key mem
    · exact proceeds.length_callsFor_eq_one finished room mem
    · obtain ⟨place, here⟩ := List.mem_iff_getElem?.mp (mem_modelled_iff.mp mem).1
      have entered := finished.entered place (List.getElem?_eq_some_iff.mp here).1
      refine Nat.le_antisymm ?_ (proceeds.one_le_length_callsFor entered here)
      rw [← single key mem]
      exact proceeds.length_callsFor_le key

end Preview

end Joinery
