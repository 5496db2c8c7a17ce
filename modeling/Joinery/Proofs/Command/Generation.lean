import Joinery.Proofs.Command.Reports
import Joinery.Proofs.Preview.Evictions
import Joinery.Proofs.Traversal
import Joinery.Proofs.Validation.Report

/-!
# Reports on generated models

The requests for the codes of one command run side by side, and their results come in as
they are ready. Main statements: a code that is not on offer ends the command before
anything is asked for; otherwise there is one report that the command can come to, whatever
happens first, and it tells of each code what became of its model. How often the gateway is
asked depends on the order when the cache is small.
-/

namespace Joinery.Command

open Preview

variable {σ : Type} {json closed : Bool} {codes : List String}

theorem checkAll_eq_mapM (codes : List String) :
    checkAll codes = codes.mapM fun code =>
      (Registry.standard.check code).mapError fun fault => (code, fault) := by
  induction codes with
  | nil => rfl
  | cons code rest ih =>
      rw [checkAll, List.mapM_cons, ← ih]
      cases Registry.standard.check code with
      | error fault => rfl
      | ok checked => cases checkAll rest <;> rfl

/-- The code is on offer and this is the key of its model. -/
def IsKeyOf (closed : Bool) (code : String) (key : GenerationKey) : Prop :=
  ∃ checked, Registry.standard.check code = .ok checked ∧ key = .ofChecked checked closed

theorem isKeyOf_of_reads {code : String} (spec : Specification)
    (read : Code.parse code = .ok spec) (accepted : Registry.standard.violations spec = []) :
    IsKeyOf closed code ⟨spec.canonicalCode, closed⟩ :=
  ⟨⟨spec, _, accepted⟩,
    Registry.check_eq_ok_iff.mpr ⟨read, Registry.violations_eq_nil_iff.mp accepted⟩, rfl⟩

theorem mapError_eq_ok_iff {α ε δ : Type} {result : Except ε α} {f : ε → δ} {value : α} :
    result.mapError f = .ok value ↔ result = .ok value := by
  cases result <;> simp [Except.mapError]

theorem checkAll_eq_ok_iff {specifications : List CheckedSpecification} :
    checkAll codes = .ok specifications ↔
      List.Forall₂ (fun code checked => Registry.standard.check code = .ok checked) codes
        specifications := by
  rw [checkAll_eq_mapM, mapM_eq_ok_iff]
  simp only [mapError_eq_ok_iff]

theorem exists_checkAll_iff :
    (∃ specifications, checkAll codes = .ok specifications) ↔
      ∀ code ∈ codes, ∃ checked, Registry.standard.check code = .ok checked := by
  rw [checkAll_eq_mapM, exists_mapM_eq_ok_iff]
  simp only [mapError_eq_ok_iff]

/-- The code that is complained about is the first that is not on offer. -/
theorem checkAll_eq_error_iff {code : String} {fault : SpecificationFault} :
    checkAll codes = .error (code, fault) ↔ ∃ before after, codes = before ++ code :: after ∧
      (∀ earlier ∈ before, ∃ checked, Registry.standard.check earlier = .ok checked) ∧
      Registry.standard.check code = .error fault := by
  rw [checkAll_eq_mapM, mapM_eq_error_iff]
  simp only [mapError_eq_ok_iff]
  constructor
  · rintro ⟨before, code', after, split, fine, faulty⟩
    cases found : Registry.standard.check code' with
    | ok checked => exact nomatch found ▸ faulty
    | error fault' =>
        rw [found] at faulty
        obtain ⟨rfl, rfl⟩ := Prod.mk.inj (Except.error.inj faulty)
        exact ⟨before, after, split, fine, found⟩
  · rintro ⟨before, after, split, fine, faulty⟩
    exact ⟨before, code, after, split, fine, by rw [faulty]; rfl⟩

/-- The key of a code is that of the specification it stands for. -/
theorem isKeyOf_of_checkAll {specifications : List CheckedSpecification}
    (checks : checkAll codes = .ok specifications) (closed : Bool) :
    List.Forall₂ (IsKeyOf closed) codes
      (specifications.map fun checked => .ofChecked checked closed) :=
  List.forall₂_map_right_iff.mpr <|
    (checkAll_eq_ok_iff.mp checks).imp fun _ checked accepted => ⟨checked, accepted, rfl⟩

/-- The results of all requests of a batch, each with its place, in some order. -/
structure IsJoined (keys : List GenerationKey) (c : Coordinator) (joined : List (Nat × Outcome)) :
    Prop where
  places : (joined.map Prod.fst).Perm (List.range keys.length)
  results : ∀ {place : Nat} {outcome : Outcome}, (place, outcome) ∈ joined →
    ∃ request ∈ c.requests, request.target = batchTarget place ∧
      request.state = .resolved outcome

/-- Results in the order of their places. -/
def inOrder (joined : List (Nat × Outcome)) : List (Nat × Outcome) :=
  joined.mergeSort fun a b => decide (a.1 ≤ b.1)

/-- The report on results that came in with their places. -/
def joinedReport (json closed : Bool) (codes : List String) (joined : List (Nat × Outcome)) :
    Report :=
  generationReport json closed
    ((inOrder joined).map fun entry => (codes.getD entry.1 "", entry.2))

/-- A report that the command can come to: the requests run side by side until each of them has
its result, and the results come in in any order. -/
inductive CanReport (json closed : Bool) (codes : List String) (answer : GenerationKey → CallResult)
    (capacity : Nat) (keys : List GenerationKey) : Report → Prop
  | intro {places : List Nat} {c : Coordinator} {joined : List (Nat × Outcome)}
      (proceeds : Proceeds (Answers answer) capacity keys places c)
      (finished : IsOver keys places c) (results : IsJoined keys c joined) :
      CanReport json closed codes answer capacity keys (joinedReport json closed codes joined)

/-- What the report on some codes is to consist of: the answer for the key of each. -/
def entries (answer : GenerationKey → CallResult) (codes : List String)
    (keys : List GenerationKey) : List (String × CallResult) :=
  codes.zip (keys.map answer)

/-- The report on these entries. -/
def answersReport (json closed : Bool) (answer : GenerationKey → CallResult) (codes : List String)
    (keys : List GenerationKey) : Report :=
  generationReport json closed
    ((entries answer codes keys).map fun entry => (entry.1, .ofResult entry.2))

section Joined

variable {answer : GenerationKey → CallResult} {capacity : Nat} {keys : List GenerationKey}
  {places : List Nat} {c : Coordinator} {joined : List (Nat × Outcome)}

/-- When a batch is over, the results of all requests can come in. -/
theorem exists_isJoined (proceeds : Proceeds (Answers answer) capacity keys places c)
    (finished : IsOver keys places c) : ∃ joined, IsJoined keys c joined := by
  refine ⟨keys.zipIdx.map fun entry => (entry.2, .ofResult (answer entry.1)), ?_, ?_⟩
  · have in_order : (keys.zipIdx.map fun entry => entry.2) = List.range keys.length := by
      rw [List.range_eq_range', ← List.zipIdx_map_snd]
    rw [List.map_map, ← in_order]
    rfl
  · intro place outcome mem
    obtain ⟨⟨key, place'⟩, there, same⟩ := List.mem_map.mp mem
    obtain ⟨rfl, rfl⟩ := Prod.mk.inj same
    have here : keys[place']? = some key := List.mem_zipIdx_iff_getElem?.mp there
    obtain ⟨number, request, asked, target, key_here⟩ :=
      proceeds.placed.request_of_place (finished.entered _ (List.getElem?_eq_some_iff.mp here).1)
    obtain rfl := Option.some.inj (here.symm.trans key_here)
    have mem := List.mem_of_getElem? asked
    exact ⟨request, mem, target, proceeds.answered finished mem⟩

/-- A result is the answer for the key of its place. -/
theorem IsJoined.result (results : IsJoined keys c joined)
    (proceeds : Proceeds (Answers answer) capacity keys places c) (finished : IsOver keys places c)
    {place : Nat} {outcome : Outcome} (mem : (place, outcome) ∈ joined) :
    ∃ key, keys[place]? = some key ∧ outcome = .ofResult (answer key) := by
  obtain ⟨request, there, target, resolved⟩ := results.results mem
  obtain ⟨number, asked⟩ := List.mem_iff_getElem?.mp there
  obtain ⟨place', -, target', key⟩ := proceeds.placed.place_of_request asked
  obtain rfl := batchTarget_inj.mp (target.symm.trans target')
  have answered := proceeds.answered finished there
  exact ⟨request.key, key, RequestState.resolved.inj (resolved.symm.trans answered)⟩

/-- Sorted by their places, the results stand at these places. -/
theorem IsJoined.places_inOrder (results : IsJoined keys c joined) :
    (inOrder joined).map Prod.fst = List.range keys.length := by
  refine List.Perm.eq_of_pairwise (fun a b _ _ => Nat.le_antisymm) ?_ List.pairwise_le_range ?_
  · rw [List.pairwise_map]
    refine (List.pairwise_mergeSort ?_ ?_ joined).imp of_decide_eq_true
    · intro a b c first second
      simp only [decide_eq_true_eq] at first second ⊢
      exact Nat.le_trans first second
    · intro a b
      simpa using Nat.le_total a.1 b.1
  · exact ((List.mergeSort_perm _ _).map _).trans results.places

/-- Whatever came first, the report is on the answers for the keys of the codes. -/
theorem IsJoined.report_eq (results : IsJoined keys c joined)
    (proceeds : Proceeds (Answers answer) capacity keys places c) (finished : IsOver keys places c)
    (counted : codes.length = keys.length) :
    joinedReport json closed codes joined = answersReport json closed answer codes keys := by
  rw [joinedReport, answersReport]
  congr 1
  refine List.ext_getElem? fun number => ?_
  have place := congrArg (·[number]?) results.places_inOrder
  simp only [List.getElem?_map] at place ⊢
  cases result : (inOrder joined)[number]? with
  | none =>
      have past : keys.length ≤ number := by simpa [result] using place
      simp [entries, counted, past]
  | some entry =>
      obtain ⟨place', outcome⟩ := entry
      have mem : (place', outcome) ∈ joined := List.mem_mergeSort.mp (List.mem_of_getElem? result)
      obtain ⟨key, here, rfl⟩ := results.result proceeds finished mem
      rw [result] at place
      obtain ⟨below, same⟩ := List.getElem?_eq_some_iff.mp place.symm
      obtain rfl : number = place' := by simpa using same
      rw [List.length_range, ← counted] at below
      have entry : (entries answer codes keys)[number]? = some (codes[number], answer key) := by
        refine List.getElem?_zip_eq_some.mpr ⟨List.getElem?_eq_getElem below, ?_⟩
        rw [List.getElem?_map, here]
        rfl
      simp [entry, List.getD_eq_getElem?_getD, List.getElem?_eq_getElem below]

/-- A command can come to the report on the answers. -/
theorem canReport_answers {services : Services σ}
    (steady : ∀ key world, (services.generate key world).1 = answer key) (capacity : Nat)
    (world : σ) (counted : codes.length = keys.length) :
    CanReport json closed codes answer capacity keys
      (answersReport json closed answer codes keys) := by
  have answers : ∀ key world, Answers answer key (services.generate key world).1 := steady
  obtain ⟨proceeds, finished⟩ := Proceeds.isOver_runBatch answers capacity keys world
  obtain ⟨joined, results⟩ := exists_isJoined proceeds finished
  rw [← results.report_eq proceeds finished counted]
  exact .intro proceeds finished results

theorem isFailure_ofResult {result : CallResult} :
    isFailure (.ofResult result) = true ↔ ∃ fault, result = .error fault := by
  cases result <;> simp [Outcome.ofResult, isFailure]

theorem mem_results_iff (counted : codes.length = keys.length) {result : CallResult} :
    (∃ entry ∈ entries answer codes keys, entry.2 = result) ↔
      ∃ key ∈ keys, answer key = result := by
  have results : (entries answer codes keys).map Prod.snd = keys.map answer :=
    List.map_snd_zip (by simp [counted])
  rw [← List.mem_map, results, List.mem_map]

/-- The exit status tells whether all models were generated. -/
theorem exit_answersReport (counted : codes.length = keys.length) :
    let exit := (answersReport json closed answer codes keys).exit
    (exit = 1 ↔ ∃ key ∈ keys, ∃ fault, answer key = .error fault) ∧
      (exit = 0 ↔ ∀ key ∈ keys, ∃ artifacts, answer key = .ok artifacts) := by
  have failed : (∃ key ∈ keys, ∃ fault, answer key = .error fault) ↔
      (((entries answer codes keys).map fun entry => (entry.1, Outcome.ofResult entry.2)).any
        fun entry => isFailure entry.2) = true := by
    simp only [List.any_map, List.any_eq_true, Function.comp_apply, isFailure_ofResult]
    constructor
    · rintro ⟨key, mem, fault, same⟩
      obtain ⟨entry, there, found⟩ := (mem_results_iff counted).mpr ⟨key, mem, same⟩
      exact ⟨entry, there, fault, found⟩
    · rintro ⟨entry, there, fault, found⟩
      obtain ⟨key, mem, same⟩ := (mem_results_iff counted).mp ⟨entry, there, found⟩
      exact ⟨key, mem, fault, same⟩
  have fine : (∀ key ∈ keys, ∃ artifacts, answer key = .ok artifacts) ↔
      ¬∃ key ∈ keys, ∃ fault, answer key = .error fault := by
    constructor
    · rintro ready ⟨key, mem, fault, failed⟩
      obtain ⟨artifacts, ok⟩ := ready key mem
      exact nomatch ok.symm.trans failed
    · intro none key mem
      cases answered : answer key with
      | ok artifacts => exact ⟨artifacts, rfl⟩
      | error fault => exact absurd ⟨key, mem, fault, answered⟩ none
  rw [fine, failed, answersReport, generationReport]
  cases ((entries answer codes keys).map fun entry => (entry.1, Outcome.ofResult entry.2)).any
    fun entry => isFailure entry.2 <;> simp

end Joined

/-- A command with all codes on offer comes to the report on the answers for their keys. -/
theorem runGenerate_of_checkAll {workshop : Workshop σ} {config : Config}
    {configurator : Configurator σ} {answer : GenerationKey → CallResult}
    {specifications : List CheckedSpecification} (loaded : workshop.loaded = .ok config)
    (checks : checkAll codes = .ok specifications)
    (connected : workshop.connect config = .ok configurator)
    (steady : ∀ key world, (configurator.services.generate key world).1 = answer key)
    (world : σ) :
    (runGenerate json codes closed workshop world).1 = answersReport json closed answer codes
      (specifications.map fun checked => .ofChecked checked closed) := by
  have answers : ∀ key world, Answers answer key (configurator.services.generate key world).1 :=
    steady
  obtain ⟨proceeds, finished⟩ := Proceeds.isOver_runBatch answers
    config.generation.cacheCapacity.toNat
    (specifications.map fun checked => .ofChecked checked closed) world
  simp only [runGenerate, loaded, checks, connected]
  rw [proceeds.outcomes_eq finished, answersReport, entries,
    ← Function.comp_def Outcome.ofResult answer, ← List.map_map, List.zip_map_right]
  rfl

end Joinery.Command
