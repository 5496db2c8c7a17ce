import Joinery.Command.Run
import Joinery.Proofs.Command.Generation
import Joinery.Proofs.Config.Usability
import Joinery.Proofs.Configurator.Finalization
import Joinery.Proofs.Service.Requests

/-!
# What the exit status tells

A command that works on codes can fail in its configuration, at a code, at a price, at a
service. Main statement: the status tells which of these was met. It is 1 for a configuration
that does not load, whatever the codes; 2 just where a code is not on offer, and then no
service is asked; 1 for a price or a model that is missing or a design that is not stored; and
0 otherwise.
-/

namespace Joinery

/-- The exit status tells whether something was refused, or failed, or neither. -/
structure Report.Tells (report : Report) (refused failed : Prop) : Prop where
  invalid : report.exit = 2 ↔ refused
  failure : report.exit = 1 ↔ ¬refused ∧ failed
  success : report.exit = 0 ↔ ¬refused ∧ ¬failed

namespace Report

variable {report : Report} {refused failed : Prop}

theorem tells_of_refused (exit : report.exit = 2) (cause : refused) :
    report.Tells refused failed := by
  constructor <;> simp [exit, cause]

theorem tells_of_failed (exit : report.exit = 1) (fine : ¬refused) (cause : failed) :
    report.Tells refused failed := by
  constructor <;> simp [exit, fine, cause]

theorem tells_of_fine (exit : report.exit = 0) (fine : ¬refused) (success : ¬failed) :
    report.Tells refused failed := by
  constructor <;> simp [exit, fine, success]

theorem Tells.congr {refused' failed' : Prop} (tells : report.Tells refused failed)
    (same : refused ↔ refused') (same' : failed ↔ failed') : report.Tells refused' failed' := by
  rw [← same, ← same']
  exact tells

/-- Only the fault of a code is reported with the status of a refusal. -/
theorem exit_onFault {json : Bool} {code context : String} {fault : ServiceFault}
    (other : ∀ refusal, fault ≠ .specification refusal) :
    (onFault json code context fault).exit = 1 := by
  cases fault with
  | specification refusal => exact absurd rfl (other refusal)
  | _ => rfl

end Report

/-- Storing a design never fails with the fault of a code. -/
def Services.StoresPlainly {σ : Type} (services : Services σ) : Prop :=
  ∀ design world refusal, (services.create design world).1 ≠ .error (.specification refusal)

theorem RemoteAccess.storesPlainly_services (access : RemoteAccess) (client : Client)
    (server : Server) : (access.services client server).StoresPlainly := by
  intro design world refusal failed
  exact access.isOfCall_of_create server world failed

namespace Command

/-- Some of the codes is not on offer. -/
def Refuses (codes : List String) : Prop :=
  ∃ code ∈ codes, ∃ fault, Registry.standard.check code = .error fault

theorem refuses_singleton {code : String} :
    Refuses [code] ↔ ∃ fault, Registry.standard.check code = .error fault := by
  simp [Refuses]

theorem not_refuses_iff {codes : List String} :
    ¬Refuses codes ↔ ∀ code ∈ codes, ∃ checked, Registry.standard.check code = .ok checked := by
  simp only [Refuses, not_exists, not_and]
  refine forall₂_congr fun code _ => ?_
  cases Registry.standard.check code <;> simp

theorem tells_runCheck (json : Bool) (code : String) :
    (runCheck json code).Tells (Refuses [code]) False := by
  rw [refuses_singleton, runCheck]
  cases checked : Registry.standard.check code with
  | error fault => exact Report.tells_of_refused rfl ⟨fault, rfl⟩
  | ok spec => exact Report.tells_of_fine rfl (by simp) id

section Quotes

variable {σ : Type} {json closed : Bool} {name code : String} {request : QuoteRequest}
  {configurator : Configurator σ} {now : Timestamp} {world : σ}

/-- A quote is refused with the fault of its code, or fails for another reason. -/
theorem quote_cases (prices : PriceList) (code : String) (request : QuoteRequest) :
    (∃ fault, Registry.standard.check code = .error fault ∧
        prices.quote code request = .error (.specification fault)) ∨
      (∃ checked, Registry.standard.check code = .ok checked) ∧
        ((∃ fault, prices.quote code request = .error (.pricing fault)) ∨
          ∃ quoted, prices.quote code request = .ok quoted) := by
  rw [PriceList.quote]
  cases Registry.standard.check code with
  | error fault => exact Or.inl ⟨fault, rfl, rfl⟩
  | ok checked =>
      refine Or.inr ⟨⟨checked, rfl⟩, ?_⟩
      cases result : prices.quoteChecked checked request with
      | error fault => exact Or.inl ⟨fault, by simp [result, Except.mapError]⟩
      | ok quoted => exact Or.inr ⟨quoted, by simp [result, Except.mapError]⟩

theorem tells_runQuote :
    (runQuote json code request configurator).Tells (Refuses [code])
      (∃ fault, configurator.prices.quote code request = .error fault) := by
  rw [refuses_singleton]
  rcases quote_cases configurator.prices code request with
    ⟨fault, refused, priced⟩ | ⟨⟨checked, accepted⟩, ⟨fault, priced⟩ | ⟨quoted, priced⟩⟩
  · rw [runQuote, priced]
    exact Report.tells_of_refused rfl ⟨fault, refused⟩
  · rw [runQuote, priced]
    exact Report.tells_of_failed rfl (by simp [accepted]) ⟨_, rfl⟩
  · rw [runQuote, priced]
    exact Report.tells_of_fine rfl (by simp [accepted]) (by simp)

/-- What comes of storing the design of a quote, after the generation of its model. -/
def stored (configurator : Configurator σ) (name : String) (quoted : Quoted) (closed : Bool)
    (now : Timestamp) (world : σ) : Except ServiceFault StoredDesign :=
  let generation := configurator.services.generate (.ofChecked quoted.checked closed) world
  (configurator.services.create (designOf name quoted closed (.ofResult generation.1) now)
    generation.2).1

/-- Finalizing fails if there is no quote, or the design is not stored, whatever has become of
its model. -/
def FinalizeFails (configurator : Configurator σ) (name code : String) (request : QuoteRequest)
    (closed : Bool) (now : Timestamp) (world : σ) : Prop :=
  (∃ fault, configurator.prices.quote code request = .error fault) ∨
    ∃ quoted fault, configurator.prices.quote code request = .ok quoted ∧
      stored configurator name quoted closed now world = .error fault

theorem finalize_eq_stored {quoted : Quoted}
    (priced : configurator.prices.quote code request = .ok quoted) :
    ∃ status, (configurator.finalize name code request closed now world).1 =
      (stored configurator name quoted closed now world).map fun design =>
        ⟨design, quoted, status⟩ :=
  ⟨_, congrArg Prod.fst (configurator.finalize_of_ok priced)⟩

/-- Finalizing meets the fault of a code nowhere but in the quote. -/
theorem tells_runFinalize (plain : configurator.services.StoresPlainly) :
    (runFinalize json name code request closed now configurator world).1.Tells (Refuses [code])
      (FinalizeFails configurator name code request closed now world) := by
  rw [refuses_singleton, runFinalize]
  rcases quote_cases configurator.prices code request with
    ⟨fault, refused, priced⟩ | ⟨⟨checked, accepted⟩, ⟨fault, priced⟩ | ⟨quoted, priced⟩⟩
  · rw [configurator.finalize_of_error priced]
    exact Report.tells_of_refused rfl ⟨fault, refused⟩
  · rw [configurator.finalize_of_error priced]
    exact Report.tells_of_failed rfl (by simp [accepted]) (Or.inl ⟨_, priced⟩)
  · obtain ⟨status, course⟩ :
        ∃ status, (configurator.finalize name code request closed now world).1 =
          (stored configurator name quoted closed now world).map fun design =>
            ⟨design, quoted, status⟩ := finalize_eq_stored priced
    simp only [course]
    cases result : stored configurator name quoted closed now world with
    | error fault =>
        have other : ∀ refusal, fault ≠ .specification refusal := by
          rintro refusal rfl
          exact plain _ _ refusal result
        exact Report.tells_of_failed (Report.exit_onFault other) (by simp [accepted])
          (Or.inr ⟨quoted, fault, priced, result⟩)
    | ok design =>
        refine Report.tells_of_fine rfl (by simp [accepted]) ?_
        rintro (⟨fault, unpriced⟩ | ⟨other, fault, priced', failed⟩)
        · exact nomatch priced.symm.trans unpriced
        · obtain rfl := Except.ok.inj (priced.symm.trans priced')
          exact nomatch result.symm.trans failed

/-- A code that is not on offer ends the finalizing before anything is asked for. -/
theorem runFinalize_of_refuses (refuses : Refuses [code]) :
    (runFinalize json name code request closed now configurator world).2 = world := by
  rw [refuses_singleton] at refuses
  obtain ⟨fault, refused⟩ := refuses
  rcases quote_cases configurator.prices code request with
    ⟨fault, -, priced⟩ | ⟨⟨checked, accepted⟩, -⟩
  · rw [runFinalize, configurator.finalize_of_error priced]
  · exact nomatch refused.symm.trans accepted

end Quotes

section Generation

open Preview

variable {json closed : Bool} {codes : List String} {capacity : Nat} {keys : List GenerationKey}
  {places : List Nat} {c : Coordinator} {joined : List (Nat × Outcome)}

/-- Batches that are under way, whatever the calls return. -/
abbrev Underway (capacity : Nat) (keys : List GenerationKey) :
    List Nat → Coordinator → Prop :=
  Proceeds (fun _ _ => True) capacity keys

/-- The generation for a place has come to a result: a call for the key of the place has
returned it, and the caller has got it. -/
def ComesTo (keys : List GenerationKey) (c : Coordinator) (place : Nat) (result : CallResult) :
    Prop :=
  ∃ request ∈ c.requests, request.target = batchTarget place ∧
    keys[place]? = some request.key ∧ request.state = .resolved (.ofResult result) ∧
      c.Returned request.key result

/-- The generation for some place has failed. -/
def GenerationFails (keys : List GenerationKey) (c : Coordinator) : Prop :=
  ∃ place fault, ComesTo keys c place (.error fault)

/-- In the end each request is that of a place, whose generation has come to a result. -/
theorem comesTo_of_mem (proceeds : Underway capacity keys places c)
    (finished : IsOver keys places c) {request : Request} (asked : request ∈ c.requests) :
    ∃ place result, ComesTo keys c place result ∧ request.target = batchTarget place ∧
      request.state = .resolved (.ofResult result) := by
  obtain ⟨number, here⟩ := List.mem_iff_getElem?.mp asked
  obtain ⟨place, -, target, key⟩ := proceeds.placed.place_of_request here
  obtain ⟨result, resolved, returned⟩ := proceeds.resolved finished asked
  exact ⟨place, result, ⟨request, asked, target, key, resolved, returned⟩, target, resolved⟩

/-- In the end the generation for each place has come to a result. -/
theorem exists_comesTo (proceeds : Underway capacity keys places c)
    (finished : IsOver keys places c) {place : Nat} (below : place < keys.length) :
    ∃ result, ComesTo keys c place result := by
  obtain ⟨number, request, here, target, -⟩ :=
    proceeds.placed.request_of_place (finished.entered place below)
  obtain ⟨place', result, comes, target', -⟩ :=
    comesTo_of_mem proceeds finished (List.mem_of_getElem? here)
  obtain rfl := batchTarget_inj.mp (target.symm.trans target')
  exact ⟨result, comes⟩

theorem isFailure_iff {outcome : Outcome} :
    isFailure outcome = true ↔ ∃ fault, outcome = .failed fault := by
  cases outcome <;> simp [isFailure]

/-- Some generation has failed just where some caller has been told so. -/
theorem generationFails_iff (proceeds : Underway capacity keys places c)
    (finished : IsOver keys places c) :
    GenerationFails keys c ↔ ∃ request ∈ c.requests, ∃ outcome,
      request.state = .resolved outcome ∧ isFailure outcome = true := by
  constructor
  · rintro ⟨place, fault, request, asked, -, -, resolved, -⟩
    exact ⟨request, asked, _, resolved, rfl⟩
  · rintro ⟨request, asked, outcome, resolved, failure⟩
    obtain ⟨fault, rfl⟩ := isFailure_iff.mp failure
    obtain ⟨place, result, comes, -, resolved'⟩ := comesTo_of_mem proceeds finished asked
    have same := RequestState.resolved.inj (resolved.symm.trans resolved')
    cases result with
    | ok artifacts => cases same
    | error fault' => exact ⟨place, fault', comes⟩

/-- The status of a report on generated models is that of a failure if one is among them. -/
theorem tells_generationReport {results : List (String × Outcome)} {failed : Prop}
    (same : (results.any fun result => isFailure result.2) = true ↔ failed)
    (offered : ¬Refuses codes) :
    (generationReport json closed results).Tells (Refuses codes) failed := by
  by_cases failure : (results.any fun result => isFailure result.2) = true
  · exact Report.tells_of_failed (if_pos failure) offered (same.mp failure)
  · exact Report.tells_of_fine (if_neg failure) offered fun failed => failure (same.mpr failed)

/-- The order of the results makes no difference to whether there is a failure. -/
theorem any_inOrder (joined : List (Nat × Outcome)) :
    (((inOrder joined).map fun entry => (codes.getD entry.1 "", entry.2)).any
        fun result => isFailure result.2) = joined.any fun entry => isFailure entry.2 := by
  rw [List.any_map]
  exact (List.mergeSort_perm _ _).any_eq

theorem any_joined_iff (proceeds : Underway capacity keys places c)
    (finished : IsOver keys places c) (results : IsJoined keys c joined) :
    (joined.any fun entry => isFailure entry.2) = true ↔ GenerationFails keys c := by
  rw [generationFails_iff proceeds finished, List.any_eq_true]
  constructor
  · rintro ⟨⟨place, outcome⟩, mem, failure⟩
    obtain ⟨request, asked, -, resolved⟩ := results.results mem
    exact ⟨request, asked, outcome, resolved, failure⟩
  · rintro ⟨request, asked, outcome, resolved, failure⟩
    obtain ⟨place, result, ⟨_, -, -, key, -⟩, target, -⟩ := comesTo_of_mem proceeds finished asked
    have below : place ∈ joined.map Prod.fst := by
      rw [results.places.mem_iff, List.mem_range]
      exact (List.getElem?_eq_some_iff.mp key).1
    obtain ⟨⟨place', outcome'⟩, mem, rfl⟩ := List.mem_map.mp below
    obtain ⟨request', asked', target', resolved'⟩ := results.results mem
    have same_target := target'.trans target.symm
    obtain rfl := List.inj_on_of_nodup_map proceeds.undisturbed.distinct asked' asked same_target
    obtain rfl := RequestState.resolved.inj (resolved.symm.trans resolved')
    exact ⟨_, mem, failure⟩

/-- What a command can report on generated models when nothing disturbs it, and what the
coordinator knows then. -/
inductive CanEnd (json closed : Bool) (codes : List String) (capacity : Nat)
    (keys : List GenerationKey) : Coordinator → Report → Prop
  | intro {places : List Nat} {c : Coordinator} {joined : List (Nat × Outcome)}
      (proceeds : Underway capacity keys places c) (finished : IsOver keys places c)
      (results : IsJoined keys c joined) :
      CanEnd json closed codes capacity keys c (joinedReport json closed codes joined)

theorem CanEnd.exists_comesTo {report : Report}
    (ends : CanEnd json closed codes capacity keys c report) :
    ∀ place < keys.length, ∃ result, ComesTo keys c place result := by
  obtain ⟨proceeds, finished, -⟩ := ends
  exact fun place below => Command.exists_comesTo proceeds finished below

theorem CanEnd.tells {report : Report} (ends : CanEnd json closed codes capacity keys c report)
    (offered : ¬Refuses codes) : report.Tells (Refuses codes) (GenerationFails keys c) := by
  obtain ⟨proceeds, finished, results⟩ := ends
  refine tells_generationReport ?_ offered
  rw [any_inOrder, any_joined_iff proceeds finished results]

/-- The results of a batch may come in as its requests came. -/
theorem isJoined_outcomes (proceeds : Underway capacity keys (List.range keys.length) c)
    (finished : IsOver keys (List.range keys.length) c) :
    IsJoined keys c (c.outcomes.zipIdx.map Prod.swap) where
  places := by
    have counted : c.outcomes.length = keys.length := by
      rw [Coordinator.outcomes, List.length_map, proceeds.placed.length_requests, List.length_range]
    rw [List.map_map, ← counted, List.range_eq_range', ← List.zipIdx_map_snd]
    exact List.Perm.refl _
  results := by
    intro place outcome mem
    obtain ⟨entry, there, same⟩ := List.mem_map.mp mem
    obtain ⟨rfl, rfl⟩ := Prod.mk.inj same
    have here := List.mem_zipIdx_iff_getElem?.mp there
    rw [Coordinator.outcomes, List.getElem?_map, Option.map_eq_some_iff] at here
    obtain ⟨request, asked, outcome⟩ := here
    obtain ⟨place, at_place, target, -⟩ := proceeds.placed.place_of_request asked
    obtain ⟨below, rfl⟩ := List.getElem?_eq_some_iff.mp at_place
    obtain ⟨result, resolved, -⟩ := proceeds.resolved finished (List.mem_of_getElem? asked)
    rw [resolved] at outcome
    exact ⟨request, List.mem_of_getElem? asked, by simpa using target, by rw [resolved, ← outcome]⟩

/-- Results that come in as the requests came are reported as they came. -/
theorem joinedReport_zipIdx {outcomes : List Outcome} (counted : codes.length = outcomes.length) :
    joinedReport json closed codes (outcomes.zipIdx.map Prod.swap) =
      generationReport json closed (codes.zip outcomes) := by
  have in_order : inOrder (outcomes.zipIdx.map Prod.swap) = outcomes.zipIdx.map Prod.swap := by
    refine List.mergeSort_of_pairwise ?_
    have ascending : ((outcomes.zipIdx.map Prod.swap).map Prod.fst).Pairwise (· ≤ ·) := by
      have places : (outcomes.zipIdx.map Prod.swap).map Prod.fst = outcomes.zipIdx.map Prod.snd :=
        List.map_map
      rw [places, List.zipIdx_map_snd]
      exact List.pairwise_le_range'
    exact (List.pairwise_map.mp ascending).imp decide_eq_true
  rw [joinedReport, in_order]
  congr 1
  refine List.ext_getElem? fun number => ?_
  rw [List.getElem?_map, List.getElem?_map, List.getElem?_zipIdx]
  cases here : outcomes[number]? with
  | none =>
      have past := List.getElem?_eq_none_iff.mp here
      simp [counted, past]
  | some outcome =>
      have below : number < codes.length := counted ▸ (List.getElem?_eq_some_iff.mp here).1
      refine (List.getElem?_zip_eq_some.mpr ⟨?_, here⟩).symm
      simp [List.getD_eq_getElem?_getD, List.getElem?_eq_getElem below]

/-- What a command reports when its calls return one after the other is possible. -/
theorem canEnd_runBatch {σ : Type} (services : Services σ) (capacity : Nat)
    (counted : codes.length = keys.length) (world : σ) :
    let c := (Coordinator.runBatch services capacity keys world).1
    CanEnd json closed codes capacity keys c
      (generationReport json closed (codes.zip c.outcomes)) := by
  intro c
  obtain ⟨proceeds, finished⟩ : Underway capacity keys _ c ∧ IsOver keys _ c :=
    Proceeds.isOver_runBatch (fun _ _ => trivial) capacity keys world
  have outcomes : codes.length = c.outcomes.length := by
    rw [counted, Coordinator.outcomes, List.length_map, proceeds.placed.length_requests,
      List.length_range]
  rw [← joinedReport_zipIdx outcomes]
  exact .intro proceeds finished (isJoined_outcomes proceeds finished)

end Generation

section Runs

variable {σ : Type} {workshop : Workshop σ} {config : Config} {configurator : Configurator σ}
  {json closed : Bool} {codes : List String} {world : σ}

theorem not_refuses_of_keys {keys : List GenerationKey}
    (keyed : List.Forall₂ (IsKeyOf closed) codes keys) : ¬Refuses codes := by
  rw [not_refuses_iff]
  induction keyed with
  | nil => simp
  | cons first _ ih =>
      obtain ⟨checked, accepted, -⟩ := first
      exact List.forall_mem_cons.mpr ⟨⟨checked, accepted⟩, ih⟩

/-- The keys of codes are those of their specifications. -/
theorem keys_unique {keys others : List GenerationKey}
    (offered : List.Forall₂ (IsKeyOf closed) codes keys)
    (offered' : List.Forall₂ (IsKeyOf closed) codes others) : keys = others := by
  refine List.right_unique_forall₂' ?_ offered offered'
  rintro code key other ⟨checked, accepted, rfl⟩ ⟨checked', accepted', rfl⟩
  rw [Except.ok.inj (accepted.symm.trans accepted')]

/-- A code that is not on offer ends the generation before anything is asked for. -/
theorem runGenerate_of_refuses (loaded : workshop.loaded = .ok config) (refuses : Refuses codes) :
    ∃ report, runGenerate json codes closed workshop world = (report, world) ∧ report.exit = 2 := by
  cases checks : checkAll codes with
  | error first =>
      refine ⟨.notOnOffer json first.1 first.2, ?_, rfl⟩
      simp only [runGenerate, loaded, checks]
  | ok specifications =>
      exact absurd refuses (not_refuses_iff.mpr (exists_checkAll_iff.mp ⟨_, checks⟩))

/-- What a command reports on codes that are all on offer is possible. -/
theorem canEnd_runGenerate (json : Bool) (loaded : workshop.loaded = .ok config)
    (connected : workshop.connect config = .ok configurator) {keys : List GenerationKey}
    (keyed : List.Forall₂ (IsKeyOf closed) codes keys) (world : σ) :
    let capacity := config.generation.cacheCapacity.toNat
    CanEnd json closed codes capacity keys
      (Preview.Coordinator.runBatch configurator.services capacity keys world).1
      (runGenerate json codes closed workshop world).1 := by
  intro capacity
  obtain ⟨specifications, checks⟩ :=
    exists_checkAll_iff.mpr (not_refuses_iff.mp (not_refuses_of_keys keyed))
  obtain rfl := keys_unique keyed (isKeyOf_of_checkAll checks closed)
  simp only [runGenerate, loaded, checks, connected]
  exact canEnd_runBatch configurator.services capacity keyed.length_eq world

/-- The generation for some of the codes fails, as a command has it done. -/
def BatchFails (config : Config) (configurator : Configurator σ) (codes : List String)
    (closed : Bool) (world : σ) : Prop :=
  ∃ keys, List.Forall₂ (IsKeyOf closed) codes keys ∧
    GenerationFails keys (Preview.Coordinator.runBatch configurator.services
      config.generation.cacheCapacity.toNat keys world).1

theorem tells_runGenerate (loaded : workshop.loaded = .ok config)
    (connected : workshop.connect config = .ok configurator) :
    (runGenerate json codes closed workshop world).1.Tells (Refuses codes)
        (BatchFails config configurator codes closed world) ∧
      (Refuses codes → (runGenerate json codes closed workshop world).2 = world) := by
  by_cases refuses : Refuses codes
  · obtain ⟨report, refused, exit⟩ :
        ∃ report, runGenerate json codes closed workshop world = (report, world) ∧
          report.exit = 2 := runGenerate_of_refuses loaded refuses
    rw [refused]
    exact ⟨Report.tells_of_refused exit refuses, fun _ => rfl⟩
  · obtain ⟨specifications, checks⟩ := exists_checkAll_iff.mpr (not_refuses_iff.mp refuses)
    have keyed := isKeyOf_of_checkAll checks closed
    have ends := canEnd_runGenerate json loaded connected keyed world
    refine ⟨(ends.tells refuses).congr Iff.rfl ?_, fun refuses' => absurd refuses' refuses⟩
    constructor
    · exact fun fails => ⟨_, keyed, fails⟩
    · rintro ⟨others, keyed', fails⟩
      exact keys_unique keyed' keyed ▸ fails

end Runs

end Command

namespace Command

/-- The codes that a command is to price, generate or store. -/
def ordered? : Command → Option (List String)
  | .quote code _ => some [code]
  | .generate codes _ => some codes
  | .finalize _ code _ _ => some [code]
  | _ => none

/-- What makes a command fail whose codes are all on offer. -/
def Fails {σ : Type} (config : Config) (configurator : Configurator σ) (now : Timestamp)
    (world : σ) : Command → Prop
  | .quote code request => ∃ fault, configurator.prices.quote code request = .error fault
  | .finalize name code request closed =>
      FinalizeFails configurator name code request closed now world
  | .generate codes closed => BatchFails config configurator codes closed world
  | _ => False

end Command

open Command

namespace Invocation

variable {σ : Type} {invocation : Invocation} {environment : Environment} {file : ConfigFile}
  {connect : Config → Except ServiceFault (Configurator σ)} {now : Timestamp} {world : σ}
  {codes : List String} {config : Config} {configurator : Configurator σ}

/-- Without a configuration the codes are not looked at. -/
theorem run_of_unloaded {fault : ServiceFault} (ordered : invocation.command.ordered? = some codes)
    (unloaded : Config.load file environment = .error fault) :
    invocation.run environment file connect now world = (.report (notLoaded fault), world) := by
  obtain ⟨command, json, path⟩ := invocation
  cases command with
  | quote | finalize => simp only [run, withConfigurator, unloaded]
  | generate => simp only [run, runGenerate, unloaded]
  | _ => cases ordered

/-- With a configuration that loads, the status tells what was met, and a refusal changes
nothing. -/
theorem run_of_loaded (ordered : invocation.command.ordered? = some codes)
    (loaded : Config.load file environment = .ok config)
    (connected : connect config = .ok configurator)
    (plain : configurator.services.StoresPlainly) :
    ∃ report,
      (invocation.run environment file connect now world).1 = .report report ∧
      report.Tells (Refuses codes) (invocation.command.Fails config configurator now world) ∧
      (Refuses codes → (invocation.run environment file connect now world).2 = world) := by
  obtain ⟨command, json, path⟩ := invocation
  cases command with
  | quote code request =>
      obtain rfl := Option.some.inj ordered
      simp only [run, withConfigurator, loaded, connected]
      exact ⟨_, rfl, tells_runQuote, fun _ => trivial⟩
  | finalize name code request closed =>
      obtain rfl := Option.some.inj ordered
      simp only [run, withConfigurator, loaded, connected]
      exact ⟨_, rfl, tells_runFinalize plain, runFinalize_of_refuses⟩
  | generate _ closed =>
      obtain rfl := Option.some.inj ordered
      simp only [run]
      exact ⟨_, rfl, tells_runGenerate loaded connected⟩
  | _ => cases ordered

end Invocation

/-- What the exit status tells. A check has status 2 if its code is not on offer and 0
otherwise. A command that prices, generates or stores has status 1 if the configuration does
not load, whatever its codes are. Otherwise it has status 2 just where one of its codes is not
on offer, and then no service is asked; status 1 just where there is no quote, where the design
is not stored, or where the generation of some model fails, as the command has it; and status 0
in all other cases. Models may be generated in any order and with any results: each generation
comes to a result, and the status is that of a failure if one of these is. -/
theorem exit_status (invocation : Invocation) (environment : Environment) (file : ConfigFile)
    (client : Client) (server : Server) (now : Timestamp) (history : History) :
    let loaded := Config.load file environment
    let ended := invocation.run environment file (Config.configurator client server) now history
    (∀ code, invocation.command = .check code →
      ∃ report, ended = (.report report, history) ∧ report.Tells (Refuses [code]) False) ∧
    ∀ codes, invocation.command.ordered? = some codes →
      (∀ fault, loaded = .error fault →
        ended = (.report (notLoaded fault), history) ∧ (notLoaded fault).exit = 1) ∧
      ∀ config, loaded = .ok config →
        ∃ configurator report, config.configurator client server = .ok configurator ∧
          ended.1 = .report report ∧
          report.Tells (Refuses codes) (invocation.command.Fails config configurator now history) ∧
          (Refuses codes → ended.2 = history) ∧
          ∀ closed keys, invocation.command = .generate codes closed →
            List.Forall₂ (IsKeyOf closed) codes keys →
              let configured := config.generation.cacheCapacity.toNat
              CanEnd invocation.json closed codes configured keys
                (Preview.Coordinator.runBatch configurator.services configured keys history).1
                report ∧
              ∀ capacity c other, CanEnd invocation.json closed codes capacity keys c other →
                (∀ place < keys.length, ∃ result, ComesTo keys c place result) ∧
                other.Tells (Refuses codes) (GenerationFails keys c) := by
  intro loaded ended
  refine ⟨fun code asked => ?_, fun codes ordered => ⟨fun fault unloaded => ?_, ?_⟩⟩
  · refine ⟨_, ?_, tells_runCheck invocation.json code⟩
    simp only [ended, Invocation.run, asked]
  · exact ⟨Invocation.run_of_unloaded ordered unloaded, rfl⟩
  · intro config ready
    obtain ⟨access, connected⟩ := Config.configurator_of_load ready client server
    obtain ⟨report, reported, tells, nothing⟩ :=
      Invocation.run_of_loaded ordered ready connected (access.storesPlainly_services client server)
    refine ⟨_, report, connected, reported, tells, nothing, fun closed keys asked keyed => ⟨?_, ?_⟩⟩
    · simp only [Invocation.run, asked] at reported
      obtain rfl := Ending.report.inj reported
      exact canEnd_runGenerate _ ready connected keyed history
    · intro capacity c other ends
      exact ⟨ends.exists_comesTo, ends.tells (not_refuses_of_keys keyed)⟩

/-- Without a network: a code that is not on offer is refused, unless the configuration cannot
be read, and for shelves that are on offer the generation comes to a result. -/
theorem exit_status_offline :
    let run (codes : List String) (file : ConfigFile) :=
      Invocation.run ⟨.generate codes false, false, none⟩ (fun _ => none) file
        (Config.configurator .standard fun _ => ⟨0, .lost, none⟩) ⟨⟨2025, 1, 1⟩, 0, 0, 0⟩ []
    (∃ report, run ["M9"] .missing = (.report report, []) ∧ report.exit = 2) ∧
    (∃ report, run ["M9"] .unreadable = (.report report, []) ∧ report.exit = 1) ∧
    ∃ report, (run ["M1(2000,500,1000)b"] .missing).1 = .report report ∧ report.exit ≠ 2 ∧
      ∃ c result, CanEnd false false ["M1(2000,500,1000)b"] 256 [⟨"M1(2000,500,1000)b", false⟩] c
          report ∧ ComesTo [⟨"M1(2000,500,1000)b", false⟩] c 0 result := by
  intro run
  have refuses : Refuses ["M9"] :=
    refuses_singleton.mpr ⟨.malformed ⟨2, .expectedOpenParen⟩, by decide +kernel⟩
  have keyed : List.Forall₂ (IsKeyOf false) ["M1(2000,500,1000)b"]
      [⟨"M1(2000,500,1000)b", false⟩] := by
    refine .cons (isKeyOf_of_reads ⟨"M1", [2000, 500, 1000], .ofList ['b']⟩ ?_ ?_) .nil <;>
      decide +kernel
  have law (codes : List String) (file : ConfigFile) :=
    (exit_status ⟨.generate codes false, false, none⟩ (fun _ => none) file .standard
      (fun _ => ⟨0, .lost, none⟩) ⟨⟨2025, 1, 1⟩, 0, 0, 0⟩ []).2 codes rfl
  refine ⟨?_, ?_, ?_⟩
  · obtain ⟨-, ready⟩ := law ["M9"] .missing
    obtain ⟨configurator, report, -, reported, tells, nothing, -⟩ := ready .standard rfl
    exact ⟨report, Prod.ext reported (nothing refuses), tells.invalid.mpr refuses⟩
  · obtain ⟨unready, -⟩ := law ["M9"] .unreadable
    obtain ⟨reported, exit⟩ := unready _ rfl
    exact ⟨_, reported, exit⟩
  · obtain ⟨-, ready⟩ := law ["M1(2000,500,1000)b"] .missing
    obtain ⟨configurator, report, -, reported, tells, -, batch⟩ := ready .standard rfl
    obtain ⟨ends, others⟩ := batch false _ rfl keyed
    obtain ⟨result, comes⟩ := (others _ _ _ ends).1 0 (by decide)
    refine ⟨report, reported, ?_, _, result, ends, comes⟩
    exact fun exit => not_refuses_of_keys keyed (tells.invalid.mp exit)

end Joinery
