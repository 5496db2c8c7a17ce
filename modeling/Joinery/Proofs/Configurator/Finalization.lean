import Joinery.Proofs.Configurator.Data
import Joinery.Proofs.Validation.RoundTrip

/-!
# What finalizing asks of the services

The services are watched: each call they receive is recorded, which changes nothing else.
Main statement: a code that cannot be quoted reaches no service; any other has its model
generated once and its design stored once, whether or not there is a model, and only the
store decides whether that succeeds. What is stored describes what is returned, all amounts
included, and its code is quoted as before.
-/

namespace Joinery

/-- A call that reaches a service. -/
inductive ServiceCall where
  | generate (key : GenerationKey)
  | create (design : Design)
  | delete (id : String)

/-- The services with a record of the calls that they receive, in order. -/
def Services.recorded {σ : Type} (services : Services σ) : Services (σ × List ServiceCall) where
  generate key world :=
    let answer := services.generate key world.1
    (answer.1, answer.2, world.2 ++ [.generate key])
  create design world :=
    let answer := services.create design world.1
    (answer.1, answer.2, world.2 ++ [.create design])
  delete id world :=
    let answer := services.delete id world.1
    (answer.1, answer.2, world.2 ++ [.delete id])

/-- The configurator with a record of what it asks. -/
def Configurator.recorded {σ : Type} (configurator : Configurator σ) :
    Configurator (σ × List ServiceCall) :=
  ⟨configurator.prices, configurator.services.recorded⟩

namespace PriceList

variable {prices : PriceList} {code : String} {request : QuoteRequest} {quoted : Quoted}

theorem checked_of_quoteChecked {checked : CheckedSpecification}
    (priced : prices.quoteChecked checked request = .ok quoted) : quoted.checked = checked := by
  rw [quoteChecked] at priced
  split at priced
  · cases priced
  split at priced
  · cases priced
  split at priced
  · cases priced
  cases priced
  rfl

/-- A code is quoted just where it is accepted and what it describes is priced. -/
theorem quote_eq_ok_iff :
    prices.quote code request = .ok quoted ↔
      Registry.standard.check code = .ok quoted.checked ∧
        prices.quoteChecked quoted.checked request = .ok quoted := by
  rw [quote]
  cases accepted : Registry.standard.check code with
  | error fault => simp
  | ok checked =>
      constructor
      · intro priced
        cases result : prices.quoteChecked checked request with
        | error fault => simp [result, Except.mapError] at priced
        | ok quoted' =>
            obtain rfl : quoted' = quoted := by simpa [result, Except.mapError] using priced
            rw [checked_of_quoteChecked result]
            exact ⟨rfl, result⟩
      · rintro ⟨same, priced⟩
        cases same
        simp [priced, Except.mapError]

/-- The canonical code of what was quoted is quoted alike. -/
theorem quote_canonicalCode (priced : prices.quote code request = .ok quoted) :
    prices.quote quoted.checked.canonicalCode request = .ok quoted := by
  rw [quote_eq_ok_iff] at priced ⊢
  obtain ⟨accepted, result⟩ := priced
  have admitted := (Registry.check_eq_ok_iff.mp accepted).2
  exact ⟨Registry.check_canonicalCode_of_standard (Registry.validate_eq_ok_iff.mpr ⟨admitted, rfl⟩),
    result⟩

end PriceList

/-- A design describes a quote and what came of its model. -/
structure Design.Describes (design : Design) (quoted : Quoted) (closed : Bool)
    (generation : Except ServiceFault Artifacts) : Prop where
  prompt : design.prompt = quoted.checked.canonicalCode
  price : design.price = quoted.quote.totalPrice
  ready : ∀ artifacts, generation = .ok artifacts →
    design.glbUrl = artifacts.glbUrl ∧ design.dxfUrl = artifacts.dxfUrl
  unavailable : ∀ fault, generation = .error fault → design.glbUrl = "" ∧ design.dxfUrl = none
  data : quoted.Documents closed generation design.data

theorem describes_designOf (name : String) (quoted : Quoted) (closed : Bool)
    (generation : Except ServiceFault Artifacts) (now : Timestamp) :
    (designOf name quoted closed (.ofResult generation) now).Describes quoted closed
      generation where
  prompt := rfl
  price := rfl
  ready := by
    rintro artifacts rfl
    exact ⟨rfl, rfl⟩
  unavailable := by
    rintro fault rfl
    exact ⟨rfl, rfl⟩
  data := documents_designData quoted closed generation

namespace Configurator

variable {σ : Type} (configurator : Configurator σ) {name code : String} {request : QuoteRequest}
  {closed : Bool} {now : Timestamp} {world : σ}

theorem finalize_of_error {fault : ServiceFault}
    (refused : configurator.prices.quote code request = .error fault) :
    configurator.finalize name code request closed now world = (.error fault, world) := by
  rw [finalize, refused]

theorem finalize_of_ok {quoted : Quoted}
    (priced : configurator.prices.quote code request = .ok quoted) :
    configurator.finalize name code request closed now world =
      let generation := configurator.services.generate (.ofChecked quoted.checked closed) world
      let creation := configurator.services.create
        (designOf name quoted closed (.ofResult generation.1) now) generation.2
      (creation.1.map fun stored => ⟨stored, quoted, .ofResult generation.1⟩, creation.2) := by
  rw [finalize, priced]

/-- The record tells what happens and has no part in it. -/
theorem finalize_eq_recorded (log : List ServiceCall) :
    configurator.finalize name code request closed now world =
      let run := configurator.recorded.finalize name code request closed now (world, log)
      (run.1, run.2.1) := by
  cases priced : configurator.prices.quote code request with
  | error fault => rw [finalize_of_error _ priced, finalize_of_error configurator.recorded priced]
  | ok quoted =>
      rw [finalize_of_ok _ priced, finalize_of_ok configurator.recorded priced]
      rfl

/-- What finalizing does. A code that cannot be quoted reaches no service. Any other has its
model generated once and then its design stored once, whatever comes of the model, and
finalizing succeeds just where storing does. The design describes what is returned with it,
and its code is quoted as before. -/
theorem finalize_course (name code : String) (request : QuoteRequest) (closed : Bool)
    (now : Timestamp) (world : σ) :
    let run := configurator.recorded.finalize name code request closed now (world, [])
    configurator.finalize name code request closed now world = (run.1, run.2.1) ∧
    (∀ fault, configurator.prices.quote code request = .error fault →
      run = (.error fault, world, [])) ∧
    ∀ quoted, configurator.prices.quote code request = .ok quoted →
      let key := GenerationKey.ofChecked quoted.checked closed
      let generation := configurator.services.generate key world
      ∃ design,
        let creation := configurator.services.create design generation.2
        run.2 = (creation.2, [.generate key, .create design]) ∧
        (∀ fault, run.1 = .error fault ↔ creation.1 = .error fault) ∧
        (∀ finalized, run.1 = .ok finalized ↔ ∃ stored, creation.1 = .ok stored ∧
          finalized = ⟨stored, quoted, .ofResult generation.1⟩) ∧
        design.Describes quoted closed generation.1 ∧
        configurator.prices.quote design.prompt request = .ok quoted := by
  intro run
  refine ⟨finalize_eq_recorded configurator [],
    fun fault refused => finalize_of_error configurator.recorded refused, ?_⟩
  intro quoted priced key generation
  let design := designOf name quoted closed (.ofResult generation.1) now
  refine ⟨design, ?_⟩
  intro creation
  have course : run = (creation.1.map fun stored => ⟨stored, quoted, .ofResult generation.1⟩,
      creation.2, [.generate key, .create design]) :=
    finalize_of_ok configurator.recorded priced
  refine ⟨by rw [course], ?_, ?_, describes_designOf .., PriceList.quote_canonicalCode priced⟩
  · intro fault
    rw [course]
    cases creation.1 <;> simp [Except.map]
  · intro finalized
    rw [course]
    cases creation.1 <;> simp [Except.map, eq_comm]

/-- A set of shelves in oak is stored although its model cannot be generated; nothing is asked for
a code that cannot be read. -/
theorem finalize_course_without_model :
    let services : Services Unit := ⟨fun _ _ => (.error (.timeout 120), ()),
      fun design _ => (.ok ⟨"1", design⟩, ()), fun _ _ => (.ok (), ())⟩
    let request : QuoteRequest := ⟨some "oak", [("drawer", 2)], none⟩
    let now : Timestamp := ⟨⟨2025, 1, 1⟩, 0, 0, 0⟩
    ∃ prices, Config.standard.priceList = .ok prices ∧
      let finalize (code : String) :=
        (Configurator.mk prices services).recorded.finalize "Hall" code request false now ((), [])
      (∃ fault, prices.quote "M9" request = .error fault ∧
        finalize "M9" = (.error fault, (), [])) ∧
      ∃ quoted design, prices.quote "M1(2000,500,1000)b" request = .ok quoted ∧
        (finalize "M1(2000,500,1000)b").2.2 =
          [.generate (.ofChecked quoted.checked false), .create design] ∧
        design.glbUrl = "" ∧ design.price = quoted.quote.totalPrice ∧
        (finalize "M1(2000,500,1000)b").1 =
          .ok ⟨⟨"1", design⟩, quoted, .unavailable (ServiceFault.timeout 120).message⟩ := by
  intro services request now
  have offered : (Config.standard.priceList.bind fun prices =>
      prices.quote "M1(2000,500,1000)b" request).isOk = true := by
    decide +kernel
  obtain ⟨prices, listed, quoted, priced⟩ : ∃ prices, Config.standard.priceList = .ok prices ∧
      ∃ quoted, prices.quote "M1(2000,500,1000)b" request = .ok quoted := by
    cases listed : Config.standard.priceList with
    | error fault =>
        rw [listed] at offered
        cases offered
    | ok prices =>
        rw [listed, Except.bind] at offered
        cases priced : prices.quote "M1(2000,500,1000)b" request with
        | error fault =>
            rw [priced] at offered
            cases offered
        | ok quoted => exact ⟨prices, rfl, quoted, priced⟩
  obtain ⟨fault, refused⟩ : ∃ fault, prices.quote "M9" request = .error fault := by
    have faulty : Registry.standard.check "M9" = .error (.malformed ⟨2, .expectedOpenParen⟩) := by
      decide +kernel
    exact ⟨_, by rw [PriceList.quote, faulty]⟩
  refine ⟨prices, listed, ⟨fault, refused, ?_⟩, quoted, ?_⟩
  · obtain ⟨-, none_asked, -⟩ :=
      finalize_course ⟨prices, services⟩ "Hall" "M9" request false now ()
    exact none_asked fault refused
  · obtain ⟨-, -, asked⟩ := finalize_course ⟨prices, services⟩ "Hall" "M1(2000,500,1000)b" request
      false now ()
    obtain ⟨design, calls, -, finalized, describes, -⟩ := asked quoted priced
    refine ⟨design, priced, congrArg Prod.snd calls, (describes.unavailable _ rfl).1,
      describes.price, (finalized _).mpr ⟨_, rfl, rfl⟩⟩

end Configurator

end Joinery
