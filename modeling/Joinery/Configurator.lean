import Joinery.Json.Documents
import Joinery.Service

/-!
# From a code to a stored design

A quote needs a code and the price list; nothing else is asked. Finalizing makes
a quote, has the model generated and stores the design. A model that cannot be
generated is left out of the design and does not stop it; everything else that
fails ends the work where it fails.
-/

namespace Joinery

/-- What a customer chooses; what is left open takes the usual value. -/
structure QuoteRequest where
  tier : Option String
  picks : List (String × UInt32)
  policy : Option HeightPolicy
deriving DecidableEq

/-- A checked specification with its price and what was chosen. -/
structure Quoted where
  checked : CheckedSpecification
  tier : String
  selection : Selection
  quote : Quote
deriving DecidableEq

/-- What became of the model. -/
inductive ArtifactStatus where
  | ready (artifacts : Artifacts)
  | unavailable (reason : String)
deriving DecidableEq

namespace ArtifactStatus

/-- The artifacts, if there are any. -/
def artifacts? : ArtifactStatus → Option Artifacts
  | ready artifacts => some artifacts
  | unavailable _ => none

/-- What a generation comes to. -/
def ofResult : Except ServiceFault Artifacts → ArtifactStatus
  | .ok artifacts => ready artifacts
  | .error fault => unavailable fault.message

/-- The address of the model, or nothing. -/
def glbUrl (status : ArtifactStatus) : String := (status.artifacts?.map Artifacts.glbUrl).getD ""

/-- The address of the cutting plan, if there is one. -/
def dxfUrl (status : ArtifactStatus) : Option String := status.artifacts?.bind Artifacts.dxfUrl

/-- The document of a status. -/
def toJson : ArtifactStatus → Json
  | ready artifacts =>
    .obj [("status", .str "ready"), ("glb_url", .str artifacts.glbUrl),
      ("dxf_url", Json.optionalStr artifacts.dxfUrl)]
  | unavailable reason => .obj [("status", .str "unavailable"), ("reason", .str reason)]

end ArtifactStatus

/-- A stored design, its price and what became of its model. -/
structure Finalized where
  stored : StoredDesign
  quoted : Quoted
  artifacts : ArtifactStatus

namespace PriceList

/-- Prices a checked specification: tier, supplements, amounts. -/
def quoteChecked (prices : PriceList) (checked : CheckedSpecification) (request : QuoteRequest) :
    Except PricingFault Quoted :=
  match prices.tiers.find (request.tier.getD prices.defaults.tier) with
  | .error fault => .error fault
  | .ok tier =>
    match prices.supplements.selection request.picks with
    | .error fault => .error fault
    | .ok selection =>
      match checked.quote tier selection (request.policy.getD prices.defaults.heightPolicy) with
      | .error fault => .error fault
      | .ok quote => .ok ⟨checked, tier.name, selection, quote⟩

/-- Checks and prices a code. -/
def quote (prices : PriceList) (code : String) (request : QuoteRequest) :
    Except ServiceFault Quoted :=
  match Registry.standard.check code with
  | .error fault => .error (.specification fault)
  | .ok checked => (prices.quoteChecked checked request).mapError .pricing

end PriceList

/-- The document of a quote with what it is for. -/
def Quoted.toJson (quoted : Quoted) : Json :=
  .obj [("spec", quoted.checked.toJson), ("tier", .str quoted.tier),
    ("supplements", quoted.selection.toJson), ("quote", quoted.quote.toJson)]

/-- The data of a design: everything that its price and model come from. -/
def designData (quoted : Quoted) (closed : Bool) (status : ArtifactStatus) : Json :=
  (Json.obj [("specification", quoted.checked.toJson), ("tier", .str quoted.tier),
    ("supplements", quoted.selection.toJson), ("quote", quoted.quote.toJson),
    ("closed", .bool closed), ("artifacts", status.toJson)]).sorted

/-- The design of a quote and its model. -/
def designOf (name : String) (quoted : Quoted) (closed : Bool) (status : ArtifactStatus)
    (now : Timestamp) : Design where
  name := name
  prompt := quoted.checked.canonicalCode
  data := designData quoted closed status
  price := quoted.quote.totalPrice
  glbUrl := status.glbUrl
  dxfUrl := status.dxfUrl
  thumbnailUrl := none
  createdAt := now

/-- A price list and the services behind it. -/
structure Configurator (σ : Type) where
  prices : PriceList
  services : Services σ

namespace Configurator

variable {σ : Type}

/-- Checks a code and has its model generated. -/
def generate (configurator : Configurator σ) (code : String) (closed : Bool) (world : σ) :
    Except ServiceFault Artifacts × σ :=
  match Registry.standard.check code with
  | .error fault => (.error (.specification fault), world)
  | .ok checked => configurator.services.generate (.ofChecked checked closed) world

/-- Prices a code, has its model generated and stores the design. -/
def finalize (configurator : Configurator σ) (name code : String) (request : QuoteRequest)
    (closed : Bool) (now : Timestamp) (world : σ) : Except ServiceFault Finalized × σ :=
  match configurator.prices.quote code request with
  | .error fault => (.error fault, world)
  | .ok quoted =>
    let generation := configurator.services.generate (.ofChecked quoted.checked closed) world
    let status := ArtifactStatus.ofResult generation.1
    let stored :=
      configurator.services.create (designOf name quoted closed status now) generation.2
    (stored.1.map fun stored => ⟨stored, quoted, status⟩, stored.2)

/-- Removes a stored design. -/
def delete (configurator : Configurator σ) (id : String) (world : σ) :
    Except ServiceFault Unit × σ :=
  configurator.services.delete id world

end Configurator

end Joinery
