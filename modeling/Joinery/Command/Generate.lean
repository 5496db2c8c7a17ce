import Joinery.Command.Workshop
import Joinery.Preview.Batch

/-!
# Generating models

The codes of one command are a batch of previews. All codes are checked before
any model is asked for; the report has one entry for each code, in their order.
-/

namespace Joinery.Command

variable {σ : Type}

/-- Checks codes, up to the first that is not on offer. -/
def checkAll : List String → Except (String × SpecificationFault) (List CheckedSpecification)
  | [] => .ok []
  | code :: rest =>
    match Registry.standard.check code with
    | .error fault => .error (code, fault)
    | .ok checked =>
      match checkAll rest with
      | .error fault => .error fault
      | .ok others => .ok (checked :: others)

/-- Whether a generation failed. -/
def isFailure : Preview.Outcome → Bool
  | .failed _ => true
  | _ => false

/-- The text on the outcome for a code. -/
def outcomeText : String × Preview.Outcome → String
  | (code, .ready artifacts) => Rendering.artifacts code artifacts
  | (_, .superseded) => ""
  | (code, .failed fault) => s!"{code}\n  failed: {fault.message}\n"

/-- The document of the outcome for a code. -/
def outcomeJson (closed : Bool) : String × Preview.Outcome → Json
  | (code, outcome) =>
    let result :=
      match outcome with
      | .ready artifacts => ("artifacts", artifacts.toJson)
      | .superseded => ("superseded", .bool true)
      | .failed fault => ("error", .str fault.message)
    (Json.obj [("code", .str code), ("closed", .bool closed), result]).sorted

/-- The report on the outcomes for codes. -/
def generationReport (json closed : Bool) (results : List (String × Preview.Outcome)) : Report :=
  let output :=
    if json then Report.document (.arr (results.map (outcomeJson closed)))
    else Rendering.concat (results.map outcomeText)
  ⟨if results.any fun result => isFailure result.2 then 1 else 0, output, ""⟩

/-- Has the models of codes generated. All codes are checked before the services
are asked for anything. -/
def runGenerate (json : Bool) (codes : List String) (closed : Bool) (workshop : Workshop σ)
    (world : σ) : Report × σ :=
  match workshop.loaded with
  | .error fault => (notLoaded fault, world)
  | .ok config =>
    match checkAll codes with
    | .error (code, fault) => (.notOnOffer json code fault, world)
    | .ok specifications =>
      match workshop.connect config with
      | .error fault => (.failure fault.message, world)
      | .ok configurator =>
        let keys := specifications.map fun checked => GenerationKey.ofChecked checked closed
        let capacity := config.generation.cacheCapacity.toNat
        let (c, world) := Preview.Coordinator.runBatch configurator.services capacity keys world
        (generationReport json closed (codes.zip c.outcomes), world)

end Joinery.Command
