import Joinery.Command.Arguments
import Joinery.Command.Generate
import Joinery.Config.File

/-!
# Running commands

Each command comes to a report. Only `init-config` changes a file; whether that
went well is part of its report.
-/

namespace Joinery

namespace Command

variable {σ : Type}

/-- The presets on offer. -/
def runPresets (json : Bool) : Report :=
  let registry := Registry.standard
  Report.shown json (.arr (registry.toList.map Preset.toJson)) (Rendering.presets registry)

/-- The price lists of a configuration as a document. -/
def catalogJson (config : Config) (prices : PriceList) : Json :=
  (Json.obj [("default_tier", .str prices.defaults.tier),
    ("height_policy", .str prices.defaults.heightPolicy.text),
    ("tiers", .arr (config.tiers.map TierListing.toJson)),
    ("supplements", .arr (prices.supplements.toList.map Supplement.toJson))]).sorted

/-- The tiers and supplements on offer. -/
def runCatalog (json : Bool) (loaded : Except ServiceFault Config) : Report :=
  match loaded with
  | .error fault => notLoaded fault
  | .ok config =>
    match config.priceList with
    | .error fault => .failure fault.message
    | .ok prices => Report.shown json (catalogJson config prices) (Rendering.catalog prices)

/-- Checks a code. -/
def runCheck (json : Bool) (code : String) : Report :=
  match Registry.standard.check code with
  | .error fault => .notOnOffer json code fault
  | .ok checked =>
    let value :=
      (Json.obj [("valid", .bool true), ("canonical_code", .str checked.canonicalCode),
        ("specification", checked.toJson)]).sorted
    Report.shown json value (Rendering.accepted checked)

/-- Prices a code. -/
def runQuote (json : Bool) (code : String) (request : QuoteRequest)
    (configurator : Configurator σ) : Report :=
  match configurator.prices.quote code request with
  | .error fault => .onFault json code "" fault
  | .ok quoted => Report.shown json quoted.toJson (Rendering.quote quoted)

/-- The document of a design with its quote and its model. -/
def finalizedJson (f : Finalized) : Json :=
  (Json.obj [("record", f.stored.toJson), ("quote", f.quoted.toJson),
    ("artifacts", f.artifacts.toJson)]).sorted

/-- Prices a code, has its model generated and stores the design. -/
def runFinalize (json : Bool) (name code : String) (request : QuoteRequest) (closed : Bool)
    (now : Timestamp) (configurator : Configurator σ) (world : σ) : Report × σ :=
  let (result, world) := configurator.finalize name code request closed now world
  match result with
  | .error fault => (.onFault json code "finalize failed: " fault, world)
  | .ok f => (Report.shown json (finalizedJson f) (Rendering.finalized f), world)

/-- Removes a stored design. -/
def runDelete (json : Bool) (id : String) (configurator : Configurator σ) (world : σ) :
    Report × σ :=
  let (result, world) := configurator.delete id world
  match result with
  | .error fault =>
    (.failure s!"failed to delete configuration {id}: {fault.message}", world)
  | .ok () => (Report.shown json (.obj [("deleted", .str id)]) s!"deleted {id}\n", world)

/-- What a run does in the end: it reports, or writes a file first. -/
inductive Ending where
  | report (report : Report)
  /-- The report depends on whether the text could be written. -/
  | write (path text : String) (report : Bool → Report)

/-- Writes the standard configuration to a file. One that is there already stays,
unless that is forced. -/
def writeStandard (force : Bool) (path : Option String) (file : ConfigFile) : Ending :=
  match path with
  | none => .report (.failure "no config directory available; pass --config")
  | some path =>
    if file ≠ .missing ∧ force = false then
      .report (.failure s!"{path} already exists (use --force to overwrite)")
    else
      match Config.standard.toSave with
      | .error fault => .report (.failure fault.message)
      | .ok text =>
        .write path text fun written =>
          if written then .success s!"wrote {path}\n"
          else .failure (ServiceFault.configSaveFailed "the file cannot be written").message

end Command

namespace Invocation

variable {σ : Type}

/-- Where the configuration of an invocation is. -/
def path? (invocation : Invocation) (environment : Environment) : Option String :=
  invocation.configPath.or (Config.defaultPath? environment)

/-- Runs a command. `file` is what is found at the path of the invocation. -/
def run (invocation : Invocation) (environment : Environment) (file : ConfigFile)
    (connect : Config → Except ServiceFault (Configurator σ)) (now : Timestamp) (world : σ) :
    Command.Ending × σ :=
  let json := invocation.json
  let workshop : Workshop σ := ⟨Config.load file environment, connect, now⟩
  let reported (result : Report × σ) : Command.Ending × σ := (.report result.1, result.2)
  match invocation.command with
  | .presets => reported (Command.runPresets json, world)
  | .catalog => reported (Command.runCatalog json workshop.loaded, world)
  | .check code => reported (Command.runCheck json code, world)
  | .quote code request =>
    reported (Command.withConfigurator workshop world fun configurator =>
      (Command.runQuote json code request configurator, world))
  | .generate codes closed => reported (Command.runGenerate json codes closed workshop world)
  | .finalize name code request closed =>
    reported (Command.withConfigurator workshop world fun configurator =>
      Command.runFinalize json name code request closed now configurator world)
  | .delete id =>
    reported (Command.withConfigurator workshop world fun configurator =>
      Command.runDelete json id configurator world)
  | .initConfig force =>
    (Command.writeStandard force (invocation.path? environment) file, world)

end Invocation

end Joinery
