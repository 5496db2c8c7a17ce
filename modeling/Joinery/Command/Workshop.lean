import Joinery.Command.Report
import Joinery.Service

/-!
# What a command works with

The configuration, if it loads, and the configurator that comes of it. A command
that needs either fails without it and asks no service for anything.
-/

namespace Joinery

/-- A configurator over services that a server provides to a client. -/
def Config.configurator (client : Client) (server : Server) (config : Config) :
    Except ServiceFault (Configurator History) :=
  match config.priceList with
  | .error fault => .error fault
  | .ok prices =>
    match config.remoteAccess with
    | .error fault => .error fault
    | .ok access => .ok ⟨prices, access.services client server⟩

/-- What a command has to work with: the configuration, how a configurator is
made from one, and the time. -/
structure Workshop (σ : Type) where
  loaded : Except ServiceFault Config
  connect : Config → Except ServiceFault (Configurator σ)
  now : Timestamp

namespace Command

variable {σ : Type}

/-- The report on a configuration that does not load. -/
def notLoaded (fault : ServiceFault) : Report :=
  .failure s!"failed to load configuration: {fault.message}"

/-- Does something with the configurator of the configuration. -/
def withConfigurator (workshop : Workshop σ) (world : σ)
    (work : Configurator σ → Report × σ) : Report × σ :=
  match workshop.loaded with
  | .error fault => (notLoaded fault, world)
  | .ok config =>
    match workshop.connect config with
    | .error fault => (.failure fault.message, world)
    | .ok configurator => work configurator

end Command

end Joinery
