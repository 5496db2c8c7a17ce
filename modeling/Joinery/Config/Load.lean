import Joinery.Config

/-!
# Where a configuration comes from

The environment overrides single fields of a configuration. What is checked is
the result: a value that would be wrong by itself does no harm once overridden.
-/

namespace Joinery

/-- The value of each environment variable that is set. -/
abbrev Environment := String → Option String

/-- A number below a limit, written in decimal, after a plus sign or not. -/
def readCount? (limit : Nat) (text : String) : Option Nat :=
  let cs := text.toList
  let ds := if cs.head? = some '+' then cs.tail else cs
  if ds ≠ [] ∧ ds.all Char.isDigit ∧ Nat.ofDigitChars 10 ds 0 < limit then
    some (Nat.ofDigitChars 10 ds 0)
  else none

namespace Config

/-- The configuration with the fields that the environment sets. A number that
cannot be read changes nothing. -/
def override (config : Config) (environment : Environment) : Config where
  generation := { config.generation with
    baseUrl := (environment "ATELIER_GENERATION_URL").getD config.generation.baseUrl
    requestTimeoutSecs :=
      (((environment "ATELIER_REQUEST_TIMEOUT_SECS").bind (readCount? UInt64.size)).map
        UInt64.ofNat).getD config.generation.requestTimeoutSecs
    maxRetries :=
      (((environment "ATELIER_MAX_RETRIES").bind (readCount? UInt32.size)).map
        UInt32.ofNat).getD config.generation.maxRetries }
  store := { config.store with
    baseUrl := (environment "ATELIER_STORE_URL").getD config.store.baseUrl }
  pricing := { config.pricing with
    tier := (environment "ATELIER_DEFAULT_TIER").getD config.pricing.tier }
  tiers := config.tiers
  supplements := config.supplements

/-- The configuration after the environment, if it is valid. -/
def finish (config : Config) (environment : Environment) : Except ServiceFault Config :=
  let merged := config.override environment
  match merged.validate with
  | .error fault => .error fault
  | .ok () => .ok merged

end Config

end Joinery
