import Joinery.Pricing.Fault
import Joinery.Validation

/-!
# What can go wrong around the services

Faults of the configuration, of an exchange with a service, of its answer, and
of the order itself. Only faults that may pass by themselves are worth a retry.
-/

namespace Joinery

/-- Why an operation that involves configuration or services fails. -/
inductive ServiceFault where
  | invalidConfig (detail : String)
  | invalidUrl (detail : String)
  | configLoadFailed (detail : String)
  | configSaveFailed (detail : String)
  /-- The request was not delivered, or the connection broke. -/
  | requestFailed (detail : String)
  /-- An attempt ran past its deadline of whole seconds. -/
  | timeout (seconds : Nat)
  /-- The service refused, with this status and the front of its answer. -/
  | httpStatus (status : Nat) (body : String)
  | deserializationFailed (detail : String)
  | specification (fault : SpecificationFault)
  | pricing (fault : PricingFault)
  /-- The work was given up before it had a result. -/
  | cancelled
deriving DecidableEq

namespace ServiceFault

/-- The text of a fault. -/
def message : ServiceFault → String
  | invalidConfig detail => s!"Invalid gateway configuration: {detail}"
  | invalidUrl detail => s!"Invalid URL: {detail}"
  | configLoadFailed detail => s!"Failed to load config: {detail}"
  | configSaveFailed detail => s!"Failed to save config: {detail}"
  | requestFailed detail => s!"Request failed: {detail}"
  | timeout seconds => s!"Request timeout after {seconds} seconds"
  | httpStatus status body => s!"Service returned HTTP {status}: {body}"
  | deserializationFailed detail => s!"Deserialization failed: {detail}"
  | specification fault => fault.message
  | pricing fault => fault.message
  | cancelled => "Request cancelled"

/-- A broken connection, a missed deadline, a server error and the status for
too many requests may pass by themselves. -/
def isRetryable : ServiceFault → Bool
  | requestFailed _ => true
  | timeout _ => true
  | httpStatus status _ => 500 ≤ status || status = 429
  | _ => false

/-- Faults that only a change of the configuration mends. -/
def isConfigFault : ServiceFault → Bool
  | invalidConfig _ => true
  | invalidUrl _ => true
  | configLoadFailed _ => true
  | configSaveFailed _ => true
  | _ => false

end ServiceFault

end Joinery
