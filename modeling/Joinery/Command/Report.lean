import Joinery.Command.Rendering
import Joinery.Json.Printer

/-!
# Reports

A run comes to a report: an exit status, a text for the output and one for
complaints. The status is 2 for a code that is not on offer or a command line
that is refused, 1 for any other failure and 0 otherwise.
-/

namespace Joinery

/-- What a run prints and returns. -/
structure Report where
  exit : Nat
  output : String
  complaint : String
deriving DecidableEq

namespace Report

/-- A success with its output. -/
def success (output : String) : Report := ⟨0, output, ""⟩

/-- A failure with its reason. -/
def failure (reason : String) : Report := ⟨1, "", s!"error: {reason}\n"⟩

/-- A value over several lines of output. -/
def document (value : Json) : String := value.pretty ++ "\n"

/-- A success, shown as JSON or as text. -/
def shown (json : Bool) (value : Json) (text : String) : Report :=
  success (if json then document value else text)

/-- The report on a code that is not on offer. -/
def notOnOffer (json : Bool) (code : String) (fault : SpecificationFault) : Report :=
  let value :=
    (Json.obj [("valid", .bool false), ("code", .str code), ("error", fault.toJson)]).sorted
  ⟨2, if json then document value else Rendering.specificationFault code fault, ""⟩

/-- The report on a fault during work on a code. Any other fault than that of the
code may be put in a context. -/
def onFault (json : Bool) (code context : String) : ServiceFault → Report
  | .specification fault => notOnOffer json code fault
  | fault => failure (context ++ fault.message)

/-- The report on a command line that is refused. -/
def refused : Report := ⟨2, "", "error: the command line is not understood\n"⟩

/-- The name and version of the program. -/
def version : Report := success "atelier 0.1.0\n"

end Report

end Joinery
