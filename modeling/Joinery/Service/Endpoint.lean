import Joinery.Service.Fault
import Joinery.Url.Resolution

/-!
# Endpoints

Each service has a base URL, to whose path the name of an operation is added.
-/

namespace Joinery

/-- The URL of an operation under a base URL, which must be a web address. The
path of the base is kept whole; its query and fragment are not. -/
def endpoint (base : String) (operation : String) : Except ServiceFault Url :=
  match Url.parse base with
  | .error fault => .error (.invalidUrl fault.message)
  | .ok .other =>
    .error (.invalidUrl s!"URL must start with http:// or https://, got: {base}")
  | .ok (.web url) => .ok (url.asDirectory.join operation.toList)

end Joinery
