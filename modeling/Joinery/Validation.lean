import Joinery.Code.Parser
import Joinery.Preset.Standard

/-!
# Comparing a specification with its preset

All disagreements between a specification and its preset are collected, in a
fixed order: number of dimensions, ranges slot by slot, missing flags, unknown
flags. Only an unknown preset stands alone, because nothing can be compared.
-/

namespace Joinery

/-- One disagreement between a specification and its preset. -/
inductive Violation where
  | unknownPreset (id : String)
  | arityMismatch (expected actual : Nat)
  | outOfRange (slot : Nat) (slotName : String) (range : DimensionRange) (actual : UInt32)
  | missingRequiredFlag (flag : Char)
  | unknownFlag (flag : Char)
deriving DecidableEq

namespace Violation

/-- The text of a disagreement. -/
def message : Violation → String
  | .unknownPreset id => s!"unknown preset '{id}'"
  | .arityMismatch expected actual => s!"preset expects {expected} dimensions, got {actual}"
  | .outOfRange _ name range actual =>
    s!"{name} must be between {range.min} and {range.max} mm, got {actual}"
  | .missingRequiredFlag flag => s!"required flag '{flag}' is missing"
  | .unknownFlag flag => s!"flag '{flag}' is not recognized for this preset"

/-- The field of the specification that a disagreement is about. -/
def field : Violation → String
  | .unknownPreset _ => "preset"
  | .arityMismatch .. => "dimensions"
  | .outOfRange slot .. => s!"dimensions[{slot}]"
  | .missingRequiredFlag flag => s!"flags.{flag}"
  | .unknownFlag flag => s!"flags.{flag}"

end Violation

/-- The disagreements of one specification; there is at least one. -/
structure Violations where
  toList : List Violation
  nonempty : toList ≠ []
deriving DecidableEq

namespace Violations

/-- The disagreement found first. -/
def first (violations : Violations) : Violation := violations.toList.head violations.nonempty

/-- The texts of all disagreements, separated by semicolons. -/
def message (violations : Violations) : String :=
  "; ".intercalate (violations.toList.map Violation.message)

end Violations

namespace Preset

/-- The ranges that dimensions miss, slot by slot from `slot` on. Slots that
only one side has are not compared. -/
def outOfRange (preset : Preset) (slot : Nat) :
    List UInt32 → List DimensionRange → List Violation
  | d :: ds, range :: ranges =>
    if range.contains d then outOfRange preset (slot + 1) ds ranges
    else .outOfRange slot (preset.slotName slot) range d :: outOfRange preset (slot + 1) ds ranges
  | _, _ => []

/-- Everything in which a specification disagrees with the preset. -/
def violations (preset : Preset) (spec : Specification) : List Violation :=
  (if spec.dimensions.length = preset.arity then []
    else [.arityMismatch preset.arity spec.dimensions.length])
  ++ outOfRange preset 0 spec.dimensions preset.ranges
  ++ (preset.required.difference spec.flags).map .missingRequiredFlag
  ++ (spec.flags.difference preset.allowed).map .unknownFlag

end Preset

namespace Registry

/-- Everything in which a specification disagrees with the preset it names. -/
def violations (registry : Registry) (spec : Specification) : List Violation :=
  match registry.lookup spec.presetId with
  | none => [.unknownPreset spec.presetId]
  | some preset => preset.violations spec

end Registry

/-- A specification in which some registry finds nothing to object to. Prices
and models are made for these only. -/
structure CheckedSpecification where
  spec : Specification
  accepted : ∃ registry : Registry, registry.violations spec = []

instance : DecidableEq CheckedSpecification := fun a b =>
  decidable_of_iff (a.spec = b.spec) (by cases a; cases b; simp)

/-- The canonical code of a checked specification. -/
def CheckedSpecification.canonicalCode (checked : CheckedSpecification) : String :=
  checked.spec.canonicalCode

/-- Why a code does not describe a piece of furniture on offer. -/
inductive SpecificationFault where
  | malformed (fault : CodeFault)
  | invalid (violations : Violations)
deriving DecidableEq

/-- The text of a fault. -/
def SpecificationFault.message : SpecificationFault → String
  | .malformed fault => fault.message
  | .invalid violations => s!"invalid specification: {violations.message}"

namespace Registry

/-- Accepts a specification without disagreements, and lists them otherwise. -/
def validate (registry : Registry) (spec : Specification) :
    Except Violations CheckedSpecification :=
  if h : registry.violations spec = [] then .ok ⟨spec, registry, h⟩
  else .error ⟨registry.violations spec, h⟩

/-- Reads a code and compares what it describes with its preset. -/
def check (registry : Registry) (code : String) :
    Except SpecificationFault CheckedSpecification :=
  match Code.parse code with
  | .error fault => .error (.malformed fault)
  | .ok spec =>
    match registry.validate spec with
    | .error violations => .error (.invalid violations)
    | .ok checked => .ok checked

end Registry

end Joinery
