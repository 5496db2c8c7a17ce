import Joinery.Decimal
import Joinery.Pricing.Fault

/-!
# Volumes

The volume of a piece of furniture is width × depth × height, from millimetres
to cubic metres without rounding. A sloped piece may be priced with the mean of
its two heights instead of the declared one.
-/

namespace Joinery

/-- Which height of a sloped piece enters the volume. -/
inductive HeightPolicy where
  | declaredHeight
  | averageWithMaximum
deriving DecidableEq

namespace HeightPolicy

/-- The word for a policy. -/
def text : HeightPolicy → String
  | declaredHeight => "declared_height"
  | averageWithMaximum => "average_with_maximum"

/-- The policy that a word names in files and messages. -/
def ofString? (word : String) : Option HeightPolicy :=
  [declaredHeight, averageWithMaximum].find? (·.text = word)

theorem ofString?_text (policy : HeightPolicy) : ofString? policy.text = some policy := by
  cases policy <;> decide

/-- The policy that a word asks for; each word has a short form. -/
def ofRequest (word : String) : Except String HeightPolicy :=
  if word = "declared_height" ∨ word = "declared" then .ok declaredHeight
  else if word = "average_with_maximum" ∨ word = "average" then .ok averageWithMaximum
  else .error s!"unknown height policy '{word}'"

end HeightPolicy

/-- The volume as a whole number and the places it is divided by. The mean of
two heights is five times their sum with one place more. -/
def volumeParts (dimensions : List UInt32) (policy : HeightPolicy) : Nat × Nat :=
  let dim (slot : Nat) : Nat := (dimensions.getD slot 0).toNat
  match policy, dimensions[3]? with
  | .averageWithMaximum, some top => (dim 0 * dim 1 * (dim 2 + top.toNat) * 5, 10)
  | _, _ => (dim 0 * dim 1 * dim 2, 9)

/-- The volume in cubic metres, with the fewest places. Missing dimensions count
as zero. -/
def volume (dimensions : List UInt32) (policy : HeightPolicy) : Except PricingFault Decimal :=
  let (mantissa, scale) := volumeParts dimensions policy
  match Decimal.ofParts? false mantissa scale with
  | some v => .ok v.normalize
  | none => .error (.overflow "volume")

end Joinery
