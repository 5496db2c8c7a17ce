import Joinery.Pricing.Supplement
import Joinery.Pricing.Tier
import Joinery.Pricing.Volume
import Joinery.Validation

/-!
# Quotes

A quote is the volume of a checked specification times the price of a tier,
plus the supplements chosen. Amounts are kept as well as decimals can hold them;
the total is rounded to whole units, and it is never below zero.
-/

namespace Joinery

/-- The price of one piece of furniture and what it is made of. -/
structure Quote where
  volume : Decimal
  basePrice : Money
  supplementsTotal : Money
  totalPrice : Int64
  heightPolicy : HeightPolicy
deriving DecidableEq

/-- The volume times the price of the tier, with the fewest places. -/
def basePrice (volume : Decimal) (tier : PriceTier) : Except PricingFault Money :=
  match volume.mul? tier.pricePerCubicMeter with
  | some amount => .ok ⟨amount.normalize⟩
  | none => .error (.overflow s!"base price at tier '{tier.name}'")

/-- The sum in whole units, not below zero. -/
def totalPrice (base supplements : Money) : Except PricingFault Int64 :=
  match (base.add? supplements).bind Money.roundToUnits? with
  | some units => .ok (max units 0)
  | none => .error (.overflow "total price")

/-- Prices dimensions: volume, base price, supplements and total, in this order. -/
def quoteDimensions (dimensions : List UInt32) (tier : PriceTier) (selection : Selection)
    (policy : HeightPolicy) : Except PricingFault Quote := do
  let volume ← volume dimensions policy
  let base ← basePrice volume tier
  let supplements ← selection.total
  let total ← totalPrice base supplements
  return ⟨volume, base, supplements, total, policy⟩

/-- The quote for a checked specification. -/
def CheckedSpecification.quote (checked : CheckedSpecification) (tier : PriceTier)
    (selection : Selection) (policy : HeightPolicy) : Except PricingFault Quote :=
  quoteDimensions checked.spec.dimensions tier selection policy

end Joinery
