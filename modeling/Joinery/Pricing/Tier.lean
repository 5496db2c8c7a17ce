import Joinery.Decimal.Text
import Joinery.Index
import Joinery.Pricing.Fault

/-!
# Price tiers

A tier is a named price per cubic metre. A catalog holds tiers under their
names, without repetition.
-/

namespace Joinery

/-- A named price per cubic metre, which is above zero. -/
structure PriceTier where
  name : String
  description : String
  pricePerCubicMeter : Decimal
  positive : pricePerCubicMeter.isPositive = true
deriving DecidableEq

/-- The tier with a price, if that is above zero. -/
def PriceTier.create (name description : String) (price : Decimal) :
    Except PricingFault PriceTier :=
  if h : price.isPositive = true then .ok ⟨name, description, price, h⟩
  else .error (.nonPositiveTierPrice name price.text)

/-- Tiers under their names. -/
structure TierCatalog where
  tiers : Index PriceTier

namespace TierCatalog

/-- The catalog without tiers. -/
def empty : TierCatalog := ⟨.empty⟩

/-- Adds a tier whose name is not taken. -/
def insert (catalog : TierCatalog) (tier : PriceTier) : Except PricingFault TierCatalog :=
  match catalog.tiers.add? tier.name tier with
  | some tiers => .ok ⟨tiers⟩
  | none => .error (.duplicateTier tier.name)

/-- The tier of a name. -/
def find (catalog : TierCatalog) (name : String) : Except PricingFault PriceTier :=
  match catalog.tiers.get? name with
  | some tier => .ok tier
  | none => .error (.unknownTier name)

/-- The tiers in the order of their names. -/
def toList (catalog : TierCatalog) : List PriceTier := catalog.tiers.values

end TierCatalog

end Joinery
