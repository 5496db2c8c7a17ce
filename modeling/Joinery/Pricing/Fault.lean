/-!
# What can go wrong with prices
-/

namespace Joinery

/-- Why a price list entry, a choice from it or an amount is refused. -/
inductive PricingFault where
  | nonPositiveTierPrice (tier price : String)
  | negativeSupplementPrice (id price : String)
  | unknownSupplement (id : String)
  | zeroQuantity (id : String)
  | duplicateSupplement (id : String)
  | unknownTier (name : String)
  | duplicateTier (name : String)
  | overflow (subject : String)
deriving DecidableEq

/-- The text of a refusal. -/
def PricingFault.message : PricingFault → String
  | .nonPositiveTierPrice tier price =>
    s!"price tier '{tier}' must have a positive price per cubic meter, got {price}"
  | .negativeSupplementPrice id price => s!"supplement '{id}' has a negative unit price: {price}"
  | .unknownSupplement id => s!"unknown supplement '{id}'"
  | .zeroQuantity id => s!"supplement '{id}' selected with quantity 0"
  | .duplicateSupplement id => s!"supplement '{id}' is already in the catalog"
  | .unknownTier name => s!"unknown price tier '{name}'"
  | .duplicateTier name => s!"price tier '{name}' is already in the catalog"
  | .overflow subject => s!"{subject} is too large to price"

end Joinery
