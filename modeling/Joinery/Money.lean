import Joinery.Decimal.Text
import Joinery.Word

/-!
# Amounts of money

Amounts are exact decimals in one currency. They are rounded to whole units
once, at the end of a quote, a half going away from zero.
-/

namespace Joinery

/-- An exact amount of money. -/
structure Money where
  amount : Decimal
deriving DecidableEq

namespace Money

/-- No money. -/
def zero : Money := ⟨.zero⟩

/-- An amount of whole units. -/
def ofUnits (units : Int64) : Money := ⟨.ofInt64 units⟩

/-- Whether two amounts are equal, whatever their places. -/
def sameAmount (x y : Money) : Bool := x.amount.sameAmount y.amount

/-- The price of several pieces, if it fits. -/
def times? (price : Money) (quantity : UInt32) : Option Money :=
  (price.amount.mul? (.ofUInt32 quantity)).map Money.mk

/-- The amount for a factor such as a volume, if it fits. -/
def mul? (price : Money) (factor : Decimal) : Option Money :=
  (price.amount.mul? factor).map Money.mk

/-- The sum of two amounts, if it fits. -/
def add? (x y : Money) : Option Money := (x.amount.add? y.amount).map Money.mk

/-- The amount in whole units, a half going away from zero, if it fits 64 bits. -/
def roundToUnits? (x : Money) : Option Int64 :=
  int64? x.amount.round

/-- The amount with two places, further ones cut off. -/
def display (x : Money) : String := x.amount.centsText

end Money

end Joinery
