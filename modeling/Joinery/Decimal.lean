import Joinery.Rounding

/-!
# Decimal numbers of 96 bits

A decimal is a sign, a mantissa below `2 ^ 96` and a scale of at most 28 places.
The scale is part of the value as written: `1.5` and `1.50` are equal amounts
with different texts. Products and sums are exact when they fit; otherwise the
exact result is rounded once, half to even, at the greatest scale at which it
fits, and if its whole part does not fit there is no result. A zero has a minus
sign only where a number below zero was rounded to it.
-/

namespace Joinery

/-- All mantissas are below this number, which is `2 ^ 96`. -/
def Decimal.limit : Nat := 79228162514264337593543950336

/-- The number `± mantissa / 10 ^ scale`. -/
structure Decimal where
  negative : Bool
  mantissa : Nat
  scale : Nat
  mantissa_lt : mantissa < Decimal.limit
  scale_le : scale ≤ 28
deriving DecidableEq

namespace Decimal

/-- The decimal with given parts; the sign of a zero is dropped. -/
def ofParts (negative : Bool) (mantissa scale : Nat) (fits : mantissa < limit)
    (places : scale ≤ 28) : Decimal :=
  ⟨negative && mantissa != 0, mantissa, scale, fits, places⟩

/-- The decimal with given parts, if they are in range; the sign of a zero is
dropped. -/
def ofParts? (negative : Bool) (mantissa scale : Nat) : Option Decimal :=
  if h : mantissa < limit ∧ scale ≤ 28 then
    some (ofParts negative mantissa scale h.1 h.2)
  else none

/-- The decimal with given parts, if they are in range; a zero keeps its sign. -/
def ofSignedParts? (negative : Bool) (mantissa scale : Nat) : Option Decimal :=
  if h : mantissa < limit ∧ scale ≤ 28 then some ⟨negative, mantissa, scale, h.1, h.2⟩
  else none

/-- Zero without places. -/
def zero : Decimal := ofParts false 0 0 (by decide) (by decide)

/-- The decimal of a whole number, if it fits. -/
def ofInt? (n : Int) : Option Decimal := ofParts? (n < 0) n.natAbs 0

/-- The decimal of a number of pieces. -/
def ofUInt32 (n : UInt32) : Decimal :=
  ofParts false n.toNat 0 (Nat.lt_trans n.toNat_lt (by decide)) (by decide)

/-- The decimal of a whole amount in 64 bits. -/
def ofInt64 (n : Int64) : Decimal :=
  ofParts (n.toInt < 0) n.toInt.natAbs 0
    (by have := n.le_toInt; have := n.toInt_lt; simp only [limit]; omega) (by decide)

/-- Whether the amount is zero. -/
def isZero (x : Decimal) : Bool := x.mantissa = 0

/-- Whether the amount is above zero. -/
def isPositive (x : Decimal) : Bool := x.mantissa ≠ 0 && !x.negative

/-- Whether the amount is below zero. -/
def isNegative (x : Decimal) : Bool := x.mantissa ≠ 0 && x.negative

/-- The mantissa with the sign of the decimal. -/
def signed (x : Decimal) : Int := if x.negative then -x.mantissa else x.mantissa

/-- The mantissa that the number has at a scale not below its own. -/
def signedAt (x : Decimal) (scale : Nat) : Int := x.signed * Nat.pow 10 (scale - x.scale)

/-- How two amounts compare; places do not matter. -/
def compare (x y : Decimal) : Ordering :=
  let scale := max x.scale y.scale
  Ord.compare (x.signedAt scale) (y.signedAt scale)

/-- Whether two decimals are the same amount. -/
def sameAmount (x y : Decimal) : Bool := x.compare y = .eq

/-- The quotient `mantissa / 10 ^ scale`, rounded half to even at the greatest
scale up to `places` at which the mantissa fits. -/
def fitBelow (mantissa scale : Nat) : Nat → Option (Nat × Nat)
  | 0 =>
    let m := Rounding.halfEven mantissa (Nat.pow 10 scale)
    if m < limit then some (m, 0) else none
  | places + 1 =>
    let m := Rounding.halfEven mantissa (Nat.pow 10 (scale - (places + 1)))
    if m < limit then some (m, places + 1) else fitBelow mantissa scale places

/-- The mantissa and scale for an exact result `mantissa / 10 ^ scale`. -/
def fit? (mantissa scale : Nat) : Option (Nat × Nat) := fitBelow mantissa scale (min scale 28)

/-- Whether both mantissas have at most 32 bits. -/
def areShort (x y : Decimal) : Bool := max x.mantissa y.mantissa < UInt32.size

/-- The product, if it fits. A zero factor gives plain zero; so do two mantissas
of 32 bits with more than 47 places between them. Only the product of longer
mantissas keeps its sign when it is rounded to zero. -/
def mul? (x y : Decimal) : Option Decimal :=
  let negative := x.negative != y.negative
  let scale := x.scale + y.scale
  if x.isZero || y.isZero || (areShort x y && 47 < scale) then some zero
  else
    (fit? (x.mantissa * y.mantissa) scale).bind fun parts =>
      if areShort x y then ofParts? negative parts.1 parts.2
      else ofSignedParts? negative parts.1 parts.2

/-- The sum, if it fits. A zero summand leaves the other as it is written. -/
def add? (x y : Decimal) : Option Decimal :=
  if x.isZero then some y
  else if y.isZero then some x
  else
    let scale := max x.scale y.scale
    let sum := x.signedAt scale + y.signedAt scale
    (fit? sum.natAbs scale).bind fun parts => ofParts? (sum < 0) parts.1 parts.2

/-- Removes zeros at the end of the fraction. -/
def trim (mantissa : Nat) : Nat → Nat × Nat
  | 0 => (mantissa, 0)
  | scale + 1 => if mantissa % 10 = 0 then trim (mantissa / 10) scale else (mantissa, scale + 1)

theorem trim_le (mantissa scale : Nat) :
    (trim mantissa scale).1 ≤ mantissa ∧ (trim mantissa scale).2 ≤ scale := by
  induction scale generalizing mantissa with
  | zero => simp [trim]
  | succ scale ih =>
    rw [trim]
    split
    · have h := ih (mantissa / 10)
      have := Nat.div_le_self mantissa 10
      omega
    · simp

/-- The same amount with the fewest places; zero has none. -/
def normalize (x : Decimal) : Decimal :=
  if x.isZero then zero
  else
    ofParts x.negative (trim x.mantissa x.scale).1 (trim x.mantissa x.scale).2
      (Nat.lt_of_le_of_lt (trim_le _ _).1 x.mantissa_lt)
      (Nat.le_trans (trim_le _ _).2 x.scale_le)

/-- The nearest whole number, a half going away from zero. -/
def round (x : Decimal) : Int :=
  let magnitude : Int := Rounding.halfUp x.mantissa (Nat.pow 10 x.scale)
  if x.negative then -magnitude else magnitude

end Decimal

end Joinery
