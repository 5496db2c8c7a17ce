import Joinery.Rounding

/-!
# Double precision numbers

A finite double is a sign, a significand below `2 ^ 53` and a power of two. The
operations here are exact arithmetic followed by one rounding: the double next
to a quotient, products and quotients of doubles, and the shortest decimal that
reads back as the same double.
-/

namespace Joinery

/-- The number `± significand * 2 ^ exponent`. A significand below `2 ^ 52`
occurs only with the least exponent. -/
structure Binary64 where
  negative : Bool
  significand : Nat
  exponent : Int
deriving DecidableEq

namespace Binary64

/-- All significands are below this number, which is `2 ^ 53`. -/
def fullSignificand : Nat := 9007199254740992

/-- The least significand of 53 binary digits, which is `2 ^ 52`. -/
def leastNormal : Nat := 4503599627370496

/-- The exponent of the least positive double. -/
def leastExponent : Int := -1074

/-- The exponent of the greatest finite doubles. -/
def greatestExponent : Int := 971

/-- Zero, with a sign. -/
def zero (negative : Bool) : Binary64 := ⟨negative, 0, leastExponent⟩

/-- Whether the number is zero. -/
def isZero (x : Binary64) : Bool := x.significand = 0

/-- The quotient `num / den` divided by `2 ^ exponent`, as a quotient. -/
def scaled (num den : Nat) (exponent : Int) : Nat × Nat :=
  if 0 ≤ exponent then (num, den * Nat.pow 2 exponent.toNat)
  else (num * Nat.pow 2 (-exponent).toNat, den)

/-- The exponent at which the quotient has 53 binary digits, or the least one. -/
def exponentFor (num den : Nat) : Int :=
  let guess : Int := (num.log2 : Int) - den.log2 - 53
  let (n, d) := scaled num den guess
  max leastExponent (if n / d < fullSignificand then guess else guess + 1)

/-- The double nearest to `num / den`, a half going to the even significand;
nothing if that lies beyond the greatest finite double. -/
def nearest (negative : Bool) (num den : Nat) : Option Binary64 :=
  if num = 0 then some (zero negative)
  else
    let exponent := exponentFor num den
    let (n, d) := scaled num den exponent
    let rounded := Rounding.halfEven n d
    let (significand, exponent) :=
      if rounded = fullSignificand then (leastNormal, exponent + 1) else (rounded, exponent)
    if exponent ≤ greatestExponent then some ⟨negative, significand, exponent⟩ else none

/-- The magnitude as a quotient. -/
def ratio (x : Binary64) : Nat × Nat :=
  if 0 ≤ x.exponent then (x.significand * Nat.pow 2 x.exponent.toNat, 1)
  else (x.significand, Nat.pow 2 (-x.exponent).toNat)

/-- The double nearest to the product. -/
def mul (x y : Binary64) : Option Binary64 :=
  nearest (x.negative != y.negative) (x.ratio.1 * y.ratio.1) (x.ratio.2 * y.ratio.2)

/-- The double nearest to the quotient, for a divisor that is not zero. -/
def div (x y : Binary64) : Option Binary64 :=
  nearest (x.negative != y.negative) (x.ratio.1 * y.ratio.2) (x.ratio.2 * y.ratio.1)

/-- The double nearest to a decimal `± digits * 10 ^ exponent`. -/
def ofDecimal (negative : Bool) (digits : Nat) (exponent : Int) : Option Binary64 :=
  if 0 ≤ exponent then nearest negative (digits * Nat.pow 10 exponent.toNat) 1
  else nearest negative digits (Nat.pow 10 (-exponent).toNat)

/-- A quotient in units of `10 ^ exponent`, as a quotient. -/
def inUnits (n d : Nat) (exponent : Int) : Nat × Nat :=
  if 0 ≤ exponent then (n, d * Nat.pow 10 exponent.toNat)
  else (n * Nat.pow 10 (-exponent).toNat, d)

/-- The least power of ten above the quotient of two positive numbers. -/
def decade (n d : Nat) : Int :=
  if d ≤ n then (Nat.toDigits 10 (n / d)).length
  else
    let places := (Nat.toDigits 10 (d / n)).length
    if d ≤ n * Nat.pow 10 (places - 1) then 2 - places else 1 - places

/-- The interval of numbers that read as `x`, both ends as quotients, and
whether the ends belong to it. -/
def interval (x : Binary64) : (Nat × Nat) × (Nat × Nat) × Bool :=
  let quarter := scaled 1 1 (2 - x.exponent)
  let lowGap := if x.significand = leastNormal ∧ x.exponent ≠ leastExponent then 1 else 2
  let four := 4 * x.significand
  (((four - lowGap) * quarter.1, quarter.2), ((four + 2) * quarter.1, quarter.2),
    x.significand % 2 = 0)

/-- Whether `c * 10 ^ unit` reads as a double with this interval. -/
def readsBack (bounds : (Nat × Nat) × (Nat × Nat) × Bool) (c : Nat) (unit : Int) : Bool :=
  let (low, high, closed) := bounds
  let (ln, ld) := inUnits low.1 low.2 unit
  let (hn, hd) := inUnits high.1 high.2 unit
  if closed then ln ≤ c * ld && c * hd ≤ hn else ln < c * ld && c * hd < hn

/-- The decimal on the grid of `10 ^ unit` that reads as `x`, if one of the two
neighbours of `x` on the grid does; of two the nearer, where `round` says which
of equally near ones that is. -/
def onGrid (round : Nat → Nat → Nat) (x : Binary64) (unit : Int) : Option Nat :=
  let (n, d) := inUnits x.ratio.1 x.ratio.2 unit
  let below := n / d
  let bounds := x.interval
  match readsBack bounds below unit, readsBack bounds (below + 1) unit with
  | true, true => some (round n d)
  | true, false => some below
  | false, true => some (below + 1)
  | false, false => none

/-- Drops zeros at the end of a digit string, counting them. -/
def trimZeros : Nat → Nat → Nat × Nat
  | 0, digits => (digits, 0)
  | fuel + 1, digits =>
    if digits ≠ 0 ∧ digits % 10 = 0 then
      let (short, zeros) := trimZeros fuel (digits / 10)
      (short, zeros + 1)
    else (digits, 0)

/-- The shortest decimal `digits * 10 ^ exponent` that reads as a number other
than zero, as the pair of both. Seventeen digits always suffice; `round` chooses
between equally near ones. -/
def shortest (round : Nat → Nat → Nat) (x : Binary64) : Nat × Int :=
  let top := decade x.ratio.1 x.ratio.2
  let found := (List.range 17).findSome? fun i =>
    let unit := top - (i + 1 : Nat)
    (onGrid round x unit).map fun digits => (digits, unit)
  let (digits, unit) := found.getD (0, 0)
  let (short, zeros) := trimZeros 18 digits
  (short, unit + zeros)

/-- The sign in front of a number. -/
def signText (x : Binary64) : String := if x.negative then "-" else ""

/-- The shortest decimal without an exponent; whole numbers have no point. Of two
equally near ones it is the greater in magnitude. -/
def positionalText (x : Binary64) : String :=
  if x.isZero then x.signText ++ "0"
  else
    let (digits, exponent) := x.shortest Rounding.halfUp
    let ds := Nat.toDigits 10 digits
    let shown :=
      if 0 ≤ exponent then ds ++ List.replicate exponent.toNat '0'
      else
        let places := (-exponent).toNat
        if places < ds.length then
          ds.take (ds.length - places) ++ '.' :: ds.drop (ds.length - places)
        else '0' :: '.' :: (List.replicate (places - ds.length) '0' ++ ds)
    x.signText ++ String.ofList shown

/-- The digits of an exponent after its sign. -/
def exponentChars (exponent : Int) : List Char :=
  (if exponent < 0 then '-' else '+') :: Nat.toDigits 10 exponent.natAbs

/-- The shortest decimal with a point or an exponent: plain notation for values
from `10 ^ -5` to below `10 ^ 16`, scientific notation beyond. Of two equally
near ones it is the one that ends in an even digit. -/
def scientificText (x : Binary64) : String :=
  if x.isZero then x.signText ++ "0.0"
  else
    let (digits, exponent) := x.shortest Rounding.halfEven
    let ds := Nat.toDigits 10 digits
    let point : Int := ds.length + exponent
    let shown :=
      if 0 ≤ exponent ∧ point ≤ 16 then
        ds ++ List.replicate exponent.toNat '0' ++ ['.', '0']
      else if 0 < point ∧ point ≤ 16 then
        ds.take point.toNat ++ '.' :: ds.drop point.toNat
      else if -5 < point ∧ point ≤ 0 then
        '0' :: '.' :: (List.replicate (-point).toNat '0' ++ ds)
      else
        let power := exponentChars (point - 1)
        match ds with
        | [d] => d :: 'e' :: power
        | d :: more => d :: '.' :: (more ++ 'e' :: power)
        | [] => []
    x.signText ++ String.ofList shown

end Binary64

end Joinery
