import Joinery.Binary64
import Joinery.Decimal

/-!
# Decimals as text

A decimal is written with all its places. It is read from digits with an
optional sign and point, or from such a numeral followed by `e` and a power of
ten. Digits beyond what fits are rounded half up at the first one left out. A
numeral for zero has no sign.
-/

namespace Joinery.Decimal

/-- The digits of the mantissa, with zeros in front for every place. -/
def digits (x : Decimal) : List Char :=
  let ds := if x.mantissa = 0 then [] else Nat.toDigits 10 x.mantissa
  List.replicate (x.scale - ds.length) '0' ++ ds

/-- The digits before the point, at least one. -/
def wholeDigits (x : Decimal) : List Char :=
  match x.digits.take (x.digits.length - x.scale) with
  | [] => ['0']
  | ds => ds

/-- The digits after the point. -/
def fractionDigits (x : Decimal) : List Char := x.digits.drop (x.digits.length - x.scale)

/-- The magnitude with all its places. -/
def magnitudeChars (x : Decimal) : List Char :=
  match x.fractionDigits with
  | [] => x.wholeDigits
  | ds => x.wholeDigits ++ '.' :: ds

/-- The number with all its places. -/
def text (x : Decimal) : String :=
  String.ofList (if x.negative then '-' :: x.magnitudeChars else x.magnitudeChars)

/-- The number with two places; further ones are cut off, not rounded. -/
def centsText (x : Decimal) : String :=
  let cents := (x.fractionDigits ++ ['0', '0']).take 2
  let chars := x.wholeDigits ++ '.' :: cents
  String.ofList (if x.negative then '-' :: chars else chars)

/-- Adds one to the last place. A carry past 96 bits costs a place. -/
def carry (mantissa scale : Nat) : Option (Nat × Nat) :=
  if mantissa + 1 < limit then some (mantissa + 1, scale)
  else if scale = 0 then none
  else some ((mantissa + 5) / 10, scale - 1)

/-- Numbers below this one leave room in 64 bits for one more digit. -/
def roomLimit : Nat := 1844674407370954906

/-- The digit that rounds a numeral: the first of those left. While the digits
before the last place are few, an underscore there stands for a zero. -/
def roundingDigit (mantissa : Nat) (rest : List Char) : Char :=
  ((if mantissa / 10 < roomLimit then rest.take 1 else rest).find? Char.isDigit).getD '0'

/-- Ends a numeral before digits that do not fit: the first of them rounds the
last place, five or more upwards. Only digits and underscores may be left. -/
def roundOff (mantissa scale : Nat) (rest : List Char) : Option (Nat × Nat) :=
  if !(rest.all fun c => c.isDigit || c = '_') then none
  else if '5' ≤ roundingDigit mantissa rest then carry mantissa scale
  else some (mantissa, scale)

/-- Reads digits onto a mantissa. `started` says that a digit came before,
`point` that the decimal point did; an underscore may follow a digit. -/
def readDigits (started point : Bool) (mantissa scale : Nat) : List Char → Option (Nat × Nat)
  | [] => if started then some (mantissa, scale) else none
  | c :: rest =>
    if point && scale = 28 then roundOff mantissa scale (c :: rest)
    else if c.isDigit then
      let grown := mantissa * 10 + (c.toNat - '0'.toNat)
      if grown < limit then
        readDigits true point grown (if point then scale + 1 else 0) rest
      else if point then roundOff mantissa scale (c :: rest)
      else none
    else if c = '.' && !point then readDigits started true mantissa scale rest
    else if c = '_' && started then readDigits started point mantissa scale rest
    else none

/-- Takes a sign off the front. -/
def readSign : List Char → Bool × List Char
  | [] => (false, [])
  | c :: rest => if c = '-' then (true, rest) else (false, if c = '+' then rest else c :: rest)

/-- Reads a numeral without a power of ten. -/
def readPlain (cs : List Char) : Option Decimal :=
  (readDigits false false 0 0 (readSign cs).2).bind fun parts =>
    ofParts? (readSign cs).1 parts.1 parts.2

/-- Reads an unsigned power: digits, after a plus sign or not. -/
def readPower (cs : List Char) : Option Nat :=
  let ds := if cs.head? = some '+' then cs.tail else cs
  if ds ≠ [] ∧ ds.all Char.isDigit then some (Nat.ofDigitChars 10 ds 0) else none

/-- Moves the point to the left by at most 28 places; what would come to stand
behind the 28th place is rounded off, a half going away from zero. -/
def shiftDown (x : Decimal) (power : Nat) : Option Decimal :=
  if 28 < power then none
  else
    let excess := x.scale + power - 28
    ofSignedParts? x.negative (Rounding.halfUp x.mantissa (Nat.pow 10 excess))
      (x.scale + power - excess)

/-- Moves the point to the right; past the last place the number is whole. -/
def shiftUp (x : Decimal) (power : Nat) : Option Decimal :=
  if power ≤ x.scale then ofParts? x.negative x.mantissa (x.scale - power)
  else if 28 < power then none
  else ofParts? x.negative (x.mantissa * Nat.pow 10 (power - x.scale)) 0

/-- Reads a numeral with a power of ten behind `e` or `E`. -/
def readScientific (cs : List Char) : Option Decimal :=
  let isMark := fun c : Char => c = 'e' || c = 'E'
  match cs.dropWhile fun c => !isMark c with
  | [] => none
  | _ :: power =>
    (readPlain (cs.takeWhile fun c => !isMark c)).bind fun base =>
      if power.head? = some '-' then (readPower power.tail).bind base.shiftDown
      else (readPower power).bind base.shiftUp

/-- Reads a numeral, plain if possible and with a power of ten otherwise. -/
def read (cs : List Char) : Option Decimal := readPlain cs <|> readScientific cs

/-- The decimal that a text stands for. -/
def ofString? (text : String) : Option Decimal := read text.toList

/-- The decimal that the shortest text of a double stands for. -/
def ofBinary64? (x : Binary64) : Option Decimal := readPlain x.positionalText.toList

end Joinery.Decimal
