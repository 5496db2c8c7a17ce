import Joinery.Json
import Joinery.Text.Hex

/-!
# Reading JSON

Values nest at most 127 deep. A whole number of 64 bits stays whole; any other
number becomes a double. A double is read from the first digits that fit 64
bits, times a power of ten, in double arithmetic; a magnitude beyond the
greatest double is refused. Where a structure is read, the values of fields that
it does not have are passed over: they must be JSON, but may nest deeper, hold
greater numbers, and have halves of pairs on their own in their texts.
-/

namespace Joinery.Json

/-- Blanks between the parts of a value. -/
def isGap (c : Char) : Bool := c = ' ' || c = '\t' || c = '\n' || c = '\r'

/-- The text after the blanks at its front. -/
def skipGap (cs : List Char) : List Char := cs.dropWhile isGap

/-- What a letter after a backslash stands for, `u` apart. -/
def escaped? (c : Char) : Option Char :=
  if c = '"' ∨ c = '\\' ∨ c = '/' then some c
  else if c = 'b' then some '\x08'
  else if c = 'f' then some '\x0c'
  else if c = 'n' then some '\n'
  else if c = 'r' then some '\r'
  else if c = 't' then some '\t'
  else none

/-- Whether a 16 bit unit is the first half of a pair. -/
def isHighHalf (unit : Nat) : Bool := 0xD800 ≤ unit && unit ≤ 0xDBFF

/-- Whether a 16 bit unit is the second half of a pair. -/
def isLowHalf (unit : Nat) : Bool := 0xDC00 ≤ unit && unit ≤ 0xDFFF

/-- Reads the characters of a text up to its closing quote. Control characters
and halves of pairs on their own are refused. -/
def readText : List Char → Option (List Char × List Char)
  | [] => none
  | '"' :: rest => some ([], rest)
  | '\\' :: 'u' :: a :: b :: c :: d :: rest =>
    match Text.hexNumber? [a, b, c, d] with
    | none => none
    | some unit =>
      if isLowHalf unit then none
      else if isHighHalf unit then
        match rest with
        | '\\' :: 'u' :: e :: f :: g :: h :: rest =>
          match Text.hexNumber? [e, f, g, h] with
          | none => none
          | some low =>
            if isLowHalf low then
              let point := 0x10000 + (unit - 0xD800) * 0x400 + (low - 0xDC00)
              (readText rest).map fun r => (Char.ofNat point :: r.1, r.2)
            else none
        | _ => none
      else (readText rest).map fun r => (Char.ofNat unit :: r.1, r.2)
  | '\\' :: c :: rest =>
    match escaped? c with
    | none => none
    | some char => (readText rest).map fun r => (char :: r.1, r.2)
  | c :: rest =>
    if c.toNat < 0x20 ∨ c = '\\' then none
    else (readText rest).map fun r => (c :: r.1, r.2)

/-- The greatest digit string kept of a number, plus one. -/
def keptLimit : Nat := UInt64.size

/-- Keeps digits while the number stays below `2 ^ 64`; returns it with the
digits left over. -/
def keepDigits (kept : Nat) : List Char → Nat × List Char
  | [] => (kept, [])
  | c :: rest =>
    let grown := 10 * kept + (c.toNat - '0'.toNat)
    if grown < keptLimit then keepDigits grown rest else (kept, c :: rest)

/-- The double nearest to `10 ^ power`, for powers up to 308. -/
def powerOfTen (power : Nat) : Binary64 :=
  (Binary64.nearest false (Nat.pow 10 power) 1).getD (.zero false)

/-- Divides a double by `10 ^ 308` some number of times, then by a smaller power
of ten. -/
def scaleDown (last : Nat) : Nat → Binary64 → Option Binary64
  | 0, x => x.div (powerOfTen last)
  | steps + 1, x =>
    if x.isZero then some x else (x.div (powerOfTen 308)).bind (scaleDown last steps)

/-- Multiplies a double by a power of ten, in steps of at most 308. A result
beyond the greatest double is refused. -/
def scaleByTen (x : Binary64) (power : Int) : Option Binary64 :=
  if 0 ≤ power then
    if power ≤ 308 then x.mul (powerOfTen power.toNat)
    else if x.isZero then some x
    else none
  else
    let down := power.natAbs
    scaleDown ((down - 1) % 308 + 1) ((down - 1) / 308) x

/-- The number with a sign, digits before and after the point and a power of
ten. Without point and power, it is whole if it fits 64 bits and is not minus
zero. -/
def numberOf (negative : Bool) (whole : List Char) (fraction : Option (List Char))
    (power : Option Int) : Option Json :=
  let (kept, left) := keepDigits 0 whole
  let isWhole := left = [] ∧ fraction = none ∧ power = none
  if isWhole ∧ (!negative ∨ (kept ≠ 0 ∧ kept ≤ 9223372036854775808)) then
    some (int (if negative then -kept else kept))
  else
    let places := fraction.getD []
    let (digits, cut) := keepDigits kept places
    let exponent : Int := left.length - (places.length - cut.length : Nat) + power.getD 0
    match Binary64.nearest false digits 1 with
    | none => none
    | some magnitude =>
      (scaleByTen magnitude exponent).map fun x => real { x with negative := negative }

/-- Reads digits, at least one. -/
def readDigits (cs : List Char) : Option (List Char × List Char) :=
  match cs.takeWhile Char.isDigit with
  | [] => none
  | ds => some (ds, cs.dropWhile Char.isDigit)

/-- Reads the digits before the point: a zero stands alone. -/
def readWhole (cs : List Char) : Option (List Char × List Char) :=
  (readDigits cs).bind fun r =>
    if r.1.head? = some '0' ∧ 1 < r.1.length then none else some r

/-- Reads the point and the digits after it, if there is a point. -/
def readFraction : List Char → Option (Option (List Char) × List Char)
  | '.' :: rest => (readDigits rest).map fun r => (some r.1, r.2)
  | cs => some (none, cs)

/-- Reads the power of ten, if there is one. -/
def readPower : List Char → Option (Option Int × List Char)
  | [] => some (none, [])
  | c :: rest =>
    if c = 'e' ∨ c = 'E' then
      let negative := rest.head? = some '-'
      let ds := if negative ∨ rest.head? = some '+' then rest.tail else rest
      (readDigits ds).map fun r =>
        let n : Int := Nat.ofDigitChars 10 r.1 0
        (some (if negative then -n else n), r.2)
    else some (none, c :: rest)

/-- Reads a number. -/
def readNumber (cs : List Char) : Option (Json × List Char) :=
  let negative := cs.head? = some '-'
  match readWhole (if negative then cs.tail else cs) with
  | none => none
  | some (whole, rest) =>
    match readFraction rest with
    | none => none
    | some (fraction, rest) =>
      match readPower rest with
      | none => none
      | some (power, rest) =>
        (numberOf negative whole fraction power).map fun n => (n, rest)

/-- A reader takes a value off the front of a text. -/
abbrev Reader (α : Type) := List Char → Option (α × List Char)

/-- Reads one or more items separated by commas, up to a closing character. The
budget bounds their number. -/
def readItems {α : Type} (item : Reader α) (close : Char) : Nat → Reader (List α)
  | 0, _ => none
  | budget + 1, cs =>
    match item (skipGap cs) with
    | none => none
    | some (x, rest) =>
      match skipGap rest with
      | [] => none
      | c :: more =>
        if c = ',' then (readItems item close budget more).map fun r => (x :: r.1, r.2)
        else if c = close then some ([x], more)
        else none

/-- Reads a field: its name, a colon and its value, read as the name demands. -/
def readField {α : Type} (value : String → Reader α) : Reader (String × α)
  | '"' :: cs =>
    match readText cs with
    | none => none
    | some (name, rest) =>
      match skipGap rest with
      | ':' :: more =>
        (value (String.ofList name) (skipGap more)).map fun r => ((String.ofList name, r.1), r.2)
      | _ => none
  | _ => none

/-- Reads a value that nests less than `depth` deep. -/
def readValue : Nat → Reader Json
  | _, 'n' :: 'u' :: 'l' :: 'l' :: rest => some (null, rest)
  | _, 't' :: 'r' :: 'u' :: 'e' :: rest => some (bool true, rest)
  | _, 'f' :: 'a' :: 'l' :: 's' :: 'e' :: rest => some (bool false, rest)
  | _, '"' :: rest => (readText rest).map fun r => (str (String.ofList r.1), r.2)
  | 0, '[' :: _ => none
  | 0, '\x7b' :: _ => none
  | depth + 1, '[' :: rest =>
    match skipGap rest with
    | ']' :: more => some (arr [], more)
    | _ => (readItems (readValue depth) ']' rest.length rest).map fun r => (arr r.1, r.2)
  | depth + 1, '\x7b' :: rest =>
    match skipGap rest with
    | '\x7d' :: more => some (obj [], more)
    | _ =>
      (readItems (readField fun _ => readValue depth) '\x7d' rest.length rest).map fun r =>
        (obj r.1, r.2)
  | _, cs => readNumber cs

/-- Passes over a text up to its closing quote. -/
def passText : List Char → Option (List Char)
  | [] => none
  | '"' :: rest => some rest
  | '\\' :: 'u' :: a :: b :: c :: d :: rest =>
    if (Text.hexNumber? [a, b, c, d]).isSome then passText rest else none
  | '\\' :: c :: rest => if (escaped? c).isSome then passText rest else none
  | c :: rest => if c.toNat < 0x20 ∨ c = '\\' then none else passText rest

/-- Passes over a number. -/
def passNumber (cs : List Char) : Option (List Char) :=
  (readWhole (if cs.head? = some '-' then cs.tail else cs)).bind fun whole =>
    (readFraction whole.2).bind fun fraction => (readPower fraction.2).map Prod.snd

/-- Passes over a field: its name, a colon and its value. -/
def passField (value : Reader Unit) : Reader Unit
  | '"' :: cs =>
    match (passText cs).map skipGap with
    | some (':' :: more) => value (skipGap more)
    | _ => none
  | _ => none

/-- Passes over a value that nests less than `depth` deep. -/
def passValue : Nat → Reader Unit
  | _, 'n' :: 'u' :: 'l' :: 'l' :: rest => some ((), rest)
  | _, 't' :: 'r' :: 'u' :: 'e' :: rest => some ((), rest)
  | _, 'f' :: 'a' :: 'l' :: 's' :: 'e' :: rest => some ((), rest)
  | _, '"' :: rest => (passText rest).map ((), ·)
  | 0, '[' :: _ => none
  | 0, '\x7b' :: _ => none
  | depth + 1, '[' :: rest =>
    match skipGap rest with
    | ']' :: more => some ((), more)
    | _ => (readItems (passValue depth) ']' rest.length rest).map fun r => ((), r.2)
  | depth + 1, '\x7b' :: rest =>
    match skipGap rest with
    | '\x7d' :: more => some ((), more)
    | _ => (readItems (passField (passValue depth)) '\x7d' rest.length rest).map fun r => ((), r.2)
  | _, cs => (passNumber cs).map ((), ·)

/-- How deep values may nest. -/
def depthLimit : Nat := 127

/-- What a text consists of, blanks around it apart. -/
def readAll? {α : Type} (read : Reader α) (text : String) : Option α :=
  match read (skipGap text.toList) with
  | some (value, rest) => if skipGap rest = [] then some value else none
  | none => none

/-- The value that a text consists of. -/
def parse? (text : String) : Option Json := readAll? (readValue depthLimit) text

/-- Reads the value of a field of a structure with these fields; the value of any
other field is passed over. -/
def readKnown (names : List String) (name : String) : Reader (Option Json) := fun cs =>
  if names.contains name then (readValue (depthLimit - 1) cs).map fun r => (some r.1, r.2)
  else (passValue cs.length cs).map fun r => (none, r.2)

/-- Reads a structure with these fields; an object is left with these only. -/
def readStructure (names : List String) : Reader Json
  | '\x7b' :: rest =>
    match skipGap rest with
    | '\x7d' :: more => some (obj [], more)
    | _ =>
      (readItems (readField (readKnown names)) '\x7d' rest.length rest).map fun r =>
        (obj (r.1.filterMap fun field => field.2.map (field.1, ·)), r.2)
  | cs => readValue depthLimit cs

/-- The structure with these fields that a text consists of. -/
def parseStructure? (names : List String) (text : String) : Option Json :=
  readAll? (readStructure names) text

end Joinery.Json
