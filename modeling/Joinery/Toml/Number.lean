import Joinery.Json
import Joinery.Word
import Joinery.Text.Hex

/-!
# Numbers in TOML

Whole numbers have 64 bits and a sign and may be written in base 2, 8, 10 or 16;
numbers with a fraction or a power of ten are doubles. Underscores may stand
between digits. The words `inf` and `nan` are numbers that no document can hold
as a value; they are read as nothing.
-/

namespace Joinery.Toml

/-- The digits without the underscores between them: at least one digit, and one
on each side of every underscore. -/
def readDigits (isDigit : Char → Bool) : List Char → Option (List Char)
  | [] => none
  | [c] => if isDigit c then some [c] else none
  | c :: '_' :: rest =>
    if isDigit c then (readDigits isDigit rest).map fun ds => c :: ds else none
  | c :: rest => if isDigit c then (readDigits isDigit rest).map fun ds => c :: ds else none

/-- Decimal digits without a zero in front. -/
def readWhole (cs : List Char) : Option (List Char) :=
  (readDigits Char.isDigit cs).bind fun ds =>
    if ds.head? = some '0' ∧ 1 < ds.length then none else some ds

/-- A whole number of 64 bits with a sign. -/
def whole? (n : Int) : Option Json := (int64? n).map fun _ => .int n

/-- Whether a character is a digit of a base up to 16. -/
def isDigitOf (base : Nat) (c : Char) : Bool := (Text.hexValue? c).any (· < base)

/-- The value of digits of a base up to 16. -/
def valueOf (base : Nat) (ds : List Char) : Nat :=
  ds.foldl (fun sum c => sum * base + (Text.hexValue? c).getD 0) 0

/-- Reads a whole number after the letter that names its base. -/
def readBased (base : Nat) (cs : List Char) : Option Json :=
  (readDigits (isDigitOf base) cs).bind fun ds => whole? (valueOf base ds)

/-- Takes a sign off the front. -/
def readSign : List Char → Bool × List Char
  | '-' :: rest => (true, rest)
  | '+' :: rest => (false, rest)
  | cs => (false, cs)

/-- The double nearest to digits times a power of ten. A number above the
greatest double is refused; one below the least is no value. -/
def double? (negative : Bool) (digits : List Char) (power : Int) : Option Json :=
  let n := Nat.ofDigitChars 10 digits 0
  let size : Int := (Nat.toDigits 10 n).length + power
  let nearest : Option Binary64 :=
    if n = 0 ∨ size < -400 then some (.zero negative)
    else if 400 < size then none
    else Binary64.ofDecimal negative n power
  match nearest with
  | some x => some (.real x)
  | none => if negative then some .null else none

/-- Splits a text at the first character of a kind, which goes to neither part. -/
def splitAt (mark : Char → Bool) (cs : List Char) : List Char × Option (List Char) :=
  (cs.takeWhile fun c => !mark c, (cs.dropWhile fun c => !mark c).tail?)

/-- Reads an optional power of ten. -/
def readPower : Option (List Char) → Option Int
  | none => some 0
  | some cs =>
    let (negative, ds) := readSign cs
    (readDigits Char.isDigit ds).map fun ds =>
      let n : Int := Nat.ofDigitChars 10 ds 0
      if negative then -n else n

/-- Reads an optional fraction: its digits. -/
def readFraction : Option (List Char) → Option (List Char)
  | none => some []
  | some cs => readDigits Char.isDigit cs

/-- Reads a decimal number after its sign. -/
def readDecimal (negative : Bool) (cs : List Char) : Option Json := do
  let (mantissa, power) := splitAt (fun c => c = 'e' || c = 'E') cs
  let (whole, fraction) := splitAt (fun c => c = '.') mantissa
  let ds ← readWhole whole
  if power = none ∧ fraction = none then
    let n : Int := Nat.ofDigitChars 10 ds 0
    whole? (if negative then -n else n)
  else
    let places ← readFraction fraction
    let power ← readPower power
    double? negative (ds ++ places) (power - places.length)

/-- Reads a number. -/
def readNumber : List Char → Option Json
  | '0' :: 'x' :: ds => readBased 16 ds
  | '0' :: 'o' :: ds => readBased 8 ds
  | '0' :: 'b' :: ds => readBased 2 ds
  | cs =>
    let (negative, body) := readSign cs
    if body = ['i', 'n', 'f'] ∨ body = ['n', 'a', 'n'] then some .null
    else readDecimal negative body

/-- Reads a value that is not quoted. -/
def readWord (cs : List Char) : Option Json :=
  if cs = ['t', 'r', 'u', 'e'] then some (.bool true)
  else if cs = ['f', 'a', 'l', 's', 'e'] then some (.bool false)
  else readNumber cs

end Joinery.Toml
