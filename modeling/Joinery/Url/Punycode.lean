/-!
# Punycode

Labels of domain names beyond ASCII are written with ASCII characters only: the
ASCII characters of the label, then its other characters in ascending order as
differences, in digits of base 36 with thresholds that adapt to the text.
-/

namespace Joinery.Url.Punycode

/-- The digit of a value below 36. -/
def digit (value : Nat) : Char :=
  if value < 26 then Char.ofNat ('a'.toNat + value) else Char.ofNat ('0'.toNat + value - 26)

/-- The value of a lower case digit. -/
def digitValue? (c : Char) : Option Nat :=
  if 'a' ≤ c ∧ c ≤ 'z' then some (c.toNat - 'a'.toNat)
  else if c.isDigit then some (c.toNat - '0'.toNat + 26)
  else none

/-- The threshold of a position. -/
def threshold (position bias : Nat) : Nat := min 26 (max 1 (position - bias))

theorem threshold_bounds (position bias : Nat) :
    1 ≤ threshold position bias ∧ threshold position bias ≤ 26 := by
  unfold threshold
  omega

/-- Divides by 35 down to 455, counting positions. -/
def shrink (delta position : Nat) : Nat × Nat :=
  if 455 < delta then shrink (delta / 35) (position + 36) else (delta, position)
termination_by delta
decreasing_by omega

/-- The bias after a difference, for the number of characters placed so far. -/
def adapt (delta placed : Nat) (first : Bool) : Nat :=
  let scaled := if first then delta / 700 else delta / 2
  let (small, position) := shrink (scaled + scaled / placed) 0
  position + 36 * small / (small + 38)

/-- A difference in digits, lowest first. -/
def differenceDigits (bias position delta : Nat) : List Char :=
  let t := threshold position bias
  if delta < t then [digit delta]
  else
    digit (t + (delta - t) % (36 - t)) ::
      differenceDigits bias (position + 36) ((delta - t) / (36 - t))
termination_by delta
decreasing_by
  have bounds := threshold_bounds position bias
  have := Nat.div_le_self (delta - threshold position bias) (36 - threshold position bias)
  omega

/-- What has been written, and the state of the differences. -/
structure Progress where
  written : List Char
  delta : Nat
  bias : Nat
  placed : Nat

/-- Passes one character of the label while characters with code `point` are
being placed. -/
def pass (basic point : Nat) (p : Progress) (c : Char) : Progress :=
  if c.toNat < point then { p with delta := p.delta + 1 }
  else if c.toNat = point then
    { written := p.written ++ differenceDigits p.bias 36 p.delta
      delta := 0
      bias := adapt p.delta (p.placed + 1) (p.placed = basic)
      placed := p.placed + 1 }
  else p

/-- Places the characters with the codes given, which ascend from `next` on. -/
def placeAll (label : List Char) (basic : Nat) : List Nat → Nat → Progress → List Char
  | [], _, p => p.written
  | point :: rest, next, p =>
    let p := { p with delta := p.delta + (point - next) * (p.placed + 1) }
    let p := label.foldl (pass basic point) p
    placeAll label basic rest (point + 1) { p with delta := p.delta + 1 }

/-- The written form of a label. -/
def encode (label : List Char) : List Char :=
  let basic := label.filter fun c => c.toNat < 0x80
  let points := ((label.map Char.toNat).filter (0x80 ≤ ·)).mergeSort.eraseDups
  let start := if basic = [] then [] else basic ++ ['-']
  placeAll label basic.length points 0x80 ⟨start, 0, 72, basic.length⟩

/-- Reads a difference: its value added to `sum`, and the rest. -/
def readDifference (bias : Nat) : Nat → Nat → Nat → List Char → Option (Nat × List Char)
  | _, _, _, [] => none
  | position, weight, sum, c :: rest =>
    match digitValue? c with
    | none => none
    | some value =>
      let sum := sum + value * weight
      let t := threshold position bias
      if value < t then some (sum, rest)
      else readDifference bias (position + 36) (weight * (36 - t)) sum rest

/-- Inserts the characters that differences place into a label. The budget
bounds their number. -/
def insertAll : Nat → Nat → Nat → Nat → List Char → List Char → Option (List Char)
  | _, _, _, _, label, [] => some label
  | 0, _, _, _, _, _ :: _ => none
  | budget + 1, point, index, bias, label, cs =>
    match readDifference bias 36 1 index cs with
    | none => none
    | some (sum, rest) =>
      let size := label.length + 1
      let bias := adapt (sum - index) size (index = 0 && point = 0x80)
      let point := point + sum / size
      let place := sum % size
      if h : point.isValidChar then
        let c := Char.ofNatAux point h
        insertAll budget point (place + 1) bias (label.take place ++ c :: label.drop place) rest
      else none

/-- The label of a written form. A hyphen parts the ASCII characters from the
differences; there is none without ASCII characters. -/
def decode? (cs : List Char) : Option (List Char) :=
  let tail := (cs.reverse.takeWhile (· ≠ '-')).reverse
  let front := cs.take (cs.length - tail.length)
  if front = ['-'] then none else insertAll tail.length 0x80 0 72 front.dropLast tail

end Joinery.Url.Punycode
