import Joinery.Text.Hex

/-!
# Tables of characters

Properties of characters are written as texts of hexadecimal code points with
blanks between the entries: `5BE` for one character, `660-669` for a range. Other
properties than the image of a character are listed only for characters that
have themselves as image, since no others are left in a name.
-/

namespace Joinery.Url.Domain

/-- The entries of the lines of a table. -/
def entriesOf (lines : List String) : List (List Char) :=
  lines.flatMap fun line => line.toList.splitOn ' '

/-- The code point that hexadecimal digits stand for. -/
def codeOf (cs : List Char) : Nat := (Text.hexNumber? cs).getD 0

/-- The two parts of an entry around a mark. -/
def partsOf (mark : Char) (cs : List Char) : List Char × List Char :=
  (cs.takeWhile (· ≠ mark), (cs.dropWhile (· ≠ mark)).drop 1)

/-- The first and the last code point of an entry. -/
def rangeOf (cs : List Char) : Nat × Nat :=
  if cs.contains '-' then (codeOf (partsOf '-' cs).1, codeOf (partsOf '-' cs).2)
  else (codeOf cs, codeOf cs)

/-- The ranges of a table. -/
def rangesOf (lines : List String) : List (Nat × Nat) := (entriesOf lines).map rangeOf

/-- Whether the code point of a character lies in one of some ranges. -/
def isWithin (ranges : List (Nat × Nat)) (c : Char) : Bool :=
  ranges.any fun range => range.1 ≤ c.toNat && c.toNat ≤ range.2

end Joinery.Url.Domain
