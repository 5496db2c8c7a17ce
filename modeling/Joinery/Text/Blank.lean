/-!
# Blank characters

The characters with the Unicode property `White_Space`. A furniture code may
contain none of them, wherever it stands in a text.
-/

namespace Joinery.Text

/-- The inclusive code point ranges of the blank characters, in ascending
order: tabs and line ends, the space, and the spaces of other scripts. -/
def blankRanges : List (Nat × Nat) :=
  [(0x09, 0x0D), (0x20, 0x20), (0x85, 0x85), (0xA0, 0xA0), (0x1680, 0x1680),
    (0x2000, 0x200A), (0x2028, 0x2029), (0x202F, 0x202F), (0x205F, 0x205F),
    (0x3000, 0x3000)]

/-- A character is blank when its code point lies in one of the ranges. -/
def isBlank (c : Char) : Bool :=
  blankRanges.any fun range => range.1 ≤ c.toNat && c.toNat ≤ range.2

end Joinery.Text
