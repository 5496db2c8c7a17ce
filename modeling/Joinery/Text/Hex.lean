/-!
# Hexadecimal digits
-/

namespace Joinery.Text

/-- The value of a hexadecimal digit of either case. -/
def hexValue? (c : Char) : Option Nat :=
  if c.isDigit then some (c.toNat - '0'.toNat)
  else if 'a' ≤ c ∧ c ≤ 'f' then some (c.toNat - 'a'.toNat + 10)
  else if 'A' ≤ c ∧ c ≤ 'F' then some (c.toNat - 'A'.toNat + 10)
  else none

/-- The value of a run of hexadecimal digits. -/
def hexNumber? (cs : List Char) : Option Nat :=
  cs.foldl (fun sum c => sum.bind fun n => (hexValue? c).map (16 * n + ·)) (some 0)

/-- The lower case digit of a value below 16. -/
def hexDigit (n : Nat) : Char := Nat.digitChar (n % 16)

/-- The upper case digit of a value below 16. -/
def hexDigitUpper (n : Nat) : Char := (hexDigit n).toUpper

theorem hexValue?_hexDigit (n : Nat) (h : n < 16) : hexValue? (hexDigit n) = some n := by
  revert n
  decide

theorem hexValue?_hexDigitUpper (n : Nat) (h : n < 16) :
    hexValue? (hexDigitUpper n) = some n := by
  revert n
  decide

end Joinery.Text
