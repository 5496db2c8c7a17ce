import Joinery.Flags

/-!
# Furniture specifications and their canonical code

A specification names a preset, its dimensions in millimetres and the features
asked for. Its canonical code writes these as `preset(d1,...,dn)flags` with the
flags in ascending order, so specifications that differ only in the order in
which flags were typed share one code.
-/

namespace Joinery

/-- A piece of furniture as a code describes it, not yet compared with any
preset. -/
structure Specification where
  /-- The preset family, such as `M1`. -/
  presetId : String
  /-- Millimetres, in the order of the preset's slots. -/
  dimensions : List UInt32
  /-- The features asked for. -/
  flags : FlagSet
deriving DecidableEq

namespace Specification

/-- Numerals separated by commas. -/
def dimensionChars : List UInt32 → List Char
  | [] => []
  | [d] => Nat.toDigits 10 d.toNat
  | d :: rest => Nat.toDigits 10 d.toNat ++ ',' :: dimensionChars rest

/-- The characters of the canonical code. -/
def canonicalChars (spec : Specification) : List Char :=
  spec.presetId.toList ++ '(' :: (dimensionChars spec.dimensions ++ ')' :: spec.flags.toList)

/-- The canonical code: preset, dimensions in parentheses, ascending flags. -/
def canonicalCode (spec : Specification) : String := String.ofList spec.canonicalChars

end Specification

end Joinery
