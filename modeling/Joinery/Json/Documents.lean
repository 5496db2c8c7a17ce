import Joinery.Json
import Joinery.Pricing.Quote

/-!
# JSON documents for specifications and prices

The JSON form of each domain value: what listings print, what a stored
configuration carries and what an error report contains. Amounts are texts, so
that no digit is lost; flag sets are lists of one-character texts.
-/

namespace Joinery

/-- A flag as a text of one character. -/
def flagJson (flag : Char) : Json := .str (String.singleton flag)

/-- The flags in ascending order. -/
def FlagSet.toJson (flags : FlagSet) : Json := .arr (flags.toList.map flagJson)

/-- The preset, dimensions and flags of a specification. -/
def Specification.toJson (spec : Specification) : Json :=
  .obj [("preset_id", .str spec.presetId),
    ("dimensions", .arr (spec.dimensions.map fun d => .int d.toNat)),
    ("flags", spec.flags.toJson)]

/-- The document of a checked specification is that of the specification. -/
def CheckedSpecification.toJson (checked : CheckedSpecification) : Json := checked.spec.toJson

/-- The ends of a range. -/
def DimensionRange.toJson (range : DimensionRange) : Json :=
  .obj [("min", .int range.min.toNat), ("max", .int range.max.toNat)]

/-- Everything a preset says. -/
def Preset.toJson (preset : Preset) : Json :=
  .obj [("id", .str preset.id), ("label", .str preset.label),
    ("slot_names", .arr (preset.slotNames.map .str)),
    ("dimension_ranges", .arr (preset.ranges.map DimensionRange.toJson)),
    ("allowed_flags", preset.allowed.toJson), ("required_flags", preset.required.toJson)]

/-- The kind of a cause, and the character found if there is one. -/
def CodeFault.Cause.toJson : CodeFault.Cause → Json
  | .empty => .obj [("kind", .str "empty")]
  | .invalidPresetId => .obj [("kind", .str "invalid_preset_id")]
  | .expectedOpenParen => .obj [("kind", .str "expected_open_paren")]
  | .emptyDimension => .obj [("kind", .str "empty_dimension")]
  | .invalidDimension c => .obj [("kind", .str "invalid_dimension"), ("char", flagJson c)]
  | .leadingZero => .obj [("kind", .str "leading_zero")]
  | .dimensionOverflow => .obj [("kind", .str "dimension_overflow")]
  | .unclosedParenthesis => .obj [("kind", .str "unclosed_parenthesis")]
  | .invalidFlag c => .obj [("kind", .str "invalid_flag"), ("char", flagJson c)]
  | .duplicateFlag c => .obj [("kind", .str "duplicate_flag"), ("char", flagJson c)]
  | .whitespace => .obj [("kind", .str "whitespace")]

/-- The offset and the cause. -/
def CodeFault.toJson (fault : CodeFault) : Json :=
  .obj [("position", .int fault.position), ("reason", fault.cause.toJson)]

/-- The kind of a disagreement and its particulars. -/
def Violation.toJson : Violation → Json
  | .unknownPreset id => .obj [("kind", .str "unknown_preset"), ("preset_id", .str id)]
  | .arityMismatch expected actual =>
    .obj [("kind", .str "arity_mismatch"), ("expected", .int expected), ("actual", .int actual)]
  | .outOfRange slot name range actual =>
    .obj [("kind", .str "out_of_range"), ("slot", .int slot), ("slot_name", .str name),
      ("min", .int range.min.toNat), ("max", .int range.max.toNat),
      ("actual", .int actual.toNat)]
  | .missingRequiredFlag flag =>
    .obj [("kind", .str "missing_required_flag"), ("flag", flagJson flag)]
  | .unknownFlag flag => .obj [("kind", .str "unknown_flag"), ("flag", flagJson flag)]

/-- The disagreements in order. -/
def Violations.toJson (violations : Violations) : Json :=
  .arr (violations.toList.map Violation.toJson)

/-- The stage at which a code failed, and what was found there. -/
def SpecificationFault.toJson : SpecificationFault → Json
  | .malformed fault => .obj [("stage", .str "syntax"), ("errors", fault.toJson)]
  | .invalid violations => .obj [("stage", .str "invalid"), ("errors", violations.toJson)]

/-- A decimal as its text. -/
def Decimal.toJson (x : Decimal) : Json := .str x.text

/-- An amount as the text of its decimal. -/
def Money.toJson (x : Money) : Json := x.amount.toJson

/-- The name, description and price of a tier. -/
def PriceTier.toJson (tier : PriceTier) : Json :=
  .obj [("name", .str tier.name), ("description", .str tier.description),
    ("price_per_cubic_meter", tier.pricePerCubicMeter.toJson)]

/-- Everything a catalog says about a supplement. -/
def Supplement.toJson (supplement : Supplement) : Json :=
  .obj [("id", .str supplement.id), ("kind", .str supplement.kind.text),
    ("label", .str supplement.label), ("unit_price", supplement.unitPrice.toJson)]

/-- A supplement chosen and its quantity. -/
def SupplementLine.toJson (line : SupplementLine) : Json :=
  .obj [("id", .str line.id), ("kind", .str line.kind.text),
    ("unit_price", line.unitPrice.toJson), ("quantity", .int line.quantity.toNat)]

/-- The lines of a selection. -/
def Selection.toJson (selection : Selection) : Json :=
  .obj [("lines", .arr (selection.lines.map SupplementLine.toJson))]

/-- The amounts of a quote; the total is a whole number. -/
def Quote.toJson (quote : Quote) : Json :=
  .obj [("volume_cubic_meters", quote.volume.toJson), ("base_price", quote.basePrice.toJson),
    ("supplements_total", quote.supplementsTotal.toJson),
    ("total_price", .int quote.totalPrice.toInt),
    ("height_policy", .str quote.heightPolicy.text)]

/-- The decimal that a JSON value stands for: the numeral in a text, a whole
number, or the shortest decimal of a double. -/
def Decimal.ofJson? : Json → Option Decimal
  | .str s => ofString? s
  | .int n => ofInt? n
  | .real x => ofBinary64? x
  | _ => none

end Joinery
