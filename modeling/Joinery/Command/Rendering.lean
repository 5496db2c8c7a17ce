import Joinery.Configurator

/-!
# Results as text

What the program shows to people: columns of fixed width, one thing a line. A
column that is too narrow for a text is exceeded, not cut.
-/

namespace Joinery.Rendering

/-- A text with blanks after it up to a width. -/
def padRight (width : Nat) (text : String) : String :=
  text ++ String.ofList (List.replicate (width - text.length) ' ')

/-- A text with blanks before it up to a width. -/
def padLeft (width : Nat) (text : String) : String :=
  String.ofList (List.replicate (width - text.length) ' ') ++ text

/-- Texts one after the other. -/
def concat (texts : List String) : String := texts.foldr (· ++ ·) ""

/-- The line of a dimension slot. -/
def slotLine (name : String) (range : DimensionRange) : String :=
  s!"    {padRight 11 name} {range.min}–{range.max} mm\n"

/-- A preset with its slots and flags. -/
def preset (p : Preset) : String :=
  let slots := (List.range p.arity).zip p.ranges
  let required := if p.required.isEmpty then "none" else p.required.text
  s!"{p.id}  {p.label}\n" ++ concat (slots.map fun slot => slotLine (p.slotName slot.1) slot.2)
    ++ s!"    flags       {p.allowed.text} (required: {required})\n"

/-- The presets of a registry. -/
def presets (registry : Registry) : String := concat (registry.toList.map preset)

/-- A specification that is on offer. -/
def accepted (checked : CheckedSpecification) : String := s!"ok  {checked.canonicalCode}\n"

/-- What is wrong with a code: a caret under the place where it cannot be read, or
the fields that are not on offer. -/
def specificationFault (code : String) : SpecificationFault → String
  | .malformed fault =>
    s!"{code}\n" ++ padLeft fault.position "" ++ s!"^ {fault.cause.message}\n"
  | .invalid violations =>
    s!"{code} is invalid:\n"
      ++ concat (violations.toList.map fun v => s!"  {padRight 16 v.field} {v.message}\n")

/-- A supplement chosen, with its price. -/
def lineText (line : SupplementLine) : String :=
  let total :=
    match line.total with
    | .ok total => total.display
    | .error fault => fault.message
  s!"  + {line.quantity} × {padRight 6 line.id} {total}\n"

/-- A quote with what it is for. -/
def quote (quoted : Quoted) : String :=
  let q := quoted.quote
  s!"{quoted.checked.canonicalCode}\n  tier        {quoted.tier}\n"
    ++ s!"  volume      {q.volume.text} m³ ({q.heightPolicy.text})\n"
    ++ s!"  base        {q.basePrice.display}\n"
    ++ concat (quoted.selection.lines.map lineText)
    ++ s!"  total       {q.totalPrice}\n"

/-- A tier on offer. -/
def tierLine (tier : PriceTier) : String :=
  s!"  {padRight 12 tier.name} {padLeft 8 tier.pricePerCubicMeter.text} /m³  {tier.description}\n"

/-- A supplement on offer. -/
def supplementLine (s : Supplement) : String :=
  s!"  {padRight 12 s.id} {s.unitPrice.display}      {s.label} ({s.kind.text})\n"

/-- The tiers and supplements on offer. -/
def catalog (prices : PriceList) : String :=
  s!"tiers (default: {prices.defaults.tier})\n" ++ concat (prices.tiers.toList.map tierLine)
    ++ "supplements\n" ++ concat (prices.supplements.toList.map supplementLine)

/-- The addresses of artifacts. -/
def artifacts (title : String) (a : Artifacts) : String :=
  s!"{title}\n  glb  {a.glbUrl}\n"
    ++ (match a.dxfUrl with
      | some dxf => s!"  dxf  {dxf}\n"
      | none => "")

/-- What became of a model. -/
def status : ArtifactStatus → String
  | .ready a => artifacts "artifacts" a
  | .unavailable reason => s!"artifacts unavailable: {reason}\n"

/-- A stored design with its quote and its model. -/
def finalized (f : Finalized) : String :=
  s!"stored {f.quoted.checked.canonicalCode} as '{f.stored.design.name}' (id {f.stored.id})\n"
    ++ quote f.quoted ++ status f.artifacts

end Joinery.Rendering
