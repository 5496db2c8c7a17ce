import Joinery.Configurator
import Joinery.Proofs.Decimal.RoundTrip
import Mathlib.Data.List.Forall2

/-!
# The data of a design

What was quoted and what became of its model go into one document, which the store keeps. Main
statement: the document has a field for each part, and each field tells its part as it was
quoted. Amounts and words are texts there, from which they can be read again.
-/

namespace Joinery

/-- The document on a specification: its dimensions, flags and preset. -/
inductive Specification.Documents : Specification → Json → Prop
  | intro (spec : Specification) : Documents spec
      (.obj [("dimensions", .arr (spec.dimensions.map fun size => .int size.toNat)),
        ("flags", .arr (spec.flags.toList.map fun flag => .str (String.singleton flag))),
        ("preset_id", .str spec.presetId)])

/-- The text of an amount, from which it can be read again; a zero has no sign there. -/
def Money.IsReadFrom (money : Money) (text : String) : Prop :=
  Decimal.ofString? text = some money.amount.withoutZeroSign

/-- The document on a supplement that was chosen. -/
inductive SupplementLine.Documents : SupplementLine → Json → Prop
  | intro {line : SupplementLine} {kind price : String}
      (kind_read : SupplementKind.ofString? kind = some line.kind)
      (price_read : line.unitPrice.IsReadFrom price) :
      Documents line (.obj [("id", .str line.id), ("kind", .str kind),
        ("quantity", .int line.quantity.toNat), ("unit_price", .str price)])

/-- The document on a quote: its amounts, and how the height was taken. -/
inductive Quote.Documents : Quote → Json → Prop
  | intro {quote : Quote} {base policy supplements volume : String}
      (base_read : quote.basePrice.IsReadFrom base)
      (policy_read : HeightPolicy.ofString? policy = some quote.heightPolicy)
      (supplements_read : quote.supplementsTotal.IsReadFrom supplements)
      (volume_read : Decimal.ofString? volume = some quote.volume.withoutZeroSign) :
      Documents quote (.obj [("base_price", .str base), ("height_policy", .str policy),
        ("supplements_total", .str supplements), ("total_price", .int quote.totalPrice.toInt),
        ("volume_cubic_meters", .str volume)])

/-- The document on a model says where it is, or why there is none. -/
inductive ArtifactStatus.Documents : Except ServiceFault Artifacts → Json → Prop
  | planned (glb dxf : String) : Documents (.ok ⟨glb, some dxf⟩)
      (.obj [("dxf_url", .str dxf), ("glb_url", .str glb), ("status", .str "ready")])
  | drawn (glb : String) : Documents (.ok ⟨glb, none⟩)
      (.obj [("dxf_url", .null), ("glb_url", .str glb), ("status", .str "ready")])
  | failed (fault : ServiceFault) : Documents (.error fault)
      (.obj [("reason", .str fault.message), ("status", .str "unavailable")])

/-- The document on all that a design consists of. -/
inductive Quoted.Documents (quoted : Quoted) (closed : Bool)
    (generation : Except ServiceFault Artifacts) : Json → Prop
  | intro {model quote specification : Json} {lines : List Json}
      (modelled : ArtifactStatus.Documents generation model)
      (priced : quoted.quote.Documents quote)
      (specified : quoted.checked.spec.Documents specification)
      (chosen : List.Forall₂ SupplementLine.Documents quoted.selection.lines lines) :
      Documents quoted closed generation (.obj [("artifacts", model), ("closed", .bool closed),
        ("quote", quote), ("specification", specification),
        ("supplements", .obj [("lines", .arr lines)]), ("tier", .str quoted.tier)])

theorem Specification.documents_sorted (spec : Specification) :
    spec.Documents spec.toJson.sorted := by
  simpa only [toJson, FlagSet.toJson, flagJson, Json.sortedItems_map, Json.sorted,
    Json.sortedFields_cons, Json.sortedFields_nil, Json.insertField, String.reduceLT,
    reduceIte] using Documents.intro spec

theorem SupplementLine.documents_sorted (line : SupplementLine) :
    line.Documents line.toJson.sorted := by
  simpa only [toJson, Money.toJson, Decimal.toJson, Json.sorted, Json.sortedFields_cons,
    Json.sortedFields_nil, Json.insertField, String.reduceLT, reduceIte] using
    Documents.intro (SupplementKind.ofString?_text line.kind)
      (Decimal.ofString?_text line.unitPrice.amount)

theorem Quote.documents_sorted (quote : Quote) : quote.Documents quote.toJson.sorted := by
  simpa only [toJson, Money.toJson, Decimal.toJson, Json.sorted, Json.sortedFields_cons,
    Json.sortedFields_nil, Json.insertField, String.reduceLT, reduceIte] using
    Documents.intro (Decimal.ofString?_text quote.basePrice.amount)
      (HeightPolicy.ofString?_text quote.heightPolicy)
      (Decimal.ofString?_text quote.supplementsTotal.amount) (Decimal.ofString?_text quote.volume)

theorem ArtifactStatus.documents_sorted (generation : Except ServiceFault Artifacts) :
    Documents generation (ofResult generation).toJson.sorted := by
  obtain fault | ⟨glb, _ | dxf⟩ := generation
  · simpa only [ofResult, toJson, Json.sorted, Json.sortedFields_cons, Json.sortedFields_nil,
      Json.insertField, String.reduceLT, reduceIte] using Documents.failed fault
  · simpa only [ofResult, toJson, Json.optionalStr, Json.sorted, Json.sortedFields_cons,
      Json.sortedFields_nil, Json.insertField, String.reduceLT, reduceIte] using Documents.drawn glb
  · simpa only [ofResult, toJson, Json.optionalStr, Json.sorted, Json.sortedFields_cons,
      Json.sortedFields_nil, Json.insertField, String.reduceLT, reduceIte] using
      Documents.planned glb dxf

/-- The data of a design tells what it was made of. -/
theorem documents_designData (quoted : Quoted) (closed : Bool)
    (generation : Except ServiceFault Artifacts) :
    quoted.Documents closed generation (designData quoted closed (.ofResult generation)) := by
  have chosen : List.Forall₂ SupplementLine.Documents quoted.selection.lines
      (quoted.selection.lines.map fun line => line.toJson.sorted) :=
    List.forall₂_map_right_iff.mpr
      (List.forall₂_same.mpr fun line _ => line.documents_sorted)
  simpa only [designData, Selection.toJson, CheckedSpecification.toJson, Json.sortedItems_map,
    Json.sorted, Json.sortedFields_cons, Json.sortedFields_nil, Json.insertField, String.reduceLT,
    reduceIte] using Quoted.Documents.intro (ArtifactStatus.documents_sorted generation)
      quoted.quote.documents_sorted quoted.checked.spec.documents_sorted chosen

end Joinery
