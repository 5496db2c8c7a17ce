import Joinery.Command.Generate
import Joinery.Proofs.Json.Layout
import Mathlib.Data.List.Forall2

/-!
# What a report on generated models says

Main statement: the report on the results for some codes can be read again. As a document it
has one object for each code, in their order, and as a text the lines on each code, both with
the artifacts or the fault of this code and nothing else.
-/

namespace Joinery.Command

open Preview

/-- The document on a code says how its generation ended: with artifacts or with a fault. -/
inductive Documents (closed : Bool) : String × CallResult → Json → Prop
  | planned (code glb dxf : String) : Documents closed (code, .ok ⟨glb, some dxf⟩)
      (.obj [("artifacts", .obj [("dxf_url", .str dxf), ("glb_url", .str glb)]),
        ("closed", .bool closed), ("code", .str code)])
  | drawn (code glb : String) : Documents closed (code, .ok ⟨glb, none⟩)
      (.obj [("artifacts", .obj [("dxf_url", .null), ("glb_url", .str glb)]),
        ("closed", .bool closed), ("code", .str code)])
  | failed (code : String) (fault : ServiceFault) : Documents closed (code, .error fault)
      (.obj [("closed", .bool closed), ("code", .str code), ("error", .str fault.message)])

/-- The lines on a code say how its generation ended. -/
inductive Tells : String × CallResult → List String → Prop
  | planned (code glb dxf : String) :
      Tells (code, .ok ⟨glb, some dxf⟩) [code, "  glb  " ++ glb, "  dxf  " ++ dxf]
  | drawn (code glb : String) : Tells (code, .ok ⟨glb, none⟩) [code, "  glb  " ++ glb]
  | failed (code : String) (fault : ServiceFault) :
      Tells (code, .error fault) [code, "  failed: " ++ fault.message]

/-- The report on codes and the results for them, in their order. -/
structure ReportsOn (json closed : Bool) (results : List (String × CallResult)) (report : Report) :
    Prop where
  complaint : report.complaint = ""
  documents : json = true → ∃ documents, Json.parse? report.output = some (.arr documents) ∧
    List.Forall₂ (Documents closed) results documents
  lines : json = false → ∃ blocks, List.Forall₂ Tells results blocks ∧
    report.output.toList = blocks.flatten.flatMap fun line => line.toList ++ ['\n']

/-- The report on a code that is not on offer says so of this code. -/
structure ReportsRefusal (json : Bool) (code : String) (report : Report) : Prop where
  exit : report.exit = 2
  complaint : report.complaint = ""
  document : json = true → ∃ details, report.output = (Json.obj [("code", .str code),
    ("error", details), ("valid", .bool false)]).pretty ++ "\n"
  text : json = false → ∃ rest, report.output = code ++ rest

variable {closed : Bool} {entry : String × CallResult} {value : Json}

theorem reportsRefusal_notOnOffer (json : Bool) (code : String) (fault : SpecificationFault) :
    ReportsRefusal json code (.notOnOffer json code fault) where
  exit := rfl
  complaint := rfl
  document := by
    rintro rfl
    refine ⟨fault.toJson.sorted, ?_⟩
    simp only [Report.notOnOffer, Report.document, Json.sorted, Json.sortedFields_cons,
      Json.sortedFields_nil, Json.insertField, String.reduceLT, reduceIte]
  text := by
    rintro rfl
    cases fault <;>
      simp only [Report.notOnOffer, Rendering.specificationFault, Bool.false_eq_true, if_false,
        String.append_assoc] <;>
      exact ⟨_, rfl⟩

/-- What comes of a result is what its document tells. -/
theorem documents_outcomeJson (closed : Bool) (entry : String × CallResult) :
    Documents closed entry (outcomeJson closed (entry.1, .ofResult entry.2)) := by
  obtain ⟨code, fault | ⟨glb, _ | dxf⟩⟩ := entry
  · simpa only [Outcome.ofResult, outcomeJson, Json.sorted, Json.sortedFields_cons,
      Json.sortedFields_nil, Json.insertField, String.reduceLT, reduceIte] using
      Documents.failed code fault
  · simpa only [Outcome.ofResult, outcomeJson, Artifacts.toJson, Json.optionalStr, Json.sorted,
      Json.sortedFields_cons, Json.sortedFields_nil, Json.insertField, String.reduceLT,
      reduceIte] using Documents.drawn code glb
  · simpa only [Outcome.ofResult, outcomeJson, Artifacts.toJson, Json.optionalStr, Json.sorted,
      Json.sortedFields_cons, Json.sortedFields_nil, Json.insertField, String.reduceLT,
      reduceIte] using Documents.planned code glb dxf

/-- A document on a code can be read again. -/
theorem Documents.isWhole (document : Documents closed entry value) :
    value.IsWhole ∧ value.depth ≤ 2 := by
  have object (fields : List (String × Json)) :
      (Json.obj fields).IsWhole ↔ ∀ field ∈ fields, field.2.IsWhole := ⟨.fields, .obj⟩
  cases document <;>
    simp [object, Json.IsWhole.str, Json.IsWhole.bool, Json.IsWhole.null, Json.depth,
      Json.fieldsDepth]

theorem tells_outcomeText (entry : String × CallResult) :
    ∃ lines, Tells entry lines ∧ (outcomeText (entry.1, .ofResult entry.2)).toList =
      lines.flatMap fun line => line.toList ++ ['\n'] := by
  obtain ⟨code, fault | ⟨glb, _ | dxf⟩⟩ := entry
  · exact ⟨_, .failed code fault, by
      simp [Outcome.ofResult, outcomeText, toString, String.toList_append]⟩
  · exact ⟨_, .drawn code glb, by
      simp [Outcome.ofResult, outcomeText, Rendering.artifacts, toString, String.toList_append]⟩
  · exact ⟨_, .planned code glb dxf, by
      simp [Outcome.ofResult, outcomeText, Rendering.artifacts, toString, String.toList_append]⟩

/-- The texts on some results are the lines on them, one after the other. -/
theorem exists_lines (results : List (String × CallResult)) :
    ∃ blocks, List.Forall₂ Tells results blocks ∧
      (Rendering.concat (results.map fun entry =>
          outcomeText (entry.1, .ofResult entry.2))).toList =
        blocks.flatten.flatMap fun line => line.toList ++ ['\n'] := by
  induction results with
  | nil => exact ⟨[], .nil, rfl⟩
  | cons entry rest ih =>
      obtain ⟨blocks, all, text⟩ := ih
      obtain ⟨lines, told, front⟩ := tells_outcomeText entry
      refine ⟨lines :: blocks, .cons told all, ?_⟩
      rw [List.flatten_cons, List.flatMap_append, ← front, ← text, ← String.toList_append]
      rfl

/-- The report on the outcomes that results lead to is the report on these results. -/
theorem reportsOn_generationReport (json closed : Bool) (results : List (String × CallResult)) :
    ReportsOn json closed results
      (generationReport json closed (results.map fun entry => (entry.1, .ofResult entry.2))) where
  complaint := rfl
  documents := by
    rintro rfl
    let documents := results.map fun entry => outcomeJson closed (entry.1, .ofResult entry.2)
    have all : List.Forall₂ (Documents closed) results documents :=
      List.forall₂_map_right_iff.mpr
        (List.forall₂_same.mpr fun entry _ => documents_outcomeJson closed entry)
    have read : ∀ value ∈ documents, value.IsWhole ∧ value.depth ≤ 2 := by
      intro value mem
      obtain ⟨entry, -, rfl⟩ := List.mem_map.mp mem
      exact (documents_outcomeJson closed entry).isWhole
    have shallow : (Json.arr documents).depth ≤ Json.depthLimit :=
      Json.depth_arr_le_succ_iff.mpr fun value mem => Nat.le_trans (read value mem).2 (by decide)
    refine ⟨documents, ?_, all⟩
    rw [generationReport, if_pos rfl, List.map_map]
    exact Json.parse?_pretty (.arr fun value mem => (read value mem).1) shallow
  lines := by
    rintro rfl
    have text := exists_lines results
    rwa [← Function.comp_def outcomeText, ← List.map_map] at text

end Joinery.Command
