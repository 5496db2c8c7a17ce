import Joinery.Generation
import Joinery.Json.Decode
import Joinery.Json.Reader
import Joinery.Timestamp

/-!
# Designs in the store

A design is what a customer has stored: a named code with its price, what it was
made of and where its model is. The store gives it an id. Both are exchanged as
JSON; an id may be a text or a number there, and is a text here.
-/

namespace Joinery

open Json

/-- A design ready to be stored. -/
structure Design where
  name : String
  /-- The canonical code. -/
  prompt : String
  /-- Everything that went into the price, opaque to the store. -/
  data : Json
  /-- Whole currency units. -/
  price : Int64
  /-- Empty if there is no model. -/
  glbUrl : String
  dxfUrl : Option String
  thumbnailUrl : Option String
  createdAt : Timestamp

/-- A design with the id that the store has given it. -/
structure StoredDesign where
  id : String
  design : Design

/-- The document of the artifacts of a generation. -/
def Artifacts.toJson (artifacts : Artifacts) : Json :=
  .obj [("glb_url", .str artifacts.glbUrl), ("dxf_url", optionalStr artifacts.dxfUrl)]

/-- The names of the fields of artifacts in a document, in order. -/
def Artifacts.fieldNames : List String := ["glb_url", "dxf_url"]

/-- Reads the artifacts of a generation. -/
def Artifacts.ofJson? (value : Json) : Option Artifacts := do
  let fields ← given .json fieldNames value
  return {
    glbUrl := ← required asText fields "glb_url"
    dxfUrl := ← withDefault asOptionalText none fields "dxf_url" }

/-- Reads the artifacts of a generation from the text of their document. -/
def Artifacts.ofText? (text : String) : Option Artifacts :=
  (parseStructure? fieldNames text).bind ofJson?

namespace Design

/-- The names of the fields in a document, in order. -/
def fieldNames : List String :=
  ["name", "prompt", "config_data", "price", "glb_url", "dxf_url", "thumbnail_url",
    "created_at"]

/-- The fields of the document of a design. -/
def fields (design : Design) : List (String × Json) :=
  [("name", .str design.name), ("prompt", .str design.prompt), ("config_data", design.data),
    ("price", .int design.price.toInt), ("glb_url", .str design.glbUrl),
    ("dxf_url", optionalStr design.dxfUrl), ("thumbnail_url", optionalStr design.thumbnailUrl),
    ("created_at", .str design.createdAt.text)]

/-- The document of a design. -/
def toJson (design : Design) : Json := .obj design.fields

/-- Reads a design from its fields. -/
def ofGiven (fields : Given) : Option Design := do
  return {
    name := ← required asText fields "name"
    prompt := ← required asText fields "prompt"
    data := ← required (fun value => some value.sorted) fields "config_data"
    price := ← required asInt64 fields "price"
    glbUrl := ← required asText fields "glb_url"
    dxfUrl := ← withDefault asOptionalText none fields "dxf_url"
    thumbnailUrl := ← withDefault asOptionalText none fields "thumbnail_url"
    createdAt :=
      ← required (fun value => (asText value).bind Timestamp.ofString?) fields "created_at" }

/-- Reads a design. -/
def ofJson? (value : Json) : Option Design := (given .json fieldNames value).bind ofGiven

/-- Reads a design from the text of its document. -/
def ofText? (text : String) : Option Design := (parseStructure? fieldNames text).bind ofJson?

end Design

namespace StoredDesign

/-- The document of a stored design: the id among the fields of the design. -/
def toJson (stored : StoredDesign) : Json :=
  .obj (("id", .str stored.id) :: stored.design.fields)

/-- Reads an id: a text that is not empty, or a number. -/
def readId : Json → Option String
  | .str s => if s.isEmpty then none else some s
  | .int n => some (toString n)
  | .real x => some x.scientificText
  | _ => none

/-- Reads a stored design, which is an object. -/
def ofJson? : Json → Option StoredDesign
  | .obj fields => do
    let ids ← givenByName ["id"] fields
    let given ← givenByName Design.fieldNames fields
    return { id := ← required readId ids "id", design := ← Design.ofGiven given }
  | _ => none

/-- Reads a stored design from the text of its document, of which every field is
read, also those that do not count. -/
def ofText? (text : String) : Option StoredDesign := (parse? text).bind ofJson?

end StoredDesign

end Joinery
