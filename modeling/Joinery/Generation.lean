import Joinery.Validation

/-!
# Generation requests and their artifacts

A 3D model is generated for the canonical code of a checked specification, open
or closed. Both together are the key under which results are shared and cached.
-/

namespace Joinery

/-- What a model is generated for. -/
structure GenerationKey where
  canonicalCode : String
  /-- Whether the model has a back and sides. -/
  closed : Bool
deriving DecidableEq

namespace GenerationKey

/-- The key of a checked specification. -/
def ofChecked (checked : CheckedSpecification) (closed : Bool) : GenerationKey :=
  ⟨checked.canonicalCode, closed⟩

/-- The code, marked when the model is closed. -/
def text (key : GenerationKey) : String :=
  if key.closed then s!"{key.canonicalCode} (closed)" else key.canonicalCode

end GenerationKey

/-- The downloads that one generation yields: a model, and a cutting plan if the
service made one. -/
structure Artifacts where
  glbUrl : String
  dxfUrl : Option String
deriving DecidableEq

end Joinery
