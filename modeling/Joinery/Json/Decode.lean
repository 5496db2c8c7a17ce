import Joinery.Json
import Joinery.Word

/-!
# Decoding structures

A structure is an object with named fields, or a list of its fields in order. A
field that is not given takes its default, if it has one. In an object, unknown
fields do not count and a repeated field is refused. Documents in JSON and in
TOML differ in whether a list may be longer than the structure, and in how a
word can be given by an object.
-/

namespace Joinery.Json

/-- The format of a document. -/
inductive Format where
  | json
  | toml
deriving DecidableEq

/-- Whether items of a list may follow the last field of a structure. -/
def Format.allowsSurplus (format : Format) : Bool := format = toml

/-- Whether a value says nothing: `null`, or an empty table or list in TOML, which
has no `null`. -/
def Format.saysNothing : Format → Json → Bool
  | json, null => true
  | toml, obj [] => true
  | toml, arr [] => true
  | _, _ => false

/-- The fields given for a structure with certain field names. -/
abbrev Given := String → Option Json

/-- Whether a field occurs more than once. -/
def isRepeated (fields : List (String × Json)) (name : String) : Bool :=
  1 < (fields.filter fun field => field.1 = name).length

/-- The fields of a structure with these field names, from an object. -/
def givenByName (names : List String) (fields : List (String × Json)) : Option Given :=
  if names.any (isRepeated fields) then none
  else some fun name => if names.contains name then fields.lookup name else none

/-- The fields of a structure with these field names, from an object or from a
list in this order. -/
def given (format : Format) (names : List String) : Json → Option Given
  | obj fields => givenByName names fields
  | arr items =>
    if names.length < items.length && !format.allowsSurplus then none
    else some fun name => (names.zip items).lookup name
  | _ => none

/-- A field that must be given. -/
def required {α : Type} (decode : Json → Option α) (fields : Given) (name : String) : Option α :=
  (fields name).bind decode

/-- A field with a default for when it is not given. -/
def withDefault {α : Type} (decode : Json → Option α) (fallback : α) (fields : Given)
    (name : String) : Option α :=
  match fields name with
  | none => some fallback
  | some value => decode value

/-- A text. -/
def asText : Json → Option String
  | str s => some s
  | _ => none

/-- A word of a fixed choice: a text, or an object whose only field has that name
and says nothing. -/
def asWord (format : Format) : Json → Option String
  | str s => some s
  | obj [(name, value)] => if format.saysNothing value then some name else none
  | _ => none

/-- A text or `null`. -/
def asOptionalText : Json → Option (Option String)
  | null => some none
  | str s => some (some s)
  | _ => none

/-- A whole number below a limit. -/
def asNatBelow (limit : Nat) : Json → Option Nat
  | int n => if 0 ≤ n ∧ n < limit then some n.toNat else none
  | _ => none

/-- A whole number of 64 bits, not negative. -/
def asUInt64 (value : Json) : Option UInt64 :=
  (asNatBelow UInt64.size value).map UInt64.ofNat

/-- A whole number of 32 bits, not negative. -/
def asUInt32 (value : Json) : Option UInt32 :=
  (asNatBelow UInt32.size value).map UInt32.ofNat

/-- A whole number of 64 bits with a sign. -/
def asInt64 : Json → Option Int64
  | int n => int64? n
  | _ => none

/-- A list of values that all decode. -/
def asList {α : Type} (decode : Json → Option α) : Json → Option (List α)
  | arr items => items.mapM decode
  | _ => none

end Joinery.Json
