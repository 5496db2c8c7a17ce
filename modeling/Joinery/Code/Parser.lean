import Joinery.Text.Blank
import Joinery.Code

/-!
# Reading furniture codes

A code is a letter and at least one digit (the preset), a parenthesised list of
dimensions separated by commas, and flag letters without repetition. Reading
never skips a character and never trims: the first offence ends it, with the
character offset at which it stands.
-/

namespace Joinery

/-- Why a text is not a furniture code. -/
inductive CodeFault.Cause where
  | empty
  | invalidPresetId
  | expectedOpenParen
  | emptyDimension
  | invalidDimension (found : Char)
  | leadingZero
  | dimensionOverflow
  | unclosedParenthesis
  | invalidFlag (found : Char)
  | duplicateFlag (found : Char)
  | whitespace
deriving DecidableEq

/-- An offence in a code: its cause and the character offset it stands at. -/
structure CodeFault where
  position : Nat
  cause : CodeFault.Cause
deriving DecidableEq

namespace CodeFault

/-- What is wrong, without the position. -/
def Cause.message : Cause → String
  | .empty => "specification is empty"
  | .invalidPresetId => "preset id must be a letter followed by digits"
  | .expectedOpenParen => "expected '(' after the preset id"
  | .emptyDimension => "dimension is empty"
  | .invalidDimension c => s!"unexpected character '{c}' in dimension list"
  | .leadingZero => "dimension has a leading zero"
  | .dimensionOverflow => "dimension is too large"
  | .unclosedParenthesis => "missing closing ')'"
  | .invalidFlag c => s!"'{c}' is not a valid flag character"
  | .duplicateFlag c => s!"flag '{c}' appears more than once"
  | .whitespace => "whitespace is not allowed"

/-- What is wrong, and where. -/
def message (fault : CodeFault) : String :=
  s!"syntax error at position {fault.position}: {fault.cause.message}"

end CodeFault

namespace Code

/-- The digits at the front of a text. -/
abbrev digits (cs : List Char) : List Char := cs.takeWhile Char.isDigit

/-- What follows the digits at the front of a text. -/
abbrev afterDigits (cs : List Char) : List Char := cs.dropWhile Char.isDigit

theorem digits_append_afterDigits (cs : List Char) : digits cs ++ afterDigits cs = cs :=
  List.takeWhile_append_dropWhile

theorem length_afterDigits_le (cs : List Char) : (afterDigits cs).length ≤ cs.length :=
  (List.dropWhile_suffix _).length_le

/-- The letter and digits in front, and the rest. A letter right after the
digits spoils the preset rather than the parenthesis that should follow. -/
def readPreset : List Char → Except CodeFault (List Char × List Char)
  | [] => .error ⟨0, .invalidPresetId⟩
  | c :: more =>
    if !c.isAlpha then .error ⟨0, .invalidPresetId⟩
    else if digits more = [] then .error ⟨1, .invalidPresetId⟩
    else if (afterDigits more).head?.any Char.isAlphanum then
      .error ⟨1 + (digits more).length, .invalidPresetId⟩
    else .ok (c :: digits more, afterDigits more)

/-- Why no digit starts a dimension here. -/
def missingDimension : List Char → CodeFault.Cause
  | [] => .unclosedParenthesis
  | c :: _ => if c = ',' ∨ c = ')' then .emptyDimension else .invalidDimension c

/-- The number that the digits in front stand for: no leading zero beyond the
numeral `0`, and less than `2 ^ 32`. -/
def readDimension (position : Nat) (cs : List Char) : Except CodeFault UInt32 :=
  if digits cs = [] then .error ⟨position, missingDimension cs⟩
  else if (digits cs).head? = some '0' ∧ 1 < (digits cs).length then
    .error ⟨position, .leadingZero⟩
  else if h : Nat.ofDigitChars 10 (digits cs) 0 < UInt32.size then
    .ok (UInt32.ofNatLT _ h)
  else .error ⟨position, .dimensionOverflow⟩

/-- Dimensions up to the closing parenthesis, with the offset and the text
after it. -/
def readDimensions (position : Nat) (cs : List Char) :
    Except CodeFault (List UInt32 × Nat × List Char) :=
  match readDimension position cs with
  | .error fault => .error fault
  | .ok value =>
    let next := position + (digits cs).length
    match rest : afterDigits cs with
    | [] => .error ⟨next, .unclosedParenthesis⟩
    | c :: more =>
      if c = ',' then
        match readDimensions (next + 1) more with
        | .error fault => .error fault
        | .ok (values, after) => .ok (value :: values, after)
      else if c = ')' then .ok ([value], next + 1, more)
      else .error ⟨next, .invalidDimension c⟩
termination_by cs.length
decreasing_by
  have h := length_afterDigits_le cs
  rw [rest] at h
  simp only [List.length_cons] at h
  omega

/-- Flag letters to the end of the text, none of them twice. -/
def readFlags (position : Nat) (seen : FlagSet) : List Char → Except CodeFault FlagSet
  | [] => .ok seen
  | c :: rest =>
    if !c.isAlpha then .error ⟨position, .invalidFlag c⟩
    else if seen.contains c then .error ⟨position, .duplicateFlag c⟩
    else readFlags (position + 1) (seen.insert c) rest

/-- Reads the characters of a code that has no blank. -/
def readUnblanked (cs : List Char) : Except CodeFault Specification :=
  match readPreset cs with
  | .error fault => .error fault
  | .ok (preset, rest) =>
    match rest with
    | '(' :: inner =>
      match readDimensions (preset.length + 1) inner with
      | .error fault => .error fault
      | .ok (dimensions, position, tail) =>
        match readFlags position .empty tail with
        | .error fault => .error fault
        | .ok flags => .ok ⟨String.ofList preset, dimensions, flags⟩
    | _ => .error ⟨preset.length, .expectedOpenParen⟩

/-- Reads the characters of a code. A blank anywhere is the first offence. -/
def read (cs : List Char) : Except CodeFault Specification :=
  if cs = [] then .error ⟨0, .empty⟩
  else match cs.findIdx? Text.isBlank with
    | some position => .error ⟨position, .whitespace⟩
    | none => readUnblanked cs

/-- The specification that a code describes. -/
def parse (code : String) : Except CodeFault Specification := read code.toList

end Code

end Joinery
