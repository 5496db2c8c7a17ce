/-!
# The front of a text

A text that takes up too many bytes is cut off. The cut is as far back as the limit, or further
if it would go through a character there.
-/

namespace Joinery.Text

/-- The text up to a number of bytes, or all of it if it is shorter. A cut must not go through
a character. -/
def truncate? (text : String) (bytes : Nat) : Option String :=
  if text.utf8ByteSize < bytes then some text
  else if inside : (String.Pos.Raw.mk bytes).IsValid text then
    some (text.extract text.startPos (text.pos ⟨bytes⟩ inside))
  else none

/-- The last place for a cut, from a number of bytes backwards. -/
def lastCut (text : String) : Nat → Nat
  | 0 => 0
  | bytes + 1 =>
    if (String.Pos.Raw.mk (bytes + 1)).isValid text then bytes + 1 else lastCut text bytes

/-- The text, cut off if it takes up more bytes than a limit. -/
def front? (limit : Nat) (text : String) : Option String :=
  if limit < text.utf8ByteSize then truncate? text (lastCut text limit) else some text

theorem isValid_lastCut (text : String) (bytes : Nat) :
    (String.Pos.Raw.mk (lastCut text bytes)).IsValid text := by
  induction bytes with
  | zero => exact String.Pos.Raw.isValid_zero
  | succ bytes ih =>
    rw [lastCut]
    split
    · rename_i inside
      exact String.Pos.Raw.isValid_eq_true_iff.mp inside
    · exact ih

/-- The cut never goes through a character. -/
theorem isSome_front? (limit : Nat) (text : String) : (front? limit text).isSome = true := by
  rw [front?]
  split
  · rw [truncate?]
    split
    · rfl
    · rw [dif_pos (isValid_lastCut text limit)]
      rfl
  · rfl

/-- What is left of a text within a limit. -/
def front (limit : Nat) (text : String) : String :=
  (front? limit text).get (isSome_front? limit text)

end Joinery.Text
