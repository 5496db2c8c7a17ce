import Joinery.Service.Exchange

/-!
# The front of a refusal

A service that refuses may answer with a text of any length, of which only the front is kept.
Main statement: what is kept is the longest front of whole characters within the limit, so it
is the text itself if that fits, and otherwise it falls short of the limit by less than the
bytes of one character.
-/

namespace Joinery

namespace Text

variable {text kept rest : String} {limit : Nat}

theorem isValid_append (front rest : String) :
    (String.Pos.Raw.mk front.utf8ByteSize).IsValid (front ++ rest) :=
  String.Pos.Raw.isValid_iff_exists_append.mpr ⟨front, rest, rfl, rfl⟩

theorem lastCut_le (text : String) (bytes : Nat) : lastCut text bytes ≤ bytes := by
  induction bytes with
  | zero => exact Nat.le_refl 0
  | succ bytes ih =>
      rw [lastCut]
      split
      · exact Nat.le_refl _
      · exact Nat.le_succ_of_le ih

/-- No place for a cut is passed over. -/
theorem le_lastCut {cut bytes : Nat} (inside : (String.Pos.Raw.mk cut).IsValid text)
    (within : cut ≤ bytes) : cut ≤ lastCut text bytes := by
  induction bytes with
  | zero => exact within
  | succ bytes ih =>
      rw [lastCut]
      split
      · exact within
      · rename_i no_place
        rcases Nat.le_succ_iff.mp within with earlier | rfl
        · exact ih earlier
        · exact absurd (String.Pos.Raw.isValid_eq_true_iff.mpr inside) no_place

/-- A cut behind the front of a text leaves this front. -/
theorem truncate?_append (front rest : String) :
    truncate? (front ++ rest) front.utf8ByteSize = some front := by
  rw [truncate?, if_neg (by simp), dif_pos (isValid_append front rest)]
  refine congrArg some (String.toByteArray_inj.mp ?_)
  rw [String.toByteArray_extract, String.toByteArray_append]
  exact ByteArray.extract_append_eq_left rfl

/-- The longest front of a text that takes up no more bytes than a limit. -/
structure IsLongestFront (limit : Nat) (text kept : String) : Prop where
  front : ∃ rest, text = kept ++ rest
  size : kept.utf8ByteSize ≤ limit
  longest : ∀ front rest, text = front ++ rest → front.utf8ByteSize ≤ limit →
    ∃ more, kept = front ++ more

/-- Of two fronts of a text the one that takes up no more bytes is a front of the other. -/
theorem exists_eq_append_of_size_le {front' rest' : String}
    (same : kept ++ rest = front' ++ rest') (size : front'.utf8ByteSize ≤ kept.utf8ByteSize) :
    ∃ more, kept = front' ++ more := by
  have chars := congrArg String.toList same
  rw [String.toList_append, String.toList_append, List.append_eq_append_iff] at chars
  rcases chars with ⟨more, longer, -⟩ | ⟨more, shorter, -⟩
  · have written : front' = kept ++ String.ofList more := by
      rw [← String.toList_inj, longer, String.toList_append, String.toList_ofList]
    rw [written, String.utf8ByteSize_append] at size
    have empty : String.ofList more = "" := String.utf8ByteSize_eq_zero_iff.mp (by omega)
    exact ⟨"", by rw [written, empty, String.append_empty, String.append_empty]⟩
  · refine ⟨String.ofList more, String.toList_inj.mp ?_⟩
    rw [shorter, String.toList_append, String.toList_ofList]

theorem exists_isLongestFront (limit : Nat) (text : String) :
    ∃ kept, front? limit text = some kept ∧ IsLongestFront limit text kept := by
  rw [front?]
  split
  · obtain ⟨kept, rest, rfl, cut⟩ :=
      String.Pos.Raw.isValid_iff_exists_append.mp (isValid_lastCut text limit)
    have size : lastCut (kept ++ rest) limit = kept.utf8ByteSize :=
      congrArg String.Pos.Raw.byteIdx cut
    refine ⟨kept, size ▸ truncate?_append kept rest, ⟨rest, rfl⟩, size ▸ lastCut_le _ limit, ?_⟩
    intro front' rest' same within
    refine exists_eq_append_of_size_le same ?_
    rw [← size]
    exact le_lastCut (same ▸ isValid_append front' rest') within
  · rename_i fits
    exact ⟨text, rfl, ⟨"", String.append_empty.symm⟩, Nat.le_of_not_lt fits,
      fun front' rest' same _ => ⟨rest', same⟩⟩

namespace IsLongestFront

/-- A text that fits is its own longest front. -/
theorem eq_self (longest : IsLongestFront limit text kept) (fits : text.utf8ByteSize ≤ limit) :
    kept = text := by
  obtain ⟨rest, front⟩ := longest.front
  obtain ⟨more, whole⟩ := longest.longest text "" (by simp) fits
  have sizes := congrArg String.utf8ByteSize front
  have sizes' := congrArg String.utf8ByteSize whole
  rw [String.utf8ByteSize_append] at sizes sizes'
  have nothing : rest = "" := String.utf8ByteSize_eq_zero_iff.mp (by omega)
  rw [front, nothing, String.append_empty]

/-- No front with one more character would fit. -/
theorem lt_size_add_four (longest : IsLongestFront limit text kept)
    (large : limit < text.utf8ByteSize) : limit < kept.utf8ByteSize + 4 := by
  obtain ⟨rest, rfl⟩ := longest.front
  apply Nat.lt_of_not_le
  intro room
  cases chars : rest.toList with
  | nil =>
      obtain rfl : rest = "" := String.toList_inj.mp chars
      rw [String.append_empty] at large
      omega
  | cons c cs =>
      have next : kept ++ rest = kept.push c ++ String.ofList cs := by
        rw [← String.toList_inj, String.toList_append, String.toList_append, String.toList_push,
          String.toList_ofList, chars, List.append_assoc]
        rfl
      have size : (kept.push c).utf8ByteSize = kept.utf8ByteSize + c.utf8Size :=
        String.utf8ByteSize_push
      have some_byte : 0 < c.utf8Size := c.utf8Size_pos
      have four_bytes : c.utf8Size ≤ 4 := c.utf8Size_le_four
      obtain ⟨more, longer⟩ :=
        longest.longest (kept.push c) (String.ofList cs) next (by omega)
      have sizes := congrArg String.utf8ByteSize longer
      rw [String.utf8ByteSize_append] at sizes
      omega

end IsLongestFront

end Text

open Text

/-- What a refusal carries: its status, and the longest front of the answer that consists of
whole characters and takes up at most 512 bytes, for requests whose answer is read and for those
whose status is all that counts, and whether or not its bytes are simply the UTF-8 of its text.
The answer is never cut inside a character, which would end the program; one that fits is kept
whole, and of a longer one 509 bytes or more are kept. -/
theorem refusal_carries_longest_front {α : Type} (decode : String → Except ServiceFault α)
    (status : Nat) (body : String) (refused : isSuccess status = false) :
    ∃ kept, front? refusalLimit body = some kept ∧
      (Reply.answered status body).read decode = .error (.httpStatus status kept) ∧
      (Reply.answered status body).acknowledge = .error (.httpStatus status kept) ∧
      (∃ rest, body = kept ++ rest) ∧ kept.utf8ByteSize ≤ 512 ∧
      (∀ front rest, body = front ++ rest → front.utf8ByteSize ≤ 512 →
        ∃ more, kept = front ++ more) ∧
      (body.utf8ByteSize ≤ 512 → kept = body) ∧
      (512 < body.utf8ByteSize → 509 ≤ kept.utf8ByteSize) ∧
      ∀ document,
        (Reply.encoded status body document).read decode = .error (.httpStatus status kept) ∧
        (Reply.encoded status body document).acknowledge = .error (.httpStatus status kept) := by
  obtain ⟨kept, left, longest⟩ := exists_isLongestFront refusalLimit body
  have carried : Reply.refusal status body = .httpStatus status kept := by
    rw [Reply.refusal, Text.front]
    simp [left]
  refine ⟨kept, left, ?_, ?_, longest.front, longest.size, longest.longest, longest.eq_self, ?_, ?_⟩
  · simp [Reply.read, refused, carried]
  · simp [Reply.acknowledge, refused, carried]
  · intro large
    have room : 512 < kept.utf8ByteSize + 4 := longest.lt_size_add_four large
    omega
  · intro document
    constructor
    · simp [Reply.read, refused, carried]
    · simp [Reply.acknowledge, refused, carried]

/-- Of two hundred characters of three bytes each, a hundred and seventy fit, and two bytes are
left. -/
theorem refusal_carries_longest_front_euro :
    isSuccess 503 = false ∧ ∃ kept more,
      (Reply.answered 503 (String.ofList (List.replicate 200 '€'))).acknowledge =
        .error (.httpStatus 503 kept) ∧
      kept = String.ofList (List.replicate 170 '€') ++ more ∧ more.utf8ByteSize ≤ 2 := by
  have refused : isSuccess 503 = false := by decide
  obtain ⟨kept, -, -, carried, -, size, longest, -⟩ :=
    refusal_carries_longest_front (fun _ => .ok ()) 503
      (String.ofList (List.replicate 200 '€')) refused
  have fits : (String.ofList (List.replicate 170 '€')).utf8ByteSize = 510 := by decide +kernel
  have parts : String.ofList (List.replicate 200 '€') =
      String.ofList (List.replicate 170 '€') ++ String.ofList (List.replicate 30 '€') := by
    rw [← String.ofList_append, List.replicate_append_replicate]
  obtain ⟨more, rfl⟩ := longest _ _ parts (by rw [fits]; decide)
  rw [String.utf8ByteSize_append, fits] at size
  exact ⟨refused, _, more, carried, rfl, by omega⟩

end Joinery
