import Joinery.Url.Address

/-!
# Segments that stand for texts

A text that becomes a path segment is percent encoded, percent signs included. Main
statement: the segment stands for just this text, holds none of the marks that end a
segment, and is a dot or a double dot only if the text is.
-/

namespace Joinery.Url

theorem percentBytes_cons_of_ne {c : Char} (plain : c ≠ '%') (rest : List Char) :
    percentBytes (c :: rest) = String.utf8EncodeChar c ++ percentBytes rest := by
  rw [percentBytes]
  rintro a b more rfl
  exact absurd rfl plain

theorem percentBytes_percentByte (b : UInt8) (rest : List Char) :
    percentBytes (percentByte b ++ rest) = b :: percentBytes rest := by
  have small : b.toNat < 256 := b.toNat_lt
  have high := Text.hexValue?_hexDigitUpper (b.toNat / 16) (by omega)
  have low := Text.hexValue?_hexDigitUpper (b.toNat % 16) (by omega)
  simp only [percentByte, List.cons_append, List.nil_append, percentBytes, high, low]
  rw [Nat.div_add_mod, UInt8.ofNat_toNat]

theorem percentBytes_flatMap_percentByte (bytes : List UInt8) (rest : List Char) :
    percentBytes (bytes.flatMap percentByte ++ rest) = bytes ++ percentBytes rest := by
  induction bytes with
  | nil => rfl
  | cons b bytes ih =>
      rw [List.flatMap_cons, List.append_assoc, percentBytes_percentByte, ih, List.cons_append]

variable {reserved : List Char}

theorem percentEncode_cons (c : Char) (cs : List Char) :
    percentEncode reserved (c :: cs) =
      (if isControlOrBeyond c || reserved.contains c then percentChar c else [c]) ++
        percentEncode reserved cs :=
  List.flatMap_cons

/-- Where percent signs are reserved, an encoded text stands for its own bytes. -/
theorem percentBytes_percentEncode (percent : '%' ∈ reserved) (cs : List Char) :
    percentBytes (percentEncode reserved cs) = cs.flatMap String.utf8EncodeChar := by
  induction cs with
  | nil => rfl
  | cons c cs ih =>
      rw [percentEncode_cons, List.flatMap_cons]
      split
      · rw [percentChar, percentBytes_flatMap_percentByte, ih]
      · rename_i unreserved
        have plain : c ≠ '%' := by
          rintro rfl
          exact unreserved (by simp [percent])
        rw [List.singleton_append, percentBytes_cons_of_ne plain, ih]

theorem utf8Decode?_flatMap_utf8EncodeChar (cs : List Char) :
    (ByteArray.mk (cs.flatMap String.utf8EncodeChar).toArray).utf8Decode? = some cs.toArray := by
  have bytes : ByteArray.mk (cs.flatMap String.utf8EncodeChar).toArray = cs.utf8Encode :=
    ByteArray.ext List.data_toByteArray.symm
  rw [bytes, List.utf8Decode?_utf8Encode]

theorem percentDecode?_of_percentBytes {cs segment : List Char}
    (same : percentBytes segment = cs.flatMap String.utf8EncodeChar) :
    percentDecode? segment = some cs := by
  rw [percentDecode?, same, utf8Decode?_flatMap_utf8EncodeChar]
  rfl

theorem percentDecode?_percentEncode (percent : '%' ∈ reserved) (cs : List Char) :
    percentDecode? (percentEncode reserved cs) = some cs :=
  percentDecode?_of_percentBytes (percentBytes_percentEncode percent cs)

theorem mem_percentByte {b : UInt8} {c : Char} (mem : c ∈ percentByte b) :
    c = '%' ∨ ∃ n, n < 16 ∧ c = Text.hexDigitUpper n := by
  have small : b.toNat < 256 := b.toNat_lt
  simp only [percentByte, List.mem_cons, List.not_mem_nil, or_false] at mem
  rcases mem with rfl | rfl | rfl
  · exact Or.inl rfl
  · exact Or.inr ⟨_, by omega, rfl⟩
  · exact Or.inr ⟨_, by omega, rfl⟩

theorem hexDigitUpper_isAlphanum {n : Nat} (small : n < 16) :
    (Text.hexDigitUpper n).isAlphanum = true := by
  revert n
  decide

/-- A character that stands for itself in a part of a URL. -/
def IsPlain (reserved : List Char) (c : Char) : Prop :=
  isControlOrBeyond c = false ∧ c ∉ reserved

instance (reserved : List Char) (c : Char) : Decidable (IsPlain reserved c) :=
  inferInstanceAs (Decidable (_ ∧ _))

/-- What stands for itself already is not encoded again. -/
theorem percentEncode_eq_self {cs : List Char} (plain : ∀ c ∈ cs, IsPlain reserved c) :
    percentEncode reserved cs = cs := by
  induction cs with
  | nil => rfl
  | cons c cs ih =>
      obtain ⟨⟨visible, unreserved⟩, rest⟩ := List.forall_mem_cons.mp plain
      rw [percentEncode_cons, ih rest, if_neg (by simp [visible, unreserved])]
      rfl

theorem mem_percentEncode {cs : List Char} {c : Char}
    (mem : c ∈ percentEncode reserved cs) :
    (c ∈ cs ∧ IsPlain reserved c) ∨ c = '%' ∨ ∃ n, n < 16 ∧ c = Text.hexDigitUpper n := by
  obtain ⟨source, listed, within⟩ := List.mem_flatMap.mp mem
  split at within
  · obtain ⟨b, -, within⟩ := List.mem_flatMap.mp within
    exact .inr (mem_percentByte within)
  · rename_i plain
    obtain rfl := List.mem_singleton.mp within
    rw [Bool.or_eq_true, not_or, Bool.not_eq_true, List.contains_iff_mem] at plain
    exact .inl ⟨listed, plain⟩

/-- A reserved mark other than the percent sign does not occur in an encoded text. -/
theorem notMem_percentEncode {mark : Char} (is_reserved : mark ∈ reserved) (differs : mark ≠ '%')
    (no_digit : mark.isAlphanum = false) (cs : List Char) : mark ∉ percentEncode reserved cs := by
  intro mem
  rcases mem_percentEncode mem with ⟨-, plain⟩ | percent | ⟨n, small, rfl⟩
  · exact plain.2 is_reserved
  · exact differs percent
  · rw [hexDigitUpper_isAlphanum small] at no_digit
    cases no_digit

theorem le_iff_toNat_le {a b : Char} : a ≤ b ↔ a.toNat ≤ b.toNat := UInt32.le_iff_toNat_le

theorem toNat_toLower (c : Char) :
    c.toLower.toNat = if 65 ≤ c.toNat ∧ c.toNat ≤ 90 then c.toNat + 32 else c.toNat := by
  have upper : (c.val ≥ 'A'.val ∧ c.val ≤ 'Z'.val) ↔ 65 ≤ c.toNat ∧ c.toNat ≤ 90 := by
    rw [ge_iff_le, UInt32.le_iff_toNat_le, UInt32.le_iff_toNat_le]
    rfl
  by_cases is_upper : 65 ≤ c.toNat ∧ c.toNat ≤ 90
  · rw [if_pos is_upper, show c.toLower = _ from dif_pos (upper.mpr is_upper)]
    change (c.val + ('a'.val - 'A'.val)).toNat = _
    rw [UInt32.toNat_add]
    change (c.toNat + 32) % 4294967296 = _
    omega
  · rw [if_neg is_upper, show c.toLower = c from dif_neg (mt upper.mp is_upper)]

theorem hexValue?_toLower (c : Char) : Text.hexValue? c.toLower = Text.hexValue? c := by
  have place := toNat_toLower c
  simp only [Text.hexValue?, Char.isDigit_iff_toNat, le_iff_toNat_le, Char.reduceToNat]
  grind

/-- A mark that is neither a letter nor their neighbour comes from no other character. -/
theorem eq_of_toLower_eq {c mark : Char} (low : mark.toNat < 65) (same : c.toLower = mark) :
    c = mark := by
  have place := toNat_toLower c
  rw [same] at place
  apply Char.toNat_inj.mp
  split at place <;> omega

/-- An escaped dot at the front of a segment, whatever the case of its letter, stands for a
dot. -/
theorem percentBytes_escaped_dot {segment rest : List Char}
    (same : segment.map Char.toLower = '%' :: '2' :: 'e' :: rest) :
    ∃ more, percentBytes segment = 0x2E :: percentBytes more ∧ more.map Char.toLower = rest := by
  obtain ⟨p, tail, rfl, percent, first⟩ := List.map_eq_cons_iff.mp same
  obtain ⟨a, tail, rfl, two, second⟩ := List.map_eq_cons_iff.mp first
  obtain ⟨b, more, rfl, e, third⟩ := List.map_eq_cons_iff.mp second
  obtain rfl := eq_of_toLower_eq (by decide) percent
  have high : Text.hexValue? a = some 2 := by rw [← hexValue?_toLower, two]; rfl
  have low : Text.hexValue? b = some 14 := by rw [← hexValue?_toLower, e]; rfl
  refine ⟨more, ?_, third⟩
  rw [percentBytes, high, low]
  rfl

theorem percentBytes_plain_dot {segment rest : List Char}
    (same : segment.map Char.toLower = '.' :: rest) :
    ∃ more, percentBytes segment = 0x2E :: percentBytes more ∧ more.map Char.toLower = rest := by
  obtain ⟨c, more, rfl, dot, tail⟩ := List.map_eq_cons_iff.mp same
  obtain rfl := eq_of_toLower_eq (by decide) dot
  refine ⟨more, ?_, tail⟩
  rw [percentBytes_cons_of_ne (by decide)]
  rfl

theorem percentBytes_of_isDot {segment : List Char} (dot : isDot segment = true) :
    percentBytes segment = [0x2E] := by
  rw [isDot, Bool.or_eq_true, decide_eq_true_eq, decide_eq_true_eq] at dot
  rcases dot with rfl | escaped
  · rfl
  · obtain ⟨more, bytes, rest⟩ := percentBytes_escaped_dot escaped
    obtain rfl := List.map_eq_nil_iff.mp rest
    exact bytes

theorem percentBytes_of_isDoubleDot {segment : List Char} (dots : isDoubleDot segment = true) :
    percentBytes segment = [0x2E, 0x2E] := by
  simp only [isDoubleDot, Bool.or_eq_true, decide_eq_true_eq, List.contains_iff_mem,
    List.mem_cons, List.not_mem_nil, or_false] at dots
  rcases dots with rfl | first | second | both
  · rfl
  · obtain ⟨more, bytes, rest⟩ := percentBytes_escaped_dot first
    obtain ⟨more', bytes', rest'⟩ := percentBytes_plain_dot rest
    obtain rfl := List.map_eq_nil_iff.mp rest'
    rw [bytes, bytes']
    rfl
  · obtain ⟨more, bytes, rest⟩ := percentBytes_plain_dot second
    obtain ⟨more', bytes', rest'⟩ := percentBytes_escaped_dot rest
    obtain rfl := List.map_eq_nil_iff.mp rest'
    rw [bytes, bytes']
    rfl
  · obtain ⟨more, bytes, rest⟩ := percentBytes_escaped_dot both
    obtain ⟨more', bytes', rest'⟩ := percentBytes_escaped_dot rest
    obtain rfl := List.map_eq_nil_iff.mp rest'
    rw [bytes, bytes']
    rfl

/-- An encoded text that stands for the bytes of a text encodes that text. -/
theorem eq_of_percentBytes_percentEncode (percent : '%' ∈ reserved) {cs ds : List Char}
    (same : percentBytes (percentEncode reserved cs) = ds.flatMap String.utf8EncodeChar) :
    cs = ds := by
  have decoded := percentDecode?_of_percentBytes same
  rw [percentDecode?_percentEncode percent] at decoded
  exact Option.some.inj decoded

theorem isDot_percentEncode_iff (percent : '%' ∈ reserved) (dot : '.' ∉ reserved)
    {cs : List Char} : isDot (percentEncode reserved cs) = true ↔ cs = ['.'] := by
  constructor
  · intro is_dot
    exact eq_of_percentBytes_percentEncode percent (percentBytes_of_isDot is_dot)
  · rintro rfl
    simp [isDot, percentEncode, dot, isControlOrBeyond]

theorem isDoubleDot_percentEncode_iff (percent : '%' ∈ reserved) (dot : '.' ∉ reserved)
    {cs : List Char} : isDoubleDot (percentEncode reserved cs) = true ↔ cs = ['.', '.'] := by
  constructor
  · intro are_dots
    exact eq_of_percentBytes_percentEncode percent (percentBytes_of_isDoubleDot are_dots)
  · rintro rfl
    simp [isDoubleDot, percentEncode, dot, isControlOrBeyond]

end Joinery.Url
