import Joinery.Text.Hex

/-!
# Percent encoding

A character that may not stand in a part of a URL is written as the bytes of its
UTF-8 form, each as a percent sign and two hexadecimal digits. Which ASCII
characters are reserved depends on the part; control characters and all others
beyond ASCII always are.
-/

namespace Joinery.Url

/-- A byte as a percent sign and two digits. -/
def percentByte (b : UInt8) : List Char :=
  ['%', Text.hexDigitUpper (b.toNat / 16), Text.hexDigitUpper (b.toNat % 16)]

/-- The bytes of a character, percent encoded. -/
def percentChar (c : Char) : List Char := (String.utf8EncodeChar c).flatMap percentByte

/-- Whether a character never stands for itself. -/
def isControlOrBeyond (c : Char) : Bool := c.toNat < 0x20 || 0x7F ≤ c.toNat

/-- Encodes the characters that are reserved in a part of a URL. -/
def percentEncode (reserved : List Char) (cs : List Char) : List Char :=
  cs.flatMap fun c =>
    if isControlOrBeyond c || reserved.contains c then percentChar c else [c]

/-- Reserved in a fragment. -/
def fragmentReserved : List Char := [' ', '"', '<', '>', '\x60']

/-- Reserved in a query. -/
def queryReserved : List Char := [' ', '"', '#', '<', '>', '\x27']

/-- Reserved in a path, which may hold percent encoded characters already. -/
def pathReserved : List Char := fragmentReserved ++ ['#', '?', '\x7b', '\x7d']

/-- Reserved in user names and passwords. -/
def userReserved : List Char :=
  pathReserved ++ ['/', ':', ';', '=', '@', '[', '\\', ']', '^', '|']

/-- Reserved in a text that is to become one path segment, percent signs
included. -/
def segmentReserved : List Char := pathReserved ++ ['/', '%', '\\']

/-- The bytes that a percent encoded text stands for. A percent sign without two
digits stands for itself. -/
def percentBytes : List Char → List UInt8
  | [] => []
  | '%' :: a :: b :: rest =>
    match Text.hexValue? a, Text.hexValue? b with
    | some high, some low => UInt8.ofNat (16 * high + low) :: percentBytes rest
    | _, _ => String.utf8EncodeChar '%' ++ percentBytes (a :: b :: rest)
  | c :: rest => String.utf8EncodeChar c ++ percentBytes rest

/-- The text that a percent encoded text stands for, if its bytes are UTF-8. -/
def percentDecode? (cs : List Char) : Option (List Char) :=
  (ByteArray.mk (percentBytes cs).toArray).utf8Decode?.map Array.toList

end Joinery.Url
