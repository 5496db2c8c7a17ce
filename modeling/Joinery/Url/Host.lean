import Joinery.Url.Domain
import Joinery.Url.Percent

/-!
# Hosts

The host of a URL is a domain name, an IPv4 address of up to four numbers in
decimal, octal or hexadecimal notation, or an IPv6 address in brackets. A name
whose last label is a number is an IPv4 address or nothing.
-/

namespace Joinery

/-- Why a text is not a URL. -/
inductive UrlFault where
  | relativeWithoutBase
  | emptyHost
  | invalidPort
  | invalidIpv4
  | invalidIpv6
  | invalidName
  | invalidHostCharacter
deriving DecidableEq

/-- The text of a fault. -/
def UrlFault.message : UrlFault → String
  | .relativeWithoutBase => "relative URL without a base"
  | .emptyHost => "empty host"
  | .invalidPort => "invalid port number"
  | .invalidIpv4 => "invalid IPv4 address"
  | .invalidIpv6 => "invalid IPv6 address"
  | .invalidName => "invalid international domain name"
  | .invalidHostCharacter => "invalid domain character"

namespace Url

/-- Where a service is. -/
inductive Host where
  | domain (name : List Char)
  /-- An IPv4 address as one number. -/
  | ipv4 (address : Nat)
  /-- The eight 16 bit pieces of an IPv6 address. -/
  | ipv6 (pieces : List Nat)
deriving DecidableEq

/-- The value of digits in a base. -/
def digitsValue? (base : Nat) (cs : List Char) : Option Nat :=
  cs.foldl (fun sum c =>
    match sum, Text.hexValue? c with
    | some n, some d => if d < base then some (base * n + d) else none
    | _, _ => none) (some 0)

/-- The number that a label stands for: hexadecimal after `0x`, octal after `0`,
decimal otherwise. -/
def ipv4Number? : List Char → Option Nat
  | [] => none
  | '0' :: 'x' :: ds => digitsValue? 16 ds
  | '0' :: 'X' :: ds => digitsValue? 16 ds
  | '0' :: d :: ds => digitsValue? 8 (d :: ds)
  | ds => digitsValue? 10 ds

/-- The labels of a name, without an empty one at the end. -/
def properLabels (name : List Char) : List (List Char) :=
  let parts := labels name
  if 1 < parts.length ∧ parts.getLast? = some [] then parts.dropLast else parts

/-- Whether the last label of a name is a number. -/
def endsInNumber (name : List Char) : Bool :=
  match (properLabels name).getLast? with
  | none => false
  | some last => (last ≠ [] && last.all Char.isDigit) || (ipv4Number? last).isSome

/-- The address that numbers stand for: each but the last fills a byte, the last
fills what remains. -/
def ipv4Address? (numbers : List Nat) : Option Nat :=
  match numbers.getLast? with
  | none => none
  | some last =>
    let front := numbers.dropLast
    if 3 < front.length ∨ front.any (255 < ·) ∨ Nat.pow 256 (4 - front.length) ≤ last then none
    else
      some (front.zipIdx.foldl (fun sum part => sum + part.1 * Nat.pow 256 (3 - part.2)) last)

/-- Reads an IPv4 address. -/
def readIpv4 (name : List Char) : Except UrlFault Host :=
  match ((properLabels name).mapM ipv4Number?).bind ipv4Address? with
  | some address => .ok (.ipv4 address)
  | none => .error .invalidIpv4

/-- Reads the four decimal numbers at the end of an IPv6 address as two pieces. -/
def readMapped (cs : List Char) : Option (List Nat) :=
  let number (ds : List Char) : Option Nat :=
    if ds = [] ∨ !ds.all Char.isDigit ∨ (ds.head? = some '0' ∧ 1 < ds.length) then none
    else
      let n := Nat.ofDigitChars 10 ds 0
      if n ≤ 255 then some n else none
  match (labels cs).mapM number with
  | some [a, b, c, d] => some [256 * a + b, 256 * c + d]
  | _ => none

/-- Reads pieces separated by colons; the last may be four decimal numbers. -/
def readPieces : List (List Char) → Option (List Nat)
  | [] => some []
  | [last] =>
    if last.contains '.' then readMapped last
    else if last ≠ [] ∧ last.length ≤ 4 then (Text.hexNumber? last).map ([·]) else none
  | piece :: rest =>
    if piece ≠ [] ∧ piece.length ≤ 4 then
      match Text.hexNumber? piece, readPieces rest with
      | some n, some ns => some (n :: ns)
      | _, _ => none
    else none

/-- Splits a text at the first double colon. -/
def splitGap : List Char → Option (List Char × List Char)
  | ':' :: ':' :: rest => some ([], rest)
  | c :: rest => (splitGap rest).map fun r => (c :: r.1, r.2)
  | [] => none

/-- The pieces of one side of a double colon. -/
def sidePieces (cs : List Char) (mayMap : Bool) : Option (List Nat) :=
  if cs = [] then some []
  else if !mayMap && cs.contains '.' then none
  else readPieces (cs.splitOn ':')

/-- Reads an IPv6 address without its brackets. A double colon stands for one or
more zero pieces. -/
def readIpv6 (cs : List Char) : Except UrlFault Host :=
  match splitGap cs with
  | none =>
    match readPieces (cs.splitOn ':') with
    | some pieces => if pieces.length = 8 then .ok (.ipv6 pieces) else .error .invalidIpv6
    | none => .error .invalidIpv6
  | some (front, back) =>
    match sidePieces front false, sidePieces back true with
    | some before, some after =>
      let given := before.length + after.length
      if given < 8 then .ok (.ipv6 (before ++ List.replicate (8 - given) 0 ++ after))
      else .error .invalidIpv6
    | _, _ => .error .invalidIpv6

/-- The text between brackets. -/
def readBracketed (cs : List Char) : Except UrlFault Host :=
  if cs.getLast? = some ']' ∧ 1 < cs.length then readIpv6 (cs.drop 1).dropLast
  else .error .invalidIpv6

/-- Reads the host of a web address. -/
def readHost (cs : List Char) : Except UrlFault Host :=
  if cs.head? = some '[' then readBracketed cs
  else
    match (percentDecode? cs).bind asciiDomain? with
    | none => .error .invalidName
    | some [] => .error .emptyHost
    | some name => if endsInNumber name then readIpv4 name else .ok (.domain name)

/-- Characters that no host has, whatever the scheme. -/
def hostForbidden : List Char :=
  ['\x00', '\t', '\n', '\r', ' ', '#', '/', ':', '<', '>', '?', '@', '[', '\\', ']', '^', '|']

/-- Checks the host of an address of another kind. -/
def checkOpaqueHost (cs : List Char) : Except UrlFault Unit :=
  if cs.head? = some '[' then (readBracketed cs).map fun _ => ()
  else if cs.any hostForbidden.contains then .error .invalidHostCharacter
  else .ok ()

/-- The four bytes of an IPv4 address in decimal. -/
def ipv4Chars (address : Nat) : List Char :=
  ['.'].intercalate ([3, 2, 1, 0].map fun i => Nat.toDigits 10 (address / Nat.pow 256 i % 256))

/-- The number of zeros at the front. -/
def zeroRun (pieces : List Nat) : Nat := (pieces.takeWhile (· = 0)).length

/-- The start and length of the first longest run of two or more zero pieces. -/
def longestGap (pieces : List Nat) : Option (Nat × Nat) :=
  let runs := (List.range pieces.length).map fun i => (i, zeroRun (pieces.drop i))
  runs.foldl (fun best run =>
    if run.2 < 2 then best
    else match best with
      | none => some run
      | some old => if old.2 < run.2 then some run else best) none

/-- Hexadecimal pieces with colons between them. -/
def pieceChars (pieces : List Nat) : List Char :=
  [':'].intercalate (pieces.map (Nat.toDigits 16))

/-- The pieces of an IPv6 address; the longest run of zeros is left out. -/
def ipv6Chars (pieces : List Nat) : List Char :=
  match longestGap pieces with
  | none => pieceChars pieces
  | some (start, length) =>
    pieceChars (pieces.take start) ++ ':' :: ':' :: pieceChars (pieces.drop (start + length))

/-- The written form of a host. -/
def Host.chars : Host → List Char
  | domain name => name
  | ipv4 address => ipv4Chars address
  | ipv6 pieces => '[' :: (ipv6Chars pieces ++ [']'])

end Url

end Joinery
