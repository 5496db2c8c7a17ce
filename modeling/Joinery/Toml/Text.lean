import Joinery.Text.Hex

/-!
# Quoted texts in TOML

A text is written in one of four styles: on one line between double quotes with
escapes or between single quotes without, and over several lines between three
of either. Writing takes the first style, in an order of preference, that shows
the text without escapes, and resorts to escapes when there is none.

Line ends are single line feeds here; a reader of files sees to that first.
-/

namespace Joinery.Toml

/-- A character that stands for itself on a line: a tab, or none of the control
characters. -/
def isPlain (c : Char) : Bool := c = '\t' || (0x20 ≤ c.toNat && c.toNat ≠ 0x7F)

/-- How a text is quoted. -/
inductive Style where
  | basic
  | literal
  | longBasic
  | longLiteral
deriving DecidableEq

/-- The length of the longest run of a character, after a run of length `run`. -/
def longestRun (mark : Char) (run : Nat) : List Char → Nat
  | [] => run
  | c :: rest =>
    if c = mark then longestRun mark (run + 1) rest else max run (longestRun mark 0 rest)

/-- Whether a text has a character that only an escape can show. -/
def needsEscape (cs : List Char) : Bool := cs.any fun c => !isPlain c && c ≠ '\n'

/-- Whether a style shows a text as it is. -/
def Style.shows (style : Style) (cs : List Char) : Bool :=
  !needsEscape cs &&
    match style with
    | basic => !cs.contains '\\' && longestRun '"' 0 cs = 0 && !cs.contains '\n'
    | literal => longestRun '\x27' 0 cs = 0 && !cs.contains '\n'
    | longBasic => !cs.contains '\\' && longestRun '"' 0 cs ≤ 2
    | longLiteral => longestRun '\x27' 0 cs ≤ 2

/-- The style in which a text is written. -/
def Style.choose (cs : List Char) : Style :=
  match [basic, literal, longBasic, longLiteral].find? fun style => style.shows cs with
  | some style => style
  | none => if cs.contains '\n' then longBasic else basic

/-- The escape of a character that is neither a quote nor, over several lines, a
line end; most characters need none. -/
def escape (c : Char) : List Char :=
  if c = '\x08' then ['\\', 'b']
  else if c = '\t' then ['\\', 't']
  else if c = '\n' then ['\\', 'n']
  else if c = '\x0c' then ['\\', 'f']
  else if c = '\r' then ['\\', 'r']
  else if c = '\\' then ['\\', '\\']
  else if isPlain c then [c]
  else
    ['\\', 'u', '0', '0', Text.hexDigitUpper (c.toNat / 16), Text.hexDigitUpper (c.toNat % 16)]

/-- The text of a basic style between its quotes. As many quotes in a row stand
as they are as `quotes` says; `run` have just been written. -/
def basicChars (long : Bool) (quotes run : Nat) : List Char → List Char
  | [] => []
  | c :: rest =>
    if c = '"' then
      if run < quotes then '"' :: basicChars long quotes (run + 1) rest
      else '\\' :: '"' :: basicChars long quotes 0 rest
    else if long && c = '\n' then '\n' :: basicChars long quotes 0 rest
    else escape c ++ basicChars long quotes 0 rest

/-- A line end after the opening quotes, if the text has several lines. It does
not belong to the text. -/
def openingBreak (cs : List Char) : List Char := if cs.contains '\n' then ['\n'] else []

/-- A text in a style. -/
def Style.write (style : Style) (cs : List Char) : List Char :=
  match style with
  | basic => '"' :: (basicChars false 0 0 cs ++ ['"'])
  | literal => '\x27' :: (cs ++ ['\x27'])
  | longBasic =>
    '"' :: '"' :: '"' :: (openingBreak cs ++ basicChars true 2 0 cs ++ ['"', '"', '"'])
  | longLiteral =>
    '\x27' :: '\x27' :: '\x27' :: (openingBreak cs ++ cs ++ ['\x27', '\x27', '\x27'])

/-- A text as it is written. -/
def quoted (text : String) : List Char := (Style.choose text.toList).write text.toList

/-- What a letter after a backslash stands for. -/
def escaped? (c : Char) : Option Char :=
  if c = '"' ∨ c = '\\' then some c
  else if c = 'b' then some '\x08'
  else if c = 't' then some '\t'
  else if c = 'n' then some '\n'
  else if c = 'f' then some '\x0c'
  else if c = 'r' then some '\r'
  else none

/-- The character with the code point that hexadecimal digits give. -/
def scalar? (digits : List Char) : Option Char :=
  (Text.hexNumber? digits).bind fun n => if n.isValidChar then some (Char.ofNat n) else none

/-- Blanks within a line. -/
def isGap (c : Char) : Bool := c = ' ' || c = '\t'

/-- Whether only blanks come before the end of the line. -/
def endsLine (cs : List Char) : Bool := (cs.dropWhile isGap).head? = some '\n'

/-- What follows three closing quotes: up to two more quotes belong to the text. -/
def closeLong (mark : Char) (cs : List Char) : List Char × List Char :=
  let extra := (cs.takeWhile fun c => c = mark).take 2
  (extra, cs.drop extra.length)

/-- Reads a text with escapes up to its closing quotes. Over several lines, a
backslash at the end of a line skips all blanks and line ends after it. -/
def readBasic (long : Bool) (skipping : Bool) : List Char → Option (List Char × List Char)
  | [] => none
  | '\\' :: 'u' :: a :: b :: c :: d :: rest =>
    (scalar? [a, b, c, d]).bind fun x =>
      (readBasic long false rest).map fun r => (x :: r.1, r.2)
  | '\\' :: 'U' :: a :: b :: c :: d :: e :: f :: g :: h :: rest =>
    (scalar? [a, b, c, d, e, f, g, h]).bind fun x =>
      (readBasic long false rest).map fun r => (x :: r.1, r.2)
  | '\\' :: c :: rest =>
    if long && endsLine (c :: rest) then readBasic long true rest
    else
      (escaped? c).bind fun x => (readBasic long false rest).map fun r => (x :: r.1, r.2)
  | '"' :: rest =>
    if long then
      match rest with
      | '"' :: '"' :: more => some (closeLong '"' more)
      | _ => (readBasic long false rest).map fun r => ('"' :: r.1, r.2)
    else some ([], rest)
  | c :: rest =>
    if skipping && (isGap c || c = '\n') then readBasic long true rest
    else if c ≠ '\\' && (isPlain c || (long && c = '\n')) then
      (readBasic long false rest).map fun r => (c :: r.1, r.2)
    else none

/-- Reads a text without escapes up to its closing quotes. -/
def readLiteral (long : Bool) : List Char → Option (List Char × List Char)
  | [] => none
  | '\x27' :: rest =>
    if long then
      match rest with
      | '\x27' :: '\x27' :: more => some (closeLong '\x27' more)
      | _ => (readLiteral long rest).map fun r => ('\x27' :: r.1, r.2)
    else some ([], rest)
  | c :: rest =>
    if isPlain c || (long && c = '\n') then
      (readLiteral long rest).map fun r => (c :: r.1, r.2)
    else none

/-- The text after a line end at its front, if there is one. -/
def skipBreak : List Char → List Char
  | '\n' :: rest => rest
  | cs => cs

/-- Reads a text on one line. -/
def readShort : List Char → Option (List Char × List Char)
  | '"' :: rest => readBasic false false rest
  | '\x27' :: rest => readLiteral false rest
  | _ => none

/-- Reads a text in any style. -/
def readQuoted : List Char → Option (List Char × List Char)
  | '"' :: '"' :: '"' :: rest => readBasic true false (skipBreak rest)
  | '\x27' :: '\x27' :: '\x27' :: rest => readLiteral true (skipBreak rest)
  | cs => readShort cs

end Joinery.Toml
