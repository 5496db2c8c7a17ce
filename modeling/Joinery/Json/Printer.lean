import Joinery.Json
import Joinery.Text.Hex

/-!
# Writing JSON

A value is written in one line without blanks, or over several lines with two
blanks for each level. Quotes, backslashes and control characters are escaped
and nothing else is.
-/

namespace Joinery.Json

/-- The written form of one character of a text. -/
def escape (c : Char) : List Char :=
  if c = '"' then ['\\', '"']
  else if c = '\\' then ['\\', '\\']
  else if c = '\x08' then ['\\', 'b']
  else if c = '\x0c' then ['\\', 'f']
  else if c = '\n' then ['\\', 'n']
  else if c = '\r' then ['\\', 'r']
  else if c = '\t' then ['\\', 't']
  else if c.toNat < 0x20 then
    ['\\', 'u', '0', '0', Text.hexDigit (c.toNat / 16), Text.hexDigit (c.toNat % 16)]
  else [c]

/-- A text in quotes. -/
def quoted (s : String) : List Char := '"' :: (s.toList.flatMap escape ++ ['"'])

/-- Parts separated by commas. -/
def joined : List (List Char) → List Char
  | [] => []
  | [part] => part
  | part :: rest => part ++ ',' :: joined rest

mutual

/-- The characters of a value in one line. -/
def compactChars : Json → List Char
  | null => ['n', 'u', 'l', 'l']
  | bool true => ['t', 'r', 'u', 'e']
  | bool false => ['f', 'a', 'l', 's', 'e']
  | int n => (toString n).toList
  | real x => x.scientificText.toList
  | str s => quoted s
  | arr items => '[' :: (joined (compactItems items) ++ [']'])
  | obj fields => '\x7b' :: (joined (compactFields fields) ++ ['\x7d'])

/-- The written items. -/
def compactItems : List Json → List (List Char)
  | [] => []
  | item :: rest => compactChars item :: compactItems rest

/-- The written fields. -/
def compactFields : List (String × Json) → List (List Char)
  | [] => []
  | (name, value) :: rest => (quoted name ++ ':' :: compactChars value) :: compactFields rest

end

/-- The value in one line. -/
def compact (value : Json) : String := String.ofList value.compactChars

/-- A line end and the blanks of a level. -/
def lineStart (level : Nat) : List Char := '\n' :: List.replicate (2 * level) ' '

/-- Parts on lines of their own at a level, with commas after all but the last. -/
def stacked (level : Nat) : List (List Char) → List Char
  | [] => []
  | [part] => lineStart level ++ part
  | part :: rest => lineStart level ++ part ++ ',' :: stacked level rest

mutual

/-- The characters of a value over several lines, at a level. -/
def prettyChars (level : Nat) : Json → List Char
  | arr [] => ['[', ']']
  | obj [] => ['\x7b', '\x7d']
  | arr items =>
    '[' :: (stacked (level + 1) (prettyItems (level + 1) items) ++ lineStart level ++ [']'])
  | obj fields =>
    '\x7b' ::
      (stacked (level + 1) (prettyFields (level + 1) fields) ++ lineStart level ++ ['\x7d'])
  | value => compactChars value

/-- The written items of a level. -/
def prettyItems (level : Nat) : List Json → List (List Char)
  | [] => []
  | item :: rest => prettyChars level item :: prettyItems level rest

/-- The written fields of a level. -/
def prettyFields (level : Nat) : List (String × Json) → List (List Char)
  | [] => []
  | (name, value) :: rest =>
    (quoted name ++ ':' :: ' ' :: prettyChars level value) :: prettyFields level rest

end

/-- The value over several lines. -/
def pretty (value : Json) : String := String.ofList (value.prettyChars 0)

end Joinery.Json
