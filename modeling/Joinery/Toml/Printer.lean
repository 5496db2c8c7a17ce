import Joinery.Json
import Joinery.Toml.Text
import Joinery.Word

/-!
# Writing TOML

A document is an object whose fields are values, tables and lists of tables. The
values come first; each table follows under a header, with an empty line before
it unless nothing precedes it. Entries of tables are texts, whole numbers, truth
values and empty lists.
-/

namespace Joinery.Toml

/-- A value in one line. Whole numbers have 64 bits and a sign. -/
def valueChars : Json → Option (List Char)
  | .str s => some (quoted s)
  | .int n => (int64? n).map fun _ => (toString n).toList
  | .bool b => some (toString b).toList
  | .arr [] => some ['[', ']']
  | _ => none

/-- A line with a key and its value. -/
def entryChars (key : String) (value : Json) : Option (List Char) :=
  (valueChars value).map fun chars => key.toList ++ ' ' :: '=' :: ' ' :: (chars ++ ['\n'])

/-- The lines of entries. -/
def entriesChars : List (String × Json) → Option (List Char)
  | [] => some []
  | (key, value) :: rest =>
    match entryChars key value, entriesChars rest with
    | some line, some lines => some (line ++ lines)
    | _, _ => none

/-- A header and the lines of a table. -/
def tableChars (header : List Char) : Json → Option (List Char)
  | .obj fields => (entriesChars fields).map fun lines => header ++ '\n' :: lines
  | _ => none

/-- The header of a table. -/
def headerChars (name : String) : List Char := '[' :: (name.toList ++ [']'])

/-- The header of a table in a list. -/
def itemHeaderChars (name : String) : List Char := '[' :: '[' :: (name.toList ++ [']', ']'])

/-- Whether a field is written among the values at the top. -/
def isEntry : String × Json → Bool
  | (_, .obj _) => false
  | (_, .arr (_ :: _)) => false
  | _ => true

/-- The tables of a field, each with its header. -/
def tablesOf : String × Json → List (Option (List Char))
  | (name, .obj fields) => [tableChars (headerChars name) (.obj fields)]
  | (name, .arr items) => items.map (tableChars (itemHeaderChars name))
  | _ => []

/-- Blocks of lines with empty lines between them. -/
def stacked : List (List Char) → List Char
  | [] => []
  | [block] => block
  | block :: rest => block ++ '\n' :: stacked rest

/-- The characters of a document. -/
def documentChars (fields : List (String × Json)) : Option (List Char) :=
  match entriesChars (fields.filter isEntry), (fields.flatMap tablesOf).mapM id with
  | some [], some tables => some (stacked tables)
  | some top, some tables => some (stacked (top :: tables))
  | _, _ => none

/-- A document as text. Some objects cannot be written. -/
def write? : Json → Option String
  | .obj fields => (documentChars fields).map String.ofList
  | _ => none

end Joinery.Toml
