import Joinery.Toml.Date
import Joinery.Toml.Number
import Joinery.Toml.Table
import Joinery.Toml.Text

/-!
# Reading TOML

A document is a sequence of lines, each with one statement, a comment or
nothing. Values and names nest less than 80 deep.
-/

namespace Joinery.Toml

/-- A reader takes something off the front of a text. -/
abbrev Reader (α : Type) := List Char → Option (α × List Char)

/-- The greatest depth, plus one, of values and of names. -/
def depthLimit : Nat := 80

/-- The text after the blanks at its front. -/
def skipGap (cs : List Char) : List Char := cs.dropWhile isGap

/-- The text after blanks, line ends and comments at its front. -/
def skipLayout (inComment : Bool) : List Char → List Char
  | [] => []
  | c :: rest =>
    if inComment then
      if c = '\n' then skipLayout false rest
      else if isPlain c then skipLayout true rest
      else c :: rest
    else if c = '#' then skipLayout true rest
    else if isGap c || c = '\n' then skipLayout false rest
    else c :: rest

/-- A character of a key without quotes. -/
def isBare (c : Char) : Bool := c.isAlphanum || c = '_' || c = '-'

/-- Reads one part of a key. -/
def readPart (cs : List Char) : Option (String × List Char) :=
  match readShort cs with
  | some (text, rest) => some (String.ofList text, rest)
  | none =>
    match cs.takeWhile isBare with
    | [] => none
    | name => some (String.ofList name, cs.dropWhile isBare)

/-- Reads the parts of a key, with points between them. The budget bounds their
number. -/
def readParts : Nat → Reader (List String)
  | 0, _ => none
  | budget + 1, cs =>
    match readPart (skipGap cs) with
    | none => none
    | some (name, rest) =>
      match skipGap rest with
      | '.' :: more => (readParts budget more).map fun r => (name :: r.1, r.2)
      | more => some ([name], more)

/-- Reads a key. -/
def readKey : Reader (List String) := readParts (depthLimit - 1)

/-- A character of a value that is not quoted. -/
def isWordChar (c : Char) : Bool := isBare c || c = '+' || c = '.'

/-- Reads an entry: a key, an equals sign and a value. -/
def readEntry (value : Reader Json) : Reader (List String × Json) := fun cs =>
  match readKey cs with
  | none => none
  | some (key, rest) =>
    match rest with
    | '=' :: more => (value (skipGap more)).map fun r => ((key, r.1), r.2)
    | _ => none

/-- Reads the items of a list up to its end. A comma may follow the last. The
budget bounds their number. -/
def readItems (value : Reader Json) : Nat → Reader (List Json)
  | 0, _ => none
  | budget + 1, cs =>
    match skipLayout false cs with
    | ']' :: rest => some ([], rest)
    | cs =>
      match value cs with
      | none => none
      | some (item, rest) =>
        match skipLayout false rest with
        | ']' :: more => some ([item], more)
        | ',' :: more => (readItems value budget more).map fun r => (item :: r.1, r.2)
        | _ => none

/-- Reads one or more entries of a table in braces up to its end. The budget
bounds their number. -/
def readEntries (value : Reader Json) : Nat → Reader (List (List String × Json))
  | 0, _ => none
  | budget + 1, cs =>
    match readEntry value cs with
    | none => none
    | some (entry, rest) =>
      match skipGap rest with
      | '\x7d' :: more => some ([entry], more)
      | ',' :: more => (readEntries value budget more).map fun r => (entry :: r.1, r.2)
      | _ => none

/-- Reads a table in braces after the brace that opens it. -/
def readBraces (value : Reader Json) : Reader Json := fun cs =>
  match skipGap cs with
  | '\x7d' :: rest => some (.obj [], rest)
  | _ =>
    (readEntries value cs.length cs).bind fun r =>
      (Table.ofEntries? r.1).map fun t => (t.toJson, r.2)

/-- Reads a date as an object with its text. -/
def readDate : Reader Json := fun cs =>
  (passDate cs).map fun rest =>
    let text := cs.take (cs.length - rest.length)
    (.obj [("date", .str (String.ofList text))], rest)

/-- Reads a value without quotes, brackets or braces. -/
def readSimple : Reader Json := fun cs =>
  match readDate cs with
  | some r => some r
  | none => (readWord (cs.takeWhile isWordChar)).map fun v => (v, cs.dropWhile isWordChar)

/-- Reads a value that nests less than `depth` deep. -/
def readValue : Nat → Reader Json
  | _, '"' :: rest =>
    (readQuoted ('"' :: rest)).map fun r => (.str (String.ofList r.1), r.2)
  | _, '\x27' :: rest =>
    (readQuoted ('\x27' :: rest)).map fun r => (.str (String.ofList r.1), r.2)
  | 0, '[' :: _ => none
  | 0, '\x7b' :: _ => none
  | depth + 1, '[' :: rest =>
    (readItems (readValue depth) (rest.length + 1) rest).map fun r => (.arr r.1, r.2)
  | depth + 1, '\x7b' :: rest => readBraces (readValue depth) rest
  | _, cs => readSimple cs

/-- Reads a statement. -/
def readStatement : Reader Statement
  | '[' :: '[' :: cs =>
    match readKey cs with
    | some (name, ']' :: ']' :: rest) => some (.item name, rest)
    | _ => none
  | '[' :: cs =>
    match readKey cs with
    | some (name, ']' :: rest) => some (.header name, rest)
    | _ => none
  | cs =>
    (readEntry (readValue (depthLimit - 1)) cs).map fun r => (.entry r.1.1 r.1.2, r.2)

/-- Reads the rest of a line, which holds no more than a comment. -/
def readLineEnd (cs : List Char) : Option (List Char) :=
  let rest :=
    match skipGap cs with
    | '#' :: comment => comment.dropWhile isPlain
    | rest => rest
  match rest with
  | [] => some []
  | '\n' :: more => some more
  | _ => none

/-- Reads the statements of a document. The budget bounds the number of lines. -/
def readStatements : Nat → List Char → Option (List Statement)
  | 0, cs => if skipGap cs = [] then some [] else none
  | budget + 1, cs =>
    match skipGap cs with
    | [] => some []
    | '\n' :: rest => readStatements budget rest
    | '#' :: rest => (readLineEnd ('#' :: rest)).bind (readStatements budget)
    | cs =>
      match readStatement cs with
      | none => none
      | some (statement, rest) =>
        match readLineEnd rest with
        | none => none
        | some rest => (readStatements budget rest).map fun more => statement :: more

/-- Line ends of two characters become single ones. -/
def unifyBreaks : List Char → List Char
  | [] => []
  | '\r' :: '\n' :: rest => '\n' :: unifyBreaks rest
  | c :: rest => c :: unifyBreaks rest

/-- The text after a byte order mark at its front. -/
def skipMark : List Char → List Char
  | '\uFEFF' :: rest => rest
  | cs => cs

/-- The object that a document stands for. -/
def parse? (text : String) : Option Json :=
  let cs := unifyBreaks (skipMark text.toList)
  ((readStatements cs.length cs).bind (Table.extendAll .empty [])).map Table.toJson

end Joinery.Toml
