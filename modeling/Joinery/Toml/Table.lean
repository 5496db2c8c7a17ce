import Joinery.Json

/-!
# Tables of a TOML document

A document is a list of statements: entries with dotted keys, headers of tables
and headers of list items. Statements build a tree of tables, and each may
extend only what it is allowed to: nothing is defined twice, and a table that
dotted keys have made is not reopened by a header, nor one with a header by
dotted keys.
-/

namespace Joinery.Toml

/-- How a table came to be. -/
inductive Origin where
  /-- By a header of its own; so is the whole document. -/
  | header
  /-- As a part of the name in another header. -/
  | implied
  /-- As a part of a dotted key. -/
  | dotted
deriving DecidableEq

/-- What stands under a key. -/
inductive Node where
  | value (v : Json)
  | table (origin : Origin) (entries : List (String × Node))
  /-- A list of tables, each with a header. -/
  | items (tables : List (List (String × Node)))

/-- A table that is being filled. -/
structure Table where
  origin : Origin
  entries : List (String × Node)

/-- A statement of a document. -/
inductive Statement where
  | entry (key : List String) (value : Json)
  | header (name : List String)
  | item (name : List String)

namespace Table

/-- The whole document before its first statement. -/
def empty : Table := ⟨.header, []⟩

/-- What stands under a key. -/
def find? (t : Table) (key : String) : Option Node := t.entries.lookup key

/-- Puts a node under a key, in the place of the one that is there. -/
def putEntry (key : String) (node : Node) : List (String × Node) → List (String × Node)
  | [] => [(key, node)]
  | entry :: rest => if entry.1 = key then (key, node) :: rest else entry :: putEntry key node rest

/-- Puts a node under a key. -/
def put (t : Table) (key : String) (node : Node) : Table :=
  { t with entries := putEntry key node t.entries }

/-- Changes the table at the end of a path. Tables on the way are made where
there are none; of a list of tables, the last is taken. A path of dotted keys
does not enter a table that has a header. -/
def within (dotted : Bool) (change : Table → Option Table) : List String → Table → Option Table
  | [], t => change t
  | key :: rest, t =>
    match t.find? key with
    | none =>
      (within dotted change rest ⟨if dotted then .dotted else .implied, []⟩).map fun made =>
        t.put key (.table made.origin made.entries)
    | some (.value _) => none
    | some (.table origin entries) =>
      if dotted && origin = .header then none
      else
        (within dotted change rest ⟨origin, entries⟩).map fun changed =>
          t.put key (.table changed.origin changed.entries)
    | some (.items tables) =>
      match tables.getLast? with
      | none => none
      | some last =>
        (within dotted change rest ⟨.header, last⟩).map fun changed =>
          t.put key (.items (tables.dropLast ++ [changed.entries]))

/-- Defines a value under a new key. -/
def define (key : String) (value : Json) (t : Table) : Option Table :=
  match t.find? key with
  | none => some (t.put key (.value value))
  | some _ => none

/-- Defines a value under a dotted key: all tables on its way are made by dotted
keys too. -/
def defineAt (path : List String) (key : String) (value : Json) (t : Table) : Option Table :=
  t.within true
    (fun inner => if path = [] ∨ inner.origin = .dotted then inner.define key value else none) path

/-- Opens a table: a new one, or one that so far was only implied. -/
def openTable (key : String) (t : Table) : Option Table :=
  match t.find? key with
  | none => some (t.put key (.table .header []))
  | some (.table .implied entries) => some (t.put key (.table .header entries))
  | some _ => none

/-- Opens a further table of a list. -/
def openItem (key : String) (t : Table) : Option Table :=
  match t.find? key with
  | none => some (t.put key (.items [[]]))
  | some (.items tables) => some (t.put key (.items (tables ++ [[]])))
  | some _ => none

/-- Applies a function to all but the last part of a name, and to that part. -/
def splitName {α : Type} (f : List String → String → Option α) (name : List String) : Option α :=
  name.getLast?.bind (f name.dropLast)

/-- The document and the name of the open table after one more statement. -/
def extend (document : Table) (current : List String) :
    Statement → Option (Table × List String)
  | .entry key value =>
    (document.within false (fun t => splitName (fun path key => t.defineAt path key value) key)
      current).map fun changed => (changed, current)
  | .header name =>
    (splitName (fun path key => document.within false (openTable key) path) name).map
      fun changed => (changed, name)
  | .item name =>
    (splitName (fun path key => document.within false (openItem key) path) name).map
      fun changed => (changed, name)

/-- The document after further statements. -/
def extendAll (document : Table) (current : List String) : List Statement → Option Table
  | [] => some document
  | statement :: rest =>
    match document.extend current statement with
    | none => none
    | some (changed, current) => extendAll changed current rest

/-- The table of entries with dotted keys, as they stand between braces. -/
def ofEntries? (entries : List (List String × Json)) : Option Table :=
  extendAll empty [] (entries.map fun entry => .entry entry.1 entry.2)

end Table

mutual

/-- The value that a node stands for. -/
def Node.toJson : Node → Json
  | .value v => v
  | .table _ entries => .obj (Node.fields entries)
  | .items tables => .arr (Node.objects tables)

/-- The fields that entries stand for. -/
def Node.fields : List (String × Node) → List (String × Json)
  | [] => []
  | (key, node) :: rest => (key, node.toJson) :: Node.fields rest

/-- The objects that tables stand for. -/
def Node.objects : List (List (String × Node)) → List Json
  | [] => []
  | entries :: rest => .obj (Node.fields entries) :: Node.objects rest

end

/-- The object that a table stands for. -/
def Table.toJson (t : Table) : Json := .obj (Node.fields t.entries)

end Joinery.Toml
