import QueryTemplate.Text.Basic

/-! # Nodes of a document

A TOML document is a tree of tables. How a table came about decides what may still be added to it.

* `Node`, `Origin`: values and tables, and the ways in which a table can begin.
* `addPair?`: one more key and value.
* `openTable?`, `openElement?`: the headers `[a.b]` and `[[a.b]]`.
* `updateAt?`: a change to the table that a header has opened.
-/

namespace QueryTemplate.Toml

inductive Origin where
  /-- By a header of its own. -/
  | header
  /-- By the header of a table inside it. -/
  | implied
  /-- By a dotted key. -/
  | dotted
  /-- As a value between braces, which is complete. -/
  | inline
  deriving DecidableEq, Repr

/-- A value, a table, or an array of tables whose last table is the open one. Floats and moments
    are kept without their value. -/
inductive Node where
  | string (value : Text)
  | integer (value : Int)
  | float
  | boolean (value : Bool)
  | moment
  | array (items : List Node)
  | table (origin : Origin) (entries : List (Text × Node))
  | tables (earlier : List (List (Text × Node))) (last : List (Text × Node))

abbrev Entries := List (Text × Node)

/-- The entries with another node under a key; a new key comes last. -/
def setEntry (key : Text) (node : Node) : Entries → Entries
  | [] => [(key, node)]
  | (other, held) :: rest =>
    if other = key then (key, node) :: rest else (other, held) :: setEntry key node rest

/-- Adds a key and its value in the table to which a dotted path leads. A key has one value only.
    A table on the path that a header has opened, or that stands between braces, is closed to
    dotted keys; the last table of the path has to be one that dotted keys began. -/
def addPair? (key : Text) (value : Node) : List Text → Entries → Option Entries
  | [], entries =>
    match entries.lookup key with
    | none => some (setEntry key value entries)
    | some _ => none
  | step :: path, entries =>
    match entries.lookup step with
    | none => do
      let inner ← addPair? key value path []
      some (setEntry step (.table .dotted inner) entries)
    | some (.table .dotted inner) => do
      let inner ← addPair? key value path inner
      some (setEntry step (.table .dotted inner) entries)
    | some (.table .implied inner) => do
      -- Such a table may be passed through, but gets its own keys from its own header only.
      guard (!path.isEmpty)
      let inner ← addPair? key value path inner
      some (setEntry step (.table .implied inner) entries)
    | some (.tables earlier last) => do
      guard (!path.isEmpty)
      let last ← addPair? key value path last
      some (setEntry step (.tables earlier last) entries)
    | some _ => none

/-- Changes the table to which a header's path leads. Tables that are missing on the way are
    implied; of an array of tables, the last one is meant. -/
def updateAt? (change : Entries → Option Entries) : List Text → Entries → Option Entries
  | [], entries => change entries
  | step :: path, entries =>
    match entries.lookup step with
    | none => do
      let inner ← updateAt? change path []
      some (setEntry step (.table .implied inner) entries)
    | some (.table .inline _) => none
    | some (.table origin inner) => do
      let inner ← updateAt? change path inner
      some (setEntry step (.table origin inner) entries)
    | some (.tables earlier last) => do
      let last ← updateAt? change path last
      some (setEntry step (.tables earlier last) entries)
    | some _ => none

/-- Opens the table of a header. It must be new, or implied so far. -/
def openTable? (key : Text) (entries : Entries) : Option Entries :=
  match entries.lookup key with
  | none => some (setEntry key (.table .header []) entries)
  | some (.table .implied inner) => some (setEntry key (.table .header inner) entries)
  | some _ => none

def openElement? (key : Text) (entries : Entries) : Option Entries :=
  match entries.lookup key with
  | none => some (setEntry key (.tables [] []) entries)
  | some (.tables earlier last) => some (setEntry key (.tables (earlier ++ [last]) []) entries)
  | some _ => none

end QueryTemplate.Toml
