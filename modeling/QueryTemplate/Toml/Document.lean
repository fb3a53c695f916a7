import QueryTemplate.Toml.Moment
import QueryTemplate.Toml.Node

/-! # Documents

A TOML document is a sequence of statements, each on lines of its own: a key with its value, or
the header of a table. The statements are read first, and then carried out on an empty table.

* `key`, `value`: dotted keys and values.
* `Statement`, `statements`: the statements of a document.
* `parse?`: the root table of a document.
-/

namespace QueryTemplate.Toml

open Reader

/-- The number of parts at which a key is too long, and of open brackets at which a value is too
    deep. -/
def depthLimit : Nat := 80

def isBareKeyChar (c : Char) : Bool := c.isAlphanum || c == '_' || c == '-'

def keyPart : Reader Text := do
  spaces
  let part ← basicString <|> literalString <|> run₁ isBareKeyChar
  spaces
  return part

/-- A key: the path that leads to its table, and its last part. -/
def key : Reader (List Text × Text) := do
  let parts ← sepBy₁ keyPart (char '.')
  match parts.getLast? with
  | some last => if parts.length < depthLimit then return (parts.dropLast, last) else failure
  | none => failure

/-- The table between braces that the pairs make up. -/
def inlineTable? (pairs : List ((List Text × Text) × Node)) : Option Node := do
  let entries ← pairs.foldlM
    (fun entries ((path, last), node) => addPair? last node path entries) []
  return .table .inline entries

/-- A value; its brackets can be open `depth` deep. -/
def value : (depth : Nat) → Reader Node
  | 0 => scalar
  | depth + 1 => array (value depth) <|> table (value depth) <|> scalar
where
  scalar : Reader Node :=
    (.string <$> string) <|> (do moment; return .moment) <|> (do float; return .float) <|>
      (.integer <$> integer) <|> (do exactly "true"; return .boolean true) <|>
      (do exactly "false"; return .boolean false)
  /-- Items between brackets, on any number of lines. The last one may have a comma. -/
  array (item : Reader Node) : Reader Node := do
    char '['
    let items ← sepBy (do gap; let node ← item; gap; return node) (char ',')
    -- A comma alone is no list.
    if !items.isEmpty then
      let _ ← optional (char ',')
    gap
    char ']'
    return .array items
  /-- Pairs between braces, on one line. -/
  table (item : Reader Node) : Reader Node := do
    char '{'
    let pairs ← sepBy
      (do
        let name ← key
        char '='
        spaces
        let node ← item
        spaces
        return (name, node))
      (char ',')
    spaces
    char '}'
    match inlineTable? pairs with
    | some node => return node
    | none => failure

inductive Statement where
  | pair (path : List Text) (key : Text) (value : Node)
  | table (path : List Text) (key : Text)
  | element (path : List Text) (key : Text)

def pairStatement : Reader Statement := do
  let (path, last) ← key
  char '='
  spaces
  let node ← value (depthLimit - 1)
  lineTail
  return .pair path last node

def headerStatement : Reader Statement := do
  if (← get).take 2 = ['[', '['] then
    exactly "[["
    let (path, last) ← key
    exactly "]]"
    lineTail
    return .element path last
  else
    char '['
    let (path, last) ← key
    char ']'
    lineTail
    return .table path last

/-- A line of a document; empty lines and comments say nothing. -/
def line : Reader (Option Statement) := do
  let statement ←
    (do lineEnd; return none) <|> (do comment; lineEnd <|> atEnd; return none) <|>
      (some <$> headerStatement) <|> (some <$> pairStatement)
  spaces
  return statement

/-- The statements of a document. A byte order mark may stand in front. -/
def statements : Reader (List Statement) := do
  let _ ← optional (char '\ufeff')
  spaces
  let lines ← many line
  atEnd
  return lines.filterMap id

/-- Carries out a statement. Pairs belong to the table of the last header, whose path is the first
    part of the state; the second part is the root table. -/
def perform? : List Text × Entries → Statement → Option (List Text × Entries)
  | (current, root), .pair path key value => do
    let root ← updateAt? (addPair? key value path) current root
    return (current, root)
  | (_, root), .table path key => do
    let root ← updateAt? (openTable? key) path root
    return (path ++ [key], root)
  | (_, root), .element path key => do
    let root ← updateAt? (openElement? key) path root
    return (path ++ [key], root)

def parse? (text : Text) : Option Entries := do
  let (statements, _) ← statements text
  let (_, root) ← statements.foldlM perform? ([], [])
  return root

end QueryTemplate.Toml
