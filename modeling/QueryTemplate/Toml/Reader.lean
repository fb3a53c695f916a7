import QueryTemplate.Text.Keyword

/-! # Reading a document

The readers of a TOML document take characters from the front of a text, or fail and take none.

* `Reader`: a reader; a failed alternative leaves the text as it was.
* `Reader.satisfy`, `Reader.exactly`, `Reader.run`, `Reader.many`, `Reader.sepBy`: the ways of
  combining readers.
* `spaces`, `lineEnd`, `comment`, `lineTail`, `gap`: what may stand between the parts.
-/

namespace QueryTemplate.Toml

abbrev Reader (α : Type) := StateT Text Option α

namespace Reader

def peek : Reader (Option Char) := do return (← get).head?

def satisfy (accepts : Char → Bool) : Reader Char := do
  match ← get with
  | [] => failure
  | c :: rest =>
    if accepts c then
      set rest
      return c
    else failure

def char (c : Char) : Reader Unit := do
  let _ ← satisfy (· == c)

def exactly (word : String) : Reader Unit := do
  match dropFolded? id word.toList (← get) with
  | some rest => set rest
  | none => failure

def run (accepts : Char → Bool) : Reader Text := do
  let text ← get
  set (text.dropWhile accepts)
  return text.takeWhile accepts

def run₁ (accepts : Char → Bool) : Reader Text := do
  return (← satisfy accepts) :: (← run accepts)

def repeated (accepts : Char → Bool) : Nat → Reader Text
  | 0 => return []
  | count + 1 => do return (← satisfy accepts) :: (← repeated accepts count)

/-- Items one after another, until one fails or takes nothing. -/
def many {α : Type} (item : Reader α) (text : Text) : Option (List α × Text) :=
  match item text with
  | none => some ([], text)
  | some (value, rest) =>
    if rest.length < text.length then
      (many item rest).map fun (values, after) => (value :: values, after)
    else some ([], text)
termination_by text.length

def sepBy₁ {α : Type} (item : Reader α) (separator : Reader Unit) : Reader (List α) := do
  let first ← item
  let others ← many do
    separator
    item
  return first :: others

def sepBy {α : Type} (item : Reader α) (separator : Reader Unit) : Reader (List α) :=
  sepBy₁ item separator <|> pure []

def atEnd : Reader Unit := do
  match ← get with
  | [] => return ()
  | _ :: _ => failure

end Reader

open Reader

def isSpace (c : Char) : Bool := c == ' ' || c == '\t'

/-- Characters that may stand in comments and quoted texts: all but the control characters other
    than the tab. -/
def isShown (c : Char) : Bool := c == '\t' || (0x20 ≤ c.toNat && c.toNat != 0x7F)

def spaces : Reader Unit := do
  let _ ← run isSpace

/-- The end of a line: a line feed, with or without a carriage return in front. -/
def lineEnd : Reader Unit := char '\n' <|> exactly "\r\n"

def comment : Reader Unit := do
  char '#'
  let _ ← run isShown

def lineTail : Reader Unit := do
  spaces
  let _ ← optional comment
  lineEnd <|> atEnd

/-- What may stand between the items of an array: blanks, line ends and comments. -/
def gap : Reader Unit := do
  let _ ← many do
    spaces
    lineEnd <|> (do comment; lineEnd)
  spaces

end QueryTemplate.Toml
