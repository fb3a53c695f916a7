import QueryTemplate.Toml.Reader

/-! # Strings

A TOML string stands between quotes or between triple quotes. Double quotes allow escapes, single
quotes take everything as it is; triple quotes allow line ends.

* `basicString`, `literalString`: strings on one line, which also serve as keys.
* `string`: a string of any of the four forms.
-/

namespace QueryTemplate.Toml

open Reader

def isBasicChar (c : Char) : Bool := isShown c && c != '"' && c != '\\'

def isLiteralChar (c : Char) : Bool := isShown c && c != '\''

def isHexDigit (c : Char) : Bool :=
  c.isDigit || ('a' ≤ c && c ≤ 'f') || ('A' ≤ c && c ≤ 'F')

def hexValue (c : Char) : Nat :=
  if c.isDigit then c.toNat - '0'.toNat
  else if 'a' ≤ c && c ≤ 'f' then c.toNat - 'a'.toNat + 10
  else c.toNat - 'A'.toNat + 10

/-- A character by number, in a given count of hexadecimal digits. The number has to be that of a
    character. -/
def numberedChar (count : Nat) : Reader Char := do
  let digits ← repeated isHexDigit count
  let code := digits.foldl (fun code digit => code * 16 + hexValue digit) 0
  if code.isValidChar then return Char.ofNat code else failure

def escape : Reader Char := do
  char '\\'
  match ← satisfy fun _ => true with
  | 'b' => return '\x08'
  | 't' => return '\t'
  | 'n' => return '\n'
  | 'f' => return '\x0c'
  | 'r' => return '\r'
  | '"' => return '"'
  | '\\' => return '\\'
  | 'u' => numberedChar 4
  | 'U' => numberedChar 8
  | _ => failure

def basicString : Reader Text := do
  char '"'
  let parts ← many (run₁ isBasicChar <|> (do return [← escape]))
  char '"'
  return parts.flatten

def literalString : Reader Text := do
  char '\''
  let text ← run isLiteralChar
  char '\''
  return text

/-- A backslash at the end of a line takes away the line end and all blanks up to the next
    character. -/
def joinedLines : Reader Text := do
  char '\\'
  spaces
  lineEnd
  let _ ← many (lineEnd <|> do let _ ← satisfy isSpace)
  return []

def lineFeed : Reader Text := do
  lineEnd
  return ['\n']

/-- One or two quotes inside triple quotes; what follows them is not a quote. -/
def innerQuotes (quote : Char) : Reader Text := do
  let quotes ← run₁ (· == quote)
  if quotes.length ≤ 2 then return quotes else failure

/-- The quotes that close a string between triple quotes. Up to two quotes in front of the closing
    ones belong to the string. -/
def closingQuotes (quote : Char) : Reader Text := do
  let quotes ← run₁ (· == quote)
  if 3 ≤ quotes.length ∧ quotes.length ≤ 5 then return quotes.drop 3 else failure

/-- A string between triple quotes, made of the given parts. A line end right behind the opening
    quotes is left out. -/
def tripleQuoted (quote : Char) (part : Reader Text) : Reader Text := do
  exactly (String.ofList [quote, quote, quote])
  let _ ← optional lineEnd
  let parts ← many (part <|> innerQuotes quote)
  return parts.flatten ++ (← closingQuotes quote)

def longBasicString : Reader Text :=
  tripleQuoted '"' (run₁ isBasicChar <|> joinedLines <|> (do return [← escape]) <|> lineFeed)

def longLiteralString : Reader Text :=
  tripleQuoted '\'' (run₁ isLiteralChar <|> lineFeed)

def string : Reader Text :=
  longBasicString <|> longLiteralString <|> basicString <|> literalString

end QueryTemplate.Toml
