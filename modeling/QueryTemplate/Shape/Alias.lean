import QueryTemplate.Text.Blank
import QueryTemplate.Text.Keyword

/-! # The alias of the root entity

A query that selects from an entity can give it an alias, `from Entity alias` or
`from Entity as alias`. The alias is looked for in masked text.

* `isPathChar`: the characters of an entity path.
* `aliasAfterFrom?`: the word in the alias place behind a `from`.
* `findAlias?`: the alias of the first `from` with a word in that place.
-/

namespace QueryTemplate

def isPathChar (c : Char) : Bool := isWordChar c || c == '.'

/-- Drops the blanks that a text begins with, of which there has to be one at least. -/
def dropBlanks? (text : Text) : Option Text :=
  if text.head?.any isBlank then some (skipBlanks text) else none

/-- Drops the path that a text begins with, of which there has to be one character at least. -/
def dropPath? (text : Text) : Option Text :=
  if text.head?.any isPathChar then some (text.dropWhile isPathChar) else none

def leadingWord? (text : Text) : Option Text :=
  match text.takeWhile isWordChar with
  | [] => none
  | word => some word

/-- The word in the alias place. The keyword `as` may stand in front of it; without a word behind
    it, `as` is itself the word. -/
def aliasWord? (text : Text) : Option Text :=
  match (dropFolded? foldWide "as".toList text).bind dropBlanks? |>.bind leadingWord? with
  | some word => some word
  | none => leadingWord? text

/-- The word in the alias place of a text that begins with `from`, a path and blanks. -/
def aliasAfterFrom? (text : Text) : Option Text := do
  let rest ← dropFolded? foldWide "from".toList text
  let rest ← dropBlanks? rest
  let rest ← dropPath? rest
  let rest ← dropBlanks? rest
  aliasWord? rest

/-- The word in the alias place of the first `from` that has one. The character before the text
    decides whether a `from` at its start is a word. -/
def firstAliasWord? (before : Option Char) : Text → Option Text
  | [] => none
  | c :: rest =>
    match if startsWord before then aliasAfterFrom? (c :: rest) else none with
    | some word => some word
    | none => firstAliasWord? (some c) rest

/-- The words that can follow an entity without being its alias. -/
def clauseWords : List Text :=
  ["as", "cross", "fetch", "full", "group", "having", "inner", "join", "left", "limit", "natural",
    "offset", "on", "order", "outer", "right", "set", "union", "where", "with"].map String.toList

/-- The alias of the root entity. Only the first word in an alias place counts: when it begins the
    next clause, the query has no alias. -/
def findAlias? (masked : Text) : Option Text :=
  (firstAliasWord? none masked).filter fun word => !clauseWords.any (sameFolded word)

end QueryTemplate
