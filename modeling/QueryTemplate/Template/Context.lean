import QueryTemplate.Template.Marker
import QueryTemplate.Text.Blank
import QueryTemplate.Text.Keyword

/-! # The surroundings of a marker

The literal text in front of a marker can end in a keyword that decides how the value is bound,
and the text behind a pattern can declare an escape character.

* `contextAfter`: the keyword that a literal text ends in. It is read backwards from the marker.
* `escapeClause?`: the escape character declared at the start of a text.
-/

namespace QueryTemplate

/-- Whether a text read backwards starts with the keyword, as a word of its own. -/
def endsInKeyword (keyword reversed : Text) : Bool :=
  match dropFolded? foldAscii keyword.reverse reversed with
  | some before => startsWord before.head?
  | none => false

/-- The context of a marker behind a literal text, which is given backwards. Between the keyword
    and the marker only blanks may stand, and behind `in` also an opening parenthesis. -/
def contextAfter (reversed : Text) : Context :=
  match skipBlanks reversed with
  -- A pattern never stands between parentheses of its own.
  | '(' :: before =>
    if endsInKeyword "in".toList (skipBlanks before) then .inList else .plain
  | trimmed =>
    if endsInKeyword "like".toList trimmed then .like
    else if endsInKeyword "in".toList trimmed then .inList
    else .plain

/-- The character of an `escape '…'` clause that the text begins with, blanks aside. -/
def escapeClause? (text : Text) : Option Char :=
  match dropFolded? foldAscii "escape".toList (skipBlanks text) with
  | none => none
  | some rest =>
    if endsWord rest then
      match skipBlanks rest with
      | '\'' :: escape :: '\'' :: _ => some escape
      | _ => none
    else none

end QueryTemplate
