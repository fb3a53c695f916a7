import QueryTemplate.Text.Extending

/-! # Quoted text

The quoted form shows a text on one line between double quotes, for logs. Characters that would
end the quotation or could not be seen are written as escapes.

* `quoted`: the quoted form of a text.
* `quotedOption`: the form of a text that may be absent.
-/

namespace QueryTemplate

/-- A character by number, in lower case hexadecimal digits between braces. -/
def numbered (c : Char) : Text := ['\\', 'u', '{'] ++ Nat.toDigits 16 c.toNat ++ ['}']

/-- The code points of the word characters that cannot be seen, apart from marks: the fillers of
    the Hangul script and the two zero width joiners. -/
def invisiblePoints : List Nat := [0x115F, 0x1160, 0x200C, 0x200D, 0x3164, 0xFFA0]

/-- Invisible characters take no ink of their own. -/
def isInvisible (c : Char) : Bool := invisiblePoints.contains c.toNat

/-- One character of a quoted text. -/
def quotedChar (c : Char) : Text :=
  if c = '"' ∨ c = '\\' then ['\\', c]
  else if isExtending c || isInvisible c then numbered c
  else [c]

/-- A text between double quotes. -/
def quoted (text : Text) : Text := '"' :: text.flatMap quotedChar ++ ['"']

/-- The word `None` for an absent text, and otherwise its quoted form inside `Some(…)`. -/
def quotedOption : Option Text → Text
  | none => "None".toList
  | some text => "Some(".toList ++ quoted text ++ [')']

end QueryTemplate
