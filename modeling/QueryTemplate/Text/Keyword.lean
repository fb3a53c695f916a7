import QueryTemplate.Text.WordChar

/-! # Keywords

Query keywords are read without regard to letter case. Two readings of case are in use: the ASCII
one, and the wider one in which a few letters beyond ASCII stand for an ASCII letter too.

* `foldAscii`, `foldWide`: the lower case form of a character under each reading.
* `dropFolded?`: what follows a keyword at the start of a text.
* `sameFolded`: equality of two texts up to case.
* `startsWord`, `endsWord`: whether a word could begin, or end, between two characters.
-/

namespace QueryTemplate

/-- The lower case of an ASCII letter; any other character stands for itself. -/
def foldAscii (c : Char) : Char := c.toLower

/-- The ASCII lower case letter that a character stands for when case is ignored throughout
    Unicode: the long s stands for `s` and the Kelvin sign for `k`. -/
def foldWide (c : Char) : Char :=
  if c.toNat = 0x17F then 's' else if c.toNat = 0x212A then 'k' else c.toLower

/-- The text after `word`, when the text begins with it up to the case ignored by `fold`.
    The word itself is written in lower case. -/
def dropFolded? (fold : Char → Char) : Text → Text → Option Text
  | [], text => some text
  | _ :: _, [] => none
  | w :: word, c :: text => if fold c = w then dropFolded? fold word text else none

/-- Equality of two texts up to the case of ASCII letters. -/
def sameFolded (first second : Text) : Bool := first.map foldAscii == second.map foldAscii

/-- A word can start after the character `before` only if that is no word character. -/
def startsWord (before : Option Char) : Bool := !before.any isWordChar

/-- A word ends in front of `text` when no word character follows. -/
def endsWord (text : Text) : Bool := !text.head?.any isWordChar

/-- A keyword is dropped exactly when the text is some spelling of it followed by the rest. -/
theorem dropFolded?_eq_some_iff {fold : Char → Char} {word text rest : Text} :
    dropFolded? fold word text = some rest ↔
      ∃ spelling, spelling.map fold = word ∧ text = spelling ++ rest := by
  induction word generalizing text with
  | nil =>
    simp only [dropFolded?, Option.some.injEq, List.map_eq_nil_iff, exists_eq_left,
      List.nil_append]
  | cons w word ih =>
    cases text with
    | nil =>
      simp only [dropFolded?, reduceCtorEq, false_iff]
      rintro ⟨spelling, folded, split⟩
      cases spelling with
      | nil => simp at folded
      | cons d spelling => simp at split
    | cons c text =>
      simp only [dropFolded?]
      split
      · next same =>
        rw [ih]
        constructor
        · rintro ⟨spelling, rfl, rfl⟩
          exact ⟨c :: spelling, by simp [same], rfl⟩
        · rintro ⟨spelling, folded, split⟩
          cases spelling with
          | nil => simp at folded
          | cons d spelling =>
            simp only [List.map_cons, List.cons.injEq, List.cons_append] at folded split
            exact ⟨spelling, folded.2, split.2⟩
      · next differs =>
        simp only [reduceCtorEq, false_iff]
        rintro ⟨spelling, folded, split⟩
        cases spelling with
        | nil => simp at folded
        | cons d spelling =>
          simp only [List.map_cons, List.cons.injEq, List.cons_append] at folded split
          exact differs (split.1 ▸ folded.1)

end QueryTemplate
