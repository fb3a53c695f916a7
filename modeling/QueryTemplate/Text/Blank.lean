import QueryTemplate.Text.WordChar

/-! # Blanks

A *blank* separates words: the characters with the White_Space property, line ends included.

* `isBlank`: the class.
* `blanks`, `skipBlanks`: the blanks that a text begins with, and what follows them.
* `isWordChar_of_isBlank`, `isBlank_of_isWordChar`: no blank is a word character, so a word ends
  where blanks begin.
-/

namespace QueryTemplate

def blankPoints : List Nat := [
  0x09, 0x0A, 0x0B, 0x0C, 0x0D, 0x20, 0x85, 0xA0, 0x1680, 0x2000, 0x2001, 0x2002, 0x2003, 0x2004,
  0x2005, 0x2006, 0x2007, 0x2008, 0x2009, 0x200A, 0x2028, 0x2029, 0x202F, 0x205F, 0x3000
]

def isBlank (c : Char) : Bool := blankPoints.contains c.toNat

def blanks (text : Text) : Text := text.takeWhile isBlank

def skipBlanks (text : Text) : Text := text.dropWhile isBlank

theorem blanks_append_skipBlanks (text : Text) : blanks text ++ skipBlanks text = text :=
  List.takeWhile_append_dropWhile

/-- Blanks and word characters are two separate classes. -/
theorem isWordChar_of_isBlank {c : Char} (h : isBlank c = true) : isWordChar c = false := by
  have separate : ∀ n ∈ blankPoints, isWordChar (Char.ofNat n) = false := by decide +kernel
  simpa using separate c.toNat (List.contains_iff_mem.1 h)

theorem isBlank_of_isWordChar {c : Char} (word : isWordChar c = true) : isBlank c = false := by
  refine Bool.eq_false_iff.2 fun blank => ?_
  rw [isWordChar_of_isBlank blank] at word
  cases word

end QueryTemplate
