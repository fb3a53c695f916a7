import QueryTemplate.Proofs.Template.Region
import QueryTemplate.Template.Context

/-! # Breaks

A *break* is a character at which every word, every keyword and every run of blanks ends, and which
does not go on with the opening of an expression. In front of a break a text is read as if nothing
followed.

* `isBreak`, `BreakHead`: the characters, and the texts that are empty or start with one.
* `MarkHead.breakHead`: a text that could start with a marker is one of them.
* `isWordChar_of_foldAscii`: the letters of keywords are word characters in any case.
* `skipBlanks_append`, `dropFolded?_append`, `endsWord_append`: the parts of a clause in front of
  such a text.
* `contextAfter_append`: read backwards, no keyword reaches over a break.
-/

namespace QueryTemplate

def isBreak (c : Char) : Bool :=
  !isWordChar c && !isBlank c && c != '#' && c != '{' && c != '('

/-- The text is empty or starts with a break. -/
def BreakHead (text : Text) : Prop := ∀ c ∈ text.head?, isBreak c = true

theorem isBreak_of_isMark {c : Char} (mark : isMark c = true) : isBreak c = true := by
  simp only [isMark, Bool.or_eq_true, beq_iff_eq] at mark
  obtain (rfl | rfl) | rfl := mark <;> decide

theorem MarkHead.breakHead {text : Text} (marked : MarkHead text) : BreakHead text :=
  fun c member => isBreak_of_isMark (marked c member)

theorem isBreak_of_opensRegion {c : Char} (opens : opensRegion c = true) : isBreak c = true := by
  simp only [opensRegion, Bool.or_eq_true, beq_iff_eq] at opens
  obtain ((rfl | rfl) | rfl) | rfl := opens <;> decide

theorem isWordChar_eq_false_of_isBreak {c : Char} (break_ : isBreak c = true) :
    isWordChar c = false := by
  simp only [isBreak, Bool.and_eq_true, Bool.not_eq_true'] at break_
  exact break_.1.1.1.1

theorem isBlank_eq_false_of_isBreak {c : Char} (break_ : isBreak c = true) :
    isBlank c = false := by
  simp only [isBreak, Bool.and_eq_true, Bool.not_eq_true'] at break_
  exact break_.1.1.1.2

theorem opensRegion_of_isWordChar {c : Char} (word : isWordChar c = true) :
    opensRegion c = false := by
  refine Bool.eq_false_iff.2 fun opens => ?_
  rw [isWordChar_eq_false_of_isBreak (isBreak_of_opensRegion opens)] at word
  cases word

theorem opensRegion_of_isBlank {c : Char} (blank : isBlank c = true) : opensRegion c = false := by
  refine Bool.eq_false_iff.2 fun opens => ?_
  rw [isBlank_eq_false_of_isBreak (isBreak_of_opensRegion opens)] at blank
  cases blank

theorem BreakHead.head?_ne {text : Text} (breaks : BreakHead text) {c : Char}
    (other : isBreak c = false) : text.head? ≠ some c := by
  intro same
  have break_ := breaks c same
  rw [other] at break_
  cases break_

theorem BreakHead.any_head? {text : Text} (breaks : BreakHead text) {p : Char → Bool}
    (outside : ∀ c, isBreak c = true → p c = false) : text.head?.any p = false := by
  cases text with
  | nil => rfl
  | cons c text => exact outside c (breaks c rfl)

/-! ## Letters -/

theorem toNat_lt_of_isUpper {c : Char} (upper : c.isUpper = true) : c.toNat < 0x80 := by
  have bound : c.toNat ≤ 'Z'.toNat := UInt32.le_iff_toNat_le.1 (of_decide_eq_true upper).2
  exact Nat.lt_of_le_of_lt bound (by decide)

theorem toNat_lt_of_isLower {c : Char} (lower : c.isLower = true) : c.toNat < 0x80 := by
  have bound : c.toNat ≤ 'z'.toNat :=
    UInt32.le_iff_toNat_le.1 (of_decide_eq_true (Bool.and_eq_true_iff.1 lower).2)
  exact Nat.lt_of_le_of_lt bound (by decide)

theorem toNat_lt_of_isDigit {c : Char} (digit : c.isDigit = true) : c.toNat < 0x80 := by
  have bound : c.toNat ≤ '9'.toNat :=
    UInt32.le_iff_toNat_le.1 (of_decide_eq_true (Bool.and_eq_true_iff.1 digit).2)
  exact Nat.lt_of_le_of_lt bound (by decide)

theorem toNat_lt_of_isAlpha {c : Char} (alpha : c.isAlpha = true) : c.toNat < 0x80 := by
  obtain upper | lower := Bool.or_eq_true_iff.1 alpha
  · exact toNat_lt_of_isUpper upper
  · exact toNat_lt_of_isLower lower

theorem isWordChar_of_isAlphanum {c : Char} (letter : c.isAlphanum = true) :
    isWordChar c = true := by
  have ascii : c.toNat < 0x80 := by
    obtain alpha | digit := Bool.or_eq_true_iff.1 letter
    · exact toNat_lt_of_isAlpha alpha
    · exact toNat_lt_of_isDigit digit
  simp [isWordChar, ascii, letter]

theorem isWordChar_of_isDigit {c : Char} (digit : c.isDigit = true) : isWordChar c = true :=
  isWordChar_of_isAlphanum (Bool.or_eq_true_iff.2 (.inr digit))

theorem isWordChar_of_isAlpha {c : Char} (alpha : c.isAlpha = true) : isWordChar c = true :=
  isWordChar_of_isAlphanum (Bool.or_eq_true_iff.2 (.inl alpha))

theorem isAlpha_of_foldAscii {c : Char} (lower : (foldAscii c).isLower = true) :
    c.isAlpha = true := by
  by_cases upper : c.isUpper = true
  · exact Bool.or_eq_true_iff.2 (.inl upper)
  · have itself : foldAscii c = c := by
      unfold foldAscii Char.toLower
      rw [dif_neg]
      intro between
      exact upper (decide_eq_true between)
    rw [itself] at lower
    exact Bool.or_eq_true_iff.2 (.inr lower)

theorem isWordChar_of_foldAscii {c : Char} (lower : (foldAscii c).isLower = true) :
    isWordChar c = true := isWordChar_of_isAlpha (isAlpha_of_foldAscii lower)

/-! ## Clauses in front of a break -/

theorem dropFolded?_append {fold : Char → Char} {word rest : Text}
    (outside : ∀ c ∈ rest.head?, fold c ∉ word) (literal : Text) :
    dropFolded? fold word (literal ++ rest) = (dropFolded? fold word literal).map (· ++ rest) := by
  induction word generalizing literal with
  | nil => rfl
  | cons w word inductionHypothesis =>
    cases literal with
    | nil =>
      cases rest with
      | nil => rfl
      | cons c rest =>
        have other : fold c ≠ w := by
          intro same
          exact outside c rfl (same ▸ List.mem_cons_self)
        simp [dropFolded?, other]
    | cons c literal =>
      have later := inductionHypothesis
        (fun d member letter => outside d member (List.mem_cons_of_mem w letter)) literal
      simp only [List.cons_append, dropFolded?]
      split
      · exact later
      · rfl

/-- A keyword is written in lower case letters. -/
theorem foldAscii_not_mem {word : Text} (letters : word.all Char.isLower = true) {c : Char}
    (outside : isWordChar c = false) : foldAscii c ∉ word := by
  intro letter
  have inside := isWordChar_of_foldAscii (List.all_eq_true.1 letters _ letter)
  rw [outside] at inside
  cases inside

theorem skipBlanks_append_of_ne_nil {literal : Text} (visible : skipBlanks literal ≠ [])
    (rest : Text) : skipBlanks (literal ++ rest) = skipBlanks literal ++ rest := by
  unfold skipBlanks at visible ⊢
  rw [List.dropWhile_append, if_neg (by simpa using visible)]

theorem skipBlanks_append_of_eq_nil {literal : Text} (blank : skipBlanks literal = [])
    (rest : Text) : skipBlanks (literal ++ rest) = skipBlanks rest := by
  unfold skipBlanks at blank ⊢
  rw [List.dropWhile_append, if_pos (by simpa using blank)]

section Break

variable {rest : Text} (breaks : BreakHead rest)

include breaks

theorem skipBlanks_append (literal : Text) :
    skipBlanks (literal ++ rest) = skipBlanks literal ++ rest := by
  by_cases blank : skipBlanks literal = []
  · rw [skipBlanks_append_of_eq_nil blank, blank, List.nil_append]
    cases rest with
    | nil => rfl
    | cons c rest =>
      have visible : isBlank c = false := isBlank_eq_false_of_isBreak (breaks c rfl)
      simp [skipBlanks, visible]
  · exact skipBlanks_append_of_ne_nil blank rest

theorem endsWord_append (literal : Text) : endsWord (literal ++ rest) = endsWord literal := by
  cases literal with
  | nil => simp [endsWord, breaks.any_head? fun _ => isWordChar_eq_false_of_isBreak]
  | cons c literal => rfl

end Break

/-! ## Keywords in front of a marker -/

theorem contextAfter_of_parenthesis {reversed before : Text}
    (opens : skipBlanks reversed = '(' :: before) :
    contextAfter reversed =
      if endsInKeyword "in".toList (skipBlanks before) then .inList else .plain := by
  simp only [contextAfter, opens]

/-- The context where no parenthesis stands between the keyword and the marker. -/
def bareContext (trimmed : Text) : Context :=
  if endsInKeyword "like".toList trimmed then .like
  else if endsInKeyword "in".toList trimmed then .inList
  else .plain

theorem contextAfter_of_head?_ne {reversed : Text}
    (bare : (skipBlanks reversed).head? ≠ some '(') :
    contextAfter reversed = bareContext (skipBlanks reversed) := by
  unfold contextAfter
  split
  next before same => exact absurd (by rw [same]; rfl) bare
  next => rfl

section Letters

variable {rest : Text} (outside : rest.head?.any isWordChar = false)

include outside

theorem endsInKeyword_append {keyword : Text} (letters : keyword.all Char.isLower = true)
    (reversed : Text) :
    endsInKeyword keyword (reversed ++ rest) = endsInKeyword keyword reversed := by
  have noLetter : ∀ c ∈ rest.head?, foldAscii c ∉ keyword.reverse := by
    intro c member
    apply foldAscii_not_mem (by simpa using letters)
    rw [Option.mem_def] at member
    simpa [member] using outside
  unfold endsInKeyword
  rw [dropFolded?_append noLetter]
  cases dropFolded? foldAscii keyword.reverse reversed with
  | none => rfl
  | some before =>
    cases before with
    | nil => simp [startsWord, outside]
    | cons c before => rfl

theorem endsIn_in_append (reversed : Text) :
    endsInKeyword "in".toList (reversed ++ rest) = endsInKeyword "in".toList reversed :=
  endsInKeyword_append outside (by decide) reversed

theorem bareContext_append (reversed : Text) :
    bareContext (reversed ++ rest) = bareContext reversed := by
  unfold bareContext
  rw [endsIn_in_append outside, endsInKeyword_append outside (by decide)]

end Letters

theorem contextAfter_append {rest : Text} (breaks : BreakHead rest) (literal : Text) :
    contextAfter (literal ++ rest) = contextAfter literal := by
  have outside : rest.head?.any isWordChar = false :=
    breaks.any_head? fun _ => isWordChar_eq_false_of_isBreak
  have split := skipBlanks_append breaks literal
  by_cases opens : (skipBlanks literal).head? = some '('
  · obtain ⟨before, trimmed⟩ := List.head?_eq_some_iff.1 opens
    rw [trimmed, List.cons_append] at split
    rw [contextAfter_of_parenthesis trimmed, contextAfter_of_parenthesis split,
      skipBlanks_append breaks, endsIn_in_append outside]
  · have bare : (skipBlanks (literal ++ rest)).head? ≠ some '(' := by
      rw [split, List.head?_append]
      cases first : (skipBlanks literal).head? with
      | none => simpa using breaks.head?_ne (c := '(') (by decide)
      | some c => simpa [first] using opens
    rw [contextAfter_of_head?_ne opens, contextAfter_of_head?_ne bare, split,
      bareContext_append outside]

end QueryTemplate
