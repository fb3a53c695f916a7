import QueryTemplate.Proofs.Shape.Outline
import QueryTemplate.Proofs.Template.Spelling

/-! # Places and phrases of masked text

A search goes through a text from place to place and reads a phrase at each of them: a keyword,
blanks, a path, one behind the other.

* `exists_split_cons_iff`: a place in a text is its start or a place behind its first character.
* `IsRun`: characters of one class; `dropBlanks?_eq_some_iff` and `dropPath?_eq_some_iff` say what is
  dropped.
* `isRun_of_spelling`, `exists_between_of_startsWord`: a keyword is a run of word characters, so no
  word starts inside.
-/

namespace QueryTemplate

/-! ## Places -/

/-- The character before a place behind the first character. -/
theorem getLast?_cons_or (before : Option Char) (c : Char) (front : Text) :
    (c :: front).getLast?.or before = front.getLast?.or (some c) := by
  rw [List.getLast?_cons]
  cases front.getLast? <;> rfl

/-- What is asked of a place can depend on the character before it. -/
theorem exists_split_cons_iff (place : Option Char → Text → Prop) {before : Option Char} {c : Char}
    {text : Text} :
    (∃ front rest, c :: text = front ++ rest ∧ place (front.getLast?.or before) rest) ↔
      place before (c :: text) ∨
        ∃ front rest, text = front ++ rest ∧ place (front.getLast?.or (some c)) rest := by
  constructor
  · rintro ⟨front, rest, split, holds⟩
    cases front with
    | nil =>
      obtain rfl : c :: text = rest := split
      exact .inl holds
    | cons d front =>
      obtain ⟨rfl, behind⟩ := List.cons.inj split
      exact .inr ⟨front, rest, behind, getLast?_cons_or before c front ▸ holds⟩
  · rintro (holds | ⟨front, rest, rfl, holds⟩)
    · exact ⟨[], _, rfl, holds⟩
    · exact ⟨c :: front, rest, rfl, (getLast?_cons_or before c front).symm ▸ holds⟩

/-! ## Phrases -/

/-- The text has characters of the class only, and one of them at least. -/
def IsRun (p : Char → Bool) (text : Text) : Prop := text ≠ [] ∧ ∀ c ∈ text, p c = true

section Run

variable {p q : Char → Bool} {run text rest : Text}

theorem IsRun.begins (isRun : IsRun p run) (rest : Text) : (run ++ rest).head?.any p = true :=
  any_head?_append_of_inside isRun.1 isRun.2 rest

/-- A run of one class ends where a run of another one begins. -/
theorem any_head?_of_apart (apart : ∀ c, p c = true → q c = false)
    (begins : text.head?.any p = true) : text.head?.any q = false := by
  cases first : text.head? with
  | none => rfl
  | some c =>
    rw [first] at begins
    exact apart c begins

theorem isRun_takeWhile (begins : text.head?.any p = true) : IsRun p (text.takeWhile p) := by
  refine ⟨?_, all_takeWhile⟩
  rw [ne_eq, takeWhile_eq_nil_iff, begins]
  decide

theorem dropRun_eq_some_iff :
    (if text.head?.any p then some (text.dropWhile p) else none) = some rest ↔
      ∃ run, IsRun p run ∧ text = run ++ rest ∧ rest.head?.any p = false := by
  constructor
  · intro dropped
    split at dropped
    next begins =>
      obtain rfl := Option.some.inj dropped
      exact ⟨text.takeWhile p, isRun_takeWhile begins, List.takeWhile_append_dropWhile.symm,
        any_head?_dropWhile p text⟩
    next => cases dropped
  · rintro ⟨run, isRun, rfl, stops⟩
    rw [if_pos (isRun.begins rest), dropWhile_append_of_stop isRun.2 stops]

theorem dropBlanks?_eq_some_iff :
    dropBlanks? text = some rest ↔
      ∃ gap, IsRun isBlank gap ∧ text = gap ++ rest ∧ rest.head?.any isBlank = false :=
  dropRun_eq_some_iff

theorem dropPath?_eq_some_iff :
    dropPath? text = some rest ↔
      ∃ path, IsRun isPathChar path ∧ text = path ++ rest ∧ rest.head?.any isPathChar = false :=
  dropRun_eq_some_iff

theorem IsRun.dropBlanks?_append (isRun : IsRun isBlank run)
    (stops : rest.head?.any isBlank = false) : dropBlanks? (run ++ rest) = some rest :=
  dropBlanks?_eq_some_iff.2 ⟨run, isRun, rfl, stops⟩

theorem IsRun.dropPath?_append (isRun : IsRun isPathChar run)
    (stops : rest.head?.any isPathChar = false) : dropPath? (run ++ rest) = some rest :=
  dropPath?_eq_some_iff.2 ⟨run, isRun, rfl, stops⟩

end Run

theorem isPathChar_of_isBlank {c : Char} (blank : isBlank c = true) : isPathChar c = false := by
  have noDot : c ≠ '.' := by
    rintro rfl
    cases blank
  simp [isPathChar, isWordChar_of_isBlank blank, noDot]

theorem isBlank_of_isPathChar {c : Char} (inPath : isPathChar c = true) : isBlank c = false := by
  refine Bool.eq_false_iff.2 fun blank => ?_
  rw [isPathChar_of_isBlank blank] at inPath
  cases inPath

section Word

variable {keyword spelling : Text}

theorem dropFolded?_spelling {fold : Char → Char} (folded : spelling.map fold = keyword)
    (rest : Text) : dropFolded? fold keyword (spelling ++ rest) = some rest :=
  dropFolded?_eq_some_iff.2 ⟨spelling, folded, rfl⟩

/-- Every spelling of a keyword is a run of word characters. -/
theorem isRun_of_spelling (folded : spelling.map foldWide = keyword) (nonempty : keyword ≠ [])
    (letters : keyword.all Char.isLower = true) : IsRun isWordChar spelling := by
  refine ⟨?_, fun c member => ?_⟩
  · rintro rfl
    exact nonempty folded.symm
  · apply isWordChar_of_foldWide
    exact List.all_eq_true.1 letters _ (folded ▸ List.mem_map_of_mem member)

/-- Where a word can start behind the beginning of a word, the word is over. -/
theorem exists_between_of_startsWord {word rest front text : Text}
    (isWord : IsRun isWordChar word) (whole : word ++ rest = front ++ text)
    (nonempty : front ≠ []) (starts : startsWord front.getLast? = true) :
    ∃ between, front = word ++ between ∧ rest = between ++ text := by
  obtain longer | ⟨left, rfl, -⟩ := List.append_eq_append_iff.1 whole
  · exact longer
  · have last := List.getLast?_eq_some_getLast nonempty
    have word := isWord.2 _ (List.mem_append_left left (List.mem_of_getLast? last))
    rw [last, startsWord, Option.any_some, word] at starts
    cases starts

end Word

end QueryTemplate
