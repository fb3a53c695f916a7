import QueryTemplate.Proofs.Template.Spelling

/-! # Escape clauses and the text behind them

An escape clause behind a pattern lies in the literal text up to the next marker. It is found or not
found whatever marker comes next. Of another text that comes next, a quoted text right behind the
keyword is read too.

* `closedQuote?`: the one character of a quoted text.
* `Unmarked.eq_nil_of_quote`: a quote that closes nothing reaches to the end of the template.
* `IsEscapeKeyword`: the literal text that makes a quoted text behind it an escape character.
* `Unmarked.escapeClause?_exchange`, `Unmarked.escapeClause?_eq`: the clause is the same in front of
  another text.
-/

namespace QueryTemplate

/-! ## The parts of a clause -/

def closedQuote? : Text → Option Char
  | '\'' :: c :: '\'' :: _ => some c
  | _ => none

theorem escapeClause?_eq (text : Text) :
    escapeClause? text =
      match dropFolded? foldAscii "escape".toList (skipBlanks text) with
      | none => none
      | some rest => if endsWord rest then closedQuote? (skipBlanks rest) else none := rfl

/-- With two texts behind that both start with a quote or both do not, the same character is found,
unless the literal text has nothing of the quoted one or only its opening quote. -/
theorem closedQuote?_exchange {literal rest after : Text}
    (quote : after.head? = some '\'' ↔ rest.head? = some '\'')
    (start : literal = [] → rest.head? ≠ some '\'') (longer : literal ≠ ['\'']) :
    closedQuote? (literal ++ after) = closedQuote? (literal ++ rest) := by
  have nothing {text : Text} (unquoted : text.head? ≠ some '\'') : closedQuote? text = none := by
    cases text with
    | nil => rfl
    | cons c text =>
      have other : c ≠ '\'' := by simpa using unquoted
      simp [closedQuote?, other]
  match literal with
  | [] =>
    have unquoted := start rfl
    rw [List.nil_append, List.nil_append, nothing unquoted, nothing (mt quote.1 unquoted)]
  | [c] =>
    have other : c ≠ '\'' := by simpa using longer
    simp [closedQuote?, other]
  | [c, d] =>
    -- Only the closing quote can be the first character of what follows.
    have closed (text : Text) : closedQuote? ([c, d] ++ text) =
        if c = '\'' ∧ text.head? = some '\'' then some d else none := by
      by_cases first : c = '\''
      · cases text with
        | nil => simp [closedQuote?]
        | cons e text => by_cases last : e = '\'' <;> simp [closedQuote?, first, last]
      · simp [closedQuote?, first]
    rw [closed, closed]
    simp only [quote]
  | c :: d :: e :: literal =>
    by_cases first : c = '\''
    · by_cases last : e = '\''
      · rw [first, last]
        rfl
      · simp [closedQuote?, last]
    · simp [closedQuote?, first]

theorem all_isBlank_of_skipBlanks_eq_nil {text : Text} (blank : skipBlanks text = []) :
    ∀ c ∈ text, isBlank c = true := by
  have whole : blanks text = text := by
    simpa [blank] using blanks_append_skipBlanks text
  rw [← whole]
  exact all_takeWhile

theorem isWordChar_of_letter {c : Char} (letter : foldAscii c ∈ "escape".toList) :
    isWordChar c = true := by
  have lower : "escape".toList.all Char.isLower = true := by decide
  exact isWordChar_of_foldAscii (List.all_eq_true.1 lower _ letter)

/-! ## Where a quote is opened -/

theorem throughQuote_ne_nil (quote c : Char) (rest : Text) :
    (throughQuote quote (c :: rest)).1 ≠ [] := by
  cases rest with
  | nil => simp [throughQuote]
  | cons d rest =>
    rw [throughQuote]
    split
    · simp
    · split <;> simp

theorem Unmarked.eq_nil_of_quote {skipComments : Bool} {before : Option Char}
    {clear rest : Text} (unmarked : Unmarked skipComments before (clear ++ ['\'']) rest)
    (opensNone : ∀ c ∈ clear, opensRegion c = false) :
    rest = [] := by
  induction clear generalizing before with
  | nil =>
    rw [List.nil_append] at unmarked
    generalize whole : ['\''] = literal at unmarked
    cases unmarked with
    | nil => cases whole
    | @region _ region literal _ found behind =>
      -- The region is the quote alone, so there is nothing that it could have taken.
      have nonempty := splitOpaque?_ne_nil found
      obtain ⟨rfl, rfl⟩ : region = ['\''] ∧ literal = [] := by
        cases region with
        | nil => exact absurd rfl nonempty
        | cons c region =>
          obtain ⟨rfl, empty⟩ := List.cons.inj whole
          simpa using empty.symm
      have closed : (throughQuote '\'' rest).1 = [] := by
        have split : splitOpaque? skipComments ('\'' :: rest) = some (['\''], rest) := found
        rw [splitOpaque?, if_pos (.inl rfl)] at split
        simp only [Option.some.injEq, Prod.mk.injEq, List.cons.injEq, true_and] at split
        exact split.1
      cases rest with
      | nil => rfl
      | cons c rest => exact absurd closed (throughQuote_ne_nil '\'' c rest)
    | clear clear =>
      obtain ⟨rfl, -⟩ := List.cons.inj whole
      exact absurd rfl (splitOpaque?_eq_none_iff.1 clear).1
  | cons c clear inductionHypothesis =>
    rw [List.cons_append] at unmarked
    generalize whole : c :: (clear ++ ['\'']) = literal at unmarked
    cases unmarked with
    | nil => cases whole
    | @region _ region literal _ found behind =>
      cases region with
      | nil => exact absurd rfl (splitOpaque?_ne_nil found)
      | cons d region =>
        obtain ⟨rfl, -⟩ := List.cons.inj whole
        rw [List.cons_append,
          splitOpaque?_eq_none_of_opensNone (opensNone c List.mem_cons_self)] at found
        cases found
    | clear _ _ behind =>
      obtain ⟨rfl, rfl⟩ := List.cons.inj whole
      exact inductionHypothesis behind fun d member => opensNone d (List.mem_cons_of_mem _ member)

/-! ## The whole clause -/

theorem Unmarked.eq_nil_of_clause {skipComments : Bool} {before : Option Char}
    {literal after rest : Text} (unmarked : Unmarked skipComments before literal rest)
    (keyword : dropFolded? foldAscii "escape".toList (skipBlanks literal) = some after)
    (quote : skipBlanks after = ['\'']) : rest = [] := by
  obtain ⟨spelling, folded, split⟩ := dropFolded?_eq_some_iff.1 keyword
  have whole : literal = (blanks literal ++ (spelling ++ blanks after)) ++ ['\''] := by
    calc literal
        = blanks literal ++ skipBlanks literal := (blanks_append_skipBlanks literal).symm
      _ = blanks literal ++ (spelling ++ (blanks after ++ skipBlanks after)) := by
          rw [split, blanks_append_skipBlanks]
      _ = (blanks literal ++ (spelling ++ blanks after)) ++ ['\''] := by
          rw [quote]
          simp
  rw [whole] at unmarked
  apply unmarked.eq_nil_of_quote
  intro c member
  obtain blank | member := List.mem_append.1 member
  · exact opensRegion_of_isBlank (all_takeWhile c blank)
  · obtain letter | blank := List.mem_append.1 member
    · have letter : foldAscii c ∈ "escape".toList := folded ▸ List.mem_map_of_mem letter
      exact opensRegion_of_isWordChar (isWordChar_of_letter letter)
    · exact opensRegion_of_isBlank (all_takeWhile c blank)

/-- The text is the keyword `escape`, with blanks around it at most. A quoted text behind it is the
operand of a clause. -/
def IsEscapeKeyword (text : Text) : Prop :=
  ∃ first spelling last, text = first ++ (spelling ++ last) ∧
    (∀ c ∈ first, isBlank c = true) ∧ spelling.map foldAscii = "escape".toList ∧
    ∀ c ∈ last, isBlank c = true

theorem Unmarked.escapeClause?_exchange {skipComments : Bool} {before : Option Char}
    {literal rest after : Text} (unmarked : Unmarked skipComments before literal rest)
    (breaks : BreakHead rest) (breaksAfter : BreakHead after) (empty : rest = [] → after = [])
    (quote : after.head? = some '\'' ↔ rest.head? = some '\'')
    (noOperand : rest.head? = some '\'' → ¬IsEscapeKeyword literal) :
    escapeClause? (literal ++ after) = escapeClause? (literal ++ rest) := by
  have noLetter {text : Text} (breaks : BreakHead text) :
      ∀ c ∈ text.head?, foldAscii c ∉ "escape".toList := by
    intro c member
    exact foldAscii_not_mem (by decide) (isWordChar_eq_false_of_isBreak (breaks c member))
  rw [escapeClause?_eq, escapeClause?_eq, skipBlanks_append breaks, skipBlanks_append breaksAfter,
    dropFolded?_append (noLetter breaks), dropFolded?_append (noLetter breaksAfter)]
  cases keyword : dropFolded? foldAscii "escape".toList (skipBlanks literal) with
  | none => rfl
  | some left =>
    simp only [Option.map_some, endsWord_append breaks, endsWord_append breaksAfter,
      skipBlanks_append breaks, skipBlanks_append breaksAfter]
    have start (blank : skipBlanks left = []) : rest.head? ≠ some '\'' := by
      intro quoted
      obtain ⟨spelling, folded, split⟩ := dropFolded?_eq_some_iff.1 keyword
      refine noOperand quoted ⟨blanks literal, spelling, left, ?_, all_takeWhile, folded,
        all_isBlank_of_skipBlanks_eq_nil blank⟩
      rw [← split, blanks_append_skipBlanks]
    by_cases opening : skipBlanks left = ['\'']
    · obtain rfl : rest = [] := unmarked.eq_nil_of_clause keyword opening
      rw [empty rfl]
    · rw [closedQuote?_exchange quote start opening]

/-- In front of a marker, or of the end of the template, the clause is decided. -/
theorem Unmarked.escapeClause?_eq {skipComments : Bool} {before : Option Char}
    {literal rest other : Text} (unmarked : Unmarked skipComments before literal rest)
    (restMarked : MarkHead rest) (otherMarked : MarkHead other) (empty : rest = [] → other = []) :
    escapeClause? (literal ++ other) = escapeClause? (literal ++ rest) := by
  have unquoted : rest.head? ≠ some '\'' := restMarked.head?_ne rfl
  have unquotedOther : other.head? ≠ some '\'' := otherMarked.head?_ne rfl
  exact unmarked.escapeClause?_exchange restMarked.breakHead otherMarked.breakHead empty
    (iff_of_false unquotedOther unquoted) fun quoted => absurd quoted unquoted

end QueryTemplate
