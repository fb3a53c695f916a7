import QueryTemplate.Proofs.Opaque.Quotation
import QueryTemplate.Proofs.Template.Token

/-! # The operand of an escape clause

The operand of an escape clause is a quoted text. The look-ahead behind a pattern reads a quote, a
character and a quote, and takes that for the whole of it, which it is not where the quotation goes
on with a doubled quote or is never closed.

* `undoubled`: what a quoted text stands for; `undoubled_eq_singleton_iff`.
* `IsEscapeClause`: a clause with its operand, delimited as the scan delimits quoted text;
  `IsEscapeClause.operand_eq` says that there is one at most.
* `Declares`, `BreaksOff`: the character that a clause declares, and the operands of which only the
  beginning is read.
* `escape_of_scan`: when the escape character of a marker is the declared one.
-/

namespace QueryTemplate

/-! ## Doubled quotes -/

/-- What stands between quotes, with every doubled quote read as one. -/
def undoubled (quote : Char) : Text → Text
  | [] => []
  | [c] => [c]
  | c :: d :: rest =>
    if c = quote ∧ d = quote then quote :: undoubled quote rest
    else c :: undoubled quote (d :: rest)

/-- A character as it is written between quotes. -/
def inQuotes (quote c : Char) : Text := if c = quote then [quote, quote] else [c]

section Doubled

variable {quote : Char} {content : Text}

theorem undoubled_of_ne {c : Char} (other : c ≠ quote) (rest : Text) :
    undoubled quote (c :: rest) = c :: undoubled quote rest := by
  cases rest with
  | nil => rfl
  | cons d rest => rw [undoubled, if_neg fun pair => other pair.1]

theorem undoubled_pair (rest : Text) :
    undoubled quote (quote :: quote :: rest) = quote :: undoubled quote rest := by
  rw [undoubled, if_pos ⟨rfl, rfl⟩]

theorem Doubled.undoubled_eq_nil_iff (doubled : Doubled quote content) :
    undoubled quote content = [] ↔ content = [] := by
  cases doubled with
  | nil => exact Iff.rfl
  | other noQuote => simp [undoubled_of_ne noQuote]
  | pair => simp [undoubled_pair]

theorem doubled_inQuotes (quote c : Char) : Doubled quote (inQuotes quote c) := by
  rw [inQuotes]
  split
  · exact .pair .nil
  · next noQuote => exact .other noQuote .nil

theorem Doubled.undoubled_eq_singleton_iff (doubled : Doubled quote content) {c : Char} :
    undoubled quote content = [c] ↔ content = inQuotes quote c := by
  cases doubled with
  | nil =>
    rw [inQuotes]
    split <;> simp [undoubled]
  | @other d content noQuote behind =>
    rw [undoubled_of_ne noQuote, List.cons.injEq, behind.undoubled_eq_nil_iff, inQuotes]
    split
    · next same => simp [same, noQuote]
    · rw [List.cons.injEq]
  | @pair content behind =>
    rw [undoubled_pair, List.cons.injEq, behind.undoubled_eq_nil_iff, inQuotes]
    split
    · next same => simp [same]
    · next other => simp [Ne.symm other]

theorem quotation_inQuotes (quote c : Char) :
    quotation quote (inQuotes quote c) =
      quote :: c :: quote :: if c = quote then [quote] else [] := by
  rw [quotation, inQuotes]
  split
  · next same => rw [same]; rfl
  · rfl

end Doubled

/-! ## Clauses -/

/-- The text begins with an escape clause. The scan would end the quoted text behind the keyword
where the operand ends. -/
structure IsEscapeClause (text operand rest : Text) : Prop where
  -- Being followed by blanks or the quote, the keyword is followed by no word character.
  keyword : ∃ keyword, IsEscapeKeyword keyword ∧ text = keyword ++ (operand ++ rest)
  quoted : ∃ body, operand = '\'' :: body ∧ throughQuote '\'' (body ++ rest) = (body, rest)

/-- The text begins with an escape clause whose operand is closed and stands for the one
character. -/
def Declares (text : Text) (c : Char) : Prop :=
  ∃ content rest, IsEscapeClause text (quotation '\'' content) rest ∧ Doubled '\'' content ∧
    undoubled '\'' content = [c]

/-- The operand begins like the quotation of one character and is not that quotation: it goes on, as
`'a''b'` does, or the quotation is never closed. -/
def BreaksOff (text : Text) : Prop :=
  ∃ operand rest c more, IsEscapeClause text operand rest ∧ operand = '\'' :: c :: '\'' :: more ∧
    operand ≠ quotation '\'' (inQuotes '\'' c)

section Keyword

variable {keyword keyword' quoted quoted' : Text}

theorem IsEscapeKeyword.exists_dropped (isKeyword : IsEscapeKeyword keyword)
    (opens : quoted.head? = some '\'') :
    ∃ left, dropFolded? foldAscii "escape".toList (skipBlanks (keyword ++ quoted)) = some left ∧
      endsWord left = true ∧ skipBlanks left = quoted := by
  obtain ⟨first, spelling, last, rfl, blankFirst, folded, blankLast⟩ := isKeyword
  have noBlank : quoted.head?.any isBlank = false := by
    rw [opens]
    decide
  have word : (spelling ++ (last ++ quoted)).head?.any isBlank = false := by
    cases spelling with
    | nil => cases folded
    | cons c spelling =>
      have letter : foldAscii c ∈ "escape".toList := folded ▸ List.mem_cons_self
      exact isBlank_of_isWordChar (isWordChar_of_letter letter)
  refine ⟨last ++ quoted, ?_, ?_, dropWhile_append_of_stop blankLast noBlank⟩
  · have behind : skipBlanks (first ++ (spelling ++ last) ++ quoted) =
        spelling ++ (last ++ quoted) := by
      rw [List.append_assoc, List.append_assoc]
      exact dropWhile_append_of_stop blankFirst word
    exact dropFolded?_eq_some_iff.2 ⟨spelling, folded, behind⟩
  · cases last with
    | nil =>
      rw [endsWord, List.nil_append, opens]
      decide
    | cons c last =>
      simp [endsWord, isWordChar_of_isBlank (blankLast c List.mem_cons_self)]

theorem IsEscapeKeyword.escapeClause?_eq (isKeyword : IsEscapeKeyword keyword)
    (opens : quoted.head? = some '\'') :
    escapeClause? (keyword ++ quoted) = closedQuote? quoted := by
  obtain ⟨left, dropped, ends, rfl⟩ := isKeyword.exists_dropped opens
  rw [QueryTemplate.escapeClause?_eq, dropped]
  exact if_pos ends

theorem IsEscapeKeyword.append_cancel (isKeyword : IsEscapeKeyword keyword)
    (isKeyword' : IsEscapeKeyword keyword') (opens : quoted.head? = some '\'')
    (opens' : quoted'.head? = some '\'') (same : keyword ++ quoted = keyword' ++ quoted') :
    quoted = quoted' := by
  obtain ⟨left, dropped, -, rfl⟩ := isKeyword.exists_dropped opens
  obtain ⟨left', dropped', -, rfl⟩ := isKeyword'.exists_dropped opens'
  rw [same, dropped'] at dropped
  rw [Option.some.inj dropped]

end Keyword

theorem closedQuote?_eq_some_iff {text : Text} {c : Char} :
    closedQuote? text = some c ↔ ∃ rest, text = '\'' :: c :: '\'' :: rest := by
  constructor
  · intro closed
    unfold closedQuote? at closed
    split at closed
    next d rest =>
      obtain rfl := Option.some.inj closed
      exact ⟨rest, rfl⟩
    next => cases closed
  · rintro ⟨rest, rfl⟩
    rfl

theorem exists_keyword_of_escapeClause? {text : Text} {c : Char}
    (declared : escapeClause? text = some c) :
    ∃ keyword rest, IsEscapeKeyword keyword ∧ text = keyword ++ '\'' :: c :: '\'' :: rest := by
  rw [escapeClause?_eq] at declared
  split at declared
  next => cases declared
  next left dropped =>
    split at declared
    next =>
      obtain ⟨spelling, folded, split⟩ := dropFolded?_eq_some_iff.1 dropped
      obtain ⟨rest, quoted⟩ := closedQuote?_eq_some_iff.1 declared
      refine ⟨blanks text ++ (spelling ++ blanks left), rest,
        ⟨_, spelling, _, rfl, all_takeWhile, folded, all_takeWhile⟩, ?_⟩
      rw [List.append_assoc, List.append_assoc, ← quoted, blanks_append_skipBlanks, ← split,
        blanks_append_skipBlanks]
    next => cases declared

section Clause

variable {text operand operand' rest rest' : Text}

theorem IsEscapeClause.escapeClause?_eq (clause : IsEscapeClause text operand rest) :
    escapeClause? text = closedQuote? (operand ++ rest) := by
  obtain ⟨⟨keyword, isKeyword, rfl⟩, body, rfl, -⟩ := clause
  exact isKeyword.escapeClause?_eq rfl

theorem IsEscapeClause.operand_eq (clause : IsEscapeClause text operand rest)
    (clause' : IsEscapeClause text operand' rest') : operand = operand' := by
  obtain ⟨⟨keyword, isKeyword, rfl⟩, body, rfl, delimited⟩ := clause
  obtain ⟨⟨keyword', isKeyword', same⟩, body', rfl, delimited'⟩ := clause'
  have behind := (List.cons.inj (isKeyword.append_cancel isKeyword' rfl rfl same)).2
  simp only [List.append_eq] at behind
  rw [behind, delimited'] at delimited
  rw [(Prod.mk.inj delimited).1]

/-- A quote, a character and a quote are part of the quoted text that they begin. -/
theorem exists_throughQuote_eq (c : Char) (rest : Text) :
    ∃ more, (throughQuote '\'' (c :: '\'' :: rest)).1 = c :: '\'' :: more := by
  by_cases quote : c = '\''
  · rw [quote, throughQuote_doubled]
    exact ⟨_, rfl⟩
  · rw [throughQuote_of_ne quote]
    by_cases doubled : rest.head? = some '\''
    · obtain ⟨behind, rfl⟩ := List.head?_eq_some_iff.1 doubled
      rw [throughQuote_doubled]
      exact ⟨_, rfl⟩
    · rw [throughQuote_close doubled]
      exact ⟨_, rfl⟩

/-- What the look-ahead finds is the beginning of an operand. -/
theorem exists_clause_of_escapeClause? {c : Char} (declared : escapeClause? text = some c) :
    ∃ more rest, IsEscapeClause text ('\'' :: c :: '\'' :: more) rest := by
  obtain ⟨keyword, behind, isKeyword, rfl⟩ := exists_keyword_of_escapeClause? declared
  obtain ⟨more, begins⟩ := exists_throughQuote_eq c behind
  have parts := throughQuote_append '\'' (c :: '\'' :: behind)
  rw [begins] at parts
  refine ⟨more, (throughQuote '\'' (c :: '\'' :: behind)).2, ⟨keyword, isKeyword, ?_⟩, _, rfl, ?_⟩
  · exact congrArg (keyword ++ '\'' :: ·) parts.symm
  · rw [parts, ← begins]

theorem declares_iff {c : Char} :
    Declares text c ↔ ∃ rest, IsEscapeClause text (quotation '\'' (inQuotes '\'' c)) rest := by
  constructor
  · rintro ⟨content, rest, clause, doubled, single⟩
    rw [doubled.undoubled_eq_singleton_iff] at single
    exact ⟨rest, single ▸ clause⟩
  · rintro ⟨rest, clause⟩
    have doubled := doubled_inQuotes '\'' c
    exact ⟨_, rest, clause, doubled, doubled.undoubled_eq_singleton_iff.2 rfl⟩

theorem Declares.escapeClause?_eq {c : Char} (declares : Declares text c) :
    escapeClause? text = some c := by
  obtain ⟨rest, clause⟩ := declares_iff.1 declares
  rw [clause.escapeClause?_eq, quotation_inQuotes]
  exact closedQuote?_eq_some_iff.2 ⟨_, rfl⟩

/-- The look-ahead finds the declared character and nothing else, unless it breaks off an operand. -/
theorem escapeClause?_declared_iff :
    (∀ c, escapeClause? text = some c ↔ Declares text c) ↔ ¬BreaksOff text := by
  constructor
  · rintro agrees ⟨operand, rest, c, more, clause, rfl, longer⟩
    have found : escapeClause? text = some c := by
      rw [clause.escapeClause?_eq]
      exact closedQuote?_eq_some_iff.2 ⟨_, rfl⟩
    obtain ⟨rest', clause'⟩ := declares_iff.1 ((agrees c).1 found)
    exact longer (clause.operand_eq clause')
  · intro whole c
    refine ⟨fun found => ?_, Declares.escapeClause?_eq⟩
    obtain ⟨more, rest, clause⟩ := exists_clause_of_escapeClause? found
    have operand : '\'' :: c :: '\'' :: more = quotation '\'' (inQuotes '\'' c) :=
      Decidable.byContradiction fun longer => whole ⟨_, rest, c, more, clause, rfl, longer⟩
    exact declares_iff.2 ⟨rest, operand ▸ clause⟩

end Clause

/-! ## Behind the markers of a template -/

theorem Segments.exists_taken {options : Options} {offset : Nat} {text : Text} {spans : List Span}
    (segments : Segments options offset text spans) {before after : List Span} {marker : Marker}
    (split : spans = before ++ .marker marker :: after) :
    ∃ place seen here rest, Taken options place seen here marker rest (after.flatMap Span.raw) := by
  induction segments generalizing before with
  | @last offset literal unmarked =>
    have member : marker ∈ markers (literalSpan literal.reverse) := by
      rw [split, mem_markers_iff]
      simp
    rw [markers_last] at member
    cases member
  | @marker offset literal text behind first spans unmarked taken segments inductionHypothesis =>
    obtain ⟨rfl, rfl, rfl⟩ | ⟨behind, rfl, later⟩ := eq_of_literalSpan_append split
    · obtain ⟨rest, place⟩ := taken_of_markerAt taken
      rw [segments.flatMap_raw]
      exact ⟨_, _, _, rest, place⟩
    · exact inductionHypothesis later

/-- The escape character of a pattern is the one declared by the clause behind it, and there is none
where none is declared, exactly when the clause is no operand of which only the beginning is read. -/
theorem escape_of_scan {options : Options} {template : Text} {spans : List Span}
    (cut : scan options template = .ok spans) (detects : options.detectEscape = true) :
    ∀ before marker after, spans = before ++ .marker marker :: after → marker.context = .like →
      ((∀ c, marker.escape = some c ↔ Declares (after.flatMap Span.raw) c) ↔
        ¬BreaksOff (after.flatMap Span.raw)) := by
  intro before marker after split pattern
  obtain ⟨place, seen, here, rest, taken⟩ := (segments_of_scanFrom cut).exists_taken split
  have escape : marker.escape = escapeClause? (after.flatMap Span.raw) := by
    rw [taken.escape, ← taken.context, if_pos ⟨pattern, detects⟩]
  rw [escape]
  exact escapeClause?_declared_iff

theorem escape_of_scan_quote :
    ∃ marker, scan {} "x like :a% escape ''''".toList =
        .ok [.literal "x like ".toList, .marker marker, .literal " escape ''''".toList] ∧
      marker.context = .like ∧ marker.escape = some '\'' ∧
      ((∀ c, marker.escape = some c ↔ Declares " escape ''''".toList c) ↔
        ¬BreaksOff " escape ''''".toList) := by
  have cut : scan {} "x like :a% escape ''''".toList =
      .ok [.literal "x like ".toList,
        .marker ⟨7, ":a".toList, .named ['a'], false, true, .like, some '\''⟩,
        .literal " escape ''''".toList] :=
    eq_ok_of_toOption (by decide +kernel)
  exact ⟨_, cut, rfl, rfl, escape_of_scan cut rfl [.literal "x like ".toList] _ _ rfl rfl⟩

/-- Of an operand that goes on with a doubled quote the first character is recorded. -/
theorem escape_of_doubled_operand :
    ∃ marker, scan {} "x like :a escape 'a''b'".toList =
        .ok [.literal "x like ".toList, .marker marker, .literal " escape 'a''b'".toList] ∧
      marker.context = .like ∧ marker.escape = some 'a' ∧
      ¬Declares " escape 'a''b'".toList 'a' := by
  have cut : scan {} "x like :a escape 'a''b'".toList =
      .ok [.literal "x like ".toList,
        .marker ⟨7, ":a".toList, .named ['a'], false, false, .like, some 'a'⟩,
        .literal " escape 'a''b'".toList] :=
    eq_ok_of_toOption (by decide +kernel)
  refine ⟨_, cut, rfl, rfl, fun declares => ?_⟩
  have blank : ∀ c ∈ [' '], isBlank c = true := List.all_eq_true.1 (by decide)
  have whole : IsEscapeClause " escape 'a''b'".toList "'a''b'".toList [] :=
    ⟨⟨" escape ".toList, ⟨[' '], "escape".toList, [' '], rfl, blank, by decide, blank⟩, rfl⟩,
      "a''b'".toList, rfl, by decide⟩
  obtain ⟨rest, clause⟩ := declares_iff.1 declares
  have operand := whole.operand_eq clause
  cases operand

end QueryTemplate
