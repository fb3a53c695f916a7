import Mathlib.Data.List.Forall2
import QueryTemplate.Logged
import QueryTemplate.Proofs.Opaque.Replacement

/-! # Skipped comments

Nothing inside a skipped comment is read as a marker. What the search for a keyword in front of a
marker reads is the text as written, though, and a line comment ends in a blank: a keyword at the
end of the comment counts for a marker on the next line. A block comment ends in a slash, which no
keyword reaches over.

* `lineComment`, `blockComment`: comments with a given body.
* `FoundAlike`, `Interchangeable`: findings that differ in places only, and regions that give such
  findings wherever one is put in the place of the other.
* `SameLineEnd`: line comments that look the same from the next line.
* `comments_interchangeable`: block comments are interchangeable, and line comments are exactly when
  they look the same from the next line.
-/

namespace QueryTemplate

def lineComment (body : Text) : Text := '-' :: '-' :: (body ++ ['\n'])

def blockComment (body : Text) : Text := '/' :: '*' :: (body ++ ['*', '/'])

/-! ## Findings that are alike -/

/-- The markers are the same, but they may stand at different places. -/
structure Marker.ReadAlike (first second : Marker) : Prop where
  text : second.text = first.text
  target : second.target = first.target
  leading : second.leading = first.leading
  trailing : second.trailing = first.trailing
  context : second.context = first.context
  escape : second.escape = first.escape

inductive FoundAlike : Found → Found → Prop where
  | error {first second : Error} : FoundAlike (.error first) (.error second)
  | ok {first second : List Marker} (alike : List.Forall₂ Marker.ReadAlike first second) :
      FoundAlike (.ok first) (.ok second)

/-- Wherever the scan reaches the first region, the second one can be put in its place. -/
def Interchangeable (options : Options) (region region' : Text) : Prop :=
  ∀ pre post found tail, Reaches options 0 pre (region ++ post) found tail →
    FoundAlike ((scan options (pre ++ (region ++ post))).map markers)
      ((scan options (pre ++ (region' ++ post))).map markers)

theorem Marker.ReadAlike.refl (marker : Marker) : marker.ReadAlike marker :=
  ⟨rfl, rfl, rfl, rfl, rfl, rfl⟩

theorem Marker.readAlike_moved (shift shift' : Nat) (marker : Marker) :
    (marker.moved shift).ReadAlike (marker.moved shift') :=
  ⟨rfl, rfl, rfl, rfl, rfl, rfl⟩

theorem Found.alike_moved (shift shift' : Nat) (before : List Marker) (found : Found) :
    FoundAlike ((found.moved shift).behind before) ((found.moved shift').behind before) := by
  cases found with
  | error error => exact .error
  | ok found =>
    apply FoundAlike.ok
    apply List.rel_append
    · exact List.forall₂_same.2 fun marker _ => .refl marker
    · rw [List.forall₂_map_left_iff, List.forall₂_map_right_iff]
      exact List.forall₂_same.2 fun marker _ => marker.readAlike_moved shift shift'

/-! ## Comments as regions -/

theorem throughLineEnd_eq {body : Text} (unclosed : '\n' ∉ body) (post : Text) :
    throughLineEnd (body ++ '\n' :: post) = (body ++ ['\n'], post) := by
  induction body with
  | nil => simp [throughLineEnd]
  | cons c body inductionHypothesis =>
    obtain ⟨other, later⟩ : '\n' ≠ c ∧ '\n' ∉ body := by simpa using unclosed
    rw [List.cons_append, throughLineEnd, if_neg other.symm, inductionHypothesis later]
    rfl

theorem throughBlockEnd_eq {body : Text} (unclosed : ¬['*', '/'] <:+: body) (post : Text) :
    throughBlockEnd (body ++ '*' :: '/' :: post) = (body ++ ['*', '/'], post) := by
  induction body with
  | nil => simp [throughBlockEnd]
  | cons c body inductionHypothesis =>
    have stays : ¬(c = '*' ∧ (body ++ '*' :: '/' :: post).head? = some '/') := by
      rintro ⟨rfl, slash⟩
      exact head?_append_ne_of_not_infix unclosed (by simp) slash
    have later : ¬['*', '/'] <:+: body := fun inside =>
      unclosed (inside.trans (List.suffix_cons c body).isInfix)
    rw [List.cons_append, throughBlockEnd_of_open stays, inductionHypothesis later]
    rfl

theorem splitOpaque?_lineComment {body : Text} (unclosed : '\n' ∉ body) (post : Text) :
    splitOpaque? true (lineComment body ++ post) = some (lineComment body, post) := by
  have inside : '\n' ∉ '-' :: body := by simpa using unclosed
  have through : throughLineEnd ('-' :: (body ++ '\n' :: post)) = ('-' :: (body ++ ['\n']), post) :=
    throughLineEnd_eq inside post
  have whole : lineComment body ++ post = '-' :: '-' :: (body ++ '\n' :: post) := by
    simp [lineComment]
  rw [whole, splitOpaque?, if_neg (by decide), if_pos ⟨rfl, rfl, rfl⟩, through]
  rfl

theorem splitOpaque?_blockComment {body : Text} (unclosed : ¬['*', '/'] <:+: body) (post : Text) :
    splitOpaque? true (blockComment body ++ post) = some (blockComment body, post) := by
  have whole : blockComment body ++ post = '/' :: '*' :: (body ++ '*' :: '/' :: post) := by
    simp [blockComment]
  rw [whole, splitOpaque?, if_neg (by decide), if_neg (by simp), if_pos ⟨rfl, rfl, rfl⟩,
    List.tail_cons, throughBlockEnd_eq unclosed]
  rfl

/-! ## Looking back at a comment -/

theorem sameLookBack_blockComment (body body' tail : Text) :
    SameLookBack ((blockComment body').reverse ++ tail) ((blockComment body).reverse ++ tail) := by
  have breaks (body : Text) : BreakHead ((blockComment body).reverse ++ tail) := by
    intro c first
    obtain rfl : '/' = c := by simpa [blockComment] using first
    decide
  exact .of_breakHead (breaks _) (breaks _) (by simp [blockComment])

/-- On the next line, the same keyword is found in front of a marker and in front of a marker behind
a parenthesis. -/
structure SameLineEnd (body body' : Text) : Prop where
  bare : contextAfter body'.reverse = contextAfter body.reverse
  opened : contextAfter ('(' :: body'.reverse) = contextAfter ('(' :: body.reverse)

theorem contextAfter_congr {seen seen' : Text} (same : skipBlanks seen = skipBlanks seen') :
    contextAfter seen = contextAfter seen' := by
  rw [contextAfter, contextAfter, same]

/-- Of the text before a line end, the keyword that it ends in matters, and the one that it ends in
with a parenthesis behind. -/
theorem contextAfter_append_lineEnd {seen seen' : Text}
    (bare : contextAfter seen' = contextAfter seen)
    (opened : contextAfter ('(' :: seen') = contextAfter ('(' :: seen)) (literal : Text) :
    contextAfter (literal ++ '\n' :: seen') = contextAfter (literal ++ '\n' :: seen) := by
  have outside (seen : Text) : ('\n' :: seen).head?.any isWordChar = false := rfl
  by_cases blank : skipBlanks literal = []
  · have before (seen : Text) : contextAfter (literal ++ '\n' :: seen) = contextAfter seen :=
      contextAfter_congr (skipBlanks_append_of_eq_nil blank _)
    rw [before, before, bare]
  · have split (seen : Text) := skipBlanks_append_of_ne_nil blank ('\n' :: seen)
    by_cases opens : (skipBlanks literal).head? = some '('
    · obtain ⟨inner, trimmed⟩ := List.head?_eq_some_iff.1 opens
      simp only [trimmed, List.cons_append] at split
      rw [contextAfter_of_parenthesis (split seen), contextAfter_of_parenthesis (split seen')]
      by_cases blankInner : skipBlanks inner = []
      · -- Only blanks stand between the line end and the parenthesis.
        have before (seen : Text) : skipBlanks (inner ++ '\n' :: seen) = skipBlanks seen :=
          skipBlanks_append_of_eq_nil blankInner _
        have parenthesis (seen : Text) : contextAfter ('(' :: seen) =
            if endsInKeyword "in".toList (skipBlanks seen) then .inList else .plain :=
          contextAfter_of_parenthesis rfl
        rw [before, before, ← parenthesis, ← parenthesis, opened]
      · rw [skipBlanks_append_of_ne_nil blankInner, skipBlanks_append_of_ne_nil blankInner,
          endsIn_in_append (outside _), endsIn_in_append (outside _)]
    · have bareBehind (seen : Text) : (skipBlanks (literal ++ '\n' :: seen)).head? ≠ some '(' := by
        rw [split, List.head?_append]
        cases first : (skipBlanks literal).head? with
        | none => exact absurd (List.head?_eq_none_iff.1 first) blank
        | some c => simpa [first] using opens
      rw [contextAfter_of_head?_ne (bareBehind _), contextAfter_of_head?_ne (bareBehind _), split,
        split, bareContext_append (outside _), bareContext_append (outside _)]

theorem contextAfter_lineComment (literal body tail : Text) :
    contextAfter (literal ++ (body.reverse ++ '-' :: '-' :: tail)) =
      contextAfter (literal ++ body.reverse) := by
  rw [← List.append_assoc]
  apply contextAfter_append
  intro c first
  obtain rfl : '-' = c := by simpa using first
  decide

theorem reverse_lineComment_append (body tail : Text) :
    (lineComment body).reverse ++ tail = '\n' :: (body.reverse ++ '-' :: '-' :: tail) := by
  simp [lineComment]

theorem SameLineEnd.sameLookBack {body body' : Text} (alike : SameLineEnd body body')
    (tail : Text) :
    SameLookBack ((lineComment body').reverse ++ tail) ((lineComment body).reverse ++ tail) := by
  rw [reverse_lineComment_append, reverse_lineComment_append]
  constructor
  · simp
  · apply contextAfter_append_lineEnd
    · exact (contextAfter_lineComment [] _ _).trans
        (alike.bare.trans (contextAfter_lineComment [] _ _).symm)
    · exact (contextAfter_lineComment ['('] _ _).trans
        (alike.opened.trans (contextAfter_lineComment ['('] _ _).symm)

theorem contextAfter_reverse_lineComment (body : Text) :
    contextAfter (lineComment body).reverse = contextAfter body.reverse := by
  have written := reverse_lineComment_append body []
  rw [List.append_nil] at written
  calc contextAfter (lineComment body).reverse
      = contextAfter ('\n' :: (body.reverse ++ ['-', '-'])) := by rw [written]
    _ = contextAfter (body.reverse ++ ['-', '-']) := contextAfter_congr rfl
    _ = contextAfter body.reverse := contextAfter_lineComment [] body []

theorem contextAfter_opened_lineComment (body : Text) :
    contextAfter ('(' :: (lineComment body).reverse) = contextAfter ('(' :: body.reverse) := by
  have written := reverse_lineComment_append body []
  rw [List.append_nil] at written
  calc contextAfter ('(' :: (lineComment body).reverse)
      = contextAfter ('(' :: '\n' :: (body.reverse ++ ['-', '-'])) := by rw [written]
    _ = contextAfter ('(' :: (body.reverse ++ ['-', '-'])) := by
        rw [contextAfter_of_parenthesis rfl, contextAfter_of_parenthesis rfl]
        rfl
    _ = contextAfter ('(' :: body.reverse) := contextAfter_lineComment ['('] body []

/-! ## Comments in the place of comments -/

theorem markersFrom_position (options : Options) (offset : Nat) (seen : Text) :
    ∃ marker, markersFrom options offset seen ['?', '1'] = .ok [marker] ∧
      marker.context = contextAfter seen := by
  have found : readingAt seen.head? ['?', '1'] = .found (.positional 1) ['?', '1'] [] := rfl
  obtain ⟨marker, taken⟩ : ∃ marker,
      markerAt options offset seen ['?', '1'] = .ok (some (marker, [])) :=
    ⟨_, markerAt_of_found found⟩
  obtain ⟨_, place⟩ := taken_of_markerAt taken
  refine ⟨marker, ?_, place.context⟩
  rw [markersFrom_of_marker (splitOpaque?_eq_none_of_isMark rfl) taken, markersFrom_nil]
  rfl

section Interchangeable

variable {options : Options} {region region' : Text}
  (split : ∀ post, splitOpaque? options.skipComments (region ++ post) = some (region, post))

include split

/-- The marker behind a region and a few plain characters. -/
theorem scan_position {gap : Text} (plain : gap.all isPlain = true) :
    ∃ marker, (scan options (region ++ (gap ++ ['?', '1']))).map markers = .ok [marker] ∧
      marker.context = contextAfter (gap.reverse ++ region.reverse) := by
  obtain ⟨marker, found, context⟩ := markersFrom_position options
    (0 + region.byteSize + gap.byteSize) (gap.reverse ++ (region.reverse ++ []))
  have passed : markersFrom options (0 + region.byteSize) (region.reverse ++ [])
      (gap ++ ['?', '1']) = .ok [marker] := by
    rw [(unmarked_of_plain plain _).markersFrom_eq rfl, found]
  have scanned : markersFrom options 0 [] (region ++ (gap ++ ['?', '1'])) = .ok [marker] := by
    rw [markersFrom_of_region (split _), passed]
  rw [List.append_nil] at context
  exact ⟨marker, scanned, context⟩

variable (split' : ∀ post,
  splitOpaque? options.skipComments (region' ++ post) = some (region', post))

include split'

theorem interchangeable_of_sameLookBack (head : region'.head? = region.head?)
    (noQuote : region.head? ≠ some '\'')
    (alike : ∀ tail, SameLookBack (region'.reverse ++ tail) (region.reverse ++ tail)) :
    Interchangeable options region region' := by
  intro pre post found tail reaches
  obtain ⟨found', behind, -, -, unchanged, scanned, scanned'⟩ :=
    reaches.replace (split post) (split' post) head (alike tail.reverse)
  obtain rfl : found' = found := unchanged fun quote => absurd quote noQuote
  rw [scanned, scanned']
  exact behind.alike_moved _ _ _

theorem Interchangeable.context_eq (alike : Interchangeable options region region') {gap : Text}
    (plain : gap.all isPlain = true) :
    contextAfter (gap.reverse ++ region'.reverse) =
      contextAfter (gap.reverse ++ region.reverse) := by
  obtain ⟨marker, scanned, context⟩ := scan_position split plain
  obtain ⟨marker', scanned', context'⟩ := scan_position split' plain
  have both := alike [] (gap ++ ['?', '1']) [] [] (.literal .nil)
  rw [List.nil_append, List.nil_append, scanned, scanned'] at both
  cases both with
  | ok both =>
    obtain ⟨same, -⟩ := List.forall₂_cons.1 both
    rw [← context, ← context', same.context]

end Interchangeable

/-- Skipped block comments can be exchanged whatever they say. Skipped line comments can be
exchanged if and only if the search for a keyword in front of a marker comes to the same in both. -/
theorem comments_interchangeable {options : Options} (skips : options.skipComments = true) :
    (∀ body body', ¬['*', '/'] <:+: body → ¬['*', '/'] <:+: body' →
      Interchangeable options (blockComment body) (blockComment body')) ∧
    ∀ body body', '\n' ∉ body → '\n' ∉ body' →
      (Interchangeable options (lineComment body) (lineComment body') ↔
        SameLineEnd body body') := by
  constructor
  · intro body body' unclosed unclosed'
    have split (post : Text) := splitOpaque?_blockComment unclosed post
    have split' (post : Text) := splitOpaque?_blockComment unclosed' post
    rw [← skips] at split split'
    exact interchangeable_of_sameLookBack split split' rfl (by simp [blockComment])
      (sameLookBack_blockComment body body')
  · intro body body' unclosed unclosed'
    have split (post : Text) := splitOpaque?_lineComment unclosed post
    have split' (post : Text) := splitOpaque?_lineComment unclosed' post
    rw [← skips] at split split'
    constructor
    · intro alike
      -- A marker right on the next line, and one behind a parenthesis, tell the comments apart.
      have parenthesis : ['('].all isPlain = true := by decide
      have bare := alike.context_eq split split' List.all_nil
      have opened := alike.context_eq split split' parenthesis
      simp only [List.reverse_nil, List.nil_append, contextAfter_reverse_lineComment] at bare
      simp only [List.reverse_singleton, List.singleton_append,
        contextAfter_opened_lineComment] at opened
      exact ⟨bare, opened⟩
    · intro alike
      exact interchangeable_of_sameLookBack split split' rfl (by simp [lineComment])
        alike.sameLookBack

theorem comments_interchangeable_apart_from_keyword :
    Interchangeable { skipComments := true } (blockComment "like".toList) (blockComment []) ∧
      Interchangeable { skipComments := true } (lineComment "likes".toList) (lineComment []) ∧
      ¬Interchangeable { skipComments := true } (lineComment "like".toList) (lineComment []) := by
  obtain ⟨block, line⟩ := @comments_interchangeable { skipComments := true } rfl
  refine ⟨block _ _ (by decide) (by decide), (line _ _ (by decide) (by decide)).2 ?_, ?_⟩
  · exact ⟨by decide, by decide⟩
  · intro alike
    have same := ((line _ _ (by decide) (by decide)).1 alike).bare
    revert same
    decide

/-- A marker is read as a pattern because the comment on the line before ends in a keyword. -/
theorem line_comment_ends_in_keyword :
    ((scan { skipComments := true } (lineComment " like".toList ++ ":a".toList)).map markers).map
        (·.map Marker.context) = .ok [.like] ∧
      ((scan { skipComments := true } (lineComment " x".toList ++ ":a".toList)).map markers).map
        (·.map Marker.context) = .ok [.plain] :=
  ⟨eq_ok_of_toOption (by decide +kernel), eq_ok_of_toOption (by decide +kernel)⟩

end QueryTemplate
