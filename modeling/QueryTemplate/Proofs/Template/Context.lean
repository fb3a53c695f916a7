import Mathlib.Data.List.DropRight
import QueryTemplate.Proofs.Template.Token

/-! # Keywords in front of a marker

The literal text since the last marker decides how the value of a marker is bound: it ends in
`like`, in `in` with or without an opening parenthesis, or in neither. For a pattern the wildcards
that touch the marker give the mode.

* `EndsIn`, `EndsInOpened`: a keyword at the end of a text, and in front of a parenthesis there.
* `endsInKeyword_skipBlanks_iff`: the keyword is what is read backwards.
* `contextAfter_eq_like_iff`, `contextAfter_eq_inList_iff`: the contexts of a marker.
* `literalBefore`: the literal text since the last marker; `Segments.context_eq`.
* `ModeBetween`, `KindByKeyword`: modes by their wildcards and kinds by their keywords.
* `kind_of_scan`: the kinds of the markers of a template.
-/

namespace QueryTemplate

/-! ## Keywords at the end of a text -/

/-- The text ends in a spelling of the keyword and blanks behind it, and no word character stands in
front of the keyword. -/
def EndsIn (keyword text : Text) : Prop :=
  ∃ front spelling gap, text = front ++ (spelling ++ gap) ∧ spelling.map foldAscii = keyword ∧
    (∀ c ∈ gap, isBlank c = true) ∧ startsWord front.getLast? = true

/-- The text ends in an opening parenthesis and blanks behind it, and in front of the parenthesis in
the keyword. -/
def EndsInOpened (keyword text : Text) : Prop :=
  ∃ front gap, text = front ++ '(' :: gap ∧ (∀ c ∈ gap, isBlank c = true) ∧ EndsIn keyword front

section Keyword

variable {keyword text reversed : Text}

theorem endsInKeyword_iff :
    endsInKeyword keyword reversed = true ↔
      ∃ spelling before, reversed = spelling ++ before ∧ spelling.map foldAscii = keyword.reverse ∧
        startsWord before.head? = true := by
  unfold endsInKeyword
  cases read : dropFolded? foldAscii keyword.reverse reversed with
  | none =>
    refine ⟨nofun, ?_⟩
    rintro ⟨spelling, before, split, folded, -⟩
    rw [dropFolded?_eq_some_iff.2 ⟨spelling, folded, split⟩] at read
    cases read
  | some before =>
    constructor
    · intro starts
      obtain ⟨spelling, folded, split⟩ := dropFolded?_eq_some_iff.1 read
      exact ⟨spelling, before, split, folded, starts⟩
    · rintro ⟨spelling, before', split, folded, starts⟩
      rw [dropFolded?_eq_some_iff.2 ⟨spelling, folded, split⟩] at read
      exact Option.some.inj read ▸ starts

/-- A text that ends in a keyword ends in its last letter. -/
theorem head?_of_endsInKeyword (nonempty : keyword ≠ [])
    (ends : endsInKeyword keyword reversed = true) :
    reversed.head?.map foldAscii = keyword.getLast? := by
  obtain ⟨spelling, before, rfl, folded, -⟩ := endsInKeyword_iff.1 ends
  cases spelling with
  | nil => exact absurd (List.reverse_eq_nil_iff.1 folded.symm) nonempty
  | cons c spelling =>
    rw [← List.head?_reverse, ← folded]
    rfl

/-- Read backwards, the blanks at the end of a text come first. -/
theorem skipBlanks_reverse_append {front gap : Text} (blank : ∀ c ∈ gap, isBlank c = true)
    (visible : front.getLast?.any isBlank = false) :
    skipBlanks (front ++ gap).reverse = front.reverse := by
  rw [List.reverse_append]
  refine dropWhile_append_of_stop ?_ ?_
  · simpa using blank
  · rwa [List.head?_reverse]

theorem eq_append_blanks (text : Text) :
    text = (skipBlanks text.reverse).reverse ++ (blanks text.reverse).reverse := by
  rw [← List.reverse_append, blanks_append_skipBlanks, List.reverse_reverse]

theorem isBlank_of_mem_blanks : ∀ c ∈ (blanks text).reverse, isBlank c = true := by
  intro c member
  exact all_takeWhile c (List.mem_reverse.1 member)

/-- Behind the trailing blanks the keyword is read backwards. -/
theorem endsInKeyword_skipBlanks_iff (nonempty : keyword ≠ [])
    (letters : keyword.all Char.isLower = true) :
    endsInKeyword keyword (skipBlanks text.reverse) = true ↔ EndsIn keyword text := by
  constructor
  · intro ends
    obtain ⟨spelling, before, split, folded, starts⟩ := endsInKeyword_iff.1 ends
    refine ⟨before.reverse, spelling.reverse, (blanks text.reverse).reverse, ?_, ?_,
      isBlank_of_mem_blanks, ?_⟩
    · rw [← List.append_assoc, ← List.reverse_append, ← split]
      exact eq_append_blanks text
    · rw [List.map_reverse, folded, List.reverse_reverse]
    · rwa [List.getLast?_reverse]
  · rintro ⟨front, spelling, gap, rfl, rfl, blank, starts⟩
    have visible : (front ++ spelling).getLast?.any isBlank = false := by
      have nonempty : spelling ≠ [] := fun empty => nonempty (by rw [empty]; rfl)
      have last := List.getLast_mem nonempty
      have letter : (foldAscii (spelling.getLast nonempty)).isLower = true :=
        List.all_eq_true.1 letters _ (List.mem_map_of_mem last)
      rw [List.getLast?_append, List.getLast?_eq_some_getLast nonempty]
      exact isBlank_of_isWordChar (isWordChar_of_foldAscii letter)
    rw [← List.append_assoc, skipBlanks_reverse_append blank visible]
    refine endsInKeyword_iff.2 ⟨spelling.reverse, front.reverse, ?_, ?_, ?_⟩
    · rw [List.reverse_append]
    · rw [List.map_reverse]
    · rwa [List.head?_reverse]

theorem EndsIn.ne_nil (ends : EndsIn keyword text) (nonempty : keyword ≠ []) : text ≠ [] := by
  rintro rfl
  obtain ⟨front, spelling, gap, empty, folded, -, -⟩ := ends
  obtain ⟨-, rest⟩ := List.append_eq_nil_iff.1 empty.symm
  rw [(List.append_eq_nil_iff.1 rest).1] at folded
  exact nonempty folded.symm

theorem endsInOpened_iff_of_opens {before : Text}
    (opens : skipBlanks text.reverse = '(' :: before) :
    EndsInOpened keyword text ↔ EndsIn keyword before.reverse := by
  constructor
  · rintro ⟨front, gap, rfl, blank, ends⟩
    rw [← List.singleton_append, ← List.append_assoc,
      skipBlanks_reverse_append blank (by simp [show isBlank '(' = false by decide])] at opens
    simp only [List.reverse_append, List.reverse_singleton, List.singleton_append,
      List.cons.injEq, true_and] at opens
    rwa [← opens, List.reverse_reverse]
  · intro ends
    refine ⟨before.reverse, (blanks text.reverse).reverse, ?_, isBlank_of_mem_blanks, ends⟩
    have split := eq_append_blanks text
    rw [opens] at split
    simpa using split

theorem not_endsInOpened_of_bare (bare : (skipBlanks text.reverse).head? ≠ some '(') :
    ¬EndsInOpened keyword text := by
  rintro ⟨front, gap, rfl, blank, -⟩
  rw [← List.singleton_append, ← List.append_assoc,
    skipBlanks_reverse_append blank (by simp [show isBlank '(' = false by decide])] at bare
  simp at bare

end Keyword

/-! ## Contexts -/

section Context

variable {text : Text}

theorem endsIn_like_iff :
    EndsIn "like".toList text ↔ endsInKeyword "like".toList (skipBlanks text.reverse) = true :=
  (endsInKeyword_skipBlanks_iff (by decide) (by decide)).symm

theorem endsIn_in_iff :
    EndsIn "in".toList text ↔ endsInKeyword "in".toList (skipBlanks text.reverse) = true :=
  (endsInKeyword_skipBlanks_iff (by decide) (by decide)).symm

/-- The last letters of the two keywords differ. -/
theorem not_endsInKeyword_in_of_like {trimmed : Text}
    (like : endsInKeyword "like".toList trimmed = true) :
    endsInKeyword "in".toList trimmed = false := by
  refine Bool.eq_false_iff.2 fun collection => ?_
  have last := head?_of_endsInKeyword (by decide) like
  rw [head?_of_endsInKeyword (by decide) collection] at last
  exact absurd last (by decide)

theorem endsInKeyword_parenthesis {keyword : Text} (nonempty : keyword ≠ [])
    (other : keyword.getLast? ≠ some '(') (before : Text) :
    endsInKeyword keyword ('(' :: before) = false :=
  Bool.eq_false_iff.2 fun ends => other (head?_of_endsInKeyword nonempty ends).symm

theorem bareContext_eq_like_iff {trimmed : Text} :
    bareContext trimmed = .like ↔ endsInKeyword "like".toList trimmed = true := by
  unfold bareContext
  split
  next like => exact iff_of_true rfl like
  next noLike =>
    refine iff_of_false ?_ noLike
    split <;> exact Context.noConfusion

theorem bareContext_eq_inList_iff {trimmed : Text} :
    bareContext trimmed = .inList ↔ endsInKeyword "in".toList trimmed = true := by
  unfold bareContext
  split
  next like =>
    rw [not_endsInKeyword_in_of_like like]
    exact iff_of_false Context.noConfusion Bool.false_ne_true
  next =>
    split
    next collection => exact iff_of_true rfl collection
    next noCollection => exact iff_of_false Context.noConfusion noCollection

theorem contextAfter_eq_like_iff :
    contextAfter text.reverse = .like ↔ EndsIn "like".toList text := by
  rw [endsIn_like_iff]
  by_cases opens : (skipBlanks text.reverse).head? = some '('
  · obtain ⟨before, trimmed⟩ := List.head?_eq_some_iff.1 opens
    rw [contextAfter_of_parenthesis trimmed, trimmed,
      endsInKeyword_parenthesis (by decide) (by decide)]
    split <;> simp
  · rw [contextAfter_of_head?_ne opens, bareContext_eq_like_iff]

theorem contextAfter_eq_inList_iff :
    contextAfter text.reverse = .inList ↔
      EndsIn "in".toList text ∨ EndsInOpened "in".toList text := by
  rw [endsIn_in_iff]
  by_cases opens : (skipBlanks text.reverse).head? = some '('
  · obtain ⟨before, trimmed⟩ := List.head?_eq_some_iff.1 opens
    rw [contextAfter_of_parenthesis trimmed, endsInOpened_iff_of_opens trimmed, endsIn_in_iff,
      List.reverse_reverse, trimmed, endsInKeyword_parenthesis (by decide) (by decide)]
    split
    next collection => exact iff_of_true rfl (.inr collection)
    next noCollection => exact iff_of_false Context.noConfusion (by simpa using noCollection)
  · simp only [contextAfter_of_head?_ne opens, bareContext_eq_inList_iff,
      not_endsInOpened_of_bare opens, or_false]

theorem endsIn_like_excludes_in (like : EndsIn "like".toList text) :
    ¬(EndsIn "in".toList text ∨ EndsInOpened "in".toList text) := by
  rw [← contextAfter_eq_inList_iff, contextAfter_eq_like_iff.2 like]
  exact Context.noConfusion

end Context

/-! ## Literal text since the last marker -/

/-- The literal text at the end of the spans, behind the last marker. -/
def literalBefore (before : List Span) : Text :=
  (before.rtakeWhile Span.isLiteral).flatMap Span.raw

theorem literalBefore_literalSpan (literal : Text) :
    literalBefore (literalSpan literal.reverse) = literal := by
  have literals : ∀ span ∈ literalSpan literal.reverse, span.isLiteral = true := by
    cases literal with
    | nil => simp [literalSpan]
    | cons c literal => simp [literalSpan, Span.isLiteral]
  rw [literalBefore, List.rtakeWhile_eq_self_iff.2 literals, literalSpan_raw]

theorem literalBefore_behind (front : List Span) (marker : Marker) (behind : List Span) :
    literalBefore (front ++ .marker marker :: behind) = literalBefore behind := by
  induction behind using List.reverseRecOn with
  | nil =>
    rw [literalBefore, List.rtakeWhile_concat_neg _ _ _ (by simp [Span.isLiteral])]
    rfl
  | append_singleton behind span inductionHypothesis =>
    unfold literalBefore at inductionHypothesis ⊢
    rw [← List.cons_append, ← List.append_assoc]
    cases kind : span.isLiteral with
    | true =>
      rw [List.rtakeWhile_concat_pos _ _ _ kind, List.rtakeWhile_concat_pos _ _ _ kind,
        List.flatMap_append, inductionHypothesis, List.flatMap_append]
    | false =>
      rw [List.rtakeWhile_concat_neg _ _ _ (by simp [kind]),
        List.rtakeWhile_concat_neg _ _ _ (by simp [kind])]

theorem Segments.context_eq {options : Options} {offset : Nat} {text : Text} {spans : List Span}
    (segments : Segments options offset text spans) {before after : List Span} {marker : Marker}
    (split : spans = before ++ .marker marker :: after) :
    marker.context = contextAfter (literalBefore before).reverse := by
  induction segments generalizing before with
  | @last offset literal unmarked =>
    have member : marker ∈ markers (literalSpan literal.reverse) := by
      rw [split, mem_markers_iff]
      simp
    rw [markers_last] at member
    cases member
  | @marker offset literal text behind first spans unmarked taken segments inductionHypothesis =>
    obtain ⟨rfl, rfl, rfl⟩ | ⟨behind, rfl, later⟩ := eq_of_literalSpan_append split
    · obtain ⟨rest, place⟩ := taken_of_markerAt taken
      rw [literalBefore_literalSpan]
      exact place.context
    · rw [literalBefore_behind]
      exact inductionHypothesis later

/-! ## Kinds -/

/-- The mode of a pattern between two texts says which of them touches it with a wildcard. -/
structure ModeBetween (front behind : Text) (mode : LikeMode) : Prop where
  contains : mode = .contains ↔ front.getLast? = some '%' ∧ behind.head? = some '%'
  startsWith : mode = .startsWith ↔ front.getLast? ≠ some '%' ∧ behind.head? = some '%'
  endsWith : mode = .endsWith ↔ front.getLast? = some '%' ∧ behind.head? ≠ some '%'
  equals : mode = .equals ↔ front.getLast? ≠ some '%' ∧ behind.head? ≠ some '%'

theorem modeBetween_ofWildcards {front behind : Text} {leading trailing : Bool}
    (before : leading = true ↔ front.getLast? = some '%')
    (after : trailing = true ↔ behind.head? = some '%') :
    ModeBetween front behind (.ofWildcards leading trailing) := by
  constructor <;> simp only [ne_eq, ← before, ← after] <;> cases leading <;> cases trailing <;>
    simp [LikeMode.ofWildcards]

/-- The kind of a marker, by the literal text in front of it and by what stands on its sides. -/
structure KindByKeyword (preceding front behind : Text) (kind : BindingKind) : Prop where
  like : (∃ mode escape, kind = .like mode escape) ↔ EndsIn "like".toList preceding
  inCollection : kind = .inCollection ↔
    EndsIn "in".toList preceding ∨ EndsInOpened "in".toList preceding
  simple : kind = .simple ↔ ¬EndsIn "like".toList preceding ∧
    ¬(EndsIn "in".toList preceding ∨ EndsInOpened "in".toList preceding)
  exclusive : ¬(EndsIn "like".toList preceding ∧
    (EndsIn "in".toList preceding ∨ EndsInOpened "in".toList preceding))
  mode : ∀ mode escape, kind = .like mode escape → ModeBetween front behind mode

theorem Marker.kind_eq_like_iff {marker : Marker} :
    (∃ mode escape, marker.kind = .like mode escape) ↔ marker.context = .like := by
  unfold Marker.kind
  cases marker.context <;> simp

theorem Marker.kind_eq_inCollection_iff {marker : Marker} :
    marker.kind = .inCollection ↔ marker.context = .inList := by
  unfold Marker.kind
  cases marker.context <;> simp

theorem Marker.kind_eq_simple_iff {marker : Marker} :
    marker.kind = .simple ↔ marker.context ≠ .like ∧ marker.context ≠ .inList := by
  unfold Marker.kind
  cases marker.context <;> simp

theorem Marker.mode_eq_of_kind {marker : Marker} {mode : LikeMode} {escape : Option Char}
    (pattern : marker.kind = .like mode escape) :
    mode = .ofWildcards marker.leading marker.trailing := by
  unfold Marker.kind at pattern
  split at pattern <;> cases pattern
  rfl

theorem MaximalMarker.modeBetween {before : List Span} {marker : Marker} {behind : Text}
    (maximal : MaximalMarker before marker behind) (nonempty : literalBefore before ≠ []) :
    ModeBetween (before.flatMap Span.raw ++ Marker.wildcard marker.leading)
      (Marker.wildcard marker.trailing ++ behind)
      (.ofWildcards marker.leading marker.trailing) := by
  refine modeBetween_ofWildcards ⟨?_, fun percent => ?_⟩ ⟨?_, maximal.trailing⟩
  · intro leading
    rw [leading]
    exact List.getLast?_concat
  · obtain own | ⟨earlier, previous, rfl, -⟩ := maximal.leading percent
    · exact own
    · exact absurd (literalBefore_behind earlier previous []) nonempty
  · intro trailing
    rw [trailing]
    rfl

/-- The kind of a marker follows from the keyword at the end of the literal text in front of it, and
the mode of a pattern from the wildcards on its sides. -/
theorem kind_of_scan {options : Options} {template : Text} {spans : List Span}
    (cut : scan options template = .ok spans) :
    ∀ before marker after, spans = before ++ .marker marker :: after →
      let front := before.flatMap Span.raw ++ Marker.wildcard marker.leading
      let behind := Marker.wildcard marker.trailing ++ after.flatMap Span.raw
      template = front ++ (marker.text ++ behind) ∧
        KindByKeyword (literalBefore before) front behind marker.kind := by
  intro before marker after split front behind
  have segments := segments_of_scanFrom cut
  have context := segments.context_eq split
  have maximal := segments.maximalMarker boundary_nil split
  refine ⟨?_, ?_, ?_, ?_, ?_, ?_⟩
  · rw [← segments.flatMap_raw, split]
    simp [front, behind, Span.raw, Marker.raw]
  · rw [Marker.kind_eq_like_iff, context, contextAfter_eq_like_iff]
  · rw [Marker.kind_eq_inCollection_iff, context, contextAfter_eq_inList_iff]
  · rw [Marker.kind_eq_simple_iff, context, ne_eq, ne_eq, contextAfter_eq_like_iff,
      contextAfter_eq_inList_iff]
  · exact fun both => endsIn_like_excludes_in both.1 both.2
  · intro mode escape pattern
    have like : EndsIn "like".toList (literalBefore before) := by
      rw [← contextAfter_eq_like_iff, ← context, ← Marker.kind_eq_like_iff]
      exact ⟨mode, escape, pattern⟩
    rw [Marker.mode_eq_of_kind pattern]
    -- A literal text stands in front of a pattern, so no wildcard of an earlier marker does.
    exact maximal.modeBetween (like.ne_nil (by decide))

theorem kind_of_scan_opened :
    ∃ marker, scan {} "x like %:a or y iN (\n:b".toList =
        .ok [.literal "x like ".toList,
          .marker ⟨7, ":a".toList, .named ['a'], true, false, .like, none⟩,
          .literal " or y iN (\n".toList, .marker marker] ∧
      marker.kind = .inCollection ∧
      KindByKeyword " or y iN (\n".toList "x like %:a or y iN (\n".toList [] marker.kind := by
  have cut : scan {} "x like %:a or y iN (\n:b".toList =
      .ok [.literal "x like ".toList,
        .marker ⟨7, ":a".toList, .named ['a'], true, false, .like, none⟩,
        .literal " or y iN (\n".toList,
        .marker ⟨21, ":b".toList, .named ['b'], false, false, .inList, none⟩] :=
    eq_ok_of_toOption (by decide +kernel)
  exact ⟨_, cut, rfl, (kind_of_scan cut [.literal "x like ".toList, .marker _,
    .literal " or y iN (\n".toList] _ [] rfl).2⟩

/-- Behind a word character the letters of a keyword are part of a longer word. -/
example :
    (scan {} "unlike :a or _in (:b or (in(:c".toList).toOption.map
        (fun spans => (markers spans).map Marker.kind) =
      some [.simple, .simple, .inCollection] := by
  decide +kernel

end QueryTemplate
