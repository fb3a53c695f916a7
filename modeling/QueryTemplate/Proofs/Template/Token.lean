import Mathlib.Data.List.Chain
import QueryTemplate.Logged
import QueryTemplate.Proofs.Template.Reached

/-! # The tokens of a template

The spans of a template are its tokens: put together they are the template again, no literal text
is empty or cut in two, and every marker is as long as it can be where it stands.

* `Token`: the grammar of markers in front of the text that follows; `token_of_readTarget`.
* `Boundary`: the spans in front of a place where the scan starts afresh; `Taken.boundary` is the
  step over a marker.
* `MaximalMarker`: a marker in its place between other spans; `Segments.maximalMarker` has one for
  each marker of a text.
* `spans_of_scan`: the spans of a scanned template.
-/

namespace QueryTemplate

/-! ## The grammar of markers -/

/-- A marker without its wildcards, in front of the text behind it. A name or a number ends where no
further character of it follows, and an expression at the brace that closes it. -/
inductive Token : Target → Text → Text → Prop where
  | named {name rest : Text} (nonempty : name ≠ []) (inside : ∀ c ∈ name, isWordChar c = true)
      (stops : rest.head?.any isWordChar = false) : Token (.named name) (':' :: name) rest
  | positional {digits rest : Text} {position : Nat} (nonempty : digits ≠ [])
      (inside : ∀ c ∈ digits, c.isDigit = true) (stops : rest.head?.any Char.isDigit = false)
      (value : Nat.ofDigitChars 10 digits 0 = position)
      (addressable : 1 ≤ position ∧ position ≤ maxPosition) :
      Token (.positional position) ('?' :: digits) rest
  | namedExpression {payload rest : Text} (closes : ClosesAtEnd ('{' :: (payload ++ ['}']))) :
      Token (.namedExpression payload) (':' :: '#' :: '{' :: (payload ++ ['}'])) rest
  | positionalExpression {payload rest : Text}
      (closes : ClosesAtEnd ('{' :: (payload ++ ['}']))) :
      Token (.positionalExpression payload) ('?' :: '#' :: '{' :: (payload ++ ['}'])) rest

theorem closesAtEnd_of_payload? {payload rest : Text}
    (closes : payload? 0 (payload ++ '}' :: rest) = some (payload, rest)) :
    ClosesAtEnd ('{' :: (payload ++ ['}'])) := by
  obtain ⟨-, stays, closed⟩ := payload?_eq_some_iff.1 closes
  exact closesAtEnd_of_staysOpen stays (by simpa using closed)

theorem token_of_readTarget {before : Option Char} {text written rest : Text} {target : Target}
    (found : readTarget before text = .found target written rest) : Token target written rest := by
  cases expression : target.expression? with
  | some payload =>
    obtain ⟨rfl, closes⟩ := expression_of_readTarget found expression
    have closes := closesAtEnd_of_payload? closes
    cases target with
    | named | positional => cases expression
    | namedExpression =>
      cases expression
      exact .namedExpression closes
    | positionalExpression =>
      cases expression
      exact .positionalExpression closes
  | none =>
    have explicit : target.isExpression = false := by rw [Target.isExpression, expression]; rfl
    obtain ⟨identifier, rfl, spells, stops⟩ := exists_spells_of_readTarget found explicit
    cases spells with
    | name nonempty inside => exact .named nonempty inside stops
    | position nonempty inside value addressable =>
      exact .positional nonempty inside stops value addressable

theorem Token.written_eq {target : Target} {written rest payload : Text}
    (token : Token target written rest) (expression : target.expression? = some payload) :
    written = embedding target.sigil payload := by
  cases token with
  | named | positional => cases expression
  | namedExpression | positionalExpression =>
    cases expression
    rfl

theorem isMark_of_isWordChar {c : Char} (word : isWordChar c = true) : isMark c = false := by
  refine Bool.eq_false_iff.2 fun mark => ?_
  rw [isWordChar_eq_false_of_isBreak (isBreak_of_isMark mark)] at word
  cases word

/-- The last character of a marker without its wildcards is none of those that markers start
with. -/
theorem Token.isMark_of_getLast? {target : Target} {written rest : Text}
    (token : Token target written rest) {c : Char} (last : written.getLast? = some c) :
    isMark c = false := by
  cases token with
  | named nonempty inside =>
    rw [List.getLast?_cons_of_ne_nil nonempty] at last
    exact isMark_of_isWordChar (inside c (List.mem_of_getLast? last))
  | positional nonempty inside =>
    rw [List.getLast?_cons_of_ne_nil nonempty] at last
    exact isMark_of_isWordChar (isWordChar_of_isDigit (inside c (List.mem_of_getLast? last)))
  | namedExpression | positionalExpression =>
    obtain rfl : '}' = c := by simpa [List.getLast?_cons] using last
    rfl

/-- Behind the colon of a marker there is no second one. -/
theorem Token.tail_head?_ne {target : Target} {written rest : Text}
    (token : Token target written rest) : written.tail.head? ≠ some ':' := by
  cases token with
  | @named name rest nonempty inside =>
    intro colon
    exact absurd (inside ':' (List.mem_of_mem_head? colon)) (by decide)
  | @positional digits rest position nonempty inside =>
    intro colon
    exact absurd (inside ':' (List.mem_of_mem_head? colon)) (by decide)
  | namedExpression | positionalExpression => simp

/-! ## Markers between spans -/

/-- The scan starts afresh at this byte, behind these spans: at the start of a template or right
behind a marker. -/
structure Boundary (offset : Nat) (earlier : List Span) : Prop where
  size : Text.byteSize (earlier.flatMap Span.raw) = offset
  noColon : (earlier.flatMap Span.raw).getLast? ≠ some ':'
  percent : (earlier.flatMap Span.raw).getLast? = some '%' →
    ∃ before previous, earlier = before ++ [.marker previous] ∧ previous.trailing = true

theorem boundary_nil : Boundary 0 [] := ⟨rfl, nofun, nofun⟩

structure MaximalMarker (before : List Span) (marker : Marker) (behind : Text) : Prop where
  start : marker.start = Text.byteSize (before.flatMap Span.raw)
  token : Token marker.target marker.text (Marker.wildcard marker.trailing ++ behind)
  /-- The colon of a marker is no part of a cast. -/
  single : marker.target.sigil = ':' →
    (before.flatMap Span.raw ++ Marker.wildcard marker.leading).getLast? ≠ some ':' ∧
      marker.text.tail.head? ≠ some ':'
  trailing : (Marker.wildcard marker.trailing ++ behind).head? = some '%' → marker.trailing = true
  /-- The wildcard between two markers belongs to the first one. -/
  leading : (before.flatMap Span.raw ++ Marker.wildcard marker.leading).getLast? = some '%' →
    marker.leading = true ∨
      ∃ earlier previous, before = earlier ++ [.marker previous] ∧ previous.trailing = true

section Step

variable {options : Options} {offset : Nat} {literal text rest after : Text} {marker : Marker}
  {earlier : List Span}
  (taken : Taken options (offset + literal.byteSize) literal.reverse text marker rest after)

include taken

theorem Taken.token :
    Token marker.target marker.text (Marker.wildcard marker.trailing ++ after) := by
  rw [← taken.rest_eq]
  exact token_of_readTarget taken.readTarget_eq

theorem Taken.boundary (boundary : Boundary offset earlier) :
    Boundary marker.stop (earlier ++ literalSpan literal.reverse ++ [.marker marker]) := by
  have raw : (earlier ++ literalSpan literal.reverse ++ [Span.marker marker]).flatMap Span.raw =
      earlier.flatMap Span.raw ++ literal ++ marker.raw := by
    simp [literalSpan_raw, Span.raw]
  have nonempty : marker.text ≠ [] := (readTarget_split taken.readTarget_eq).1
  have lastOwn {c : Char} (without : marker.trailing = false)
      (last : (earlier.flatMap Span.raw ++ literal ++ marker.raw).getLast? = some c) :
      isMark c = false := by
    have lastText : marker.text.getLast? = some c := by
      rw [Marker.raw, without] at last
      simpa [Marker.wildcard, List.getLast?_append, List.getLast?_eq_some_getLast nonempty]
        using last
    exact taken.token.isMark_of_getLast? lastText
  have lastWildcard (trailing : marker.trailing = true) :
      (earlier.flatMap Span.raw ++ literal ++ marker.raw).getLast? = some '%' := by
    rw [Marker.raw, trailing, ← List.append_assoc]
    exact List.getLast?_concat
  refine ⟨?_, ?_, ?_⟩
  · rw [raw, Marker.stop, taken.start, Text.byteSize_append, Text.byteSize_append, boundary.size]
  · rw [raw]
    intro colon
    cases trailing : marker.trailing with
    | false => exact absurd (lastOwn trailing colon) (by decide)
    | true =>
      rw [lastWildcard trailing] at colon
      cases colon
  · rw [raw]
    intro percent
    cases trailing : marker.trailing with
    | false => exact absurd (lastOwn trailing percent) (by decide)
    | true => exact ⟨_, marker, rfl, trailing⟩

/-- In front of the colon of a marker stands no other colon. -/
theorem Taken.single_of_boundary (boundary : Boundary offset earlier)
    (sigil : marker.target.sigil = ':') :
    (earlier.flatMap Span.raw ++ literal ++ Marker.wildcard marker.leading).getLast? ≠
      some ':' := by
  obtain ⟨-, noCast⟩ := sigil_of_readTarget taken.readTarget_eq
  cases leading : marker.leading with
  | true => simp [Marker.wildcard]
  | false =>
    rw [leading] at noCast
    -- The last character of the literal text stands there, or that of the spans in front of it.
    cases last : literal.getLast? with
    | none =>
      obtain rfl := List.getLast?_eq_none_iff.1 last
      simpa [Marker.wildcard] using boundary.noColon
    | some c =>
      have other : c ≠ ':' := by
        rintro rfl
        exact noCast (by simpa using last) sigil
      simpa [Marker.wildcard, List.getLast?_append, last] using other

theorem Taken.leading_of_boundary (boundary : Boundary offset earlier)
    (unmarked : Unmarked options.skipComments none literal text)
    (percent : (earlier.flatMap Span.raw ++ literal ++ Marker.wildcard marker.leading).getLast? =
      some '%') :
    marker.leading = true ∨
      ∃ before previous, earlier ++ literalSpan literal.reverse = before ++ [.marker previous] ∧
        previous.trailing = true := by
  cases leading : marker.leading with
  | true => exact .inl rfl
  | false =>
    right
    rw [leading] at percent
    cases last : literal.getLast? with
    | none =>
      obtain rfl := List.getLast?_eq_none_iff.1 last
      obtain ⟨before, previous, rfl, trailing⟩ :=
        boundary.percent (by simpa [Marker.wildcard] using percent)
      exact ⟨before, previous, by simp [literalSpan], trailing⟩
    | some c =>
      obtain rfl : c = '%' := by
        simpa [Marker.wildcard, List.getLast?_append, last] using percent
      rw [taken.leading_of_percent unmarked last] at leading
      cases leading

theorem Taken.maximalMarker (boundary : Boundary offset earlier)
    (unmarked : Unmarked options.skipComments none literal text) :
    MaximalMarker (earlier ++ literalSpan literal.reverse) marker after := by
  have raw : (earlier ++ literalSpan literal.reverse).flatMap Span.raw =
      earlier.flatMap Span.raw ++ literal := by
    rw [List.flatMap_append, literalSpan_raw]
  refine ⟨?_, taken.token, fun sigil => ⟨?_, taken.token.tail_head?_ne⟩, ?_, ?_⟩
  · rw [raw, taken.start, Text.byteSize_append, boundary.size]
  · rw [raw]
    exact taken.single_of_boundary boundary sigil
  · rw [← taken.rest_eq, taken.trailing]
    intro percent
    simp [percent]
  · rw [raw]
    exact taken.leading_of_boundary boundary unmarked

end Step

/-! ## All spans -/

theorem eq_of_literalSpan_append {seen : Text} {first marker : Marker}
    {later before after : List Span}
    (split : literalSpan seen ++ .marker first :: later = before ++ .marker marker :: after) :
    (before = literalSpan seen ∧ first = marker ∧ later = after) ∨
      ∃ behind, before = literalSpan seen ++ .marker first :: behind ∧
        later = behind ++ .marker marker :: after := by
  have here {before : List Span}
      (split : .marker first :: later = before ++ .marker marker :: after) :
      (before = [] ∧ first = marker ∧ later = after) ∨
        ∃ behind, before = .marker first :: behind ∧ later = behind ++ .marker marker :: after := by
    cases before with
    | nil =>
      obtain ⟨same, rfl⟩ := List.cons.inj split
      exact .inl ⟨rfl, Span.marker.inj same, rfl⟩
    | cons span behind =>
      obtain ⟨rfl, rfl⟩ := List.cons.inj split
      exact .inr ⟨behind, rfl, rfl⟩
  cases seen with
  | nil => exact here split
  | cons c seen =>
    cases before with
    | nil => cases (List.cons.inj split).1
    | cons span before =>
      obtain ⟨rfl, splitBehind⟩ := List.cons.inj split
      obtain ⟨rfl, same, rfl⟩ | ⟨behind, rfl, rfl⟩ := here splitBehind
      · exact .inl ⟨rfl, same, rfl⟩
      · exact .inr ⟨behind, rfl, rfl⟩

theorem Segments.maximalMarker {options : Options} {offset : Nat} {text : Text}
    {spans : List Span} (segments : Segments options offset text spans) {earlier : List Span}
    (boundary : Boundary offset earlier) {before after : List Span} {marker : Marker}
    (split : spans = before ++ .marker marker :: after) :
    MaximalMarker (earlier ++ before) marker (after.flatMap Span.raw) := by
  induction segments generalizing earlier before with
  | @last offset literal unmarked =>
    have member : marker ∈ markers (literalSpan literal.reverse) := by
      rw [split, mem_markers_iff]
      simp
    rw [markers_last] at member
    cases member
  | @marker offset literal text behind first spans unmarked taken segments inductionHypothesis =>
    obtain ⟨rest, place⟩ := taken_of_markerAt taken
    obtain ⟨rfl, rfl, rfl⟩ | ⟨behind, rfl, later⟩ := eq_of_literalSpan_append split
    · rw [segments.flatMap_raw]
      exact place.maximalMarker boundary unmarked
    · have found := inductionHypothesis (place.boundary boundary) later
      simpa only [List.append_assoc, List.singleton_append] using found

def Span.isLiteral : Span → Bool
  | .literal _ => true
  | .marker _ => false

/-- Literal texts are not empty, and between two of them stands a marker. -/
structure WellCut (spans : List Span) : Prop where
  nonempty : .literal [] ∉ spans
  apart : spans.IsChain fun first second => first.isLiteral = false ∨ second.isLiteral = false

theorem WellCut.literalSpan_append {spans : List Span} (cut : WellCut spans)
    (marked : ∀ span ∈ spans.head?, span.isLiteral = false) (seen : Text) :
    WellCut (literalSpan seen ++ spans) := by
  cases seen with
  | nil => exact cut
  | cons c seen =>
    refine ⟨?_, ?_⟩
    · simpa [literalSpan] using cut.nonempty
    · exact cut.apart.cons fun span member => .inr (marked span member)

theorem Segments.wellCut {options : Options} {offset : Nat} {text : Text} {spans : List Span}
    (segments : Segments options offset text spans) : WellCut spans := by
  induction segments with
  | @last offset literal unmarked =>
    have empty : WellCut [] := ⟨List.not_mem_nil, .nil⟩
    simpa using empty.literalSpan_append (by simp) literal.reverse
  | @marker offset literal text after marker spans unmarked taken behind inductionHypothesis =>
    refine WellCut.literalSpan_append ⟨?_, ?_⟩ (by simp [Span.isLiteral]) literal.reverse
    · simpa using inductionHypothesis.nonempty
    · exact inductionHypothesis.apart.cons fun span member => .inl rfl

/-- The spans of a scanned template make it up again, literal texts alternate with markers, and
every marker is as long as it can be in its place. -/
theorem spans_of_scan {options : Options} {template : Text} {spans : List Span}
    (cut : scan options template = .ok spans) :
    spans.flatMap Span.raw = template ∧ WellCut spans ∧
      ∀ before marker after, spans = before ++ .marker marker :: after →
        MaximalMarker before marker (after.flatMap Span.raw) := by
  have segments := segments_of_scanFrom cut
  refine ⟨segments.flatMap_raw, segments.wellCut, fun before marker after split => ?_⟩
  exact segments.maximalMarker boundary_nil split

/-- The wildcard between two markers is taken by the first one; the colons of a cast are literal. -/
theorem spans_of_scan_shared_wildcard :
    let spans : List Span :=
      [.literal "::x ".toList,
        .marker ⟨4, ":a".toList, .named ['a'], true, true, .plain, none⟩,
        .marker ⟨8, ":#{{}}".toList, .namedExpression "{}".toList, false, false, .plain, none⟩,
        .marker ⟨14, "?07".toList, .positional 7, false, false, .plain, none⟩]
    scan {} "::x %:a%:#{{}}?07".toList = .ok spans ∧
      spans.flatMap Span.raw = "::x %:a%:#{{}}?07".toList ∧ WellCut spans ∧
      ∀ before marker after, spans = before ++ .marker marker :: after →
        MaximalMarker before marker (after.flatMap Span.raw) := by
  intro spans
  have cut : scan {} "::x %:a%:#{{}}?07".toList = .ok spans := eq_ok_of_toOption (by decide +kernel)
  exact ⟨cut, spans_of_scan cut⟩

end QueryTemplate
