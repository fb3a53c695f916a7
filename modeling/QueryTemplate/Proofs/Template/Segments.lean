import QueryTemplate.Proofs.Template.Unmarked

/-! # A scanned template as segments

A template that is scanned without error falls into segments: unmarked text up to a marker, again
and again, and unmarked text at the end. Every segment starts afresh, with no literal text seen.

* `Segments`: the segments of a text, with the spans they give.
* `firstSegment_scanFrom`: what any scan comes to first.
* `scanFrom_eq_ok_iff`: the scan succeeds exactly on a text that falls into segments.
* `Segments.flatMap_raw`: the spans as written make up the text.
-/

namespace QueryTemplate

inductive Segments (options : Options) : Nat → Text → List Span → Prop where
  | last {offset : Nat} {literal : Text}
      (unmarked : Unmarked options.skipComments none literal []) :
      Segments options offset literal (literalSpan literal.reverse)
  | marker {offset : Nat} {literal text after : Text} {marker : Marker} {spans : List Span}
      (unmarked : Unmarked options.skipComments none literal text)
      (taken : markerAt options (offset + literal.byteSize) literal.reverse text =
        .ok (some (marker, after)))
      (behind : Segments options marker.stop after spans) :
      Segments options offset (literal ++ text)
        (literalSpan literal.reverse ++ .marker marker :: spans)

/-! ## The scan finds the segments -/

theorem Segments.scanFrom_eq {options : Options} {offset : Nat} {text : Text} {spans : List Span}
    (segments : Segments options offset text spans) :
    scanFrom options offset [] text = .ok spans := by
  induction segments with
  | @last offset literal unmarked =>
    calc scanFrom options offset [] literal
        = scanFrom options offset [] (literal ++ []) := by rw [List.append_nil]
      _ = scanFrom options (offset + literal.byteSize) (literal.reverse ++ []) [] :=
          unmarked.scanFrom_eq rfl
      _ = .ok (literalSpan literal.reverse) := by rw [List.append_nil, scanFrom_nil]
  | @marker offset literal text after marker spans unmarked taken _ inductionHypothesis =>
    obtain ⟨rest, place⟩ := taken_of_markerAt taken
    have clear : splitOpaque? options.skipComments text = none :=
      splitOpaque?_eq_none_of_readingAt (by rw [place.found]; simp)
    rw [unmarked.scanFrom_eq rfl, List.append_nil, scanFrom_of_marker clear taken,
      inductionHypothesis]
    rfl

/-- A text is unmarked up to its end, or up to a place where a marker is read or cannot be read. -/
theorem exists_unmarked_split (skipComments : Bool) (before : Option Char) (text : Text) :
    ∃ literal rest, text = literal ++ rest ∧ Unmarked skipComments before literal rest ∧
      (rest = [] ∨ readingAt (literal.getLast?.or before) rest ≠ .absent) := by
  match text with
  | [] => exact ⟨[], [], rfl, .nil, .inl rfl⟩
  | c :: text =>
    cases found : splitOpaque? skipComments (c :: text) with
    | some split =>
      obtain ⟨region, after⟩ := split
      have shorter := splitOpaque?_length_lt found
      have whole := splitOpaque?_append found
      have nonempty := splitOpaque?_ne_nil found
      obtain ⟨literal, rest, rfl, unmarked, stops⟩ :=
        exists_unmarked_split skipComments region.getLast? after
      rw [← whole] at found ⊢
      refine ⟨region ++ literal, rest, by simp, .region found unmarked, ?_⟩
      simpa [List.getLast?_append, Option.or_assoc, List.getLast?_eq_some_getLast nonempty]
        using stops
    | none =>
      by_cases absent : readingAt before (c :: text) = .absent
      · obtain ⟨literal, rest, rfl, unmarked, stops⟩ :=
          exists_unmarked_split skipComments (some c) text
        refine ⟨c :: literal, rest, rfl, .clear found absent unmarked, ?_⟩
        cases last : literal.getLast? <;> simpa [List.getLast?_cons, last] using stops
      · exact ⟨[], c :: text, rfl, .nil, .inr absent⟩
termination_by text.length
decreasing_by
  · simp
  · exact shorter

/-- What a scan that starts afresh comes to first, and what that makes of the whole. -/
inductive FirstSegment (options : Options) (offset : Nat) :
    Text → Except Error (List Span) → Prop where
  | last {literal : Text} (unmarked : Unmarked options.skipComments none literal []) :
      FirstSegment options offset literal (.ok (literalSpan literal.reverse))
  /-- The marker behind the unmarked text cannot be read. -/
  | unreadable {literal text : Text} {error : Error}
      (unmarked : Unmarked options.skipComments none literal text)
      (failed : markerAt options (offset + literal.byteSize) literal.reverse text = .error error) :
      FirstSegment options offset (literal ++ text) (.error error)
  | marker {literal text after : Text} {marker : Marker} {spans : List Span}
      (unmarked : Unmarked options.skipComments none literal text)
      (taken : markerAt options (offset + literal.byteSize) literal.reverse text =
        .ok (some (marker, after)))
      (scanned : scanFrom options marker.stop [] after = .ok spans) :
      FirstSegment options offset (literal ++ text)
        (.ok (literalSpan literal.reverse ++ .marker marker :: spans))
  /-- A later marker cannot be read. -/
  | later {literal text after : Text} {marker : Marker} {error : Error}
      (unmarked : Unmarked options.skipComments none literal text)
      (taken : markerAt options (offset + literal.byteSize) literal.reverse text =
        .ok (some (marker, after)))
      (failed : scanFrom options marker.stop [] after = .error error) :
      FirstSegment options offset (literal ++ text) (.error error)

theorem firstSegment_scanFrom (options : Options) (offset : Nat) (text : Text) :
    FirstSegment options offset text (scanFrom options offset [] text) := by
  obtain ⟨literal, rest, rfl, unmarked, stops⟩ :=
    exists_unmarked_split options.skipComments none text
  rw [unmarked.scanFrom_eq rfl, List.append_nil]
  obtain rfl | present := stops
  · rw [scanFrom_nil, List.append_nil]
    exact .last unmarked
  · rw [Option.or_none, ← List.head?_reverse] at present
    have clear : splitOpaque? options.skipComments rest = none :=
      splitOpaque?_eq_none_of_readingAt present
    cases taken : markerAt options (offset + literal.byteSize) literal.reverse rest with
    | error error =>
      rw [scanFrom_of_error clear taken]
      exact .unreadable unmarked taken
    | ok result =>
      cases result with
      | none => exact absurd (markerAt_eq_ok_none_iff.1 taken) present
      | some result =>
        obtain ⟨marker, after⟩ := result
        rw [scanFrom_of_marker clear taken]
        cases behind : scanFrom options marker.stop [] after with
        | error error => exact .later unmarked taken behind
        | ok spans => exact .marker unmarked taken behind

theorem segments_of_scanFrom {options : Options} {offset : Nat} {text : Text} {spans : List Span}
    (scanned : scanFrom options offset [] text = .ok spans) :
    Segments options offset text spans := by
  have first := firstSegment_scanFrom options offset text
  rw [scanned] at first
  cases first with
  | last unmarked => exact .last unmarked
  | marker unmarked taken scannedLater =>
    have shorter := markerAt_length_lt taken
    exact .marker unmarked taken (segments_of_scanFrom scannedLater)
termination_by text.length
decreasing_by
  subst_vars
  simp only [List.length_append]
  omega

theorem scanFrom_eq_ok_iff {options : Options} {offset : Nat} {text : Text} {spans : List Span} :
    scanFrom options offset [] text = .ok spans ↔ Segments options offset text spans :=
  ⟨segments_of_scanFrom, Segments.scanFrom_eq⟩

/-! ## Spans of a segment -/

theorem markers_last (seen : Text) : markers (literalSpan seen) = [] := by
  cases seen with
  | nil => rfl
  | cons c seen => rfl

theorem literalSpan_raw (literal : Text) :
    (literalSpan literal.reverse).flatMap Span.raw = literal := by
  cases literal with
  | nil => rfl
  | cons c literal => simp [literalSpan, Span.raw]

theorem markers_literalSpan (seen : Text) (spans : List Span) :
    markers (literalSpan seen ++ spans) = markers spans := by
  cases seen with
  | nil => rfl
  | cons c seen => rfl

theorem Segments.flatMap_raw {options : Options} {offset : Nat} {text : Text} {spans : List Span}
    (segments : Segments options offset text spans) : spans.flatMap Span.raw = text := by
  induction segments with
  | last => exact literalSpan_raw _
  | marker _ taken _ inductionHypothesis =>
    rw [List.flatMap_append, literalSpan_raw, List.flatMap_cons, inductionHypothesis,
      ← (markerAt_split taken).2]
    rfl

end QueryTemplate
