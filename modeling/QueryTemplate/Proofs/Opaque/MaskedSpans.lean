import QueryTemplate.Proofs.Opaque.Masking

/-! # Masking and scanning in step

The masking walks over the template as it stands, the scan jumps over markers. They still meet the
same opaque regions, as long as no expression holds a quote or the opening mark of a comment: a
region does not begin inside a marker, reach into one, or end elsewhere when the text is cut in
front of one.

* `Span.masked`: what the masking leaves of a span on its own.
* `Masks.mask_append`: a text whose masking ends where the text does is masked apart from the rest.
* `Segments.mask_eq`: the induction over the segments, with `Taken.masks_raw` for their markers.
* `mask_of_scan`: the masked template is put together from its spans.
-/

namespace QueryTemplate

def Span.masked (skipComments : Bool) : Span → Text
  | .literal written => mask skipComments written
  | .marker found => found.raw

theorem Masks.mask_append {skipComments : Bool} {text rest masked : Text}
    (masks : Masks skipComments text rest masked) :
    mask skipComments (text ++ rest) = mask skipComments text ++ mask skipComments rest := by
  have alone : Masks skipComments text [] masked := masks.exchange ⟨fun _ => rfl, .inr nofun⟩
  have whole := alone.mask_eq
  rw [List.append_nil, mask_nil, List.append_nil] at whole
  rw [masks.mask_eq, whole]

theorem flatMap_masked_literalSpan (skipComments : Bool) (literal : Text) :
    (literalSpan literal.reverse).flatMap (Span.masked skipComments) =
      mask skipComments literal := by
  cases literal with
  | nil => exact (mask_nil skipComments).symm
  | cons c literal => simp [literalSpan, Span.masked]

theorem Segments.mask_eq {options : Options} {offset : Nat} {text : Text} {spans : List Span}
    (segments : Segments options offset text spans)
    (transparent : EveryPayload (Transparent options.skipComments) (markers spans)) :
    mask options.skipComments text = spans.flatMap (Span.masked options.skipComments) := by
  induction segments with
  | last unmarked => rw [flatMap_masked_literalSpan]
  | @marker offset literal text after marker spans unmarked taken _ inductionHypothesis =>
    rw [markers_literalSpan, markers_marker] at transparent
    have own := transparent marker List.mem_cons_self
    have later := inductionHypothesis fun other member => transparent other (.tail _ member)
    obtain ⟨-, rfl⟩ := markerAt_split taken
    obtain ⟨rest, place⟩ := taken_of_markerAt taken
    obtain ⟨masked, masksLiteral⟩ := unmarked.exists_masks
    calc mask options.skipComments (literal ++ (marker.raw ++ after))
        = mask options.skipComments literal ++
            mask options.skipComments (marker.raw ++ after) := masksLiteral.mask_append
      _ = mask options.skipComments literal ++
            (marker.raw ++ mask options.skipComments after) := by
          rw [(place.masks_raw own after).mask_eq]
      _ = (literalSpan literal.reverse ++ .marker marker :: spans).flatMap
            (Span.masked options.skipComments) := by
          rw [List.flatMap_append, flatMap_masked_literalSpan, List.flatMap_cons, later]
          rfl

/-- The masked form of a scanned template has the masked form of each literal text and each marker
as it is written, in the order of the spans, if the expressions hold no quotes and, where comments
are skipped, no opening marks of comments. -/
theorem mask_of_scan {options : Options} {template : Text} {spans : List Span}
    (cut : scan options template = .ok spans)
    (transparent : EveryPayload (Transparent options.skipComments) (markers spans)) :
    mask options.skipComments template =
      spans.flatMap (Span.masked options.skipComments) :=
  (segments_of_scanFrom cut).mask_eq transparent

/-- A dash in front of a marker and one at the end of its expression open no comment, and a quoted
text ends in front of a marker; the last one is not closed. Of the four regions a space each is
left. -/
theorem mask_of_scan_between_regions :
    let spans : List Span :=
      [.literal "-".toList,
        .marker ⟨1, ":#{a-}".toList, .namedExpression "a-".toList, false, true, .plain, none⟩,
        .literal "-/*:x*/'?0'".toList,
        .marker ⟨19, "?1".toList, .positional 1, true, false, .plain, none⟩,
        .literal "-- :y\n'".toList]
    scan { skipComments := true } "-:#{a-}%-/*:x*/'?0'%?1-- :y\n'".toList = .ok spans ∧
      EveryPayload (Transparent true) (markers spans) ∧
      mask true "-:#{a-}%-/*:x*/'?0'%?1-- :y\n'".toList =
        spans.flatMap (Span.masked true) ∧
      mask true "-:#{a-}%-/*:x*/'?0'%?1-- :y\n'".toList = "-:#{a-}%-  %?1  ".toList := by
  intro spans
  have cut : scan { skipComments := true } "-:#{a-}%-/*:x*/'?0'%?1-- :y\n'".toList = .ok spans :=
    eq_ok_of_toOption (by decide +kernel)
  have transparent : EveryPayload (Transparent true) (markers spans) := by
    intro marker member payload expression
    obtain rfl | rfl : marker = _ ∨ marker = _ := by simpa [spans] using member
    · cases expression
      exact ⟨by decide, by decide, fun _ => by decide, fun _ => by decide⟩
    · cases expression
  exact ⟨cut, transparent, mask_of_scan cut transparent, by decide +kernel⟩

end QueryTemplate
