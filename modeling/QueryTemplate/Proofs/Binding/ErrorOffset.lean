import QueryTemplate.Proofs.Binding.Agreement
import QueryTemplate.Proofs.Template.Failure
import QueryTemplate.Proofs.Template.Token

/-! # The byte that an error names

Two stages of parsing name a byte in their errors. The scan does so for a marker that it cannot
read, and names the byte of the colon or question mark. The binding does so for an expression that
no position is left for, and names the first byte of the marker: that of its wildcard, if it has
one.

* `Error.offset?`: the byte that an error names.
* `Unreadable`, `Unplaced`: the marker that an error is about, by stage.
* `sign_of_parse_error`: where that marker begins, and when the error names that byte.
-/

namespace QueryTemplate

def Error.offset? : Error → Option Nat
  | .unterminatedExpression offset | .invalidPosition offset => some offset
  | .conflictingBinding .. | .missingIdentifier | .unknownParameter _ | .invalidOptions _ => none

/-- The scan comes to stand in front of a marker that it cannot read. The marker itself, without its
wildcard, begins behind `front`. -/
structure Unreadable (options : Options) (front rest : Text) (make : Nat → Error) : Prop where
  fault : Fault rest make
  reached : ∃ text leading found tail, front = text ++ Marker.wildcard leading ∧
    Reaches options 0 text (Marker.wildcard leading ++ rest) found tail

/-- No position is left for the expression of a marker, and it is the first one that cannot be
bound. The marker itself, without its wildcard, begins behind `front`. -/
structure Unplaced (options : Options) (template front rest : Text) (marker : Marker) : Prop where
  refused : ∃ spans earlier later, scan options template = .ok spans ∧
    occurrences (Naming.ofSpans options.stem spans) (markers spans) =
      earlier ++ ⟨marker, none⟩ :: later ∧
    Unopposed [] earlier
  expression : ∃ payload behind, marker.target = .positionalExpression payload ∧
    rest = embedding '?' payload ++ behind
  start : ∃ text, front = text ++ Marker.wildcard marker.leading ∧ text.byteSize = marker.start

theorem Unplaced.byteSize {options : Options} {template front rest : Text} {marker : Marker}
    (unplaced : Unplaced options template front rest marker) :
    front.byteSize = marker.start + (Marker.wildcard marker.leading).byteSize := by
  obtain ⟨text, rfl, start⟩ := unplaced.start
  rw [Text.byteSize_append, start]

theorem exists_unreadable {options : Options} {template : Text} {error : Error}
    (failed : scan options template = .error error) :
    ∃ front rest make, template = front ++ rest ∧ Unreadable options front rest make ∧
      error = make front.byteSize := by
  obtain ⟨front, leading, rest, make, found, tail, rfl, reaches, fault, rfl⟩ :=
    reaches_of_scan_error failed
  exact ⟨front ++ Marker.wildcard leading, rest, make, by simp,
    ⟨fault, front, leading, found, tail, rfl, reaches⟩, rfl⟩

theorem exists_unplaced {options : Options} {template : Text} {spans : List Span}
    (cut : scan options template = .ok spans) {earlier later : List Occurrence} {marker : Marker}
    (split : occurrences (Naming.ofSpans options.stem spans) (markers spans) =
      earlier ++ ⟨marker, none⟩ :: later)
    (unopposed : Unopposed [] earlier) :
    ∃ front rest, template = front ++ rest ∧ Unplaced options template front rest marker := by
  have occurs :
      ⟨marker, none⟩ ∈ occurrences (Naming.ofSpans options.stem spans) (markers spans) := by
    rw [split]
    simp
  obtain ⟨payload, target⟩ := target_of_mem_occurrences occurs
  have member : .marker marker ∈ spans := mem_markers_iff.1 (mem_of_mem_occurrences occurs)
  obtain ⟨before, after, splitSpans⟩ := List.append_of_mem member
  have segments := segments_of_scanFrom cut
  have maximal : MaximalMarker before marker (after.flatMap Span.raw) :=
    segments.maximalMarker boundary_nil splitSpans
  have text : marker.text = embedding '?' payload := by
    rw [maximal.token.written_eq (by rw [target]; rfl), target]
    rfl
  have whole := segments.flatMap_raw
  refine ⟨before.flatMap Span.raw ++ Marker.wildcard marker.leading,
    embedding '?' payload ++ (Marker.wildcard marker.trailing ++ after.flatMap Span.raw), ?_,
    ⟨spans, earlier, later, cut, split, unopposed⟩, ⟨payload, _, target, rfl⟩,
    ⟨_, rfl, maximal.start.symm⟩⟩
  rw [← whole, splitSpans, ← text]
  simp [Span.raw, Marker.raw]

/-- An error of parsing that names a byte is about a marker that cannot be read or about an
expression without a position. Its byte is that of the colon or question mark, except for an
expression without a position that has a wildcard in front, where it is that of the wildcard. -/
theorem sign_of_parse_error {options : Options} {template : Text} {error : Error} {offset : Nat}
    (valid : options.Valid) (failed : (Query.parse options template).outcome = .error error)
    (located : error.offset? = some offset) :
    ∃ front sign rest, template = front ++ sign :: rest ∧ (sign = ':' ∨ sign = '?') ∧
      ((∃ make, error = make offset ∧ Unreadable options front (sign :: rest) make ∧
          front.byteSize = offset) ∨
        ∃ marker, error = .invalidPosition offset ∧
          Unplaced options template front (sign :: rest) marker ∧
          (marker.leading = false ∧ front.byteSize = offset ∨
            marker.leading = true ∧ front.byteSize = offset + 1)) := by
  cases cut : scan options template with
  | error scanError =>
    rw [outcome_parse_of_scan_error valid cut] at failed
    obtain rfl := Except.error.inj failed
    obtain ⟨front, rest, make, rfl, unreadable, rfl⟩ := exists_unreadable cut
    obtain ⟨sign, rest, rfl, marks⟩ := unreadable.fault.exists_sign
    have named : front.byteSize = offset := by
      cases unreadable.fault <;> exact Option.some.inj located
    rw [named]
    exact ⟨front, sign, rest, rfl, marks, .inl ⟨make, rfl, unreadable, named⟩⟩
  | ok spans =>
    obtain ⟨earlier, occurrence, later, split, unopposed, refused⟩ :=
      refused_of_parse_error cut valid failed
    cases refused with
    | conflict => cases located
    | @noPosition marker =>
      obtain rfl : marker.start = offset := Option.some.inj located
      obtain ⟨front, rest, whole, unplaced⟩ := exists_unplaced cut split unopposed
      obtain ⟨payload, behind, target, rfl⟩ := unplaced.expression
      have size := unplaced.byteSize
      refine ⟨front, '?', _, whole, .inr rfl, .inr ⟨marker, rfl, unplaced, ?_⟩⟩
      cases leading : marker.leading with
      | false =>
        rw [leading] at size
        exact .inl ⟨rfl, size⟩
      | true =>
        rw [leading] at size
        exact .inr ⟨rfl, size⟩

theorem sign_of_parse_error_unclosed_pattern :
    (Query.parse {} "x like %:#\x7ba".toList).outcome = .error (.unterminatedExpression 8) ∧
      ∃ front sign rest, "x like %:#\x7ba".toList = front ++ sign :: rest ∧
        (sign = ':' ∨ sign = '?') ∧
        ((∃ make, Error.unterminatedExpression 8 = make 8 ∧
            Unreadable {} front (sign :: rest) make ∧ front.byteSize = 8) ∨
          ∃ marker, Error.unterminatedExpression 8 = .invalidPosition 8 ∧
            Unplaced {} "x like %:#\x7ba".toList front (sign :: rest) marker ∧
            (marker.leading = false ∧ front.byteSize = 8 ∨
              marker.leading = true ∧ front.byteSize = 9)) := by
  have failed : (Query.parse {} "x like %:#\x7ba".toList).outcome =
      .error (.unterminatedExpression 8) := by decide +kernel
  exact ⟨failed, sign_of_parse_error (by decide) failed rfl⟩

/-- When the highest position is in use, the byte named for an expression behind a wildcard is that
of the wildcard. -/
theorem wildcard_of_parse_error :
    ({} : Options).Valid ∧
      (Query.parse {} "?18446744073709551615 %?#{a}".toList).outcome =
        .error (.invalidPosition 22) ∧
      ¬∃ front sign rest, "?18446744073709551615 %?#{a}".toList = front ++ sign :: rest ∧
        (sign = ':' ∨ sign = '?') ∧ Text.byteSize front = 22 := by
  refine ⟨by decide, by decide +kernel, ?_⟩
  rintro ⟨front, sign, rest, whole, marks, size⟩
  have split : "?18446744073709551615 %?#{a}".toList =
      "?18446744073709551615 ".toList ++ '%' :: "?#{a}".toList := by decide
  obtain ⟨-, behind⟩ := Text.append_inj_of_byteSize (whole.symm.trans split) size
  obtain ⟨rfl, -⟩ := List.cons.inj behind
  obtain same | same := marks <;> cases same

end QueryTemplate
