import QueryTemplate.Proofs.Binding.Agreement
import QueryTemplate.Proofs.Canonical.Place
import QueryTemplate.Proofs.Template.Embedding

/-! # Templates that are executable queries

The executable query is the template itself exactly when no marker is altered. The markers that are
altered cannot make up for each other: where the first of them stands, the two texts part.

* `Marker.Unaltered`: a marker that stays as it is written.
* `Taken.placed_append_ne_percent`: the executable query never gains a `%` in front.
* `Taken.unaltered_of_placed`: the step over a marker; `Segments.canonicalText_eq_iff` is the run.
* `canonical_eq_template_iff`: when parsing gives the template back.
-/

namespace QueryTemplate

/-- The marker is no expression, and no wildcard touches it if it is a pattern. -/
structure Marker.Unaltered (marker : Marker) : Prop where
  explicit : marker.target.isExpression = false
  bare : marker.context = .like → marker.leading = false ∧ marker.trailing = false

/-! ## Texts that part -/

theorem eq_cons_of_append_eq_cons {c : Char} {front first second : Text}
    (same : front ++ first = c :: (front ++ second)) : first = c :: second := by
  induction front generalizing c with
  | nil => exact same
  | cons d front inductionHypothesis =>
    obtain ⟨rfl, later⟩ := List.cons.inj same
    exact inductionHypothesis later

theorem Spells.exists_second {identifier : Identifier} {written : Text}
    (spells : Spells identifier written) :
    ∃ c tail, written = identifier.target.sigil :: c :: tail ∧ isWordChar c = true := by
  cases spells with
  | @name word nonempty inside =>
    obtain ⟨c, tail, rfl⟩ := List.exists_cons_of_ne_nil nonempty
    exact ⟨c, tail, rfl, inside c List.mem_cons_self⟩
  | @position digits number nonempty inside =>
    obtain ⟨c, tail, rfl⟩ := List.exists_cons_of_ne_nil nonempty
    exact ⟨c, tail, rfl, isWordChar_of_isDigit (inside c List.mem_cons_self)⟩

/-- A name or number differs from an expression in the second character. -/
theorem Spells.append_ne_embedding {identifier : Identifier} {written : Text}
    (spells : Spells identifier written) (tail : Text) (sigil : Char) (payload after : Text) :
    written ++ tail ≠ embedding sigil payload ++ after := by
  obtain ⟨c, inner, rfl, word⟩ := spells.exists_second
  intro same
  obtain ⟨-, second⟩ := List.cons.inj same
  obtain ⟨rfl, -⟩ := List.cons.inj second
  exact absurd word (by decide)

theorem Spells.append_head_ne_percent {identifier : Identifier} {written : Text}
    (spells : Spells identifier written) (tail : Text) : (written ++ tail).head? ≠ some '%' := by
  rw [List.head?_append, spells.head?]
  simpa using identifier.sigil_ne_percent

/-! ## One marker -/

theorem Marker.kept_of_bare {marker : Marker} {touches : Bool}
    (bare : marker.context = .like → touches = false) :
    (!marker.kind.isLike && touches) = touches := by
  rw [isLike_kind]
  cases like : marker.context == .like with
  | false => rfl
  | true => rw [bare (beq_iff_eq.1 like)]; rfl

theorem Marker.Unaltered.placed_eq {marker : Marker} (unaltered : marker.Unaltered)
    (identifier : Identifier) : marker.placed identifier = marker.raw := by
  rw [Marker.placed_eq, canonicalMarker, unaltered.explicit,
    Marker.keptLeading, Marker.kept_of_bare fun like => (unaltered.bare like).1,
    Marker.keptTrailing, Marker.kept_of_bare fun like => (unaltered.bare like).2]
  simp [Marker.raw]

section Place

variable {options : Options} {offset : Nat} {seen text rest after tail : Text}
  {marker : Marker} {identifier : Identifier}
  (taken : Taken options offset seen text marker rest after)
  (suits : Suits marker.target identifier)

include taken suits

/-- What stands in the place of a marker begins as the marker does, or without its wildcard. -/
theorem Taken.placed_append_ne_percent (tail : Text) :
    marker.placed identifier ++ tail ≠ '%' :: text := by
  intro same
  have spells := taken.spells suits
  rw [Marker.placed_eq, List.append_assoc, List.append_assoc] at same
  cases kept : marker.keptLeading with
  | false =>
    rw [kept] at same
    exact spells.append_head_ne_percent _ (congrArg List.head? same)
  | true =>
    -- The wildcard that stays has been the first character of the template.
    have leading : marker.leading = true := by
      rw [Marker.keptLeading, Bool.and_eq_true] at kept
      exact kept.2
    have percent : text.head? = some '%' := by simpa [leading] using taken.leading.symm
    rw [kept] at same
    obtain ⟨-, same⟩ := List.cons.inj same
    exact spells.append_head_ne_percent _ ((congrArg List.head? same).trans percent)

/-- Where the texts are equal, the marker is not altered, unless what follows has gained the
wildcard that the marker has lost. -/
theorem Taken.unaltered_of_placed
    (same : marker.placed identifier ++ tail = marker.raw ++ after)
    (noGain : tail ≠ '%' :: after) : marker.Unaltered := by
  have spells := taken.spells suits
  rw [Marker.placed_eq, Marker.raw] at same
  simp only [List.append_assoc] at same
  have leading : marker.context = .like → marker.leading = false := by
    intro like
    refine Bool.eq_false_iff.2 fun leading => ?_
    have kept : marker.keptLeading = false := by simp [Marker.keptLeading, isLike_kind, like]
    rw [kept, leading] at same
    exact spells.append_head_ne_percent _ (congrArg List.head? same)
  rw [Marker.keptLeading, Marker.kept_of_bare leading, List.append_cancel_left_eq] at same
  have explicit : marker.target.isExpression = false := by
    refine Bool.eq_false_iff.2 fun expression => ?_
    obtain ⟨payload, expression⟩ := Option.isSome_iff_exists.1 expression
    rw [(expression_of_readTarget taken.readTarget_eq expression).1] at same
    exact spells.append_ne_embedding _ _ _ _ same
  rw [canonicalMarker, explicit] at same
  refine ⟨explicit, fun like => ⟨leading like, Bool.eq_false_iff.2 fun trailing => ?_⟩⟩
  have kept : marker.keptTrailing = false := by simp [Marker.keptTrailing, isLike_kind, like]
  rw [kept, trailing] at same
  exact noGain (List.append_cancel_left same)

end Place

/-! ## All markers -/

section Segments

variable {options : Options} {offset : Nat} {text : Text} {spans : List Span}
  {identifiers : List Identifier} (segments : Segments options offset text spans)
  (suits : List.Forall₂ Suits ((markers spans).map (·.target)) identifiers)

include segments suits

theorem Segments.canonicalText_ne_percent :
    canonicalText (dress spans identifiers) ≠ '%' :: text := by
  cases segments with
  | @last _ literal =>
    rw [canonicalText_dress_last]
    intro same
    simpa using congrArg List.length same
  | @marker _ literal text after marker spans unmarked taken behind =>
    rw [markers_literalSpan, markers_marker, List.map_cons] at suits
    obtain ⟨identifier, later, suitsFirst, -, rfl⟩ := List.forall₂_cons_left_iff.1 suits
    obtain ⟨rest, place⟩ := taken_of_markerAt taken
    rw [canonicalText_dress_literalSpan, canonicalText_dress_marker]
    intro same
    exact place.placed_append_ne_percent suitsFirst _ (eq_cons_of_append_eq_cons same)

theorem Segments.canonicalText_eq_iff :
    canonicalText (dress spans identifiers) = text ↔
      ∀ marker ∈ markers spans, marker.Unaltered := by
  induction segments generalizing identifiers with
  | last => simp [canonicalText_dress_last, markers_last]
  | @marker offset literal text after marker spans unmarked taken behind inductionHypothesis =>
    rw [markers_literalSpan, markers_marker, List.map_cons] at suits
    obtain ⟨identifier, later, suitsFirst, suitsLater, rfl⟩ := List.forall₂_cons_left_iff.1 suits
    obtain ⟨rest, place⟩ := taken_of_markerAt taken
    rw [canonicalText_dress_literalSpan, canonicalText_dress_marker, List.append_cancel_left_eq,
      markers_literalSpan, markers_marker, List.forall_mem_cons, ← inductionHypothesis suitsLater,
      ← (markerAt_split taken).2]
    constructor
    · intro same
      have first := place.unaltered_of_placed suitsFirst same
        (behind.canonicalText_ne_percent suitsLater)
      rw [first.placed_eq, List.append_cancel_left_eq] at same
      exact ⟨first, same⟩
    · rintro ⟨first, same⟩
      rw [first.placed_eq, same]

end Segments

/-! ## Parsing -/

theorem template_of_parse_ok {options : Options} {template : Text} {query : Query}
    (parsed : (Query.parse options template).outcome = .ok query) : query.template = template := by
  obtain ⟨valid, spans, cut⟩ := scan_of_parse_ok parsed
  rw [outcome_parse_of_scan valid cut] at parsed
  obtain ⟨_, -, rfl⟩ := exists_ok_of_map parsed
  rfl

/-- A template is parsed to itself exactly when it has no expression and no pattern with a
wildcard. -/
theorem canonical_eq_template_iff {options : Options} {template : Text} {query : Query}
    (parsed : (Query.parse options template).outcome = .ok query) :
    ∃ spans, scan options template = .ok spans ∧
      (query.canonical = query.template ↔ ∀ marker ∈ markers spans, marker.Unaltered) := by
  obtain ⟨valid, spans, cut⟩ := scan_of_parse_ok parsed
  obtain ⟨unopposed, -, written⟩ := bound_of_parse_ok cut parsed
  have suits := suits_occurrences (Naming.sound_ofSpans valid spans) unopposed.isSome
  refine ⟨spans, cut, ?_⟩
  rw [written, template_of_parse_ok parsed]
  exact (segments_of_scanFrom cut).canonicalText_eq_iff suits

/-- The executable query has the length of the template here: it has lost a wildcard, and its name
is one character longer than the expression. -/
theorem canonical_eq_template_iff_same_length :
    ∃ query, (Query.parse {} "like :n% :#{limit + 10}".toList).outcome = .ok query ∧
      query.canonical.length = query.template.length ∧
      ∃ spans, scan {} "like :n% :#{limit + 10}".toList = .ok spans ∧
        (query.canonical = query.template ↔ ∀ marker ∈ markers spans, marker.Unaltered) := by
  have parsed : (Query.parse {} "like :n% :#{limit + 10}".toList).outcome = .ok
      { template := "like :n% :#{limit + 10}".toList
        canonical := "like :n :__synthetic__1".toList
        bindings := [⟨.name ['n'], .like .startsWith none, none⟩,
          ⟨.name "__synthetic__1".toList, .simple, some "limit + 10".toList⟩]
        constructs := false
        rootAlias := none } :=
    eq_ok_of_toOption (by decide +kernel)
  exact ⟨_, parsed, by decide, canonical_eq_template_iff parsed⟩

end QueryTemplate
