import QueryTemplate.Proofs.Binding.Comparison
import QueryTemplate.Proofs.Canonical.Place
import QueryTemplate.Proofs.Template.EscapeClause

/-! # The executable query as a template

Where blanks or punctuation stand behind the markers that change, the executable query is a template
for itself: its markers are found in the same places, and parsing it changes nothing any more.

* `Spaced`: what stands behind the markers that change.
* `Marker.settled`, `Settled`: the markers and spans of the executable query.
* `Segments.exists_settled`: the scan of the executable query, next to that of the template.
* `Binding.settled`, `Settled.forall₂`: the bindings that the executable query asks for.
* `parse_canonical`: parsing the executable query.
-/

namespace QueryTemplate

/-! ## Spaced markers -/

/-- Each expression, and each pattern with a trailing wildcard, is directly followed by the end of
the template or by a character that is neither a word character nor `%`. -/
def Spaced : List Span → Prop
  | [] => True
  | .literal _ :: rest => Spaced rest
  | .marker marker :: rest =>
    (marker.target.isExpression = true ∨ (marker.context = .like ∧ marker.trailing = true) →
      (rest.flatMap Span.raw).head?.any (fun c => isWordChar c || c == '%') = false) ∧
    Spaced rest

instance Spaced.decidable : (spans : List Span) → Decidable (Spaced spans)
  | [] => .isTrue trivial
  | .literal _ :: rest => Spaced.decidable rest
  | .marker marker :: rest =>
    have : Decidable (Spaced rest) := Spaced.decidable rest
    inferInstanceAs (Decidable ((marker.target.isExpression = true ∨
        (marker.context = .like ∧ marker.trailing = true) →
      (rest.flatMap Span.raw).head?.any (fun c => isWordChar c || c == '%') = false) ∧
      Spaced rest))

theorem spaced_literalSpan (seen : Text) (spans : List Span) :
    Spaced (literalSpan seen ++ spans) ↔ Spaced spans := by
  cases seen with
  | nil => rfl
  | cons c seen => rfl

/-! ## Markers of the executable query -/

/-- The marker in the place of another one that is bound to the identifier. -/
def Marker.settled (marker : Marker) (identifier : Identifier) (start : Nat) : Marker where
  start := start
  text := canonicalMarker marker (marker.binding identifier)
  target := identifier.target
  leading := marker.keptLeading
  trailing := marker.keptTrailing
  context := marker.context
  escape := marker.escape

inductive Settled : List Span → List Identifier → List Span → Prop where
  | nil : Settled [] [] []
  | literal {text : Text} {spans again : List Span} {identifiers : List Identifier}
      (behind : Settled spans identifiers again) :
      Settled (.literal text :: spans) identifiers (.literal text :: again)
  | marker {marker : Marker} {identifier : Identifier} {start : Nat} {spans again : List Span}
      {identifiers : List Identifier} (behind : Settled spans identifiers again) :
      Settled (.marker marker :: spans) (identifier :: identifiers)
        (.marker (marker.settled identifier start) :: again)

theorem Settled.append_literalSpan {spans again : List Span} {identifiers : List Identifier}
    (behind : Settled spans identifiers again) (seen : Text) :
    Settled (literalSpan seen ++ spans) identifiers (literalSpan seen ++ again) := by
  cases seen with
  | nil => exact behind
  | cons c seen => exact .literal behind

theorem Marker.isLike_settled (marker : Marker) (identifier : Identifier) (start : Nat) :
    (marker.settled identifier start).kind.isLike = marker.kind.isLike := by
  rw [isLike_kind, isLike_kind]
  rfl

theorem Marker.placed_settled (marker : Marker) (identifier : Identifier) (start : Nat) :
    (marker.settled identifier start).placed identifier = marker.placed identifier := by
  have text : canonicalMarker (marker.settled identifier start)
      ((marker.settled identifier start).binding identifier) =
        canonicalMarker marker (marker.binding identifier) := by
    have explicit : (marker.settled identifier start).target.isExpression = false :=
      identifier.isExpression_target
    rw [canonicalMarker, explicit]
    rfl
  rw [placed_eq, placed_eq, text]
  rw [keptLeading, keptTrailing]
  rw [isLike_settled]
  cases like : marker.kind.isLike <;> simp [settled, keptLeading, keptTrailing, like]

theorem Settled.canonicalText_eq {spans again : List Span} {identifiers : List Identifier}
    (settled : Settled spans identifiers again) :
    canonicalText (dress again identifiers) = canonicalText (dress spans identifiers) := by
  induction settled with
  | nil => rfl
  | @literal text spans again identifiers _ inductionHypothesis =>
    show text ++ canonicalText (dress again identifiers) = _
    rw [inductionHypothesis]
    rfl
  | marker _ inductionHypothesis =>
    rw [canonicalText_dress_marker, canonicalText_dress_marker, Marker.placed_settled,
      inductionHypothesis]

/-! ## The scan of the executable query -/

section Place

variable {options : Options} {offset : Nat} {seen text rest after tail : Text}
  {marker : Marker} {identifier : Identifier}

theorem isInside_of_spaced {c : Char} {target : Target}
    (spaced : (isWordChar c || c == '%') = false) : target.isInside c = false := by
  have outside : isWordChar c = false := (Bool.or_eq_false_iff.1 spaced).1
  rw [Target.isInside]
  split
  · exact outside
  · refine Bool.eq_false_iff.2 fun digit => ?_
    rw [isWordChar_of_isDigit digit] at outside
    cases outside

/-- A marker that ends anew is one of those that spaced templates speak of. -/
theorem Marker.changes_of_endsAnew (anew : marker.endsAnew = true) :
    marker.target.isExpression = true ∨ (marker.context = .like ∧ marker.trailing = true) := by
  rw [endsAnew] at anew
  rw [Bool.and_eq_true, Bool.or_eq_true] at anew
  obtain ⟨dropped, expression | trailing⟩ := anew
  · exact .inl expression
  · right
    refine ⟨?_, trailing⟩
    have like : marker.kind.isLike = true := by
      simpa [keptTrailing, trailing] using dropped
    rw [isLike_kind, beq_iff_eq] at like
    exact like

theorem Taken.head?_tail (taken : Taken options offset seen text marker rest after)
    (head : tail.head? = after.head?)
    (spaced : marker.endsAnew = true → after.head?.any (fun c => isWordChar c || c == '%') = false) :
    ((Marker.wildcard marker.keptTrailing ++ tail).head? == some '%') = marker.keptTrailing := by
  cases kept : marker.keptTrailing with
  | true => rfl
  | false =>
    simp only [Marker.wildcard, Bool.false_eq_true, if_false, List.nil_append, head]
    cases anew : marker.endsAnew with
    | true =>
      have outside := spaced anew
      cases next : after.head? with
      | none => rfl
      | some c =>
        rw [next] at outside
        have other : (c == '%') = false := (Bool.or_eq_false_iff.1 outside).2
        simpa using other
    | false =>
      -- Behind an explicit marker without wildcard stands what stood there before.
      have bare : marker.trailing = false := by
        simp only [Marker.endsAnew, kept, Bool.not_false, Bool.true_and] at anew
        exact (Bool.or_eq_false_iff.1 anew).2
      have same : after = rest := by
        rw [taken.after, bare]
        rfl
      rw [same, ← taken.trailing, bare]

theorem Taken.markerAt_placed (taken : Taken options offset seen text marker rest after)
    (suits : Suits marker.target identifier) (head : tail.head? = after.head?)
    (clause : escapeClause? tail = escapeClause? after)
    (spaced : marker.endsAnew = true → after.head?.any (fun c => isWordChar c || c == '%') = false)
    (start : Nat) :
    markerAt options start seen (marker.placed identifier ++ tail) =
      .ok (some (marker.settled identifier start, tail)) := by
  have spells := taken.spells suits
  have stops := (taken.stops_iff suits head).2 fun anew => by
    have outside := spaced anew
    cases next : after.head? with
    | none => rfl
    | some c =>
      rw [next] at outside
      exact isInside_of_spaced outside
  have reading := taken.readingAt_placed suits tail
  rw [spells.readTarget_eq (taken.noCast suits) stops] at reading
  have trailing := taken.head?_tail head spaced
  have behind : dropWildcard marker.keptTrailing (Marker.wildcard marker.keptTrailing ++ tail) =
      tail := by
    cases marker.keptTrailing <;> rfl
  have leading : ((marker.placed identifier ++ tail).head? == some '%') = marker.keptLeading := by
    rw [List.head?_append, Marker.head?_placed spells]
    cases marker.keptLeading with
    | true => rfl
    | false => cases identifier <;> rfl
  rw [markerAt_of_found reading, trailing, behind, leading, clause, ← taken.escape,
    ← taken.context]
  rfl

end Place

theorem Segments.escapeClause?_canonicalText {options : Options} {offset : Nat} {text : Text}
    {spans : List Span} (segments : Segments options offset text spans)
    {identifiers : List Identifier}
    (suits : List.Forall₂ Suits ((markers spans).map (·.target)) identifiers) :
    escapeClause? (canonicalText (dress spans identifiers)) = escapeClause? text := by
  cases segments with
  | last unmarked => rw [canonicalText_dress_last]
  | @marker _ literal text after marker spans unmarked taken behind =>
    rw [markers_literalSpan, markers_marker, List.map_cons] at suits
    obtain ⟨identifier, later, suitsFirst, -, rfl⟩ := List.forall₂_cons_left_iff.1 suits
    obtain ⟨rest, place⟩ := taken_of_markerAt taken
    obtain ⟨c, text', rfl, mark⟩ := exists_isMark_of_readingAt (by rw [place.found]; simp)
    rw [canonicalText_dress_literalSpan, canonicalText_dress_marker]
    exact unmarked.escapeClause?_eq (markHead_cons.2 mark)
      (Marker.markHead_placed (place.spells suitsFirst) _) (by simp)

theorem Segments.exists_settled {options : Options} {offset : Nat} {text : Text}
    {spans : List Span} (segments : Segments options offset text spans)
    {identifiers : List Identifier}
    (suits : List.Forall₂ Suits ((markers spans).map (·.target)) identifiers)
    (spaced : Spaced spans) (start : Nat) :
    ∃ again, scanFrom options start [] (canonicalText (dress spans identifiers)) = .ok again ∧
      Settled spans identifiers again := by
  induction segments generalizing identifiers start with
  | @last offset literal unmarked =>
    rw [markers_last, List.map_nil, List.forall₂_nil_left_iff] at suits
    subst suits
    refine ⟨literalSpan literal.reverse, ?_, ?_⟩
    · rw [canonicalText_dress_last]
      exact (Segments.last unmarked : Segments options start literal _).scanFrom_eq
    · have settled := Settled.nil.append_literalSpan literal.reverse
      rw [List.append_nil] at settled
      exact settled
  | @marker offset literal text after marker spans unmarked taken behind inductionHypothesis =>
    rw [markers_literalSpan, markers_marker, List.map_cons] at suits
    obtain ⟨identifier, later, suitsFirst, suitsLater, rfl⟩ := List.forall₂_cons_left_iff.1 suits
    rw [spaced_literalSpan, Spaced, behind.flatMap_raw] at spaced
    obtain ⟨spacedFirst, spacedLater⟩ := spaced
    obtain ⟨rest, place⟩ := taken_of_markerAt taken
    have found := place.markerAt_placed suitsFirst (behind.head?_canonicalText suitsLater)
      (behind.escapeClause?_canonicalText suitsLater)
      (fun anew => spacedFirst (Marker.changes_of_endsAnew anew)) (start + literal.byteSize)
    obtain ⟨again, scanned, settled⟩ := inductionHypothesis suitsLater spacedLater
      (marker.settled identifier (start + literal.byteSize)).stop
    refine ⟨literalSpan literal.reverse ++
      .marker (marker.settled identifier (start + literal.byteSize)) :: again, ?_,
      settled.marker.append_literalSpan literal.reverse⟩
    -- Literal text up to the place, the marker in it, and the rest by induction.
    have clear : splitOpaque? options.skipComments
        (marker.placed identifier ++ canonicalText (dress spans later)) = none := by
      obtain ⟨behindPlace, placed⟩ := taken_of_markerAt found
      exact splitOpaque?_eq_none_of_readingAt (by rw [placed.found]; simp)
    rw [canonicalText_dress_literalSpan, canonicalText_dress_marker,
      (unmarked.placed place suitsFirst _).scanFrom_eq rfl, List.append_nil,
      scanFrom_of_marker clear found, scanned]
    rfl

/-! ## The bindings of the executable query -/

def BindingKind.settled : BindingKind → BindingKind
  | .simple => .simple
  | .like _ escape => .like .equals escape
  | .inCollection => .inCollection

/-- The binding that the executable query asks for: no expression, and no wildcards. -/
def Binding.settled (binding : Binding) : Binding where
  identifier := binding.identifier
  kind := binding.kind.settled
  expression := none

theorem Marker.kind_settled (marker : Marker) (identifier : Identifier) (start : Nat) :
    (marker.settled identifier start).kind = marker.kind.settled := by
  unfold kind settled keptLeading keptTrailing
  rw [isLike_kind]
  cases marker.context <;> rfl

theorem Marker.binding_settled (marker : Marker) (identifier : Identifier) (start : Nat) :
    (marker.settled identifier start).binding identifier =
      (marker.binding identifier).settled := by
  have explicit : (marker.settled identifier start).target.expression? = none := by
    cases identifier <;> rfl
  simp only [binding, kind_settled, explicit]
  rfl

/-- An occurrence in the template and the one in its place. -/
structure SettledOccurrence (first second : Occurrence) : Prop where
  identity : second.identity = first.identity
  kind : second.marker.kind = first.marker.kind.settled
  binding : second.binding? = first.binding?.map Binding.settled

/-- Kinds that differ in their wildcards alone become one. -/
theorem merging_settled : Merging SettledOccurrence where
  without := by
    intro first second same
    rw [same.identity]
  identity := by
    intro first first' second second' one two
    rw [one.identity, two.identity]
  kind := by
    intro first first' second second' one two same
    rw [one.kind, two.kind, same]

theorem visit_target (naming : Naming) (identifier : Identifier) :
    naming.visit identifier.target = (some identifier, naming) := by
  cases identifier <;> rfl

theorem Settled.forall₂ {spans again : List Span} {identifiers : List Identifier}
    (settled : Settled spans identifiers again) {naming : Naming} (namingAgain : Naming)
    (bound : (occurrences naming (markers spans)).map (·.identity) = identifiers.map some) :
    List.Forall₂ SettledOccurrence (occurrences naming (markers spans))
      (occurrences namingAgain (markers again)) := by
  induction settled generalizing naming with
  | nil => exact .nil
  | literal _ inductionHypothesis => exact inductionHypothesis bound
  | @marker marker identifier start spans again identifiers _ inductionHypothesis =>
    simp only [markers_marker, occurrences, List.map_cons, List.cons.injEq] at bound ⊢
    obtain ⟨first, later⟩ := bound
    have visited : namingAgain.visit (marker.settled identifier start).target =
        (some identifier, namingAgain) := visit_target namingAgain identifier
    rw [visited, first]
    refine .cons ⟨rfl, marker.kind_settled identifier start, ?_⟩ (inductionHypothesis later)
    simp only [Occurrence.binding?, Option.map_some, Marker.binding_settled]

section Occurrences

variable {first second : List Occurrence} (alike : List.Forall₂ SettledOccurrence first second)

include alike

theorem identities_of_forall₂ : second.map (·.identity) = first.map (·.identity) := by
  induction alike with
  | nil => rfl
  | cons same _ inductionHypothesis => rw [List.map_cons, List.map_cons, same.identity,
      inductionHypothesis]

theorem bindings_of_forall₂ :
    second.filterMap Occurrence.binding? =
      (first.filterMap Occurrence.binding?).map Binding.settled := by
  induction alike with
  | nil => rfl
  | @cons one two _ _ same _ inductionHypothesis =>
    rw [List.filterMap_cons, List.filterMap_cons, same.binding, inductionHypothesis]
    cases one.binding? <;> rfl

theorem Unopposed.of_forall₂ (unopposed : Unopposed [] first) : Unopposed [] second :=
  merging_settled.unopposed alike unopposed

end Occurrences

/-! ## Parsing the executable query -/

/-- Parsing the executable query of a spaced template succeeds and gives the executable query
again, with the same bindings but for their expressions and wildcards. -/
theorem parse_canonical {options : Options} {template : Text} {query : Query}
    {spans : List Span} (parsed : (Query.parse options template).outcome = .ok query)
    (cut : scan options template = .ok spans) (spaced : Spaced spans) :
    ∃ again, (Query.parse options query.canonical).outcome = .ok again ∧
      again.canonical = query.canonical ∧
      again.bindings = query.bindings.map Binding.settled := by
  have valid := (scan_of_parse_ok parsed).1
  obtain ⟨unopposed, held, written⟩ := bound_of_parse_ok cut parsed
  have identities := map_identity unopposed.isSome
  have suits := suits_occurrences (Naming.sound_ofSpans valid spans) unopposed.isSome
  obtain ⟨spansAgain, cutAgain, settled⟩ :=
    (segments_of_scanFrom cut).exists_settled suits spaced 0
  change scan options (canonicalText (dress spans (identifiersOf options.stem spans))) =
    .ok spansAgain at cutAgain
  rw [← written] at cutAgain
  -- Every marker is explicit now, so any naming gives the identifiers of the first pass again.
  have alike := settled.forall₂ (Naming.ofSpans options.stem spansAgain) identities
  have sameIdentifiers : identifiersOf options.stem spansAgain =
      identifiersOf options.stem spans := by
    have same := congrArg (List.filterMap id) (identities_of_forall₂ alike)
    simpa [identifiersOf, List.filterMap_map] using same
  obtain ⟨again, parsedAgain⟩ := exists_parse_ok cutAgain valid (unopposed.of_forall₂ alike)
  obtain ⟨-, heldAgain, writtenAgain⟩ := bound_of_parse_ok cutAgain parsedAgain
  refine ⟨again, parsedAgain, ?_, ?_⟩
  · rw [writtenAgain, sameIdentifiers, written]
    exact settled.canonicalText_eq
  · rw [heldAgain, held, bindings_of_forall₂ alike]
    exact @firsts_map Binding.settled (fun _ => rfl) _

theorem parse_canonical_pattern_and_expression :
    ∃ query spans, (Query.parse {} "like :n% :#{x}".toList).outcome = .ok query ∧
      scan {} "like :n% :#{x}".toList = .ok spans ∧ Spaced spans ∧
      ∃ again, (Query.parse {} query.canonical).outcome = .ok again ∧
        again.canonical = query.canonical ∧
        again.bindings = query.bindings.map Binding.settled := by
  have parsed : (Query.parse {} "like :n% :#{x}".toList).outcome = .ok
      { template := "like :n% :#{x}".toList
        canonical := "like :n :__synthetic__1".toList
        bindings := [⟨.name ['n'], .like .startsWith none, none⟩,
          ⟨.name "__synthetic__1".toList, .simple, some ['x']⟩]
        constructs := false
        rootAlias := none } :=
    eq_ok_of_toOption (by decide +kernel)
  have cut : scan {} "like :n% :#{x}".toList = .ok
      [.literal "like ".toList, .marker ⟨5, ":n".toList, .named ['n'], false, true, .like, none⟩,
        .literal " ".toList,
        .marker ⟨9, ":#{x}".toList, .namedExpression ['x'], false, false, .plain, none⟩] :=
    eq_ok_of_toOption (by decide +kernel)
  have spaced : Spaced
      [.literal "like ".toList, .marker ⟨5, ":n".toList, .named ['n'], false, true, .like, none⟩,
        .literal " ".toList,
        .marker ⟨9, ":#{x}".toList, .namedExpression ['x'], false, false, .plain, none⟩] := by
    decide
  exact ⟨_, _, parsed, cut, spaced, parse_canonical parsed cut spaced⟩

end QueryTemplate
