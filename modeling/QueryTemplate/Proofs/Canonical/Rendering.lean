import QueryTemplate.Proofs.Binding.Agreement

/-! # Values in the place of markers

When the query is executed, the value that was prepared for a binding takes the place of the
binding's markers. The result is what one gets by writing the values into the template itself: of
the wildcards around a marker none is lost and none comes twice.

* `render`: the pieces of a bound template, with a text of one's choice for each marker.
* `placeIdentifier`, `placePrepared`, `placeValue`: the executable query, the query with prepared
  values, and the template with plain values.
* `keepWildcards_prepare`: one marker whose binding is held with its own kind.
* `exists_bindingFor_of_mem_dress`: the binding that is held for a piece is of the marker's kind.
* `render_prepared_eq_render_value`: the two ways to put values into a query.
-/

namespace QueryTemplate

/-! ## Rendering -/

/-- The pieces one after the other: literal text as it is, and each marker as `place` has it. -/
def render (place : Marker → Binding → Except Error Text) : List Piece → Except Error Text
  | [] => .ok []
  | .literal text :: rest => (render place rest).map (text ++ ·)
  | .bound marker binding :: rest =>
    (place marker binding).bind fun here => (render place rest).map (here ++ ·)

/-- A marker as it stands in the executable query. -/
def placeIdentifier (marker : Marker) (binding : Binding) : Except Error Text :=
  .ok (keepWildcards marker binding.kind (canonicalMarker marker binding))

/-- The same, with the prepared value in place of the identifier. -/
def placePrepared (query : Query) (values : Identifier → Text) (marker : Marker)
    (binding : Binding) : Except Error Text :=
  (query.bindingFor (some binding.identifier)).map fun held =>
    keepWildcards marker binding.kind (held.prepare (values binding.identifier))

/-- A value of which nothing is a wildcard, as far as the query declares an escape character. -/
def BindingKind.guard : BindingKind → Text → Text
  | .like _ (some escape), value =>
    value.flatMap fun c => if c = '%' ∨ c = '_' ∨ c = escape then [escape, c] else [c]
  | _, value => value

/-- A marker as it stands in the template, with the value in place of its text. -/
def placeValue (query : Query) (values : Identifier → Text) (marker : Marker)
    (binding : Binding) : Except Error Text :=
  (query.bindingFor (some binding.identifier)).map fun held =>
    Marker.wildcard marker.leading ++ held.kind.guard (values binding.identifier) ++
      Marker.wildcard marker.trailing

theorem render_placeIdentifier (pieces : List Piece) :
    render placeIdentifier pieces = .ok (canonicalText pieces) := by
  induction pieces with
  | nil => rfl
  | cons piece rest inductionHypothesis =>
    cases piece with
    | literal text =>
      rw [render, inductionHypothesis]
      rfl
    | bound marker binding =>
      rw [render, inductionHypothesis]
      rfl

theorem render_congr {first second : Marker → Binding → Except Error Text} {pieces : List Piece}
    (same : ∀ marker binding, .bound marker binding ∈ pieces →
      ∃ here, first marker binding = .ok here ∧ second marker binding = .ok here) :
    ∃ text, render first pieces = .ok text ∧ render second pieces = .ok text := by
  induction pieces with
  | nil => exact ⟨[], rfl, rfl⟩
  | cons piece rest inductionHypothesis =>
    obtain ⟨later, one, two⟩ := inductionHypothesis fun marker binding member =>
      same marker binding (List.mem_cons_of_mem _ member)
    cases piece with
    | literal text =>
      refine ⟨text ++ later, ?_, ?_⟩
      · rw [render, one]
        rfl
      · rw [render, two]
        rfl
    | bound marker binding =>
      obtain ⟨here, placedOne, placedTwo⟩ := same marker binding List.mem_cons_self
      refine ⟨here ++ later, ?_, ?_⟩
      · rw [render, placedOne, one]
        rfl
      · rw [render, placedTwo, two]
        rfl

/-! ## One marker -/

theorem escapeWildcards_eq_guard (mode : LikeMode) (escape : Char) (value : Text) :
    escapeWildcards escape value = (BindingKind.like mode (some escape)).guard value := by
  simp only [escapeWildcards, BindingKind.guard, isSpecial, Bool.or_eq_true, beq_iff_eq, or_assoc]

/-- The wildcards that leave the query with a marker come back with the value, and the others stay
where they are. -/
theorem keepWildcards_prepare {marker : Marker} {held : Binding}
    (same : held.kind = marker.kind) (value : Text) :
    keepWildcards marker marker.kind (held.prepare value) =
      Marker.wildcard marker.leading ++ held.kind.guard value ++
        Marker.wildcard marker.trailing := by
  rw [Binding.prepare, same]
  unfold Marker.kind
  cases marker.context with
  | plain | inList => rfl
  | like =>
    -- The mode of the pattern is read off the wildcards, so it puts the same ones around the value.
    cases marker.escape with
    | none =>
      simp only [keepWildcards, BindingKind.isLike, if_true, LikeMode.decorate,
        LikeMode.leading_ofWildcards, LikeMode.trailing_ofWildcards, BindingKind.guard,
        Marker.wildcard]
    | some escape =>
      have guarded := escapeWildcards_eq_guard (.ofWildcards marker.leading marker.trailing) escape
        value
      simp only [keepWildcards, BindingKind.isLike, if_true, LikeMode.decorate,
        LikeMode.leading_ofWildcards, LikeMode.trailing_ofWildcards, guarded, Marker.wildcard]

/-! ## All markers -/

def Piece.span : Piece → Span
  | .literal text => .literal text
  | .bound marker _ => .marker marker

section Dress

variable {naming : Naming} {spans : List Span}
  (identified : ∀ occurrence ∈ occurrences naming (markers spans),
    occurrence.identity.isSome = true)

include identified

theorem map_span_dress :
    (dress spans ((occurrences naming (markers spans)).filterMap (·.identity))).map Piece.span =
      spans := by
  induction spans generalizing naming with
  | nil => rfl
  | cons span rest inductionHypothesis =>
    cases span with
    | literal text => simp [dress, Piece.span, inductionHypothesis identified]
    | marker marker =>
      rw [markers_marker, occurrences] at identified ⊢
      obtain ⟨identifier, visited⟩ := Option.isSome_iff_exists.1 (identified _ List.mem_cons_self)
      have later := inductionHypothesis fun occurrence member =>
        identified occurrence (List.mem_cons_of_mem _ member)
      dsimp only at visited
      simp only [List.filterMap_cons, visited, dress, List.map_cons, Piece.span, later]

theorem exists_occurrence_of_mem_dress {marker : Marker} {binding : Binding}
    (member : .bound marker binding ∈
      dress spans ((occurrences naming (markers spans)).filterMap (·.identity))) :
    ∃ identifier, ⟨marker, some identifier⟩ ∈ occurrences naming (markers spans) ∧
      binding = marker.binding identifier := by
  induction spans generalizing naming with
  | nil => cases member
  | cons span rest inductionHypothesis =>
    cases span with
    | literal text =>
      obtain same | later := List.mem_cons.1 member
      · cases same
      · exact inductionHypothesis identified later
    | marker first =>
      rw [markers_marker, occurrences] at identified member ⊢
      obtain ⟨identifier, visited⟩ := Option.isSome_iff_exists.1 (identified _ List.mem_cons_self)
      dsimp only at visited
      rw [List.filterMap_cons, visited] at member
      obtain same | later := List.mem_cons.1 member
      · cases same
        refine ⟨identifier, ?_, rfl⟩
        rw [visited]
        exact List.mem_cons_self
      · obtain ⟨other, held, same⟩ := inductionHypothesis
          (fun occurrence member => identified occurrence (List.mem_cons_of_mem _ member)) later
        exact ⟨other, List.mem_cons_of_mem _ held, same⟩

end Dress

section Held

variable {naming : Naming} {spans : List Span} {query : Query}
  (unopposed : Unopposed [] (occurrences naming (markers spans)))
  (held : query.bindings =
    firsts ((occurrences naming (markers spans)).filterMap Occurrence.binding?))
  {marker : Marker} {binding : Binding}
  (member : .bound marker binding ∈
    dress spans ((occurrences naming (markers spans)).filterMap (·.identity)))

include unopposed held member

/-- There is a binding for every piece, and as no repeat was refused, it is of the kind that the
marker itself asks for. -/
theorem exists_bindingFor_of_mem_dress :
    binding.kind = marker.kind ∧
      ∃ found, query.bindingFor (some binding.identifier) = .ok found ∧
        found.kind = marker.kind := by
  obtain ⟨identifier, occurs, rfl⟩ := exists_occurrence_of_mem_dress unopposed.isSome member
  obtain ⟨first, isFirst, sameKind⟩ := unopposed.kind_eq occurs rfl
  refine ⟨rfl, first.marker.binding identifier, ?_, sameKind⟩
  exact (bindingFor_eq_firstOf held identifier _).2 ⟨first, isFirst, rfl⟩

theorem exists_placed_of_mem_dress (values : Identifier → Text) :
    ∃ here, placePrepared query values marker binding = .ok here ∧
      placeValue query values marker binding = .ok here := by
  obtain ⟨own, found, looked, same⟩ := exists_bindingFor_of_mem_dress unopposed held member
  refine ⟨Marker.wildcard marker.leading ++ found.kind.guard (values binding.identifier) ++
    Marker.wildcard marker.trailing, ?_, ?_⟩
  · rw [placePrepared, looked, own]
    exact congrArg Except.ok (keepWildcards_prepare same _)
  · rw [placeValue, looked]
    rfl

end Held

/-- Prepared values in the executable query give the same text as plain values in the template. -/
theorem render_prepared_eq_render_value {options : Options} {template : Text} {query : Query}
    (parsed : (Query.parse options template).outcome = .ok query) (values : Identifier → Text) :
    ∃ spans pieces registry text, scan options template = .ok spans ∧
      (bindTemplate options.stem spans).outcome = .ok (pieces, registry) ∧
      pieces.map Piece.span = spans ∧
      render placeIdentifier pieces = .ok query.canonical ∧
      render (placePrepared query values) pieces = .ok text ∧
      render (placeValue query values) pieces = .ok text := by
  obtain ⟨valid, spans, cut⟩ := scan_of_parse_ok parsed
  obtain ⟨unopposed, held, written⟩ := bound_of_parse_ok cut parsed
  have whole := parsed
  rw [outcome_parse_of_scan valid cut] at whole
  obtain ⟨⟨pieces, registry⟩, bound, -⟩ := exists_ok_of_map whole
  obtain ⟨-, -, rfl⟩ := @bindSpans_ok _ [] _ _ _ bound
  obtain ⟨text, prepared, plain⟩ := render_congr fun marker binding member =>
    exists_placed_of_mem_dress unopposed held member values
  refine ⟨spans, _, registry, text, cut, bound, map_span_dress unopposed.isSome, ?_, prepared,
    plain⟩
  rw [render_placeIdentifier, written, identifiersOf]

theorem render_prepared_repeated_pattern :
    ∃ query, (Query.parse {} "like %:n escape '!' :#{e} like %:n escape '!'".toList).outcome =
        .ok query ∧
      ∃ spans pieces registry text,
        scan {} "like %:n escape '!' :#{e} like %:n escape '!'".toList = .ok spans ∧
        (bindTemplate defaultStem spans).outcome = .ok (pieces, registry) ∧
        pieces.map Piece.span = spans ∧
        render placeIdentifier pieces = .ok query.canonical ∧
        render (placePrepared query fun _ => "5%".toList) pieces = .ok text ∧
        render (placeValue query fun _ => "5%".toList) pieces = .ok text := by
  have parsed : (Query.parse {}
      "like %:n escape '!' :#{e} like %:n escape '!'".toList).outcome = .ok
        { template := "like %:n escape '!' :#{e} like %:n escape '!'".toList
          canonical := "like :n escape '!' :__synthetic__1 like :n escape '!'".toList
          bindings := [⟨.name ['n'], .like .endsWith (some '!'), none⟩,
            ⟨.name "__synthetic__1".toList, .simple, some ['e']⟩]
          constructs := false
          rootAlias := none } :=
    eq_ok_of_toOption (by decide +kernel)
  exact ⟨_, parsed, render_prepared_eq_render_value parsed _⟩

end QueryTemplate
