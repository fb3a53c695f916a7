import QueryTemplate.Proofs.Binding.Comparison
import QueryTemplate.Proofs.Template.Failure
import QueryTemplate.Proofs.Template.OtherOptions

/-! # Parsing without escape characters

Without the search for escape clauses everything is read as with it, but for the escape characters
of patterns, which are forgotten. Kinds that differ in them alone become one, so that parameters can
agree that did not, and nothing else changes.

* `Span.withoutEscape`, `BindingKind.withoutEscape`, `Query.withoutEscape` and so on: what is left
  when escape characters are forgotten.
* `readsChanged_withoutEscape`, `scan_withoutEscape`: one marker, and the whole scan.
* `occurrences_withoutEscape`, `merging_withoutEscape`: the visit of the markers.
* `canonicalText_withoutEscape`: the executable query is the same.
* `parse_withoutEscape`: parsing with and without the search.
-/

namespace QueryTemplate

/-- The same choices, except that escape characters are not looked for. -/
def Options.withoutEscape (options : Options) : Options := { options with detectEscape := false }

def Span.withoutEscape : Span → Span := Span.change (Marker.withEscape none)

def BindingKind.withoutEscape : BindingKind → BindingKind
  | .simple => .simple
  | .like mode _ => .like mode none
  | .inCollection => .inCollection

def Binding.withoutEscape (binding : Binding) : Binding :=
  { binding with kind := binding.kind.withoutEscape }

def Query.withoutEscape (query : Query) : Query :=
  { query with bindings := query.bindings.map Binding.withoutEscape }

def Error.withoutEscape : Error → Error
  | .conflictingBinding identifier existing conflicting =>
    .conflictingBinding identifier existing.withoutEscape conflicting.withoutEscape
  | error => error

def Occurrence.withoutEscape (occurrence : Occurrence) : Occurrence :=
  { occurrence with marker := occurrence.marker.withEscape none }

/-! ## The scan -/

theorem readsChanged_withoutEscape (options : Options) :
    ReadsChanged (Marker.withEscape none) options options.withoutEscape := by
  intro offset seen text
  unfold markerAt
  dsimp only
  split <;> simp [Options.withoutEscape, Marker.withEscape, Except.map]

theorem scan_withoutEscape (options : Options) (template : Text) :
    scan options.withoutEscape template =
      (scan options template).map (List.map Span.withoutEscape) :=
  scanFrom_change (readsChanged_withoutEscape options) rfl (fun _ => rfl) 0 [] template

theorem scan_error_withoutEscape {options : Options} {template : Text} {error : Error}
    (failed : scan options template = .error error) : error.withoutEscape = error := by
  obtain ⟨front, leading, rest, make, found, tail, -, -, fault, rfl⟩ :=
    reaches_of_scan_error failed
  cases fault <;> rfl

/-! ## The visit -/

theorem markers_map_withoutEscape (spans : List Span) :
    markers (spans.map Span.withoutEscape) = (markers spans).map (Marker.withEscape none) := by
  induction spans with
  | nil => rfl
  | cons span rest inductionHypothesis =>
    cases span with
    | literal text => exact inductionHypothesis
    | marker marker => exact congrArg (marker.withEscape none :: ·) inductionHypothesis

/-- Only the targets of the markers count. -/
theorem Naming.ofSpans_withoutEscape (stem : Text) (spans : List Span) :
    ofSpans stem (spans.map Span.withoutEscape) = ofSpans stem spans := by
  rw [ofSpans, ofSpans, explicitNames, explicitNames, highestPosition, highestPosition,
    markers_map_withoutEscape, List.filterMap_map, List.foldl_map]
  rfl

theorem occurrences_map_withEscape (naming : Naming) (markers : List Marker) :
    occurrences naming (markers.map (Marker.withEscape none)) =
      (occurrences naming markers).map Occurrence.withoutEscape := by
  induction markers generalizing naming with
  | nil => rfl
  | cons marker rest inductionHypothesis =>
    rw [List.map_cons, occurrences, occurrences, List.map_cons]
    exact congrArg _ (inductionHypothesis _)

theorem occurrences_withoutEscape (stem : Text) (spans : List Span) :
    occurrences (Naming.ofSpans stem (spans.map Span.withoutEscape))
        (markers (spans.map Span.withoutEscape)) =
      (occurrences (Naming.ofSpans stem spans) (markers spans)).map Occurrence.withoutEscape := by
  rw [Naming.ofSpans_withoutEscape, markers_map_withoutEscape, occurrences_map_withEscape]

theorem Marker.kind_withoutEscape (marker : Marker) :
    (marker.withEscape none).kind = marker.kind.withoutEscape := by
  unfold kind withEscape
  cases marker.context <;> rfl

theorem Occurrence.binding?_withoutEscape (occurrence : Occurrence) :
    occurrence.withoutEscape.binding? = occurrence.binding?.map Binding.withoutEscape := by
  obtain ⟨marker, identity⟩ := occurrence
  cases identity with
  | none => rfl
  | some identifier =>
    have kind := marker.kind_withoutEscape
    simp only [binding?, withoutEscape, Option.map_some, Marker.binding, Binding.withoutEscape,
      kind]
    rfl

/-- The visits go together as far as the kinds that are told apart without escape characters. -/
theorem merging_withoutEscape :
    Merging fun occurrence occurrence' => occurrence' = occurrence.withoutEscape where
  without := by
    rintro occurrence _ rfl
    rfl
  identity := by
    rintro first _ second _ rfl rfl
    rfl
  kind := by
    rintro first _ second _ rfl rfl same
    rw [Occurrence.withoutEscape, Occurrence.withoutEscape, Marker.kind_withoutEscape,
      Marker.kind_withoutEscape, same]

theorem SameCause.withoutEscape {error error' : Error}
    (cause : SameCause (fun occurrence occurrence' => occurrence' = occurrence.withoutEscape)
      error error') : error.withoutEscape = error' := by
  cases cause with
  | noPosition pair =>
    subst pair
    rfl
  | conflict one two identified identified' =>
    subst one two
    obtain rfl := Option.some.inj (identified.symm.trans identified')
    rw [Error.withoutEscape, Occurrence.withoutEscape, Occurrence.withoutEscape,
      Marker.kind_withoutEscape, Marker.kind_withoutEscape]

/-! ## The executable query -/

theorem keepWildcards_withoutEscape (marker : Marker) (kind : BindingKind) (inner : Text) :
    keepWildcards marker kind.withoutEscape inner = keepWildcards marker kind inner := by
  cases kind <;> rfl

theorem canonicalText_withoutEscape (spans : List Span) (identifiers : List Identifier) :
    canonicalText (dress (spans.map Span.withoutEscape) identifiers) =
      canonicalText (dress spans identifiers) := by
  fun_induction dress spans identifiers with
  | case1 => rfl
  | case2 text rest identifiers inductionHypothesis =>
    exact congrArg (text ++ ·) inductionHypothesis
  | case3 marker rest identifier identifiers inductionHypothesis =>
    have here : (Piece.bound (marker.withEscape none)
        ((marker.withEscape none).binding identifier)).canonical =
        (Piece.bound marker (marker.binding identifier)).canonical := by
      rw [Piece.canonical, Piece.canonical, Marker.binding, Marker.kind_withoutEscape]
      exact keepWildcards_withoutEscape marker marker.kind _
    exact congrArg₂ (· ++ ·) here inductionHypothesis
  | case4 => rfl

/-! ## Parsing -/

theorem pairs_withoutEscape (stem : Text) (spans : List Span) :
    List.Forall₂ (fun occurrence occurrence' => occurrence' = occurrence.withoutEscape)
      (occurrences (Naming.ofSpans stem spans) (markers spans))
      (occurrences (Naming.ofSpans stem (spans.map Span.withoutEscape))
        (markers (spans.map Span.withoutEscape))) := by
  rw [occurrences_withoutEscape]
  exact List.forall₂_map_right_iff.2 (List.forall₂_same.2 fun _ _ => rfl)

theorem Query.ofSpans_withoutEscape (options : Options) (template : Text) (spans : List Span) :
    ofSpans options.withoutEscape template (spans.map Span.withoutEscape) =
      (ofSpans options template spans).withoutEscape := by
  have identifiers : identifiersOf options.stem (spans.map Span.withoutEscape) =
      identifiersOf options.stem spans := by
    rw [identifiersOf, occurrences_withoutEscape, List.filterMap_map]
    rfl
  have offered : ((occurrences (Naming.ofSpans options.stem spans) (markers spans)).map
      Occurrence.withoutEscape).filterMap Occurrence.binding? =
        ((occurrences (Naming.ofSpans options.stem spans) (markers spans)).filterMap
          Occurrence.binding?).map Binding.withoutEscape := by
    rw [List.filterMap_map, List.map_filterMap]
    exact congrArg (List.filterMap · _) (funext Occurrence.binding?_withoutEscape)
  have held := @firsts_map Binding.withoutEscape (fun _ => rfl)
    ((occurrences (Naming.ofSpans options.stem spans) (markers spans)).filterMap
      Occurrence.binding?)
  rw [← offered, ← occurrences_withoutEscape] at held
  rw [ofSpans, withoutEscape, ofSpans, ← held, Options.withoutEscape, identifiers,
    canonicalText_withoutEscape]

/-- Without the search for escape clauses a template is parsed as with it, and the escape characters
are forgotten; where that fails, it fails with the search for the same reason, or before because of
kinds that are told apart. -/
theorem parse_withoutEscape {options : Options} (valid : options.Valid) (template : Text) :
    (∀ query, (Query.parse options template).outcome = .ok query →
      (Query.parse options.withoutEscape template).outcome = .ok query.withoutEscape) ∧
    ∀ error', (Query.parse options.withoutEscape template).outcome = .error error' →
      ∃ error, (Query.parse options template).outcome = .error error ∧
        (error.withoutEscape = error' ∨
          ∃ place place', FailsAt options template place error ∧
            FailsAt options.withoutEscape template place' error' ∧ place < place' ∧
            ∃ identifier existing conflicting,
              error = .conflictingBinding identifier existing conflicting) := by
  have valid' : options.withoutEscape.Valid := valid
  have both := scan_withoutEscape options template
  constructor
  · intro query parsed
    obtain ⟨-, spans, cut⟩ := scan_of_parse_ok parsed
    rw [cut] at both
    obtain ⟨unopposed, rfl⟩ := (outcome_parse_eq_ok_iff valid cut).1 parsed
    -- No occurrence is refused when fewer kinds are told apart.
    apply (outcome_parse_eq_ok_iff valid' both).2
    refine ⟨merging_withoutEscape.unopposed (pairs_withoutEscape options.stem spans) unopposed, ?_⟩
    exact (Query.ofSpans_withoutEscape options template spans).symm
  · intro error' failed
    cases cut : scan options template with
    | error error =>
      rw [cut] at both
      rw [outcome_parse_of_scan_error valid' both] at failed
      obtain rfl := Except.error.inj failed
      exact ⟨error, outcome_parse_of_scan_error valid cut, .inl (scan_error_withoutEscape cut)⟩
    | ok spans =>
      rw [cut] at both
      obtain ⟨place', fails'⟩ := (outcome_parse_eq_error_iff valid' both).1 failed
      obtain ⟨spans', cut', refused'⟩ := id fails'
      obtain rfl := Except.ok.inj (both.symm.trans cut')
      obtain ⟨place, error, refused, same⟩ :=
        merging_withoutEscape.refusedAt (pairs_withoutEscape options.stem spans) refused'
      have fails : FailsAt options template place error := ⟨spans, cut, refused⟩
      refine ⟨error, (outcome_parse_eq_error_iff valid cut).2 ⟨place, fails⟩, ?_⟩
      obtain ⟨-, cause⟩ | ⟨earlier, conflict⟩ := same
      · exact .inl cause.withoutEscape
      · exact .inr ⟨place, place', fails, fails', earlier, conflict⟩

/-- The escape character of a pattern is forgotten. Two patterns that differ in it disagree, and
without escape characters only the occurrence behind them does, which is no pattern. -/
theorem parse_withoutEscape_of_patterns :
    (Query.parse (Options.withoutEscape {}) "x like :a escape '!'".toList).outcome = .ok
      { template := "x like :a escape '!'".toList
        canonical := "x like :a escape '!'".toList
        bindings := [⟨.name ['a'], .like .equals none, none⟩]
        constructs := false
        rootAlias := none } ∧
    ∃ place place',
      FailsAt {} "x like :a escape '!' or x like :a or :a".toList place
        (.conflictingBinding (.name ['a']) (.like .equals (some '!')) (.like .equals none)) ∧
      FailsAt (Options.withoutEscape {}) "x like :a escape '!' or x like :a or :a".toList place'
        (.conflictingBinding (.name ['a']) (.like .equals none) .simple) ∧
      place < place' := by
  constructor
  · have parsed : (Query.parse {} "x like :a escape '!'".toList).outcome = .ok
        { template := "x like :a escape '!'".toList
          canonical := "x like :a escape '!'".toList
          bindings := [⟨.name ['a'], .like .equals (some '!'), none⟩]
          constructs := false
          rootAlias := none } :=
      eq_ok_of_toOption (by decide +kernel)
    exact (parse_withoutEscape (by decide) _).1 _ parsed
  · have failed : (Query.parse {} "x like :a escape '!' or x like :a or :a".toList).outcome =
        .error (.conflictingBinding (.name ['a']) (.like .equals (some '!'))
          (.like .equals none)) := by decide +kernel
    have failed' : (Query.parse (Options.withoutEscape {})
        "x like :a escape '!' or x like :a or :a".toList).outcome =
          .error (.conflictingBinding (.name ['a']) (.like .equals none) .simple) := by
      decide +kernel
    obtain ⟨error, again, same | ⟨place, place', fails, fails', earlier, -⟩⟩ :=
      (parse_withoutEscape (by decide) _).2 _ failed'
    · obtain rfl := Except.error.inj (failed.symm.trans again)
      cases same
    · obtain rfl := Except.error.inj (failed.symm.trans again)
      exact ⟨place, place', fails, fails', earlier⟩

end QueryTemplate
