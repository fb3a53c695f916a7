import QueryTemplate.Proofs.Binding.Comparison
import QueryTemplate.Proofs.Binding.Numbering
import QueryTemplate.Proofs.Template.OtherOptions

/-! # Parsing with another stem

The stem of minted names is a matter of names only. Two stems need not go with the same numbers,
since a written name can be in the way of one and not of the other; but both give one name to each
expression and no written name to any, so that parameters are told apart in the same way.

* `Identifier.Renamed`, `Binding.Renamed`, `Piece.Renamed`, `Error.Renamed`: what may differ.
* `identifierIn?_renamed`: the identifiers of one target.
* `SameMarker`, `merging_sameMarker`: the visits of the markers.
* `parse_renamed`: parsing with the two stems.
-/

namespace QueryTemplate

/-! ## What may differ -/

/-- The target has these identifiers with the two stems. A name that is minted for an expression has
the stem, and a number of its own; every other identifier is the same. -/
inductive Identifier.Renamed (stem stem' : Text) : Target → Identifier → Identifier → Prop where
  | explicit (identifier : Identifier) : Renamed stem stem' identifier.target identifier identifier
  | placed (expression : Text) (position : Nat) :
    Renamed stem stem' (.positionalExpression expression) (.position position) (.position position)
  | minted (expression : Text) (number number' : Nat) :
    Renamed stem stem' (.namedExpression expression) (.name (numberedName stem number))
      (.name (numberedName stem' number'))

/-- The value is computed by an expression and supplied under a name. -/
def Binding.isNamedExpression (binding : Binding) : Bool :=
  binding.isExpression && binding.identifier.name?.isSome

structure Binding.Renamed (stem stem' : Text) (binding binding' : Binding) : Prop where
  kind : binding.kind = binding'.kind
  expression : binding.expression = binding'.expression
  same : binding.isNamedExpression = false → binding.identifier = binding'.identifier
  minted : binding.isNamedExpression = true → ∃ number number',
    binding.identifier = .name (numberedName stem number) ∧
      binding'.identifier = .name (numberedName stem' number')

def Span.namedExpression? : Span → Option Text
  | .literal _ => none
  | .marker found => found.target.namedExpression?

structure Piece.Renamed (piece piece' : Piece) : Prop where
  span : piece.span = piece'.span
  canonical : piece.span.namedExpression? = none → piece.canonical = piece'.canonical

inductive Error.Renamed (stem stem' : Text) : Error → Error → Prop where
  | same (error : Error) : Renamed stem stem' error error
  | conflict {target : Target} {identifier identifier' : Identifier}
    (existing conflicting : BindingKind)
    (renamed : identifier.Renamed stem stem' target identifier') :
    Renamed stem stem' (.conflictingBinding identifier existing conflicting)
      (.conflictingBinding identifier' existing conflicting)

/-! ## The visits -/

section Visits

variable {stem stem' : Text} {spans : List Span}

theorem identifierIn?_renamed (targets : List Target) (target : Target) :
    Option.Rel (Identifier.Renamed stem stem' target)
      (identifierIn? stem spans targets target) (identifierIn? stem' spans targets target) := by
  cases target with
  | named name => exact .some (.explicit (.name name))
  | positional position => exact .some (.explicit (.position position))
  | namedExpression expression => exact .some (.minted expression _ _)
  | positionalExpression expression =>
    rw [identifierIn?, identifierIn?]
    cases positionIn? spans (targets.filterMap Target.positionalExpression?) expression with
    | none => exact .none
    | some position => exact .some (.placed expression position)

/-- Occurrences of one marker in the visits with the two stems. -/
structure SameMarker (stem stem' : Text) (spans : List Span)
    (occurrence occurrence' : Occurrence) : Prop where
  marker : occurrence.marker = occurrence'.marker
  visited : occurrence ∈ occurrences (Naming.ofSpans stem spans) (markers spans)
  visited' : occurrence' ∈ occurrences (Naming.ofSpans stem' spans) (markers spans)

theorem eq_none_iff_of_rel {α β : Type} {related : α → β → Prop} {first : Option α}
    {second : Option β} (pair : Option.Rel related first second) :
    first = none ↔ second = none := by
  cases pair <;> simp

variable {occurrence occurrence' : Occurrence}

theorem SameMarker.renamed (pair : SameMarker stem stem' spans occurrence occurrence') :
    Option.Rel (Identifier.Renamed stem stem' occurrence.marker.target) occurrence.identity
      occurrence'.identity := by
  rw [identity_of_mem pair.visited, identity_of_mem pair.visited', ← pair.marker]
  exact identifierIn?_renamed _ _

theorem identity_eq_iff {first second : Occurrence}
    (visitedFirst : first ∈ occurrences (Naming.ofSpans stem spans) (markers spans))
    (visitedSecond : second ∈ occurrences (Naming.ofSpans stem spans) (markers spans)) :
    first.identity = second.identity ↔
      first.marker.target = second.marker.target ∨
        first.identity = none ∧ second.identity = none := by
  obtain ⟨marker, identity⟩ := first
  obtain ⟨marker', identity'⟩ := second
  constructor
  · rintro (rfl : identity = identity')
    -- Markers can also be equal in that there is no position for either.
    cases identity with
    | none => exact .inr ⟨rfl, rfl⟩
    | some identifier => exact .inl ((identifier_eq_iff visitedFirst visitedSecond).1 rfl)
  · rintro (same | ⟨none, none'⟩)
    · rw [identity_of_mem visitedFirst, identity_of_mem visitedSecond, same]
    · exact none.trans none'.symm

theorem SameMarker.without (pair : SameMarker stem stem' spans occurrence occurrence') :
    occurrence.identity = none ↔ occurrence'.identity = none :=
  eq_none_iff_of_rel pair.renamed

theorem merging_sameMarker : Merging (SameMarker stem stem' spans) where
  without := SameMarker.without
  identity := by
    intro first first' second second' one two
    rw [identity_eq_iff one.visited two.visited, identity_eq_iff one.visited' two.visited',
      one.marker, two.marker, one.without, two.without]
  kind := by
    intro first first' second second' one two same
    rw [← one.marker, ← two.marker, same]

theorem forall₂_of_map_eq {α β γ : Type} {f : α → γ} {g : β → γ} {first : List α}
    {second : List β} (same : first.map f = second.map g) :
    List.Forall₂ (fun one two => f one = g two ∧ one ∈ first ∧ two ∈ second) first second := by
  rw [← List.forall₂_eq_eq_eq, List.forall₂_map_left_iff, List.forall₂_map_right_iff,
    List.forall₂_iff_zip] at same
  exact List.forall₂_iff_zip.2 ⟨same.1, fun member => ⟨same.2 member, List.of_mem_zip member⟩⟩

theorem pairs_sameMarker (stem stem' : Text) (spans : List Span) :
    List.Forall₂ (SameMarker stem stem' spans)
      (occurrences (Naming.ofSpans stem spans) (markers spans))
      (occurrences (Naming.ofSpans stem' spans) (markers spans)) := by
  have same (stem : Text) := map_marker_occurrences (Naming.ofSpans stem spans) (markers spans)
  have pairs := forall₂_of_map_eq ((same stem).trans (same stem').symm)
  exact pairs.imp fun _ _ ⟨marker, visited, visited'⟩ => ⟨marker, visited, visited'⟩

end Visits

/-! ## What comes of the visits -/

section Outcome

variable {stem stem' : Text} {spans : List Span}

theorem Binding.Renamed.of_identifier {marker : Marker} {identifier identifier' : Identifier}
    (renamed : identifier.Renamed stem stem' marker.target identifier') :
    (marker.binding identifier).Renamed stem stem' (marker.binding identifier') := by
  have named (identifier : Identifier) : (marker.binding identifier).isNamedExpression =
      (marker.target.expression?.isSome && identifier.name?.isSome) := rfl
  refine ⟨rfl, rfl, fun other => ?_, fun isNamed => ?_⟩
  · rw [named] at other
    generalize marker.target = target at renamed other
    cases renamed with
    | explicit | placed => rfl
    | minted => cases other
  · rw [named] at isNamed
    generalize marker.target = target at renamed isNamed
    cases renamed with
    | explicit => cases identifier <;> cases isNamed
    | placed => cases isNamed
    | minted expression number number' => exact ⟨number, number', rfl, rfl⟩

theorem Binding.Renamed.of_offered {binding binding' : Binding}
    (offered : Offered (SameMarker stem stem' spans) binding binding') :
    binding.Renamed stem stem' binding' := by
  obtain ⟨⟨marker, identity⟩, ⟨marker', identity'⟩, pair, offered, offered'⟩ := offered
  obtain rfl : marker = marker' := pair.marker
  obtain ⟨identifier, rfl, rfl⟩ := Option.map_eq_some_iff.1 offered
  obtain ⟨identifier', rfl, rfl⟩ := Option.map_eq_some_iff.1 offered'
  cases pair.renamed with
  | some renamed => exact Binding.Renamed.of_identifier renamed

theorem Error.Renamed.of_sameCause {error error' : Error}
    (cause : SameCause (SameMarker stem stem' spans) error error') :
    error.Renamed stem stem' error' := by
  cases cause with
  | noPosition pair =>
    rw [pair.marker]
    exact .same _
  | conflict one two identified identified' =>
    have renamed := two.renamed
    rw [identified, identified'] at renamed
    rw [one.marker, two.marker]
    cases renamed with
    | some renamed => exact .conflict _ _ renamed

theorem Piece.Renamed.of_identifier {marker : Marker} {identifier identifier' : Identifier}
    (renamed : identifier.Renamed stem stem' marker.target identifier') :
    Piece.Renamed (.bound marker (marker.binding identifier))
      (.bound marker (marker.binding identifier')) where
  span := rfl
  canonical := by
    intro other
    change marker.target.namedExpression? = none at other
    rw [Piece.canonical, Piece.canonical, canonicalMarker, canonicalMarker]
    generalize marker.target = target at renamed other
    cases renamed with
    | explicit | placed => rfl
    | minted => cases other

theorem pieces_renamed
    (unopposed : Unopposed [] (occurrences (Naming.ofSpans stem spans) (markers spans)))
    (unopposed' : Unopposed [] (occurrences (Naming.ofSpans stem' spans) (markers spans))) :
    List.Forall₂ Piece.Renamed (dress spans (identifiersOf stem spans))
      (dress spans (identifiersOf stem' spans)) := by
  have same := map_span_dress unopposed.isSome
  have same' := map_span_dress unopposed'.isSome
  refine (forall₂_of_map_eq (same.trans same'.symm)).imp ?_
  rintro piece piece' ⟨span, member, member'⟩
  -- Pieces about one span are both literal, or both come of one marker.
  cases piece with
  | literal text =>
    cases piece' with
    | literal => exact ⟨span, fun _ => Span.literal.inj span⟩
    | bound => cases span
  | bound marker binding =>
    cases piece' with
    | literal => cases span
    | bound marker' binding' =>
      obtain rfl : marker = marker' := Span.marker.inj span
      obtain ⟨identifier, occurs, rfl⟩ := exists_occurrence_of_mem_dress unopposed.isSome member
      obtain ⟨identifier', occurs', rfl⟩ :=
        exists_occurrence_of_mem_dress unopposed'.isSome member'
      have pair : SameMarker stem stem' spans ⟨marker, some identifier⟩
        ⟨marker, some identifier'⟩ := ⟨rfl, occurs, occurs'⟩
      cases pair.renamed with
      | some renamed => exact Piece.Renamed.of_identifier renamed

end Outcome

/-! ## Parsing -/

/-- The template is parsed to these queries with the stem of the options and with the other one. -/
structure Query.Renamed (options : Options) (stem' template : Text) (query query' : Query) :
    Prop where
  constructs : query.constructs = query'.constructs
  rootAlias : query.rootAlias = query'.rootAlias
  bindings : List.Forall₂ (Binding.Renamed options.stem stem') query.bindings query'.bindings
  canonical : ∃ spans pieces pieces' registry registry', scan options template = .ok spans ∧
    (bindTemplate options.stem spans).outcome = .ok (pieces, registry) ∧
    (bindTemplate stem' spans).outcome = .ok (pieces', registry') ∧
    query.canonical = canonicalText pieces ∧ query'.canonical = canonicalText pieces' ∧
    pieces.map Piece.span = spans ∧ List.Forall₂ Piece.Renamed pieces pieces'

/-- With another stem a template is parsed to the same query, except for the names of named
expressions, or it fails for the same reason. -/
theorem parse_renamed {options : Options} {stem' : Text} (valid : options.Valid)
    (valid' : Options.Valid { options with stem := stem' }) (template : Text) :
    (∃ query query', (Query.parse options template).outcome = .ok query ∧
      (Query.parse { options with stem := stem' } template).outcome = .ok query' ∧
      query.Renamed options stem' template query') ∨
    ∃ error error', (Query.parse options template).outcome = .error error ∧
      (Query.parse { options with stem := stem' } template).outcome = .error error' ∧
      error.Renamed options.stem stem' error' := by
  have sameScan := scan_stem options stem' template
  cases cut : scan options template with
  | error error =>
    rw [cut] at sameScan
    exact .inr ⟨error, error, outcome_parse_of_scan_error valid cut,
      outcome_parse_of_scan_error valid' sameScan, .same error⟩
  | ok spans =>
    rw [cut] at sameScan
    have pairs := pairs_sameMarker options.stem stem' spans
    cases outcome : (Query.parse options template).outcome with
    | ok query =>
      have unopposed := (bound_of_parse_ok cut outcome).1
      have unopposed' := merging_sameMarker.unopposed pairs unopposed
      obtain ⟨query', outcome'⟩ := exists_parse_ok sameScan valid' unopposed'
      obtain ⟨registry, bound, rfl⟩ := outcome_bindTemplate_of_parse_ok valid cut outcome
      obtain ⟨registry', bound', rfl⟩ := outcome_bindTemplate_of_parse_ok valid' sameScan outcome'
      refine .inl ⟨_, _, rfl, outcome', rfl, rfl, ?_, ?_⟩
      · exact (merging_sameMarker.firsts_rel pairs).imp fun _ _ => Binding.Renamed.of_offered
      · exact ⟨spans, _, _, registry, registry', cut, bound, bound', rfl, rfl,
          map_span_dress unopposed.isSome, pieces_renamed unopposed unopposed'⟩
    | error error =>
      obtain ⟨place, spans', cut', refused⟩ := (outcome_parse_eq_error_iff valid cut).1 outcome
      obtain rfl := Except.ok.inj (cut.symm.trans cut')
      -- Both visits tell the same parameters and kinds apart, so they end at one place.
      have either := merging_sameMarker.flip fun pair : SameMarker options.stem stem' spans _ _ =>
        congrArg Marker.kind pair.marker
      obtain ⟨error', refused', cause⟩ := merging_sameMarker.refusedAt_of_flip either pairs refused
      exact .inr ⟨error, error', rfl,
        (outcome_parse_eq_error_iff valid' sameScan).2 ⟨place, spans, sameScan, refused'⟩,
        .of_sameCause cause⟩

/-- A written name takes up the first number with one of the stems only. -/
theorem parse_renamed_past_written_name :
    ∃ query query', (Query.parse { stem := ['s'] } ":s1 :#{a} ?#{b}".toList).outcome = .ok query ∧
      (Query.parse { stem := ['t'] } ":s1 :#{a} ?#{b}".toList).outcome = .ok query' ∧
      query.bindings.map (·.identifier) = [.name "s1".toList, .name "s2".toList, .position 1] ∧
      query'.bindings.map (·.identifier) = [.name "s1".toList, .name "t1".toList, .position 1] ∧
      query.Renamed { stem := ['s'] } ['t'] ":s1 :#{a} ?#{b}".toList query' := by
  have parsed : (Query.parse { stem := ['s'] } ":s1 :#{a} ?#{b}".toList).outcome = .ok
      { template := ":s1 :#{a} ?#{b}".toList
        canonical := ":s1 :s2 ?1".toList
        bindings := [⟨.name "s1".toList, .simple, none⟩, ⟨.name "s2".toList, .simple, some ['a']⟩,
          ⟨.position 1, .simple, some ['b']⟩]
        constructs := false
        rootAlias := none } :=
    eq_ok_of_toOption (by decide +kernel)
  have parsed' : (Query.parse { stem := ['t'] } ":s1 :#{a} ?#{b}".toList).outcome = .ok
      { template := ":s1 :#{a} ?#{b}".toList
        canonical := ":s1 :t1 ?1".toList
        bindings := [⟨.name "s1".toList, .simple, none⟩, ⟨.name "t1".toList, .simple, some ['a']⟩,
          ⟨.position 1, .simple, some ['b']⟩]
        constructs := false
        rootAlias := none } :=
    eq_ok_of_toOption (by decide +kernel)
  obtain ⟨query, query', again, again', renamed⟩ | ⟨error, error', failed, -⟩ :=
    @parse_renamed { stem := ['s'] } ['t'] (by decide) (by decide) ":s1 :#{a} ?#{b}".toList
  · obtain rfl := Except.ok.inj (parsed.symm.trans again)
    obtain rfl := Except.ok.inj (parsed'.symm.trans again')
    exact ⟨_, _, parsed, parsed', rfl, rfl, renamed⟩
  · cases parsed.symm.trans failed

end QueryTemplate
