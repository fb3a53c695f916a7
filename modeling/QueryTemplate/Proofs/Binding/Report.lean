import QueryTemplate.Proofs.Binding.Comparison
import QueryTemplate.Proofs.Binding.Numbering

/-! # The events of a visit

The naming reports an expression when it mints an identifier for it, and the registry reports a
parameter when it comes again. The two never report one marker both: an identifier is minted for the
first occurrence of its parameter, since no other target of the template has it.

* `events_identify`, `events_enroll`, `events_enroll_conflict`: the events of one marker.
* `Occurrence.report`, `reports`: what is reported of occurrences, said of the earlier ones.
* `InVisit`: a place in the visit of a template; `InVisit.isSome_identifier?_iff` says that the
  naming holds an expression there exactly when its identifier occurred before.
* `InVisit.events_of_unopposed`, `InVisit.events_of_conflict`: the events of a visit from there on.
-/

namespace QueryTemplate

/-! ## The events of a marker -/

/-- The event of an expression that this identifier is minted for. -/
def Identifier.minted (expression : Text) : Identifier → Event
  | .name word => .mintedName expression word
  | .position number => .mintedPosition expression number

theorem events_noted {α : Type} (noted : Prop) [Decidable noted] (event : Event) (value : α) :
    (do
      if noted then .note event
      pure value : Logged α).events = if noted then [event] else [] := by
  split <;> rfl

theorem events_identify (naming : Naming) (marker : Marker) :
    (identify naming marker).events =
      match (naming.visit marker.target).1 with
      | none => []
      | some identifier =>
        if (naming.identifier? marker.target).isSome then []
        else (marker.target.expression?.map identifier.minted).toList := by
  unfold identify Naming.visit
  cases marker.target with
  | named name => rfl
  | positional position => rfl
  | namedExpression expression =>
    refine (events_noted _ _ _).trans ?_
    simp only [Naming.identifier?, Option.isSome_map, ← Option.not_isSome]
    cases (naming.name? expression).isSome <;> rfl
  | positionalExpression expression =>
    dsimp only
    cases naming.positionFor? expression with
    | none => rfl
    | some placed =>
      refine (events_noted _ _ _).trans ?_
      simp only [Naming.identifier?, Option.isSome_map, ← Option.not_isSome]
      cases (naming.position? expression).isSome <;> rfl

theorem events_enroll {registry after : Registry} {marker : Marker} {binding : Binding}
    (registered : registry.register binding = .ok after) :
    (enroll registry marker binding).events =
      if (registry.find? binding.identifier).isSome then [.merged binding.identifier] else [] := by
  rw [enroll, registered]
  exact events_noted _ _ _

theorem events_enroll_conflict {registry : Registry} {marker : Marker} {binding : Binding}
    {identifier : Identifier} {existing conflicting : BindingKind}
    (refused : registry.register binding =
      .error (.conflictingBinding identifier existing conflicting)) :
    (enroll registry marker binding).events =
      [.conflict identifier existing conflicting, .rejected marker.raw marker.start] := by
  rw [enroll, refused]
  rfl

theorem events_bindSpans_literal (naming : Naming) (registry : Registry) (text : Text)
    (rest : List Span) :
    (bindSpans naming registry (.literal text :: rest)).events =
      (bindSpans naming registry rest).events := by
  rw [bindSpans, Logged.events_bind]
  cases (bindSpans naming registry rest).outcome with
  | error error => rfl
  | ok bound => exact List.append_nil _

/-- The events of a marker that is taken come in front of those of the rest. -/
theorem events_bindSpans_marker {naming after : Naming} {registry held : Registry} {marker : Marker}
    {identifier : Identifier} (visited : naming.visit marker.target = (some identifier, after))
    (registered : registry.register (marker.binding identifier) = .ok held) (rest : List Span) :
    (bindSpans naming registry (.marker marker :: rest)).events =
      (identify naming marker).events ++
        (enroll registry marker (marker.binding identifier)).events ++
        (bindSpans after held rest).events := by
  have identified := outcome_identify naming marker
  rw [visited] at identified
  simp only [bindSpans, Logged.events_bind, identified, outcome_enroll, registered]
  cases (bindSpans after held rest).outcome <;> simp [pure]

theorem events_bindSpans_refused {naming after : Naming} {registry : Registry} {marker : Marker}
    {identifier : Identifier} (visited : naming.visit marker.target = (some identifier, after))
    {error : Error} (refused : registry.register (marker.binding identifier) = .error error)
    (rest : List Span) :
    (bindSpans naming registry (.marker marker :: rest)).events =
      (identify naming marker).events ++
        (enroll registry marker (marker.binding identifier)).events := by
  have identified := outcome_identify naming marker
  rw [visited] at identified
  simp only [bindSpans, Logged.events_bind, identified, outcome_enroll, refused]

/-! ## What is reported of occurrences -/

/-- The event of an occurrence that is taken. A parameter is reported when it comes again, and an
expression when it is met first. -/
def Occurrence.report (earlier : List Occurrence) (occurrence : Occurrence) : List Event :=
  match occurrence.identity with
  | none => []
  | some identifier =>
    if (firstOf earlier identifier).isSome then [.merged identifier]
    else (occurrence.marker.target.expression?.map identifier.minted).toList

def reports (earlier : List Occurrence) : List Occurrence → List Event
  | [] => []
  | occurrence :: rest => occurrence.report earlier ++ reports (earlier ++ [occurrence]) rest

theorem length_report_le (earlier : List Occurrence) (occurrence : Occurrence) :
    (occurrence.report earlier).length ≤ 1 := by
  unfold Occurrence.report
  split
  · exact Nat.zero_le 1
  · split
    · exact Nat.le_refl 1
    · cases occurrence.marker.target.expression? <;> simp

theorem reports_append (earlier first second : List Occurrence) :
    reports earlier (first ++ second) =
      reports earlier first ++ reports (earlier ++ first) second := by
  induction first generalizing earlier with
  | nil => simp [reports]
  | cons occurrence rest inductionHypothesis => simp [reports, inductionHypothesis]

/-! ## A place in the visit of a template -/

/-- The visit of the template has come behind the earlier occurrences with this naming, and the
later ones are still to come. -/
structure InVisit (stem : Text) (spans : List Span) (earlier : List Occurrence) (naming : Naming)
    (later : List Occurrence) : Prop where
  whole : occurrences (Naming.ofSpans stem spans) (markers spans) = earlier ++ later
  visited : naming.Visited stem spans (earlier.map (·.marker.target))

theorem inVisit_ofSpans (stem : Text) (spans : List Span) :
    InVisit stem spans [] (Naming.ofSpans stem spans)
      (occurrences (Naming.ofSpans stem spans) (markers spans)) where
  whole := rfl
  visited := Naming.visited_ofSpans stem spans

theorem mem_namedExpressions_iff {targets : List Target} {expression : Text} :
    expression ∈ targets.filterMap Target.namedExpression? ↔
      .namedExpression expression ∈ targets := by
  rw [List.mem_filterMap]
  constructor
  · rintro ⟨target, member, same⟩
    cases target <;> cases same
    exact member
  · exact fun member => ⟨_, member, rfl⟩

theorem mem_positionalExpressions_iff {targets : List Target} {expression : Text} :
    expression ∈ targets.filterMap Target.positionalExpression? ↔
      .positionalExpression expression ∈ targets := by
  rw [List.mem_filterMap]
  constructor
  · rintro ⟨target, member, same⟩
    cases target <;> cases same
    exact member
  · exact fun member => ⟨_, member, rfl⟩

/-- Of the expressions, the naming holds those that were visited. -/
theorem Naming.Visited.identifier?_eq {stem : Text} {spans : List Span} {targets : List Target}
    {naming : Naming} (visited : naming.Visited stem spans targets) {target : Target}
    (expression : target.isExpression = true) :
    naming.identifier? target =
      if target ∈ targets then identifierIn? stem spans targets target else none := by
  cases target with
  | named | positional => cases expression
  | namedExpression payload =>
    simp only [Naming.identifier?, visited.names.held payload, mem_namedExpressions_iff]
    split <;> rfl
  | positionalExpression payload =>
    simp only [Naming.identifier?, visited.positions.held payload, mem_positionalExpressions_iff]
    split <;> rfl

namespace InVisit

variable {stem : Text} {spans : List Span} {earlier later : List Occurrence} {naming : Naming}
  {marker : Marker} {identifier : Identifier}

theorem step {markers : List Marker}
    (visit : InVisit stem spans earlier naming (occurrences naming (marker :: markers) ++ later)) :
    InVisit stem spans (earlier ++ [⟨marker, (naming.visit marker.target).1⟩])
      (naming.visit marker.target).2
      (occurrences (naming.visit marker.target).2 markers ++ later) where
  whole := by
    rw [visit.whole, occurrences]
    simp
  visited := by
    rw [List.map_append]
    exact (visit.visited.visit marker.target).2

section Here

variable (visit : InVisit stem spans earlier naming (⟨marker, some identifier⟩ :: later))

include visit

/-- A parameter occurred before exactly when its target did. -/
theorem isSome_firstOf_iff :
    (firstOf earlier identifier).isSome = true ↔
      marker.target ∈ earlier.map (·.marker.target) := by
  have occurs : ⟨marker, some identifier⟩ ∈
      occurrences (Naming.ofSpans stem spans) (markers spans) := by
    rw [visit.whole]
    simp
  have before {other : Occurrence} (member : other ∈ earlier) :
      other ∈ occurrences (Naming.ofSpans stem spans) (markers spans) := by
    rw [visit.whole]
    exact List.mem_append_left _ member
  rw [firstOf, List.find?_isSome, List.mem_map]
  constructor
  · rintro ⟨⟨first, identity⟩, member, same⟩
    obtain rfl : identity = some identifier := by simpa using same
    exact ⟨_, member, (identifier_eq_iff (before member) occurs).1 rfl⟩
  · rintro ⟨first, member, same⟩
    refine ⟨first, member, ?_⟩
    rw [identity_of_mem (before member), same, ← identity_of_mem occurs]
    exact beq_self_eq_true _

/-- The naming holds an expression exactly when its parameter occurred before. -/
theorem isSome_identifier?_iff (given : (naming.visit marker.target).1 = some identifier)
    (expression : marker.target.isExpression = true) :
    (naming.identifier? marker.target).isSome = true ↔
      (firstOf earlier identifier).isSome = true := by
  rw [visit.isSome_firstOf_iff, visit.visited.identifier?_eq expression]
  split
  next known =>
    rw [(visit.visited.visit marker.target).1, identifierIn?_append known] at given
    simp [given, known]
  next new => simp [new]

/-- The naming reports an expression whose parameter did not occur before, and nothing else. -/
theorem events_identify (given : (naming.visit marker.target).1 = some identifier) :
    (identify naming marker).events =
      if (firstOf earlier identifier).isSome then []
      else (marker.target.expression?.map identifier.minted).toList := by
  rw [QueryTemplate.events_identify, given]
  cases payload : marker.target.expression? with
  | none => simp
  | some expression =>
    have isExpression : marker.target.isExpression = true := by
      rw [Target.isExpression, payload]
      rfl
    simp only [visit.isSome_identifier?_iff given isExpression]

end Here

theorem isSome_find?_holding (earlier : List Occurrence) (identifier : Identifier) :
    ((Registry.holding (firsts (earlier.filterMap Occurrence.binding?))).find?
      identifier).isSome = (firstOf earlier identifier).isSome := by
  rw [Registry.find?_holding (nodup_firsts _), find?_firsts, find?_bindings, Option.isSome_map]

/-- A marker that is not refused is reported, and the visit goes on behind it. -/
theorem events_step {rest : List Span}
    (visit : InVisit stem spans earlier naming
      (⟨marker, (naming.visit marker.target).1⟩ :: later))
    (accepted : ∀ error, ¬Refused earlier ⟨marker, (naming.visit marker.target).1⟩ error) :
    (bindSpans naming (.holding (firsts (earlier.filterMap Occurrence.binding?)))
        (.marker marker :: rest)).events =
      Occurrence.report earlier ⟨marker, (naming.visit marker.target).1⟩ ++
        (bindSpans (naming.visit marker.target).2
          (.holding (firsts ((earlier ++
            [Occurrence.mk marker (naming.visit marker.target).1]).filterMap
              Occurrence.binding?))) rest).events := by
  cases visited : naming.visit marker.target with
  | mk identity after =>
    rw [visited] at visit accepted
    cases identity with
    | none => exact absurd .noPosition (accepted _)
    | some identifier =>
      rcases register_occurrence earlier marker identifier with
        ⟨registered, -⟩ | ⟨error, -, refused⟩
      · rw [events_bindSpans_marker visited registered, visit.events_identify (by rw [visited]),
          events_enroll registered, Marker.binding, isSome_find?_holding]
        dsimp only [Occurrence.report]
        split
        · rfl
        · rw [List.append_nil]
      · exact absurd refused (accepted error)

/-- A marker that is refused for a conflict adds nothing but the two events of the failure. -/
theorem events_refused {rest : List Span} {existing conflicting : BindingKind}
    (visit : InVisit stem spans earlier naming (⟨marker, some identifier⟩ :: later))
    (given : (naming.visit marker.target).1 = some identifier)
    (refused : Refused earlier ⟨marker, some identifier⟩
      (.conflictingBinding identifier existing conflicting)) :
    (bindSpans naming (.holding (firsts (earlier.filterMap Occurrence.binding?)))
        (.marker marker :: rest)).events =
      [.conflict identifier existing conflicting, .rejected marker.raw marker.start] := by
  rcases register_occurrence earlier marker identifier with
    ⟨-, accepted⟩ | ⟨error, registered, refusedToo⟩
  · exact absurd refused (accepted _)
  · obtain rfl := refusedToo.unique refused
    have visited : naming.visit marker.target =
        (some identifier, (naming.visit marker.target).2) := by rw [← given]
    rw [events_bindSpans_refused visited registered, visit.events_identify given,
      events_enroll_conflict registered]
    -- The parameter that is in conflict occurred before, so that nothing is minted for it.
    cases refused with
    | conflict found => rw [found]; rfl

/-- A visit without refusal reports its occurrences one by one. -/
theorem events_of_unopposed {part : List Span}
    (visit : InVisit stem spans earlier naming (occurrences naming (markers part) ++ later))
    (unopposed : Unopposed earlier (occurrences naming (markers part))) :
    (bindSpans naming (.holding (firsts (earlier.filterMap Occurrence.binding?))) part).events =
      reports earlier (occurrences naming (markers part)) := by
  induction part generalizing naming earlier with
  | nil => rfl
  | cons span rest inductionHypothesis =>
    cases span with
    | literal text =>
      rw [events_bindSpans_literal]
      exact inductionHypothesis visit unopposed
    | marker marker =>
      rw [markers_marker] at visit unopposed ⊢
      have visitRest := visit.step
      rw [occurrences] at visit unopposed ⊢
      obtain ⟨accepted, unopposedRest⟩ := unopposed_cons.1 unopposed
      rw [visit.events_step accepted, inductionHypothesis visitRest unopposedRest, reports]

/-- A visit that ends in a conflict reports the occurrences in front of it, then the conflict and
the marker. -/
theorem events_of_conflict {part : List Span} {before after : List Occurrence}
    {existing conflicting : BindingKind}
    (visit : InVisit stem spans earlier naming (occurrences naming (markers part) ++ later))
    (split : occurrences naming (markers part) = before ++ ⟨marker, some identifier⟩ :: after)
    (unopposed : Unopposed earlier before)
    (refused : Refused (earlier ++ before) ⟨marker, some identifier⟩
      (.conflictingBinding identifier existing conflicting)) :
    (bindSpans naming (.holding (firsts (earlier.filterMap Occurrence.binding?))) part).events =
      reports earlier before ++
        [.conflict identifier existing conflicting, .rejected marker.raw marker.start] := by
  induction part generalizing naming earlier before with
  | nil => simp [occurrences] at split
  | cons span rest inductionHypothesis =>
    cases span with
    | literal text =>
      rw [events_bindSpans_literal]
      exact inductionHypothesis visit split unopposed refused
    | marker first =>
      rw [markers_marker] at visit split
      have visitRest := visit.step
      rw [occurrences] at visit split
      cases before with
      | nil =>
        obtain ⟨same, -⟩ := List.cons.inj split
        obtain ⟨rfl, given⟩ := Occurrence.mk.inj same
        rw [List.append_nil] at refused
        rw [given] at visit
        exact visit.events_refused given refused
      | cons occurrence before =>
        obtain ⟨rfl, splitRest⟩ := List.cons.inj split
        obtain ⟨accepted, unopposedRest⟩ := unopposed_cons.1 unopposed
        rw [visit.events_step accepted, inductionHypothesis visitRest splitRest unopposedRest ?_,
          reports, List.append_assoc]
        simpa using refused

end InVisit

end QueryTemplate
