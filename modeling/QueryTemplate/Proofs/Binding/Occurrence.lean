import Mathlib.Data.List.Forall2
import QueryTemplate.Proofs.Binding.Firsts
import QueryTemplate.Proofs.Binding.Identity

/-! # The visit of the markers

Binding visits the markers in order. What becomes of a marker depends on the identifier that the
naming gives to it and on the first earlier marker with that identifier; the rest of the history
does not matter.

* `Occurrence`, `occurrences`: the markers with their identifiers.
* `Refused`: why an occurrence is refused, given the earlier ones.
* `Unopposed`: no occurrence is refused.
* `dress`: the pieces that a visit without failure leaves behind.
* `bindSpans_ok`, `bindSpans_error`: what a visit does, said of its occurrences.
-/

namespace QueryTemplate

structure Occurrence where
  marker : Marker
  identity : Option Identifier

def occurrences (naming : Naming) : List Marker → List Occurrence
  | [] => []
  | marker :: rest =>
    ⟨marker, (naming.visit marker.target).1⟩ :: occurrences (naming.visit marker.target).2 rest

def Occurrence.binding? (occurrence : Occurrence) : Option Binding :=
  occurrence.identity.map occurrence.marker.binding

def firstOf (occurrences : List Occurrence) (identifier : Identifier) : Option Occurrence :=
  occurrences.find? (·.identity == some identifier)

/-- An occurrence is refused when there is no position left for it, or when the first one of its
parameter is of another kind. -/
inductive Refused (earlier : List Occurrence) : Occurrence → Error → Prop where
  | noPosition {marker : Marker} : Refused earlier ⟨marker, none⟩ (.invalidPosition marker.start)
  | conflict {marker : Marker} {identifier : Identifier} {first : Occurrence}
      (found : firstOf earlier identifier = some first)
      (differs : first.marker.kind ≠ marker.kind) :
      Refused earlier ⟨marker, some identifier⟩
        (.conflictingBinding identifier first.marker.kind marker.kind)

/-- None of the occurrences is refused when they follow the earlier ones in order. -/
def Unopposed (earlier occurrences : List Occurrence) : Prop :=
  ∀ before occurrence after, occurrences = before ++ occurrence :: after →
    ∀ error, ¬Refused (earlier ++ before) occurrence error

def dress : List Span → List Identifier → List Piece
  | [], _ => []
  | .literal text :: rest, identifiers => .literal text :: dress rest identifiers
  | .marker marker :: rest, identifier :: identifiers =>
    .bound marker (marker.binding identifier) :: dress rest identifiers
  | .marker _ :: _, [] => []

/-! ## Occurrences of markers -/

theorem map_marker_occurrences (naming : Naming) (markers : List Marker) :
    (occurrences naming markers).map (·.marker) = markers := by
  induction markers generalizing naming with
  | nil => rfl
  | cons marker rest inductionHypothesis => rw [occurrences, List.map_cons, inductionHypothesis]

theorem mem_of_mem_occurrences {naming : Naming} {markers : List Marker} {marker : Marker}
    {identity : Option Identifier} (occurs : ⟨marker, identity⟩ ∈ occurrences naming markers) :
    marker ∈ markers := by
  have member : marker ∈ (occurrences naming markers).map (·.marker) :=
    List.mem_map.2 ⟨_, occurs, rfl⟩
  rwa [map_marker_occurrences] at member

/-- Only an expression that needs a position can go without an identifier. -/
theorem Naming.target_of_visit {naming : Naming} {target : Target}
    (without : (naming.visit target).1 = none) :
    ∃ payload, target = .positionalExpression payload := by
  cases target with
  | named | positional | namedExpression => cases without
  | positionalExpression payload => exact ⟨payload, rfl⟩

theorem target_of_mem_occurrences {naming : Naming} {markers : List Marker} {marker : Marker}
    (occurs : ⟨marker, none⟩ ∈ occurrences naming markers) :
    ∃ payload, marker.target = .positionalExpression payload := by
  induction markers generalizing naming with
  | nil => cases occurs
  | cons first rest inductionHypothesis =>
    rw [occurrences] at occurs
    obtain same | later := List.mem_cons.1 occurs
    · obtain ⟨rfl, without⟩ := Occurrence.mk.inj same
      exact Naming.target_of_visit without.symm
    · exact inductionHypothesis later

/-! ## One step of the visit -/

theorem outcome_enroll (registry : Registry) (marker : Marker) (binding : Binding) :
    (enroll registry marker binding).outcome = registry.register binding := by
  rw [enroll]
  cases registry.register binding with
  | ok after => exact outcome_noted _ _ _
  | error error => cases error <;> rfl

theorem outcome_bindSpans_literal (naming : Naming) (registry : Registry) (text : Text)
    (rest : List Span) :
    (bindSpans naming registry (.literal text :: rest)).outcome =
      (bindSpans naming registry rest).outcome.map
        fun (pieces, final) => (.literal text :: pieces, final) := by
  simp only [bindSpans, Logged.outcome_bind]
  cases (bindSpans naming registry rest).outcome <;> rfl

theorem outcome_bindSpans_marker (naming : Naming) (registry : Registry) (marker : Marker)
    (rest : List Span) :
    (bindSpans naming registry (.marker marker :: rest)).outcome =
      match naming.visit marker.target with
      | (none, _) => .error (.invalidPosition marker.start)
      | (some identifier, after) =>
        (registry.register (marker.binding identifier)).bind fun held =>
          (bindSpans after held rest).outcome.map
            fun (pieces, final) => (.bound marker (marker.binding identifier) :: pieces, final) := by
  simp only [bindSpans, Logged.outcome_bind, outcome_identify, outcome_enroll]
  cases naming.visit marker.target with
  | mk identity after =>
    cases identity with
    | none => rfl
    | some identifier =>
      simp only [Except.bind]
      cases registry.register (marker.binding identifier) with
      | error error => rfl
      | ok held => cases (bindSpans after held rest).outcome <;> rfl

theorem find?_bindings (occurrences : List Occurrence) (identifier : Identifier) :
    (occurrences.filterMap Occurrence.binding?).find? (·.identifier == identifier) =
      (firstOf occurrences identifier).map (·.marker.binding identifier) := by
  induction occurrences with
  | nil => rfl
  | cons occurrence rest inductionHypothesis =>
    obtain ⟨marker, identity⟩ := occurrence
    rw [firstOf] at inductionHypothesis ⊢
    cases identity with
    | none => simpa [Occurrence.binding?] using inductionHypothesis
    | some other =>
      by_cases same : other = identifier
      · simp [Occurrence.binding?, Marker.binding, same]
      · simpa [Occurrence.binding?, Marker.binding, same] using inductionHypothesis

theorem register_occurrence (earlier : List Occurrence) (marker : Marker)
    (identifier : Identifier) :
    (Registry.holding (firsts (earlier.filterMap Occurrence.binding?))).register
        (marker.binding identifier) =
      .ok (.holding (firsts ((earlier ++ [Occurrence.mk marker (some identifier)]).filterMap
        Occurrence.binding?))) ∧
      (∀ error, ¬Refused earlier ⟨marker, some identifier⟩ error) ∨
    ∃ error, (Registry.holding (firsts (earlier.filterMap Occurrence.binding?))).register
        (marker.binding identifier) = .error error ∧
      Refused earlier ⟨marker, some identifier⟩ error := by
  have offered : (earlier ++ [Occurrence.mk marker (some identifier)]).filterMap
      Occurrence.binding? =
        earlier.filterMap Occurrence.binding? ++ [marker.binding identifier] := by
    simp [Occurrence.binding?]
  -- The registry compares kinds with the first binding, which is that of the first occurrence.
  rw [Registry.register_firsts, offered]
  simp only [Marker.binding]
  rw [find?_bindings]
  cases found : firstOf earlier identifier with
  | none =>
    left
    refine ⟨rfl, fun error refused => ?_⟩
    cases refused with
    | conflict foundFirst => simp [found] at foundFirst
  | some first =>
    simp only [Option.map_some, Marker.binding]
    by_cases same : first.marker.kind = marker.kind
    · left
      refine ⟨if_pos same, fun error refused => ?_⟩
      cases refused with
      | conflict foundFirst differs =>
        rw [found] at foundFirst
        cases foundFirst
        exact differs same
    · right
      exact ⟨_, if_neg same, .conflict found same⟩

/-! ## The whole visit -/

theorem unopposed_nil (earlier : List Occurrence) : Unopposed earlier [] := by
  intro before occurrence after split
  simp at split

theorem unopposed_cons {earlier rest : List Occurrence} {occurrence : Occurrence} :
    Unopposed earlier (occurrence :: rest) ↔
      (∀ error, ¬Refused earlier occurrence error) ∧ Unopposed (earlier ++ [occurrence]) rest := by
  constructor
  · intro unopposed
    refine ⟨fun error => by simpa using unopposed [] occurrence rest rfl error, ?_⟩
    intro before other after split error
    have := unopposed (occurrence :: before) other after (by simp [split]) error
    simpa using this
  · rintro ⟨first, later⟩ before other after split error
    cases before with
    | nil =>
      obtain ⟨rfl, -⟩ := List.cons.inj split
      simpa using first error
    | cons head before =>
      obtain ⟨rfl, splitRest⟩ := List.cons.inj split
      have := later before other after splitRest error
      simpa using this

/-- A visit that succeeds has refused no occurrence and holds the first ones. -/
theorem bindSpans_ok {naming : Naming} {earlier : List Occurrence} {spans : List Span}
    {pieces : List Piece} {final : Registry}
    (bound : (bindSpans naming (.holding (firsts (earlier.filterMap Occurrence.binding?)))
      spans).outcome = .ok (pieces, final)) :
    Unopposed earlier (occurrences naming (markers spans)) ∧
      final.bindings = firsts ((earlier ++ occurrences naming (markers spans)).filterMap
        Occurrence.binding?) ∧
      pieces = dress spans ((occurrences naming (markers spans)).filterMap (·.identity)) := by
  -- The registry that is passed along holds the first ones of the earlier occurrences.
  induction spans generalizing naming earlier pieces with
  | nil =>
    cases bound
    exact ⟨unopposed_nil earlier, by simp [markers, occurrences], rfl⟩
  | cons span rest inductionHypothesis =>
    cases span with
    | literal text =>
      rw [outcome_bindSpans_literal] at bound
      obtain ⟨⟨later, final'⟩, boundRest, same⟩ := exists_ok_of_map bound
      cases same
      obtain ⟨unopposed, held, rfl⟩ := inductionHypothesis boundRest
      exact ⟨unopposed, held, rfl⟩
    | marker marker =>
      rw [outcome_bindSpans_marker] at bound
      rw [markers_marker, occurrences]
      cases visited : naming.visit marker.target with
      | mk identity after =>
        rw [visited] at bound
        cases identity with
        | none => cases bound
        | some identifier =>
          dsimp only at bound ⊢
          rcases register_occurrence earlier marker identifier with
            ⟨registered, accepted⟩ | ⟨error, registered, -⟩
          · rw [registered] at bound
            obtain ⟨⟨later, final'⟩, boundRest, same⟩ := exists_ok_of_map bound
            cases same
            obtain ⟨unopposed, held, rfl⟩ := inductionHypothesis boundRest
            refine ⟨unopposed_cons.2 ⟨accepted, unopposed⟩, ?_, rfl⟩
            simpa using held
          · rw [registered] at bound
            cases bound

/-- A visit that fails has the error of the first occurrence that is refused. -/
theorem bindSpans_error {naming : Naming} {earlier : List Occurrence} {spans : List Span}
    {error : Error}
    (bound : (bindSpans naming (.holding (firsts (earlier.filterMap Occurrence.binding?)))
      spans).outcome = .error error) :
    ∃ before occurrence after,
      occurrences naming (markers spans) = before ++ occurrence :: after ∧
        Unopposed earlier before ∧ Refused (earlier ++ before) occurrence error := by
  induction spans generalizing naming earlier with
  | nil => cases bound
  | cons span rest inductionHypothesis =>
    cases span with
    | literal text =>
      rw [outcome_bindSpans_literal] at bound
      exact inductionHypothesis (error_of_map bound)
    | marker marker =>
      rw [outcome_bindSpans_marker] at bound
      rw [markers_marker, occurrences]
      cases visited : naming.visit marker.target with
      | mk identity after =>
        rw [visited] at bound
        cases identity with
        | none =>
          cases bound
          exact ⟨[], _, _, rfl, unopposed_nil earlier, .noPosition⟩
        | some identifier =>
          dsimp only at bound ⊢
          rcases register_occurrence earlier marker identifier with
            ⟨registered, accepted⟩ | ⟨refusal, registered, refused⟩
          · rw [registered] at bound
            obtain ⟨before, occurrence, later, split, unopposed, refused⟩ :=
              inductionHypothesis (error_of_map bound)
            refine ⟨⟨marker, some identifier⟩ :: before, occurrence, later, by simp [split],
              unopposed_cons.2 ⟨accepted, unopposed⟩, ?_⟩
            simpa using refused
          · rw [registered] at bound
            cases bound
            exact ⟨[], _, _, rfl, unopposed_nil earlier, by simpa using refused⟩

/-! ## Identifiers of a visit without failure -/

theorem Unopposed.isSome {earlier occurrences : List Occurrence}
    (unopposed : Unopposed earlier occurrences) :
    ∀ occurrence ∈ occurrences, occurrence.identity.isSome = true := by
  rintro ⟨marker, identity⟩ member
  obtain ⟨before, after, split⟩ := List.append_of_mem member
  cases identity with
  | none => exact absurd .noPosition (unopposed before _ after split _)
  | some identifier => rfl

theorem map_identity {occurrences : List Occurrence}
    (identified : ∀ occurrence ∈ occurrences, occurrence.identity.isSome = true) :
    occurrences.map (·.identity) = (occurrences.filterMap (·.identity)).map some := by
  induction occurrences with
  | nil => rfl
  | cons occurrence rest inductionHypothesis =>
    have first := identified occurrence List.mem_cons_self
    have later := inductionHypothesis fun other member =>
      identified other (List.mem_cons_of_mem _ member)
    obtain ⟨identifier, same⟩ := Option.isSome_iff_exists.1 first
    simp [same, later]

theorem suits_occurrences {naming : Naming} (sound : naming.Sound) {markers : List Marker}
    (identified : ∀ occurrence ∈ occurrences naming markers, occurrence.identity.isSome = true) :
    List.Forall₂ Suits (markers.map (·.target))
      ((occurrences naming markers).filterMap (·.identity)) := by
  induction markers generalizing naming with
  | nil => exact .nil
  | cons marker rest inductionHypothesis =>
    rw [occurrences] at identified ⊢
    obtain ⟨identifier, visited⟩ := Option.isSome_iff_exists.1 (identified _ List.mem_cons_self)
    have later := inductionHypothesis (sound.visit marker.target)
      fun occurrence member => identified occurrence (List.mem_cons_of_mem _ member)
    dsimp only at visited
    simp only [List.map_cons, List.filterMap_cons, visited]
    exact .cons (sound.suits visited) later

end QueryTemplate
