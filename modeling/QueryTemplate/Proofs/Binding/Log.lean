import QueryTemplate.Proofs.Binding.Report
import QueryTemplate.Proofs.Template.Standing

/-! # The log of a template

What is reported while a template is parsed accounts for its markers: each of them is merged into an
earlier one, or adds a binding, which is reported if it has an expression.

* `Event.minted?`, `Binding.minted?`: identifiers with their expressions, as they are reported and
  as they are bound.
* `count_merged_reports`, `minted_reports`: what the reports of a visit say of its bindings.
* `visitLog`: the events of the first spans of a template; `exists_own_event` and `visitLog_literal`
  say what one more span adds to them.
* `Accounted`, `EndsInConflict`: the log of a template that is parsed, and of one with a conflict.
* `log_of_parse`: the log, by the outcome of parsing.
-/

namespace QueryTemplate

/-- The identifier that an event reports to be minted, and the expression that it is minted for. -/
def Event.minted? : Event → Option (Identifier × Text)
  | .mintedName expression name => some (.name name, expression)
  | .mintedPosition expression position => some (.position position, expression)
  | _ => none

/-- The identifier of a binding with an expression, and the expression. -/
def Binding.minted? (binding : Binding) : Option (Identifier × Text) :=
  binding.expression.map (binding.identifier, ·)

/-! ## Reports and bindings -/

theorem minted?_minted (expression : Text) (identifier : Identifier) :
    (identifier.minted expression).minted? = some (identifier, expression) := by
  cases identifier <;> rfl

theorem minted?_binding (marker : Marker) (identifier : Identifier) :
    (marker.binding identifier).minted? = marker.target.expression?.map (identifier, ·) := rfl

theorem mem_report {earlier : List Occurrence} {occurrence : Occurrence} {event : Event}
    (reported : event ∈ occurrence.report earlier) :
    (∃ identifier, event = .merged identifier) ∨
      ∃ identifier expression, event = Identifier.minted expression identifier := by
  unfold Occurrence.report at reported
  split at reported
  · cases reported
  · next identifier same =>
    split at reported
    · exact .inl ⟨identifier, List.mem_singleton.1 reported⟩
    · obtain ⟨expression, -, rfl⟩ := Option.map_eq_some_iff.1 (Option.mem_toList.1 reported)
      exact .inr ⟨identifier, expression, rfl⟩

/-- One more occurrence has a binding of its own unless its parameter occurred before. -/
theorem firsts_concat (earlier : List Occurrence) (marker : Marker) (identifier : Identifier) :
    firsts ((earlier ++ [Occurrence.mk marker (some identifier)]).filterMap
        Occurrence.binding?) =
      if (firstOf earlier identifier).isSome then firsts (earlier.filterMap Occurrence.binding?)
      else firsts (earlier.filterMap Occurrence.binding?) ++ [marker.binding identifier] := by
  have offered : (earlier ++ [Occurrence.mk marker (some identifier)]).filterMap
      Occurrence.binding? =
        earlier.filterMap Occurrence.binding? ++ [marker.binding identifier] := by
    simp [Occurrence.binding?]
  rw [offered, firsts_append_singleton, Marker.binding, find?_bindings, Option.isSome_map]

/-- Every occurrence is merged into an earlier one or adds a binding. -/
theorem count_merged_reports {earlier later : List Occurrence}
    (identified : ∀ occurrence ∈ later, occurrence.identity.isSome = true) :
    ((reports earlier later).map Event.message).count "merged repeated parameter occurrence" +
        (firsts ((earlier ++ later).filterMap Occurrence.binding?)).length =
      (firsts (earlier.filterMap Occurrence.binding?)).length + later.length := by
  induction later generalizing earlier with
  | nil => simp [reports]
  | cons occurrence later inductionHypothesis =>
    obtain ⟨marker, identity⟩ := occurrence
    obtain ⟨here, identifiedLater⟩ := List.forall_mem_cons.1 identified
    obtain ⟨identifier, rfl⟩ := Option.isSome_iff_exists.1 here
    have rest := @inductionHypothesis (earlier ++ [⟨marker, some identifier⟩]) identifiedLater
    rw [List.append_assoc, List.singleton_append, firsts_concat] at rest
    rw [reports, List.map_append, List.count_append, List.length_cons]
    dsimp only [Occurrence.report]
    split at rest
    next again =>
      have merged : ([Event.merged identifier].map Event.message).count
          "merged repeated parameter occurrence" = 1 := by simp [Event.message]
      rw [if_pos again, merged]
      omega
    next new =>
      have noMerge : ((marker.target.expression?.map identifier.minted).toList.map
          Event.message).count "merged repeated parameter occurrence" = 0 := by
        cases marker.target.expression? with
        | none => rfl
        | some expression => cases identifier <;> simp [Identifier.minted, Event.message]
      rw [List.length_append, List.length_singleton] at rest
      rw [if_neg new, noMerge]
      omega

theorem minted_reports (earlier later : List Occurrence) :
    (firsts (earlier.filterMap Occurrence.binding?)).filterMap Binding.minted? ++
        (reports earlier later).filterMap Event.minted? =
      (firsts ((earlier ++ later).filterMap Occurrence.binding?)).filterMap Binding.minted? := by
  induction later generalizing earlier with
  | nil => simp [reports]
  | cons occurrence later inductionHypothesis =>
    obtain ⟨marker, identity⟩ := occurrence
    -- Both sides grow by the same: the occurrence reports the binding that it adds.
    have rest := inductionHypothesis (earlier ++ [⟨marker, identity⟩])
    rw [List.append_assoc, List.singleton_append] at rest
    rw [reports, List.filterMap_append, ← rest, ← List.append_assoc]
    congr 1
    cases identity with
    | none =>
      have same : (earlier ++ [Occurrence.mk marker none]).filterMap Occurrence.binding? =
          earlier.filterMap Occurrence.binding? := by
        rw [List.filterMap_append]
        exact List.append_nil _
      rw [same]
      exact List.append_nil _
    | some identifier =>
      rw [firsts_concat]
      dsimp only [Occurrence.report]
      split
      · exact List.append_nil _
      · rw [List.filterMap_append]
        congr 1
        cases payload : marker.target.expression? with
        | none => simp [minted?_binding, payload]
        | some expression => simp [minted?_binding, minted?_minted, payload]

/-! ## The events of the spans -/

/-- The events by the time that the first part of the spans of a template is visited. -/
def visitLog (stem : Text) (spans part : List Span) : List Event :=
  (bindSpans (Naming.ofSpans stem spans) {} part).events

theorem occurrences_append (naming : Naming) (first second : List Marker) :
    occurrences naming (first ++ second) = occurrences naming first ++
      occurrences (first.foldl (fun naming marker => (naming.visit marker.target).2) naming)
        second := by
  induction first generalizing naming with
  | nil => rfl
  | cons marker first inductionHypothesis =>
    rw [List.cons_append, occurrences, inductionHypothesis]
    rfl

theorem Unopposed.of_append {first second : List Occurrence}
    (unopposed : Unopposed [] (first ++ second)) : Unopposed [] first := by
  rintro before occurrence after rfl
  exact unopposed before occurrence (after ++ second) (by simp)

section Visit

variable {stem : Text} {spans : List Span}
  (unopposed : Unopposed [] (occurrences (Naming.ofSpans stem spans) (markers spans)))

include unopposed

theorem visitLog_eq_reports {part rest : List Span} (split : spans = part ++ rest) :
    visitLog stem spans part =
      reports [] (occurrences (Naming.ofSpans stem spans) (markers part)) := by
  have visit := inVisit_ofSpans stem spans
  have whole : markers spans = markers part ++ markers rest := by
    rw [split]
    exact List.filterMap_append
  obtain ⟨later, parts⟩ : ∃ later, occurrences (Naming.ofSpans stem spans) (markers spans) =
      occurrences (Naming.ofSpans stem spans) (markers part) ++ later := by
    rw [whole]
    exact ⟨_, occurrences_append _ _ _⟩
  rw [parts] at visit unopposed
  exact visit.events_of_unopposed unopposed.of_append

theorem exists_own_event {before after : List Span} {marker : Marker}
    (split : spans = before ++ .marker marker :: after) :
    ∃ own, own.length ≤ 1 ∧
      visitLog stem spans (before ++ [.marker marker]) = visitLog stem spans before ++ own := by
  have behind : spans = before ++ [.marker marker] ++ after := by
    rw [split, List.append_assoc, List.singleton_append]
  have markersBehind : markers (before ++ [.marker marker]) = markers before ++ [marker] :=
    List.filterMap_append
  have visited := visitLog_eq_reports unopposed behind
  rw [markersBehind, occurrences_append, reports_append, List.nil_append,
    ← visitLog_eq_reports unopposed split] at visited
  refine ⟨_, ?_, visited⟩
  rw [occurrences, occurrences, reports, reports, List.append_nil]
  exact length_report_le _ _

theorem visitLog_literal {before after : List Span} {text : Text}
    (split : spans = before ++ .literal text :: after) :
    visitLog stem spans (before ++ [.literal text]) = visitLog stem spans before := by
  have behind : spans = before ++ [.literal text] ++ after := by
    rw [split, List.append_assoc, List.singleton_append]
  have markersBehind : markers (before ++ [.literal text]) = markers before :=
    List.filterMap_append.trans (List.append_nil _)
  rw [visitLog_eq_reports unopposed behind, visitLog_eq_reports unopposed split, markersBehind]

end Visit

/-! ## The log of parsing -/

section Log

variable {options : Options} {template : Text}

theorem events_parse_of_scan {spans : List Span} (valid : options.Valid)
    (cut : scan options template = .ok spans) :
    (Query.parse options template).events =
      .parsing (template.take Query.previewLength) :: .scanned spans.length ::
        ((bindTemplate options.stem spans).events ++
          match (Query.parse options template).outcome with
          | .ok query => [.parsed query.bindings.length query.constructs query.rootAlias]
          | .error _ => []) := by
  have accepted := Options.validate_eq_ok_iff.2 valid
  rw [outcome_parse_of_scan valid cut]
  simp only [Query.parse, Query.spansOf, cut, Logged.events_bind, Logged.outcome_bind,
    Logged.ofExcept, accepted, Logged.note, outcome_pure, Except.bind]
  cases (bindTemplate options.stem spans).outcome with
  | error error => simp [Except.map, pure]
  | ok bound => simp [Except.map, pure, Query.ofPieces]

theorem not_mem_messages_of_scan_error {error : Error}
    (failed : scan options template = .error error) :
    "scanned query template" ∉ (Query.parse options template).events.map Event.message := by
  have outcome : (Query.spansOf options template).outcome = .error error := by
    simp only [Query.spansOf, failed]
    cases error <;> rfl
  have events : ∀ event ∈ (Query.spansOf options template).events,
      ∃ offset, event = .unterminated offset := by
    simp only [Query.spansOf, failed]
    cases error with
    | unterminatedExpression offset =>
      exact fun event member => ⟨offset, List.mem_singleton.1 member⟩
    | _ => exact fun event member => by cases member
  simp only [Query.parse, Logged.events_bind, Logged.ofExcept, Logged.note, outcome]
  cases options.validate with
  | error invalid => simp
  | ok accepted =>
    rw [List.mem_map]
    rintro ⟨event, member, message⟩
    obtain rfl | later := List.mem_cons.1 member
    · simp [Event.message] at message
    · obtain ⟨offset, rfl⟩ := events event later
      simp [Event.message] at message

end Log

/-- The log of a template that is parsed. Its markers add an event each at most, in their order, and
the literal text between them adds none. -/
structure Accounted (options : Options) (template : Text) (spans : List Span) (query : Query)
    (log : List Event) : Prop where
  whole : log = .parsing (template.take Query.previewLength) :: .scanned spans.length ::
    (visitLog options.stem spans spans ++
      [.parsed query.bindings.length query.constructs query.rootAlias])
  merged : (log.map Event.message).count "merged repeated parameter occurrence" =
    (markers spans).length - query.bindings.length
  held : query.bindings.length ≤ (markers spans).length
  minted : log.filterMap Event.minted? = query.bindings.filterMap Binding.minted?
  marker : ∀ before marker after, spans = before ++ .marker marker :: after →
    ∃ own, own.length ≤ 1 ∧
      visitLog options.stem spans (before ++ [.marker marker]) =
        visitLog options.stem spans before ++ own
  literal : ∀ before text after, spans = before ++ .literal text :: after →
    visitLog options.stem spans (before ++ [.literal text]) = visitLog options.stem spans before

/-- The log ends in the conflict and its marker, and reports neither of the two before. -/
def EndsInConflict (log : List Event) (conflict rejected : Event) : Prop :=
  ∃ front, log = front ++ [conflict, rejected] ∧ ∀ event ∈ front,
    event.message ≠ "conflicting parameter bindings" ∧
      event.message ≠ "rejected parameter marker"

theorem length_occurrences (naming : Naming) (markers : List Marker) :
    (occurrences naming markers).length = markers.length := by
  rw [← List.length_map (·.marker), map_marker_occurrences]

theorem accounted_of_parse {options : Options} {template : Text} {query : Query}
    {spans : List Span} (cut : scan options template = .ok spans)
    (parsed : (Query.parse options template).outcome = .ok query) :
    Accounted options template spans query (Query.parse options template).events := by
  obtain ⟨unopposed, held, -⟩ := bound_of_parse_ok cut parsed
  have visited : (bindTemplate options.stem spans).events =
      reports [] (occurrences (Naming.ofSpans options.stem spans) (markers spans)) :=
    visitLog_eq_reports unopposed (List.append_nil spans).symm
  have counted : ((bindTemplate options.stem spans).events.map Event.message).count
      "merged repeated parameter occurrence" + query.bindings.length = (markers spans).length := by
    rw [visited, held, ← length_occurrences (Naming.ofSpans options.stem spans), ← Nat.zero_add
      (occurrences (Naming.ofSpans options.stem spans) (markers spans)).length]
    exact count_merged_reports unopposed.isSome
  have minted : (bindTemplate options.stem spans).events.filterMap Event.minted? =
      query.bindings.filterMap Binding.minted? := by
    rw [visited, held]
    exact minted_reports [] _
  have whole := events_parse_of_scan (scan_of_parse_ok parsed).1 cut
  rw [parsed] at whole
  refine ⟨whole, ?_, ?_, ?_, fun _ _ _ => exists_own_event unopposed,
    fun _ _ _ => visitLog_literal unopposed⟩
  · -- The events around those of the visit are no merges.
    have merged : ((Query.parse options template).events.map Event.message).count
        "merged repeated parameter occurrence" =
          ((bindTemplate options.stem spans).events.map Event.message).count
            "merged repeated parameter occurrence" := by
      rw [whole]
      simp [Event.message]
    omega
  · omega
  · rw [whole, List.filterMap_cons_none rfl, List.filterMap_cons_none rfl, List.filterMap_append,
      minted]
    exact List.append_nil _

theorem scan_of_parse_conflict {options : Options} {template : Text} {identifier : Identifier}
    {existing conflicting : BindingKind}
    (failed : (Query.parse options template).outcome =
      .error (.conflictingBinding identifier existing conflicting)) :
    options.Valid ∧ ∃ spans, scan options template = .ok spans := by
  have valid : options.Valid := by
    cases accepted : options.validate with
    | ok done => exact Options.validate_eq_ok_iff.1 accepted
    | error error =>
      simp only [Query.parse, Logged.outcome_bind, Logged.ofExcept, accepted, Except.bind,
        Except.error.injEq] at failed
      rw [failed, Options.validate] at accepted
      split at accepted
      · cases accepted
      · split at accepted <;> cases accepted
  refine ⟨valid, ?_⟩
  cases cut : scan options template with
  | ok spans => exact ⟨spans, rfl⟩
  | error error =>
    rw [outcome_parse_of_scan_error valid cut] at failed
    obtain ⟨front, rest, make, -, -, -, fault, rfl⟩ := exists_fault_of_scan cut
    cases fault <;> cases failed

theorem message_ne_of_mem_reports {earlier later : List Occurrence} {event : Event}
    (reported : event ∈ reports earlier later) :
    event.message ≠ "conflicting parameter bindings" ∧
      event.message ≠ "rejected parameter marker" := by
  induction later generalizing earlier with
  | nil => cases reported
  | cons occurrence later inductionHypothesis =>
    obtain here | behind := List.mem_append.1 reported
    · obtain ⟨identifier, rfl⟩ | ⟨identifier, expression, rfl⟩ := mem_report here
      · simp [Event.message]
      · cases identifier <;> simp [Identifier.minted, Event.message]
    · exact inductionHypothesis behind

/-- The marker that a conflict is reported for is the first one that is refused. -/
theorem endsInConflict_of_parse {options : Options} {template : Text} {identifier : Identifier}
    {existing conflicting : BindingKind}
    (failed : (Query.parse options template).outcome =
      .error (.conflictingBinding identifier existing conflicting)) :
    ∃ spans before marker after, scan options template = .ok spans ∧
      occurrences (Naming.ofSpans options.stem spans) (markers spans) =
        before ++ ⟨marker, some identifier⟩ :: after ∧
      Unopposed [] before ∧
      Refused before ⟨marker, some identifier⟩
        (.conflictingBinding identifier existing conflicting) ∧
      EndsInConflict (Query.parse options template).events
        (.conflict identifier existing conflicting) (.rejected marker.raw marker.start) := by
  obtain ⟨valid, spans, cut⟩ := scan_of_parse_conflict failed
  obtain ⟨before, occurrence, after, split, unopposed, refused⟩ :=
    refused_of_parse_error cut valid failed
  have visit := inVisit_ofSpans options.stem spans
  rw [← List.append_nil (occurrences _ _)] at visit
  have whole := events_parse_of_scan valid cut
  rw [failed] at whole
  cases id refused with
  | @conflict marker identifier first found differs =>
    have visited : (bindTemplate options.stem spans).events = _ :=
      visit.events_of_conflict split unopposed refused
    refine ⟨spans, before, marker, after, cut, split, unopposed, refused,
      .parsing (template.take Query.previewLength) :: .scanned spans.length ::
        reports [] before, ?_, ?_⟩
    · rw [whole, visited]
      simp
    · intro event member
      obtain rfl | later := List.mem_cons.1 member
      · simp [Event.message]
      · obtain rfl | reported := List.mem_cons.1 later
        · simp [Event.message]
        · exact message_ne_of_mem_reports reported

/-- What is reported of a template accounts for each of its markers when it is parsed, ends with the
first conflict when there is one, and says of no spans when the template cannot be scanned. -/
theorem log_of_parse (options : Options) (template : Text) :
    (∀ query, (Query.parse options template).outcome = .ok query →
      ∃ spans, scan options template = .ok spans ∧
        Accounted options template spans query (Query.parse options template).events) ∧
    (∀ identifier existing conflicting,
      (Query.parse options template).outcome =
        .error (.conflictingBinding identifier existing conflicting) →
      ∃ spans before marker after, scan options template = .ok spans ∧
        occurrences (Naming.ofSpans options.stem spans) (markers spans) =
          before ++ ⟨marker, some identifier⟩ :: after ∧
        Unopposed [] before ∧
        Refused before ⟨marker, some identifier⟩
          (.conflictingBinding identifier existing conflicting) ∧
        EndsInConflict (Query.parse options template).events
          (.conflict identifier existing conflicting) (.rejected marker.raw marker.start)) ∧
    ∀ error, scan options template = .error error →
      "scanned query template" ∉ (Query.parse options template).events.map Event.message := by
  refine ⟨fun query parsed => ?_, fun identifier existing conflicting => endsInConflict_of_parse,
    fun error => not_mem_messages_of_scan_error⟩
  obtain ⟨-, spans, cut⟩ := scan_of_parse_ok parsed
  exact ⟨spans, cut, accounted_of_parse cut parsed⟩

/-- An expression and a name with one occurrence more each. -/
example :
    (Query.parse {} ":#{a} :b :#{a} :b".toList).events =
      [.parsing ":#{a} :b :#{a} :b".toList, .scanned 7,
        .mintedName ['a'] "__synthetic__1".toList, .merged (.name "__synthetic__1".toList),
        .merged (.name ['b']), .parsed 2 false none] := by
  decide +kernel

end QueryTemplate
