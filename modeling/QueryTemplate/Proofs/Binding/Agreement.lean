import QueryTemplate.Proofs.Binding.Occurrence
import QueryTemplate.Query

/-! # Templates without disagreement

A template whose markers can be found is parsed exactly when every marker gets an identifier and
any two markers with one identifier ask for one kind of binding. The bindings are then the first
ones asked for; otherwise the first marker that cannot be bound gives the error.

* `outcome_parse_of_scan`, `outcome_parse_of_scan_error`: parsing is binding, with the rest of the
  query beside it, unless the scan fails.
* `unopposed_iff`: no occurrence is refused exactly when all of them agree, two by two.
* `parse_of_scan`: what parsing gives, said of the occurrences.
-/

namespace QueryTemplate

/-! ## Parsing and binding -/

def Query.ofPieces (options : Options) (template : Text) (pieces : List Piece)
    (registry : Registry) : Query where
  template := template
  canonical := canonicalText pieces
  bindings := registry.bindings
  constructs := hasConstructor (mask options.skipComments template)
  rootAlias := findAlias? (mask options.skipComments template)

theorem outcome_parse_of_scan {options : Options} {template : Text} {spans : List Span}
    (valid : options.Valid) (cut : scan options template = .ok spans) :
    (Query.parse options template).outcome =
      (bindTemplate options.stem spans).outcome.map
        fun (pieces, registry) => .ofPieces options template pieces registry := by
  have accepted := Options.validate_eq_ok_iff.2 valid
  have found : (Query.spansOf options template).outcome = .ok spans := by
    simp [Query.spansOf, cut, Logged.outcome_bind, Logged.note, outcome_pure, Except.bind]
  simp only [Query.parse, Logged.outcome_bind, Logged.ofExcept, accepted, Logged.note, found,
    outcome_pure, Except.bind]
  cases (bindTemplate options.stem spans).outcome <;> rfl

theorem outcome_parse_of_scan_error {options : Options} {template : Text} {error : Error}
    (valid : options.Valid) (failed : scan options template = .error error) :
    (Query.parse options template).outcome = .error error := by
  have accepted := Options.validate_eq_ok_iff.2 valid
  have failedSpans : (Query.spansOf options template).outcome = .error error := by
    simp only [Query.spansOf, failed]
    cases error <;> rfl
  simp only [Query.parse, Logged.outcome_bind, Logged.ofExcept, accepted, Logged.note, failedSpans,
    Except.bind]

theorem scan_of_parse_ok {options : Options} {template : Text} {query : Query}
    (parsed : (Query.parse options template).outcome = .ok query) :
    options.Valid ∧ ∃ spans, scan options template = .ok spans := by
  have valid : options.Valid := by
    simp only [Query.parse, Logged.outcome_bind, Logged.ofExcept] at parsed
    cases accepted : options.validate with
    | error error => simp [accepted, Except.bind] at parsed
    | ok done => exact Options.validate_eq_ok_iff.1 accepted
  refine ⟨valid, ?_⟩
  cases cut : scan options template with
  | ok spans => exact ⟨spans, rfl⟩
  | error error =>
    rw [outcome_parse_of_scan_error valid cut] at parsed
    cases parsed

/-- The alias and the constructor projection are found in the masked template. -/
theorem masked_of_parse_ok {options : Options} {template : Text} {query : Query}
    (parsed : (Query.parse options template).outcome = .ok query) :
    query.rootAlias = findAlias? (mask options.skipComments template) ∧
      query.constructs = hasConstructor (mask options.skipComments template) := by
  obtain ⟨valid, spans, cut⟩ := scan_of_parse_ok parsed
  rw [outcome_parse_of_scan valid cut] at parsed
  obtain ⟨⟨pieces, registry⟩, -, rfl⟩ := exists_ok_of_map parsed
  exact ⟨rfl, rfl⟩

def identifiersOf (stem : Text) (spans : List Span) : List Identifier :=
  (occurrences (Naming.ofSpans stem spans) (markers spans)).filterMap (·.identity)

section Parsing

variable {options : Options} {template : Text} {spans : List Span}
  (cut : scan options template = .ok spans)

include cut

theorem bound_of_parse_ok {query : Query}
    (parsed : (Query.parse options template).outcome = .ok query) :
    Unopposed [] (occurrences (Naming.ofSpans options.stem spans) (markers spans)) ∧
      query.bindings = firsts ((occurrences (Naming.ofSpans options.stem spans)
        (markers spans)).filterMap Occurrence.binding?) ∧
      query.canonical = canonicalText (dress spans (identifiersOf options.stem spans)) := by
  rw [outcome_parse_of_scan (scan_of_parse_ok parsed).1 cut] at parsed
  obtain ⟨⟨pieces, registry⟩, bound, rfl⟩ := exists_ok_of_map parsed
  obtain ⟨unopposed, held, rfl⟩ := @bindSpans_ok _ [] _ _ _ bound
  exact ⟨unopposed, held, rfl⟩

/-- A template that cannot be bound fails at the first occurrence that is refused. -/
theorem refused_of_parse_error (valid : options.Valid) {error : Error}
    (failed : (Query.parse options template).outcome = .error error) :
    ∃ before occurrence after,
      occurrences (Naming.ofSpans options.stem spans) (markers spans) =
        before ++ occurrence :: after ∧
      Unopposed [] before ∧ Refused before occurrence error := by
  rw [outcome_parse_of_scan valid cut] at failed
  exact @bindSpans_error _ [] _ _ (error_of_map failed)

theorem exists_parse_ok (valid : options.Valid)
    (unopposed : Unopposed [] (occurrences (Naming.ofSpans options.stem spans)
      (markers spans))) : ∃ query, (Query.parse options template).outcome = .ok query := by
  cases outcome : (Query.parse options template).outcome with
  | ok query => exact ⟨query, rfl⟩
  | error error =>
    obtain ⟨before, occurrence, after, split, -, refused⟩ :=
      refused_of_parse_error cut valid outcome
    exact absurd refused (unopposed before occurrence after split error)

end Parsing

/-! ## Agreement -/

/-- Any two occurrences of a parameter ask for one kind of binding. -/
def Agreeing (occurrences : List Occurrence) : Prop :=
  ∀ first ∈ occurrences, ∀ second ∈ occurrences,
    first.identity = second.identity → first.marker.kind = second.marker.kind

theorem firstOf_append {before : List Occurrence} {identifier : Identifier} {first : Occurrence}
    (found : firstOf before identifier = some first) (after : List Occurrence) :
    firstOf (before ++ after) identifier = some first := by
  rw [firstOf] at found ⊢
  rw [List.find?_append, found]
  rfl

theorem mem_of_firstOf {occurrences : List Occurrence} {identifier : Identifier}
    {first : Occurrence} (found : firstOf occurrences identifier = some first) :
    first ∈ occurrences ∧ first.identity = some identifier :=
  ⟨List.mem_of_find?_eq_some found, by simpa using List.find?_some found⟩

/-- An occurrence that is not refused is of the kind of the first one. -/
theorem Unopposed.kind_eq {occurrences : List Occurrence} (unopposed : Unopposed [] occurrences)
    {occurrence : Occurrence} (member : occurrence ∈ occurrences) {identifier : Identifier}
    (identified : occurrence.identity = some identifier) :
    ∃ first, firstOf occurrences identifier = some first ∧
      first.marker.kind = occurrence.marker.kind := by
  obtain ⟨before, after, rfl⟩ := List.append_of_mem member
  cases found : firstOf before identifier with
  | some first =>
    -- Another kind would be a reason to refuse the occurrence.
    refine ⟨first, firstOf_append found _, Decidable.byContradiction fun differs => ?_⟩
    obtain ⟨marker, identity⟩ := occurrence
    cases identified
    exact unopposed before _ after rfl _ (.conflict found differs)
  | none =>
    refine ⟨occurrence, ?_, rfl⟩
    rw [firstOf] at found ⊢
    simp [List.find?_append, found, identified]

theorem unopposed_iff {occurrences : List Occurrence} :
    Unopposed [] occurrences ↔
      (∀ occurrence ∈ occurrences, occurrence.identity.isSome = true) ∧
        Agreeing occurrences := by
  constructor
  · intro unopposed
    refine ⟨unopposed.isSome, fun first memberFirst second memberSecond same => ?_⟩
    obtain ⟨identifier, identified⟩ :=
      Option.isSome_iff_exists.1 (unopposed.isSome first memberFirst)
    obtain ⟨one, foundOne, kindOne⟩ := unopposed.kind_eq memberFirst identified
    obtain ⟨two, foundTwo, kindTwo⟩ := unopposed.kind_eq memberSecond (same ▸ identified)
    rw [foundOne] at foundTwo
    cases foundTwo
    exact kindOne.symm.trans kindTwo
  · rintro ⟨identified, agreeing⟩ before occurrence after rfl error refused
    have member : occurrence ∈ before ++ occurrence :: after := by simp
    cases refused with
    | noPosition => exact absurd (identified _ member) (by simp)
    | conflict found differs =>
      obtain ⟨memberFirst, identifiedFirst⟩ := mem_of_firstOf found
      exact differs (agreeing _ (List.mem_append_left _ memberFirst) _ member identifiedFirst)

/-! ## The outcome of parsing -/

theorem bindingFor_eq_ok_iff {query : Query} {identifier : Identifier} {binding : Binding} :
    query.bindingFor (some identifier) = .ok binding ↔
      query.bindings.find? (·.identifier == identifier) = some binding := by
  unfold Query.bindingFor
  dsimp only
  cases query.bindings.find? (·.identifier == identifier) <;> simp

theorem bindingFor_eq_firstOf {query : Query} {occurrences : List Occurrence}
    (held : query.bindings = firsts (occurrences.filterMap Occurrence.binding?))
    (identifier : Identifier) (binding : Binding) :
    query.bindingFor (some identifier) = .ok binding ↔
      ∃ first, firstOf occurrences identifier = some first ∧
        first.marker.binding identifier = binding := by
  rw [bindingFor_eq_ok_iff, held, find?_firsts, find?_bindings]
  exact Option.map_eq_some_iff

/-- Parsing accepts exactly the templates whose occurrences agree. The bindings are those of first
occurrences, a lookup finds exactly the parameters that occur, and an error is that of the first
occurrence that is refused. -/
theorem parse_of_scan {options : Options} {template : Text} {spans : List Span}
    (valid : options.Valid) (cut : scan options template = .ok spans) :
    let visited := occurrences (Naming.ofSpans options.stem spans) (markers spans)
    ((∃ query, (Query.parse options template).outcome = .ok query) ↔
      (∀ occurrence ∈ visited, occurrence.identity.isSome = true) ∧ Agreeing visited) ∧
    (∀ query, (Query.parse options template).outcome = .ok query →
      query.bindings = firsts (visited.filterMap Occurrence.binding?) ∧
      (query.bindings.map (·.identifier)).Nodup ∧
      (∀ identifier, (∃ binding, query.bindingFor (some identifier) = .ok binding) ↔
        ∃ occurrence ∈ visited, occurrence.identity = some identifier) ∧
      ∀ identifier binding, query.bindingFor (some identifier) = .ok binding →
        ∀ occurrence ∈ visited, occurrence.identity = some identifier →
          occurrence.marker.kind = binding.kind) ∧
    ∀ error, (Query.parse options template).outcome = .error error →
      ∃ before occurrence after, visited = before ++ occurrence :: after ∧
        Unopposed [] before ∧ Refused before occurrence error := by
  intro visited
  refine ⟨?_, ?_, fun error failed => refused_of_parse_error cut valid failed⟩
  · rw [← unopposed_iff]
    constructor
    · rintro ⟨query, parsed⟩
      exact (bound_of_parse_ok cut parsed).1
    · intro unopposed
      exact exists_parse_ok cut valid unopposed
  · intro query parsed
    obtain ⟨unopposed, held, -⟩ := bound_of_parse_ok cut parsed
    have looked := bindingFor_eq_firstOf held
    refine ⟨held, held ▸ nodup_firsts _, fun identifier => ⟨?_, ?_⟩, ?_⟩
    · rintro ⟨binding, found⟩
      obtain ⟨first, found, -⟩ := (looked identifier binding).1 found
      exact ⟨first, mem_of_firstOf found⟩
    · rintro ⟨occurrence, member, identified⟩
      obtain ⟨first, found, -⟩ := unopposed.kind_eq member identified
      exact ⟨_, (looked identifier _).2 ⟨first, found, rfl⟩⟩
    · intro identifier binding found occurrence member identified
      obtain ⟨first, isFirst, rfl⟩ := (looked identifier binding).1 found
      obtain ⟨other, isOther, sameKind⟩ := unopposed.kind_eq member identified
      rw [isFirst] at isOther
      cases isOther
      exact sameKind.symm

theorem parse_of_scan_disagreement :
    ∃ spans, scan {} ":a in :a".toList = .ok spans ∧
      ∃ before occurrence after,
        occurrences (Naming.ofSpans defaultStem spans) (markers spans) =
          before ++ occurrence :: after ∧
        Unopposed [] before ∧
        Refused before occurrence (.conflictingBinding (.name ['a']) .simple .inCollection) := by
  have cut : scan {} ":a in :a".toList = .ok
      [.marker ⟨0, ":a".toList, .named ['a'], false, false, .plain, none⟩,
        .literal " in ".toList,
        .marker ⟨6, ":a".toList, .named ['a'], false, false, .inList, none⟩] :=
    eq_ok_of_toOption (by decide +kernel)
  have failed : (Query.parse {} ":a in :a".toList).outcome =
      .error (.conflictingBinding (.name ['a']) .simple .inCollection) := by
    rw [outcome_parse_of_scan (by decide) cut]
    rfl
  exact ⟨_, cut, (parse_of_scan (by decide) cut).2.2 _ failed⟩

end QueryTemplate
