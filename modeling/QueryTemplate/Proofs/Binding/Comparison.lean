import QueryTemplate.Proofs.Binding.Agreement

/-! # Two visits compared

A visit ends at the first occurrence that is refused. In another visit of as many markers, where the
parameters are told apart in the same way and no two kinds are told apart that were one, fewer
occurrences are refused: it goes on to the same place at least.

* `RefusedAt`, `FailsAt`: the place at which a visit, or parsing, ends.
* `outcome_parse_eq_ok_iff`, `outcome_parse_eq_error_iff`: parsing gives the query of the spans when
  no occurrence is refused, and otherwise it ends at some place.
* `Merging`, `SameCause`: how the occurrences of two visits, and their errors, go together.
* `Merging.refused`, `Merging.unopposed`: one occurrence, and a visit without failure.
* `Merging.refusedAt`: where the first visit ends when the second one does. `Merging.flip` is for
  visits that can be compared either way; they end at one place, by `Merging.refusedAt_of_flip`.
* `Merging.firsts_rel`: the bindings that come of the two visits.
-/

namespace QueryTemplate

/-! ## Where a visit ends -/

/-- The occurrence that so many others come before is the first one that is refused. -/
def RefusedAt (occurrences : List Occurrence) (place : Nat) (error : Error) : Prop :=
  ∃ before occurrence after, occurrences = before ++ occurrence :: after ∧
    before.length = place ∧ Unopposed [] before ∧ Refused before occurrence error

/-- The template can be scanned, and binding it ends at the marker that so many others come
before. -/
def FailsAt (options : Options) (template : Text) (place : Nat) (error : Error) : Prop :=
  ∃ spans, scan options template = .ok spans ∧
    RefusedAt (occurrences (Naming.ofSpans options.stem spans) (markers spans)) place error

theorem Refused.unique {earlier : List Occurrence} {occurrence : Occurrence} {one two : Error}
    (refusedOne : Refused earlier occurrence one) (refusedTwo : Refused earlier occurrence two) :
    one = two := by
  cases refusedOne with
  | noPosition =>
    cases refusedTwo with
    | noPosition => rfl
  | conflict foundOne _ =>
    cases refusedTwo with
    | conflict foundTwo _ =>
      rw [foundOne] at foundTwo
      cases foundTwo
      rfl

theorem Unopposed.concat {before : List Occurrence} {last : Occurrence}
    (unopposed : Unopposed [] before) (accepted : ∀ error, ¬Refused before last error) :
    Unopposed [] (before ++ [last]) := by
  intro front occurrence behind split
  obtain rfl | ⟨later, end_, rfl⟩ := behind.eq_nil_or_concat
  · obtain ⟨rfl, same⟩ := List.append_inj' split rfl
    obtain rfl := List.singleton_inj.1 same
    exact accepted
  · rw [List.concat_eq_append, ← List.cons_append, ← List.append_assoc] at split
    obtain ⟨rfl, -⟩ := List.append_inj' split rfl
    exact unopposed front occurrence later rfl

theorem RefusedAt.append {occurrences : List Occurrence} {place : Nat} {error : Error}
    (refused : RefusedAt occurrences place error) (later : List Occurrence) :
    RefusedAt (occurrences ++ later) place error := by
  obtain ⟨before, occurrence, after, rfl, length, unopposed, refused⟩ := refused
  exact ⟨before, occurrence, after ++ later, by simp, length, unopposed, refused⟩

theorem RefusedAt.lt_length {occurrences : List Occurrence} {place : Nat} {error : Error}
    (refused : RefusedAt occurrences place error) : place < occurrences.length := by
  obtain ⟨before, occurrence, after, rfl, rfl, -⟩ := refused
  simp

theorem exists_refusedAt {occurrences : List Occurrence} (opposed : ¬Unopposed [] occurrences) :
    ∃ place error, RefusedAt occurrences place error := by
  induction occurrences using List.reverseRecOn with
  | nil => exact absurd (unopposed_nil []) opposed
  | append_singleton before last inductionHypothesis =>
    by_cases unopposed : Unopposed [] before
    · -- Only the last occurrence can be the one that is refused.
      obtain ⟨error, refused⟩ : ∃ error, Refused before last error := by
        apply Classical.byContradiction
        intro accepted
        exact opposed (unopposed.concat fun error refused => accepted ⟨error, refused⟩)
      exact ⟨before.length, error, before, last, [], rfl, rfl, unopposed, refused⟩
    · obtain ⟨place, error, refused⟩ := inductionHypothesis unopposed
      exact ⟨place, error, refused.append [last]⟩

/-- Of two places the later one would have the earlier one among those that are not refused. -/
theorem RefusedAt.le {occurrences : List Occurrence} {place other : Nat} {error error' : Error}
    (refused : RefusedAt occurrences place error) (refused' : RefusedAt occurrences other error') :
    other ≤ place := by
  obtain ⟨before, occurrence, after, split, rfl, -, refused⟩ := refused
  obtain ⟨before', occurrence', after', split', rfl, unopposed', -⟩ := refused'
  apply Nat.le_of_not_lt
  intro shorter
  have front : before ++ [occurrence] <+: occurrences := ⟨after, by simp [split]⟩
  have front' : before' <+: occurrences := ⟨occurrence' :: after', split'.symm⟩
  obtain ⟨between, rfl⟩ := List.prefix_of_prefix_length_le front front' <| by
    rwa [List.length_append]
  exact unopposed' before occurrence between (by simp) error refused

theorem RefusedAt.unique {occurrences : List Occurrence} {place other : Nat} {error error' : Error}
    (refused : RefusedAt occurrences place error) (refused' : RefusedAt occurrences other error') :
    place = other ∧ error = error' := by
  have same : place = other := Nat.le_antisymm (refused'.le refused) (refused.le refused')
  refine ⟨same, ?_⟩
  obtain ⟨before, occurrence, after, rfl, rfl, -, refused⟩ := refused
  obtain ⟨before', occurrence', after', split, rfl, -, refused'⟩ := refused'
  obtain ⟨rfl, sameBehind⟩ := List.append_inj split same
  obtain ⟨rfl, -⟩ := List.cons.inj sameBehind
  exact refused.unique refused'

/-- What parsing gives for a template that is cut into these spans. -/
def Query.ofSpans (options : Options) (template : Text) (spans : List Span) : Query where
  template := template
  canonical := canonicalText (dress spans (identifiersOf options.stem spans))
  bindings := firsts ((occurrences (Naming.ofSpans options.stem spans)
    (markers spans)).filterMap Occurrence.binding?)
  constructs := hasConstructor (mask options.skipComments template)
  rootAlias := findAlias? (mask options.skipComments template)

section Outcome

variable {options : Options} {template : Text} {spans : List Span} (valid : options.Valid)
  (cut : scan options template = .ok spans)

include valid cut

theorem outcome_bindTemplate_of_parse_ok {query : Query}
    (parsed : (Query.parse options template).outcome = .ok query) :
    ∃ registry, (bindTemplate options.stem spans).outcome =
        .ok (dress spans (identifiersOf options.stem spans), registry) ∧
      query = .ofSpans options template spans := by
  rw [outcome_parse_of_scan valid cut] at parsed
  obtain ⟨⟨pieces, registry⟩, bound, rfl⟩ := exists_ok_of_map parsed
  obtain ⟨-, held, rfl⟩ := @bindSpans_ok _ [] _ _ _ bound
  refine ⟨registry, bound, ?_⟩
  simp only [Query.ofPieces, held]
  rfl

theorem outcome_parse_eq_ok_iff {query : Query} :
    (Query.parse options template).outcome = .ok query ↔
      Unopposed [] (occurrences (Naming.ofSpans options.stem spans) (markers spans)) ∧
        query = .ofSpans options template spans := by
  constructor
  · intro parsed
    obtain ⟨registry, -, whole⟩ := outcome_bindTemplate_of_parse_ok valid cut parsed
    exact ⟨(bound_of_parse_ok cut parsed).1, whole⟩
  · rintro ⟨unopposed, rfl⟩
    obtain ⟨query, parsed⟩ := exists_parse_ok cut valid unopposed
    obtain ⟨registry, -, rfl⟩ := outcome_bindTemplate_of_parse_ok valid cut parsed
    exact parsed

theorem outcome_parse_eq_error_iff {error : Error} :
    (Query.parse options template).outcome = .error error ↔
      ∃ place, FailsAt options template place error := by
  constructor
  · intro failed
    obtain ⟨before, occurrence, after, split, unopposed, refused⟩ :=
      refused_of_parse_error cut valid failed
    exact ⟨before.length, spans, cut, before, occurrence, after, split, rfl, unopposed, refused⟩
  · rintro ⟨place, spans', cut', refused⟩
    obtain rfl : spans = spans' := Except.ok.inj (cut.symm.trans cut')
    obtain ⟨before, occurrence, after, split, -, -, refusedHere⟩ := id refused
    -- Parsing fails, and as there is one place to fail at, it fails with this error.
    cases outcome : (Query.parse options template).outcome with
    | ok query =>
      have unopposed := (bound_of_parse_ok cut outcome).1
      exact absurd refusedHere (unopposed before occurrence after split error)
    | error other =>
      obtain ⟨front, occurrence', behind, split', unopposed, refused'⟩ :=
        refused_of_parse_error cut valid outcome
      have same := refused.unique ⟨front, occurrence', behind, split', rfl, unopposed, refused'⟩
      rw [same.2]

end Outcome

/-! ## Two visits -/

/-- Occurrences of two visits are paired off. Two of them have one parameter in both visits or in
neither, and kinds that are equal in the first visit are equal in the second one. -/
structure Merging (paired : Occurrence → Occurrence → Prop) : Prop where
  without : ∀ {first second}, paired first second →
    (first.identity = none ↔ second.identity = none)
  identity : ∀ {first first' second second'}, paired first first' → paired second second' →
    (first.identity = second.identity ↔ first'.identity = second'.identity)
  kind : ∀ {first first' second second'}, paired first first' → paired second second' →
    first.marker.kind = second.marker.kind → first'.marker.kind = second'.marker.kind

/-- The two errors are about the same occurrences. -/
inductive SameCause (paired : Occurrence → Occurrence → Prop) : Error → Error → Prop where
  | noPosition {occurrence occurrence' : Occurrence} (pair : paired occurrence occurrence') :
    SameCause paired (.invalidPosition occurrence.marker.start)
      (.invalidPosition occurrence'.marker.start)
  | conflict {first first' second second' : Occurrence} {identifier identifier' : Identifier}
    (one : paired first first') (two : paired second second')
    (identified : second.identity = some identifier)
    (identified' : second'.identity = some identifier') :
    SameCause paired
      (.conflictingBinding identifier first.marker.kind second.marker.kind)
      (.conflictingBinding identifier' first'.marker.kind second'.marker.kind)

theorem SameCause.flip {paired : Occurrence → Occurrence → Prop} {error error' : Error}
    (cause : SameCause (flip paired) error' error) : SameCause paired error error' := by
  cases cause with
  | noPosition pair => exact .noPosition pair
  | conflict one two identified' identified => exact .conflict one two identified identified'

theorem exists_split_of_forall₂ {α β : Type} {related : α → β → Prop} {first : List α}
    {before : List β} {here : β} {after : List β}
    (pairs : List.Forall₂ related first (before ++ here :: after)) :
    ∃ front one behind, first = front ++ one :: behind ∧ List.Forall₂ related front before ∧
      related one here := by
  have behindPairs := List.forall₂_drop_append _ _ _ pairs
  obtain ⟨one, behind, pair, -, split⟩ := List.forall₂_cons_right_iff.1 behindPairs
  refine ⟨first.take before.length, one, behind, ?_, List.forall₂_take_append _ _ _ pairs, pair⟩
  rw [← split, List.take_append_drop]

namespace Merging

variable {paired : Occurrence → Occurrence → Prop} (merging : Merging paired)
  {earlier earlier' : List Occurrence} {occurrence occurrence' : Occurrence}
  {identifier identifier' : Identifier}

include merging

/-- The first occurrences of paired parameters are paired. -/
theorem firstOf_rel (pairs : List.Forall₂ paired earlier earlier')
    (pair : paired occurrence occurrence') (identified : occurrence.identity = some identifier)
    (identified' : occurrence'.identity = some identifier') :
    Option.Rel paired (firstOf earlier identifier) (firstOf earlier' identifier') := by
  induction pairs with
  | nil => exact .none
  | @cons first first' rest rest' here _ inductionHypothesis =>
    have same := merging.identity here pair
    rw [identified, identified'] at same
    rw [firstOf, firstOf] at inductionHypothesis ⊢
    -- Either both searches end at this pair, or neither does.
    by_cases found : first.identity = some identifier
    · rw [List.find?_cons_of_pos (by simpa using found),
        List.find?_cons_of_pos (by simpa using same.1 found)]
      exact .some here
    · rw [List.find?_cons_of_neg (by simpa using found),
        List.find?_cons_of_neg (by simpa using mt same.2 found)]
      exact inductionHypothesis

theorem refused (pairs : List.Forall₂ paired earlier earlier')
    (pair : paired occurrence occurrence') {error' : Error}
    (refused' : Refused earlier' occurrence' error') :
    ∃ error, Refused earlier occurrence error ∧ SameCause paired error error' := by
  obtain ⟨marker, identity⟩ := occurrence
  have without := merging.without pair
  cases refused' with
  | @noPosition marker' =>
    obtain rfl : identity = none := without.2 rfl
    exact ⟨_, .noPosition, .noPosition pair⟩
  | @conflict marker' identifier' first' found' differs' =>
    obtain ⟨identifier, rfl⟩ : ∃ identifier, identity = some identifier :=
      Option.ne_none_iff_exists'.1 fun none => absurd (without.1 none) (Option.some_ne_none _)
    have firsts := merging.firstOf_rel pairs pair rfl rfl
    rw [found'] at firsts
    cases found : firstOf earlier identifier with
    | none =>
      rw [found] at firsts
      cases firsts
    | some first =>
      rw [found] at firsts
      cases firsts with
      | some one =>
        -- Kinds that were one would be one in the second visit too.
        have differs : first.marker.kind ≠ marker.kind := mt (merging.kind one pair) differs'
        exact ⟨_, .conflict found differs, .conflict one pair rfl rfl⟩

theorem unopposed (pairs : List.Forall₂ paired earlier earlier')
    (unopposed : Unopposed [] earlier) : Unopposed [] earlier' := by
  rintro before' occurrence' after' rfl error' refused'
  obtain ⟨before, occurrence, after, rfl, front, pair⟩ := exists_split_of_forall₂ pairs
  obtain ⟨error, refused, -⟩ := merging.refused front pair refused'
  exact unopposed before occurrence after rfl error refused

/-- Where the second visit is refused, the first one is, or it was refused before for a conflict
between kinds. -/
theorem refusedAt (pairs : List.Forall₂ paired earlier earlier') {place : Nat} {error' : Error}
    (refused' : RefusedAt earlier' place error') :
    ∃ place' error, RefusedAt earlier place' error ∧
      (place' = place ∧ SameCause paired error error' ∨
        place' < place ∧
          ∃ identifier existing conflicting,
            error = .conflictingBinding identifier existing conflicting) := by
  obtain ⟨before', occurrence', after', rfl, rfl, unopposed', refusedHere'⟩ := refused'
  obtain ⟨before, occurrence, after, rfl, front, pair⟩ := exists_split_of_forall₂ pairs
  by_cases unopposed : Unopposed [] before
  · obtain ⟨error, refusedHere, cause⟩ := merging.refused front pair refusedHere'
    exact ⟨before.length, error, ⟨before, occurrence, after, rfl, rfl, unopposed, refusedHere⟩,
      .inl ⟨front.length_eq, cause⟩⟩
  · obtain ⟨place', error, earlierRefused⟩ := exists_refusedAt unopposed
    refine ⟨place', error, earlierRefused.append _, .inr ⟨?_, ?_⟩⟩
    · rw [← front.length_eq]
      exact earlierRefused.lt_length
    · obtain ⟨early, one, late, rfl, -, -, refusedEarly⟩ := earlierRefused
      cases refusedEarly with
      | conflict => exact ⟨_, _, _, rfl⟩
      | noPosition =>
        -- The second visit would have ended there too.
        obtain ⟨early', one', late', rfl, -, pair⟩ := exists_split_of_forall₂ front.flip
        have identified := unopposed'.isSome one' (by simp)
        rw [(merging.without pair).1 rfl] at identified
        cases identified

/-- Visits that can be compared either way end at one place. -/
theorem refusedAt_of_flip (merging' : Merging (flip paired))
    (pairs : List.Forall₂ paired earlier earlier') {place : Nat} {error : Error}
    (refused : RefusedAt earlier place error) :
    ∃ error', RefusedAt earlier' place error' ∧ SameCause paired error error' := by
  obtain ⟨before, occurrence, after, rfl, rfl, unopposed, refusedHere⟩ := refused
  obtain ⟨before', occurrence', after', rfl, front, pair⟩ := exists_split_of_forall₂ pairs.flip
  obtain ⟨error', refusedHere', cause⟩ := merging'.refused front pair refusedHere
  have unopposed' : Unopposed [] before' := merging.unopposed front.flip unopposed
  exact ⟨error', ⟨before', occurrence', after', rfl, front.length_eq, unopposed', refusedHere'⟩,
    cause.flip⟩

/-- Visits that tell as many kinds apart can be compared either way. -/
theorem flip (kinds : ∀ {first second}, paired first second →
    first.marker.kind = second.marker.kind) : Merging (flip paired) where
  without := fun pair => (merging.without pair).symm
  identity := fun one two => (merging.identity one two).symm
  kind := by
    intro first first' second second' one two same
    rw [kinds one, kinds two, same]

end Merging

/-! ## Bindings -/

/-- The bindings are offered for paired occurrences. -/
def Offered (paired : Occurrence → Occurrence → Prop) (binding binding' : Binding) : Prop :=
  ∃ occurrence occurrence', paired occurrence occurrence' ∧
    occurrence.binding? = some binding ∧ occurrence'.binding? = some binding'

theorem firsts_rel {related : Binding → Binding → Prop}
    (alike : ∀ {first first' second second'}, related first first' → related second second' →
      (first.identifier = second.identifier ↔ first'.identifier = second'.identifier))
    {bindings bindings' : List Binding} (pairs : List.Forall₂ related bindings bindings') :
    List.Forall₂ related (firsts bindings) (firsts bindings') := by
  induction pairs with
  | nil => exact .nil
  | @cons first first' rest rest' here _ inductionHypothesis =>
    refine .cons here (List.rel_filter ?_ inductionHypothesis)
    intro other other' pair
    simpa using not_congr (alike pair here)

theorem identity_of_binding? {occurrence : Occurrence} {binding : Binding}
    (offered : occurrence.binding? = some binding) :
    occurrence.identity = some binding.identifier := by
  obtain ⟨identifier, identified, rfl⟩ := Option.map_eq_some_iff.1 offered
  exact identified

/-- The bindings of the two visits are offered for paired occurrences, one by one. -/
theorem Merging.firsts_rel {paired : Occurrence → Occurrence → Prop} (merging : Merging paired)
    {occurrences occurrences' : List Occurrence}
    (pairs : List.Forall₂ paired occurrences occurrences') :
    List.Forall₂ (Offered paired) (firsts (occurrences.filterMap Occurrence.binding?))
      (firsts (occurrences'.filterMap Occurrence.binding?)) := by
  apply QueryTemplate.firsts_rel
  · rintro one one' two two' ⟨first, first', here, offeredOne, offeredOne'⟩
      ⟨second, second', there, offeredTwo, offeredTwo'⟩
    have same := merging.identity here there
    rw [identity_of_binding? offeredOne, identity_of_binding? offeredOne',
      identity_of_binding? offeredTwo, identity_of_binding? offeredTwo'] at same
    simpa using same
  · refine List.rel_filterMap ?_ pairs
    intro first second pair
    have without := merging.without pair
    cases offered : first.binding? with
    | none =>
      rw [Occurrence.binding?, Option.map_eq_none_iff] at offered
      rw [Occurrence.binding?, without.1 offered]
      exact .none
    | some binding =>
      cases offered' : second.binding? with
      | none =>
        rw [Occurrence.binding?, Option.map_eq_none_iff] at offered'
        rw [Occurrence.binding?, without.2 offered'] at offered
        cases offered
      | some binding' => exact .some ⟨first, second, pair, offered, offered'⟩

end QueryTemplate
