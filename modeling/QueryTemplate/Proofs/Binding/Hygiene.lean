import Mathlib.Data.List.Nodup
import QueryTemplate.Proofs.Binding.Agreement
import QueryTemplate.Proofs.Canonical.Rendering

/-! # Minted identifiers are new

The registry puts together what has one identifier and never looks at expressions. That no two
parameters fall together is therefore up to the naming: a minted name is written nowhere in the
template, a minted position lies above all written ones, and no two expressions share either.

* `numberedName_firstFree_not_mem`: the search for a number ends at a name that is not in use.
* `Naming.identifier?`: what a naming gives to a target, as a table to look up.
* `Naming.Hygienic`: the invariant of the table; `Naming.Hygienic.visit` is its step and
  `Naming.Hygienic.exists_final` the whole visit.
* `Naming.Hygienic.target_eq`: the table has one target for each identifier.
* `share_binding_iff`: two markers of a parsed template share a binding exactly when they have one
  target.
-/

namespace QueryTemplate

/-! ## Numbers not in use -/

theorem le_firstFree (stem : Text) (used : List Text) (number : Nat) :
    number ≤ firstFree stem used number := by
  fun_induction firstFree stem used number with
  | case1 used number name met inductionHypothesis => omega
  | case2 used number name unused => exact Nat.le_refl number

theorem numberedName_firstFree_not_mem (stem : Text) (used : List Text) (number : Nat) :
    numberedName stem (firstFree stem used number) ∉ used := by
  fun_induction firstFree stem used number with
  | case1 used number name met inductionHypothesis =>
    -- The name that was struck off has a smaller number than the one that is found.
    have later := le_firstFree stem (used.erase name) (number + 1)
    have other : numberedName stem (firstFree stem (used.erase name) (number + 1)) ≠ name := by
      intro same
      have sameNumber := numberedName_injective same
      omega
    intro member
    exact inductionHypothesis ((List.mem_erase_of_ne other).2 member)
  | case2 used number name unused => simpa using unused

/-! ## The table of a naming -/

/-- No two expressions have one value in the table. -/
def Apart {α : Type} (entries : List (Text × α)) : Prop :=
  ∀ first second value, entries.lookup first = some value → entries.lookup second = some value →
    first = second

theorem Apart.cons {α : Type} {entries : List (Text × α)} (apart : Apart entries) {value : α}
    (fresh : ∀ expression, entries.lookup expression ≠ some value) (expression : Text) :
    Apart ((expression, value) :: entries) := by
  intro first second found lookedFirst lookedSecond
  rw [List.lookup_cons] at lookedFirst lookedSecond
  by_cases isFirst : first = expression
  · by_cases isSecond : second = expression
    · rw [isFirst, isSecond]
    · simp only [isFirst, beq_self_eq_true, Option.some.injEq] at lookedFirst
      simp only [beq_eq_false_iff_ne.2 isSecond] at lookedSecond
      exact absurd (lookedFirst ▸ lookedSecond) (fresh second)
  · simp only [beq_eq_false_iff_ne.2 isFirst] at lookedFirst
    by_cases isSecond : second = expression
    · simp only [isSecond, beq_self_eq_true, Option.some.injEq] at lookedSecond
      exact absurd (lookedSecond ▸ lookedFirst) (fresh first)
    · simp only [beq_eq_false_iff_ne.2 isSecond] at lookedSecond
      exact apart first second found lookedFirst lookedSecond

theorem lookup_cons_of_some {α : Type} {entries : List (Text × α)} {expression other : Text}
    {found : α} (looked : entries.lookup other = some found)
    (new : entries.lookup expression = none) (value : α) :
    List.lookup other ((expression, value) :: entries) = some found := by
  have differs : other ≠ expression := by
    rintro rfl
    rw [new] at looked
    cases looked
  rw [List.lookup_cons, beq_eq_false_iff_ne.2 differs]
  exact looked

namespace Naming

/-- The identifier that the naming holds for a target. -/
def identifier? (naming : Naming) : Target → Option Identifier
  | .named name => some (.name name)
  | .positional position => some (.position position)
  | .namedExpression expression => (naming.name? expression).map .name
  | .positionalExpression expression => (naming.position? expression).map .position

theorem identifier?_target (naming : Naming) (identifier : Identifier) :
    naming.identifier? identifier.target = some identifier := by
  cases identifier <;> rfl

theorem identifier?_visit {naming : Naming} {target : Target} {identifier : Identifier}
    (visited : (naming.visit target).1 = some identifier) :
    (naming.visit target).2.identifier? target = some identifier := by
  cases target with
  | named | positional => exact visited
  | namedExpression expression =>
    simp only [visit, nameFor, identifier?] at visited ⊢
    cases held : naming.name? expression with
    | some name =>
      rw [held] at visited
      simpa [held] using visited
    | none =>
      rw [held] at visited
      simpa [name?] using visited
  | positionalExpression expression =>
    simp only [visit, positionFor?, identifier?] at visited ⊢
    cases held : naming.position? expression with
    | some position =>
      rw [held] at visited
      simpa [held] using visited
    | none =>
      rw [held] at visited
      by_cases room : naming.highest < maxPosition
      · rw [if_pos room] at visited
        simpa [room, position?] using visited
      · simp [room] at visited

/-- What is held before a visit is held after it. -/
theorem identifier?_visit_of_some {naming : Naming} {other : Target} {identifier : Identifier}
    (held : naming.identifier? other = some identifier) (target : Target) :
    (naming.visit target).2.identifier? other = some identifier := by
  cases target with
  | named | positional => exact held
  | namedExpression expression =>
    simp only [visit, nameFor]
    cases looked : naming.name? expression with
    | some name => exact held
    | none =>
      cases other with
      | named | positional | positionalExpression => exact held
      | namedExpression written =>
        obtain ⟨name, found, same⟩ := Option.map_eq_some_iff.1 held
        exact Option.map_eq_some_iff.2 ⟨name, lookup_cons_of_some found looked _, same⟩
  | positionalExpression expression =>
    simp only [visit, positionFor?]
    cases looked : naming.position? expression with
    | some position => exact held
    | none =>
      by_cases room : naming.highest < maxPosition
      · simp only [if_pos room]
        cases other with
        | named | positional | namedExpression => exact held
        | positionalExpression written =>
          obtain ⟨position, found, same⟩ := Option.map_eq_some_iff.1 held
          exact Option.map_eq_some_iff.2 ⟨position, lookup_cons_of_some found looked _, same⟩
      · simpa only [if_neg room] using held

theorem explicit_visit (naming : Naming) (target : Target) :
    (naming.visit target).2.explicit = naming.explicit := by
  cases target with
  | named | positional => rfl
  | namedExpression expression =>
    simp only [visit, nameFor]
    cases naming.name? expression <;> rfl
  | positionalExpression expression =>
    simp only [visit, positionFor?]
    cases naming.position? expression with
    | some position => rfl
    | none => by_cases room : naming.highest < maxPosition <;> simp [room]

/-! ## The invariant -/

/-- The minted names are not written in the template and the minted positions lie above the written
ones; both are in use for one expression each, and the next ones come behind them. -/
structure Hygienic (written : Nat) (naming : Naming) : Prop where
  names : ∀ expression name, naming.name? expression = some name →
    name ∉ naming.explicit ∧ ∃ number ≤ naming.counter, name = numberedName naming.stem number
  namesApart : Apart naming.named
  positions : ∀ expression position, naming.position? expression = some position →
    written < position ∧ position ≤ naming.highest
  positionsApart : Apart naming.positioned
  reached : written ≤ naming.highest

theorem hygienic_ofSpans (stem : Text) (spans : List Span) :
    (ofSpans stem spans).Hygienic (highestPosition spans) where
  names := by simp [ofSpans, name?]
  namesApart := by simp [ofSpans, Apart]
  positions := by simp [ofSpans, position?]
  positionsApart := by simp [ofSpans, Apart]
  reached := Nat.le_refl _

variable {written : Nat} {naming : Naming}

theorem Hygienic.nameFor (hygienic : naming.Hygienic written) (expression : Text) :
    (naming.nameFor expression).2.Hygienic written := by
  rw [Naming.nameFor]
  cases held : naming.name? expression with
  | some name => exact hygienic
  | none =>
    have later : naming.counter < naming.nextNumber := le_firstFree _ _ _
    have unwritten : numberedName naming.stem naming.nextNumber ∉ naming.explicit :=
      numberedName_firstFree_not_mem _ _ _
    have fresh (other : Text) :
        naming.named.lookup other ≠ some (numberedName naming.stem naming.nextNumber) := by
      intro looked
      obtain ⟨-, number, earlier, same⟩ := hygienic.names other _ looked
      have sameNumber := numberedName_injective same
      omega
    refine ⟨?_, hygienic.namesApart.cons fresh expression, hygienic.positions,
      hygienic.positionsApart, hygienic.reached⟩
    intro other name looked
    obtain rfl | older := lookup_cons_eq_some looked
    · exact ⟨unwritten, naming.nextNumber, Nat.le_refl _, rfl⟩
    · obtain ⟨apart, number, earlier, same⟩ := hygienic.names other name older
      exact ⟨apart, number, Nat.le_trans earlier (Nat.le_of_lt later), same⟩

theorem Hygienic.positionFor? (hygienic : naming.Hygienic written) {after : Naming}
    {expression : Text} {position : Nat}
    (placed : naming.positionFor? expression = some (position, after)) :
    after.Hygienic written := by
  rw [Naming.positionFor?] at placed
  cases held : naming.position? expression with
  | some earlier =>
    rw [held] at placed
    cases placed
    exact hygienic
  | none =>
    rw [held] at placed
    by_cases room : naming.highest < maxPosition
    · simp only [if_pos room, Option.some.injEq, Prod.mk.injEq] at placed
      obtain ⟨rfl, rfl⟩ := placed
      have fresh (other : Text) : naming.positioned.lookup other ≠ some (naming.highest + 1) := by
        intro looked
        have earlier := (hygienic.positions other _ looked).2
        omega
      have reached := hygienic.reached
      refine ⟨hygienic.names, hygienic.namesApart, ?_,
        hygienic.positionsApart.cons fresh expression, Nat.le_succ_of_le reached⟩
      intro other position looked
      obtain rfl | older := lookup_cons_eq_some looked
      · exact ⟨Nat.lt_succ_of_le reached, Nat.le_refl _⟩
      · obtain ⟨above, earlier⟩ := hygienic.positions other position older
        exact ⟨above, Nat.le_succ_of_le earlier⟩
    · simp only [if_neg room, reduceCtorEq] at placed

theorem Hygienic.visit (hygienic : naming.Hygienic written) (target : Target) :
    (naming.visit target).2.Hygienic written := by
  cases target with
  | named | positional => exact hygienic
  | namedExpression expression => exact hygienic.nameFor expression
  | positionalExpression expression =>
    rw [Naming.visit]
    cases placed : naming.positionFor? expression with
    | none => exact hygienic
    | some found => exact hygienic.positionFor? placed

/-- After the visit of all markers, one table holds the identifier of each of them. -/
theorem Hygienic.exists_final (hygienic : naming.Hygienic written) (markers : List Marker) :
    ∃ final : Naming, final.Hygienic written ∧ final.explicit = naming.explicit ∧
      (∀ target identifier, naming.identifier? target = some identifier →
        final.identifier? target = some identifier) ∧
      ∀ marker identifier, ⟨marker, some identifier⟩ ∈ occurrences naming markers →
        final.identifier? marker.target = some identifier := by
  induction markers generalizing naming with
  | nil => exact ⟨naming, hygienic, rfl, fun _ _ held => held, by simp [occurrences]⟩
  | cons first rest inductionHypothesis =>
    obtain ⟨final, finalHygienic, explicit, kept, later⟩ :=
      inductionHypothesis (hygienic.visit first.target)
    refine ⟨final, finalHygienic, explicit.trans (naming.explicit_visit _), ?_, ?_⟩
    · intro target identifier held
      exact kept target identifier (identifier?_visit_of_some held _)
    · intro marker identifier member
      rw [occurrences] at member
      obtain here | behind := List.mem_cons.1 member
      · obtain ⟨rfl, visited⟩ := Occurrence.mk.inj here
        exact kept _ _ (identifier?_visit visited.symm)
      · exact later marker identifier behind

/-! ## One target for each identifier -/

/-- An explicit target is a name of the list or a position that is not higher. -/
def IsWritten (explicit : List Text) (highest : Nat) : Target → Prop
  | .named name => name ∈ explicit
  | .positional position => position ≤ highest
  | .namedExpression _ | .positionalExpression _ => True

theorem identifier?_eq_name_iff {target : Target} {name : Text} :
    naming.identifier? target = some (.name name) ↔
      target = .named name ∨
        ∃ expression, target = .namedExpression expression ∧
          naming.name? expression = some name := by
  cases target <;> simp [identifier?]

theorem identifier?_eq_position_iff {target : Target} {position : Nat} :
    naming.identifier? target = some (.position position) ↔
      target = .positional position ∨
        ∃ expression, target = .positionalExpression expression ∧
          naming.position? expression = some position := by
  cases target <;> simp [identifier?]

theorem Hygienic.target_eq (hygienic : naming.Hygienic written) {first second : Target}
    {identifier : Identifier} (writtenFirst : IsWritten naming.explicit written first)
    (writtenSecond : IsWritten naming.explicit written second)
    (heldFirst : naming.identifier? first = some identifier)
    (heldSecond : naming.identifier? second = some identifier) : first = second := by
  cases identifier with
  | name name =>
    have unwritten {expression : Text} (held : naming.name? expression = some name) :
        name ∉ naming.explicit := (hygienic.names expression name held).1
    rw [identifier?_eq_name_iff] at heldFirst heldSecond
    obtain rfl | ⟨one, rfl, mintedOne⟩ := heldFirst
    · obtain rfl | ⟨two, rfl, mintedTwo⟩ := heldSecond
      · rfl
      · exact absurd writtenFirst (unwritten mintedTwo)
    · obtain rfl | ⟨two, rfl, mintedTwo⟩ := heldSecond
      · exact absurd writtenSecond (unwritten mintedOne)
      · rw [hygienic.namesApart one two name mintedOne mintedTwo]
  | position position =>
    have above {expression : Text} (held : naming.position? expression = some position) :
        ¬position ≤ written := Nat.not_le_of_lt (hygienic.positions expression position held).1
    rw [identifier?_eq_position_iff] at heldFirst heldSecond
    obtain rfl | ⟨one, rfl, mintedOne⟩ := heldFirst
    · obtain rfl | ⟨two, rfl, mintedTwo⟩ := heldSecond
      · rfl
      · exact absurd writtenFirst (above mintedTwo)
    · obtain rfl | ⟨two, rfl, mintedTwo⟩ := heldSecond
      · exact absurd writtenSecond (above mintedOne)
      · rw [hygienic.positionsApart one two position mintedOne mintedTwo]

theorem le_foldl_highest (markers : List Marker) (start : Nat) :
    let highest := markers.foldl
      (fun highest marker =>
        match marker.target with
        | .positional position => max highest position
        | _ => highest)
      start
    start ≤ highest ∧
      ∀ marker ∈ markers, ∀ position, marker.target = .positional position →
        position ≤ highest := by
  induction markers generalizing start with
  | nil => simp
  | cons first rest inductionHypothesis =>
    cases target : first.target with
    | positional position =>
      obtain ⟨grows, later⟩ := inductionHypothesis (max start position)
      simp only [List.foldl_cons, target]
      refine ⟨Nat.le_trans (Nat.le_max_left _ _) grows, fun marker member other isOther => ?_⟩
      obtain rfl | behind := List.mem_cons.1 member
      · obtain rfl := Target.positional.inj (target.symm.trans isOther)
        exact Nat.le_trans (Nat.le_max_right _ _) grows
      · exact later marker behind other isOther
    | named | namedExpression | positionalExpression =>
      obtain ⟨grows, later⟩ := inductionHypothesis start
      simp only [List.foldl_cons, target]
      refine ⟨grows, fun marker member other isOther => ?_⟩
      obtain rfl | behind := List.mem_cons.1 member
      · rw [target] at isOther
        cases isOther
      · exact later marker behind other isOther

theorem isWritten_of_mem {spans : List Span} {marker : Marker}
    (member : marker ∈ markers spans) :
    IsWritten (explicitNames spans) (highestPosition spans) marker.target := by
  cases target : marker.target with
  | named name =>
    rw [IsWritten, explicitNames]
    exact List.mem_filterMap.2 ⟨marker, member, by rw [target]⟩
  | positional position =>
    exact (le_foldl_highest (markers spans) 0).2 marker member position target
  | namedExpression | positionalExpression => trivial

end Naming

/-! ## Shared bindings -/

/-- A marker of the template refers to the binding that is found under its identifier. -/
def BoundTo (pieces : List Piece) (query : Query) (marker : Marker) (binding : Binding) : Prop :=
  ∃ offered, .bound marker offered ∈ pieces ∧
    query.bindingFor (some offered.identifier) = .ok binding

/-- The bindings of a template are shared by its parameters and by nothing else. The targets of two
markers are equal when both are explicit with one name or one position, or when both hold one
expression in one style. -/
structure SharedByTarget (spans : List Span) (pieces : List Piece) (query : Query) : Prop where
  bound : ∀ marker ∈ markers spans, ∃ binding ∈ query.bindings, BoundTo pieces query marker binding
  shared : ∀ first second one two, BoundTo pieces query first one →
    BoundTo pieces query second two → (one = two ↔ first.target = second.target)
  /-- No identifier of an expression is written anywhere in the template. -/
  minted : ∀ marker binding, BoundTo pieces query marker binding →
    marker.target.isExpression = true →
    ∀ other ∈ markers spans, other.target ≠ binding.identifier.target
  expression : ∀ binding ∈ query.bindings, ∀ expression,
    binding.expression = some expression ↔
      ∀ marker, BoundTo pieces query marker binding →
        marker.target.expression? = some expression

theorem mem_of_mem_firsts {binding : Binding} {bindings : List Binding}
    (member : binding ∈ firsts bindings) : binding ∈ bindings := by
  induction bindings with
  | nil => exact member
  | cons first rest inductionHypothesis =>
    obtain rfl | behind := List.mem_cons.1 member
    · exact List.mem_cons_self
    · exact List.mem_cons_of_mem _ (inductionHypothesis (List.mem_filter.1 behind).1)

theorem identifier_of_bindingFor {query : Query} {identifier : Identifier} {binding : Binding}
    (looked : query.bindingFor (some identifier) = .ok binding) :
    binding.identifier = identifier := by
  simpa using List.find?_some (bindingFor_eq_ok_iff.1 looked)

/-- One table holds the identifiers that a visit gives, and no two targets of the template have the
same one in it. -/
theorem exists_table (stem : Text) (spans : List Span) :
    ∃ table : Naming,
      (∀ marker identifier,
        ⟨marker, some identifier⟩ ∈ occurrences (Naming.ofSpans stem spans) (markers spans) →
          table.identifier? marker.target = some identifier) ∧
      ∀ first ∈ markers spans, ∀ second ∈ markers spans, ∀ identifier,
        table.identifier? first.target = some identifier →
        table.identifier? second.target = some identifier → first.target = second.target := by
  obtain ⟨table, hygienic, explicit, -, held⟩ :=
    (Naming.hygienic_ofSpans stem spans).exists_final (markers spans)
  refine ⟨table, held, fun first memberFirst second memberSecond identifier => ?_⟩
  have isWritten {marker : Marker} (member : marker ∈ markers spans) :
      Naming.IsWritten table.explicit (Naming.highestPosition spans) marker.target := by
    rw [explicit]
    exact Naming.isWritten_of_mem member
  exact hygienic.target_eq (isWritten memberFirst) (isWritten memberSecond)

/-- In one visit, markers get one identifier exactly when they have one target. -/
theorem identifier_eq_iff {stem : Text} {spans : List Span} {first second : Marker}
    {one two : Identifier}
    (occursFirst : ⟨first, some one⟩ ∈ occurrences (Naming.ofSpans stem spans) (markers spans))
    (occursSecond : ⟨second, some two⟩ ∈ occurrences (Naming.ofSpans stem spans) (markers spans)) :
    one = two ↔ first.target = second.target := by
  obtain ⟨table, held, single⟩ := exists_table stem spans
  have heldFirst := held first one occursFirst
  have heldSecond := held second two occursSecond
  constructor
  · rintro rfl
    exact single first (mem_of_mem_occurrences occursFirst) second
      (mem_of_mem_occurrences occursSecond) one heldFirst heldSecond
  · intro same
    rw [same, heldSecond] at heldFirst
    exact (Option.some.inj heldFirst).symm

/-- No marker is written with an identifier that an expression gets. -/
theorem target_ne_of_minted {stem : Text} {spans : List Span} {marker other : Marker}
    {identifier : Identifier}
    (occurs : ⟨marker, some identifier⟩ ∈
      occurrences (Naming.ofSpans stem spans) (markers spans))
    (minted : marker.target.isExpression = true) (member : other ∈ markers spans) :
    other.target ≠ identifier.target := by
  intro same
  obtain ⟨table, held, single⟩ := exists_table stem spans
  have heldOther : table.identifier? other.target = some identifier := by
    rw [same]
    exact table.identifier?_target identifier
  -- The explicit marker has the target of the expression, so it would be one.
  have sameTarget : marker.target = other.target :=
    single marker (mem_of_mem_occurrences occurs) other member identifier
      (held marker identifier occurs) heldOther
  rw [sameTarget, same, identifier.isExpression_target] at minted
  cases minted

section Parsed

variable {stem : Text} {spans : List Span} {query : Query}
  (unopposed : Unopposed [] (occurrences (Naming.ofSpans stem spans) (markers spans)))

include unopposed

/-- The markers that are bound to a binding are those that got its identifier. -/
theorem boundTo_iff {marker : Marker} {binding : Binding} :
    BoundTo (dress spans (identifiersOf stem spans)) query marker binding ↔
      ∃ identifier,
        ⟨marker, some identifier⟩ ∈ occurrences (Naming.ofSpans stem spans) (markers spans) ∧
        query.bindingFor (some identifier) = .ok binding := by
  constructor
  · rintro ⟨offered, member, looked⟩
    obtain ⟨identifier, occurs, rfl⟩ := exists_occurrence_of_mem_dress unopposed.isSome member
    exact ⟨identifier, occurs, looked⟩
  · rintro ⟨identifier, occurs, looked⟩
    -- The piece of the marker has the identifier, since it is the only one for the target.
    have member : Span.marker marker ∈
        (dress spans (identifiersOf stem spans)).map Piece.span := by
      rw [identifiersOf, map_span_dress unopposed.isSome]
      exact mem_markers_iff.1 (mem_of_mem_occurrences occurs)
    obtain ⟨piece, held, same⟩ := List.mem_map.1 member
    cases piece with
    | literal text => cases same
    | bound other offered =>
      cases same
      obtain ⟨minted, again, rfl⟩ := exists_occurrence_of_mem_dress unopposed.isSome held
      obtain rfl := (identifier_eq_iff occurs again).2 rfl
      exact ⟨_, held, looked⟩

variable (held : query.bindings =
  firsts ((occurrences (Naming.ofSpans stem spans) (markers spans)).filterMap
    Occurrence.binding?))

include held

theorem exists_boundTo_of_mem {marker : Marker} (member : marker ∈ markers spans) :
    ∃ binding ∈ query.bindings,
      BoundTo (dress spans (identifiersOf stem spans)) query marker binding := by
  rw [← map_marker_occurrences (Naming.ofSpans stem spans) (markers spans)] at member
  obtain ⟨⟨other, identity⟩, occurs, rfl⟩ := List.mem_map.1 member
  obtain ⟨identifier, rfl⟩ := Option.isSome_iff_exists.1 (unopposed.isSome _ occurs)
  obtain ⟨first, found, -⟩ := unopposed.kind_eq occurs rfl
  have looked := (bindingFor_eq_firstOf held identifier _).2 ⟨first, found, rfl⟩
  exact ⟨_, List.mem_of_find?_eq_some (bindingFor_eq_ok_iff.1 looked),
    (boundTo_iff unopposed).2 ⟨identifier, occurs, looked⟩⟩

/-- A binding is that of its first marker, which has the expression that is kept. -/
theorem exists_boundTo_of_mem_bindings {binding : Binding} (member : binding ∈ query.bindings) :
    ∃ first, BoundTo (dress spans (identifiersOf stem spans)) query first binding ∧
      binding.expression = first.target.expression? := by
  have offered := member
  rw [held] at offered
  obtain ⟨⟨first, identity⟩, occurs, made⟩ := List.mem_filterMap.1 (mem_of_mem_firsts offered)
  obtain ⟨identifier, rfl, rfl⟩ := Option.map_eq_some_iff.1 made
  obtain ⟨found, memberFound, bound⟩ :=
    exists_boundTo_of_mem unopposed held (mem_of_mem_occurrences occurs)
  obtain ⟨identifier', occurs', looked⟩ := (boundTo_iff unopposed).1 bound
  obtain rfl := (identifier_eq_iff occurs occurs').2 rfl
  -- No two bindings are held for one identifier.
  have nodup : (query.bindings.map (·.identifier)).Nodup := held ▸ nodup_firsts _
  obtain rfl := List.inj_on_of_nodup_map nodup memberFound member
    (identifier_of_bindingFor looked)
  exact ⟨first, bound, rfl⟩

theorem sharedByTarget :
    SharedByTarget spans (dress spans (identifiersOf stem spans)) query where
  bound := fun marker member => exists_boundTo_of_mem unopposed held member
  shared := by
    intro first second one two boundFirst boundSecond
    obtain ⟨identifier, occursFirst, lookedFirst⟩ := (boundTo_iff unopposed).1 boundFirst
    obtain ⟨identifier', occursSecond, lookedSecond⟩ := (boundTo_iff unopposed).1 boundSecond
    rw [← identifier_eq_iff occursFirst occursSecond]
    constructor
    · rintro rfl
      rw [← identifier_of_bindingFor lookedFirst, identifier_of_bindingFor lookedSecond]
    · rintro rfl
      exact Except.ok.inj (lookedFirst.symm.trans lookedSecond)
  minted := by
    intro marker binding bound isExpression other member
    obtain ⟨identifier, occurs, looked⟩ := (boundTo_iff unopposed).1 bound
    rw [identifier_of_bindingFor looked]
    exact target_ne_of_minted occurs isExpression member
  expression := by
    intro binding member expression
    obtain ⟨first, boundFirst, kept⟩ := exists_boundTo_of_mem_bindings unopposed held member
    rw [kept]
    constructor
    · intro same marker bound
      obtain ⟨identifier, occursFirst, lookedFirst⟩ := (boundTo_iff unopposed).1 boundFirst
      obtain ⟨identifier', occurs, looked⟩ := (boundTo_iff unopposed).1 bound
      obtain rfl : identifier = identifier' := by
        rw [← identifier_of_bindingFor lookedFirst, identifier_of_bindingFor looked]
      rw [← (identifier_eq_iff occursFirst occurs).1 rfl, same]
    · intro every
      exact every first boundFirst

end Parsed

/-- Two markers of a parsed template share a binding exactly when they have one target, and a
binding belongs to an expression exactly when all its markers hold that expression. -/
theorem share_binding_iff {options : Options} {template : Text} {query : Query}
    (parsed : (Query.parse options template).outcome = .ok query) :
    ∃ spans pieces registry, scan options template = .ok spans ∧
      (bindTemplate options.stem spans).outcome = .ok (pieces, registry) ∧
      query = .ofPieces options template pieces registry ∧ pieces.map Piece.span = spans ∧
      SharedByTarget spans pieces query := by
  obtain ⟨valid, spans, cut⟩ := scan_of_parse_ok parsed
  obtain ⟨unopposed, held, -⟩ := bound_of_parse_ok cut parsed
  have whole := parsed
  rw [outcome_parse_of_scan valid cut] at whole
  obtain ⟨⟨pieces, registry⟩, bound, made⟩ := exists_ok_of_map whole
  obtain ⟨-, -, rfl⟩ := @bindSpans_ok _ [] _ _ _ bound
  refine ⟨spans, _, registry, cut, bound, made.symm, map_span_dress unopposed.isSome, ?_⟩
  exact sharedByTarget unopposed held

/-- The first expression passes over a name that is written behind it, and keeps its own when it is
met again. -/
theorem share_binding_past_written_name :
    ∃ query, (Query.parse {} ":#{a} :__synthetic__1 :#{b} :#{a}".toList).outcome = .ok query ∧
      query.bindings.map (·.identifier) =
        [.name "__synthetic__2".toList, .name "__synthetic__1".toList,
          .name "__synthetic__3".toList] ∧
      ∃ spans pieces registry,
        scan {} ":#{a} :__synthetic__1 :#{b} :#{a}".toList = .ok spans ∧
        (bindTemplate defaultStem spans).outcome = .ok (pieces, registry) ∧
        query = .ofPieces {} ":#{a} :__synthetic__1 :#{b} :#{a}".toList pieces registry ∧
        pieces.map Piece.span = spans ∧ SharedByTarget spans pieces query := by
  have parsed : (Query.parse {} ":#{a} :__synthetic__1 :#{b} :#{a}".toList).outcome = .ok
      { template := ":#{a} :__synthetic__1 :#{b} :#{a}".toList
        canonical := ":__synthetic__2 :__synthetic__1 :__synthetic__3 :__synthetic__2".toList
        bindings := [⟨.name "__synthetic__2".toList, .simple, some ['a']⟩,
          ⟨.name "__synthetic__1".toList, .simple, none⟩,
          ⟨.name "__synthetic__3".toList, .simple, some ['b']⟩]
        constructs := false
        rootAlias := none } :=
    eq_ok_of_toOption (by decide +kernel)
  exact ⟨_, parsed, rfl, share_binding_iff parsed⟩

end QueryTemplate
