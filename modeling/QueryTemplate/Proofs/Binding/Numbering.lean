import Mathlib.Data.Nat.Nth
import QueryTemplate.Proofs.Binding.Hygiene

/-! # Minted identifiers in closed form

Of everything that was visited before, an expression's identifier depends on one number: how many
other expressions of its style were met first. Names count through the numbers that no written name
takes up, positions through those above the highest written one. The two counts have nothing to do
with each other.

* `Mintable`: the numbers that make a new name; `firstFree_nextNumber`: the search meets them in
  order.
* `nameIn`, `positionIn?`, `identifierIn?`: the identifier of an expression among all that are met.
* `Naming.NamesHeld`, `Naming.PositionsHeld`: a naming that has met given expressions, one half for
  each style; `NamesHeld.nameFor` and `PositionsHeld.positionFor?` are their steps.
* `Naming.Visited.visit`: one visit, from which `occurrences_ofSpans` is the whole one.
-/

namespace QueryTemplate

/-! ## Numbers for names -/

/-- The number makes a new name: it is positive, and the name is not written in the template. -/
def Mintable (stem : Text) (spans : List Span) (number : Nat) : Prop :=
  1 ≤ number ∧ ∀ marker ∈ markers spans, marker.target ≠ .named (numberedName stem number)

instance (stem : Text) (spans : List Span) : DecidablePred (Mintable stem spans) := fun number =>
  inferInstanceAs (Decidable (1 ≤ number ∧
    ∀ marker ∈ markers spans, marker.target ≠ .named (numberedName stem number)))

theorem mem_explicitNames_iff {spans : List Span} {name : Text} :
    name ∈ Naming.explicitNames spans ↔ ∃ marker ∈ markers spans, marker.target = .named name := by
  rw [Naming.explicitNames, List.mem_filterMap]
  constructor
  · rintro ⟨marker, member, written⟩
    refine ⟨marker, member, ?_⟩
    cases target : marker.target with
    | named other =>
      rw [target] at written
      exact congrArg Target.named (Option.some.inj written)
    | positional | namedExpression | positionalExpression =>
      rw [target] at written
      cases written
  · rintro ⟨marker, member, target⟩
    exact ⟨marker, member, by rw [target]⟩

theorem mintable_iff {stem : Text} {spans : List Span} {number : Nat} :
    Mintable stem spans number ↔
      1 ≤ number ∧ numberedName stem number ∉ Naming.explicitNames spans := by
  rw [Mintable, mem_explicitNames_iff]
  simp only [not_exists, not_and, ne_eq]

/-- The search passes over a number only if its name is in use. -/
theorem numberedName_mem_of_lt_firstFree {stem : Text} {used : List Text} {start number : Nat}
    (from_ : start ≤ number) (before : number < firstFree stem used start) :
    numberedName stem number ∈ used := by
  fun_induction firstFree stem used start with
  | case1 used start name met inductionHypothesis =>
    by_cases first : number = start
    · rw [first]
      simpa using met
    · exact List.mem_of_mem_erase (inductionHypothesis (by omega) before)
  | case2 used start name unused => omega

section Numbers

variable {stem : Text} {spans : List Span}

theorem mintable_firstFree {start : Nat} (positive : 1 ≤ start) :
    Mintable stem spans (firstFree stem (Naming.explicitNames spans) start) :=
  mintable_iff.2 ⟨Nat.le_trans positive (le_firstFree _ _ _),
    numberedName_firstFree_not_mem _ _ _⟩

theorem infinite_mintable : (Set.ofPred (Mintable stem spans)).Infinite := by
  apply Set.infinite_of_forall_exists_gt
  intro number
  have later := le_firstFree stem (Naming.explicitNames spans) (number + 1)
  exact ⟨_, mintable_firstFree (Nat.le_add_left 1 number), later⟩

/-- The search ends at the number that has as many mintable ones before it as its start has. -/
theorem firstFree_eq_nth {start : Nat} (positive : 1 ≤ start) :
    firstFree stem (Naming.explicitNames spans) start =
      Nat.nth (Mintable stem spans) (Nat.count (Mintable stem spans) start) := by
  have mintable := @mintable_firstFree stem spans _ positive
  have sameCount : Nat.count (Mintable stem spans) start =
      Nat.count (Mintable stem spans) (firstFree stem (Naming.explicitNames spans) start) := by
    apply Nat.le_antisymm (Nat.count_monotone _ (le_firstFree _ _ _))
    refine Nat.le_of_not_lt fun more => ?_
    -- A mintable number in between would have ended the search.
    obtain ⟨number, ⟨from_, before⟩, between⟩ := Nat.exists_of_count_lt_count more
    exact (mintable_iff.1 between).2 (numberedName_mem_of_lt_firstFree from_ before)
  rw [sameCount, Nat.nth_count mintable]

end Numbers

/-- The number of the latest name when so many names are minted. -/
noncomputable def lastNumber (stem : Text) (spans : List Span) : Nat → Nat
  | 0 => 0
  | minted + 1 => Nat.nth (Mintable stem spans) minted

/-- So many numbers up to the latest one have made a name. -/
theorem count_lastNumber {stem : Text} {spans : List Span} (minted : Nat) :
    Nat.count (Mintable stem spans) (lastNumber stem spans minted + 1) = minted := by
  cases minted with
  | zero =>
    have zero : ¬Mintable stem spans 0 := fun mintable => absurd mintable.1 (by decide)
    rw [lastNumber, Nat.count_succ, Nat.count_zero, if_neg zero]
  | succ minted => rw [lastNumber, Nat.count_nth_succ_of_infinite infinite_mintable]

theorem firstFree_nextNumber (stem : Text) (spans : List Span) (minted : Nat) :
    firstFree stem (Naming.explicitNames spans) (lastNumber stem spans minted + 1) =
      Nat.nth (Mintable stem spans) minted := by
  rw [firstFree_eq_nth (Nat.le_add_left 1 _), count_lastNumber]

/-! ## Expressions in the order in which they are met -/

section Order

variable {met : List Text} {expression : Text}

theorem eraseDups_concat_of_mem (known : expression ∈ met) :
    (met ++ [expression]).eraseDups = met.eraseDups := by
  have nothing : [expression].removeAll met = [] := by simpa [List.removeAll] using known
  rw [List.eraseDups_append, nothing, List.eraseDups_nil, List.append_nil]

theorem eraseDups_concat_of_not_mem (new : expression ∉ met) :
    (met ++ [expression]).eraseDups = met.eraseDups ++ [expression] := by
  have kept : [expression].removeAll met = [expression] := by simpa [List.removeAll] using new
  rw [List.eraseDups_append, kept, List.eraseDups_cons, List.filter_nil, List.eraseDups_nil]

/-- The place of an expression does not depend on what is met after it. -/
theorem idxOf_eraseDups_append (known : expression ∈ met) (later : List Text) :
    (met ++ later).eraseDups.idxOf expression = met.eraseDups.idxOf expression := by
  rw [List.eraseDups_append, List.idxOf_append_of_mem (List.mem_eraseDups.2 known)]

theorem idxOf_eraseDups_concat (new : expression ∉ met) :
    (met ++ [expression]).eraseDups.idxOf expression = met.eraseDups.length := by
  have absent : expression ∉ met.eraseDups := fun member => new (List.mem_eraseDups.1 member)
  rw [eraseDups_concat_of_not_mem new, List.idxOf_append_of_notMem absent]
  simp

end Order

/-! ## Identifiers among all expressions that are met -/

/-- The name of the first expression has the least mintable number, that of the next one the next
number, and so on. -/
noncomputable def nameIn (stem : Text) (spans : List Span) (met : List Text) (expression : Text) :
    Text :=
  numberedName stem (Nat.nth (Mintable stem spans) (met.eraseDups.idxOf expression))

/-- The position of the first expression is the one above the highest written position, and so on
as long as positions can be addressed. -/
def positionIn? (spans : List Span) (met : List Text) (expression : Text) : Option Nat :=
  let position := Naming.highestPosition spans + met.eraseDups.idxOf expression + 1
  if position ≤ maxPosition then some position else none

def Target.namedExpression? : Target → Option Text
  | .namedExpression expression => some expression
  | .named _ | .positional _ | .positionalExpression _ => none

def Target.positionalExpression? : Target → Option Text
  | .positionalExpression expression => some expression
  | .named _ | .positional _ | .namedExpression _ => none

/-- The identifier of a target when all these targets are visited. -/
noncomputable def identifierIn? (stem : Text) (spans : List Span) (targets : List Target) :
    Target → Option Identifier
  | .named name => some (.name name)
  | .positional position => some (.position position)
  | .namedExpression expression =>
    some (.name (nameIn stem spans (targets.filterMap Target.namedExpression?) expression))
  | .positionalExpression expression =>
    (positionIn? spans (targets.filterMap Target.positionalExpression?) expression).map .position

section Later

variable {stem : Text} {spans : List Span} {met : List Text} {expression : Text}

theorem nameIn_append (known : expression ∈ met) (later : List Text) :
    nameIn stem spans (met ++ later) expression = nameIn stem spans met expression := by
  rw [nameIn, nameIn, idxOf_eraseDups_append known]

theorem positionIn?_append (known : expression ∈ met) (later : List Text) :
    positionIn? spans (met ++ later) expression = positionIn? spans met expression := by
  rw [positionIn?, positionIn?, idxOf_eraseDups_append known]

theorem nameIn_concat (new : expression ∉ met) :
    nameIn stem spans (met ++ [expression]) expression =
      numberedName stem (Nat.nth (Mintable stem spans) met.eraseDups.length) := by
  rw [nameIn, idxOf_eraseDups_concat new]

theorem positionIn?_concat (new : expression ∉ met) :
    positionIn? spans (met ++ [expression]) expression =
      if Naming.highestPosition spans + met.eraseDups.length + 1 ≤ maxPosition then
        some (Naming.highestPosition spans + met.eraseDups.length + 1)
      else none := by
  rw [positionIn?, idxOf_eraseDups_concat new]

theorem identifierIn?_append {targets : List Target} {target : Target} (visited : target ∈ targets)
    (later : List Target) :
    identifierIn? stem spans (targets ++ later) target =
      identifierIn? stem spans targets target := by
  cases target with
  | named | positional => rfl
  | namedExpression expression =>
    have known : expression ∈ targets.filterMap Target.namedExpression? :=
      List.mem_filterMap.2 ⟨_, visited, rfl⟩
    rw [identifierIn?, identifierIn?, List.filterMap_append, nameIn_append known]
  | positionalExpression expression =>
    have known : expression ∈ targets.filterMap Target.positionalExpression? :=
      List.mem_filterMap.2 ⟨_, visited, rfl⟩
    rw [identifierIn?, identifierIn?, List.filterMap_append, positionIn?_append known]

end Later

/-! ## The naming that has met given expressions -/

/-- The table has the values of the expressions that are met, and nothing else. -/
def Tabulates {α : Type} (value : List Text → Text → Option α) (met : List Text)
    (table : Text → Option α) : Prop :=
  ∀ expression, table expression = if expression ∈ met then value met expression else none

/-- One more expression is met, which may have been met before or get no value. -/
theorem Tabulates.concat {α : Type} {value : List Text → Text → Option α} {met : List Text}
    {table after : Text → Option α} (tabulates : Tabulates value met table)
    (stable : ∀ other ∈ met, ∀ later, value (met ++ later) other = value met other)
    {expression : Text} (here : after expression = value (met ++ [expression]) expression)
    (elsewhere : ∀ other, other ≠ expression → after other = table other) :
    Tabulates value (met ++ [expression]) after := by
  intro other
  by_cases same : other = expression
  · simp [same, here]
  · rw [elsewhere other same, tabulates]
    by_cases earlier : other ∈ met
    · simp [earlier, stable other earlier]
    · simp [earlier, same]

namespace Naming

structure NamesHeld (stem : Text) (spans : List Span) (met : List Text) (naming : Naming) :
    Prop where
  sameStem : naming.stem = stem
  written : naming.explicit = explicitNames spans
  held : Tabulates (fun met expression => some (nameIn stem spans met expression)) met naming.name?
  counter : naming.counter = lastNumber stem spans met.eraseDups.length

structure PositionsHeld (spans : List Span) (met : List Text) (naming : Naming) : Prop where
  held : Tabulates (positionIn? spans) met naming.position?
  /-- Expressions that come too late leave the highest position where it is. -/
  highest : naming.highest = highestPosition spans +
    min met.eraseDups.length (maxPosition - highestPosition spans)

variable {stem : Text} {spans : List Span} {met : List Text} {naming : Naming} {expression : Text}

theorem namesHeld_ofSpans (stem : Text) (spans : List Span) :
    NamesHeld stem spans [] (ofSpans stem spans) where
  sameStem := rfl
  written := rfl
  held := fun _ => rfl
  counter := rfl

theorem positionsHeld_ofSpans (stem : Text) (spans : List Span) :
    PositionsHeld spans [] (ofSpans stem spans) where
  held := fun _ => rfl
  highest := by simp [ofSpans]

/-! ### Names -/

theorem NamesHeld.held_concat (names : NamesHeld stem spans met naming) {after : Naming}
    (here : after.name? expression = some (nameIn stem spans (met ++ [expression]) expression))
    (elsewhere : ∀ other, other ≠ expression → after.name? other = naming.name? other) :
    Tabulates (fun met expression => some (nameIn stem spans met expression))
      (met ++ [expression]) after.name? :=
  names.held.concat (fun _ earlier later => congrArg some (nameIn_append earlier later)) here
    elsewhere

theorem NamesHeld.nextNumber_eq (names : NamesHeld stem spans met naming) :
    naming.nextNumber = Nat.nth (Mintable stem spans) met.eraseDups.length := by
  rw [nextNumber, names.sameStem, names.written, names.counter, firstFree_nextNumber]

theorem NamesHeld.nameFor (names : NamesHeld stem spans met naming) (expression : Text) :
    (naming.nameFor expression).1 = nameIn stem spans (met ++ [expression]) expression ∧
      NamesHeld stem spans (met ++ [expression]) (naming.nameFor expression).2 := by
  have looked := names.held expression
  rw [Naming.nameFor]
  by_cases known : expression ∈ met
  · rw [if_pos known] at looked
    have again : nameIn stem spans (met ++ [expression]) expression =
        nameIn stem spans met expression := nameIn_append known _
    rw [looked]
    refine ⟨again.symm, names.sameStem, names.written, ?_, ?_⟩
    · exact names.held_concat (by rw [looked, again]) fun _ _ => rfl
    · rw [names.counter, eraseDups_concat_of_mem known]
  · rw [looked, if_neg known]
    have minted : numberedName naming.stem naming.nextNumber =
        nameIn stem spans (met ++ [expression]) expression := by
      rw [nameIn_concat known, names.sameStem, names.nextNumber_eq]
    refine ⟨minted, names.sameStem, names.written, names.held_concat ?_ fun other differs => ?_, ?_⟩
    · rw [← minted, name?, List.lookup_cons_self]
    · rw [name?, List.lookup_cons, beq_eq_false_iff_ne.2 differs]
      rfl
    · rw [eraseDups_concat_of_not_mem known, List.length_append, List.length_singleton, lastNumber]
      exact names.nextNumber_eq

/-- Names are handed out apart from positions. -/
theorem PositionsHeld.nameFor (positions : PositionsHeld spans met naming) (expression : Text) :
    PositionsHeld spans met (naming.nameFor expression).2 := by
  rw [Naming.nameFor]
  cases naming.name? expression with
  | some name => exact positions
  | none => exact ⟨positions.held, positions.highest⟩

/-! ### Positions -/

theorem PositionsHeld.held_concat (positions : PositionsHeld spans met naming) {after : Naming}
    (here : after.position? expression = positionIn? spans (met ++ [expression]) expression)
    (elsewhere : ∀ other, other ≠ expression → after.position? other = naming.position? other) :
    Tabulates (positionIn? spans) (met ++ [expression]) after.position? :=
  positions.held.concat (fun _ earlier later => positionIn?_append earlier later) here elsewhere

theorem PositionsHeld.of_known (positions : PositionsHeld spans met naming)
    (known : expression ∈ met) : PositionsHeld spans (met ++ [expression]) naming where
  held := by
    refine positions.held_concat ?_ fun _ _ => rfl
    rw [positions.held, if_pos known, positionIn?_append known]
  highest := by rw [positions.highest, eraseDups_concat_of_mem known]

/-- An expression that was refused a position is refused one again. -/
theorem PositionsHeld.no_room (positions : PositionsHeld spans met naming)
    (known : expression ∈ met) (refused : positionIn? spans met expression = none) :
    ¬naming.highest < maxPosition := by
  have among := List.idxOf_lt_length_of_mem (List.mem_eraseDups.2 known)
  have high := positions.highest
  rw [positionIn?] at refused
  split at refused
  next => cases refused
  next tooHigh => omega

/-- While there is room, the highest position counts the expressions. -/
theorem PositionsHeld.highest_of_room (positions : PositionsHeld spans met naming)
    (room : naming.highest < maxPosition) :
    naming.highest = highestPosition spans + met.eraseDups.length := by
  have high := positions.highest
  omega

theorem PositionsHeld.positionFor?_known (positions : PositionsHeld spans met naming)
    (known : expression ∈ met) :
    naming.positionFor? expression =
      (positionIn? spans met expression).map fun position => (position, naming) := by
  have looked := positions.held expression
  rw [if_pos known] at looked
  rw [Naming.positionFor?, looked]
  cases held : positionIn? spans met expression with
  | some position => rfl
  | none => exact if_neg (positions.no_room known held)

theorem PositionsHeld.placed (positions : PositionsHeld spans met naming)
    (new : expression ∉ met) (room : naming.highest < maxPosition) :
    positionIn? spans (met ++ [expression]) expression = some (naming.highest + 1) ∧
      PositionsHeld spans (met ++ [expression])
        { naming with
          positioned := (expression, naming.highest + 1) :: naming.positioned
          highest := naming.highest + 1 } := by
  have high := positions.highest_of_room room
  have given : positionIn? spans (met ++ [expression]) expression = some (naming.highest + 1) := by
    rw [positionIn?_concat new, ← high, if_pos (Nat.succ_le_of_lt room)]
  refine ⟨given, positions.held_concat ?_ fun other differs => ?_, ?_⟩
  · rw [given, position?, List.lookup_cons_self]
  · rw [position?, List.lookup_cons, beq_eq_false_iff_ne.2 differs]
    rfl
  · rw [eraseDups_concat_of_not_mem new, List.length_append, List.length_singleton]
    dsimp only
    omega

theorem PositionsHeld.refused (positions : PositionsHeld spans met naming)
    (new : expression ∉ met) (full : ¬naming.highest < maxPosition) :
    positionIn? spans (met ++ [expression]) expression = none ∧
      PositionsHeld spans (met ++ [expression]) naming := by
  have high := positions.highest
  have tooHigh : ¬highestPosition spans + met.eraseDups.length + 1 ≤ maxPosition := by omega
  have given : positionIn? spans (met ++ [expression]) expression = none := by
    rw [positionIn?_concat new, if_neg tooHigh]
  refine ⟨given, positions.held_concat ?_ fun _ _ => rfl, ?_⟩
  · rw [given, positions.held, if_neg new]
  · rw [eraseDups_concat_of_not_mem new, List.length_append, List.length_singleton]
    omega

theorem PositionsHeld.visit (positions : PositionsHeld spans met naming) (expression : Text) :
    (naming.visit (.positionalExpression expression)).1 =
        (positionIn? spans (met ++ [expression]) expression).map .position ∧
      PositionsHeld spans (met ++ [expression])
        (naming.visit (.positionalExpression expression)).2 := by
  rw [Naming.visit]
  by_cases known : expression ∈ met
  · rw [positions.positionFor?_known known, positionIn?_append known]
    cases positionIn? spans met expression <;> exact ⟨rfl, positions.of_known known⟩
  · have looked : naming.position? expression = none := by rw [positions.held, if_neg known]
    rw [Naming.positionFor?, looked]
    dsimp only
    by_cases room : naming.highest < maxPosition
    · obtain ⟨given, later⟩ := positions.placed known room
      rw [if_pos room, given]
      exact ⟨rfl, later⟩
    · obtain ⟨given, later⟩ := positions.refused known room
      rw [if_neg room, given]
      exact ⟨rfl, later⟩

/-- Positions are handed out apart from names. -/
theorem NamesHeld.visit_positional (names : NamesHeld stem spans met naming) (expression : Text) :
    NamesHeld stem spans met (naming.visit (.positionalExpression expression)).2 := by
  rw [Naming.visit, Naming.positionFor?]
  cases naming.position? expression with
  | some position => exact names
  | none =>
    dsimp only
    by_cases room : naming.highest < maxPosition
    · rw [if_pos room]
      exact ⟨names.sameStem, names.written, names.held, names.counter⟩
    · rw [if_neg room]
      exact names

/-! ## Visits -/

/-- The naming that has visited these targets. The names held in it and the number of the latest one
depend on the named expressions alone, and the positions on the positional ones. -/
structure Visited (stem : Text) (spans : List Span) (targets : List Target) (naming : Naming) :
    Prop where
  names : NamesHeld stem spans (targets.filterMap Target.namedExpression?) naming
  positions : PositionsHeld spans (targets.filterMap Target.positionalExpression?) naming

theorem visited_ofSpans (stem : Text) (spans : List Span) :
    Visited stem spans [] (ofSpans stem spans) :=
  ⟨namesHeld_ofSpans stem spans, positionsHeld_ofSpans stem spans⟩

theorem Visited.visit {targets : List Target} (visited : Visited stem spans targets naming)
    (target : Target) :
    (naming.visit target).1 = identifierIn? stem spans (targets ++ [target]) target ∧
      Visited stem spans (targets ++ [target]) (naming.visit target).2 := by
  obtain ⟨names, positions⟩ := visited
  cases target with
  | named | positional =>
    refine ⟨rfl, ?_, ?_⟩
    · rw [List.filterMap_append]
      exact (List.append_nil _).symm ▸ names
    · rw [List.filterMap_append]
      exact (List.append_nil _).symm ▸ positions
  | namedExpression expression =>
    obtain ⟨given, later⟩ := names.nameFor expression
    refine ⟨?_, ?_, ?_⟩
    · rw [Naming.visit, given, identifierIn?, List.filterMap_append]
      rfl
    · rw [List.filterMap_append]
      exact later
    · rw [List.filterMap_append]
      exact (List.append_nil _).symm ▸ positions.nameFor expression
  | positionalExpression expression =>
    obtain ⟨given, later⟩ := positions.visit expression
    refine ⟨?_, ?_, ?_⟩
    · rw [given, identifierIn?, List.filterMap_append]
      rfl
    · rw [List.filterMap_append]
      exact (List.append_nil _).symm ▸ names.visit_positional expression
    · rw [List.filterMap_append]
      exact later

/-- Each marker gets the identifier that its target has among those of all the markers. -/
theorem Visited.occurrences_eq {targets : List Target} (visited : Visited stem spans targets naming)
    (markers : List Marker) :
    occurrences naming markers = markers.map fun marker =>
      ⟨marker, identifierIn? stem spans (targets ++ markers.map (·.target)) marker.target⟩ := by
  induction markers generalizing naming targets with
  | nil => rfl
  | cons marker rest inductionHypothesis =>
    obtain ⟨given, later⟩ := visited.visit marker.target
    have whole : targets ++ (marker :: rest).map (·.target) =
        targets ++ [marker.target] ++ rest.map (·.target) := by simp
    have first : marker.target ∈ targets ++ [marker.target] := by simp
    rw [occurrences, given, inductionHypothesis later, whole, List.map_cons,
      identifierIn?_append first]

end Naming

theorem occurrences_ofSpans (stem : Text) (spans : List Span) :
    occurrences (Naming.ofSpans stem spans) (markers spans) = (markers spans).map fun marker =>
      ⟨marker, identifierIn? stem spans ((markers spans).map (·.target)) marker.target⟩ :=
  (Naming.visited_ofSpans stem spans).occurrences_eq (markers spans)

theorem identity_of_mem {stem : Text} {spans : List Span} {occurrence : Occurrence}
    (visited : occurrence ∈ occurrences (Naming.ofSpans stem spans) (markers spans)) :
    occurrence.identity =
      identifierIn? stem spans ((markers spans).map (·.target)) occurrence.marker.target := by
  rw [occurrences_ofSpans] at visited
  obtain ⟨marker, -, rfl⟩ := List.mem_map.1 visited
  rfl

end QueryTemplate
