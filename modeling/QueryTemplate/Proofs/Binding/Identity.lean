import QueryTemplate.Options
import QueryTemplate.Proofs.Template.Spelling
import QueryTemplate.Template.Bound

/-! # The identifier of a marker

Each marker gets its identifier from the naming, and the naming changes when an expression is met
for the first time. Binding adds only events and the failure of the whole visit.

* `Naming.visit`: the identifier of a target, if there is one, and the naming after it.
* `outcome_identify`: binding a marker asks the naming and nothing else.
* `Suits`: what ties an identifier to the target it was given to.
* `Naming.Sound`: the invariant of namings; `Naming.Sound.visit` is its step, `Suits` its use.
-/

namespace QueryTemplate

/-- The identifier of a target, and the naming after the visit. Only an expression that needs a
position can go without; nothing changes then. -/
def Naming.visit (naming : Naming) : Target → Option Identifier × Naming
  | .named name => (some (.name name), naming)
  | .positional position => (some (.position position), naming)
  | .namedExpression expression =>
    (some (.name (naming.nameFor expression).1), (naming.nameFor expression).2)
  | .positionalExpression expression =>
    match naming.positionFor? expression with
    | some (position, after) => (some (.position position), after)
    | none => (none, naming)

theorem outcome_pure {α : Type} (value : α) : (pure value : Logged α).outcome = .ok value := rfl

theorem outcome_noted {α : Type} (noted : Prop) [Decidable noted] (event : Event) (value : α) :
    (do
      if noted then .note event
      pure value : Logged α).outcome = .ok value := by
  split <;> rfl

theorem outcome_identify (naming : Naming) (marker : Marker) :
    (identify naming marker).outcome =
      match naming.visit marker.target with
      | (some identifier, after) => .ok (identifier, after)
      | (none, _) => .error (.invalidPosition marker.start) := by
  unfold identify Naming.visit
  cases marker.target with
  | named name => rfl
  | positional position => rfl
  | namedExpression expression => exact outcome_noted _ _ _
  | positionalExpression expression =>
    dsimp only
    cases naming.positionFor? expression with
    | none => rfl
    | some placed => exact outcome_noted _ _ _

/-! ## Identifiers suit their targets -/

/-- An explicit marker is bound to what it spells, and an expression to a name or a position that
can be spelled. -/
structure Suits (target : Target) (identifier : Identifier) : Prop where
  explicit : target.isExpression = false → target = identifier.target
  minted : target.isExpression = true → identifier.Readable
  sameSigil : identifier.target.sigil = target.sigil

theorem Suits.of_explicit (identifier : Identifier) : Suits identifier.target identifier where
  explicit := fun _ => rfl
  minted := by cases identifier <;> simp [Identifier.target, Target.isExpression, Target.expression?]
  sameSigil := rfl

/-- What a naming holds can be spelled, and so can every name it will mint. -/
structure Naming.Sound (naming : Naming) : Prop where
  stem : (Identifier.name naming.stem).Readable
  names : ∀ expression name, naming.name? expression = some name → (Identifier.name name).Readable
  positions : ∀ expression position, naming.position? expression = some position →
    (Identifier.position position).Readable

theorem Naming.sound_ofSpans {options : Options} (valid : options.Valid) (spans : List Span) :
    (ofSpans options.stem spans).Sound where
  stem := valid
  names := by simp [ofSpans, name?]
  positions := by simp [ofSpans, position?]

theorem readable_numberedName {stem : Text} (readable : (Identifier.name stem).Readable)
    (number : Nat) : (Identifier.name (numberedName stem number)).Readable := by
  obtain ⟨nonempty, inside⟩ := readable
  refine ⟨by simp [numberedName, nonempty], fun c member => ?_⟩
  obtain member | digit := List.mem_append.1 member
  · exact inside c member
  · exact isWordChar_of_isDigit (Nat.isDigit_of_mem_toDigits (by decide) (by decide) digit)

theorem lookup_cons_eq_some {α : Type} {entries : List (Text × α)} {expression other : Text}
    {value found : α} (looked : List.lookup other ((expression, value) :: entries) = some found) :
    found = value ∨ List.lookup other entries = some found := by
  rw [List.lookup_cons] at looked
  split at looked
  · exact .inl (Option.some.inj looked).symm
  · exact .inr looked

theorem Naming.Sound.nameFor {naming : Naming} (sound : naming.Sound) (expression : Text) :
    (Identifier.name (naming.nameFor expression).1).Readable ∧
      (naming.nameFor expression).2.Sound := by
  rw [Naming.nameFor]
  cases held : naming.name? expression with
  | some name => exact ⟨sound.names expression name held, sound⟩
  | none =>
    -- The number does not matter: behind a stem of word characters any digits make a name.
    have fresh := readable_numberedName sound.stem naming.nextNumber
    refine ⟨fresh, sound.stem, fun other name looked => ?_, sound.positions⟩
    obtain rfl | older := lookup_cons_eq_some looked
    · exact fresh
    · exact sound.names other name older

theorem Naming.Sound.positionFor? {naming after : Naming} (sound : naming.Sound)
    {expression : Text} {position : Nat}
    (placed : naming.positionFor? expression = some (position, after)) :
    (Identifier.position position).Readable ∧ after.Sound := by
  rw [Naming.positionFor?] at placed
  cases held : naming.position? expression with
  | some earlier =>
    simp only [held, Option.some.injEq, Prod.mk.injEq] at placed
    obtain ⟨rfl, rfl⟩ := placed
    exact ⟨sound.positions expression earlier held, sound⟩
  | none =>
    simp only [held] at placed
    split at placed
    next room =>
      simp only [Option.some.injEq, Prod.mk.injEq] at placed
      obtain ⟨rfl, rfl⟩ := placed
      have fresh : (Identifier.position (naming.highest + 1)).Readable := ⟨by omega, room⟩
      refine ⟨fresh, sound.stem, sound.names, fun other position looked => ?_⟩
      obtain rfl | older := lookup_cons_eq_some looked
      · exact fresh
      · exact sound.positions other position older
    next => cases placed

theorem Naming.Sound.visit {naming : Naming} (sound : naming.Sound) (target : Target) :
    (naming.visit target).2.Sound := by
  unfold Naming.visit
  cases target with
  | named | positional => exact sound
  | namedExpression expression => exact (sound.nameFor expression).2
  | positionalExpression expression =>
    dsimp only
    split
    next placed => exact (sound.positionFor? placed).2
    next => exact sound

theorem Naming.Sound.suits {naming : Naming} (sound : naming.Sound) {target : Target}
    {identifier : Identifier} (visited : (naming.visit target).1 = some identifier) :
    Suits target identifier := by
  unfold Naming.visit at visited
  cases target with
  | named name =>
    cases visited
    exact .of_explicit (.name name)
  | positional position =>
    cases visited
    exact .of_explicit (.position position)
  | namedExpression expression =>
    cases visited
    exact ⟨(by simp [Target.isExpression, Target.expression?]),
      fun _ => (sound.nameFor expression).1, rfl⟩
  | positionalExpression expression =>
    dsimp only at visited
    split at visited
    next placed =>
      cases visited
      exact ⟨(by simp [Target.isExpression, Target.expression?]),
        fun _ => (sound.positionFor? placed).1, rfl⟩
    next => cases visited

end QueryTemplate
