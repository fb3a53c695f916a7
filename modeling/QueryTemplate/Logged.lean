import QueryTemplate.Event

/-! # Logged computations

A *logged* computation reports events on its way to a result or an error. Events reported before
an error are kept.

* `Logged`: events and outcome, with the operations of a monad.
* `Logged.note`, `Logged.fail`: one event, and failure.
* `Logged.events_bind`, `Logged.outcome_bind`: what a sequence of two computations does.
* `exists_ok_of_map`, `error_of_map`: the outcome behind a mapped one.
-/

namespace QueryTemplate

structure Logged (α : Type) where
  events : List Event
  outcome : Except Error α

namespace Logged

/-- The second computation runs only if the first one succeeds. -/
def andThen {α β : Type} (first : Logged α) (second : α → Logged β) : Logged β :=
  match first.outcome with
  | .error error => ⟨first.events, .error error⟩
  | .ok value => ⟨first.events ++ (second value).events, (second value).outcome⟩

instance : Monad Logged where
  pure value := ⟨[], .ok value⟩
  bind := andThen

def note (event : Event) : Logged Unit := ⟨[event], .ok ()⟩

def fail {α : Type} (error : Error) : Logged α := ⟨[], .error error⟩

def ofExcept {α : Type} (outcome : Except Error α) : Logged α := ⟨[], outcome⟩

theorem events_bind {α β : Type} (first : Logged α) (second : α → Logged β) :
    (first >>= second).events =
      match first.outcome with
      | .error _ => first.events
      | .ok value => first.events ++ (second value).events := by
  simp only [bind, andThen]
  split <;> rfl

theorem outcome_bind {α β : Type} (first : Logged α) (second : α → Logged β) :
    (first >>= second).outcome = first.outcome.bind fun value => (second value).outcome := by
  simp only [bind, andThen, Except.bind]
  split <;> next same => simp [same]

end Logged

theorem eq_ok_of_toOption {α : Type} {result : Except Error α} {value : α}
    (present : result.toOption = some value) : result = .ok value := by
  cases result with
  | error error => cases present
  | ok inner => exact congrArg Except.ok (Option.some.inj present)

theorem exists_ok_of_map {α β : Type} {f : α → β} {result : Except Error α} {value : β}
    (mapped : result.map f = .ok value) : ∃ inner, result = .ok inner ∧ f inner = value := by
  cases result with
  | error error => cases mapped
  | ok inner => exact ⟨inner, rfl, Except.ok.inj mapped⟩

theorem error_of_map {α β : Type} {f : α → β} {result : Except Error α} {error : Error}
    (mapped : result.map f = .error error) : result = .error error := by
  cases result with
  | error other => exact congrArg Except.error (Except.error.inj mapped)
  | ok inner => cases mapped

end QueryTemplate
