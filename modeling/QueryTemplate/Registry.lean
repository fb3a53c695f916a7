import QueryTemplate.Error

/-! # The registry of bindings

Bindings are collected in order of first occurrence. The first occurrence of a parameter decides
how it is bound; later ones have to agree.

* `Registry`, `Registry.slot?`, `Registry.find?`: the bindings held, and the index by identifier.
* `Registry.offer`: one more occurrence, with the registry that there is afterwards in any case.
* `Registry.register`: one more occurrence that has to be taken.
-/

namespace QueryTemplate

structure Registry where
  bindings : List Binding := []
  /-- The slot of each parameter's binding, the latest parameter first. -/
  index : List (Identifier × Nat) := []
  deriving DecidableEq, Repr

namespace Registry

def slot? (registry : Registry) (identifier : Identifier) : Option Nat :=
  registry.index.lookup identifier

def find? (registry : Registry) (identifier : Identifier) : Option Binding :=
  (registry.slot? identifier).bind fun slot => registry.bindings[slot]?

/-- Offers an occurrence of a parameter. A new parameter gets a binding and a slot; a repeat has to
be bound in the way the first occurrence was, and changes nothing. -/
def offer (registry : Registry) (binding : Binding) : Except Error Unit × Registry :=
  match registry.find? binding.identifier with
  | none =>
    (.ok (),
      { bindings := registry.bindings ++ [binding]
        index := (binding.identifier, registry.bindings.length) :: registry.index })
  | some held =>
    if held.isCompatible binding then (.ok (), registry)
    else (.error (.conflictingBinding binding.identifier held.kind binding.kind), registry)

/-- The registry behind an offer that is taken. -/
def register (registry : Registry) (binding : Binding) : Except Error Registry :=
  (registry.offer binding).1.map fun _ => (registry.offer binding).2

end Registry

end QueryTemplate
