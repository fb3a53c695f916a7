import Mathlib.Data.List.Nodup
import QueryTemplate.Proofs.Binding.Firsts

/-! # Sequences of offers

A registry takes offers one after the other, and goes on after a refusal as if the refused offer had
not been made. Whatever was offered, it holds the first binding of each parameter in the order of
the offers, and its index leads to each of them.

* `Registry.afterOffers`: a fresh registry after a sequence of offers.
* `HoldsFirsts`: what is true of the registry after every offer.
* `Registry.afterOffers_eq`: the registry has the first offers and nothing else, which is one
  induction with `Registry.offer_firsts` as its step.
* `Registry.offer_eq_ok_iff`, `Registry.refused_of_offer`: the answer to a further offer.
* `afterOffers_holdsFirsts`: the whole run, with the answer to a further offer.
-/

namespace QueryTemplate

/-- A fresh registry after the offers, the refused ones among them. -/
def Registry.afterOffers (offers : List Binding) : Registry :=
  offers.foldl (fun registry binding => (registry.offer binding).2) {}

structure HoldsFirsts (offers : List Binding) (registry : Registry) : Prop where
  bindings : registry.bindings = firsts offers
  distinct : (registry.bindings.map (·.identifier)).Nodup
  /-- The index sends a parameter to the slot of its binding, and has no others. -/
  slot : ∀ identifier slot, registry.slot? identifier = some slot ↔
    (registry.bindings[slot]?).map (·.identifier) = some identifier
  /-- What is found for a parameter is what was offered first. -/
  first : ∀ identifier, registry.find? identifier = offers.find? (·.identifier == identifier)

theorem Registry.afterOffers_eq (offers : List Binding) :
    afterOffers offers = holding (firsts offers) := by
  induction offers using List.reverseRecOn with
  | nil => rfl
  | append_singleton offers binding inductionHypothesis =>
    rw [afterOffers] at inductionHypothesis ⊢
    rw [List.foldl_append, inductionHypothesis, List.foldl_cons, List.foldl_nil, offer_firsts]

theorem Registry.slot?_holding_eq_some_iff {bindings : List Binding}
    (distinct : (bindings.map (·.identifier)).Nodup) {identifier : Identifier} {slot : Nat} :
    (holding bindings).slot? identifier = some slot ↔
      (bindings[slot]?).map (·.identifier) = some identifier := by
  rw [slot?_holding distinct, List.findIdx?_eq_some_iff_getElem, ← List.getElem?_map,
    List.getElem?_eq_some_iff]
  constructor
  · rintro ⟨inside, same, -⟩
    exact ⟨by simpa using inside, by simpa using same⟩
  · rintro ⟨inside, same⟩
    refine ⟨by simpa using inside, by simpa using same, fun earlier before other => ?_⟩
    -- An earlier binding of the same parameter would stand at the same slot.
    have sameSlot : earlier = slot := by
      have present : earlier < (bindings.map (·.identifier)).length := Nat.lt_trans before inside
      have sameIdentifier : (bindings.map (·.identifier))[earlier] = identifier := by
        simpa using other
      refine (List.getElem?_inj present distinct).1 ?_
      rw [List.getElem?_eq_getElem present, List.getElem?_eq_getElem inside, sameIdentifier, same]
    exact absurd sameSlot (Nat.ne_of_lt before)

theorem holdsFirsts_holding (offers : List Binding) :
    HoldsFirsts offers (.holding (firsts offers)) where
  bindings := rfl
  distinct := nodup_firsts offers
  slot := fun _ _ => Registry.slot?_holding_eq_some_iff (nodup_firsts offers)
  first := fun identifier => by
    rw [Registry.find?_holding (nodup_firsts offers), find?_firsts]

theorem mem_firsts_of_find? {offers : List Binding} {identifier : Identifier} {held : Binding}
    (looked : offers.find? (·.identifier == identifier) = some held) :
    held ∈ firsts offers ∧ held.identifier = identifier :=
  ⟨List.mem_of_find?_eq_some ((find?_firsts identifier offers).trans looked),
    by simpa using List.find?_some looked⟩

/-- Of one parameter only one binding is held. -/
theorem eq_of_mem_firsts {offers : List Binding} {first second : Binding}
    (member : first ∈ firsts offers) (member' : second ∈ firsts offers)
    (same : first.identifier = second.identifier) : first = second :=
  List.inj_on_of_nodup_map (nodup_firsts offers) member member' same

section Answer

variable {offers : List Binding} {binding : Binding}

theorem Registry.offer_eq_ok_iff :
    ((holding (firsts offers)).offer binding).1 = .ok () ↔
      (∀ other ∈ offers, other.identifier ≠ binding.identifier) ∨
      ∃ held ∈ firsts offers, held.identifier = binding.identifier ∧ held.kind = binding.kind := by
  rw [offer_firsts]
  cases looked : offers.find? (·.identifier == binding.identifier) with
  | none =>
    have new : ∀ other ∈ offers, other.identifier ≠ binding.identifier := by
      simpa using looked
    exact iff_of_true rfl (.inl new)
  | some held =>
    obtain ⟨member, same⟩ := mem_firsts_of_find? looked
    dsimp only
    split
    next agrees => exact iff_of_true rfl (.inr ⟨held, member, same, agrees⟩)
    next differs =>
      refine iff_of_false nofun ?_
      rintro (new | ⟨other, memberOther, sameOther, agrees⟩)
      · exact new held (List.mem_of_find?_eq_some looked) same
      · obtain rfl := eq_of_mem_firsts member memberOther (same.trans sameOther.symm)
        exact differs agrees

theorem Registry.refused_of_offer {error : Error}
    (refused : ((holding (firsts offers)).offer binding).1 = .error error) :
    ((holding (firsts offers)).offer binding).2 = holding (firsts offers) ∧
      ∃ held ∈ firsts offers, held.identifier = binding.identifier ∧ held.kind ≠ binding.kind ∧
        error = .conflictingBinding binding.identifier held.kind binding.kind := by
  rw [offer_firsts] at refused ⊢
  cases looked : offers.find? (·.identifier == binding.identifier) with
  | none =>
    rw [looked] at refused
    cases refused
  | some held =>
    obtain ⟨member, same⟩ := mem_firsts_of_find? looked
    rw [looked] at refused
    dsimp only at refused ⊢
    split at refused
    next => cases refused
    next differs =>
      cases refused
      refine ⟨?_, held, member, same, differs, rfl⟩
      rw [firsts_append_singleton, looked]
      rfl

end Answer

/-- After every sequence of offers the registry holds the first binding of each parameter, in order
and at its slot. A further offer is taken exactly if its parameter is new or is held with the same
kind; a refusal names the parameter and both kinds, and leaves the registry as it is. -/
theorem afterOffers_holdsFirsts (offers : List Binding) :
    HoldsFirsts offers (.afterOffers offers) ∧
    ∀ binding,
      (((Registry.afterOffers offers).offer binding).1 = .ok () ↔
        (∀ other ∈ offers, other.identifier ≠ binding.identifier) ∨
        ∃ held ∈ (Registry.afterOffers offers).bindings,
          held.identifier = binding.identifier ∧ held.kind = binding.kind) ∧
      ∀ error, ((Registry.afterOffers offers).offer binding).1 = .error error →
        ((Registry.afterOffers offers).offer binding).2 = .afterOffers offers ∧
        ∃ held ∈ (Registry.afterOffers offers).bindings,
          held.identifier = binding.identifier ∧ held.kind ≠ binding.kind ∧
          error = .conflictingBinding binding.identifier held.kind binding.kind := by
  rw [Registry.afterOffers_eq]
  refine ⟨holdsFirsts_holding offers, fun binding => ⟨?_, fun error refused => ?_⟩⟩
  · exact Registry.offer_eq_ok_iff
  · exact Registry.refused_of_offer refused

/-- The offer of another kind is refused, and the sequence goes on. -/
example :
    Registry.afterOffers [⟨.name ['a'], .simple, none⟩, ⟨.name ['a'], .inCollection, none⟩,
        ⟨.position 1, .simple, none⟩, ⟨.name ['a'], .simple, some ['e']⟩] =
      { bindings := [⟨.name ['a'], .simple, none⟩, ⟨.position 1, .simple, none⟩]
        index := [(.position 1, 1), (.name ['a'], 0)] } := by
  decide

end QueryTemplate
