import Mathlib.Data.List.Induction
import QueryTemplate.Registry

/-! # First occurrences

A registry that is offered one binding after the other holds the first one for each identifier.

* `firsts`: the first binding for each identifier, in order of first occurrence.
* `find?_firsts`, `nodup_firsts`: what can be looked up, and that nothing is held twice.
* `Registry.holding`: the registry with given bindings, each at its slot; `slot?_holding`.
* `Registry.offer_firsts`, `Registry.register_firsts`: one more offer to a registry that holds first
  occurrences.
-/

namespace QueryTemplate

/-- The bindings without those whose identifier occurred before. -/
def firsts : List Binding → List Binding
  | [] => []
  | binding :: rest => binding :: (firsts rest).filter (·.identifier != binding.identifier)

theorem find?_firsts (identifier : Identifier) (bindings : List Binding) :
    (firsts bindings).find? (·.identifier == identifier) =
      bindings.find? (·.identifier == identifier) := by
  induction bindings with
  | nil => rfl
  | cons binding rest inductionHypothesis =>
    by_cases same : binding.identifier = identifier
    · simp [firsts, same]
    · have differs : (binding.identifier == identifier) = false := by simpa using same
      simp only [firsts, List.find?_cons, differs, List.find?_filter]
      rw [← inductionHypothesis]
      -- The filter drops other identifiers only.
      congr 1
      funext other
      by_cases found : other.identifier = identifier
      · simp [found, Ne.symm same]
      · simp [found]

theorem nodup_firsts (bindings : List Binding) :
    ((firsts bindings).map (·.identifier)).Nodup := by
  induction bindings with
  | nil => exact List.nodup_nil
  | cons binding rest inductionHypothesis =>
    rw [firsts, List.map_cons, List.nodup_cons]
    constructor
    · intro member
      obtain ⟨other, held, same⟩ := List.mem_map.1 member
      have differs := (List.mem_filter.1 held).2
      simp [same] at differs
    · exact inductionHypothesis.sublist (List.filter_sublist.map _)

theorem firsts_append_singleton (bindings : List Binding) (binding : Binding) :
    firsts (bindings ++ [binding]) =
      if (bindings.find? (·.identifier == binding.identifier)).isSome then firsts bindings
      else firsts bindings ++ [binding] := by
  induction bindings with
  | nil => simp [firsts]
  | cons first rest inductionHypothesis =>
    rw [List.cons_append, firsts, inductionHypothesis]
    by_cases same : first.identifier = binding.identifier
    -- The offer repeats the first binding, so that the filter drops it wherever it comes.
    · have found : ((first :: rest).find? (·.identifier == binding.identifier)).isSome := by
        simp [same]
      rw [if_pos found, firsts]
      split
      · rfl
      · simp [List.filter_append, same]
    · have differs : (first.identifier == binding.identifier) = false := by simpa using same
      simp only [List.find?_cons, differs]
      split
      · rfl
      · simp [firsts, List.filter_append, Ne.symm same]

theorem firsts_map {change : Binding → Binding}
    (keeps : ∀ binding, (change binding).identifier = binding.identifier)
    (bindings : List Binding) : firsts (bindings.map change) = (firsts bindings).map change := by
  induction bindings with
  | nil => rfl
  | cons binding rest inductionHypothesis =>
    simp only [List.map_cons, firsts, inductionHypothesis, List.filter_map, keeps]
    congr 3
    funext other
    simp [keeps]

/-! ## The registry of first occurrences -/

/-- The registry that came to hold these bindings, each at the slot where it stands. -/
def Registry.holding (bindings : List Binding) : Registry where
  bindings := bindings
  index := (bindings.map (·.identifier)).zipIdx.reverse

@[simp] theorem Registry.bindings_holding (bindings : List Binding) :
    (holding bindings).bindings = bindings := rfl

theorem Registry.holding_append_singleton (bindings : List Binding) (binding : Binding) :
    holding (bindings ++ [binding]) =
      { bindings := bindings ++ [binding]
        index := (binding.identifier, bindings.length) :: (holding bindings).index } := by
  simp [holding, List.zipIdx_append]

theorem Registry.slot?_holding {bindings : List Binding}
    (distinct : (bindings.map (·.identifier)).Nodup) (identifier : Identifier) :
    (holding bindings).slot? identifier =
      bindings.findIdx? (·.identifier == identifier) := by
  -- The latest binding stands first in the index and last among the bindings.
  induction bindings using List.reverseRecOn with
  | nil => rfl
  | append_singleton bindings binding inductionHypothesis =>
    obtain ⟨distinctBefore, -, apart⟩ := List.nodup_append.1 (List.map_append ▸ distinct)
    have before := inductionHypothesis distinctBefore
    rw [slot?] at before ⊢
    rw [holding_append_singleton, List.lookup_cons, List.findIdx?_append, before]
    by_cases same : identifier = binding.identifier
    · subst same
      have absent : bindings.findIdx? (·.identifier == binding.identifier) = none := by
        rw [List.findIdx?_eq_none_iff]
        intro other member
        simpa using apart _ (List.mem_map.2 ⟨other, member, rfl⟩) _ (by simp)
      simp [absent]
    · have differs : (identifier == binding.identifier) = false := by simpa using same
      have other : (binding.identifier == identifier) = false := by simpa using Ne.symm same
      simp [differs, other]

theorem Registry.find?_holding {bindings : List Binding}
    (distinct : (bindings.map (·.identifier)).Nodup) (identifier : Identifier) :
    (holding bindings).find? identifier = bindings.find? (·.identifier == identifier) := by
  rw [Registry.find?, slot?_holding distinct, List.find?_eq_bind_findIdx?_getElem?]
  rfl

/-- An offer to a registry that holds the first of all earlier offers. -/
theorem Registry.offer_firsts (bindings : List Binding) (binding : Binding) :
    (holding (firsts bindings)).offer binding =
      (match bindings.find? (·.identifier == binding.identifier) with
        | some held =>
          if held.kind = binding.kind then .ok ()
          else .error (.conflictingBinding binding.identifier held.kind binding.kind)
        | none => .ok (),
      holding (firsts (bindings ++ [binding]))) := by
  rw [offer, find?_holding (nodup_firsts bindings), find?_firsts, firsts_append_singleton]
  cases looked : bindings.find? (·.identifier == binding.identifier) with
  | none =>
    simp only [Option.isSome_none, Bool.false_eq_true, if_false, holding_append_singleton]
    rfl
  | some held =>
    have same : held.identifier = binding.identifier := by
      simpa using List.find?_some looked
    by_cases agrees : held.kind = binding.kind
    · simp [Binding.isCompatible, same, agrees]
    · simp [Binding.isCompatible, same, agrees]

theorem Registry.register_firsts (bindings : List Binding) (binding : Binding) :
    (holding (firsts bindings)).register binding =
      match bindings.find? (·.identifier == binding.identifier) with
      | some held =>
        if held.kind = binding.kind then .ok (holding (firsts (bindings ++ [binding])))
        else .error (.conflictingBinding binding.identifier held.kind binding.kind)
      | none => .ok (holding (firsts (bindings ++ [binding]))) := by
  rw [register, offer_firsts]
  split
  · split <;> rfl
  · rfl

end QueryTemplate
