import Mathlib.Order.Bounds.Defs
import QueryTemplate.Proofs.Binding.Numbering

/-! # Sequences of requests for identifiers

A naming answers requests one after the other, for names and for positions in any order. A request
for a position tells the byte that an error is to name; it is refused when no position is left, and
the naming goes on as if it had not been made.

* `Request`, `Naming.answer`: a request, its answer, and the naming behind it in any case.
* `outcome_identify_of_request`: binding an expression is one such request.
* `Request.expected`: the answer in terms of all the requests that are made.
* `Naming.Visited.answer`, `Naming.Visited.run`: one request, and a sequence of them.
* `run_ofSpans`: the answers to a sequence of requests and the naming behind it.
-/

namespace QueryTemplate

inductive Request where
  | name (expression : Text)
  | position (expression : Text) (offset : Nat)
  deriving DecidableEq, Repr

def Request.target : Request → Target
  | .name expression => .namedExpression expression
  | .position expression _ => .positionalExpression expression

/-- The request that an expression makes. -/
def Marker.request? (marker : Marker) : Option Request :=
  match marker.target with
  | .named _ | .positional _ => none
  | .namedExpression expression => some (.name expression)
  | .positionalExpression expression => some (.position expression marker.start)

namespace Naming

def answer (naming : Naming) : Request → Except Error Identifier × Naming
  | .name expression =>
    (.ok (.name (naming.nameFor expression).1), (naming.nameFor expression).2)
  | .position expression offset =>
    match naming.positionFor? expression with
    | some (position, after) => (.ok (.position position), after)
    | none => (.error (.invalidPosition offset), naming)

/-- The answers to the requests, and the naming behind them. -/
def run (naming : Naming) : List Request → List (Except Error Identifier) × Naming
  | [] => ([], naming)
  | request :: rest =>
    let (answer, after) := naming.answer request
    let (answers, final) := after.run rest
    (answer :: answers, final)

theorem outcome_identify_of_request {naming : Naming} {marker : Marker} {request : Request}
    (asks : marker.request? = some request) :
    (identify naming marker).outcome =
      (naming.answer request).1.map fun identifier => (identifier, (naming.answer request).2) := by
  rw [outcome_identify]
  rw [Marker.request?] at asks
  cases target : marker.target with
  | named | positional =>
    rw [target] at asks
    cases asks
  | namedExpression expression =>
    rw [target] at asks
    cases asks
    rfl
  | positionalExpression expression =>
    rw [target] at asks
    cases asks
    rw [answer, visit]
    cases naming.positionFor? expression <;> rfl

end Naming

/-! ## Answers in closed form -/

/-- What is answered to the request when all these requests are made. Only the expressions of its
own style play a part, each counted once. -/
noncomputable def Request.expected (stem : Text) (spans : List Span) (requests : List Request) :
    Request → Except Error Identifier
  | .name expression =>
    .ok (.name (nameIn stem spans
      ((requests.map target).filterMap Target.namedExpression?) expression))
  | .position expression offset =>
    match positionIn? spans ((requests.map target).filterMap Target.positionalExpression?)
        expression with
    | some number => .ok (.position number)
    | none => .error (.invalidPosition offset)

theorem Request.expected_append {stem : Text} {spans : List Span} {requests : List Request}
    {request : Request} (made : request ∈ requests) (later : List Request) :
    request.expected stem spans (requests ++ later) = request.expected stem spans requests := by
  have visited : request.target ∈ requests.map target := List.mem_map.2 ⟨request, made, rfl⟩
  cases request with
  | name expression =>
    have known : expression ∈ (requests.map target).filterMap Target.namedExpression? :=
      List.mem_filterMap.2 ⟨_, visited, rfl⟩
    rw [expected, expected, List.map_append, List.filterMap_append, nameIn_append known]
  | position expression offset =>
    have known : expression ∈ (requests.map target).filterMap Target.positionalExpression? :=
      List.mem_filterMap.2 ⟨_, visited, rfl⟩
    rw [expected, expected, List.map_append, List.filterMap_append, positionIn?_append known]

namespace Naming

section Steps

variable {stem : Text} {spans : List Span} {requests : List Request} {naming : Naming}

theorem answer_position (naming : Naming) (expression : Text) (offset : Nat) :
    naming.answer (.position expression offset) =
      (match (naming.visit (.positionalExpression expression)).1 with
        | some identifier => .ok identifier
        | none => .error (.invalidPosition offset),
      (naming.visit (.positionalExpression expression)).2) := by
  rw [answer, visit]
  cases naming.positionFor? expression <;> rfl

/-- A request is a visit of its target. -/
theorem Visited.answer (visited : Visited stem spans (requests.map Request.target) naming)
    (request : Request) :
    (naming.answer request).1 = request.expected stem spans (requests ++ [request]) ∧
      Visited stem spans ((requests ++ [request]).map Request.target)
        (naming.answer request).2 := by
  obtain ⟨given, later⟩ := visited.visit request.target
  have made : (requests ++ [request]).map Request.target =
      requests.map Request.target ++ [request.target] := List.map_append
  rw [← made] at given later
  cases request with
  | name expression => exact ⟨congrArg Except.ok (Option.some.inj given), later⟩
  | position expression offset =>
    rw [Request.target] at given later
    rw [answer_position, given, identifierIn?, Request.expected]
    refine ⟨?_, later⟩
    cases positionIn? spans _ expression <;> rfl

theorem Visited.run (visited : Visited stem spans (requests.map Request.target) naming)
    (later : List Request) :
    (naming.run later).1 = later.map (Request.expected stem spans (requests ++ later)) ∧
      Visited stem spans ((requests ++ later).map Request.target) (naming.run later).2 := by
  induction later generalizing naming requests with
  | nil =>
    rw [List.append_nil]
    exact ⟨rfl, visited⟩
  | cons request rest inductionHypothesis =>
    obtain ⟨given, next⟩ := visited.answer request
    obtain ⟨answers, final⟩ := inductionHypothesis next
    have whole : requests ++ request :: rest = requests ++ [request] ++ rest := by simp
    have made : request ∈ requests ++ [request] := by simp
    rw [whole]
    refine ⟨?_, final⟩
    -- What is requested later does not change the first answer.
    rw [Naming.run, List.map_cons, Request.expected_append made, ← given, ← answers]

/-- A refused request leaves the naming as it is. -/
theorem answer_of_error {request : Request} {error : Error}
    (refused : (naming.answer request).1 = .error error) : (naming.answer request).2 = naming := by
  cases request with
  | name expression => cases refused
  | position expression offset =>
    rw [answer] at refused ⊢
    cases placed : naming.positionFor? expression with
    | none => rfl
    | some placed' =>
      rw [placed] at refused
      cases refused

end Steps

theorem exists_of_foldl_highest (markers : List Marker) (start : Nat) :
    let highest := markers.foldl
      (fun highest marker =>
        match marker.target with
        | .positional position => max highest position
        | _ => highest)
      start
    highest = start ∨ ∃ marker ∈ markers, marker.target = .positional highest := by
  induction markers generalizing start with
  | nil => exact .inl rfl
  | cons first rest inductionHypothesis =>
    rw [List.foldl_cons]
    cases target : first.target with
    | positional position =>
      obtain unchanged | ⟨marker, member, written⟩ := inductionHypothesis (max start position)
      · dsimp only at unchanged ⊢
        rw [unchanged]
        obtain isStart | isPosition := max_choice start position
        · exact .inl isStart
        · rw [isPosition]
          exact .inr ⟨first, List.mem_cons_self, target⟩
      · exact .inr ⟨marker, List.mem_cons_of_mem _ member, written⟩
    | named | namedExpression | positionalExpression =>
      obtain unchanged | ⟨marker, member, written⟩ := inductionHypothesis start
      · exact .inl unchanged
      · exact .inr ⟨marker, List.mem_cons_of_mem _ member, written⟩

/-- Zero apart, the highest written position is written. -/
theorem isGreatest_highestPosition (spans : List Span) :
    IsGreatest {position | position = 0 ∨
      ∃ marker ∈ markers spans, marker.target = .positional position} (highestPosition spans) := by
  refine ⟨exists_of_foldl_highest (markers spans) 0, ?_⟩
  rintro position (rfl | ⟨marker, member, target⟩)
  · exact Nat.zero_le _
  · exact (le_foldl_highest (markers spans) 0).2 marker member position target

end Naming

/-- Whatever is requested in whatever order, the `i`-th expression that a name is requested for gets
the `i`-th number that makes a new name, and the `j`-th one that a position is requested for gets
the `j`-th position above the highest written one, as long as there are positions. -/
theorem run_ofSpans (stem : Text) (spans : List Span) (requests : List Request) :
    ((Naming.ofSpans stem spans).run requests).1 =
        requests.map (Request.expected stem spans requests) ∧
      Naming.Visited stem spans (requests.map Request.target)
        ((Naming.ofSpans stem spans).run requests).2 ∧
      IsGreatest {position | position = 0 ∨
        ∃ marker ∈ markers spans, marker.target = .positional position}
        (Naming.highestPosition spans) ∧
      ∀ request error,
        (((Naming.ofSpans stem spans).run requests).2.answer request).1 = .error error →
          (((Naming.ofSpans stem spans).run requests).2.answer request).2 =
            ((Naming.ofSpans stem spans).run requests).2 := by
  have start : Naming.Visited stem spans (List.map Request.target []) (.ofSpans stem spans) :=
    Naming.visited_ofSpans stem spans
  obtain ⟨answers, visited⟩ := start.run requests
  exact ⟨answers, visited, Naming.isGreatest_highestPosition spans,
    fun _ _ refused => Naming.answer_of_error refused⟩

/-- The first number is taken up by a written name, and one position is left. -/
example :
    ((Naming.ofSpans ['s']
        [.marker ⟨0, ":s1".toList, .named "s1".toList, false, false, .plain, none⟩,
          .marker ⟨3, "?18446744073709551614".toList, .positional 18446744073709551614, false,
            false, .plain, none⟩]).run
      [.name ['a'], .position ['a'] 30, .position ['b'] 40, .name ['b'], .position ['a'] 50,
        .name ['a']]).1 =
      [.ok (.name "s2".toList), .ok (.position maxPosition), .error (.invalidPosition 40),
        .ok (.name "s3".toList), .ok (.position maxPosition), .ok (.name "s2".toList)] := by
  decide +kernel

end QueryTemplate
