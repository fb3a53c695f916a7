import Mathlib.Data.Finset.Card
import Mathlib.Order.Interval.Finset.Nat
import QueryTemplate.Proofs.Binding.Requests

/-! # The search for a name as a loop

A new expression is named by a loop: each turn goes on to the next number, and the loop ends at the
first one whose name is not written in the template. Nothing in the loop bounds its turns. They are
bounded because different numbers make different names, so that no more numbers can be passed over
than there are names to meet.

* `searchWithin?`, `Naming.runWithin?`: the loop, and the requests that are answered by it, when
  every loop is given a number of turns.
* `card_le_of_names_used`: numbers whose names are in use are no more than those names.
* `searchWithin?_eq`: the loop finds what `firstFree` finds, given a turn for each name in use and
  one more.
* `lastNumber_le`: how far the count of minted names can have run ahead of their number.
* `runWithin?_ofSpans`: both bounds, for a whole sequence of requests.
-/

namespace QueryTemplate

/-- The search above the latest number, in so many turns at most. -/
def searchWithin? (stem : Text) (used : List Text) (turns latest : Nat) : Option Nat :=
  match turns with
  | 0 => none
  | turns + 1 =>
    if used.contains (numberedName stem (latest + 1)) then
      searchWithin? stem used turns (latest + 1)
    else some (latest + 1)

namespace Naming

/-- The name of an expression, minted by the loop when it is new. -/
def nameWithin? (turns : Nat) (naming : Naming) (expression : Text) : Option (Text × Naming) :=
  match naming.name? expression with
  | some name => some (name, naming)
  | none =>
    (searchWithin? naming.stem naming.explicit turns naming.counter).map fun number =>
      let name := numberedName naming.stem number
      (name, { naming with named := (expression, name) :: naming.named, counter := number })

def answerWithin? (turns : Nat) (naming : Naming) :
    Request → Option (Except Error Identifier × Naming)
  | .name expression =>
    (naming.nameWithin? turns expression).map fun (name, after) => (.ok (.name name), after)
  | .position expression offset => some (naming.answer (.position expression offset))

/-- The answers to the requests, unless one of the loops is not over when its turns are used up. -/
def runWithin? (turns : Nat) (naming : Naming) :
    List Request → Option (List (Except Error Identifier) × Naming)
  | [] => some ([], naming)
  | request :: rest => do
    let (answer, after) ← naming.answerWithin? turns request
    let (answers, final) ← after.runWithin? turns rest
    some (answer :: answers, final)

end Naming

/-! ## Numbers whose names are in use -/

/-- Different numbers make different names. -/
theorem card_le_of_names_used {stem : Text} {used : List Text} {numbers : Finset Nat}
    (taken : ∀ number ∈ numbers, numberedName stem number ∈ used) :
    numbers.card ≤ used.toFinset.card := by
  refine Finset.card_le_card_of_injOn (numberedName stem) (fun number member => ?_) ?_
  · exact List.mem_toFinset.2 (taken number member)
  · exact fun _ _ _ _ same => numberedName_injective same

theorem firstFree_le (stem : Text) (used : List Text) (start : Nat) :
    firstFree stem used start ≤ start + used.toFinset.card := by
  have passed : (Finset.Ico start (firstFree stem used start)).card ≤ used.toFinset.card := by
    refine @card_le_of_names_used stem used _ fun number between => ?_
    obtain ⟨from_, before⟩ := Finset.mem_Ico.1 between
    exact numberedName_mem_of_lt_firstFree from_ before
  rw [Nat.card_Ico] at passed
  omega

/-! ## One search -/

/-- The loop ends at the first free number if it has enough turns to get there. -/
theorem searchWithin?_of_le {stem : Text} {used : List Text} {turns latest number : Nat}
    (later : latest < number) (enough : number ≤ latest + turns)
    (taken : ∀ other, latest < other → other < number → numberedName stem other ∈ used)
    (free : numberedName stem number ∉ used) :
    searchWithin? stem used turns latest = some number := by
  induction turns generalizing latest with
  | zero => omega
  | succ turns inductionHypothesis =>
    rw [searchWithin?]
    by_cases next : number = latest + 1
    · have unused : used.contains (numberedName stem (latest + 1)) = false := by
        simpa [← next] using free
      rw [unused, next]
      rfl
    · have met : used.contains (numberedName stem (latest + 1)) = true := by
        simpa using taken (latest + 1) (by omega) (by omega)
      rw [if_pos met]
      exact inductionHypothesis (by omega) (by omega) fun other above below =>
        taken other (by omega) below

theorem searchWithin?_eq (stem : Text) (used : List Text) (latest : Nat) :
    searchWithin? stem used (used.toFinset.card + 1) latest =
      some (firstFree stem used (latest + 1)) := by
  have near := firstFree_le stem used (latest + 1)
  apply searchWithin?_of_le (le_firstFree stem used (latest + 1)) (by omega)
  · exact fun other above below => numberedName_mem_of_lt_firstFree above below
  · exact numberedName_firstFree_not_mem stem used (latest + 1)

namespace Naming

theorem nameWithin?_eq (naming : Naming) (expression : Text) :
    naming.nameWithin? (naming.explicit.toFinset.card + 1) expression =
      some (naming.nameFor expression) := by
  rw [nameWithin?, nameFor]
  cases naming.name? expression with
  | some name => rfl
  | none =>
    rw [searchWithin?_eq]
    rfl

theorem answerWithin?_eq (naming : Naming) (request : Request) :
    naming.answerWithin? (naming.explicit.toFinset.card + 1) request =
      some (naming.answer request) := by
  cases request with
  | name expression =>
    rw [answerWithin?, nameWithin?_eq]
    rfl
  | position expression offset => rfl

theorem explicit_answer (naming : Naming) (request : Request) :
    (naming.answer request).2.explicit = naming.explicit := by
  cases request with
  | name expression => exact explicit_visit naming (.namedExpression expression)
  | position expression offset =>
    rw [answer_position]
    exact explicit_visit naming (.positionalExpression expression)

/-- The written names stay the same, and with them the turns that are enough. -/
theorem runWithin?_eq (naming : Naming) (requests : List Request) :
    naming.runWithin? (naming.explicit.toFinset.card + 1) requests =
      some (naming.run requests) := by
  induction requests generalizing naming with
  | nil => rfl
  | cons request rest inductionHypothesis =>
    have later := inductionHypothesis (naming.answer request).2
    rw [explicit_answer] at later
    rw [runWithin?, answerWithin?_eq]
    simp only [Option.bind_eq_bind, Option.bind_some, later]
    rfl

end Naming

/-! ## The count of minted names -/

section Count

variable {stem : Text} {spans : List Span}

/-- Up to the latest number, every number has made a name or its name is written in the template. -/
theorem lastNumber_le (minted : Nat) :
    lastNumber stem spans minted ≤ minted + (Naming.explicitNames spans).toFinset.card := by
  let latest := lastNumber stem spans minted
  let passed := (Finset.range (latest + 1)).filter fun number => ¬Mintable stem spans number
  have all : minted + passed.card = latest + 1 := calc
    minted + passed.card = Nat.count (Mintable stem spans) (latest + 1) + passed.card := by
      rw [count_lastNumber]
    _ = (Finset.range (latest + 1)).card := by
      rw [Nat.count_eq_card_filter_range]
      exact Finset.card_filter_add_card_filter_not _
    _ = latest + 1 := Finset.card_range _
  -- Zero makes no name either, and is not looked at.
  have zero : 0 ∈ passed :=
    Finset.mem_filter.2 ⟨by simp, fun mintable => absurd mintable.1 (by decide)⟩
  have written : (passed.erase 0).card ≤ (Naming.explicitNames spans).toFinset.card := by
    refine @card_le_of_names_used stem _ _ fun number member => ?_
    obtain ⟨positive, among⟩ := Finset.mem_erase.1 member
    have unmintable := (Finset.mem_filter.1 among).2
    rw [mintable_iff, not_and, not_not] at unmintable
    exact unmintable (Nat.one_le_iff_ne_zero.2 positive)
  rw [Finset.card_erase_of_mem zero] at written
  change latest ≤ _
  omega

end Count

theorem length_eraseDups (met : List Text) : met.eraseDups.length = met.toFinset.card := by
  induction met using List.reverseRecOn with
  | nil => rfl
  | append_singleton met expression inductionHypothesis =>
    rw [List.toFinset_append, Finset.union_comm]
    by_cases known : expression ∈ met
    · rw [eraseDups_concat_of_mem known, inductionHypothesis]
      simp [known]
    · rw [eraseDups_concat_of_not_mem known, List.length_append, inductionHypothesis]
      simp [known]

/-- Every loop in a sequence of requests is over after a turn for each written name and one more,
and the number of the latest name is at most that of the expressions named and the names written. -/
theorem runWithin?_ofSpans (stem : Text) (spans : List Span) (requests : List Request) :
    let written := (Naming.explicitNames spans).toFinset.card
    let expressions := (requests.map Request.target).filterMap Target.namedExpression?
    (Naming.ofSpans stem spans).runWithin? (written + 1) requests =
        some ((Naming.ofSpans stem spans).run requests) ∧
      ((Naming.ofSpans stem spans).run requests).2.counter ≤
        expressions.toFinset.card + written := by
  have start : Naming.Visited stem spans (List.map Request.target []) (.ofSpans stem spans) :=
    Naming.visited_ofSpans stem spans
  obtain ⟨-, visited⟩ := start.run requests
  refine ⟨(Naming.ofSpans stem spans).runWithin?_eq requests, ?_⟩
  rw [visited.names.counter, length_eraseDups]
  exact lastNumber_le _

/-- Three names are written, two of them in the way of the search. -/
example :
    let spans : List Span := ["s1", "s3", "t"].map fun name =>
      .marker ⟨0, ':' :: name.toList, .named name.toList, false, false, .plain, none⟩
    searchWithin? ['s'] (Naming.explicitNames spans) 1 0 = none ∧
      searchWithin? ['s'] (Naming.explicitNames spans) 2 0 = some 2 ∧
      searchWithin? ['s'] (Naming.explicitNames spans) 2 2 = some 4 := by
  decide +kernel

end QueryTemplate
