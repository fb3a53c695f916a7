import QueryTemplate.Proofs.Cursor.Bytes

/-! # Loops with a cursor

A *walk* is a loop that goes on as long as its cursor is in front of a limit. A turn of the loop is
checked, and may end the loop with an error.

* `Walk`, `Walk.run`: the loop, when it is given a number of turns.
* `Walk.Meets`: the states that the loop comes to, however many turns that takes.
* `Walk.Advances`: no turn falls into a trap, and every turn moves the cursor on, up to the limit.
* `Walk.Invariant`: what one turn has to preserve; `Invariant.advances` and `Invariant.run` are what
  follows for the loop.
* `Passing`: a cursor behind a character, or inside it with only its later bytes to pass over.
-/

namespace QueryTemplate

structure Walk (ε σ : Type) where
  limit : Nat
  cursor : σ → Nat
  turn : σ → Checked (Except ε σ)

namespace Walk

variable {ε σ : Type}

/-- The state behind the loop, or the error that ends it. -/
def run (walk : Walk ε σ) (turns : Nat) (state : σ) : Checked (Except ε σ) :=
  if walk.cursor state < walk.limit then
    match turns with
    | 0 => .error .turns
    | turns + 1 => do
      match ← walk.turn state with
      | .error error => return .error error
      | .ok next => walk.run turns next
  else return .ok state

inductive Meets (walk : Walk ε σ) (start : σ) : σ → Prop where
  | start : Meets walk start start
  | turn {state next : σ} (met : Meets walk start state)
      (more : walk.cursor state < walk.limit) (goesOn : walk.turn state = .ok (.ok next)) :
      Meets walk start next

/-- In every state that the loop comes to, the cursor has not passed the limit; and in front of the
limit a turn is made without a trap, and moves the cursor on if it is not the last one. -/
def Advances (walk : Walk ε σ) (start : σ) : Prop :=
  ∀ state, walk.Meets start state → walk.cursor state ≤ walk.limit ∧
    (walk.cursor state < walk.limit → ∃ outcome, walk.turn state = .ok outcome ∧
      ∀ next, outcome = .ok next → walk.cursor state < walk.cursor next)

/-- A turn leads from a state in which the invariant holds to another one, further on, or ends the
loop with an error that may occur. -/
structure Invariant (walk : Walk ε σ) (Holds : σ → Prop) (Fails : ε → Prop) : Prop where
  within : ∀ state, Holds state → walk.cursor state ≤ walk.limit
  turn : ∀ state, Holds state → walk.cursor state < walk.limit →
    (∃ next, walk.turn state = .ok (.ok next) ∧ Holds next ∧
      walk.cursor state < walk.cursor next) ∨
    ∃ error, walk.turn state = .ok (.error error) ∧ Fails error

section Invariant

variable {walk : Walk ε σ} {Holds : σ → Prop} {Fails : ε → Prop} {start : σ}

theorem Invariant.meets (invariant : walk.Invariant Holds Fails) (begins : Holds start) {state : σ}
    (met : walk.Meets start state) : Holds state := by
  induction met with
  | start => exact begins
  | turn met more goesOn holds =>
    obtain ⟨next, turned, holdsNext, -⟩ | ⟨error, turned, -⟩ := invariant.turn _ holds more
    · rw [goesOn] at turned
      exact Except.ok.inj (Except.ok.inj turned) ▸ holdsNext
    · rw [goesOn] at turned
      cases turned

theorem Invariant.advances (invariant : walk.Invariant Holds Fails) (begins : Holds start) :
    walk.Advances start := by
  intro state met
  have holds := invariant.meets begins met
  refine ⟨invariant.within state holds, fun more => ?_⟩
  obtain ⟨next, turned, -, later⟩ | ⟨error, turned, -⟩ := invariant.turn state holds more
  · refine ⟨_, turned, fun other same => ?_⟩
    exact Except.ok.inj same ▸ later
  · exact ⟨_, turned, nofun⟩

/-- There are no more turns than bytes in front of the limit. -/
theorem Invariant.run (invariant : walk.Invariant Holds Fails) {turns : Nat} {state : σ}
    (holds : Holds state) (enough : walk.limit ≤ walk.cursor state + turns) :
    (∃ final, walk.run turns state = .ok (.ok final) ∧ Holds final ∧
      walk.cursor final = walk.limit) ∨
    ∃ error, walk.run turns state = .ok (.error error) ∧ Fails error := by
  induction turns generalizing state with
  | zero =>
    have atLimit : walk.cursor state = walk.limit :=
      Nat.le_antisymm (invariant.within state holds) enough
    refine .inl ⟨state, ?_, holds, atLimit⟩
    rw [Walk.run, if_neg (by omega)]
    rfl
  | succ turns inductionHypothesis =>
    rw [Walk.run]
    by_cases more : walk.cursor state < walk.limit
    · rw [if_pos more]
      obtain ⟨next, turned, holdsNext, later⟩ | ⟨error, turned, fails⟩ :=
        invariant.turn state holds more
      · simp only [turned, Checked.bind_ok]
        exact inductionHypothesis holdsNext (by omega)
      · simp only [turned, Checked.bind_ok]
        exact .inr ⟨error, rfl, fails⟩
    · rw [if_neg more]
      exact .inl ⟨state, rfl, holds, Nat.le_antisymm (invariant.within state holds) (by omega)⟩

end Invariant

end Walk

/-! ## A cursor in a text -/

/-- What is in front of the cursor is read. Of its last character some bytes may still have to be
passed over, none of which is an ASCII character. -/
structure Passing (template : Text) (cursor : Nat) (front rest : Text) : Prop where
  split : template = front ++ rest
  within : cursor ≤ front.byteSize
  inner : ∀ offset, cursor ≤ offset → offset < front.byteSize →
    ∃ byte, template.bytes[offset]? = some byte ∧ 0x80 ≤ byte.toNat

section Passing

variable {template front rest : Text} {cursor : Nat}

theorem passing_of_split (split : template = front ++ rest) (size : cursor = front.byteSize) :
    Passing template cursor front rest where
  split := split
  within := Nat.le_of_eq size
  inner := fun _ from_ before => absurd (size ▸ from_) (Nat.not_le_of_lt before)

theorem Passing.le_limit (passing : Passing template cursor front rest) :
    cursor ≤ template.bytes.length := by
  have within := passing.within
  rw [Text.length_bytes, passing.split, Text.byteSize_append]
  omega

theorem Passing.next (passing : Passing template cursor front rest)
    (inside : cursor < front.byteSize) : Passing template (cursor + 1) front rest where
  split := passing.split
  within := inside
  inner := fun offset from_ before => passing.inner offset (Nat.le_of_succ_le from_) before

/-- The first byte of a character is passed. -/
theorem passing_char (front : Text) (c : Char) (rest : Text) :
    Passing (front ++ c :: rest) (front.byteSize + 1) (front ++ [c]) rest where
  split := List.append_cons front c rest
  within := by
    have positive := c.utf8Size_pos
    simp only [Text.byteSize_append, Text.byteSize_cons, Text.byteSize_nil]
    omega
  inner := by
    intro offset from_ before
    simp only [Text.byteSize_append, Text.byteSize_cons, Text.byteSize_nil] at before
    obtain ⟨inside, rfl⟩ := Nat.exists_eq_add_of_le (Nat.le_of_succ_le from_)
    obtain ⟨byte, here, goesOn, -⟩ :=
      @exists_byte_inside c inside (by omega) (by omega) rest
    exact ⟨byte, by rw [getElem?_bytes, here], goesOn⟩

/-- At the end of the text nothing is left. -/
theorem Passing.rest_eq_nil (passing : Passing template cursor front rest)
    (atEnd : cursor = template.bytes.length) : rest = [] := by
  have within := passing.within
  rw [atEnd, Text.length_bytes, passing.split, Text.byteSize_append] at within
  exact Text.eq_nil_of_byteSize (by omega)

/-- The cursor is inside a character, or in front of one. -/
theorem Passing.cases (passing : Passing template cursor front rest)
    (more : cursor < template.bytes.length) :
    (cursor < front.byteSize ∧
      ∃ byte, template.bytes[cursor]? = some byte ∧ 0x80 ≤ byte.toNat) ∨
    cursor = front.byteSize ∧ ∃ c behind, rest = c :: behind := by
  obtain inside | behind := Nat.lt_or_eq_of_le passing.within
  · exact .inl ⟨inside, passing.inner cursor (Nat.le_refl _) inside⟩
  · refine .inr ⟨behind, ?_⟩
    cases rest with
    | nil =>
      rw [Text.length_bytes, passing.split, List.append_nil] at more
      omega
    | cons c behind => exact ⟨c, behind, rfl⟩

end Passing

end QueryTemplate
