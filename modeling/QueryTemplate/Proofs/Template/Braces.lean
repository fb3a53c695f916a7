import QueryTemplate.Template.Target

/-! # The depth of braces

An expression ends at the brace that brings the depth back to where it was in front of the opening
one. The reader counts the open braces up and down; here the depth is a number that every text has.

* `braceDepth`: the opening braces of a text less its closing ones.
* `StaysOpen`: nowhere in a text so many braces are closed that the depth falls below zero.
* `payload?_eq_some_iff`, `payload?_eq_none_iff`: the reader stops at the first brace that does so,
  and finds nothing when there is none.
* `ClosesAtEnd`: a text from an opening brace to the closing one.
-/

namespace QueryTemplate

def braceDepth (text : Text) : Int := (text.count '{' : Int) - text.count '}'

@[simp] theorem braceDepth_nil : braceDepth [] = 0 := rfl

theorem braceDepth_opening (text : Text) : braceDepth ('{' :: text) = braceDepth text + 1 := by
  simp [braceDepth]
  omega

theorem braceDepth_closing (text : Text) : braceDepth ('}' :: text) = braceDepth text - 1 := by
  simp [braceDepth]
  omega

theorem braceDepth_other {c : Char} (noOpening : c ≠ '{') (noClosing : c ≠ '}') (text : Text) :
    braceDepth (c :: text) = braceDepth text := by
  simp [braceDepth, noOpening, noClosing]

theorem braceDepth_append (first second : Text) :
    braceDepth (first ++ second) = braceDepth first + braceDepth second := by
  simp [braceDepth]
  omega

/-- With so many braces open in front of the text, none too many is closed in it. -/
def StaysOpen (depth : Nat) (text : Text) : Prop :=
  ∀ front, front <+: text → 0 ≤ depth + braceDepth front

theorem staysOpen_nil (depth : Nat) : StaysOpen depth [] := by
  intro front isPrefix
  obtain rfl := List.prefix_nil.1 isPrefix
  simp

theorem staysOpen_cons_iff {depth depth' : Nat} {c : Char} {text : Text}
    (step : ∀ front, (depth : Int) + braceDepth (c :: front) = depth' + braceDepth front) :
    StaysOpen depth (c :: text) ↔ StaysOpen depth' text := by
  constructor
  · intro stays front isPrefix
    rw [← step]
    exact stays (c :: front) ((List.prefix_cons_inj c).2 isPrefix)
  · intro stays front isPrefix
    obtain rfl | ⟨later, rfl, inside⟩ := List.prefix_cons_iff.1 isPrefix
    · simp
    · rw [step]
      exact stays later inside

theorem not_staysOpen_closing (text : Text) : ¬StaysOpen 0 ('}' :: text) := by
  intro stays
  have closed := stays ['}'] ⟨text, rfl⟩
  rw [braceDepth_closing, braceDepth_nil] at closed
  omega

/-! ## The reader -/

theorem payload?_of_other {depth : Nat} {c : Char} (noOpening : c ≠ '{') (noClosing : c ≠ '}')
    (rest : Text) :
    payload? depth (c :: rest) =
      (payload? depth rest).map fun (inner, after) => (c :: inner, after) := by
  cases depth <;> simp only [payload?, if_neg noOpening, if_neg noClosing]

theorem payload?_opening (depth : Nat) (rest : Text) :
    payload? depth ('{' :: rest) =
      (payload? (depth + 1) rest).map fun (inner, after) => ('{' :: inner, after) := by
  cases depth <;> simp only [payload?, if_true]

theorem payload?_closing (depth : Nat) (rest : Text) :
    payload? (depth + 1) ('}' :: rest) =
      (payload? depth rest).map fun (inner, after) => ('}' :: inner, after) := by
  rw [payload?, if_neg (by decide), if_pos rfl]

theorem payload?_closed (rest : Text) : payload? 0 ('}' :: rest) = some ([], rest) := by
  rw [payload?, if_neg (by decide), if_pos rfl]

/-- One character of the reader's way: either the brace it looks for, or the change of depth that
the character makes. -/
theorem payload?_step (depth : Nat) (c : Char) :
    (depth = 0 ∧ c = '}') ∨
    ∃ depth' : Nat, (∀ front, (depth : Int) + braceDepth (c :: front) = depth' + braceDepth front) ∧
      ∀ rest, payload? depth (c :: rest) =
        (payload? depth' rest).map fun (inner, after) => (c :: inner, after) := by
  by_cases opening : c = '{'
  · subst opening
    refine .inr ⟨depth + 1, fun front => ?_, payload?_opening depth⟩
    rw [braceDepth_opening]
    omega
  · by_cases closing : c = '}'
    · subst closing
      cases depth with
      | zero => exact .inl ⟨rfl, rfl⟩
      | succ depth =>
        refine .inr ⟨depth, fun front => ?_, payload?_closing depth⟩
        rw [braceDepth_closing]
        omega
    · refine .inr ⟨depth, fun front => ?_, payload?_of_other opening closing⟩
      rw [braceDepth_other opening closing]

theorem payload?_eq_none_iff {depth : Nat} {text : Text} :
    payload? depth text = none ↔ StaysOpen depth text := by
  induction text generalizing depth with
  | nil =>
    have nothing : payload? depth [] = none := by rw [payload?]
    exact ⟨fun _ => staysOpen_nil depth, fun _ => nothing⟩
  | cons c text inductionHypothesis =>
    obtain ⟨rfl, rfl⟩ | ⟨depth', step, read⟩ := payload?_step depth c
    · rw [payload?_closed]
      exact iff_of_false (Option.some_ne_none _) (not_staysOpen_closing text)
    · rw [read, Option.map_eq_none_iff, inductionHypothesis, staysOpen_cons_iff step]

theorem payload?_eq_some_iff {depth : Nat} {text inner after : Text} :
    payload? depth text = some (inner, after) ↔
      text = inner ++ '}' :: after ∧ StaysOpen depth inner ∧ depth + braceDepth inner = 0 := by
  induction text generalizing depth inner with
  | nil =>
    have nothing : payload? depth [] = none := by rw [payload?]
    rw [nothing]
    constructor
    · intro found
      cases found
    · rintro ⟨split, -⟩
      simp at split
  | cons c text inductionHypothesis =>
    obtain ⟨rfl, rfl⟩ | ⟨depth', step, read⟩ := payload?_step depth c
    · rw [payload?_closed, Option.some.injEq, Prod.mk.injEq]
      constructor
      · rintro ⟨rfl, rfl⟩
        exact ⟨rfl, staysOpen_nil 0, by simp⟩
      · rintro ⟨split, stays, -⟩
        cases inner with
        | nil => exact ⟨rfl, (List.cons.inj split).2⟩
        | cons d inner =>
          obtain ⟨rfl, -⟩ := List.cons.inj split
          exact absurd stays (not_staysOpen_closing inner)
    · rw [read, Option.map_eq_some_iff]
      constructor
      · rintro ⟨⟨inner', after'⟩, found, same⟩
        obtain ⟨rfl, rfl⟩ := Prod.mk.inj same
        obtain ⟨rfl, stays, closed⟩ := inductionHypothesis.1 found
        exact ⟨rfl, (staysOpen_cons_iff step).2 stays, (step inner').trans closed⟩
      · rintro ⟨split, stays, closed⟩
        cases inner with
        | nil =>
          obtain ⟨rfl, -⟩ := List.cons.inj split
          have before := step []
          rw [braceDepth_closing, braceDepth_nil] at before
          simp only [braceDepth_nil] at closed
          omega
        | cons d inner =>
          obtain ⟨rfl, behind⟩ := List.cons.inj split
          have found := inductionHypothesis.2
            ⟨behind, (staysOpen_cons_iff step).1 stays, (step inner).symm.trans closed⟩
          exact ⟨(inner, after), found, rfl⟩

/-! ## From one brace to the other -/

/-- The depth of braces is back at zero at the end of the text, and was above zero from its first
character on. -/
def ClosesAtEnd (text : Text) : Prop :=
  braceDepth text = 0 ∧
    ∀ front, front <+: text → front ≠ [] → front ≠ text → 0 < braceDepth front

theorem closesAtEnd_of_staysOpen {payload : Text} (stays : StaysOpen 0 payload)
    (closed : braceDepth payload = 0) : ClosesAtEnd ('{' :: (payload ++ ['}'])) := by
  constructor
  · rw [braceDepth_opening, braceDepth_append, braceDepth_closing, closed, braceDepth_nil]
    rfl
  · intro front isPrefix nonempty proper
    obtain rfl | ⟨inner, rfl, innerPrefix⟩ := List.prefix_cons_iff.1 isPrefix
    · contradiction
    · obtain rfl | inside := List.prefix_concat_iff.1 innerPrefix
      · contradiction
      · have depth := stays inner inside
        rw [braceDepth_opening]
        omega

end QueryTemplate
