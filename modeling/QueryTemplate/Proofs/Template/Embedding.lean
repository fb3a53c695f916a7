import QueryTemplate.Proofs.Template.Braces
import QueryTemplate.Proofs.Template.Spelling

/-! # Embedded expressions as they are written

An expression is embedded in a template between braces, behind the sigil of its marker and a hash
sign. The reader looks for the brace that closes it and at nothing else.

* `Balanced`: texts in which every opening brace has its closing one.
* `payload?_balanced`: a balanced payload is read up to the brace that closes it.
* `embedding`: an expression with everything around it.
* `expression_of_readTarget`, `readTarget_embedding`: what is read as an expression is embedded, and
  what is embedded is read.
* `readTarget_exchange`: of the text behind a marker, only the first character can matter, and only
  if the marker could go on with it.
-/

namespace QueryTemplate

/-! ## Balanced braces -/

inductive Balanced : Text → Prop where
  | nil : Balanced []
  | other {c : Char} {text : Text} (noOpening : c ≠ '{') (noClosing : c ≠ '}')
      (behind : Balanced text) : Balanced (c :: text)
  | nested {inner text : Text} (inside : Balanced inner) (behind : Balanced text) :
      Balanced ('{' :: (inner ++ '}' :: text))

theorem balanced_of_noBraces {text : Text} (noOpening : '{' ∉ text) (noClosing : '}' ∉ text) :
    Balanced text := by
  induction text with
  | nil => exact .nil
  | cons c text inductionHypothesis =>
    obtain ⟨opens, noOpening⟩ := not_or.1 (mt List.mem_cons.2 noOpening)
    obtain ⟨closes, noClosing⟩ := not_or.1 (mt List.mem_cons.2 noClosing)
    exact .other (Ne.symm opens) (Ne.symm closes) (inductionHypothesis noOpening noClosing)

theorem Balanced.payload?_append {text : Text} (balanced : Balanced text) (depth : Nat)
    (rest : Text) :
    payload? depth (text ++ rest) =
      (payload? depth rest).map fun (inner, after) => (text ++ inner, after) := by
  induction balanced generalizing depth rest with
  | nil => simp
  | other noOpening noClosing _ inductionHypothesis =>
    rw [List.cons_append, payload?_of_other noOpening noClosing, inductionHypothesis,
      Option.map_map]
    rfl
  | @nested inner text _ _ inside behind =>
    -- The inner text is read one level deeper, up to the brace that leads back to this level.
    calc payload? depth ('{' :: (inner ++ '}' :: text) ++ rest)
        = (payload? (depth + 1) (inner ++ '}' :: (text ++ rest))).map
            fun (read, after) => ('{' :: read, after) := by
          rw [List.cons_append, List.append_assoc, List.cons_append, payload?_opening]
      _ = (payload? depth rest).map
            fun (read, after) => ('{' :: (inner ++ '}' :: (text ++ read)), after) := by
          rw [inside, payload?_closing, behind, Option.map_map, Option.map_map, Option.map_map]
          rfl
      _ = _ := by simp

theorem payload?_balanced {payload : Text} (balanced : Balanced payload) (rest : Text) :
    payload? 0 (payload ++ '}' :: rest) = some (payload, rest) := by
  rw [balanced.payload?_append, payload?_closed]
  simp

theorem payload?_exchange {depth : Nat} {payload rest : Text}
    (closes : payload? depth (payload ++ '}' :: rest) = some (payload, rest)) (after : Text) :
    payload? depth (payload ++ '}' :: after) = some (payload, after) := by
  obtain ⟨-, stays, closed⟩ := payload?_eq_some_iff.1 closes
  exact payload?_eq_some_iff.2 ⟨rfl, stays, closed⟩

/-! ## Embedding -/

def embedding (sigil : Char) (payload : Text) : Text :=
  sigil :: '#' :: '{' :: (payload ++ ['}'])

/-- What is read as an expression is written as one. -/
theorem expression_of_readTarget {before : Option Char} {text written rest payload : Text}
    {target : Target} (found : readTarget before text = .found target written rest)
    (expression : target.expression? = some payload) :
    written = embedding target.sigil payload ∧
      payload? 0 (payload ++ '}' :: rest) = some (payload, rest) := by
  unfold readTarget at found
  split at found
  next =>
    split at found
    next => cases found
    next =>
      unfold readNamed at found
      split at found
      next text =>
        split at found
        next read after closes =>
          cases found
          cases expression
          rw [payload?_append closes]
          exact ⟨rfl, closes⟩
        next => cases found
      next =>
        split at found <;> cases found
        cases expression
  next =>
    unfold readPositional at found
    split at found
    next text =>
      split at found
      next read after closes =>
        cases found
        cases expression
        rw [payload?_append closes]
        exact ⟨rfl, closes⟩
      next => cases found
    next =>
      split at found
      next => cases found
      next =>
        dsimp only at found
        split at found <;> cases found
        cases expression
  next => cases found

theorem readTarget_embedding {before : Option Char} {target : Target} {payload rest : Text}
    (expression : target.expression? = some payload)
    (noCast : before = some ':' → target.sigil ≠ ':')
    (closes : payload? 0 (payload ++ '}' :: rest) = some (payload, rest)) :
    readTarget before (embedding target.sigil payload ++ rest) =
      .found target (embedding target.sigil payload) rest := by
  have behind : payload ++ ['}'] ++ rest = payload ++ '}' :: rest := by simp
  cases target with
  | named | positional => cases expression
  | namedExpression written =>
    cases expression
    have single : before ≠ some ':' := fun colon => noCast colon rfl
    simp only [embedding, Target.sigil, List.cons_append, readTarget, if_neg single, readNamed,
      behind, closes, List.nil_append]
  | positionalExpression written =>
    cases expression
    simp only [embedding, Target.sigil, List.cons_append, readTarget, readPositional, behind,
      closes, List.nil_append]

/-! ## The text behind a marker -/

theorem readTarget_exchange {before : Option Char} {written rest after : Text} {target : Target}
    (found : readTarget before (written ++ rest) = .found target written rest)
    (stops : rest.head?.any target.isInside = false → after.head?.any target.isInside = false) :
    readTarget before (written ++ after) = .found target written after := by
  have noCast := (sigil_of_readTarget found).2
  cases expression : target.expression? with
  | some payload =>
    obtain ⟨rfl, closes⟩ := expression_of_readTarget found expression
    exact readTarget_embedding expression noCast (payload?_exchange closes after)
  | none =>
    have explicit : target.isExpression = false := by rw [Target.isExpression, expression]; rfl
    obtain ⟨identifier, rfl, spells, stopsBefore⟩ := exists_spells_of_readTarget found explicit
    exact spells.readTarget_eq noCast (stops stopsBefore)

end QueryTemplate
