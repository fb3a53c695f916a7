import QueryTemplate.Template.Marker
import QueryTemplate.Text.WordChar

/-! # Reading a marker

What a marker refers to is read from the marker itself and the one character before it.

* `payload?`: the expression between balanced braces.
* `Reading`, `readTarget`: the marker that a text begins with, without wildcards.
* `readTarget_split`: a marker is not empty, and with what follows it makes up the text.
-/

namespace QueryTemplate

/-- The text up to the brace that closes `depth + 1` open ones, and what follows that brace. Only
    braces are looked at. -/
def payload? (depth : Nat) : Text → Option (Text × Text)
  | [] => none
  | c :: rest =>
    if c = '{' then (payload? (depth + 1) rest).map fun (inner, after) => (c :: inner, after)
    else if c = '}' then
      match depth with
      | 0 => some ([], rest)
      | depth + 1 => (payload? depth rest).map fun (inner, after) => (c :: inner, after)
    else (payload? depth rest).map fun (inner, after) => (c :: inner, after)

inductive Reading where
  | absent
  | unterminated
  /-- A position that cannot be addressed. -/
  | badPosition
  /-- A marker, as written, and the text behind it. -/
  | found (target : Target) (written after : Text)
  deriving DecidableEq, Repr

/-- Reads the marker behind a colon. A second colon makes a cast, which is no marker; a name is as
    long as it can be. -/
def readNamed : Text → Reading
  | '#' :: '{' :: rest =>
    match payload? 0 rest with
    | some (expression, after) =>
      .found (.namedExpression expression) ([':', '#', '{'] ++ expression ++ ['}']) after
    | none => .unterminated
  | rest =>
    match rest.takeWhile isWordChar with
    | [] => .absent
    | name => .found (.named name) (':' :: name) (rest.dropWhile isWordChar)

/-- Reads the marker behind a question mark. A position takes all the digits there are, and has to
    be one that can be addressed. -/
def readPositional : Text → Reading
  | '#' :: '{' :: rest =>
    match payload? 0 rest with
    | some (expression, after) =>
      .found (.positionalExpression expression) (['?', '#', '{'] ++ expression ++ ['}']) after
    | none => .unterminated
  | rest =>
    match rest.takeWhile Char.isDigit with
    | [] => .absent
    | digits =>
      let position := Nat.ofDigitChars 10 digits 0
      if 1 ≤ position ∧ position ≤ maxPosition then
        .found (.positional position) ('?' :: digits) (rest.dropWhile Char.isDigit)
      else .badPosition

/-- Reads the marker that a text begins with. A colon right behind another one belongs to a
    cast. -/
def readTarget (before : Option Char) : Text → Reading
  | ':' :: rest => if before = some ':' then .absent else readNamed rest
  | '?' :: rest => readPositional rest
  | _ => .absent

/-! ## A marker and what follows it make up the text -/

theorem payload?_append {depth : Nat} {text inner after : Text}
    (h : payload? depth text = some (inner, after)) : inner ++ '}' :: after = text := by
  fun_induction payload? depth text generalizing inner after with
  | case1 => simp at h
  | case2 depth rest ih =>
    simp only [Option.map_eq_some_iff, Prod.exists, Prod.mk.injEq] at h
    obtain ⟨inner', after', found, rfl, rfl⟩ := h
    simp [ih found]
  | case3 rest =>
    simp only [Option.some.injEq, Prod.mk.injEq] at h
    simp [← h.1, ← h.2]
  | case4 rest _ depth ih =>
    simp only [Option.map_eq_some_iff, Prod.exists, Prod.mk.injEq] at h
    obtain ⟨inner', after', found, rfl, rfl⟩ := h
    simp [ih found]
  | case5 depth c rest _ _ ih =>
    simp only [Option.map_eq_some_iff, Prod.exists, Prod.mk.injEq] at h
    obtain ⟨inner', after', found, rfl, rfl⟩ := h
    simp [ih found]

theorem readNamed_split {text written after : Text} {target : Target}
    (h : readNamed text = .found target written after) :
    ∃ tail, written = ':' :: tail ∧ tail ++ after = text := by
  unfold readNamed at h
  split at h
  · next rest =>
    split at h
    · next expression after' found =>
      simp only [Reading.found.injEq] at h
      obtain ⟨_, rfl, rfl⟩ := h
      exact ⟨'#' :: '{' :: (expression ++ ['}']), by simp, by simp [← payload?_append found]⟩
    · simp at h
  · next rest _ =>
    split at h
    · simp at h
    · simp only [Reading.found.injEq] at h
      obtain ⟨_, rfl, rfl⟩ := h
      exact ⟨_, rfl, List.takeWhile_append_dropWhile⟩

theorem readPositional_split {text written after : Text} {target : Target}
    (h : readPositional text = .found target written after) :
    ∃ tail, written = '?' :: tail ∧ tail ++ after = text := by
  unfold readPositional at h
  split at h
  · next rest =>
    split at h
    · next expression after' found =>
      simp only [Reading.found.injEq] at h
      obtain ⟨_, rfl, rfl⟩ := h
      exact ⟨'#' :: '{' :: (expression ++ ['}']), by simp, by simp [← payload?_append found]⟩
    · simp at h
  · next rest _ =>
    split at h
    · simp at h
    · dsimp only at h
      split at h
      · simp only [Reading.found.injEq] at h
        obtain ⟨_, rfl, rfl⟩ := h
        exact ⟨_, rfl, List.takeWhile_append_dropWhile⟩
      · simp at h

theorem readTarget_split {before : Option Char} {text written after : Text} {target : Target}
    (h : readTarget before text = .found target written after) :
    written ≠ [] ∧ written ++ after = text := by
  unfold readTarget at h
  split at h
  · split at h
    · simp at h
    · obtain ⟨tail, rfl, rfl⟩ := readNamed_split h
      simp
  · obtain ⟨tail, rfl, rfl⟩ := readPositional_split h
    simp
  · simp at h

end QueryTemplate
