import QueryTemplate.Proofs.Template.Unmarked

/-! # Markers as they are spelled

A parameter is spelled as a colon with its name or as a question mark with the digits of its
position. Such a spelling is read back as the parameter, unless the text behind goes on with
another character of the name or another digit.

* `Identifier.target`, `Target.isInside`: the target of a spelled parameter, and the characters
  that would make its spelling longer.
* `Spells`: the spellings of an identifier. A position can be spelled with leading zeros.
* `Spells.readTarget_eq`, `Spells.target_ne`: what is read where a spelling stands.
* `exists_spells_of_readTarget`: every marker without an expression is a spelling.
-/

namespace QueryTemplate

def Identifier.target : Identifier → Target
  | .name word => .named word
  | .position number => .positional number

def Target.sigil : Target → Char
  | .named _ | .namedExpression _ => ':'
  | .positional _ | .positionalExpression _ => '?'

theorem Target.isMark_sigil (target : Target) : isMark target.sigil = true := by
  cases target <;> rfl

theorem Identifier.isExpression_target (identifier : Identifier) :
    identifier.target.isExpression = false := by
  cases identifier <;> rfl

/-- The characters that belong to a marker with this target when they follow it directly. -/
def Target.isInside (target : Target) : Char → Bool :=
  if target.sigil = ':' then isWordChar else Char.isDigit

theorem Target.isInside_of_isBreak (target : Target) {c : Char} (break_ : isBreak c = true) :
    target.isInside c = false := by
  have noWord := isWordChar_eq_false_of_isBreak break_
  rw [isInside]
  split
  · exact noWord
  · refine Bool.eq_false_iff.2 fun digit => ?_
    rw [isWordChar_of_isDigit digit] at noWord
    cases noWord

/-- Names are words, and positions can be addressed. -/
def Identifier.Readable : Identifier → Prop
  | .name word => word ≠ [] ∧ ∀ c ∈ word, isWordChar c = true
  | .position number => 1 ≤ number ∧ number ≤ maxPosition

inductive Spells : Identifier → Text → Prop where
  | name {word : Text} (nonempty : word ≠ []) (inside : ∀ c ∈ word, isWordChar c = true) :
      Spells (.name word) (':' :: word)
  | position {digits : Text} {number : Nat} (nonempty : digits ≠ [])
      (inside : ∀ c ∈ digits, c.isDigit = true) (value : Nat.ofDigitChars 10 digits 0 = number)
      (readable : 1 ≤ number ∧ number ≤ maxPosition) : Spells (.position number) ('?' :: digits)

/-! ## Runs of characters -/

theorem takeWhile_append_of_stop {p : Char → Bool} {run rest : Text}
    (inside : ∀ c ∈ run, p c = true) (stops : rest.head?.any p = false) :
    (run ++ rest).takeWhile p = run := by
  rw [List.takeWhile_append_of_pos inside, takeWhile_eq_nil_iff.2 stops, List.append_nil]

theorem dropWhile_append_of_stop {p : Char → Bool} {run rest : Text}
    (inside : ∀ c ∈ run, p c = true) (stops : rest.head?.any p = false) :
    (run ++ rest).dropWhile p = rest := by
  rw [List.dropWhile_append_of_pos inside]
  cases rest with
  | nil => rfl
  | cons c rest =>
    have outside : p c = false := by simpa using stops
    simp [outside]

theorem any_head?_dropWhile (p : Char → Bool) (text : Text) :
    (text.dropWhile p).head?.any p = false := by
  induction text with
  | nil => rfl
  | cons c text inductionHypothesis => cases inside : p c <;> simp [inside, inductionHypothesis]

theorem lt_ofDigitChars {digits : Text} (nonempty : digits ≠ []) {number : Nat}
    (positive : 1 ≤ number) : number < Nat.ofDigitChars 10 digits number := by
  induction digits generalizing number with
  | nil => contradiction
  | cons c digits inductionHypothesis =>
    rw [Nat.ofDigitChars_cons]
    have larger : number < 10 * number + (c.toNat - '0'.toNat) := by omega
    by_cases last : digits = []
    · rw [last, Nat.ofDigitChars_nil]
      exact larger
    · exact Nat.lt_trans larger (inductionHypothesis last (by omega))

/-! ## Reading names and positions -/

theorem readNamed_of_isWordChar {text : Text} (starts : text.head?.any isWordChar = true) :
    readNamed text = .found (.named (text.takeWhile isWordChar))
      (':' :: text.takeWhile isWordChar) (text.dropWhile isWordChar) := by
  unfold readNamed
  split
  next => exact absurd (show isWordChar '#' = true from starts) (by decide)
  next =>
    split
    next empty => simp [takeWhile_eq_nil_iff.1 empty] at starts
    next => rfl

theorem readPositional_of_isDigit {text : Text} (starts : text.head?.any Char.isDigit = true) :
    readPositional text =
      let number := Nat.ofDigitChars 10 (text.takeWhile Char.isDigit) 0
      if 1 ≤ number ∧ number ≤ maxPosition then
        .found (.positional number) ('?' :: text.takeWhile Char.isDigit)
          (text.dropWhile Char.isDigit)
      else .badPosition := by
  unfold readPositional
  split
  next => exact absurd (show Char.isDigit '#' = true from starts) (by decide)
  next =>
    split
    next empty => simp [takeWhile_eq_nil_iff.1 empty] at starts
    next => rfl

theorem any_head?_append_of_inside {p : Char → Bool} {run : Text} (nonempty : run ≠ [])
    (inside : ∀ c ∈ run, p c = true) (rest : Text) : (run ++ rest).head?.any p = true := by
  cases run with
  | nil => contradiction
  | cons c run => exact inside c List.mem_cons_self

/-! ## Reading a spelling -/

theorem Spells.head? {identifier : Identifier} {written : Text}
    (spells : Spells identifier written) : written.head? = some identifier.target.sigil := by
  cases spells <;> rfl

/-- A spelling is read as its parameter when the text behind does not go on with it. -/
theorem Spells.readTarget_eq {identifier : Identifier} {written rest : Text}
    (spells : Spells identifier written) {before : Option Char}
    (noCast : before = some ':' → identifier.target.sigil ≠ ':')
    (stops : rest.head?.any identifier.target.isInside = false) :
    readTarget before (written ++ rest) = .found identifier.target written rest := by
  cases spells with
  | @name word nonempty inside =>
    have single : before ≠ some ':' := fun colon => noCast colon rfl
    rw [List.cons_append, readTarget, if_neg single,
      readNamed_of_isWordChar (any_head?_append_of_inside nonempty inside rest),
      takeWhile_append_of_stop inside stops, dropWhile_append_of_stop inside stops]
    rfl
  | @position digits number nonempty inside value readable =>
    rw [List.cons_append, readTarget,
      readPositional_of_isDigit (any_head?_append_of_inside nonempty inside rest),
      takeWhile_append_of_stop inside stops, dropWhile_append_of_stop inside stops, value]
    exact if_pos readable

/-- Where the text behind goes on with a spelling, another parameter is read, or none. -/
theorem Spells.target_ne {identifier : Identifier} {written rest written' rest' : Text}
    {target : Target} (spells : Spells identifier written) {before : Option Char}
    (goesOn : rest.head?.any identifier.target.isInside = true)
    (found : readTarget before (written ++ rest) = .found target written' rest') :
    target ≠ identifier.target := by
  have longer : rest.takeWhile identifier.target.isInside ≠ [] := by
    intro empty
    simp [takeWhile_eq_nil_iff.1 empty] at goesOn
  cases spells with
  | @name word nonempty inside =>
    rw [List.cons_append, readTarget] at found
    split at found
    next => cases found
    next =>
      rw [readNamed_of_isWordChar (any_head?_append_of_inside nonempty inside rest),
        List.takeWhile_append_of_pos inside] at found
      simp only [Reading.found.injEq] at found
      rw [← found.1]
      intro same
      exact longer (List.append_right_eq_self.1 (Target.named.inj same))
  | @position digits number nonempty inside value readable =>
    rw [List.cons_append, readTarget,
      readPositional_of_isDigit (any_head?_append_of_inside nonempty inside rest),
      List.takeWhile_append_of_pos inside] at found
    dsimp only at found
    split at found
    next =>
      simp only [Reading.found.injEq] at found
      rw [← found.1, Nat.ofDigitChars_append, value]
      intro same
      -- Leading zeros aside, a position with more digits is a larger one.
      have larger := lt_ofDigitChars longer readable.1
      exact Nat.ne_of_gt larger (Target.positional.inj same)
    next => cases found

theorem Spells.readTarget_ne_absent {identifier : Identifier} {written : Text}
    (spells : Spells identifier written) {before : Option Char}
    (noCast : before = some ':' → identifier.target.sigil ≠ ':') (rest : Text) :
    readTarget before (written ++ rest) ≠ .absent := by
  cases spells with
  | name nonempty inside =>
    have single : before ≠ some ':' := fun colon => noCast colon rfl
    rw [List.cons_append, readTarget, if_neg single,
      readNamed_of_isWordChar (any_head?_append_of_inside nonempty inside rest)]
    simp
  | position nonempty inside value readable =>
    rw [List.cons_append, readTarget,
      readPositional_of_isDigit (any_head?_append_of_inside nonempty inside rest)]
    dsimp only
    split <;> simp

theorem Identifier.Readable.spells {identifier : Identifier} (readable : identifier.Readable) :
    Spells identifier identifier.text := by
  cases identifier with
  | name word => exact .name readable.1 readable.2
  | position number =>
    exact .position Nat.toDigits_ne_nil
      (fun c digit => Nat.isDigit_of_mem_toDigits (by decide) (by decide) digit)
      Nat.ofDigitChars_ten_toDigits readable

/-! ## Markers are spellings -/

theorem all_takeWhile {p : Char → Bool} {text : Text} :
    ∀ c ∈ text.takeWhile p, p c = true :=
  List.all_eq_true.1 List.all_takeWhile

/-- A marker without an expression spells its parameter, and is as long as it can be. -/
theorem exists_spells_of_readTarget {before : Option Char} {text written rest : Text}
    {target : Target} (found : readTarget before text = .found target written rest)
    (explicit : target.isExpression = false) :
    ∃ identifier, target = identifier.target ∧ Spells identifier written ∧
      rest.head?.any target.isInside = false := by
  unfold readTarget at found
  split at found
  next text =>
    split at found
    next => cases found
    next =>
      unfold readNamed at found
      split at found
      next =>
        split at found
        · simp only [Reading.found.injEq] at found
          simp [← found.1, Target.isExpression, Target.expression?] at explicit
        · cases found
      next =>
        split at found
        next => cases found
        next name nonempty =>
          simp only [Reading.found.injEq] at found
          obtain ⟨rfl, rfl, rfl⟩ := found
          exact ⟨.name _, rfl, .name nonempty all_takeWhile, any_head?_dropWhile _ _⟩
  next text =>
    unfold readPositional at found
    split at found
    next =>
      split at found
      · simp only [Reading.found.injEq] at found
        simp [← found.1, Target.isExpression, Target.expression?] at explicit
      · cases found
    next =>
      split at found
      next => cases found
      next digits nonempty =>
        dsimp only at found
        split at found
        next readable =>
          simp only [Reading.found.injEq] at found
          obtain ⟨rfl, rfl, rfl⟩ := found
          exact ⟨.position _, rfl, .position nonempty all_takeWhile rfl readable,
            any_head?_dropWhile _ _⟩
        next => cases found
  next => cases found

/-- A marker starts with the character of its kind, and no colon stands in front of a colon. -/
theorem sigil_of_readTarget {before : Option Char} {text written rest : Text} {target : Target}
    (found : readTarget before text = .found target written rest) :
    written.head? = some target.sigil ∧ (before = some ':' → target.sigil ≠ ':') := by
  unfold readTarget at found
  split at found
  next text =>
    split at found
    next => cases found
    next single =>
      obtain ⟨tail, rfl, -⟩ := readNamed_split found
      refine ⟨?_, fun colon => absurd colon single⟩
      unfold readNamed at found
      split at found
      · split at found
        · cases found
          rfl
        · cases found
      · split at found
        · cases found
        · cases found
          rfl
  next text =>
    obtain ⟨tail, rfl, -⟩ := readPositional_split found
    unfold readPositional at found
    split at found
    next =>
      split at found
      · cases found
        exact ⟨rfl, fun _ => by simp [Target.sigil]⟩
      · cases found
    next =>
      split at found
      next => cases found
      next =>
        dsimp only at found
        split at found <;> cases found
        exact ⟨rfl, fun _ => by simp [Target.sigil]⟩
  next => cases found

end QueryTemplate
