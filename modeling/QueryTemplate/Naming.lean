import QueryTemplate.Template.Marker

/-! # Naming expressions

Embedded expressions get identifiers of their own: named ones a stem and a number, positional ones
the positions behind the highest written one. One expression keeps one identifier, and no minted
identifier is written anywhere in the template.

* `firstFree`: the first number that gives a stem a name not in use.
* `Naming`, `Naming.ofSpans`: what has been named so far, and the start for a template.
* `Naming.nameFor`: the name of an expression, minted when it is new.
* `Naming.positionFor?`: the position of an expression, while there are positions left.
-/

namespace QueryTemplate

def numberedName (stem : Text) (number : Nat) : Text := stem ++ Nat.toDigits 10 number

theorem numberedName_injective {stem : Text} {first second : Nat}
    (h : numberedName stem first = numberedName stem second) : first = second := by
  have written : Nat.toDigits 10 first = Nat.toDigits 10 second := List.append_cancel_left h
  have read := congrArg (fun digits => Nat.ofDigitChars 10 digits 0) written
  simpa using read

/-- The first number from `number` on whose name is not in use. A name that is met is struck off
    the list, so the search ends at the latest when none is left. -/
def firstFree (stem : Text) (used : List Text) (number : Nat) : Nat :=
  let name := numberedName stem number
  if _met : used.contains name then firstFree stem (used.erase name) (number + 1) else number
termination_by used.length
decreasing_by
  have met : numberedName stem number ∈ used := by simpa using _met
  rw [List.length_erase_of_mem met]
  exact Nat.sub_lt (List.length_pos_of_mem met) Nat.zero_lt_one

structure Naming where
  stem : Text
  explicit : List Text
  /-- Named expressions, the latest first. -/
  named : List (Text × Text)
  /-- The number of the latest minted name. -/
  counter : Nat
  /-- Positional expressions, the latest first. -/
  positioned : List (Text × Nat)
  /-- The highest position in use. -/
  highest : Nat
  deriving DecidableEq, Repr

namespace Naming

def explicitNames (spans : List Span) : List Text :=
  (markers spans).filterMap fun marker =>
    match marker.target with
    | .named name => some name
    | _ => none

def highestPosition (spans : List Span) : Nat :=
  (markers spans).foldl
    (fun highest marker =>
      match marker.target with
      | .positional position => max highest position
      | _ => highest)
    0

def ofSpans (stem : Text) (spans : List Span) : Naming where
  stem := stem
  explicit := explicitNames spans
  named := []
  counter := 0
  positioned := []
  highest := highestPosition spans

def nextNumber (naming : Naming) : Nat :=
  firstFree naming.stem naming.explicit (naming.counter + 1)

def name? (naming : Naming) (expression : Text) : Option Text := naming.named.lookup expression

def position? (naming : Naming) (expression : Text) : Option Nat :=
  naming.positioned.lookup expression

def nameFor (naming : Naming) (expression : Text) : Text × Naming :=
  match naming.name? expression with
  | some name => (name, naming)
  | none =>
    let number := naming.nextNumber
    let name := numberedName naming.stem number
    (name, { naming with named := (expression, name) :: naming.named, counter := number })

/-- The position of an expression, and the state after it is placed. A new expression finds no
    position when the highest one is in use. -/
def positionFor? (naming : Naming) (expression : Text) : Option (Nat × Naming) :=
  match naming.position? expression with
  | some position => some (position, naming)
  | none =>
    if naming.highest < maxPosition then
      let position := naming.highest + 1
      some (position,
        { naming with
          positioned := (expression, position) :: naming.positioned, highest := position })
    else none

end Naming

end QueryTemplate
