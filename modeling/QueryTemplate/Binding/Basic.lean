import QueryTemplate.Binding.Identifier
import QueryTemplate.Binding.Kind

/-! # Bindings

A *binding* says how one parameter of a query is to be supplied: which parameter, how its value is
bound, and from which expression the value is computed if the template holds one.

* `Binding`, `Binding.describe`: the binding and its one-line description.
* `Binding.isCompatible`: whether two occurrences of a parameter can share a binding.
* `Binding.prepare`: the pattern to bind for a value.
* `escapeWildcards`: a value in which nothing is a wildcard any more.
-/

namespace QueryTemplate

/-- Whether a pattern with this escape character treats `c` specially. -/
def isSpecial (escape c : Char) : Bool := c == '%' || c == '_' || c == escape

/-- Writes the escape character in front of every special character of a value. -/
def escapeWildcards (escape : Char) (value : Text) : Text :=
  value.flatMap fun c => if isSpecial escape c then [escape, c] else [c]

theorem escapeWildcards_cons (escape c : Char) (value : Text) :
    escapeWildcards escape (c :: value) =
      (if isSpecial escape c then [escape, c] else [c]) ++ escapeWildcards escape value := rfl

theorem escapeWildcards_of_plain {escape : Char} {value : Text}
    (h : value.any (isSpecial escape) = false) : escapeWildcards escape value = value := by
  induction value with
  | nil => rfl
  | cons c value ih =>
    simp only [List.any_cons, Bool.or_eq_false_iff] at h
    simp only [escapeWildcards] at ih
    simp [escapeWildcards, h.1, ih h.2]

structure Binding where
  identifier : Identifier
  kind : BindingKind
  /-- The expression that computes the value, when the template embeds one. -/
  expression : Option Text
  deriving DecidableEq, Repr

namespace Binding

def isExpression (binding : Binding) : Bool := binding.expression.isSome

/-- Two bindings agree when they bind one parameter in one way. The expressions play no part. -/
def isCompatible (first second : Binding) : Bool :=
  first.identifier == second.identifier && first.kind == second.kind

/-- The text to bind for a value. A pattern gets the wildcards of its mode, after the value's own
    special characters were escaped if an escape character is declared. -/
def prepare (binding : Binding) (value : Text) : Text :=
  match binding.kind with
  | .like mode (some escape) => mode.decorate (escapeWildcards escape value)
  | .like mode none => mode.decorate value
  | .simple | .inCollection => value

def describe (binding : Binding) : String :=
  String.ofList binding.identifier.text ++ " [" ++ binding.kind.describe ++ "]" ++
    match binding.expression with
    | none => ""
    | some expression => " <- #\x7b" ++ String.ofList expression ++ "\x7d"

end Binding

end QueryTemplate
