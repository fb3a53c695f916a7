import QueryTemplate.Logged
import QueryTemplate.Naming
import QueryTemplate.Registry

/-! # Bound templates

A template is bound when each of its markers refers to a binding. The markers are visited once,
from left to right; the first marker that cannot be bound ends the visit.

* `identify`: the identifier of a marker.
* `Piece`, `bindSpans`: the spans of a template with their bindings.
* `Piece.canonical`, `canonicalText`: the executable query.
-/

namespace QueryTemplate

/-- The identifier that a marker refers to. An expression is named when it is met first; at a
    positional expression there may be no position left. -/
def identify (naming : Naming) (marker : Marker) : Logged (Identifier × Naming) :=
  match marker.target with
  | .named name => pure (.name name, naming)
  | .positional position => pure (.position position, naming)
  | .namedExpression expression => do
    let (name, after) := naming.nameFor expression
    if (naming.name? expression).isNone then
      .note (.mintedName expression name)
    pure (.name name, after)
  | .positionalExpression expression =>
    match naming.positionFor? expression with
    -- No position is left; the place reported is that of the marker with its wildcard.
    | none => .fail (.invalidPosition marker.start)
    | some (position, after) => do
      if (naming.position? expression).isNone then
        .note (.mintedPosition expression position)
      pure (.position position, after)

def Marker.binding (marker : Marker) (identifier : Identifier) : Binding where
  identifier := identifier
  kind := marker.kind
  expression := marker.target.expression?

/-- Registers the binding of a marker, and reports a repeat or a disagreement. -/
def enroll (registry : Registry) (marker : Marker) (binding : Binding) : Logged Registry :=
  match registry.register binding with
  | .ok after => do
    if (registry.find? binding.identifier).isSome then
      .note (.merged binding.identifier)
    pure after
  | .error error => do
    if let .conflictingBinding identifier existing conflicting := error then
      .note (.conflict identifier existing conflicting)
    .note (.rejected marker.raw marker.start)
    .fail error

inductive Piece where
  | literal (text : Text)
  | bound (marker : Marker) (binding : Binding)
  deriving DecidableEq, Repr

def bindSpans (naming : Naming) (registry : Registry) :
    List Span → Logged (List Piece × Registry)
  | [] => pure ([], registry)
  | .literal text :: rest => do
    let (pieces, final) ← bindSpans naming registry rest
    pure (.literal text :: pieces, final)
  | .marker marker :: rest => do
    let (identifier, naming) ← identify naming marker
    let binding := marker.binding identifier
    let registry ← enroll registry marker binding
    let (pieces, final) ← bindSpans naming registry rest
    pure (.bound marker binding :: pieces, final)

def bindTemplate (stem : Text) (spans : List Span) : Logged (List Piece × Registry) :=
  bindSpans (Naming.ofSpans stem spans) {} spans

/-- The marker without its wildcards in the executable query. An expression gives way to its
    identifier; any other marker stays as written. -/
def canonicalMarker (marker : Marker) (binding : Binding) : Text :=
  if marker.target.isExpression then binding.identifier.text else marker.text

/-- Puts the wildcards of a marker around a text, unless they are part of a pattern: the value
    bound to a pattern has them already. -/
def keepWildcards (marker : Marker) (kind : BindingKind) (inner : Text) : Text :=
  if kind.isLike then inner
  else Marker.wildcard marker.leading ++ inner ++ Marker.wildcard marker.trailing

def Piece.canonical : Piece → Text
  | .literal written => written
  | .bound marker binding => keepWildcards marker binding.kind (canonicalMarker marker binding)

def canonicalText (pieces : List Piece) : Text := pieces.flatMap Piece.canonical

end QueryTemplate
