import QueryTemplate.Binding.Identifier
import QueryTemplate.Binding.Kind

/-! # Markers

A *marker* is a place in a template where a parameter is to be supplied. It may touch `%`
wildcards, and the keyword in front of it decides how the value is bound.

* `Target`: what a marker refers to.
* `Context`: the keyword in front of a marker.
* `Marker`, `Marker.kind`: a marker with its surroundings, and the binding kind they imply.
* `Span`: a template is cut into literal text and markers.
-/

namespace QueryTemplate

inductive Target where
  /-- A parameter by name, `:name`. -/
  | named (name : Text)
  /-- A parameter by position, `?1`. -/
  | positional (position : Nat)
  /-- An expression whose value is to be supplied under a name. -/
  | namedExpression (expression : Text)
  /-- An expression whose value is to be supplied at a position. -/
  | positionalExpression (expression : Text)
  deriving DecidableEq, Repr

namespace Target

def expression? : Target → Option Text
  | .named _ | .positional _ => none
  | .namedExpression expression | .positionalExpression expression => some expression

def isExpression (target : Target) : Bool := target.expression?.isSome

end Target

inductive Context where
  | plain
  | like
  | inList
  deriving DecidableEq, Repr

structure Marker where
  /-- The byte at which the marker starts, its leading wildcard included. -/
  start : Nat
  /-- The marker as written, without wildcards. -/
  text : Text
  target : Target
  leading : Bool
  trailing : Bool
  context : Context
  /-- The escape character declared behind a pattern. -/
  escape : Option Char
  deriving DecidableEq, Repr

namespace Marker

def wildcard (present : Bool) : Text := if present then ['%'] else []

def raw (marker : Marker) : Text :=
  wildcard marker.leading ++ marker.text ++ wildcard marker.trailing

def stop (marker : Marker) : Nat := marker.start + marker.raw.byteSize

def kind (marker : Marker) : BindingKind :=
  match marker.context with
  | .plain => .simple
  | .like => .like (.ofWildcards marker.leading marker.trailing) marker.escape
  | .inList => .inCollection

end Marker

inductive Span where
  | literal (text : Text)
  | marker (marker : Marker)
  deriving DecidableEq, Repr

def Span.raw : Span → Text
  | .literal written => written
  | .marker found => found.raw

def markers (spans : List Span) : List Marker :=
  spans.filterMap fun
    | .literal _ => none
    | .marker found => some found

@[simp] theorem markers_nil : markers [] = [] := rfl

@[simp] theorem markers_literal (text : Text) (spans : List Span) :
    markers (.literal text :: spans) = markers spans := rfl

@[simp] theorem markers_marker (marker : Marker) (spans : List Span) :
    markers (.marker marker :: spans) = marker :: markers spans := rfl

theorem mem_markers_iff {marker : Marker} {spans : List Span} :
    marker ∈ markers spans ↔ .marker marker ∈ spans := by
  induction spans with
  | nil => simp
  | cons span rest inductionHypothesis => cases span <;> simp [inductionHypothesis]

end QueryTemplate
