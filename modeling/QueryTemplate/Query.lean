import QueryTemplate.Shape.Constructor
import QueryTemplate.Template.Bound
import QueryTemplate.Template.Mask
import QueryTemplate.Template.Scan

/-! # Parsed queries

A template is parsed once, into the query to execute and the bindings of its parameters.

* `Query`: the result of parsing.
* `Query.parse`: parsing, with the events it reports.
* `Query.bindingFor`: the binding of a parameter.
-/

namespace QueryTemplate

structure Query where
  template : Text
  /-- The query to execute; its markers are names and positions only. -/
  canonical : Text
  bindings : List Binding
  constructs : Bool
  rootAlias : Option Text
  deriving DecidableEq, Repr

namespace Query

/-- The number of characters of a template that are shown when it is about to be parsed. -/
def previewLength : Nat := 100

def spansOf (options : Options) (template : Text) : Logged (List Span) :=
  match scan options template with
  | .ok spans => do
    .note (.scanned spans.length)
    pure spans
  | .error error => do
    if let .unterminatedExpression offset := error then
      .note (.unterminated offset)
    .fail error

/-- Parses a template with valid options. Nothing is produced when anything is wrong with it. -/
def parse (options : Options) (template : Text) : Logged Query := do
  .ofExcept options.validate
  .note (.parsing (template.take previewLength))
  let spans ← spansOf options template
  let (pieces, registry) ← bindTemplate options.stem spans
  let masked := mask options.skipComments template
  let query : Query :=
    { template
      canonical := canonicalText pieces
      bindings := registry.bindings
      constructs := hasConstructor masked
      rootAlias := findAlias? masked }
  .note (.parsed query.bindings.length query.constructs query.rootAlias)
  pure query

def hasBindings (query : Query) : Bool := !query.bindings.isEmpty

def usesExpressions (query : Query) : Bool := query.bindings.any Binding.isExpression

/-- The binding of a parameter. The caller may have no identifier to give. -/
def bindingFor (query : Query) : Option Identifier → Except Error Binding
  | none => .error .missingIdentifier
  | some identifier =>
    match query.bindings.find? (·.identifier == identifier) with
    | some binding => .ok binding
    | none => .error (.unknownParameter identifier)

end Query

end QueryTemplate
