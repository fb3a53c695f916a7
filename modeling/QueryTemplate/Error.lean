import QueryTemplate.Binding.Basic

/-! # Errors

Everything that can go wrong when a template is parsed, options are loaded or a binding is looked
up. Each cause is a constructor; `Error.message` puts it into words.
-/

namespace QueryTemplate

inductive OptionsFault where
  /-- The document cannot be read, or gives an option a value of another type. -/
  | unreadable
  /-- Minted names would begin with nothing. -/
  | emptyStem
  /-- Minted names would not be names, as the stem holds other characters than word characters. -/
  | badStem (stem : Text)
  deriving DecidableEq, Repr

def OptionsFault.describe : OptionsFault → String
  | .unreadable => "unreadable document"
  | .emptyStem => "synthetic_prefix must not be empty"
  | .badStem stem =>
    "synthetic_prefix '" ++ String.ofList stem ++ "' must consist of word characters only"

inductive Error where
  /-- An expression is opened at this byte and never closed. -/
  | unterminatedExpression (offset : Nat)
  /-- A position that cannot be addressed is written, or needed, at this byte. -/
  | invalidPosition (offset : Nat)
  | conflictingBinding (identifier : Identifier) (existing conflicting : BindingKind)
  /-- A lookup gives neither a name nor a position. -/
  | missingIdentifier
  /-- A lookup asks for a parameter that the query does not have. -/
  | unknownParameter (identifier : Identifier)
  | invalidOptions (fault : OptionsFault)
  deriving DecidableEq, Repr

def Error.message : Error → String
  | .unterminatedExpression offset =>
    s!"unterminated expression starting at byte {offset}: missing closing '\x7d'"
  | .invalidPosition offset =>
    s!"invalid parameter position at byte {offset}: positions start at 1"
  | .conflictingBinding identifier existing conflicting =>
    "conflicting bindings for parameter " ++ String.ofList identifier.text ++
      ": already bound as " ++ existing.describe ++ ", found " ++ conflicting.describe
  | .missingIdentifier =>
    "cannot look up a parameter binding without a name or position; " ++
      "did you forget to annotate the method parameter with @Param?"
  | .unknownParameter identifier => "no binding for parameter " ++ String.ofList identifier.text
  | .invalidOptions fault => "invalid string query options: " ++ fault.describe

end QueryTemplate
