import QueryTemplate.Options
import QueryTemplate.Text.Quoted

/-! # Events

Parsing reports what it does as a sequence of events. An event is a fact with its data; its level,
its message and its fields are read off it.

* `Event`: the facts that are reported.
* `Event.level`, `Event.message`, `Event.fields`: the form of an event in a log.
-/

namespace QueryTemplate

inductive Level where
  | trace
  | debug
  deriving DecidableEq, Repr

def Level.describe : Level → String
  | .trace => "TRACE"
  | .debug => "DEBUG"

inductive Event where
  /-- Options were read from a document and found valid. -/
  | loaded (options : Options)
  /-- A template is about to be parsed; its first characters are shown. -/
  | parsing (preview : Text)
  | unterminated (offset : Nat)
  | scanned (spans : Nat)
  | mintedName (expression name : Text)
  | mintedPosition (expression : Text) (position : Nat)
  /-- A repeated parameter agrees with its first occurrence. -/
  | merged (parameter : Identifier)
  /-- A repeated parameter disagrees with its first occurrence. -/
  | conflict (parameter : Identifier) (existing conflicting : BindingKind)
  /-- The marker of a disagreeing occurrence. -/
  | rejected (marker : Text) (offset : Nat)
  | parsed (bindings : Nat) (hasConstructor : Bool) (rootAlias : Option Text)
  deriving DecidableEq, Repr

namespace Event

/-- Failures and results are reported at the debug level, steps at the trace level. -/
def level : Event → Level
  | .loaded _ | .unterminated _ | .conflict _ _ _ | .rejected _ _ | .parsed _ _ _ => .debug
  | .parsing _ | .scanned _ | .mintedName _ _ | .mintedPosition _ _ | .merged _ => .trace

def message : Event → String
  | .loaded _ => "loaded string query options"
  | .parsing _ => "parsing query template"
  | .unterminated _ => "unterminated expression marker"
  | .scanned _ => "scanned query template"
  | .mintedName _ _ => "minted synthetic parameter name"
  | .mintedPosition _ _ => "minted synthetic parameter position"
  | .merged _ => "merged repeated parameter occurrence"
  | .conflict _ _ _ => "conflicting parameter bindings"
  | .rejected _ _ => "rejected parameter marker"
  | .parsed _ _ _ => "parsed query template"

def flag (value : Bool) : String := if value then "true" else "false"

def number (value : Nat) : String := String.ofList (Nat.toDigits 10 value)

def fields : Event → List (String × String)
  | .loaded options =>
    [("synthetic_prefix", String.ofList options.stem), ("skip_comments", flag options.skipComments),
      ("detect_escape_clause", flag options.detectEscape)]
  | .parsing preview => [("sql_preview", String.ofList preview)]
  | .unterminated offset => [("offset", number offset)]
  | .scanned spans => [("spans", number spans)]
  | .mintedName expression name =>
    [("expression", String.ofList expression), ("name", String.ofList name)]
  | .mintedPosition expression position =>
    [("expression", String.ofList expression), ("position", number position)]
  | .merged parameter => [("parameter", String.ofList parameter.text)]
  | .conflict parameter existing conflicting =>
    [("parameter", String.ofList parameter.text), ("existing", existing.describe),
      ("conflicting", conflicting.describe)]
  | .rejected marker offset => [("marker", String.ofList marker), ("offset", number offset)]
  | .parsed bindings hasConstructor rootAlias =>
    [("bindings", number bindings), ("constructor_expression", flag hasConstructor),
      ("alias", String.ofList (quotedOption rootAlias))]

end Event

end QueryTemplate
