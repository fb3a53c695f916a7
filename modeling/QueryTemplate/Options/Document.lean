import QueryTemplate.Logged
import QueryTemplate.Toml.Document

/-! # Options from a document

Options can be written in a TOML document. Each option has a key of its own; keys that are missing
leave the default, and keys that mean nothing here are passed over.

* `Options.ofEntries?`: the options that the entries of a table describe.
* `Options.load`: the options of a document, checked and reported.
-/

namespace QueryTemplate.Options

open Toml

/-- The text under a key, or the default. A value of another type is an error. -/
def textEntry? (entries : Entries) (key : String) (default : Text) : Option Text :=
  match entries.lookup key.toList with
  | none => some default
  | some (.string value) => some value
  | some _ => none

/-- The truth value under a key, or the default. A value of another type is an error. -/
def flagEntry? (entries : Entries) (key : String) (default : Bool) : Option Bool :=
  match entries.lookup key.toList with
  | none => some default
  | some (.boolean value) => some value
  | some _ => none

/-- The options that the entries of a table describe. -/
def ofEntries? (entries : Entries) : Option Options := do
  let defaults : Options := {}
  let stem ← textEntry? entries "synthetic_prefix" defaults.stem
  let skipComments ← flagEntry? entries "skip_comments" defaults.skipComments
  let detectEscape ← flagEntry? entries "detect_escape_clause" defaults.detectEscape
  return { stem := stemOrDefault stem, skipComments, detectEscape }

/-- The options of a document. An empty stem stands for the default one; after that the options
    have to be valid. -/
def load (document : Text) : Logged Options :=
  match (parse? document).bind ofEntries? with
  | none => .fail (.invalidOptions .unreadable)
  | some options => do
    .ofExcept options.validate
    .note (.loaded options)
    pure options

end QueryTemplate.Options
