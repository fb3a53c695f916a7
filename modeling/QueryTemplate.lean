import QueryTemplate.Options.Document
import QueryTemplate.Tree
import QueryTemplate.Proofs.LikePattern
import QueryTemplate.Proofs.Template.Region
import QueryTemplate.Proofs.Template.Unmarked
import QueryTemplate.Proofs.Template.Segments
import QueryTemplate.Proofs.Template.Spelling
import QueryTemplate.Proofs.Binding.Identity
import QueryTemplate.Proofs.Binding.Firsts
import QueryTemplate.Proofs.Binding.Offers
import QueryTemplate.Proofs.Binding.Occurrence
import QueryTemplate.Proofs.Binding.Agreement
import QueryTemplate.Proofs.Canonical.Place
import QueryTemplate.Proofs.Canonical.Reference
import QueryTemplate.Proofs.Template.EscapeClause
import QueryTemplate.Proofs.Canonical.Fixpoint
import QueryTemplate.Proofs.Canonical.Rendering
import QueryTemplate.Proofs.Canonical.Unaltered
import QueryTemplate.Proofs.Binding.Hygiene
import QueryTemplate.Proofs.Template.Token
import QueryTemplate.Proofs.Template.Literal
import QueryTemplate.Proofs.Template.Embedding
import QueryTemplate.Proofs.Template.Offset
import QueryTemplate.Proofs.Template.Reached
import QueryTemplate.Proofs.Template.Failure
import QueryTemplate.Proofs.Binding.ErrorOffset
import QueryTemplate.Proofs.Opaque.Replacement
import QueryTemplate.Proofs.Opaque.Masking
import QueryTemplate.Proofs.Opaque.MaskedSpans
import QueryTemplate.Proofs.Opaque.Quotation
import QueryTemplate.Proofs.Opaque.Comment
import QueryTemplate.Proofs.Opaque.MaskedForm
import QueryTemplate.Proofs.Opaque.Payload
import QueryTemplate.Proofs.Template.Standing
import QueryTemplate.Proofs.Opaque.Operand
import QueryTemplate.Proofs.Shape.Phrase
import QueryTemplate.Proofs.Shape.Projection
import QueryTemplate.Proofs.Shape.RootAlias
import QueryTemplate.Proofs.Binding.Numbering
import QueryTemplate.Proofs.Binding.Requests
import QueryTemplate.Proofs.Template.OtherOptions
import QueryTemplate.Proofs.Binding.Comparison
import QueryTemplate.Proofs.Binding.WithoutEscape
import QueryTemplate.Proofs.Binding.Stem
import QueryTemplate.Proofs.Binding.Printed
import QueryTemplate.Proofs.Template.Context
import QueryTemplate.Proofs.Shape.Pattern
import QueryTemplate.Proofs.Shape.ConstructorPattern
import QueryTemplate.Proofs.Shape.AliasPattern
import QueryTemplate.Proofs.Binding.Report
import QueryTemplate.Proofs.Binding.Log
import QueryTemplate.Proofs.LikeEscape
import QueryTemplate.Proofs.Binding.Search
import QueryTemplate.Proofs.Cursor.Bytes
import QueryTemplate.Proofs.Cursor.Walk
import QueryTemplate.Proofs.Cursor.Region
import QueryTemplate.Proofs.Cursor.Keyword
import QueryTemplate.Proofs.Cursor.Target
import QueryTemplate.Proofs.Cursor.Scan
