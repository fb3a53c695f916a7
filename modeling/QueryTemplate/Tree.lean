import QueryTemplate.Query

/-! # Tree form

Queries and bindings can be handed on as trees of named fields. An absent alias or escape
character is an empty field; a binding that no expression computes has no `expression` field at
all.

* `Tree`: fields inside fields.
* `Binding.tree`, `Query.tree`: the trees of a binding and of a query.
-/

namespace QueryTemplate

inductive Tree where
  | empty
  | flag (value : Bool)
  | number (value : Nat)
  | text (value : Text)
  | list (items : List Tree)
  | fields (members : List (String × Tree))

def Tree.optional : Option Text → Tree
  | none => .empty
  | some written => .text written

def Identifier.tree : Identifier → Tree
  | .name word => .fields [("name", .text word)]
  | .position number => .fields [("position", .number number)]

def LikeMode.tree : LikeMode → Tree
  | .contains => .text "contains".toList
  | .startsWith => .text "starts_with".toList
  | .endsWith => .text "ends_with".toList
  | .equals => .text "equals".toList

/-- A kind tells its type, and a pattern its mode and escape character. -/
def BindingKind.tree : BindingKind → Tree
  | .simple => .fields [("type", .text "simple".toList)]
  | .inCollection => .fields [("type", .text "in_collection".toList)]
  | .like mode escape =>
    .fields [("type", .text "like".toList), ("mode", mode.tree),
      ("escape", .optional (escape.map ([·])))]

def Binding.tree (binding : Binding) : Tree :=
  .fields <|
    [("identifier", binding.identifier.tree), ("kind", binding.kind.tree)] ++
      (binding.expression.map fun expression => ("expression", Tree.text expression)).toList

def Query.tree (query : Query) : Tree :=
  .fields [
    ("original", .text query.template), ("canonical", .text query.canonical),
    ("bindings", .list (query.bindings.map Binding.tree)),
    ("has_constructor_expression", .flag query.constructs),
    ("alias", .optional query.rootAlias)]

end QueryTemplate
