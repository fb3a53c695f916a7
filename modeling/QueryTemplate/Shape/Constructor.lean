import QueryTemplate.Shape.Alias

/-! # Constructor projections

A query can build its results with a constructor, `select new Type(…)`. A type without an argument
list does not count. The projection is looked for in masked text.

* `constructs`: a constructor call at the start of a text.
* `hasConstructor`: a constructor call somewhere behind the keyword `select`.
-/

namespace QueryTemplate

def constructs (text : Text) : Bool :=
  match (dropFolded? foldWide "new".toList text).bind dropBlanks? |>.bind dropPath? with
  | some rest => (skipBlanks rest).head? == some '('
  | none => false

/-- A constructor call stands at some word start of the text. -/
def hasConstructorCall (before : Option Char) : Text → Bool
  | [] => false
  | c :: rest =>
    (startsWord before && constructs (c :: rest)) || hasConstructorCall (some c) rest

def dropSelect? (text : Text) : Option Text :=
  (dropFolded? foldWide "select".toList text).filter endsWord

/-- A constructor call stands behind the first `select` of the text. -/
def hasProjection (before : Option Char) : Text → Bool
  | [] => false
  | c :: rest =>
    -- What follows a later occurrence of the keyword follows the first one too. As every spelling
    -- of the keyword ends in a letter, no call starts directly behind it.
    match if startsWord before then dropSelect? (c :: rest) else none with
    | some after => hasConstructorCall (some 't') after
    | none => hasProjection (some c) rest

def hasConstructor (masked : Text) : Bool := hasProjection none masked

end QueryTemplate
