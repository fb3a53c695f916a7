import QueryTemplate.Text.Basic

/-! # Binding kinds

How the value of a parameter takes its place in the query: as it is, as the pattern of a `LIKE`
comparison, or as the collection of an `IN` test.

* `LikeMode`: where a pattern has wildcards around the value.
* `LikeMode.decorate`: a value with those wildcards.
* `BindingKind`: the three kinds, and their names in messages.
-/

namespace QueryTemplate

inductive LikeMode where
  | contains
  | startsWith
  | endsWith
  | equals
  deriving DecidableEq, Repr

namespace LikeMode

def ofWildcards : (leading trailing : Bool) → LikeMode
  | true, true => .contains
  | false, true => .startsWith
  | true, false => .endsWith
  | false, false => .equals

def leading : LikeMode → Bool
  | .contains | .endsWith => true
  | .startsWith | .equals => false

def trailing : LikeMode → Bool
  | .contains | .startsWith => true
  | .endsWith | .equals => false

def decorate (mode : LikeMode) (value : Text) : Text :=
  (if mode.leading then ['%'] else []) ++ value ++ (if mode.trailing then ['%'] else [])

def describe : LikeMode → String
  | .contains => "contains"
  | .startsWith => "starts with"
  | .endsWith => "ends with"
  | .equals => "equals"

@[simp] theorem leading_ofWildcards (leading trailing : Bool) :
    (ofWildcards leading trailing).leading = leading := by
  cases leading <;> cases trailing <;> rfl

@[simp] theorem trailing_ofWildcards (leading trailing : Bool) :
    (ofWildcards leading trailing).trailing = trailing := by
  cases leading <;> cases trailing <;> rfl

end LikeMode

inductive BindingKind where
  | simple
  /-- The value as a pattern; the escape character, if the query declares one, takes the special
      meaning away from the character behind it. -/
  | like (mode : LikeMode) (escape : Option Char)
  | inCollection
  deriving DecidableEq, Repr

namespace BindingKind

def isLike : BindingKind → Bool
  | .like _ _ => true
  | .simple | .inCollection => false

def isInCollection : BindingKind → Bool
  | .inCollection => true
  | .simple | .like _ _ => false

def likeMode? : BindingKind → Option LikeMode
  | .like mode _ => some mode
  | .simple | .inCollection => none

def describe : BindingKind → String
  | .simple => "simple"
  | .inCollection => "in-collection"
  | .like mode none => "like (" ++ mode.describe ++ ")"
  | .like mode (some escape) =>
    "like (" ++ mode.describe ++ ", escape '" ++ String.singleton escape ++ "')"

end BindingKind

end QueryTemplate
