import QueryTemplate.Text.Basic

/-! # Parameter identifiers

A parameter of a query is addressed by a name or by a position, and is written in the query text
as `:name` or `?position`.

* `Identifier`, `Identifier.text`: the identifier and its written form.
* `maxPosition`: the highest position that can be addressed.
-/

namespace QueryTemplate

/-- Positions are addressed by 64 bit numbers. -/
def maxPosition : Nat := 18446744073709551615

inductive Identifier where
  | name (name : Text)
  | position (position : Nat)
  deriving DecidableEq, Repr

namespace Identifier

/-- The marker that refers to the parameter in a query text. -/
def text : Identifier → Text
  | .name word => ':' :: word
  | .position number => '?' :: Nat.toDigits 10 number

def name? : Identifier → Option Text
  | .name word => some word
  | .position _ => none

def position? : Identifier → Option Nat
  | .name _ => none
  | .position number => some number

end Identifier

end QueryTemplate
