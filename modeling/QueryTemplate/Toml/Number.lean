import QueryTemplate.Toml.Strings

/-! # Numbers

TOML numbers may have underscores between digits. Integers have 64 bits and a sign; a float that
would be beyond all finite ones is not a number.

* `integer`: decimal integers with a sign, and hexadecimal, octal and binary ones without.
* `float`: numbers with a fraction or an exponent, and the special values.
-/

namespace QueryTemplate.Toml

open Reader

/-- Digits of a class; single underscores may stand between them. -/
def digits (accepts : Char → Bool) : Reader Text := do
  let first ← satisfy accepts
  let others ← many do
    let _ ← optional (char '_')
    satisfy accepts
  return first :: others

/-- The digits of a decimal number: zero, or digits that do not start with zero. -/
def decimalDigits : Reader Text := do
  match ← peek with
  | some '0' => return [← satisfy (· == '0')]
  | _ => digits Char.isDigit

/-- A sign in front of a number; a minus is true. -/
def sign : Reader Bool := do
  match ← optional (satisfy fun c => c == '+' || c == '-') with
  | some '-' => return true
  | _ => return false

def valueOf (base : Nat) (digits : Text) : Nat :=
  digits.foldl (fun value digit => value * base + hexValue digit) 0

def bounded (value : Int) : Reader Int :=
  if -9223372036854775808 ≤ value ∧ value ≤ 9223372036854775807 then return value else failure

def based (mark : String) (base : Nat) (accepts : Char → Bool) : Reader Int := do
  exactly mark
  bounded (valueOf base (← digits accepts))

def decimalInteger : Reader Int := do
  let negative ← sign
  let value := valueOf 10 (← decimalDigits)
  bounded (if negative then -value else value)

def integer : Reader Int :=
  based "0x" 16 isHexDigit <|> based "0o" 8 (fun c => '0' ≤ c && c ≤ '7') <|>
    based "0b" 2 (fun c => c == '0' || c == '1') <|> decimalInteger

/-- Decimals of this size and above are nearest to no finite float of 64 bits. -/
def floatLimit : Nat := Nat.pow 2 1024 - Nat.pow 2 970

/-- Whether `mantissa · 10 ^ exponent` is below the limit of finite floats. Exponents far from
    the digits are decided by size alone. -/
def isFinite (mantissa : Nat) (exponent : Int) : Bool :=
  -- The value lies between the powers of ten with the exponents size - 1 and size.
  let size : Int := (Nat.toDigits 10 mantissa).length + exponent
  if mantissa = 0 ∨ size < 0 then true
  else if 400 < size then false
  else if 0 ≤ exponent then mantissa * Nat.pow 10 exponent.toNat < floatLimit
  else mantissa < floatLimit * Nat.pow 10 (-exponent).toNat

/-- The fraction of a number. -/
def fraction : Reader Text := do
  char '.'
  digits Char.isDigit

/-- The exponent of a number. -/
def exponent : Reader Int := do
  let _ ← satisfy fun c => c == 'e' || c == 'E'
  let negative ← sign
  let value := valueOf 10 (← digits Char.isDigit)
  return if negative then -value else value

/-- A number with a fraction, an exponent or both. Below zero there is no limit to its size. -/
def decimalFloat : Reader Unit := do
  let negative ← sign
  let whole ← decimalDigits
  let part ← optional fraction
  let scale ← if part.isSome then optional exponent else some <$> exponent
  let decimals := part.getD []
  let finite := isFinite (valueOf 10 (whole ++ decimals)) (scale.getD 0 - decimals.length)
  if negative ∨ finite then return () else failure

/-- A float; infinity and the value that is not a number have words of their own. -/
def float : Reader Unit :=
  decimalFloat <|> do
    let _ ← sign
    exactly "inf" <|> exactly "nan"

end QueryTemplate.Toml
