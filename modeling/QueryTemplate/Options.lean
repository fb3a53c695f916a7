import QueryTemplate.Error
import QueryTemplate.Text.WordChar

/-! # Options

What a caller can choose about the reading of templates.

* `Options`: the choices and their defaults.
* `Options.withStem`: names with another stem; the empty stem stands for the default one.
* `Options.Valid`, `Options.validate`: which stems give minted names that are names.
-/

namespace QueryTemplate

def defaultStem : Text := "__synthetic__".toList

structure Options where
  /-- Names minted for expressions are this stem and a number. -/
  stem : Text := defaultStem
  /-- Comments are opaque, as quoted text is. -/
  skipComments : Bool := false
  /-- The escape character declared behind a pattern is recorded. -/
  detectEscape : Bool := true
  deriving DecidableEq, Repr

namespace Options

def stemOrDefault (stem : Text) : Text := if stem.isEmpty then defaultStem else stem

def withStem (options : Options) (stem : Text) : Options :=
  { options with stem := stemOrDefault stem }

/-- The stem makes names: it has at least one character, and word characters only. -/
def Valid (options : Options) : Prop :=
  options.stem ≠ [] ∧ ∀ c ∈ options.stem, isWordChar c = true

def validate (options : Options) : Except Error Unit :=
  if options.stem.isEmpty then .error (.invalidOptions .emptyStem)
  else if options.stem.all isWordChar then .ok ()
  else .error (.invalidOptions (.badStem options.stem))

theorem validate_eq_ok_iff {options : Options} :
    options.validate = .ok () ↔ options.Valid := by
  unfold validate Valid
  split
  · next empty => simp [List.isEmpty_iff.1 empty]
  · next nonempty =>
    have nonempty : options.stem ≠ [] := fun empty => nonempty (by simp [empty])
    split
    · next words => simpa [nonempty] using words
    · next words => simpa [nonempty] using words

instance (options : Options) : Decidable options.Valid :=
  decidable_of_iff (options.validate.toBool = true) <| by
    rw [← validate_eq_ok_iff]
    cases options.validate with
    | error error => simp [Except.toBool]
    | ok done => simp [Except.toBool]

end Options

end QueryTemplate
