import QueryTemplate.Template.Opaque

/-! # Masked text

The masked form of a template has one space in place of every opaque region, so that keywords
inside quoted text, and inside comments that are skipped, cannot be found in it.
-/

namespace QueryTemplate

/-- Puts one space in the place of each opaque region. -/
def mask (skipComments : Bool) (text : Text) : Text :=
  match text with
  | [] => []
  | c :: rest =>
    match _h : splitOpaque? skipComments (c :: rest) with
    | some (_, after) => ' ' :: mask skipComments after
    | none => c :: mask skipComments rest
termination_by text.length
decreasing_by
  · exact splitOpaque?_length_lt _h
  · simp

@[simp] theorem mask_nil (skipComments : Bool) : mask skipComments [] = [] := by
  rw [mask]

theorem mask_of_region {skipComments : Bool} {text region after : Text}
    (h : splitOpaque? skipComments text = some (region, after)) :
    mask skipComments text = ' ' :: mask skipComments after := by
  cases text with
  | nil => simp [splitOpaque?] at h
  | cons c rest =>
    rw [mask]
    split
    · next region' after' h' =>
      rw [h] at h'
      obtain ⟨rfl, rfl⟩ := Prod.mk.injEq .. ▸ Option.some.injEq .. ▸ h'
      rfl
    · next h' => simp [h] at h'

theorem mask_of_clear {skipComments : Bool} {c : Char} {rest : Text}
    (h : splitOpaque? skipComments (c :: rest) = none) :
    mask skipComments (c :: rest) = c :: mask skipComments rest := by
  rw [mask]
  split
  · next h' => simp [h] at h'
  · rfl

end QueryTemplate
