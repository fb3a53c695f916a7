/-! # Text

Templates, names and values are texts: lists of characters. A position in a text is measured in
bytes of its UTF-8 form.

* `Text`, `Text.byteSize`: texts and their length in bytes.
* `Text.append_inj_of_byteSize`: a byte cuts a text in two.
* `inRanges`: membership in a table of code point ranges.
-/

namespace QueryTemplate

abbrev Text := List Char

def Text.byteSize : Text → Nat
  | [] => 0
  | c :: text => c.utf8Size + Text.byteSize text

@[simp] theorem Text.byteSize_nil : Text.byteSize [] = 0 := rfl

@[simp] theorem Text.byteSize_cons (c : Char) (text : Text) :
    Text.byteSize (c :: text) = c.utf8Size + Text.byteSize text := rfl

@[simp] theorem Text.byteSize_append (first second : Text) :
    Text.byteSize (first ++ second) = Text.byteSize first + Text.byteSize second := by
  induction first with
  | nil => simp
  | cons c first ih => simp [ih, Nat.add_assoc]

/-- A text is cut in two at a byte in one way only. -/
theorem Text.append_inj_of_byteSize {front front' rest rest' : Text}
    (same : front ++ rest = front' ++ rest') (size : front.byteSize = front'.byteSize) :
    front = front' ∧ rest = rest' := by
  induction front generalizing front' with
  | nil =>
    cases front' with
    | nil => exact ⟨rfl, same⟩
    | cons c front' =>
      have positive := c.utf8Size_pos
      simp only [byteSize_nil, byteSize_cons] at size
      omega
  | cons c front inductionHypothesis =>
    cases front' with
    | nil =>
      have positive := c.utf8Size_pos
      simp only [byteSize_nil, byteSize_cons] at size
      omega
    | cons d front' =>
      obtain ⟨rfl, sameBehind⟩ := List.cons.inj same
      obtain ⟨rfl, rest⟩ := inductionHypothesis sameBehind (Nat.add_left_cancel size)
      exact ⟨rfl, rest⟩

/-- The character's code point lies in one of the ranges, ends included. -/
def inRanges (ranges : List (Nat × Nat)) (c : Char) : Bool :=
  ranges.any fun (first, last) => first ≤ c.toNat && c.toNat ≤ last

end QueryTemplate
