import QueryTemplate.Text.Basic

/-! # Opaque regions

Quoted text and comments are *opaque*: nothing inside them is read as a marker or a keyword.

* `splitOpaque?`: the opaque region that a text begins with, and what follows it.
* `splitOpaque?_append`, `splitOpaque?_ne_nil`: the two parts make up the text, and the region is
  not empty, so reading on behind it makes progress.
-/

namespace QueryTemplate

/-- The rest of a quoted text up to its closing quote, and what follows. A doubled quote is part
    of the text; without a closing quote the text reaches to the end. -/
def throughQuote (quote : Char) : Text → Text × Text
  | [] => ([], [])
  | [c] => ([c], [])
  | c :: d :: rest =>
    if c ≠ quote then
      let (region, after) := throughQuote quote (d :: rest)
      (c :: region, after)
    else if d = quote then
      let (region, after) := throughQuote quote rest
      (c :: d :: region, after)
    else ([c], d :: rest)

/-- The rest of a line with its line end, and what follows. -/
def throughLineEnd : Text → Text × Text
  | [] => ([], [])
  | c :: rest =>
    if c = '\n' then ([c], rest)
    else
      let (region, after) := throughLineEnd rest
      (c :: region, after)

/-- The rest of a block comment with its closing mark, and what follows. Without the mark the
    comment reaches to the end. -/
def throughBlockEnd : Text → Text × Text
  | [] => ([], [])
  | [c] => ([c], [])
  | c :: d :: rest =>
    if c = '*' ∧ d = '/' then ([c, d], rest)
    else
      let (region, after) := throughBlockEnd (d :: rest)
      (c :: region, after)

/-- The opaque region that a text begins with, and what follows it. Comments count only when they
    are to be skipped. -/
def splitOpaque? (skipComments : Bool) : Text → Option (Text × Text)
  | [] => none
  | c :: rest =>
    if c = '\'' ∨ c = '"' then
      let (region, after) := throughQuote c rest
      some (c :: region, after)
    else if skipComments ∧ c = '-' ∧ rest.head? = some '-' then
      let (region, after) := throughLineEnd rest
      some (c :: region, after)
    else if skipComments ∧ c = '/' ∧ rest.head? = some '*' then
      -- The star of the opening mark cannot be part of the closing one.
      let (region, after) := throughBlockEnd rest.tail
      some (c :: '*' :: region, after)
    else none

/-! ## The parts make up the text -/

theorem throughQuote_append (quote : Char) (text : Text) :
    (throughQuote quote text).1 ++ (throughQuote quote text).2 = text := by
  fun_induction throughQuote quote text <;> simp_all

theorem throughLineEnd_append (text : Text) :
    (throughLineEnd text).1 ++ (throughLineEnd text).2 = text := by
  fun_induction throughLineEnd text <;> simp_all

theorem throughBlockEnd_append (text : Text) :
    (throughBlockEnd text).1 ++ (throughBlockEnd text).2 = text := by
  fun_induction throughBlockEnd text <;> simp_all

theorem splitOpaque?_append {skipComments : Bool} {text region after : Text}
    (h : splitOpaque? skipComments text = some (region, after)) : region ++ after = text := by
  cases text with
  | nil => simp [splitOpaque?] at h
  | cons c rest =>
    simp only [splitOpaque?] at h
    split at h
    · obtain ⟨rfl, rfl⟩ := Prod.mk.injEq .. ▸ Option.some.injEq .. ▸ h
      simp [throughQuote_append]
    · split at h
      · obtain ⟨rfl, rfl⟩ := Prod.mk.injEq .. ▸ Option.some.injEq .. ▸ h
        simp [throughLineEnd_append]
      · split at h
        · next opens =>
          obtain ⟨rfl, rfl⟩ := Prod.mk.injEq .. ▸ Option.some.injEq .. ▸ h
          cases rest with
          | nil => simp at opens
          | cons d rest =>
            obtain ⟨_, _, same⟩ := opens
            simp only [List.head?_cons, Option.some.injEq] at same
            simp [throughBlockEnd_append, same]
        · simp at h

theorem splitOpaque?_ne_nil {skipComments : Bool} {text region after : Text}
    (h : splitOpaque? skipComments text = some (region, after)) : region ≠ [] := by
  cases text with
  | nil => simp [splitOpaque?] at h
  | cons c rest =>
    simp only [splitOpaque?] at h
    repeat' split at h
    all_goals simp_all only [Option.some.injEq, Prod.mk.injEq, reduceCtorEq]
    all_goals obtain ⟨rfl, _⟩ := h
    all_goals simp

theorem splitOpaque?_length_lt {skipComments : Bool} {text region after : Text}
    (h : splitOpaque? skipComments text = some (region, after)) : after.length < text.length := by
  rw [← splitOpaque?_append h, List.length_append]
  have := List.length_pos_iff.2 (splitOpaque?_ne_nil h)
  omega

end QueryTemplate
