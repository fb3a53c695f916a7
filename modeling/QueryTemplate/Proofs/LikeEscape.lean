import QueryTemplate.Proofs.LikePattern

/-! # Escaped values as a code

What is written for a value under an escape character can be read back: every character of the value
is found as a literal character, whatever the escape character is. From this no two values share a
written form, and no two values share a prepared one.

* `readPattern?`: the items of a pattern. One that ends in a lone escape character is not read.
* `escapeOnto`, `escapeUnlessPlain`: the loop that writes an escaped value, and the short cut past
  it for a value in which nothing is special.
* `readPattern?_eq_some_iff`: what is read is what consists of whole steps.
* `readPattern?_escaped`, `escapeWildcards_injective`: an escaped value is read back.
* `prepare_injective`: prepared values are told apart, for every way of binding.
* `escapeWildcards_faithful`: all of it.
-/

namespace QueryTemplate

def readPattern? (escape : Char) : Text → Option (List PatternItem)
  | [] => some []
  | [c] => if c = escape then none else some [.ofChar c]
  | c :: d :: rest =>
    if c = escape then (readPattern? escape rest).map (.literal d :: ·)
    else (readPattern? escape (d :: rest)).map (.ofChar c :: ·)

/-- Writes the escaped value behind what is written already, character by character. -/
def escapeOnto (escape : Char) (written : Text) : Text → Text
  | [] => written
  | c :: value =>
    let escaped := if isSpecial escape c then written ++ [escape] else written
    escapeOnto escape (escaped ++ [c]) value

/-- A value in which nothing is special stands for itself and is not written anew. -/
def escapeUnlessPlain (escape : Char) (value : Text) : Text :=
  if value.any (isSpecial escape) then escapeOnto escape [] value else value

section Escape

variable {escape : Char}

/-! ## The loop and the short cut -/

theorem escapeWildcards_append (first second : Text) :
    escapeWildcards escape (first ++ second) =
      escapeWildcards escape first ++ escapeWildcards escape second := List.flatMap_append

theorem escapeOnto_eq (written value : Text) :
    escapeOnto escape written value = written ++ escapeWildcards escape value := by
  induction value generalizing written with
  | nil => exact (List.append_nil written).symm
  | cons c value inductionHypothesis =>
    rw [escapeOnto, inductionHypothesis, escapeWildcards_cons]
    by_cases special : isSpecial escape c = true
    · simp [special]
    · simp [special]

theorem escapeUnlessPlain_eq (value : Text) :
    escapeUnlessPlain escape value = escapeOnto escape [] value := by
  rw [escapeUnlessPlain]
  split
  · rfl
  · next plain =>
    rw [escapeOnto_eq, List.nil_append]
    exact (escapeWildcards_of_plain (Bool.eq_false_iff.2 plain)).symm

/-! ## Reading back -/

theorem readsInFull_of_readPattern? {text : Text} {items : List PatternItem}
    (read : readPattern? escape text = some items) : ReadsInFull escape text items := by
  fun_induction readPattern? escape text generalizing items with
  | case1 =>
    obtain rfl := Option.some.inj read
    exact .nil
  | case2 => cases read
  | case3 c other =>
    obtain rfl := Option.some.inj read
    exact .plain other .nil
  | case4 d rest inductionHypothesis =>
    obtain ⟨later, readRest, rfl⟩ := Option.map_eq_some_iff.1 read
    exact .escaped (inductionHypothesis readRest)
  | case5 c d rest other inductionHypothesis =>
    obtain ⟨later, readRest, rfl⟩ := Option.map_eq_some_iff.1 read
    exact .plain other (inductionHypothesis readRest)

theorem readPattern?_of_ne {c : Char} (other : c ≠ escape) (rest : Text) :
    readPattern? escape (c :: rest) = (readPattern? escape rest).map (.ofChar c :: ·) := by
  cases rest with
  | nil => simp [readPattern?, other]
  | cons d rest => rw [readPattern?, if_neg other]

theorem ReadsInFull.readPattern?_eq {text : Text} {items : List PatternItem}
    (reads : ReadsInFull escape text items) : readPattern? escape text = some items := by
  induction reads with
  | nil => rfl
  | escaped _ inductionHypothesis =>
    rw [readPattern?, if_pos rfl, inductionHypothesis]
    rfl
  | plain other _ inductionHypothesis =>
    rw [readPattern?_of_ne other, inductionHypothesis]
    rfl

theorem readPattern?_eq_some_iff {text : Text} {items : List PatternItem} :
    readPattern? escape text = some items ↔ ReadsInFull escape text items :=
  ⟨readsInFull_of_readPattern?, ReadsInFull.readPattern?_eq⟩

/-- Only literal characters are read, so no wildcard is met that is not escaped, and the last escape
character has a character behind it. -/
theorem readPattern?_escaped (value : Text) :
    readPattern? escape (escapeWildcards escape value) = some (value.map .literal) :=
  readPattern?_eq_some_iff.2 (readsInFull_escapeWildcards escape value)

theorem PatternItem.literal_injective : Function.Injective PatternItem.literal := by
  intro first second same
  exact PatternItem.literal.inj same

theorem escapeWildcards_injective : Function.Injective (escapeWildcards escape) := by
  intro first second same
  have read : some (first.map PatternItem.literal) = some (second.map .literal) := by
    rw [← @readPattern?_escaped escape first, same, readPattern?_escaped]
  exact List.map_injective_iff.2 PatternItem.literal_injective (Option.some.inj read)

end Escape

/-! ## Prepared values -/

/-- The wildcards of a mode stand at fixed places around the value. -/
theorem LikeMode.decorate_injective (mode : LikeMode) : Function.Injective mode.decorate := by
  intro first second same
  rw [decorate, decorate] at same
  exact List.append_cancel_left (List.append_cancel_right same)

theorem Binding.prepare_injective (binding : Binding) : Function.Injective binding.prepare := by
  intro first second same
  rw [prepare, prepare] at same
  cases kind : binding.kind with
  | simple | inCollection =>
    rw [kind] at same
    exact same
  | like mode escape =>
    rw [kind] at same
    cases escape with
    | none => exact mode.decorate_injective same
    | some escape => exact escapeWildcards_injective (mode.decorate_injective same)

/-- Under every escape character, the wildcards among them, an escaped value is read back as the
characters of the value, the values are told apart, escaping goes along with putting texts together,
and the short cut agrees with the loop. -/
theorem escapeWildcards_faithful (escape : Char) :
    (∀ value, readPattern? escape (escapeWildcards escape value) = some (value.map .literal)) ∧
      Function.Injective (escapeWildcards escape) ∧
      (∀ first second, escapeWildcards escape (first ++ second) =
        escapeWildcards escape first ++ escapeWildcards escape second) ∧
      (∀ value, escapeUnlessPlain escape value = escapeOnto escape [] value ∧
        escapeOnto escape [] value = escapeWildcards escape value) ∧
      ∀ binding : Binding, Function.Injective binding.prepare := by
  refine ⟨readPattern?_escaped, escapeWildcards_injective, escapeWildcards_append,
    fun value => ⟨escapeUnlessPlain_eq value, ?_⟩, Binding.prepare_injective⟩
  rw [escapeOnto_eq, List.nil_append]

/-- A wildcard that is the escape character too is written twice. -/
example : escapeWildcards '%' "a%_b".toList = "a%%%_b".toList ∧
    readPattern? '%' "a%%%_b".toList = some ("a%_b".toList.map .literal) := by decide

end QueryTemplate
