import QueryTemplate.Template.Opaque

/-! # Regions and what follows them

An opaque region is recognised by its own characters; of what follows it only the first character
can matter, because a doubled quote does not close a quoted text.

* `MarkHead`: a text that is empty or starts with one of the characters `%`, `:` and `?`, with
  which a decorated marker starts.
* `opensRegion`: the characters with which a region starts.
* `SameHead`: the change of text behind a region that keeps it a region.
* `splitOpaque?_behind`, `splitOpaque?_eq_none_behind`: the same region is found, or none again,
  when another text follows.
* `splitOpaque?_getLast?`: the last character of a region that ends before the text does.
-/

namespace QueryTemplate

def isMark (c : Char) : Bool := c == '%' || c == ':' || c == '?'

/-- An opaque region can open with the character. Whether it does depends on the next one. -/
def opensRegion (c : Char) : Bool := c == '\'' || c == '"' || c == '-' || c == '/'

/-- The text is empty or could start with a marker. -/
def MarkHead (text : Text) : Prop := ∀ c ∈ text.head?, isMark c = true

/-- The second text can take the place of the first one behind a region. -/
def SameHead (first second : Text) : Prop :=
  (first = [] → second = []) ∧ (second.head? = first.head? ∨ MarkHead second)

theorem markHead_cons {c : Char} {text : Text} : MarkHead (c :: text) ↔ isMark c = true := by
  simp [MarkHead]

theorem MarkHead.head?_ne {text : Text} (marked : MarkHead text) {c : Char}
    (other : isMark c = false) : text.head? ≠ some c := by
  intro same
  have := marked c same
  simp [other] at this

/-- A text in front of both keeps them alike. -/
theorem SameHead.append {first second : Text} (alike : SameHead first second) (literal : Text) :
    SameHead (literal ++ first) (literal ++ second) := by
  cases literal with
  | nil => exact alike
  | cons c literal => exact ⟨by simp, .inl (by simp)⟩

theorem SameHead.head?_ne {first second : Text} (alike : SameHead first second) {c : Char}
    (other : isMark c = false) (differs : first.head? ≠ some c) : second.head? ≠ some c := by
  obtain same | marked := alike.2
  · rw [same]
    exact differs
  · exact marked.head?_ne other

theorem head?_append_ne_of_not_infix {c d : Char} {text rest : Text}
    (apart : ¬[c, d] <:+: c :: text) (behind : rest.head? ≠ some d) :
    (text ++ rest).head? ≠ some d := by
  cases text with
  | nil => exact behind
  | cons e text =>
    intro same
    obtain rfl : e = d := by simpa using same
    exact apart ⟨[], text, rfl⟩

theorem pair_infix_cons_iff {c d e : Char} {text : Text} :
    [c, d] <:+: e :: text ↔ (e = c ∧ text.head? = some d) ∨ [c, d] <:+: text := by
  rw [List.infix_cons_iff, List.cons_prefix_cons, List.singleton_prefix_iff_head?_eq_some,
    eq_comm (a := c)]

/-! ## Quoted text -/

theorem throughQuote_of_ne {quote c : Char} (other : c ≠ quote) (rest : Text) :
    throughQuote quote (c :: rest) =
      (c :: (throughQuote quote rest).1, (throughQuote quote rest).2) := by
  cases rest with
  | nil => simp [throughQuote]
  | cons d rest => simp [throughQuote, other]

theorem throughQuote_doubled (quote : Char) (rest : Text) :
    throughQuote quote (quote :: quote :: rest) =
      (quote :: quote :: (throughQuote quote rest).1, (throughQuote quote rest).2) := by
  simp [throughQuote]

theorem throughQuote_close {quote : Char} {rest : Text} (single : rest.head? ≠ some quote) :
    throughQuote quote (quote :: rest) = ([quote], rest) := by
  cases rest with
  | nil => simp [throughQuote]
  | cons d rest =>
    have other : d ≠ quote := by simpa using single
    simp [throughQuote, other]

theorem throughQuote_behind {quote : Char} {text after : Text} (quoting : isMark quote = false)
    (alike : SameHead (throughQuote quote text).2 after) :
    throughQuote quote ((throughQuote quote text).1 ++ after) =
      ((throughQuote quote text).1, after) := by
  fun_induction throughQuote quote text with
  | case1 => simp [alike.1 rfl, throughQuote]
  | case2 c => simp [alike.1 rfl, throughQuote]
  | case3 c d rest other region later split inductionHypothesis =>
    rw [split] at inductionHypothesis
    rw [List.cons_append, throughQuote_of_ne other, inductionHypothesis alike]
  | case4 c rest same region later split inductionHypothesis =>
    rw [split] at inductionHypothesis
    rw [Decidable.not_not.1 same, List.cons_append, List.cons_append, throughQuote_doubled,
      inductionHypothesis alike]
  | case5 c d rest same other =>
    rw [Decidable.not_not.1 same, List.cons_append, List.nil_append]
    exact throughQuote_close (alike.head?_ne quoting (by simpa using other))

/-! ## Comments -/

theorem throughLineEnd_behind {text after : Text}
    (empty : (throughLineEnd text).2 = [] → after = []) :
    throughLineEnd ((throughLineEnd text).1 ++ after) = ((throughLineEnd text).1, after) := by
  fun_induction throughLineEnd text with
  | case1 => simp [empty rfl, throughLineEnd]
  | case2 rest => simp [throughLineEnd]
  | case3 c rest other region later split inductionHypothesis =>
    rw [split] at inductionHypothesis
    rw [List.cons_append, throughLineEnd, if_neg other, inductionHypothesis empty]

theorem throughLineEnd_head? (text : Text) :
    (throughLineEnd text).1.head? = text.head? := by
  fun_induction throughLineEnd text <;> simp

theorem throughBlockEnd_head? (text : Text) :
    (throughBlockEnd text).1.head? = text.head? := by
  fun_induction throughBlockEnd text <;> simp_all

theorem throughBlockEnd_of_open {c : Char} {rest : Text}
    (opened : ¬(c = '*' ∧ rest.head? = some '/')) :
    throughBlockEnd (c :: rest) =
      (c :: (throughBlockEnd rest).1, (throughBlockEnd rest).2) := by
  cases rest with
  | nil => simp [throughBlockEnd]
  | cons d rest =>
    rw [throughBlockEnd, if_neg (by simpa using opened)]

theorem throughBlockEnd_behind {text after : Text}
    (empty : (throughBlockEnd text).2 = [] → after = []) :
    throughBlockEnd ((throughBlockEnd text).1 ++ after) = ((throughBlockEnd text).1, after) := by
  fun_induction throughBlockEnd text with
  | case1 => simp [empty rfl, throughBlockEnd]
  | case2 c => simp [empty rfl, throughBlockEnd]
  | case3 c d rest closes => simp [throughBlockEnd, closes]
  | case4 c d rest opened region later split inductionHypothesis =>
    -- The two characters of the closing mark could come to stand next to each other only if they
    -- did so before, since the rest of the region keeps its first character.
    have head := throughBlockEnd_head? (d :: rest)
    rw [split] at inductionHypothesis head
    have opened : ¬(c = '*' ∧ (region ++ after).head? = some '/') := by
      rw [List.head?_append, head]
      simpa using opened
    rw [List.cons_append, throughBlockEnd_of_open opened, inductionHypothesis empty]

/-! ## The end of a region -/

theorem throughQuote_getLast? {quote : Char} {text : Text}
    (closed : (throughQuote quote text).2 ≠ []) :
    (throughQuote quote text).1.getLast? = some quote := by
  fun_induction throughQuote quote text with
  | case1 | case2 => contradiction
  | case3 c d rest other region later split inductionHypothesis =>
    rw [split] at inductionHypothesis
    rw [List.getLast?_cons, inductionHypothesis closed]
    rfl
  | case4 c rest same region later split inductionHypothesis =>
    rw [split] at inductionHypothesis
    rw [List.getLast?_cons, List.getLast?_cons, inductionHypothesis closed]
    rfl
  | case5 c d rest same other => simp [Decidable.not_not.1 same]

theorem throughLineEnd_getLast? {text : Text} (closed : (throughLineEnd text).2 ≠ []) :
    (throughLineEnd text).1.getLast? = some '\n' := by
  fun_induction throughLineEnd text with
  | case1 => contradiction
  | case2 rest => rfl
  | case3 c rest other region later split inductionHypothesis =>
    rw [split] at inductionHypothesis
    rw [List.getLast?_cons, inductionHypothesis closed]
    rfl

theorem throughBlockEnd_getLast? {text : Text} (closed : (throughBlockEnd text).2 ≠ []) :
    (throughBlockEnd text).1.getLast? = some '/' := by
  fun_induction throughBlockEnd text with
  | case1 | case2 => contradiction
  | case3 c d rest closes => simp [closes.2]
  | case4 c d rest opened region later split inductionHypothesis =>
    rw [split] at inductionHypothesis
    rw [List.getLast?_cons, inductionHypothesis closed]
    rfl

/-! ## Any region -/

theorem splitOpaque?_behind {skipComments : Bool} {text region later after : Text}
    (found : splitOpaque? skipComments text = some (region, later))
    (alike : SameHead later after) :
    splitOpaque? skipComments (region ++ after) = some (region, after) := by
  cases text with
  | nil => simp [splitOpaque?] at found
  | cons c rest =>
    simp only [splitOpaque?] at found
    split at found
    next quotes =>
      simp only [Option.some.injEq, Prod.mk.injEq] at found
      obtain ⟨rfl, rfl⟩ := found
      -- A text that could start with a marker does not start with a quote.
      have quoting : isMark c = false := by rcases quotes with rfl | rfl <;> rfl
      simp only [List.cons_append, splitOpaque?, if_pos quotes]
      rw [throughQuote_behind quoting alike]
    next noQuotes =>
      split at found
      next dashes =>
        simp only [Option.some.injEq, Prod.mk.injEq] at found
        obtain ⟨rfl, rfl⟩ := found
        have dashes : skipComments = true ∧ c = '-' ∧
            ((throughLineEnd rest).1 ++ after).head? = some '-' := by
          rw [List.head?_append, throughLineEnd_head?, dashes.2.2]
          exact ⟨dashes.1, dashes.2.1, rfl⟩
        simp only [List.cons_append, splitOpaque?, if_neg noQuotes, if_pos dashes]
        rw [throughLineEnd_behind alike.1]
      next noDashes =>
        split at found
        next opens =>
          simp only [Option.some.injEq, Prod.mk.injEq] at found
          obtain ⟨rfl, rfl⟩ := found
          have opens : skipComments = true ∧ c = '/' ∧
              ('*' :: ((throughBlockEnd rest.tail).1 ++ after)).head? = some '*' :=
            ⟨opens.1, opens.2.1, rfl⟩
          have noDashes : ¬(skipComments = true ∧ c = '-' ∧
              ('*' :: ((throughBlockEnd rest.tail).1 ++ after)).head? = some '-') := by
            simp
          simp only [List.cons_append, splitOpaque?, if_neg noQuotes, if_neg noDashes,
            if_pos opens]
          rw [List.tail_cons, throughBlockEnd_behind alike.1]
        next => simp at found

/-- A region that something follows ends in its closing character. -/
theorem splitOpaque?_getLast? {skipComments : Bool} {text region after : Text}
    (found : splitOpaque? skipComments text = some (region, after)) (closed : after ≠ [])
    {c : Char} (last : region.getLast? = some c) : isMark c = false := by
  cases text with
  | nil => simp [splitOpaque?] at found
  | cons first rest =>
    simp only [splitOpaque?] at found
    split at found
    next quotes =>
      simp only [Option.some.injEq, Prod.mk.injEq] at found
      obtain ⟨rfl, rfl⟩ := found
      rw [List.getLast?_cons, throughQuote_getLast? closed] at last
      cases last
      obtain rfl | rfl := quotes <;> rfl
    next =>
      split at found
      next =>
        simp only [Option.some.injEq, Prod.mk.injEq] at found
        obtain ⟨rfl, rfl⟩ := found
        rw [List.getLast?_cons, throughLineEnd_getLast? closed] at last
        cases last
        rfl
      next =>
        split at found
        next =>
          simp only [Option.some.injEq, Prod.mk.injEq] at found
          obtain ⟨rfl, rfl⟩ := found
          rw [List.getLast?_cons, List.getLast?_cons, throughBlockEnd_getLast? closed] at last
          cases last
          rfl
        next => simp at found

theorem splitOpaque?_eq_none_iff {skipComments : Bool} {c : Char} {rest : Text} :
    splitOpaque? skipComments (c :: rest) = none ↔
      c ≠ '\'' ∧ c ≠ '"' ∧
      (skipComments = true → c = '-' → rest.head? ≠ some '-') ∧
      (skipComments = true → c = '/' → rest.head? ≠ some '*') := by
  simp only [splitOpaque?]
  split
  next quotes =>
    simp only [reduceCtorEq, false_iff, not_and]
    obtain rfl | rfl := quotes <;> simp
  next noQuotes =>
    obtain ⟨single, double⟩ := not_or.1 noQuotes
    split
    next dashes => simp [dashes]
    next noDashes =>
      split
      next opens => simp [opens]
      next noOpens => simp_all

theorem splitOpaque?_eq_none_of_head? {skipComments : Bool} {c : Char} {later after : Text}
    (clear : splitOpaque? skipComments (c :: later) = none)
    (opening : ∀ d, d = '-' ∨ d = '*' → after.head? = some d → later.head? = some d) :
    splitOpaque? skipComments (c :: after) = none := by
  rw [splitOpaque?_eq_none_iff] at clear ⊢
  obtain ⟨single, double, noDashes, noOpens⟩ := clear
  exact ⟨single, double,
    fun skips same dash => noDashes skips same (opening _ (.inl rfl) dash),
    fun skips same star => noOpens skips same (opening _ (.inr rfl) star)⟩

theorem splitOpaque?_eq_none_behind {skipComments : Bool} {c : Char} {later after : Text}
    (clear : splitOpaque? skipComments (c :: later) = none) (alike : SameHead later after) :
    splitOpaque? skipComments (c :: after) = none := by
  refine splitOpaque?_eq_none_of_head? clear fun d opening first => ?_
  have noMark : isMark d = false := by obtain rfl | rfl := opening <;> rfl
  exact Decidable.not_not.1 fun differs => alike.head?_ne noMark differs first

theorem splitOpaque?_eq_none_of_opensNone {skipComments : Bool} {c : Char}
    (opensNone : opensRegion c = false) (rest : Text) :
    splitOpaque? skipComments (c :: rest) = none := by
  simp only [opensRegion, Bool.or_eq_false_iff, beq_eq_false_iff_ne] at opensNone
  obtain ⟨⟨⟨single, double⟩, dash⟩, slash⟩ := opensNone
  exact splitOpaque?_eq_none_iff.2
    ⟨single, double, fun _ same => absurd same dash, fun _ same => absurd same slash⟩

theorem opensRegion_of_splitOpaque? {skipComments : Bool} {c : Char} {rest : Text}
    {split : Text × Text} (found : splitOpaque? skipComments (c :: rest) = some split) :
    opensRegion c = true := by
  cases opens : opensRegion c with
  | true => rfl
  | false =>
    rw [splitOpaque?_eq_none_of_opensNone opens] at found
    cases found

theorem opensRegion_of_isMark {c : Char} (mark : isMark c = true) : opensRegion c = false := by
  simp only [isMark, Bool.or_eq_true, beq_iff_eq] at mark
  obtain (rfl | rfl) | rfl := mark <;> rfl

theorem splitOpaque?_eq_none_of_isMark {skipComments : Bool} {c : Char} {rest : Text}
    (mark : isMark c = true) : splitOpaque? skipComments (c :: rest) = none :=
  splitOpaque?_eq_none_of_opensNone (opensRegion_of_isMark mark) rest

end QueryTemplate
