import QueryTemplate.Proofs.Template.Break
import QueryTemplate.Template.Scan

/-! # Literal text between markers

The scan passes over literal text one region or character at a time. Of the text behind, only the
first character can matter to what it decides there, and a break at that place decides nothing.

* `readingAt`: what stands at a place of a template, wildcards aside; `markerAt` is read off it.
* `Unmarked`: a text that the scan passes over in front of a given rest.
* `Unmarked.exchange`, `Unmarked.behind`: the rest can be exchanged for another one that starts with
  a break, or in the way a marker does.
* `isPlain`, `unmarked_of_plain`: texts that are unmarked whatever follows.
* `Unmarked.scanFrom_eq`: the scan behind an unmarked text.
-/

namespace QueryTemplate

/-! ## Where a marker starts -/

def readingAt (before : Option Char) (text : Text) : Reading :=
  readTarget (if text.head? == some '%' then some '%' else before)
    (dropWildcard (text.head? == some '%') text)

theorem readingAt_percent {before : Option Char} {rest : Text} :
    readingAt before ('%' :: rest) = readTarget (some '%') rest := rfl

theorem readingAt_of_ne {before : Option Char} {text : Text} (other : text.head? ≠ some '%') :
    readingAt before text = readTarget before text := by
  simp [readingAt, dropWildcard, other]

/-- Of the character before, only a colon matters. -/
theorem readTarget_congr {before before' : Option Char}
    (same : before = some ':' ↔ before' = some ':') (text : Text) :
    readTarget before text = readTarget before' text := by
  unfold readTarget
  split
  · simp only [same]
  · rfl
  · rfl

theorem markerAt_eq_ok_none_iff {options : Options} {offset : Nat} {seen text : Text} :
    markerAt options offset seen text = .ok none ↔ readingAt seen.head? text = .absent := by
  rw [markerAt, readingAt]
  dsimp only
  split <;> simp_all

theorem markerAt_of_found {options : Options} {offset : Nat} {seen text written rest : Text}
    {target : Target} (found : readingAt seen.head? text = .found target written rest) :
    markerAt options offset seen text = .ok (some
      ({ start := offset
         text := written
         target := target
         leading := text.head? == some '%'
         trailing := rest.head? == some '%'
         context := contextAfter seen
         escape :=
          if contextAfter seen = .like ∧ options.detectEscape then
            escapeClause? (dropWildcard (rest.head? == some '%') rest)
          else none },
        dropWildcard (rest.head? == some '%') rest)) := by
  rw [readingAt] at found
  simp only [markerAt, found]

structure Taken (options : Options) (offset : Nat) (seen text : Text) (marker : Marker)
    (rest after : Text) : Prop where
  found : readingAt seen.head? text = .found marker.target marker.text rest
  start : marker.start = offset
  leading : marker.leading = (text.head? == some '%')
  trailing : marker.trailing = (rest.head? == some '%')
  context : marker.context = contextAfter seen
  escape : marker.escape =
    if contextAfter seen = .like ∧ options.detectEscape then escapeClause? after else none
  after : after = dropWildcard marker.trailing rest

theorem taken_of_markerAt {options : Options} {offset : Nat} {seen text after : Text}
    {marker : Marker} (taken : markerAt options offset seen text = .ok (some (marker, after))) :
    ∃ rest, Taken options offset seen text marker rest after := by
  cases reading : readingAt seen.head? text with
  | found target written rest =>
    rw [markerAt_of_found reading] at taken
    cases taken
    exact ⟨rest, reading, rfl, rfl, rfl, rfl, rfl, rfl⟩
  | absent => simp [markerAt_eq_ok_none_iff.2 reading] at taken
  | unterminated | badPosition =>
    rw [readingAt] at reading
    simp only [markerAt, reading, reduceCtorEq] at taken

theorem Taken.readTarget_eq {options : Options} {offset : Nat} {seen text rest after : Text}
    {marker : Marker} (taken : Taken options offset seen text marker rest after) :
    readTarget (if marker.leading then some '%' else seen.head?)
      (dropWildcard marker.leading text) = .found marker.target marker.text rest := by
  rw [taken.leading]
  exact taken.found

theorem isMark_of_readTarget {before : Option Char} {c : Char} {rest : Text}
    (present : readTarget before (c :: rest) ≠ .absent) : c = ':' ∨ c = '?' := by
  unfold readTarget at present
  split at present
  next same => exact .inl (List.cons.inj same).1
  next same => exact .inr (List.cons.inj same).1
  next => contradiction

theorem readTarget_eq_absent {before : Option Char} {text : Text}
    (unmarked : ∀ c ∈ text.head?, isMark c = false) : readTarget before text = .absent := by
  cases text with
  | nil => rfl
  | cons c text =>
    refine Decidable.byContradiction fun present => ?_
    have other : isMark c = false := unmarked c rfl
    obtain rfl | rfl := isMark_of_readTarget present <;> cases other

theorem exists_isMark_of_readingAt {before : Option Char} {text : Text}
    (present : readingAt before text ≠ .absent) : ∃ c rest, text = c :: rest ∧ isMark c = true := by
  cases text with
  | nil => simp [readingAt, dropWildcard, readTarget] at present
  | cons c rest =>
    refine ⟨c, rest, rfl, ?_⟩
    by_cases percent : c = '%'
    · simp [isMark, percent]
    · rw [readingAt_of_ne (by simpa using percent)] at present
      obtain rfl | rfl := isMark_of_readTarget present <;> rfl

theorem splitOpaque?_eq_none_of_readingAt {skipComments : Bool} {before : Option Char}
    {text : Text} (present : readingAt before text ≠ .absent) :
    splitOpaque? skipComments text = none := by
  obtain ⟨c, rest, rfl, mark⟩ := exists_isMark_of_readingAt present
  exact splitOpaque?_eq_none_of_isMark mark

/-! ## Where no marker starts -/

/-- Behind a colon or a question mark, the text goes on like a marker: with an expression or with
a character of the given class. -/
def Continues (inside : Char → Bool) (rest : Text) : Prop :=
  ['#', '{'] <+: rest ∨ rest.head?.any inside = true

theorem Continues.of_behind {inside : Char → Bool}
    (words : ∀ c, inside c = true → isWordChar c = true) {literal after : Text}
    (breaks : BreakHead after) (continues : Continues inside (literal ++ after)) (later : Text) :
    Continues inside (literal ++ later) := by
  have outside : after.head?.any inside = false := by
    apply breaks.any_head?
    intro c break_
    refine Bool.eq_false_iff.2 fun word => ?_
    have noWord := isWordChar_eq_false_of_isBreak break_
    rw [words c word] at noWord
    cases noWord
  obtain opens | starts := continues
  -- Neither `#` nor a brace is a break, so both lie in the literal text.
  · left
    match literal with
    | [] =>
      obtain ⟨rest, rfl⟩ := opens
      exact absurd rfl (breaks.head?_ne (c := '#') (by decide))
    | [c] =>
      obtain ⟨rest, same⟩ := opens
      obtain ⟨_, rfl⟩ := List.cons.inj same
      exact absurd rfl (breaks.head?_ne (c := '{') (by decide))
    | c :: d :: literal => simpa using opens
  · right
    cases literal with
    | nil => simp [outside] at starts
    | cons c literal => simpa using starts

theorem takeWhile_eq_nil_iff {p : Char → Bool} {text : Text} :
    text.takeWhile p = [] ↔ text.head?.any p = false := by
  cases text with
  | nil => simp
  | cons c text => cases inside : p c <;> simp [inside]

theorem readNamed_eq_absent_iff {rest : Text} :
    readNamed rest = .absent ↔ ¬Continues isWordChar rest := by
  unfold readNamed
  split
  next rest =>
    have opens : Continues isWordChar ('#' :: '{' :: rest) := .inl ⟨rest, rfl⟩
    simp only [opens, not_true_eq_false, iff_false]
    split <;> simp
  next _ noBrace =>
    have noBrace : ¬['#', '{'] <+: rest := fun ⟨tail, same⟩ => noBrace tail same.symm
    simp only [Continues, noBrace, false_or, Bool.not_eq_true, ← takeWhile_eq_nil_iff]
    split
    next empty => simp [empty]
    next name => simpa using name

theorem readPositional_eq_absent_iff {rest : Text} :
    readPositional rest = .absent ↔ ¬Continues Char.isDigit rest := by
  unfold readPositional
  split
  next rest =>
    have opens : Continues Char.isDigit ('#' :: '{' :: rest) := .inl ⟨rest, rfl⟩
    simp only [opens, not_true_eq_false, iff_false]
    split <;> simp
  next _ noBrace =>
    have noBrace : ¬['#', '{'] <+: rest := fun ⟨tail, same⟩ => noBrace tail same.symm
    simp only [Continues, noBrace, false_or, Bool.not_eq_true, ← takeWhile_eq_nil_iff]
    split
    next empty => simp [empty]
    next digits =>
      have digits : rest.takeWhile Char.isDigit ≠ [] := by simpa using digits
      simp only [digits, iff_false]
      split <;> simp

theorem readTarget_eq_absent_iff {before : Option Char} {c : Char} {rest : Text} :
    readTarget before (c :: rest) = .absent ↔
      (c = ':' → before ≠ some ':' → ¬Continues isWordChar rest) ∧
        (c = '?' → ¬Continues Char.isDigit rest) := by
  by_cases colon : c = ':'
  · subst colon
    simp only [readTarget]
    split
    next cast => simp [cast]
    next single => simp [readNamed_eq_absent_iff, single]
  · by_cases question : c = '?'
    · subst question
      simp [readTarget, readPositional_eq_absent_iff]
    · simp only [colon, question, false_implies, and_self, iff_true]
      refine Decidable.byContradiction fun present => ?_
      obtain same | same := isMark_of_readTarget present <;> contradiction

theorem readTarget_absent_behind {before : Option Char} {c : Char} {literal after : Text}
    (breaks : BreakHead after) (later : Text)
    (absent : readTarget before (c :: (literal ++ later)) = .absent) :
    readTarget before (c :: (literal ++ after)) = .absent := by
  rw [readTarget_eq_absent_iff] at absent ⊢
  obtain ⟨noName, noPosition⟩ := absent
  refine ⟨fun colon single continues => noName colon single ?_, fun question continues =>
    noPosition question ?_⟩
  · exact continues.of_behind (fun _ word => word) breaks later
  · exact continues.of_behind (fun _ digit => isWordChar_of_isDigit digit) breaks later

/-- Where no marker starts, none starts with another text behind, unless a `%` in front of it
becomes the wildcard of its first marker. -/
theorem readingAt_absent_behind {before : Option Char} {c : Char} {literal after : Text}
    (breaks : BreakHead after)
    (percent : (c :: literal).getLast? = some '%' → readTarget (some '%') after = .absent)
    (later : Text) (absent : readingAt before (c :: (literal ++ later)) = .absent) :
    readingAt before (c :: (literal ++ after)) = .absent := by
  by_cases wild : c = '%'
  · subst wild
    rw [readingAt_percent] at absent ⊢
    cases literal with
    | nil => exact percent rfl
    | cons d literal => exact readTarget_absent_behind breaks later absent
  · rw [readingAt_of_ne (by simpa using wild)] at absent ⊢
    exact readTarget_absent_behind breaks later absent

/-! ## Unmarked text -/

/-- The scan passes over the text in front of `rest`, region by region and character by character.
The character before the text is given first. -/
inductive Unmarked (skipComments : Bool) : Option Char → Text → Text → Prop where
  | nil {before : Option Char} {rest : Text} : Unmarked skipComments before [] rest
  | region {before : Option Char} {region literal rest : Text}
      (found : splitOpaque? skipComments (region ++ (literal ++ rest)) =
        some (region, literal ++ rest))
      (behind : Unmarked skipComments region.getLast? literal rest) :
      Unmarked skipComments before (region ++ literal) rest
  | clear {before : Option Char} {c : Char} {literal rest : Text}
      (clear : splitOpaque? skipComments (c :: (literal ++ rest)) = none)
      (absent : readingAt before (c :: (literal ++ rest)) = .absent)
      (behind : Unmarked skipComments (some c) literal rest) :
      Unmarked skipComments before (c :: literal) rest

/-- Neither a marker nor an opaque region can start with the character. -/
def isPlain (c : Char) : Bool := !isMark c && !opensRegion c

theorem opensRegion_of_isPlain {c : Char} (plain : isPlain c = true) : opensRegion c = false := by
  simp only [isPlain, Bool.and_eq_true, Bool.not_eq_true'] at plain
  exact plain.2

theorem isMark_of_isPlain {c : Char} (plain : isPlain c = true) : isMark c = false := by
  simp only [isPlain, Bool.and_eq_true, Bool.not_eq_true'] at plain
  exact plain.1

theorem unmarked_of_plain {skipComments : Bool} {before : Option Char} {literal : Text}
    (plain : literal.all isPlain = true) (rest : Text) :
    Unmarked skipComments before literal rest := by
  induction literal generalizing before with
  | nil => exact .nil
  | cons c literal inductionHypothesis =>
    obtain ⟨first, later⟩ : isPlain c = true ∧ literal.all isPlain = true := by simpa using plain
    have noMark : isMark c = false := isMark_of_isPlain first
    have noPercent : c ≠ '%' := by
      rintro rfl
      cases noMark
    have absent : readingAt before (c :: (literal ++ rest)) = .absent := by
      rw [readingAt_of_ne (by simpa using noPercent)]
      apply readTarget_eq_absent
      intro d first
      obtain rfl : c = d := by simpa using first
      exact noMark
    have clear : splitOpaque? skipComments (c :: (literal ++ rest)) = none :=
      splitOpaque?_eq_none_of_opensNone (opensRegion_of_isPlain first) _
    exact .clear clear absent
      (inductionHypothesis later)

theorem Unmarked.exchange {skipComments : Bool} {before : Option Char}
    {literal rest after : Text} (unmarked : Unmarked skipComments before literal rest)
    (alike : SameHead rest after) (breaks : BreakHead after)
    (percent : literal.getLast? = some '%' → readTarget (some '%') after = .absent) :
    Unmarked skipComments before literal after := by
  induction unmarked with
  | nil => exact .nil
  | @region before region literal rest found _ inductionHypothesis =>
    refine .region (splitOpaque?_behind found (alike.append literal))
      (inductionHypothesis alike fun last => percent ?_)
    rw [List.getLast?_append, last]
    rfl
  | @clear before c literal rest clear absent _ inductionHypothesis =>
    refine .clear (splitOpaque?_eq_none_behind clear (alike.append literal))
      (readingAt_absent_behind breaks percent rest absent)
      (inductionHypothesis alike fun last => percent ?_)
    rw [List.getLast?_cons, last]
    rfl

theorem Unmarked.behind {skipComments : Bool} {before : Option Char} {literal rest after : Text}
    (unmarked : Unmarked skipComments before literal rest) (empty : rest = [] → after = [])
    (marked : MarkHead after)
    (percent : literal.getLast? = some '%' → readTarget (some '%') after = .absent) :
    Unmarked skipComments before literal after :=
  unmarked.exchange ⟨empty, .inr marked⟩ marked.breakHead percent

/-- A `%` at the end of an unmarked text is no wildcard of a marker behind it. -/
theorem Unmarked.absent_of_percent {skipComments : Bool} {before : Option Char}
    {literal rest : Text} (unmarked : Unmarked skipComments before literal rest)
    (percent : literal.getLast? = some '%') : readTarget (some '%') rest = .absent := by
  induction unmarked with
  | nil => simp at percent
  | @region before region literal rest found _ inductionHypothesis =>
    rw [List.getLast?_append] at percent
    cases last : literal.getLast? with
    | some c => exact inductionHypothesis (by simpa [last] using percent)
    | none =>
      obtain rfl := List.getLast?_eq_none_iff.1 last
      -- A region that something follows ends in a quote, a line end or a slash.
      refine Decidable.byContradiction fun present => ?_
      have nonempty : rest ≠ [] := by
        rintro rfl
        exact present rfl
      have closed := splitOpaque?_getLast? found nonempty (by simpa using percent)
      simp [isMark] at closed
  | @clear before c literal rest _ absent _ inductionHypothesis =>
    rw [List.getLast?_cons] at percent
    cases last : literal.getLast? with
    | some d => exact inductionHypothesis (by simpa [last] using percent)
    | none =>
      obtain rfl := List.getLast?_eq_none_iff.1 last
      obtain rfl : c = '%' := by simpa using percent
      exact absent

/-- A marker behind a `%` of the literal text starts with another one: without it, the first `%`
would be the wildcard of the marker. -/
theorem Taken.leading_of_percent {options : Options} {offset : Nat} {literal text rest after : Text}
    {marker : Marker} (taken : Taken options offset literal.reverse text marker rest after)
    (unmarked : Unmarked options.skipComments none literal text)
    (percent : literal.getLast? = some '%') : marker.leading = true := by
  rw [taken.leading, beq_iff_eq]
  refine Decidable.byContradiction fun other => ?_
  have absent := unmarked.absent_of_percent percent
  have found := taken.found
  rw [readingAt_of_ne other, List.head?_reverse, percent, absent] at found
  cases found

theorem Unmarked.scanFrom_eq {options : Options} {before : Option Char} {literal rest : Text}
    (unmarked : Unmarked options.skipComments before literal rest) {offset : Nat} {seen : Text}
    (last : seen.head? = before) :
    scanFrom options offset seen (literal ++ rest) =
      scanFrom options (offset + literal.byteSize) (literal.reverse ++ seen) rest := by
  induction unmarked generalizing offset seen with
  | nil => rfl
  | @region before region literal rest found _ inductionHypothesis =>
    have ends : (region.reverse ++ seen).head? = region.getLast? := by
      have nonempty := splitOpaque?_ne_nil found
      rw [List.head?_append, List.head?_reverse]
      cases lastChar : region.getLast? with
      | none => exact absurd (List.getLast?_eq_none_iff.1 lastChar) nonempty
      | some c => rfl
    rw [List.append_assoc, scanFrom_of_region found, inductionHypothesis ends]
    simp [Nat.add_assoc]
  | @clear before c literal rest clear absent _ inductionHypothesis =>
    have none : markerAt options offset seen (c :: (literal ++ rest)) = .ok none :=
      markerAt_eq_ok_none_iff.2 (last ▸ absent)
    rw [List.cons_append, scanFrom_of_clear clear none, inductionHypothesis rfl]
    simp [Nat.add_assoc]

end QueryTemplate
