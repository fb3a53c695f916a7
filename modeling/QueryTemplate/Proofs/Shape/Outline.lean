import QueryTemplate.Proofs.Template.Break
import QueryTemplate.Shape.Constructor

/-! # Outlines of masked text

The alias of a query and its constructor projection are found in masked text as a whole. A *barrier*
is a character over which neither search reads on, such as a brace. Of each of the texts between
barriers only an outline matters, and the outline of the whole is put together from theirs.

* `isBarrier`: the characters.
* `firstAliasWord?_append`, `hasConstructorCall_append`, `hasProjection_append`: the searches in two
  texts with a barrier between them.
* `Outline`, `outline`, `outline_append`: what a text can contribute, and how it adds up.
* `findAlias?_eq`, `hasConstructor_eq`: the alias and the projection, read off the outline.
* `Outline.eq_of_observed`: an outline is known from what it gives together with others.
-/

namespace QueryTemplate

/-- No word, no path and no blanks reach over the character, and it opens no argument list. -/
def isBarrier (c : Char) : Bool := !isPathChar c && !isBlank c && c != '('

theorem isWordChar_of_foldWide {c : Char} (lower : (foldWide c).isLower = true) :
    isWordChar c = true := by
  unfold foldWide at lower
  split at lower
  next long =>
    obtain rfl : c = Char.ofNat 0x17F := by rw [← long, Char.ofNat_toNat]
    decide +kernel
  next =>
    split at lower
    next kelvin =>
      obtain rfl : c = Char.ofNat 0x212A := by rw [← kelvin, Char.ofNat_toNat]
      decide +kernel
    next => exact isWordChar_of_foldAscii lower

section Stop

variable {p : Char → Bool} {c : Char} (stops : p c = false)

include stops

theorem dropWhile_append_stop (text rest : Text) :
    (text ++ c :: rest).dropWhile p = text.dropWhile p ++ c :: rest := by
  induction text with
  | nil => simp [stops]
  | cons d text inductionHypothesis => cases inside : p d <;> simp [inside, inductionHypothesis]

theorem takeWhile_append_stop (text rest : Text) :
    (text ++ c :: rest).takeWhile p = text.takeWhile p := by
  induction text with
  | nil => simp [stops]
  | cons d text inductionHypothesis => cases inside : p d <;> simp [inside, inductionHypothesis]

end Stop

/-! ## The parts of a clause in front of a barrier -/

/-- What the step drops from a text does not depend on what stands behind the character. -/
def DropsBefore (c : Char) (step : Text → Option Text) : Prop :=
  ∀ text rest, step (text ++ c :: rest) = (step text).map (· ++ c :: rest)

theorem DropsBefore.bind {c : Char} {step later : Text → Option Text} (first : DropsBefore c step)
    (second : DropsBefore c later) : DropsBefore c fun text => (step text).bind later := by
  intro text rest
  dsimp only
  rw [first]
  cases step text with
  | none => rfl
  | some behind => exact second behind rest

/-- A step followed by a reading that stops at the character. -/
theorem DropsBefore.bind_eq {α : Type} {c : Char} {step : Text → Option Text}
    (drops : DropsBefore c step) {reads : Text → Option α}
    (stops : ∀ text rest, reads (text ++ c :: rest) = reads text) (text rest : Text) :
    (step (text ++ c :: rest)).bind reads = (step text).bind reads := by
  rw [drops]
  cases step text with
  | none => rfl
  | some behind => exact stops behind rest

section Barrier

variable {c : Char} (barrier : isBarrier c = true)

include barrier

theorem isPathChar_of_isBarrier : isPathChar c = false := by
  simp only [isBarrier, Bool.and_eq_true, Bool.not_eq_true'] at barrier
  exact barrier.1.1

theorem isBlank_of_isBarrier : isBlank c = false := by
  simp only [isBarrier, Bool.and_eq_true, Bool.not_eq_true'] at barrier
  exact barrier.1.2

theorem isWordChar_of_isBarrier : isWordChar c = false := by
  have noPath := isPathChar_of_isBarrier barrier
  simp only [isPathChar, Bool.or_eq_false_iff] at noPath
  exact noPath.1

theorem dropsBefore_keyword {keyword : Text} (letters : keyword.all Char.isLower = true) :
    DropsBefore c (dropFolded? foldWide keyword) := by
  intro text rest
  apply dropFolded?_append
  intro d first
  obtain rfl : c = d := by simpa using first
  intro letter
  have word := isWordChar_of_foldWide (List.all_eq_true.1 letters _ letter)
  rw [isWordChar_of_isBarrier barrier] at word
  cases word

theorem dropsBefore_dropBlanks? : DropsBefore c dropBlanks? := by
  intro text rest
  have stops := isBlank_of_isBarrier barrier
  cases text with
  | nil => simp [dropBlanks?, stops]
  | cons d text =>
    cases blank : isBlank d with
    | false => simp [dropBlanks?, blank]
    | true =>
      have dropped := dropWhile_append_stop stops (d :: text) rest
      rw [List.cons_append] at dropped
      simp [dropBlanks?, skipBlanks, blank, dropped]

theorem dropsBefore_dropPath? : DropsBefore c dropPath? := by
  intro text rest
  have stops := isPathChar_of_isBarrier barrier
  cases text with
  | nil => simp [dropPath?, stops]
  | cons d text =>
    cases inside : isPathChar d with
    | false => simp [dropPath?, inside]
    | true =>
      have dropped := dropWhile_append_stop stops (d :: text) rest
      rw [List.cons_append] at dropped
      simp [dropPath?, inside, dropped]

theorem dropsBefore_dropSelect? : DropsBefore c dropSelect? := by
  intro text rest
  unfold dropSelect?
  rw [dropsBefore_keyword barrier (by decide)]
  cases dropFolded? foldWide "select".toList text with
  | none => rfl
  | some behind =>
    have ends : endsWord (behind ++ c :: rest) = endsWord behind := by
      cases behind with
      | nil => simp [endsWord, isWordChar_of_isBarrier barrier]
      | cons d behind => rfl
    simp only [Option.map_some, Option.filter_some, ends]
    cases endsWord behind <;> rfl

theorem leadingWord?_append (text rest : Text) :
    leadingWord? (text ++ c :: rest) = leadingWord? text := by
  rw [leadingWord?, leadingWord?, takeWhile_append_stop (isWordChar_of_isBarrier barrier)]

theorem aliasWord?_append (text rest : Text) :
    aliasWord? (text ++ c :: rest) = aliasWord? text := by
  have keyword : DropsBefore c fun text =>
      (dropFolded? foldWide "as".toList text).bind dropBlanks? :=
    (dropsBefore_keyword barrier (by decide)).bind (dropsBefore_dropBlanks? barrier)
  unfold aliasWord?
  rw [keyword.bind_eq (leadingWord?_append barrier), leadingWord?_append barrier]

theorem aliasAfterFrom?_append (text rest : Text) :
    aliasAfterFrom? (text ++ c :: rest) = aliasAfterFrom? text := by
  have keyword : DropsBefore c (dropFolded? foldWide "from".toList) :=
    dropsBefore_keyword barrier (by decide)
  have blanks := dropsBefore_dropBlanks? barrier
  have path := dropsBefore_dropPath? barrier
  exact keyword.bind_eq
    (blanks.bind_eq (path.bind_eq (blanks.bind_eq (aliasWord?_append barrier)))) text rest

theorem constructs_append (text rest : Text) :
    constructs (text ++ c :: rest) = constructs text := by
  have path : DropsBefore c fun text =>
      ((dropFolded? foldWide "new".toList text).bind dropBlanks?).bind dropPath? :=
    ((dropsBefore_keyword barrier (by decide)).bind (dropsBefore_dropBlanks? barrier)).bind
      (dropsBefore_dropPath? barrier)
  have behindPath := path text rest
  dsimp only at behindPath
  rw [constructs, constructs, behindPath]
  cases ((dropFolded? foldWide "new".toList text).bind dropBlanks?).bind dropPath? with
  | none => rfl
  | some behind =>
    have noArguments : c ≠ '(' := by
      rintro rfl
      cases barrier
    have dropped := dropWhile_append_stop (isBlank_of_isBarrier barrier) behind rest
    simp only [Option.map_some, skipBlanks, dropped]
    cases behind.dropWhile isBlank with
    | nil => simpa using noArguments
    | cons d behind => rfl

end Barrier

/-! ## The searches over a barrier -/

/-- The keyword `select` stands at some word start of the text. -/
def hasSelect (before : Option Char) : Text → Bool
  | [] => false
  | c :: rest =>
    (if startsWord before then dropSelect? (c :: rest) else none).isSome || hasSelect (some c) rest

section Barrier

variable {c : Char} (barrier : isBarrier c = true)

include barrier

theorem startsWord_barrier : startsWord (some c) = true := by
  simp [startsWord, isWordChar_of_isBarrier barrier]

/-- Behind a barrier the search for the alias starts as it does at the start of a text. -/
theorem firstAliasWord?_barrier (rest : Text) :
    firstAliasWord? (some c) rest = firstAliasWord? none rest := by
  cases rest with
  | nil => rfl
  | cons d rest =>
    rw [firstAliasWord?, firstAliasWord?, startsWord_barrier barrier]
    rfl

theorem hasConstructorCall_barrier (rest : Text) :
    hasConstructorCall (some c) rest = hasConstructorCall none rest := by
  cases rest with
  | nil => rfl
  | cons d rest =>
    rw [hasConstructorCall, hasConstructorCall, startsWord_barrier barrier]
    rfl

theorem hasSelect_barrier (rest : Text) : hasSelect (some c) rest = hasSelect none rest := by
  cases rest with
  | nil => rfl
  | cons d rest =>
    rw [hasSelect, hasSelect, startsWord_barrier barrier]
    rfl

theorem hasProjection_barrier (rest : Text) :
    hasProjection (some c) rest = hasProjection none rest := by
  cases rest with
  | nil => rfl
  | cons d rest =>
    rw [hasProjection, hasProjection, startsWord_barrier barrier]
    rfl

theorem firstAliasWord?_append (before : Option Char) (text rest : Text) :
    firstAliasWord? before (text ++ c :: rest) =
      (firstAliasWord? before text).or (firstAliasWord? none rest) := by
  induction text generalizing before with
  | nil =>
    have nothing := aliasAfterFrom?_append barrier [] rest
    rw [List.nil_append] at nothing ⊢
    rw [firstAliasWord?, firstAliasWord?, nothing, firstAliasWord?_barrier barrier]
    cases startsWord before <;> rfl
  | cons d text inductionHypothesis =>
    have same := aliasAfterFrom?_append barrier (d :: text) rest
    rw [List.cons_append] at same ⊢
    rw [firstAliasWord?, firstAliasWord?, same, inductionHypothesis]
    cases if startsWord before then aliasAfterFrom? (d :: text) else none <;> rfl

theorem hasConstructorCall_append (before : Option Char) (text rest : Text) :
    hasConstructorCall before (text ++ c :: rest) =
      (hasConstructorCall before text || hasConstructorCall none rest) := by
  induction text generalizing before with
  | nil =>
    have nothing := constructs_append barrier [] rest
    rw [List.nil_append] at nothing ⊢
    rw [hasConstructorCall, hasConstructorCall, nothing, hasConstructorCall_barrier barrier]
    cases startsWord before <;> rfl
  | cons d text inductionHypothesis =>
    have same := constructs_append barrier (d :: text) rest
    rw [List.cons_append] at same ⊢
    rw [hasConstructorCall, hasConstructorCall, same, inductionHypothesis, Bool.or_assoc]

/-- The keyword at the start of a text, when a word can start there. -/
theorem selectAt_append (before : Option Char) (text rest : Text) :
    (if startsWord before then dropSelect? (text ++ c :: rest) else none) =
      (if startsWord before then dropSelect? text else none).map (· ++ c :: rest) := by
  rw [dropsBefore_dropSelect? barrier]
  cases startsWord before <;> rfl

theorem hasSelect_append (before : Option Char) (text rest : Text) :
    hasSelect before (text ++ c :: rest) = (hasSelect before text || hasSelect none rest) := by
  induction text generalizing before with
  | nil =>
    have nothing := selectAt_append barrier before [] rest
    rw [List.nil_append] at nothing ⊢
    rw [hasSelect, hasSelect, nothing, hasSelect_barrier barrier]
    cases startsWord before <;> rfl
  | cons d text inductionHypothesis =>
    have same := selectAt_append barrier before (d :: text) rest
    rw [List.cons_append] at same ⊢
    rw [hasSelect, hasSelect, same, inductionHypothesis, Option.isSome_map, Bool.or_assoc]

/-- Behind the first `select` any constructor call makes a projection. -/
theorem hasProjection_append (before : Option Char) (text rest : Text) :
    hasProjection before (text ++ c :: rest) =
      if hasSelect before text then hasProjection before text || hasConstructorCall none rest
      else hasProjection none rest := by
  induction text generalizing before with
  | nil =>
    have nothing := selectAt_append barrier before [] rest
    rw [List.nil_append] at nothing ⊢
    rw [hasProjection, hasProjection, nothing, hasProjection_barrier barrier]
    cases startsWord before <;> rfl
  | cons d text inductionHypothesis =>
    have same := selectAt_append barrier before (d :: text) rest
    rw [List.cons_append] at same ⊢
    rw [hasProjection, hasProjection, hasSelect, same, inductionHypothesis]
    cases if startsWord before then dropSelect? (d :: text) else none with
    | none => rfl
    | some behind => exact hasConstructorCall_append barrier _ behind rest

end Barrier

theorem hasSelect_of_hasProjection {before : Option Char} {text : Text}
    (projects : hasProjection before text = true) : hasSelect before text = true := by
  induction text generalizing before with
  | nil => cases projects
  | cons d text inductionHypothesis =>
    rw [hasProjection] at projects
    rw [hasSelect]
    cases selects : if startsWord before then dropSelect? (d :: text) else none with
    | none =>
      rw [selects] at projects
      exact inductionHypothesis projects
    | some behind => rfl

/-! ## Outlines -/

/-- What a masked text can contribute to the alias and the projection of a query. -/
@[ext] structure Outline where
  /-- The word in the alias place, if there is such a place; none when it begins the next clause. -/
  place : Option (Option Text)
  selects : Bool
  calls : Bool
  projects : Bool
  /-- A projection stands behind a `select`. -/
  consistent : projects = true → selects = true
  deriving DecidableEq

namespace Outline

def alias? (outline : Outline) : Option Text := outline.place.join

def append (first second : Outline) : Outline where
  place := first.place.or second.place
  selects := first.selects || second.selects
  calls := first.calls || second.calls
  projects := if first.selects then first.projects || second.calls else second.projects
  consistent := by
    intro projects
    cases selects : first.selects with
    | true => rfl
    | false =>
      rw [selects, if_neg (by decide)] at projects
      rw [second.consistent projects]
      rfl

end Outline

def ofAliasWord (word : Text) : Option Text :=
  if clauseWords.any (sameFolded word) then none else some word

def outline (masked : Text) : Outline where
  place := (firstAliasWord? none masked).map ofAliasWord
  selects := hasSelect none masked
  calls := hasConstructorCall none masked
  projects := hasProjection none masked
  consistent := hasSelect_of_hasProjection

theorem outline_append {c : Char} (barrier : isBarrier c = true) (text rest : Text) :
    outline (text ++ c :: rest) = (outline text).append (outline rest) := by
  have place : (outline (text ++ c :: rest)).place =
      (outline text).place.or (outline rest).place := by
    simp only [outline, firstAliasWord?_append barrier, Option.map_or]
  have selects := hasSelect_append barrier none text rest
  have calls := hasConstructorCall_append barrier none text rest
  have projects := hasProjection_append barrier none text rest
  exact Outline.ext place selects calls projects

theorem Outline.nil_append (second : Outline) : (outline []).append second = second := by
  obtain ⟨place, selects, calls, projects, consistent⟩ := second
  rfl

theorem Outline.append_nil (first : Outline) : first.append (outline []) = first := by
  obtain ⟨place, selects, calls, projects, consistent⟩ := first
  refine Outline.ext Option.or_none (Bool.or_false _) (Bool.or_false _) ?_
  cases projects with
  | false => cases selects <;> rfl
  | true =>
    obtain rfl : selects = true := consistent rfl
    rfl

/-- What two outlines give alone, in front of an alias, in front of a constructor call and behind a
`select` tells them apart. -/
theorem Outline.eq_of_observed {first second : Outline} {word : Text}
    (alone : first.alias? = second.alias?)
    (followed : (first.place.or (some (some word))).join =
      (second.place.or (some (some word))).join)
    (selects : first.selects = second.selects) (calls : first.calls = second.calls)
    (projects : first.projects = second.projects) : first = second := by
  obtain ⟨place, _, _, _, _⟩ := first
  obtain ⟨place', _, _, _, _⟩ := second
  refine Outline.ext ?_ selects calls projects
  dsimp only [alias?] at alone followed
  -- A place without an alias hides the alias behind it, which shows when there is no place.
  match place, place' with
  | none, none => rfl
  | none, some none | some none, none => cases followed
  | some none, some none => rfl
  | none, some (some _) | some (some _), none => cases alone
  | some none, some (some _) | some (some _), some none => cases alone
  | some (some _), some (some _) =>
    cases alone
    rfl

theorem findAlias?_eq (masked : Text) : findAlias? masked = (outline masked).alias? := by
  simp only [findAlias?, Outline.alias?, outline]
  cases firstAliasWord? none masked with
  | none => rfl
  | some word =>
    simp only [Option.filter_some, Option.map_some, ofAliasWord]
    cases clauseWords.any (sameFolded word) <;> rfl

theorem hasConstructor_eq (masked : Text) :
    hasConstructor masked = (outline masked).projects := rfl

end QueryTemplate
