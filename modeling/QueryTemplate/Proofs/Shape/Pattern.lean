import QueryTemplate.Proofs.Shape.Phrase

/-! # Patterns

The phrases of a query can also be written as patterns, `\bfrom\s+[\w.]+`, that are searched for in
a text. A pattern may be able to read a text in several ways, and prefers one to the other: a greedy
repetition the longer run, a lazy one the shorter, an optional part to be there. What the search
finds is the most preferred reading at the first place where there is one.

* `Pattern`, `Place`: patterns, and the places between the characters of a text.
* `Pattern.attempts`: the readings of a pattern from a place, in order of preference.
* `Pattern.search`: the search through a text.
* `Reads`: the text behind a pattern decides what comes of the readings in order; one lemma for each
  part of a phrase.
* `Passes`: from one place of a text to another over a run of it. Every pattern has a lemma,
  `mem_attempts_star` and the like, that tells the runs it passes.
-/

namespace QueryTemplate

inductive Pattern where
  | empty
  /-- One character of a class. -/
  | one (p : Char → Bool)
  /-- Any number of characters of a class, and rather more of them if greedy. -/
  | star (greedy : Bool) (p : Char → Bool)
  /-- A word character on one side of the place and none on the other. -/
  | boundary
  | optional (inner : Pattern)
  | seq (first second : Pattern)
  /-- What the inner pattern reads is captured. -/
  | group (inner : Pattern)

/-- A place in a text, with what has been captured in front of it. -/
structure Place where
  before : Option Char
  rest : Text
  captured : Option Text

namespace Pattern

/-- The places behind the runs of a class. -/
def runs (greedy : Bool) (p : Char → Bool) (captured : Option Text) :
    Option Char → Text → List Place
  | before, [] => [⟨before, [], captured⟩]
  | before, c :: rest =>
    let here : Place := ⟨before, c :: rest, captured⟩
    if p c then
      if greedy then runs greedy p captured (some c) rest ++ [here]
      else here :: runs greedy p captured (some c) rest
    else [here]

/-- The places up to which a pattern can read from a place, the preferred ones first. -/
def attempts : Pattern → Place → List Place
  | empty, place => [place]
  | one p, place =>
    match place.rest with
    | [] => []
    | c :: rest => if p c then [⟨some c, rest, place.captured⟩] else []
  | star greedy p, place => runs greedy p place.captured place.before place.rest
  | boundary, place =>
    if place.before.any isWordChar = place.rest.head?.any isWordChar then [] else [place]
  | optional inner, place => inner.attempts place ++ [place]
  | seq first second, place => (first.attempts place).flatMap second.attempts
  | group inner, place =>
    (inner.attempts place).map fun after =>
      { after with captured := some (place.rest.take (place.rest.length - after.rest.length)) }

/-- The end of the preferred reading at the first place of the text that has one. -/
def search (pattern : Pattern) (before : Option Char) (text : Text) : Option Place :=
  match (pattern.attempts ⟨before, text, none⟩).head? with
  | some after => some after
  | none =>
    match text with
    | [] => none
    | c :: rest => pattern.search (some c) rest

def plus (p : Char → Bool) : Pattern := seq (one p) (star true p)

/-- A keyword in any case. -/
def keyword : Text → Pattern
  | [] => empty
  | c :: word => seq (one fun d => foldWide d == c) (keyword word)

end Pattern

/-! ## Preferred readings -/

/-- What the first reading that is accepted is accepted as, the rest of the text tells. -/
def Reads {α : Type} (pattern : Pattern) (accepts : Place → Option α) (reads : Text → Option α) :
    Prop :=
  ∀ place, (pattern.attempts place).findSome? accepts = reads place.rest

section Reads

variable {α : Type} {first second inner : Pattern} {p : Char → Bool} {accepts : Place → Option α}
  {behind middle reads : Text → Option α}

theorem findSome?_flatMap {β γ : Type} (next : β → List γ) (accepts : γ → Option α)
    (earlier : List β) :
    (earlier.flatMap next).findSome? accepts =
      earlier.findSome? fun place => (next place).findSome? accepts := by
  induction earlier with
  | nil => rfl
  | cons place earlier inductionHypothesis =>
    rw [List.flatMap_cons, List.findSome?_append, inductionHypothesis, List.findSome?_cons]
    cases (next place).findSome? accepts <;> rfl

theorem reads_seq (readsSecond : Reads second accepts middle)
    (readsFirst : Reads first (fun place => middle place.rest) reads) :
    Reads (.seq first second) accepts reads := by
  intro place
  rw [← readsFirst place, Pattern.attempts, findSome?_flatMap]
  congr 1
  exact funext readsSecond

theorem Reads.behind_optional (readsSecond : Reads second accepts behind)
    (readsInner : Reads inner (fun place => behind place.rest) reads) :
    Reads (.seq (.optional inner) second) accepts (fun text => (reads text).or (behind text)) := by
  refine reads_seq readsSecond fun place => ?_
  rw [Pattern.attempts, List.findSome?_append, readsInner place]
  simp

theorem reads_keyword (word : Text) :
    Reads (.keyword word) (fun place => behind place.rest)
      (fun text => (dropFolded? foldWide word text).bind behind) := by
  induction word with
  | nil =>
    intro place
    simp [Pattern.keyword, Pattern.attempts, dropFolded?]
  | cons c word inductionHypothesis =>
    refine reads_seq inductionHypothesis fun place => ?_
    obtain ⟨before, text, captured⟩ := place
    cases text with
    | nil => simp [Pattern.attempts, dropFolded?]
    | cons d text =>
      by_cases same : foldWide d = c <;> simp [Pattern.attempts, dropFolded?, same]

/-- Where nothing comes of the text behind as long as the run goes on, only the whole run counts. -/
theorem findSome?_runs (stops : ∀ text, text.head?.any p = true → behind text = none)
    (captured : Option Text) (before : Option Char) (text : Text) :
    (Pattern.runs true p captured before text).findSome? (fun place => behind place.rest) =
      behind (text.dropWhile p) := by
  induction text generalizing before with
  | nil => simp [Pattern.runs]
  | cons c text inductionHypothesis =>
    rw [Pattern.runs]
    cases inside : p c with
    | false => simp [inside]
    | true =>
      -- A run that stops here is followed by a character of the class.
      have goesOn : behind (c :: text) = none := stops _ inside
      simp [inside, List.findSome?_append, inductionHypothesis, goesOn]

theorem reads_plus (stops : ∀ text, text.head?.any p = true → behind text = none) :
    Reads (.plus p) (fun place => behind place.rest)
      (fun text =>
        (if text.head?.any p then some (text.dropWhile p) else none).bind behind) := by
  have readsRun : Reads (.star true p) (fun place => behind place.rest)
      (fun text => behind (text.dropWhile p)) :=
    fun place => findSome?_runs stops _ _ _
  refine reads_seq readsRun fun place => ?_
  obtain ⟨before, text, captured⟩ := place
  cases text with
  | nil => rfl
  | cons c text => cases inside : p c <;> simp [Pattern.attempts, inside]

theorem reads_blanks (stops : ∀ text, text.head?.any isBlank = true → behind text = none) :
    Reads (.plus isBlank) (fun place => behind place.rest)
      (fun text => (dropBlanks? text).bind behind) :=
  reads_plus stops

theorem Reads.behind_keyword (readsSecond : Reads second accepts behind) (word : Text) :
    Reads (.seq (.keyword word) second) accepts
      (fun text => (dropFolded? foldWide word text).bind behind) :=
  reads_seq readsSecond (reads_keyword word)

theorem Reads.behind_blanks (readsSecond : Reads second accepts behind)
    (stops : ∀ text, text.head?.any isBlank = true → behind text = none) :
    Reads (.seq (.plus isBlank) second) accepts (fun text => (dropBlanks? text).bind behind) :=
  reads_seq readsSecond (reads_blanks stops)

theorem Reads.behind_path (readsSecond : Reads second accepts behind)
    (stops : ∀ text, text.head?.any isPathChar = true → behind text = none) :
    Reads (.seq (.plus isPathChar) second) accepts (fun text => (dropPath? text).bind behind) :=
  reads_seq readsSecond (reads_plus stops)

theorem head?_runs (p : Char → Bool) (captured : Option Text) (before : Option Char)
    (text : Text) :
    ((Pattern.runs true p captured before text).head?).map Place.rest =
      some (text.dropWhile p) := by
  induction text generalizing before with
  | nil => rfl
  | cons c text inductionHypothesis =>
    rw [Pattern.runs]
    cases inside : p c with
    | false => simp [inside]
    | true =>
      obtain ⟨place, first, rest⟩ := Option.map_eq_some_iff.1 (inductionHypothesis (some c))
      simp [inside, first, rest]

theorem take_length_sub {text run rest : Text} (split : text = run ++ rest) :
    text.take (text.length - rest.length) = run := by
  rw [split, List.length_append, Nat.add_sub_cancel, List.take_left]

/-- A word at the end of a pattern is captured as a whole. -/
theorem reads_word :
    Reads (.group (.plus isWordChar)) (fun place => some place.captured)
      (fun text => (leadingWord? text).map some) := by
  intro place
  obtain ⟨before, text, captured⟩ := place
  cases text with
  | nil => rfl
  | cons c text =>
    cases inside : isWordChar c with
    | false => simp [Pattern.attempts, Pattern.plus, leadingWord?, inside]
    | true =>
      have attempts : (Pattern.plus isWordChar).attempts ⟨before, c :: text, captured⟩ =
          Pattern.runs true isWordChar captured (some c) text := by
        simp [Pattern.attempts, Pattern.plus, inside]
      -- Every run is accepted, so the longest one counts, and it is tried first.
      obtain ⟨farthest, first, rest⟩ :=
        Option.map_eq_some_iff.1 (head?_runs isWordChar captured (some c) text)
      obtain ⟨nearer, split⟩ := List.head?_eq_some_iff.1 first
      have leads : leadingWord? (c :: text) = some (c :: text.takeWhile isWordChar) := by
        simp [leadingWord?, inside]
      have whole : c :: text = (c :: text.takeWhile isWordChar) ++ farthest.rest := by
        rw [rest, List.cons_append, List.takeWhile_append_dropWhile]
      rw [Pattern.attempts, attempts, split, List.map_cons, List.findSome?_cons]
      simp only [leads, take_length_sub whole, Option.map_some]

/-- In front of a phrase that begins with a word, a boundary is where a word can start. -/
theorem findSome?_seq_boundary (readsPhrase : Reads first accepts reads)
    (words : ∀ text, text.head?.any isWordChar = false → reads text = none) (place : Place) :
    ((Pattern.seq .boundary first).attempts place).findSome? accepts =
      if startsWord place.before then reads place.rest else none := by
  rw [Pattern.attempts, findSome?_flatMap, Pattern.attempts]
  cases begins : place.rest.head?.any isWordChar with
  | false =>
    rw [words _ begins, ite_self]
    split
    · rfl
    · rw [List.findSome?_singleton, readsPhrase, words _ begins]
  | true =>
    cases startsWith : place.before.any isWordChar with
    | false => simp [startsWord, startsWith, readsPhrase place]
    | true => simp [startsWord, startsWith]

end Reads

theorem head?_map_eq_findSome? {α : Type} (f : Place → α) (attempts : List Place) :
    attempts.head?.map f = attempts.findSome? fun place => some (f place) := by
  cases attempts <;> rfl

/-! ## Possible readings -/

/-- Between the two places of a text stands the run. -/
structure Passes (run : Text) (place after : Place) : Prop where
  rest : place.rest = run ++ after.rest
  before : after.before = run.getLast?.or place.before
  captured : after.captured = place.captured

theorem passes_append (run : Text) (before : Option Char) (rest : Text) (captured : Option Text) :
    Passes run ⟨before, run ++ rest, captured⟩ ⟨run.getLast?.or before, rest, captured⟩ :=
  ⟨rfl, rfl, rfl⟩

section Passes

variable {p : Char → Bool} {run : Text} {place after : Place}

theorem Passes.begins (passes : Passes run place after) (isRun : IsRun p run) :
    place.rest.head?.any p = true := by
  rw [passes.rest]
  exact isRun.begins after.rest

theorem Passes.ends (passes : Passes run place after) (isRun : IsRun p run) :
    after.before.any p = true := by
  rw [passes.before, List.getLast?_eq_some_getLast isRun.1]
  exact isRun.2 _ (List.getLast_mem isRun.1)

end Passes

theorem passes_nil_iff {place after : Place} : Passes [] place after ↔ after = place := by
  constructor
  · rintro ⟨rest, before, captured⟩
    cases after
    cases place
    simp_all
  · rintro rfl
    exact ⟨rfl, rfl, rfl⟩

theorem passes_cons_iff {c : Char} {run : Text} {place after : Place} :
    Passes (c :: run) place after ↔
      ∃ text, place.rest = c :: text ∧ Passes run ⟨some c, text, place.captured⟩ after := by
  constructor
  · rintro ⟨rest, before, captured⟩
    exact ⟨run ++ after.rest, rest, rfl, by rw [before, getLast?_cons_or], captured⟩
  · rintro ⟨text, split, rest, before, captured⟩
    exact ⟨split.trans (congrArg (c :: ·) rest), by rw [before, getLast?_cons_or], captured⟩

section Possible

variable {first second : Pattern} {p : Char → Bool} {place after : Place}

theorem mem_attempts_seq :
    after ∈ (Pattern.seq first second).attempts place ↔
      ∃ middle ∈ first.attempts place, after ∈ second.attempts middle := by
  rw [Pattern.attempts, List.mem_flatMap]

theorem mem_attempts_boundary :
    after ∈ Pattern.boundary.attempts place ↔
      after = place ∧ place.before.any isWordChar ≠ place.rest.head?.any isWordChar := by
  rw [Pattern.attempts]
  split <;> simp [*]

theorem mem_attempts_one :
    after ∈ (Pattern.one p).attempts place ↔ ∃ c, p c = true ∧ Passes [c] place after := by
  simp only [passes_cons_iff, passes_nil_iff]
  obtain ⟨before, text, captured⟩ := place
  cases text with
  | nil => simp [Pattern.attempts]
  | cons d text =>
    constructor
    · intro reads
      obtain ⟨inside, rfl⟩ : p d = true ∧ after = ⟨some d, text, captured⟩ := by
        simpa [Pattern.attempts] using reads
      exact ⟨d, inside, text, rfl, rfl⟩
    · rintro ⟨c, inside, text', split, rfl⟩
      obtain ⟨rfl, rfl⟩ := List.cons.inj split
      simp [Pattern.attempts, inside]

/-- Greedy or lazy, every run of the class is tried. -/
theorem mem_runs {greedy : Bool} {captured : Option Text} {before : Option Char} {text : Text} :
    after ∈ Pattern.runs greedy p captured before text ↔
      ∃ run, (∀ c ∈ run, p c = true) ∧ Passes run ⟨before, text, captured⟩ after := by
  induction text generalizing before with
  | nil =>
    rw [Pattern.runs, List.mem_singleton, ← passes_nil_iff]
    refine ⟨fun passes => ⟨[], by simp, passes⟩, ?_⟩
    rintro ⟨run, -, passes⟩
    obtain ⟨rfl, -⟩ := List.append_eq_nil_iff.1 passes.rest.symm
    exact passes
  | cons c text inductionHypothesis =>
    -- The order in which the runs are tried is lost here, and with it the difference in greed.
    have further : after ∈ Pattern.runs greedy p captured before (c :: text) ↔
        after = ⟨before, c :: text, captured⟩ ∨
          p c = true ∧ after ∈ Pattern.runs greedy p captured (some c) text := by
      rw [Pattern.runs]
      cases p c <;> cases greedy <;> simp [or_comm]
    rw [further, inductionHypothesis, ← passes_nil_iff]
    constructor
    · rintro (here | ⟨inside, run, inRun, passes⟩)
      · exact ⟨[], by simp, here⟩
      · exact ⟨c :: run, List.forall_mem_cons.2 ⟨inside, inRun⟩,
          passes_cons_iff.2 ⟨text, rfl, passes⟩⟩
    · rintro ⟨run, inRun, passes⟩
      cases run with
      | nil => exact .inl passes
      | cons d run =>
        obtain ⟨text', split, passes⟩ := passes_cons_iff.1 passes
        obtain ⟨rfl, rfl⟩ := List.cons.inj split
        obtain ⟨inside, inRun⟩ := List.forall_mem_cons.1 inRun
        exact .inr ⟨inside, run, inRun, passes⟩

theorem mem_attempts_star {greedy : Bool} :
    after ∈ (Pattern.star greedy p).attempts place ↔
      ∃ run, (∀ c ∈ run, p c = true) ∧ Passes run place after :=
  mem_runs

theorem passes_append_iff {run run' : Text} :
    Passes (run ++ run') place after ↔
      ∃ middle, Passes run place middle ∧ Passes run' middle after := by
  induction run generalizing place with
  | nil => simp [passes_nil_iff]
  | cons c run inductionHypothesis =>
    rw [List.cons_append, passes_cons_iff]
    simp only [inductionHypothesis, passes_cons_iff]
    grind

theorem mem_attempts_plus :
    after ∈ (Pattern.plus p).attempts place ↔ ∃ run, IsRun p run ∧ Passes run place after := by
  simp only [Pattern.plus, mem_attempts_seq, mem_attempts_one, mem_attempts_star]
  constructor
  · rintro ⟨middle, ⟨c, inside, first⟩, run, inRun, rest⟩
    exact ⟨[c] ++ run, ⟨List.cons_ne_nil c run, List.forall_mem_cons.2 ⟨inside, inRun⟩⟩,
      passes_append_iff.2 ⟨middle, first, rest⟩⟩
  · rintro ⟨run, ⟨nonempty, inRun⟩, passes⟩
    cases run with
    | nil => contradiction
    | cons c run =>
      obtain ⟨inside, inRun⟩ := List.forall_mem_cons.1 inRun
      obtain ⟨middle, first, rest⟩ := passes_append_iff.1 (List.singleton_append ▸ passes)
      exact ⟨middle, ⟨c, inside, first⟩, run, inRun, rest⟩

theorem mem_attempts_keyword {word : Text} :
    after ∈ (Pattern.keyword word).attempts place ↔
      ∃ spelling, spelling.map foldWide = word ∧ Passes spelling place after := by
  induction word generalizing place with
  | nil => simp [Pattern.keyword, Pattern.attempts, passes_nil_iff]
  | cons c word inductionHypothesis =>
    simp only [Pattern.keyword, mem_attempts_seq, mem_attempts_one, inductionHypothesis,
      beq_iff_eq]
    constructor
    · rintro ⟨middle, ⟨d, rfl, first⟩, spelling, rfl, rest⟩
      exact ⟨[d] ++ spelling, rfl, passes_append_iff.2 ⟨middle, first, rest⟩⟩
    · rintro ⟨spelling, folded, passes⟩
      cases spelling with
      | nil => cases folded
      | cons d spelling =>
        obtain ⟨same, folded⟩ := List.cons.inj folded
        obtain ⟨middle, first, rest⟩ := passes_append_iff.1 (List.singleton_append ▸ passes)
        exact ⟨middle, ⟨d, same, first⟩, spelling, folded, rest⟩

end Possible

/-! ## The search -/

theorem search_cons (pattern : Pattern) (before : Option Char) (c : Char) (text : Text) :
    pattern.search before (c :: text) =
      ((pattern.attempts ⟨before, c :: text, none⟩).head?).or (pattern.search (some c) text) := by
  rw [Pattern.search]
  cases (pattern.attempts ⟨before, c :: text, none⟩).head? <;> rfl

theorem search_nil (pattern : Pattern) (before : Option Char) :
    pattern.search before [] = (pattern.attempts ⟨before, [], none⟩).head? := by
  rw [Pattern.search]
  cases (pattern.attempts ⟨before, [], none⟩).head? <;> rfl

theorem isSome_head?_attempts {pattern : Pattern} {place : Place} :
    ((pattern.attempts place).head?).isSome = true ↔ ∃ after, after ∈ pattern.attempts place := by
  cases pattern.attempts place with
  | nil => simp
  | cons after later => simp

theorem isSome_search_iff {pattern : Pattern} {before : Option Char} {text : Text} :
    (pattern.search before text).isSome = true ↔
      ∃ front rest, text = front ++ rest ∧
        ∃ after, after ∈ pattern.attempts ⟨front.getLast?.or before, rest, none⟩ := by
  induction text generalizing before with
  | nil =>
    rw [search_nil, isSome_head?_attempts]
    constructor
    · exact fun reads => ⟨[], [], rfl, reads⟩
    · rintro ⟨front, rest, split, reads⟩
      obtain ⟨rfl, rfl⟩ := List.append_eq_nil_iff.1 split.symm
      exact reads
  | cons c text inductionHypothesis =>
    rw [search_cons, Option.isSome_or, Bool.or_eq_true, inductionHypothesis,
      isSome_head?_attempts]
    exact (exists_split_cons_iff fun before rest =>
      ∃ after, after ∈ pattern.attempts ⟨before, rest, none⟩).symm

end QueryTemplate
