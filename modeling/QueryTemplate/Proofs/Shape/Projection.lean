import QueryTemplate.Proofs.Binding.Agreement
import QueryTemplate.Proofs.Shape.Phrase

/-! # Constructor projections

A query projects with a constructor where a call, `new` with a type and an argument list, stands
behind a `select`. The search asks of the character before `new` only that it is no part of the
word, so that a property path which ends in `new` is taken for a call too.

* `ConstructorCall`, `constructs_iff`: the phrase that is read.
* `hasConstructorCall_iff`, `hasProjection_iff`: the searches, over all places of a text.
* `Projection`: a constructor call behind some `select`; `hasConstructor_iff`.
* `constructs_of_parse`: which queries are said to construct their results.
-/

namespace QueryTemplate

/-! ## The phrase -/

/-- The text begins with the keyword `new`, a path and the parenthesis of an argument list. -/
def ConstructorCall (text : Text) : Prop :=
  ∃ keyword gap path gap' arguments,
    text = keyword ++ (gap ++ (path ++ (gap' ++ '(' :: arguments))) ∧
      keyword.map foldWide = "new".toList ∧ IsRun isBlank gap ∧ IsRun isPathChar path ∧
      ∀ c ∈ gap', isBlank c = true

theorem constructs_iff {text : Text} : constructs text = true ↔ ConstructorCall text := by
  constructor
  · intro calls
    unfold constructs at calls
    split at calls
    next behind read =>
      obtain ⟨behindGap, readFirst, readPath⟩ := Option.bind_eq_some_iff.1 read
      obtain ⟨behindKeyword, readKeyword, readGap⟩ := Option.bind_eq_some_iff.1 readFirst
      obtain ⟨keyword, folded, rfl⟩ := dropFolded?_eq_some_iff.1 readKeyword
      obtain ⟨gap, isGap, rfl, -⟩ := dropBlanks?_eq_some_iff.1 readGap
      obtain ⟨path, isPath, rfl, -⟩ := dropPath?_eq_some_iff.1 readPath
      obtain ⟨arguments, opens⟩ := List.head?_eq_some_iff.1 (beq_iff_eq.1 calls)
      refine ⟨keyword, gap, path, blanks behind, arguments, ?_, folded, isGap, isPath,
        all_takeWhile⟩
      rw [← opens, blanks_append_skipBlanks]
    next => cases calls
  · rintro ⟨keyword, gap, path, gap', arguments, rfl, folded, isGap, isPath, blank⟩
    have stops : (gap' ++ '(' :: arguments).head?.any isPathChar = false := by
      cases gap' with
      | nil => rfl
      | cons c gap' => exact isPathChar_of_isBlank (blank c List.mem_cons_self)
    have opens : skipBlanks (gap' ++ '(' :: arguments) = '(' :: arguments :=
      dropWhile_append_of_stop blank rfl
    have behindGap := any_head?_of_apart (fun _ => isBlank_of_isPathChar)
      (isPath.begins (gap' ++ '(' :: arguments))
    rw [constructs, dropFolded?_spelling folded, Option.bind_some,
      isGap.dropBlanks?_append behindGap, Option.bind_some, isPath.dropPath?_append stops]
    simp [opens]

theorem dropSelect?_eq_some_iff {text rest : Text} :
    dropSelect? text = some rest ↔
      ∃ keyword, keyword.map foldWide = "select".toList ∧ text = keyword ++ rest ∧
        endsWord rest = true := by
  rw [dropSelect?, Option.filter_eq_some_iff, dropFolded?_eq_some_iff]
  constructor
  · rintro ⟨⟨keyword, folded, split⟩, ends⟩
    exact ⟨keyword, folded, split, ends⟩
  · rintro ⟨keyword, folded, split, ends⟩
    exact ⟨⟨keyword, folded, split⟩, ends⟩

/-! ## The searches -/

theorem hasConstructorCall_iff {before : Option Char} {text : Text} :
    hasConstructorCall before text = true ↔
      ∃ front rest, text = front ++ rest ∧ startsWord (front.getLast?.or before) = true ∧
        constructs rest = true := by
  induction text generalizing before with
  | nil =>
    constructor
    · intro calls
      cases calls
    · rintro ⟨front, rest, split, -, calls⟩
      obtain ⟨rfl, rfl⟩ := List.append_eq_nil_iff.1 split.symm
      cases calls
  | cons c text inductionHypothesis =>
    rw [hasConstructorCall, Bool.or_eq_true, Bool.and_eq_true, inductionHypothesis]
    exact (exists_split_cons_iff fun before rest =>
      startsWord before = true ∧ constructs rest = true).symm

/-- Where no call can start at the beginning of a text, the calls in it are calls in every text that
ends with it. -/
theorem hasConstructorCall_append_left {before before' : Option Char} {text : Text}
    (noStart : startsWord before' = false) (calls : hasConstructorCall before' text = true)
    (front : Text) : hasConstructorCall before (front ++ text) = true := by
  obtain ⟨inner, rest, rfl, starts, call⟩ := hasConstructorCall_iff.1 calls
  refine hasConstructorCall_iff.2
    ⟨front ++ inner, rest, (List.append_assoc front inner rest).symm, ?_, call⟩
  cases last : inner.getLast? with
  | none =>
    rw [last, Option.none_or, noStart] at starts
    cases starts
  | some c =>
    rw [last] at starts
    rw [List.getLast?_append, last]
    exact starts

/-- What stands behind any `select` stands behind the first one, at which the search is decided. -/
theorem hasProjection_iff {before : Option Char} {text : Text} :
    hasProjection before text = true ↔
      ∃ front rest, text = front ++ rest ∧ startsWord (front.getLast?.or before) = true ∧
        ∃ after, dropSelect? rest = some after ∧ hasConstructorCall (some 't') after = true := by
  induction text generalizing before with
  | nil =>
    constructor
    · intro projects
      cases projects
    · rintro ⟨front, rest, split, -, after, selects, -⟩
      obtain ⟨rfl, rfl⟩ := List.append_eq_nil_iff.1 split.symm
      cases selects
  | cons c text inductionHypothesis =>
    rw [exists_split_cons_iff fun before rest => startsWord before = true ∧
      ∃ after, dropSelect? rest = some after ∧ hasConstructorCall (some 't') after = true,
      ← inductionHypothesis, hasProjection]
    cases selects : if startsWord before then dropSelect? (c :: text) else none with
    | none =>
      refine ⟨.inr, ?_⟩
      rintro (⟨starts, after, found, -⟩ | later)
      · rw [if_pos starts, found] at selects
        cases selects
      · exact later
    | some after =>
      obtain ⟨starts, found⟩ := Option.ite_none_right_eq_some.1 selects
      refine ⟨fun calls => .inl ⟨starts, after, found, calls⟩, ?_⟩
      rintro (⟨-, after', found', calls⟩ | later)
      · rw [found] at found'
        exact Option.some.inj found' ▸ calls
      · obtain ⟨front, rest, rfl, starts', after', found', calls⟩ := inductionHypothesis.1 later
        obtain ⟨keyword, folded, whole, -⟩ := dropSelect?_eq_some_iff.1 found
        obtain ⟨keyword', -, rfl, -⟩ := dropSelect?_eq_some_iff.1 found'
        rw [← getLast?_cons_or none, Option.or_none] at starts'
        have isWord := isRun_of_spelling folded (by decide) (by decide)
        obtain ⟨between, -, rfl⟩ :=
          exists_between_of_startsWord isWord whole.symm (List.cons_ne_nil c front) starts'
        rw [← List.append_assoc]
        exact hasConstructorCall_append_left (by decide) calls (between ++ keyword')

/-! ## Projections -/

/-- The keyword `select` stands in the front part, as a word. -/
def BehindSelect (front rest : Text) : Prop :=
  ∃ outer keyword between, front = outer ++ (keyword ++ between) ∧
    keyword.map foldWide = "select".toList ∧ startsWord outer.getLast? = true ∧
    endsWord (between ++ rest) = true

/-- A constructor call stands behind the front part, and a `select` in it. -/
structure Projection (masked front rest : Text) : Prop where
  split : masked = front ++ rest
  select : BehindSelect front rest
  call : ConstructorCall rest

/-- The last character is neither one of a word nor the dot of a path. -/
def StandsAlone (front : Text) : Prop := front.getLast?.any isPathChar = false

theorem startsWord_getLast?_iff {front : Text} :
    startsWord front.getLast? = true ↔ StandsAlone front ∨ front.getLast? = some '.' := by
  rw [startsWord, StandsAlone]
  cases front.getLast? with
  | none => simp
  | some c =>
    by_cases dot : c = '.'
    · subst dot
      simp [show isWordChar '.' = false by decide]
    · simp [isPathChar, dot]

/-- Directly behind a word no word starts. -/
theorem startsWord_behind_word {outer word between : Text} (isWord : IsRun isWordChar word) :
    startsWord (outer ++ (word ++ between)).getLast? =
      startsWord (between.getLast?.or (some 't')) := by
  rw [List.getLast?_append, List.getLast?_append]
  cases between.getLast? with
  | some c => rfl
  | none =>
    have last := List.getLast?_eq_some_getLast isWord.1
    rw [last]
    simp [startsWord, isWord.2 _ (List.mem_of_getLast? last), show isWordChar 't' = true by decide]

theorem hasConstructor_iff {masked : Text} :
    hasConstructor masked = true ↔
      ∃ front rest, Projection masked front rest ∧ startsWord front.getLast? = true := by
  rw [hasConstructor, hasProjection_iff]
  constructor
  · rintro ⟨outer, inner, rfl, starts, after, selects, calls⟩
    obtain ⟨keyword, folded, rfl, ends⟩ := dropSelect?_eq_some_iff.1 selects
    obtain ⟨between, rest, rfl, startsCall, call⟩ := hasConstructorCall_iff.1 calls
    have isWord := isRun_of_spelling folded (by decide) (by decide)
    rw [Option.or_none] at starts
    refine ⟨outer ++ (keyword ++ between), rest,
      ⟨?_, ⟨outer, keyword, between, rfl, folded, starts, ends⟩, constructs_iff.1 call⟩, ?_⟩
    · simp only [List.append_assoc]
    · rw [startsWord_behind_word isWord]
      exact startsCall
  · rintro ⟨_, rest, ⟨rfl, ⟨outer, keyword, between, rfl, folded, starts, ends⟩, call⟩, startsCall⟩
    have isWord := isRun_of_spelling folded (by decide) (by decide)
    rw [startsWord_behind_word isWord] at startsCall
    refine ⟨outer, keyword ++ (between ++ rest), ?_, ?_, between ++ rest, ?_, ?_⟩
    · simp only [List.append_assoc]
    · rw [Option.or_none]
      exact starts
    · exact dropSelect?_eq_some_iff.2 ⟨keyword, folded, rfl, ends⟩
    · exact hasConstructorCall_iff.2 ⟨between, rest, rfl, startsCall, constructs_iff.2 call⟩

/-- A query is said to construct its results where a `new` that stands alone begins a constructor
call behind a `select`, and also where a property path that ends in `new` does. -/
theorem constructs_of_parse {options : Options} {template : Text} {query : Query}
    (parsed : (Query.parse options template).outcome = .ok query) :
    query.constructs = true ↔
      (∃ front rest, Projection (mask options.skipComments template) front rest ∧
        StandsAlone front) ∨
      ∃ front rest, Projection (mask options.skipComments template) front rest ∧
        front.getLast? = some '.' := by
  rw [(masked_of_parse_ok parsed).2, hasConstructor_iff]
  simp only [startsWord_getLast?_iff, and_or_left, exists_or]

theorem constructs_of_parse_call :
    ∃ query, (Query.parse {} "select distinct new a.B(t) from T t".toList).outcome = .ok query ∧
      query.constructs = true ∧
      ((∃ front rest, Projection (mask false "select distinct new a.B(t) from T t".toList) front
          rest ∧ StandsAlone front) ∨
        ∃ front rest, Projection (mask false "select distinct new a.B(t) from T t".toList) front
          rest ∧ front.getLast? = some '.') := by
  have parsed : (Query.parse {} "select distinct new a.B(t) from T t".toList).outcome = .ok
      { template := "select distinct new a.B(t) from T t".toList
        canonical := "select distinct new a.B(t) from T t".toList
        bindings := []
        constructs := true
        rootAlias := some ['t'] } :=
    eq_ok_of_toOption (by decide +kernel)
  exact ⟨_, parsed, rfl, (constructs_of_parse parsed).1 rfl⟩

/-- A property and the parenthesis of a subquery behind it make a constructor call. -/
theorem constructs_of_property :
    ∃ query, (Query.parse {} "select a.new from (select 1) t".toList).outcome = .ok query ∧
      query.constructs = true ∧
      ¬∃ front rest, Projection (mask false "select a.new from (select 1) t".toList) front rest ∧
        StandsAlone front := by
  have parsed : (Query.parse {} "select a.new from (select 1) t".toList).outcome = .ok
      { template := "select a.new from (select 1) t".toList
        canonical := "select a.new from (select 1) t".toList
        bindings := []
        constructs := true
        rootAlias := none } :=
    eq_ok_of_toOption (by decide +kernel)
  refine ⟨_, parsed, rfl, ?_⟩
  rintro ⟨front, rest, ⟨split, -, call⟩, alone⟩
  -- Of all places of the masked text a call stands only behind the dot.
  have onlyBehindDot : ∀ place < 31,
      constructs ((mask false "select a.new from (select 1) t".toList).drop place) = true →
        ¬StandsAlone ((mask false "select a.new from (select 1) t".toList).take place) := by
    unfold StandsAlone
    decide +kernel
  have size := congrArg List.length split
  rw [List.length_append] at size
  have masked : (mask false "select a.new from (select 1) t".toList).length = 30 := by
    decide +kernel
  have calls := constructs_iff.2 call
  refine onlyBehindDot front.length (by omega) ?_ ?_
  · rw [split, List.drop_left]
    exact calls
  · rw [split, List.take_left]
    exact alone

end QueryTemplate
