import QueryTemplate.Proofs.Binding.Agreement
import QueryTemplate.Proofs.Shape.Phrase

/-! # The place of the alias

The alias of a query is the word behind the first `from` that has a path and a word behind it. That
`from` belongs to a subquery where the first place of this kind is in parentheses.

* `AliasClause`, `AliasWord`: the phrase, and the word at its end.
* `aliasAfterFrom?_eq_some_iff`: the phrase is what is read.
* `exists_first_of_firstAliasWord?`: the search stops at the first place.
* `AliasPlace`, `Nested`, `RootFirst`: the places, those in parentheses, and the texts in which none
  of these comes first.
* `rootAlias_of_parse`: the place of the alias, and when it is outside of all parentheses.
-/

namespace QueryTemplate

/-! ## The phrase -/

/-- The text begins with the keyword `from`, a path and blanks, and a word begins the rest. -/
def AliasClause (text rest : Text) : Prop :=
  ∃ keyword gap path gap', text = keyword ++ (gap ++ (path ++ (gap' ++ rest))) ∧
    keyword.map foldWide = "from".toList ∧ IsRun isBlank gap ∧ IsRun isPathChar path ∧
    IsRun isBlank gap' ∧ rest.head?.any isWordChar = true

/-- The word stands at the beginning of the text or behind the keyword `as` there. -/
def AliasWord (text word : Text) : Prop :=
  ∃ front behind, text = front ++ (word ++ behind) ∧
    (front = [] ∨ ∃ keyword gap, front = keyword ++ gap ∧
      keyword.map foldWide = "as".toList ∧ IsRun isBlank gap) ∧
    IsRun isWordChar word ∧ behind.head?.any isWordChar = false

section Phrase

variable {text word : Text}

theorem leadingWord?_eq_some_iff :
    leadingWord? text = some word ↔
      ∃ behind, text = word ++ behind ∧ IsRun isWordChar word ∧
        behind.head?.any isWordChar = false := by
  constructor
  · intro leads
    unfold leadingWord? at leads
    split at leads
    next => cases leads
    next word' nonempty =>
      obtain rfl := Option.some.inj leads
      exact ⟨text.dropWhile isWordChar, List.takeWhile_append_dropWhile.symm,
        ⟨nonempty, all_takeWhile⟩, any_head?_dropWhile isWordChar text⟩
  · rintro ⟨behind, rfl, ⟨nonempty, inside⟩, stops⟩
    rw [leadingWord?, takeWhile_append_of_stop inside stops]
    cases word with
    | nil => contradiction
    | cons c word => rfl

theorem aliasWord_of_aliasWord? (read : aliasWord? text = some word) : AliasWord text word := by
  unfold aliasWord? at read
  split at read
  next word' behindAs =>
    obtain rfl := Option.some.inj read
    obtain ⟨behindGap, readAs, leads⟩ := Option.bind_eq_some_iff.1 behindAs
    obtain ⟨behindKeyword, readKeyword, readGap⟩ := Option.bind_eq_some_iff.1 readAs
    obtain ⟨keyword, folded, rfl⟩ := dropFolded?_eq_some_iff.1 readKeyword
    obtain ⟨gap, isGap, rfl, -⟩ := dropBlanks?_eq_some_iff.1 readGap
    obtain ⟨behind, rfl, isWord, stops⟩ := leadingWord?_eq_some_iff.1 leads
    exact ⟨keyword ++ gap, behind, (List.append_assoc _ _ _).symm,
      .inr ⟨keyword, gap, rfl, folded, isGap⟩, isWord, stops⟩
  next =>
    obtain ⟨behind, rfl, isWord, stops⟩ := leadingWord?_eq_some_iff.1 read
    exact ⟨[], behind, rfl, .inl rfl, isWord, stops⟩

theorem AliasWord.begins (aliasWord : AliasWord text word) :
    text.head?.any isWordChar = true := by
  obtain ⟨front, behind, rfl, rfl | ⟨keyword, gap, rfl, folded, -⟩, isWord, -⟩ := aliasWord
  · exact isWord.begins behind
  · rw [List.append_assoc]
    exact (isRun_of_spelling folded (by decide) (by decide)).begins _

theorem leadingWord?_of_begins (begins : text.head?.any isWordChar = true) :
    leadingWord? text = some (text.takeWhile isWordChar) :=
  leadingWord?_eq_some_iff.2
    ⟨text.dropWhile isWordChar, List.takeWhile_append_dropWhile.symm, isRun_takeWhile begins,
      any_head?_dropWhile isWordChar text⟩

theorem exists_aliasWord? (begins : text.head?.any isWordChar = true) :
    ∃ word, aliasWord? text = some word := by
  unfold aliasWord?
  split
  next word behindAs => exact ⟨word, rfl⟩
  next =>
    exact ⟨_, leadingWord?_of_begins begins⟩

theorem aliasAfterFrom?_eq_some_iff :
    aliasAfterFrom? text = some word ↔
      ∃ rest, AliasClause text rest ∧ aliasWord? rest = some word := by
  constructor
  · intro read
    obtain ⟨behindKeyword, readKeyword, readBehindKeyword⟩ := Option.bind_eq_some_iff.1 read
    obtain ⟨behindGap, readGap, readBehindGap⟩ := Option.bind_eq_some_iff.1 readBehindKeyword
    obtain ⟨behindPath, readPath, readBehindPath⟩ := Option.bind_eq_some_iff.1 readBehindGap
    obtain ⟨rest, readGap', readWord⟩ := Option.bind_eq_some_iff.1 readBehindPath
    obtain ⟨keyword, folded, rfl⟩ := dropFolded?_eq_some_iff.1 readKeyword
    obtain ⟨gap, isGap, rfl, -⟩ := dropBlanks?_eq_some_iff.1 readGap
    obtain ⟨path, isPath, rfl, -⟩ := dropPath?_eq_some_iff.1 readPath
    obtain ⟨gap', isGap', rfl, -⟩ := dropBlanks?_eq_some_iff.1 readGap'
    exact ⟨rest, ⟨keyword, gap, path, gap', rfl, folded, isGap, isPath, isGap',
      (aliasWord_of_aliasWord? readWord).begins⟩, readWord⟩
  · rintro ⟨rest, ⟨keyword, gap, path, gap', rfl, folded, isGap, isPath, isGap', begins⟩, readWord⟩
    have behindGap := any_head?_of_apart (fun _ => isBlank_of_isPathChar)
      (isPath.begins (gap' ++ rest))
    have behindPath := any_head?_of_apart (fun _ => isPathChar_of_isBlank) (isGap'.begins rest)
    have behindGap' := any_head?_of_apart (fun _ => isBlank_of_isWordChar) begins
    simp only [aliasAfterFrom?, dropFolded?_spelling folded, isGap.dropBlanks?_append behindGap,
      isPath.dropPath?_append behindPath, isGap'.dropBlanks?_append behindGap',
      Option.bind_eq_bind, Option.bind_some, readWord]

end Phrase

/-! ## The search -/

theorem exists_first_of_firstAliasWord? {before : Option Char} {text word : Text}
    (found : firstAliasWord? before text = some word) :
    ∃ front rest, text = front ++ rest ∧ startsWord (front.getLast?.or before) = true ∧
      aliasAfterFrom? rest = some word ∧
      ∀ front' rest', text = front' ++ rest' → startsWord (front'.getLast?.or before) = true →
        (aliasAfterFrom? rest').isSome = true → front.length ≤ front'.length := by
  induction text generalizing before with
  | nil => cases found
  | cons c text inductionHypothesis =>
    rw [firstAliasWord?] at found
    cases here : if startsWord before then aliasAfterFrom? (c :: text) else none with
    | some word' =>
      rw [here] at found
      obtain rfl := Option.some.inj found
      obtain ⟨starts, read⟩ := Option.ite_none_right_eq_some.1 here
      exact ⟨[], c :: text, rfl, starts, read, fun _ _ _ _ _ => Nat.zero_le _⟩
    | none =>
      rw [here] at found
      obtain ⟨front, rest, rfl, starts, read, first⟩ := inductionHypothesis found
      refine ⟨c :: front, rest, rfl, (getLast?_cons_or before c front).symm ▸ starts, read, ?_⟩
      intro front' rest' split starts' read'
      cases front' with
      | nil =>
        obtain rfl : c :: (front ++ rest) = rest' := split
        rw [List.getLast?_nil, Option.none_or] at starts'
        rw [if_pos starts'] at here
        rw [here] at read'
        cases read'
      | cons d front' =>
        obtain ⟨rfl, behind⟩ := List.cons.inj split
        rw [getLast?_cons_or] at starts'
        exact Nat.succ_le_succ (first front' rest' behind starts' read')

/-! ## Places -/

/-- The phrase stands behind the front part, and a word can start there. -/
structure AliasPlace (masked front rest : Text) : Prop where
  split : ∃ text, masked = front ++ text ∧ AliasClause text rest
  starts : startsWord front.getLast? = true

/-- A parenthesis of the text is still open at its end. -/
def Nested (front : Text) : Prop :=
  ∃ outer inner, front = outer ++ '(' :: inner ∧
    ∀ part, part <+: inner → part.count ')' ≤ part.count '('

/-- In front of every place in parentheses there is one outside of all parentheses. -/
def RootFirst (masked : Text) : Prop :=
  ∀ front rest, AliasPlace masked front rest → Nested front →
    ∃ front' rest', AliasPlace masked front' rest' ∧ front'.length < front.length ∧
      ¬Nested front'

theorem AliasPlace.isSome {masked front rest : Text} (place : AliasPlace masked front rest) :
    ∃ text, masked = front ++ text ∧ (aliasAfterFrom? text).isSome = true := by
  obtain ⟨⟨text, split, clause⟩, -⟩ := place
  have ⟨_, _, _, _, _, _, _, _, _, begins⟩ := clause
  obtain ⟨word, read⟩ := exists_aliasWord? begins
  have found := aliasAfterFrom?_eq_some_iff.2 ⟨rest, clause, read⟩
  exact ⟨text, split, Option.isSome_of_eq_some found⟩

/-- The first place is outside of all parentheses when none in parentheses comes first. -/
theorem not_nested_iff_rootFirst {masked front rest : Text} (place : AliasPlace masked front rest)
    (first : ∀ front' rest', AliasPlace masked front' rest' → front.length ≤ front'.length) :
    ¬Nested front ↔ RootFirst masked := by
  constructor
  · intro root front' rest' place' nested
    have distinct : front.length ≠ front'.length := by
      intro size
      obtain ⟨⟨text, split, -⟩, -⟩ := place
      obtain ⟨⟨text', split', -⟩, -⟩ := place'
      obtain ⟨rfl, -⟩ := List.append_inj (split.symm.trans split') size
      exact root nested
    exact ⟨front, rest, place, Nat.lt_of_le_of_ne (first front' rest' place') distinct, root⟩
  · intro rootFirst nested
    obtain ⟨front', rest', place', before, -⟩ := rootFirst front rest place nested
    exact Nat.not_lt.2 (first front' rest' place') before

/-- The alias is the word of the first place there is. That place is outside of all parentheses
exactly when no place in parentheses comes first. -/
theorem rootAlias_of_parse {options : Options} {template : Text} {query : Query} {word : Text}
    (parsed : (Query.parse options template).outcome = .ok query)
    (found : query.rootAlias = some word) :
    ∃ front rest, AliasPlace (mask options.skipComments template) front rest ∧
      AliasWord rest word ∧
      (∀ front' rest', AliasPlace (mask options.skipComments template) front' rest' →
        front.length ≤ front'.length) ∧
      (¬Nested front ↔ RootFirst (mask options.skipComments template)) := by
  rw [(masked_of_parse_ok parsed).1, findAlias?, Option.filter_eq_some_iff] at found
  obtain ⟨front, text, split, starts, read, first⟩ := exists_first_of_firstAliasWord? found.1
  obtain ⟨rest, clause, readWord⟩ := aliasAfterFrom?_eq_some_iff.1 read
  rw [Option.or_none] at starts
  have place : AliasPlace (mask options.skipComments template) front rest :=
    ⟨⟨text, split, clause⟩, starts⟩
  have firstPlace : ∀ front' rest', AliasPlace (mask options.skipComments template) front' rest' →
      front.length ≤ front'.length := by
    intro front' rest' place'
    obtain ⟨text', split', found'⟩ := place'.isSome
    exact first front' text' split' ((Option.or_none).symm ▸ place'.starts) found'
  exact ⟨front, rest, place, aliasWord_of_aliasWord? readWord, firstPlace,
    not_nested_iff_rootFirst place firstPlace⟩

theorem rootAlias_of_parse_behind_call :
    ∃ query, (Query.parse {} "select max(a.b) from A as a".toList).outcome = .ok query ∧
      query.rootAlias = some ['a'] ∧
      ∃ front rest, AliasPlace (mask false "select max(a.b) from A as a".toList) front rest ∧
        AliasWord rest ['a'] ∧
        (∀ front' rest', AliasPlace (mask false "select max(a.b) from A as a".toList) front' rest' →
          front.length ≤ front'.length) ∧
        (¬Nested front ↔ RootFirst (mask false "select max(a.b) from A as a".toList)) := by
  have parsed : (Query.parse {} "select max(a.b) from A as a".toList).outcome = .ok
      { template := "select max(a.b) from A as a".toList
        canonical := "select max(a.b) from A as a".toList
        bindings := []
        constructs := false
        rootAlias := some ['a'] } :=
    eq_ok_of_toOption (by decide +kernel)
  exact ⟨_, parsed, rfl, rootAlias_of_parse parsed rfl⟩

/-- A subquery in front of the root entity gives the query its alias. -/
theorem rootAlias_of_subquery :
    ∃ query, (Query.parse {} "select (select b from B b) from A a".toList).outcome = .ok query ∧
      query.rootAlias = some ['b'] ∧
      ∃ front rest, AliasPlace (mask false "select (select b from B b) from A a".toList) front rest ∧
        AliasWord rest ['b'] ∧
        (∀ front' rest',
          AliasPlace (mask false "select (select b from B b) from A a".toList) front' rest' →
            front.length ≤ front'.length) ∧
        Nested front := by
  have parsed : (Query.parse {} "select (select b from B b) from A a".toList).outcome = .ok
      { template := "select (select b from B b) from A a".toList
        canonical := "select (select b from B b) from A a".toList
        bindings := []
        constructs := false
        rootAlias := some ['b'] } :=
    eq_ok_of_toOption (by decide +kernel)
  have masked : mask false "select (select b from B b) from A a".toList =
      "select (select b ".toList ++ "from B b) from A a".toList := by decide +kernel
  have blank : IsRun isBlank [' '] := ⟨by decide, List.all_eq_true.1 (by decide)⟩
  have clause : AliasClause "from B b) from A a".toList "b) from A a".toList :=
    ⟨"from".toList, [' '], ['B'], [' '], rfl, by decide, blank,
      ⟨by decide, List.all_eq_true.1 (by decide)⟩, blank, by decide⟩
  have word : AliasWord "b) from A a".toList ['b'] :=
    ⟨[], ") from A a".toList, rfl, .inl rfl, ⟨by decide, List.all_eq_true.1 (by decide)⟩,
      by decide⟩
  have noPlaceBefore : ∀ place < 17, aliasAfterFrom?
      (("select (select b ".toList ++ "from B b) from A a".toList).drop place) = none := by
    decide +kernel
  rw [masked]
  refine ⟨_, parsed, rfl, _, _, ⟨⟨_, rfl, clause⟩, by decide⟩, word, ?_, ?_⟩
  · intro front' rest' place
    obtain ⟨text, split, found⟩ := place.isSome
    refine Nat.le_of_not_lt fun before => ?_
    have nothing := noPlaceBefore front'.length before
    rw [split, List.drop_left] at nothing
    rw [nothing] at found
    cases found
  · refine ⟨"select ".toList, "select b ".toList, rfl, fun part inside => ?_⟩
    have noParenthesis : ')' ∉ part := fun member =>
      absurd (inside.subset member) (by decide)
    rw [List.count_eq_zero.2 noParenthesis]
    exact Nat.zero_le _

end QueryTemplate
