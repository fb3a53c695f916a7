import QueryTemplate.Proofs.Shape.Pattern
import QueryTemplate.Proofs.Shape.RootAlias

/-! # The pattern of the alias

The word in the alias place is what the pattern `\bfrom\s+[\w.]+\s+(?:as\s+)?(\w+)` captures, in any
case. Of the ways in which it can read a text, with or without the `as` and with shorter runs, the
one that counts has the longest runs and the `as` wherever a word follows it.

* `aliasPattern`: the pattern; `search_aliasPattern`.
* `AliasIn`: the word of an alias place. An `as` belongs to it only where no other word follows.
* `FirstAliasPlace`: the place that counts, whatever its word is.
* `DeclaredAlias`: the alias that a text declares, if any.
* `findAlias?_exact`: the alias is what the pattern captures unless it begins a clause, and the one
  that the text declares.
-/

namespace QueryTemplate

/-! ## The pattern -/

/-- The alias place, with or without `as`. -/
def aliasPart : Pattern :=
  .seq (.optional (.seq (.keyword "as".toList) (.plus isBlank))) (.group (.plus isWordChar))

def aliasPattern : Pattern :=
  .seq .boundary <| .seq (.keyword "from".toList) <| .seq (.plus isBlank) <|
    .seq (.plus isPathChar) <| .seq (.plus isBlank) aliasPart

theorem leadingWord?_eq_none {text : Text} (noWord : text.head?.any isWordChar = false) :
    leadingWord? text = none := by
  rw [leadingWord?, takeWhile_eq_nil_iff.2 noWord]

theorem aliasWord?_eq_none {text : Text} (noWord : text.head?.any isWordChar = false) :
    aliasWord? text = none := by
  rw [Option.eq_none_iff_forall_ne_some]
  intro word read
  rw [(aliasWord_of_aliasWord? read).begins] at noWord
  cases noWord

theorem aliasWord?_eq_or (text : Text) :
    aliasWord? text =
      ((dropFolded? foldWide "as".toList text).bind dropBlanks? |>.bind leadingWord?).or
        (leadingWord? text) := by
  unfold aliasWord?
  split <;> next behindAs => rw [behindAs]; rfl

theorem reads_aliasPart :
    Reads aliasPart (fun place => some place.captured)
      (fun text => (aliasWord? text).map some) := by
  have noBlank : ∀ text, text.head?.any isBlank = true → (leadingWord? text).map some = none := by
    intro text blank
    rw [leadingWord?_eq_none (any_head?_of_apart (fun _ => isWordChar_of_isBlank) blank)]
    rfl
  have readsAs := (reads_blanks noBlank).behind_keyword "as".toList
  have reads := reads_word.behind_optional readsAs
  intro place
  rw [aliasPart, reads place]
  simp only [aliasWord?_eq_or, Option.map_or, Option.map_bind, Option.bind_assoc,
    Function.comp_def]

theorem reads_fromPart :
    Reads (.seq (.keyword "from".toList) <| .seq (.plus isBlank) <| .seq (.plus isPathChar) <|
      .seq (.plus isBlank) aliasPart) (fun place => some place.captured)
      (fun text => (aliasAfterFrom? text).map some) := by
  -- Inside a run the next part cannot begin, so only whole runs count.
  have noBlank : ∀ text, text.head?.any isBlank = true → (aliasWord? text).map some = none := by
    intro text blank
    rw [aliasWord?_eq_none (any_head?_of_apart (fun _ => isWordChar_of_isBlank) blank)]
    rfl
  have noPath : ∀ text, text.head?.any isPathChar = true →
      ((dropBlanks? text).bind fun rest => (aliasWord? rest).map some) = none := by
    intro text path
    rw [dropBlanks?, any_head?_of_apart (fun _ => isBlank_of_isPathChar) path]
    rfl
  have noBlank' : ∀ text, text.head?.any isBlank = true →
      ((dropPath? text).bind fun rest =>
        (dropBlanks? rest).bind fun rest => (aliasWord? rest).map some) = none := by
    intro text blank
    rw [dropPath?, any_head?_of_apart (fun _ => isPathChar_of_isBlank) blank]
    rfl
  have reads := (((reads_aliasPart.behind_blanks noBlank).behind_path noPath).behind_blanks
    noBlank').behind_keyword "from".toList
  intro place
  rw [reads place]
  simp only [aliasAfterFrom?, Option.bind_eq_bind, Option.map_bind, Function.comp_def]

/-- At each place the preferred reading captures the word in the alias place. -/
theorem captured_of_aliasPattern (before : Option Char) (text : Text) :
    ((aliasPattern.attempts ⟨before, text, none⟩).head?).map Place.captured =
      if startsWord before then (aliasAfterFrom? text).map some else none := by
  have words : ∀ text, text.head?.any isWordChar = false →
      (aliasAfterFrom? text).map some = none := by
    intro text noWord
    rw [Option.map_eq_none_iff, Option.eq_none_iff_forall_ne_some]
    intro word read
    obtain ⟨rest, ⟨keyword, gap, path, gap', rfl, folded, -⟩, -⟩ :=
      aliasAfterFrom?_eq_some_iff.1 read
    rw [(isRun_of_spelling folded (by decide) (by decide)).begins] at noWord
    cases noWord
  rw [← findSome?_seq_boundary reads_fromPart words ⟨before, text, none⟩]
  exact head?_map_eq_findSome? Place.captured _

theorem search_aliasPattern (before : Option Char) (text : Text) :
    (aliasPattern.search before text).map Place.captured =
      (firstAliasWord? before text).map some := by
  induction text generalizing before with
  | nil =>
    rw [search_nil, captured_of_aliasPattern]
    exact ite_self none
  | cons c text inductionHypothesis =>
    rw [search_cons, Option.map_or, captured_of_aliasPattern, inductionHypothesis, firstAliasWord?]
    cases startsWord before with
    | false => rfl
    | true => cases aliasAfterFrom? (c :: text) <;> rfl

/-! ## The word in the alias place -/

/-- The word at the beginning of the text, as far as it goes. -/
def LeadingWord (text word : Text) : Prop :=
  ∃ behind, text = word ++ behind ∧ IsRun isWordChar word ∧ behind.head?.any isWordChar = false

/-- The text begins with `as` and blanks, and a word begins the rest. -/
def BehindAs (text rest : Text) : Prop :=
  ∃ keyword gap, text = keyword ++ (gap ++ rest) ∧ keyword.map foldWide = "as".toList ∧
    IsRun isBlank gap ∧ rest.head?.any isWordChar = true

/-- The word of an alias place. Without a word behind it, an `as` is itself the word. -/
inductive AliasIn (text word : Text) : Prop where
  | behindAs {rest : Text} (follows : BehindAs text rest) (leads : LeadingWord rest word)
  | itself (alone : ∀ rest, ¬BehindAs text rest) (leads : LeadingWord text word)

section Word

variable {text rest word : Text}

theorem behindAs_iff :
    BehindAs text rest ↔
      (dropFolded? foldWide "as".toList text).bind dropBlanks? = some rest ∧
        rest.head?.any isWordChar = true := by
  constructor
  · rintro ⟨keyword, gap, rfl, folded, isGap, begins⟩
    rw [dropFolded?_spelling folded, Option.bind_some,
      isGap.dropBlanks?_append (any_head?_of_apart (fun _ => isBlank_of_isWordChar) begins)]
    exact ⟨rfl, begins⟩
  · rintro ⟨read, begins⟩
    obtain ⟨behindKeyword, readKeyword, readGap⟩ := Option.bind_eq_some_iff.1 read
    obtain ⟨keyword, folded, rfl⟩ := dropFolded?_eq_some_iff.1 readKeyword
    obtain ⟨gap, isGap, rfl, -⟩ := dropBlanks?_eq_some_iff.1 readGap
    exact ⟨keyword, gap, rfl, folded, isGap, begins⟩

theorem LeadingWord.begins (leads : LeadingWord text word) :
    text.head?.any isWordChar = true := by
  obtain ⟨behind, rfl, isWord, -⟩ := leads
  exact isWord.begins behind

theorem aliasWord?_eq_some_iff : aliasWord? text = some word ↔ AliasIn text word := by
  rw [aliasWord?_eq_or, Option.or_eq_some_iff]
  constructor
  · rintro (behindAs | ⟨alone, leads⟩)
    · obtain ⟨rest, read, readWord⟩ := Option.bind_eq_some_iff.1 behindAs
      have leads := leadingWord?_eq_some_iff.1 readWord
      exact .behindAs (behindAs_iff.2 ⟨read, LeadingWord.begins leads⟩) leads
    · refine .itself (fun rest follows => ?_) (leadingWord?_eq_some_iff.1 leads)
      obtain ⟨read, begins⟩ := behindAs_iff.1 follows
      rw [read, Option.bind_some, leadingWord?_of_begins begins] at alone
      cases alone
  · rintro (⟨follows, leads⟩ | ⟨alone, leads⟩)
    · rw [(behindAs_iff.1 follows).1]
      exact .inl (leadingWord?_eq_some_iff.2 leads)
    · refine .inr ⟨?_, leadingWord?_eq_some_iff.2 leads⟩
      rw [Option.eq_none_iff_forall_ne_some]
      intro word' behindAs
      obtain ⟨rest, read, readWord⟩ := Option.bind_eq_some_iff.1 behindAs
      have leads' := leadingWord?_eq_some_iff.1 readWord
      exact alone rest (behindAs_iff.2 ⟨read, LeadingWord.begins leads'⟩)

end Word

/-! ## The first place -/

/-- The alias place with the shortest text in front of it. -/
structure FirstAliasPlace (masked front rest : Text) : Prop where
  place : AliasPlace masked front rest
  first : ∀ front' rest', AliasPlace masked front' rest' → front.length ≤ front'.length

theorem isSome_firstAliasWord?_iff {before : Option Char} {text : Text} :
    (firstAliasWord? before text).isSome = true ↔
      ∃ front rest, text = front ++ rest ∧ startsWord (front.getLast?.or before) = true ∧
        (aliasAfterFrom? rest).isSome = true := by
  induction text generalizing before with
  | nil =>
    constructor
    · intro found
      cases found
    · rintro ⟨front, rest, split, -, found⟩
      obtain ⟨rfl, rfl⟩ := List.append_eq_nil_iff.1 split.symm
      cases found
  | cons c text inductionHypothesis =>
    rw [exists_split_cons_iff fun before rest =>
      startsWord before = true ∧ (aliasAfterFrom? rest).isSome = true, ← inductionHypothesis,
      firstAliasWord?]
    cases startsWord before with
    | false => simp
    | true => cases aliasAfterFrom? (c :: text) <;> simp

theorem AliasPlace.read {masked front rest word : Text} (place : AliasPlace masked front rest)
    (inPlace : AliasIn rest word) :
    ∃ text, masked = front ++ text ∧ aliasAfterFrom? text = some word := by
  obtain ⟨⟨text, split, clause⟩, -⟩ := place
  exact ⟨text, split, aliasAfterFrom?_eq_some_iff.2
    ⟨rest, clause, aliasWord?_eq_some_iff.2 inPlace⟩⟩

theorem AliasPlace.isSome_found {masked front rest : Text} (place : AliasPlace masked front rest) :
    (firstAliasWord? none masked).isSome = true := by
  obtain ⟨text, split, read⟩ := place.isSome
  refine isSome_firstAliasWord?_iff.2 ⟨front, text, split, ?_, read⟩
  rw [Option.or_none]
  exact place.starts

theorem exists_first_of_found {masked word : Text}
    (found : firstAliasWord? none masked = some word) :
    ∃ front rest, FirstAliasPlace masked front rest ∧ AliasIn rest word := by
  obtain ⟨front, text, split, starts, read, first⟩ := exists_first_of_firstAliasWord? found
  obtain ⟨rest, clause, readWord⟩ := aliasAfterFrom?_eq_some_iff.1 read
  rw [Option.or_none] at starts
  refine ⟨front, rest, ⟨⟨⟨text, split, clause⟩, starts⟩, fun front' rest' place' => ?_⟩,
    aliasWord?_eq_some_iff.1 readWord⟩
  obtain ⟨text', split', found'⟩ := place'.isSome
  exact first front' text' split' ((Option.or_none).symm ▸ place'.starts) found'

theorem FirstAliasPlace.found {masked front rest word : Text}
    (first : FirstAliasPlace masked front rest) (inPlace : AliasIn rest word) :
    firstAliasWord? none masked = some word := by
  obtain ⟨text, split, read⟩ := first.place.read inPlace
  obtain ⟨word', found⟩ := Option.isSome_iff_exists.1 first.place.isSome_found
  obtain ⟨front', rest', first', inPlace'⟩ := exists_first_of_found found
  obtain ⟨text', split', read'⟩ := first'.place.read inPlace'
  -- Both places are the first, so they are one place, and what is read there is one word.
  have size : front.length = front'.length :=
    Nat.le_antisymm (first.first front' rest' first'.place) (first'.first front rest first.place)
  obtain ⟨-, rfl⟩ := List.append_inj (split.symm.trans split') size
  rw [read] at read'
  rw [found, read']

/-! ## The alias -/

/-- The word is one that begins a clause, in any case of its ASCII letters. -/
def BeginsClause (word : Text) : Prop :=
  ∃ keyword ∈ clauseWords, word.map foldAscii = keyword.map foldAscii

/-- The alias that a text declares. Where the first place has a word that begins a clause, a later
place does not count. -/
inductive DeclaredAlias (masked : Text) : Option Text → Prop where
  | noPlace (nowhere : ∀ front rest, ¬AliasPlace masked front rest) : DeclaredAlias masked none
  | clause {front rest word : Text} (first : FirstAliasPlace masked front rest)
      (inPlace : AliasIn rest word) (begins : BeginsClause word) : DeclaredAlias masked none
  | word {front rest word : Text} (first : FirstAliasPlace masked front rest)
      (inPlace : AliasIn rest word) (free : ¬BeginsClause word) : DeclaredAlias masked (some word)

theorem beginsClause_iff {word : Text} :
    BeginsClause word ↔ clauseWords.any (sameFolded word) = true := by
  simp only [BeginsClause, List.any_eq_true, sameFolded, beq_iff_eq]

theorem declaredAlias_findAlias? (masked : Text) : DeclaredAlias masked (findAlias? masked) := by
  rw [findAlias?]
  cases found : firstAliasWord? none masked with
  | none =>
    refine .noPlace fun front rest place => ?_
    have isSome := place.isSome_found
    rw [found] at isSome
    cases isSome
  | some word =>
    obtain ⟨front, rest, first, inPlace⟩ := exists_first_of_found found
    rw [Option.filter_some]
    cases begins : clauseWords.any (sameFolded word) with
    | true => exact .clause first inPlace (beginsClause_iff.2 begins)
    | false =>
      refine .word first inPlace fun begins' => ?_
      rw [beginsClause_iff.1 begins'] at begins
      cases begins

theorem DeclaredAlias.findAlias?_eq {masked : Text} {result : Option Text}
    (declared : DeclaredAlias masked result) : findAlias? masked = result := by
  rw [findAlias?]
  cases declared with
  | noPlace nowhere =>
    cases found : firstAliasWord? none masked with
    | none => rfl
    | some word =>
      obtain ⟨front, rest, first, -⟩ := exists_first_of_found found
      exact absurd first.place (nowhere front rest)
  | clause first inPlace begins =>
    rw [first.found inPlace, Option.filter_some, beginsClause_iff.1 begins]
    rfl
  | word first inPlace free =>
    rw [beginsClause_iff] at free
    rw [first.found inPlace, Option.filter_some, Bool.eq_false_iff.2 free]
    rfl

/-- The alias is the word that the pattern captures unless that begins a clause, and is none other
than the one that the text declares. -/
theorem findAlias?_exact (masked : Text) :
    findAlias? masked =
        ((aliasPattern.search none masked).bind Place.captured).filter
          (fun word => !clauseWords.any (sameFolded word)) ∧
      ∀ result, findAlias? masked = result ↔ DeclaredAlias masked result := by
  refine ⟨?_, fun result => ⟨?_, DeclaredAlias.findAlias?_eq⟩⟩
  · have captured : (aliasPattern.search none masked).bind Place.captured =
        firstAliasWord? none masked := by
      calc (aliasPattern.search none masked).bind Place.captured
          = ((aliasPattern.search none masked).map Place.captured).join := by
            cases aliasPattern.search none masked <;> rfl
        _ = ((firstAliasWord? none masked).map some).join := by rw [search_aliasPattern]
        _ = firstAliasWord? none masked := by cases firstAliasWord? none masked <;> rfl
    rw [captured, findAlias?]
  · rintro rfl
    exact declaredAlias_findAlias? masked

/-- An `as` is part of the alias where nothing but the word that it begins is there. -/
example :
    (aliasPattern.search none "from A as asset".toList).bind Place.captured =
        some "asset".toList ∧
      (aliasPattern.search none "from A asset".toList).bind Place.captured =
        some "asset".toList := by
  decide +kernel

end QueryTemplate
