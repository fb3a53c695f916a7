import Mathlib.Data.List.Infix
import QueryTemplate.Query

/-! # What a prepared pattern matches

A `LIKE` comparison under an escape character reads its pattern from left to right. In front of
another character the escape character stands for nothing itself and lets that character stand for
itself. Elsewhere `%` stands for any text, `_` for any one character, and every other character for
itself; so does an escape character at the end of a pattern, which has nothing to escape.

* `PatternItem`, `readPattern`: the items that a pattern is made of.
* `ReadsInFull`: texts that are read by themselves, whatever stands behind them.
* `matchesItems`, `matchesLike`: the comparison.
* `LikeMode.Accepts`: the subjects that a mode of binding is meant to find.
* `prepare_matches_iff`: a prepared value finds exactly those subjects, unless the escape character
  is `%` itself and there is a leading wildcard. That one is read as an escape, and the pattern
  finds only subjects that begin with what it escapes (`head?_of_matchesLike`).
-/

namespace QueryTemplate

inductive PatternItem where
  | literal (c : Char)
  | anyChar
  | anyText
  deriving DecidableEq, Repr

/-- What a character stands for that no escape character precedes. -/
def PatternItem.ofChar (c : Char) : PatternItem :=
  if c = '%' then .anyText else if c = '_' then .anyChar else .literal c

def readPattern (escape : Char) : Text → List PatternItem
  | [] => []
  | [c] => [.ofChar c]
  | c :: d :: rest =>
    if c = escape then .literal d :: readPattern escape rest
    else .ofChar c :: readPattern escape (d :: rest)

/-- Whether the items stand for the whole subject, one after the other. -/
def matchesItems : List PatternItem → Text → Bool
  | [], subject => subject.isEmpty
  | .anyText :: items, subject => subject.tails.any (matchesItems items)
  | .literal _ :: _, [] | .anyChar :: _, [] => false
  | .literal d :: items, c :: subject => d == c && matchesItems items subject
  | .anyChar :: items, _ :: subject => matchesItems items subject

def matchesLike (escape : Char) (pattern subject : Text) : Bool :=
  matchesItems (readPattern escape pattern) subject

/-- The subjects that a binding of this mode is meant to find. -/
def LikeMode.Accepts : LikeMode → Text → Text → Prop
  | .contains, value, subject => value <:+: subject
  | .startsWith, value, subject => value <+: subject
  | .endsWith, value, subject => value <:+ subject
  | .equals, value, subject => subject = value

/-! ## Reading an escaped value -/

/-- A text of whole steps: every escape character in it has the character that it escapes behind
it. -/
inductive ReadsInFull (escape : Char) : Text → List PatternItem → Prop where
  | nil : ReadsInFull escape [] []
  | escaped {d : Char} {text : Text} {items : List PatternItem}
      (rest : ReadsInFull escape text items) :
      ReadsInFull escape (escape :: d :: text) (.literal d :: items)
  | plain {c : Char} {text : Text} {items : List PatternItem} (other : c ≠ escape)
      (rest : ReadsInFull escape text items) :
      ReadsInFull escape (c :: text) (.ofChar c :: items)

theorem readPattern_escape (escape d : Char) (rest : Text) :
    readPattern escape (escape :: d :: rest) = .literal d :: readPattern escape rest := by
  simp [readPattern]

theorem readPattern_of_ne {escape c : Char} (other : c ≠ escape) (rest : Text) :
    readPattern escape (c :: rest) = .ofChar c :: readPattern escape rest := by
  cases rest with
  | nil => rfl
  | cons d rest => rw [readPattern, if_neg other]

theorem ReadsInFull.readPattern_append {escape : Char} {text : Text} {items : List PatternItem}
    (reads : ReadsInFull escape text items) (rest : Text) :
    readPattern escape (text ++ rest) = items ++ readPattern escape rest := by
  induction reads with
  | nil => rfl
  | escaped _ inductionHypothesis =>
    rw [List.cons_append, List.cons_append, readPattern_escape, inductionHypothesis]
    rfl
  | plain other _ inductionHypothesis =>
    rw [List.cons_append, readPattern_of_ne other, inductionHypothesis]
    rfl

theorem readsInFull_escapeWildcards (escape : Char) (value : Text) :
    ReadsInFull escape (escapeWildcards escape value) (value.map .literal) := by
  induction value with
  | nil => exact .nil
  | cons c value inductionHypothesis =>
    rw [escapeWildcards_cons, List.map_cons]
    by_cases special : isSpecial escape c = true
    -- An escaped character is read as itself, whatever it is.
    · rw [if_pos special]
      exact .escaped inductionHypothesis
    -- Only a character that is no wildcard and not the escape character goes without.
    · obtain ⟨⟨notAny, notOne⟩, other⟩ : (c ≠ '%' ∧ c ≠ '_') ∧ c ≠ escape := by
        simpa [isSpecial] using special
      have itself : PatternItem.ofChar c = .literal c := by
        simp [PatternItem.ofChar, notAny, notOne]
      rw [if_neg special, ← itself]
      exact .plain other inductionHypothesis

/-! ## Matching items -/

theorem matchesItems_anyText {items : List PatternItem} {subject : Text} :
    matchesItems (.anyText :: items) subject = true ↔
      ∃ suffix, suffix <:+ subject ∧ matchesItems items suffix = true := by
  simp [matchesItems]

theorem matchesItems_literals {value subject : Text} {items : List PatternItem} :
    matchesItems (value.map .literal ++ items) subject = true ↔
      ∃ rest, subject = value ++ rest ∧ matchesItems items rest = true := by
  induction value generalizing subject with
  | nil => simp
  | cons c value inductionHypothesis =>
    cases subject with
    | nil => simp [matchesItems]
    | cons d subject =>
      simp only [List.map_cons, List.cons_append, matchesItems, Bool.and_eq_true, beq_iff_eq,
        List.cons.injEq, inductionHypothesis]
      constructor
      · rintro ⟨rfl, rest, rfl, matched⟩
        exact ⟨rest, ⟨rfl, rfl⟩, matched⟩
      · rintro ⟨rest, ⟨rfl, rfl⟩, matched⟩
        exact ⟨rfl, rest, rfl, matched⟩

/-! ## The wildcards of a mode -/

def wildcardItems (present : Bool) : List PatternItem := if present then [.anyText] else []

/-- A percent sign at the end of a pattern is a wildcard under every escape character. -/
theorem readPattern_trailing (escape : Char) (present : Bool) :
    readPattern escape (if present then ['%'] else []) = wildcardItems present := by
  cases present <;> rfl

theorem readPattern_leading {escape : Char} {present : Bool}
    (readable : present = true → escape ≠ '%') (rest : Text) :
    readPattern escape ((if present then ['%'] else []) ++ rest) =
      wildcardItems present ++ readPattern escape rest := by
  cases present with
  | false => rfl
  | true => exact readPattern_of_ne (readable rfl).symm rest

theorem readPattern_decorate {escape : Char} {mode : LikeMode}
    (apart : mode.leading = true → escape ≠ '%') (value : Text) :
    readPattern escape (mode.decorate (escapeWildcards escape value)) =
      wildcardItems mode.leading ++ (value.map .literal ++ wildcardItems mode.trailing) := by
  rw [LikeMode.decorate, List.append_assoc, readPattern_leading apart,
    (readsInFull_escapeWildcards escape value).readPattern_append, readPattern_trailing]

theorem matchesItems_trailing {mode : LikeMode} {rest : Text} :
    matchesItems (wildcardItems mode.trailing) rest = true ↔
      (mode.trailing = false → rest = []) := by
  cases trails : mode.trailing with
  | false => simp [wildcardItems, matchesItems]
  | true =>
    simp only [wildcardItems, ↓reduceIte, matchesItems_anyText, Bool.true_eq_false, false_implies,
      iff_true]
    exact ⟨[], List.nil_suffix, rfl⟩

theorem matchesItems_mode_iff {mode : LikeMode} {value subject : Text} :
    matchesItems
        (wildcardItems mode.leading ++ (value.map .literal ++ wildcardItems mode.trailing))
        subject = true ↔ mode.Accepts value subject := by
  -- Behind the value anything may follow if there is a trailing wildcard, and nothing otherwise.
  have tail (subject : Text) :
      matchesItems (value.map .literal ++ wildcardItems mode.trailing) subject = true ↔
        ∃ rest, subject = value ++ rest ∧ (mode.trailing = false → rest = []) := by
    rw [matchesItems_literals]
    simp only [matchesItems_trailing]
  cases mode with
  | equals => simpa [wildcardItems, LikeMode.leading, LikeMode.trailing, LikeMode.Accepts]
      using tail subject
  | startsWith =>
    simp only [LikeMode.trailing, Bool.true_eq_false, false_implies, and_true] at tail
    simp only [LikeMode.leading, LikeMode.trailing, LikeMode.Accepts]
    rw [wildcardItems, if_neg (by simp), List.nil_append, tail]
    exact ⟨fun ⟨rest, same⟩ => ⟨rest, same.symm⟩, fun ⟨rest, same⟩ => ⟨rest, same.symm⟩⟩
  | endsWith =>
    simp only [LikeMode.trailing, forall_const, exists_eq_right, List.append_nil] at tail
    simp only [LikeMode.leading, LikeMode.trailing, LikeMode.Accepts]
    rw [wildcardItems, if_pos rfl, List.cons_append, List.nil_append, matchesItems_anyText]
    constructor
    · rintro ⟨suffix, behind, matched⟩
      exact (tail suffix).1 matched ▸ behind
    · intro behind
      exact ⟨value, behind, (tail value).2 rfl⟩
  | contains =>
    simp only [LikeMode.trailing, Bool.true_eq_false, false_implies, and_true] at tail
    simp only [LikeMode.leading, LikeMode.trailing, LikeMode.Accepts]
    rw [wildcardItems, if_pos rfl, List.cons_append, List.nil_append, matchesItems_anyText,
      List.infix_iff_prefix_suffix]
    constructor
    · rintro ⟨suffix, behind, matched⟩
      obtain ⟨rest, rfl⟩ := (tail suffix).1 matched
      exact ⟨value ++ rest, List.prefix_append value rest, behind⟩
    · rintro ⟨suffix, ⟨rest, rfl⟩, behind⟩
      exact ⟨value ++ rest, behind, (tail _).2 ⟨rest, rfl⟩⟩

theorem matchesLike_decorate_iff {escape : Char} {mode : LikeMode} {value subject : Text}
    (readable : escape ≠ '%' ∨ mode = .equals ∨ mode = .startsWith ∨
      mode = .endsWith ∧ value = []) :
    matchesLike escape (mode.decorate (escapeWildcards escape value)) subject = true ↔
      mode.Accepts value subject := by
  have read : readPattern escape (mode.decorate (escapeWildcards escape value)) =
      wildcardItems mode.leading ++ (value.map .literal ++ wildcardItems mode.trailing) := by
    obtain other | rfl | rfl | ⟨rfl, rfl⟩ := readable
    · exact readPattern_decorate (fun _ => other) value
    · exact @readPattern_decorate escape .equals nofun value
    · exact @readPattern_decorate escape .startsWith nofun value
    -- Here the wildcard in front is the whole pattern.
    · rfl
  rw [matchesLike, read]
  exact matchesItems_mode_iff

/-! ## The percent sign as escape character -/

/-- A pattern that begins with an escape finds only subjects that begin with what is escaped. -/
theorem head?_of_matchesLike {escape d : Char} {rest subject : Text}
    (matched : matchesLike escape (escape :: d :: rest) subject = true) :
    subject.head? = some d := by
  rw [matchesLike, readPattern_escape] at matched
  cases subject with
  | nil => simp [matchesItems] at matched
  | cons c subject =>
    rw [matchesItems, Bool.and_eq_true, beq_iff_eq] at matched
    exact congrArg some matched.1.symm

/-- A percent sign escapes the next character, and is a wildcard where there is none. -/
example : matchesLike '%' "%a".toList "ba".toList = false ∧
    matchesLike '%' "a%".toList "ab".toList = true := by
  decide

/-- The wildcard in front is not the whole pattern, unless the value is empty and nothing may stand
behind it. -/
theorem LikeMode.exists_decorate_of_leading {mode : LikeMode} (leads : mode.leading = true)
    {escape : Char} {value : Text} (more : ¬(mode = .endsWith ∧ value = [])) :
    ∃ d rest, mode.decorate (escapeWildcards escape value) = '%' :: d :: rest := by
  have behind : escapeWildcards escape value ++ (if mode.trailing then ['%'] else []) ≠ [] := by
    cases value with
    | cons c value =>
      rw [escapeWildcards_cons]
      split <;> simp
    | nil =>
      cases mode with
      | contains => simp [trailing]
      | endsWith => exact absurd ⟨rfl, rfl⟩ more
      | startsWith | equals => cases leads
  obtain ⟨d, rest, split⟩ := List.exists_cons_of_ne_nil behind
  refine ⟨d, rest, ?_⟩
  rw [decorate, if_pos leads, List.append_assoc, split]
  rfl

/-- Anything may stand in front of the value where there is a leading wildcard. -/
theorem LikeMode.accepts_cons_of_leading {mode : LikeMode} (leads : mode.leading = true) (c : Char)
    (value : Text) : mode.Accepts value (c :: value) := by
  cases mode with
  | contains => exact (List.suffix_cons c value).isInfix
  | endsWith => exact List.suffix_cons c value
  | startsWith | equals => cases leads

/-- A prepared value matches exactly the subjects that its mode is meant to find, unless `%` is the
escape character and the mode has a wildcard in front, with something behind it to be escaped. -/
theorem prepare_matches_iff {binding : Binding} {mode : LikeMode} {escape : Char}
    (pattern : binding.kind = .like mode (some escape)) (value : Text) :
    (∀ subject, matchesLike escape (binding.prepare value) subject = true ↔
        mode.Accepts value subject) ↔
      escape ≠ '%' ∨ mode = .equals ∨ mode = .startsWith ∨ mode = .endsWith ∧ value = [] := by
  simp only [Binding.prepare, pattern]
  constructor
  · intro exactly
    by_contra unread
    simp only [not_or, not_not] at unread
    obtain ⟨rfl, noEquals, noStarts, more⟩ := unread
    have leads : mode.leading = true := by
      cases mode with
      | contains | endsWith => rfl
      | equals | startsWith => contradiction
    obtain ⟨d, rest, written⟩ := LikeMode.exists_decorate_of_leading leads more
    -- The value is to be found behind any character, but the pattern asks for one of its own.
    have first (c : Char) : some c = some d := by
      have matched := (exactly (c :: value)).2 (LikeMode.accepts_cons_of_leading leads c value)
      rw [written] at matched
      exact head?_of_matchesLike matched
    exact absurd ((first 'a').trans (first 'b').symm) (by decide)
  · intro readable subject
    exact matchesLike_decorate_iff readable

theorem prepare_matches_backslash :
    let binding : Binding := ⟨.name ['x'], .like .contains (some '\\'), none⟩
    ∀ subject, matchesLike '\\' (binding.prepare "50%".toList) subject = true ↔
      LikeMode.contains.Accepts "50%".toList subject :=
  (prepare_matches_iff rfl _).2 (.inl (by decide))

/-- Under the escape character `%` the wildcard of a prepared value is read as an escape. -/
theorem prepare_misses_percent :
    ∃ query binding, (Query.parse {} "x like %:a escape '%'".toList).outcome = .ok query ∧
      query.bindings = [binding] ∧ binding.kind = .like .endsWith (some '%') ∧
      matchesLike '%' (binding.prepare ['a']) ['b', 'a'] = false ∧
      LikeMode.endsWith.Accepts ['a'] ['b', 'a'] := by
  refine ⟨{ template := "x like %:a escape '%'".toList
            canonical := "x like :a escape '%'".toList
            bindings := [⟨.name ['a'], .like .endsWith (some '%'), none⟩]
            constructs := false
            rootAlias := none }, _, ?_, rfl, rfl, ?_, ?_⟩
  · exact eq_ok_of_toOption (by decide +kernel)
  · decide
  · exact ⟨['b'], rfl⟩

end QueryTemplate
