import QueryTemplate.Proofs.Cursor.Bytes
import QueryTemplate.Proofs.Template.Context
import QueryTemplate.Proofs.Template.EscapeClause

/-! # Keywords by bytes

A keyword is compared with as many bytes of a text as it has itself. These bytes need not be whole
characters, so that the cut is tried first. A spelling of a keyword is ASCII throughout: where the
keyword stands, the cut falls between two characters.

* `endsWithKeyword`, `keywordContext`: the keyword at the end of a text, and what it says about a
  marker there.
* `escapeBehind`: the escape character that is declared at the start of a text.
* `keywordContext_eq`, `escapeBehind_eq`: no cut goes wrong, and the answers are those of
  `contextAfter` and `escapeClause?`.
-/

namespace QueryTemplate

def trimEnd (text : Text) : Text := text.rdropWhile isBlank

/-- Whether the text ends in the keyword, as a word of its own. -/
def endsWithKeyword (text keyword : Text) : Checked Bool :=
  if text.bytes.length < keyword.bytes.length then return false
  else
    let split := text.bytes.length - keyword.bytes.length
    if isBoundary text.bytes split then do
      let last ← sliceFrom text split
      if sameFolded last keyword then do
        let front ← slice text 0 split
        return startsWord front.getLast?
      else return false
    else return false

/-- The keyword that decides about a marker behind the text. -/
def keywordContext (preceding : Text) : Checked Context := do
  let trimmed := trimEnd preceding
  if trimmed.getLast? = some '(' then
    if ← endsWithKeyword (trimEnd trimmed.dropLast) "in".toList then return .inList
    else return .plain
  else if ← endsWithKeyword trimmed "like".toList then return .like
  else if ← endsWithKeyword trimmed "in".toList then return .inList
  else return .plain

/-- The escape character of a clause at the start of the text. -/
def escapeBehind (following : Text) : Checked (Option Char) :=
  let keyword : Text := "escape".toList
  let rest := skipBlanks following
  -- A cut that would not be possible is no error here.
  match (slice rest 0 keyword.bytes.length).toOption with
  | none => return none
  | some head =>
    if sameFolded head keyword then do
      let rest ← sliceFrom rest keyword.bytes.length
      if endsWord rest then return closedQuote? (skipBlanks rest)
      else return none
    else return none

/-! ## Spellings of a keyword -/

section Spelling

variable {keyword text front last spelling : Text}

theorem foldAscii_of_isLower {c : Char} (lower : c.isLower = true) : foldAscii c = c := by
  have above : 'a'.toNat ≤ c.toNat :=
    UInt32.le_iff_toNat_le.1 (of_decide_eq_true (Bool.and_eq_true_iff.1 lower).1)
  unfold foldAscii Char.toLower
  rw [dif_neg]
  rintro ⟨-, upper⟩
  have below : c.toNat ≤ 'Z'.toNat := UInt32.le_iff_toNat_le.1 upper
  exact absurd (Nat.le_trans above below) (by decide)

theorem sameFolded_iff (letters : keyword.all Char.isLower = true) :
    sameFolded last keyword = true ↔ last.map foldAscii = keyword := by
  have itself : keyword.map foldAscii = keyword := by
    rw [List.all_eq_true] at letters
    rw [List.map_congr_left fun c member => foldAscii_of_isLower (letters c member), List.map_id']
  rw [sameFolded, beq_iff_eq, itself]

/-- A keyword takes as many bytes in each spelling. -/
theorem byteSize_spelling (letters : keyword.all Char.isLower = true)
    (folded : spelling.map foldAscii = keyword) : spelling.byteSize = keyword.byteSize := by
  subst folded
  induction spelling with
  | nil => rfl
  | cons c spelling inductionHypothesis =>
    simp only [List.map_cons, List.all_cons, Bool.and_eq_true] at letters
    have letter := toNat_lt_of_isAlpha (isAlpha_of_foldAscii letters.1)
    have lower := toNat_lt_of_isLower letters.1
    rw [List.map_cons, Text.byteSize_cons, Text.byteSize_cons, inductionHypothesis letters.2,
      utf8Size_of_lt letter, utf8Size_of_lt lower]

theorem endsInKeyword_reverse_append (folded : last.map foldAscii = keyword) :
    endsInKeyword keyword (front ++ last).reverse = startsWord front.getLast? := by
  have read : dropFolded? foldAscii keyword.reverse (front ++ last).reverse =
      some front.reverse := by
    refine dropFolded?_eq_some_iff.2 ⟨last.reverse, ?_, List.reverse_append⟩
    rw [List.map_reverse, folded]
  rw [endsInKeyword, read]
  exact congrArg startsWord List.head?_reverse

theorem exists_spelling_of_endsInKeyword (ends : endsInKeyword keyword text.reverse = true) :
    ∃ front last, text = front ++ last ∧ last.map foldAscii = keyword := by
  obtain ⟨spelling, before, split, folded, -⟩ := endsInKeyword_iff.1 ends
  refine ⟨before.reverse, spelling.reverse, ?_, ?_⟩
  · rw [← List.reverse_append, ← split, List.reverse_reverse]
  · rw [List.map_reverse, folded, List.reverse_reverse]

end Spelling

/-! ## The keyword in front of a marker -/

theorem endsWithKeyword_eq {keyword : Text} (letters : keyword.all Char.isLower = true)
    (text : Text) :
    endsWithKeyword text keyword = .ok (endsInKeyword keyword text.reverse) := by
  -- Without a part of the text that spells the keyword, the answer is no.
  have no (missing : ¬∃ front last, text = front ++ last ∧ last.map foldAscii = keyword) :
      endsInKeyword keyword text.reverse = false :=
    Bool.eq_false_iff.2 (mt exists_spelling_of_endsInKeyword missing)
  rw [endsWithKeyword]
  simp only [Text.length_bytes]
  split
  · next short =>
    rw [no]
    · rfl
    · rintro ⟨front, last, rfl, folded⟩
      have size := byteSize_spelling letters folded
      rw [Text.byteSize_append] at short
      omega
  · next long =>
    split
    · next boundary =>
      obtain ⟨front, last, rfl, size⟩ := isBoundary_iff.1 boundary
      rw [← size, sliceFrom_append, Checked.bind_ok]
      split
      · next same =>
        have folded := (sameFolded_iff letters).1 same
        have cut := slice_append [] front last
        simp only [List.nil_append, Text.byteSize_nil, Nat.zero_add] at cut
        rw [cut, Checked.bind_ok, endsInKeyword_reverse_append folded]
        rfl
      · next differs =>
        rw [no]
        · rfl
        · -- Two parts of one size at the end of the text are the same part.
          rintro ⟨front', last', split, folded⟩
          have size' := byteSize_spelling letters folded
          have same := congrArg Text.byteSize split
          simp only [Text.byteSize_append] at same size
          obtain ⟨-, rfl⟩ := Text.append_inj_of_byteSize split (by omega)
          exact differs ((sameFolded_iff letters).2 folded)
    · next inside =>
      rw [no]
      · rfl
      · rintro ⟨front, last, rfl, folded⟩
        have size := byteSize_spelling letters folded
        refine inside ?_
        rw [Text.byteSize_append, ← size, Nat.add_sub_cancel]
        exact isBoundary_append front last

theorem reverse_trimEnd (text : Text) : (trimEnd text).reverse = skipBlanks text.reverse :=
  List.reverse_reverse _

/-- No cut of the look-back goes wrong. -/
theorem keywordContext_eq (preceding : Text) :
    keywordContext preceding = .ok (contextAfter preceding.reverse) := by
  have trimmed := reverse_trimEnd preceding
  have inEnds (text : Text) := @endsWithKeyword_eq "in".toList (by decide) text
  have likeEnds (text : Text) := @endsWithKeyword_eq "like".toList (by decide) text
  rw [keywordContext]
  by_cases opens : (trimEnd preceding).getLast? = some '('
  · have split : skipBlanks preceding.reverse = '(' :: (trimEnd preceding).dropLast.reverse := by
      obtain ⟨inner, same⟩ := List.getLast?_eq_some_iff.1 opens
      rw [← trimmed, same, List.dropLast_concat, List.reverse_concat]
    simp only [if_pos opens, inEnds, Checked.bind_ok, reverse_trimEnd,
      contextAfter_of_parenthesis split]
    split <;> rfl
  · have bare : (skipBlanks preceding.reverse).head? ≠ some '(' := by
      rwa [← trimmed, List.head?_reverse]
    simp only [if_neg opens, inEnds, likeEnds, Checked.bind_ok, trimmed,
      contextAfter_of_head?_ne bare, bareContext]
    split
    · rfl
    · split <;> rfl

/-! ## The escape clause behind a marker -/

/-- No cut of the look-ahead goes wrong. -/
theorem escapeBehind_eq (following : Text) :
    escapeBehind following = .ok (escapeClause? following) := by
  have letters : "escape".toList.all Char.isLower = true := by decide
  rw [escapeBehind, escapeClause?_eq]
  cases cut : slice (skipBlanks following) 0 (Text.bytes "escape".toList).length with
  | error trap =>
    have missing : dropFolded? foldAscii "escape".toList (skipBlanks following) = none := by
      rw [Option.eq_none_iff_forall_ne_some]
      intro rest read
      obtain ⟨spelling, folded, split⟩ := dropFolded?_eq_some_iff.1 read
      have size := byteSize_spelling letters folded
      have possible := slice_append [] spelling rest
      rw [List.nil_append, ← split, Text.byteSize_nil, Nat.zero_add, size, ← Text.length_bytes,
        cut] at possible
      cases possible
    rw [missing]
    rfl
  | ok head =>
    obtain ⟨front, rest, split, empty, size⟩ := slice_eq_ok_iff.1 cut
    obtain rfl := Text.eq_nil_of_byteSize empty
    rw [List.nil_append] at split
    rw [Nat.zero_add] at size
    have cutFrom : sliceFrom (head ++ rest) (Text.bytes "escape".toList).length = .ok rest := by
      rw [size]
      exact sliceFrom_append head rest
    rw [split, Except.toOption]
    by_cases same : sameFolded head "escape".toList = true
    · have folded := (sameFolded_iff letters).1 same
      have read : dropFolded? foldAscii "escape".toList (head ++ rest) = some rest :=
        dropFolded?_eq_some_iff.2 ⟨head, folded, rfl⟩
      simp only [same, ↓reduceIte, cutFrom, Checked.bind_ok, read]
      split <;> rfl
    · have missing : dropFolded? foldAscii "escape".toList (head ++ rest) = none := by
        rw [Option.eq_none_iff_forall_ne_some]
        intro rest' read
        obtain ⟨spelling, folded, split'⟩ := dropFolded?_eq_some_iff.1 read
        have size' := byteSize_spelling letters folded
        rw [Text.length_bytes] at size
        obtain ⟨rfl, -⟩ := Text.append_inj_of_byteSize split' (by rw [size', size])
        exact same ((sameFolded_iff letters).2 folded)
      simp only [same, missing]
      rfl

end QueryTemplate
