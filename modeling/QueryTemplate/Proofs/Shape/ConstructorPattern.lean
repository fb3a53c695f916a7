import QueryTemplate.Proofs.Shape.Pattern
import QueryTemplate.Proofs.Shape.Projection

/-! # The pattern of a constructor projection

A constructor call behind a `select` is what the pattern `\bselect\b.*?\bnew\s+[\w.]+\s*\(` finds,
in any case and over line ends. The first `select` may have no `new` behind it and the first `new`
no argument list: what counts is that some later one has.

* `constructorPattern`: the pattern.
* `ConstructorParts`: a text as it is put together from the parts of the phrase.
* `isSome_search_constructorPattern_iff`, `hasConstructor_iff_parts`: pattern and detection, both by
  the parts of the text.
* `hasConstructor_exact`: the two agree on every text.
-/

namespace QueryTemplate

def constructorPattern : Pattern :=
  .seq .boundary <| .seq (.keyword "select".toList) <| .seq .boundary <|
    .seq (.star false fun _ => true) <| .seq .boundary <| .seq (.keyword "new".toList) <|
    .seq (.plus isBlank) <| .seq (.plus isPathChar) <| .seq (.star true isBlank) <| .one (· == '(')

/-- Parts that a text consists of, with a constructor call behind a `select`. -/
structure ConstructorParts (masked : Text) where
  front : Text
  select : Text
  between : Text
  new : Text
  gap : Text
  path : Text
  gap' : Text
  behind : Text
  whole : masked =
    front ++ (select ++ (between ++ (new ++ (gap ++ (path ++ (gap' ++ '(' :: behind))))))
  folded : select.map foldWide = "select".toList
  starts : startsWord front.getLast? = true
  ends : endsWord (between ++ (new ++ (gap ++ (path ++ (gap' ++ '(' :: behind))))) = true
  foldedNew : new.map foldWide = "new".toList
  startsNew : startsWord (front ++ (select ++ between)).getLast? = true
  isGap : IsRun isBlank gap
  isPath : IsRun isPathChar path
  blank : ∀ c ∈ gap', isBlank c = true

theorem hasConstructor_iff_parts {masked : Text} :
    hasConstructor masked = true ↔ Nonempty (ConstructorParts masked) := by
  rw [hasConstructor_iff]
  constructor
  · rintro ⟨_, _, ⟨rfl, ⟨front, select, between, rfl, folded, starts, ends⟩,
      ⟨new, gap, path, gap', behind, rfl, foldedNew, isGap, isPath, blank⟩⟩, startsNew⟩
    refine ⟨front, select, between, new, gap, path, gap', behind, ?_, folded, starts, ends,
      foldedNew, startsNew, isGap, isPath, blank⟩
    simp only [List.append_assoc]
  · rintro ⟨parts⟩
    refine ⟨parts.front ++ (parts.select ++ parts.between), _, ⟨?_,
      ⟨parts.front, parts.select, parts.between, rfl, parts.folded, parts.starts, parts.ends⟩,
      ⟨parts.new, parts.gap, parts.path, parts.gap', parts.behind, rfl, parts.foldedNew,
        parts.isGap, parts.isPath, parts.blank⟩⟩, parts.startsNew⟩
    simpa only [List.append_assoc] using parts.whole

/-- In front of a word, a boundary is where a word can start. -/
theorem boundary_iff_startsWord {before : Option Char} {text : Text}
    (begins : text.head?.any isWordChar = true) :
    before.any isWordChar ≠ text.head?.any isWordChar ↔ startsWord before = true := by
  rw [begins, startsWord]
  simp

/-- Behind a word, a boundary is where a word can end. -/
theorem boundary_iff_endsWord {before : Option Char} {text : Text}
    (word : before.any isWordChar = true) :
    before.any isWordChar ≠ text.head?.any isWordChar ↔ endsWord text = true := by
  rw [word, endsWord]
  cases text.head?.any isWordChar <;> simp

theorem isSome_search_constructorPattern_iff {masked : Text} :
    (constructorPattern.search none masked).isSome = true ↔
      Nonempty (ConstructorParts masked) := by
  rw [isSome_search_iff]
  simp only [constructorPattern, mem_attempts_seq, mem_attempts_boundary, mem_attempts_keyword,
    mem_attempts_star, mem_attempts_plus, mem_attempts_one, and_assoc, exists_eq_left]
  constructor
  · rintro ⟨front, rest, rfl, after, starts, behindSelect, ⟨select, folded, passesSelect⟩, ends,
      inFrontOfNew, ⟨between, -, passesBetween⟩, startsNew, behindNew, ⟨new, foldedNew, passesNew⟩,
      behindGap, ⟨gap, isGap, passesGap⟩, behindPath, ⟨path, isPath, passesPath⟩, opening,
      ⟨gap', blank, passesGap'⟩, c, parenthesis, passesOpening⟩
    have isSelect := isRun_of_spelling folded (by decide) (by decide)
    have isNew := isRun_of_spelling foldedNew (by decide) (by decide)
    have restNew : inFrontOfNew.rest =
        new ++ (gap ++ (path ++ (gap' ++ '(' :: after.rest))) := by
      rw [passesNew.rest, passesGap.rest, passesPath.rest, passesGap'.rest, passesOpening.rest,
        beq_iff_eq.1 parenthesis, List.singleton_append]
    have passesBoth := passes_append_iff.2 ⟨behindSelect, passesSelect, passesBetween⟩
    -- The keywords are words, so the boundaries say what their neighbours are.
    replace starts := (boundary_iff_startsWord (passesSelect.begins isSelect)).1 starts
    replace ends := (boundary_iff_endsWord (passesSelect.ends isSelect)).1 ends
    replace startsNew := (boundary_iff_startsWord (passesNew.begins isNew)).1 startsNew
    rw [Option.or_none] at starts
    rw [passesBetween.rest, restNew] at ends
    rw [passesBoth.before, Option.or_none, ← List.getLast?_append] at startsNew
    refine ⟨⟨front, select, between, new, gap, path, gap', after.rest, ?_, folded, starts, ends,
      foldedNew, startsNew, isGap, isPath, blank⟩⟩
    rw [← restNew, ← passesBetween.rest, ← passesSelect.rest]
  · rintro ⟨front, select, between, new, gap, path, gap', behind, rfl, folded, starts, ends,
      foldedNew, startsNew, isGap, isPath, blank⟩
    have isSelect := isRun_of_spelling folded (by decide) (by decide)
    have isNew := isRun_of_spelling foldedNew (by decide) (by decide)
    refine ⟨front, _, rfl, _, (boundary_iff_startsWord (isSelect.begins _)).2 ?_, _,
      ⟨select, folded, passes_append ..⟩,
      (boundary_iff_endsWord ((passes_append ..).ends isSelect)).2 ends, _,
      ⟨between, by simp, passes_append ..⟩, (boundary_iff_startsWord (isNew.begins _)).2 ?_, _,
      ⟨new, foldedNew, passes_append ..⟩, _, ⟨gap, isGap, passes_append ..⟩, _,
      ⟨path, isPath, passes_append ..⟩, _, ⟨gap', blank, passes_append ..⟩, '(', rfl,
      passes_append ['('] ..⟩
    · rw [Option.or_none]
      exact starts
    · simpa only [List.getLast?_append, Option.or_assoc, Option.or_none] using startsNew

/-- The detection of a constructor projection and the search for the pattern come to the same on
every text, and say that the text consists of the parts of the phrase. -/
theorem hasConstructor_exact (masked : Text) :
    hasConstructor masked = (constructorPattern.search none masked).isSome ∧
      (hasConstructor masked = true ↔ Nonempty (ConstructorParts masked)) := by
  refine ⟨?_, hasConstructor_iff_parts⟩
  rw [Bool.eq_iff_iff, hasConstructor_iff_parts, isSome_search_constructorPattern_iff]

/-- The call is found behind another `new`, and the keyword is a word of its own. -/
example :
    (constructorPattern.search none "SELECT new a, New\na.B (x)".toList).isSome = true ∧
      (constructorPattern.search none "select anew a.B(x)".toList).isSome = false := by
  decide +kernel

end QueryTemplate
