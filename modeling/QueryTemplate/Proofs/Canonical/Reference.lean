import QueryTemplate.Proofs.Binding.Agreement
import QueryTemplate.Proofs.Canonical.Place

/-! # What the executable query refers to

A marker of the executable query should refer to what its place in the template is bound to. It does
so exactly when the text that comes to stand behind it does not go on with its name or its digits.

* `targetsFrom`: the targets of the markers that a scan finds.
* `targetsFrom_congr`: of what the scan has seen, only a colon at the end matters to the targets.
* `Separated`: no marker is read together with the text behind it.
* `Segments.targetsFrom_canonicalText`: what a scan of the executable query finds.
* `canonical_refers_iff`: the same for a template that is parsed.
-/

namespace QueryTemplate

/-! ## The targets of a scan -/

def targetsFrom (options : Options) (offset : Nat) (seen text : Text) : Option (List Target) :=
  (scanFrom options offset seen text).toOption.map fun spans => (markers spans).map (·.target)

theorem targetsFrom_eq_some_iff {options : Options} {offset : Nat} {seen text : Text}
    {targets : List Target} :
    targetsFrom options offset seen text = some targets ↔
      ∃ spans, scanFrom options offset seen text = .ok spans ∧
        (markers spans).map (·.target) = targets := by
  rw [targetsFrom]
  cases scanFrom options offset seen text with
  | error error => simp [Except.toOption]
  | ok spans => simp [Except.toOption]

section Steps

variable {options : Options} {offset : Nat} {seen text rest : Text}

theorem targetsFrom_nil : targetsFrom options offset seen [] = some [] := by
  simp [targetsFrom, scanFrom_nil, Except.toOption, markers_last]

theorem targetsFrom_of_region {region after : Text}
    (found : splitOpaque? options.skipComments text = some (region, after)) :
    targetsFrom options offset seen text =
      targetsFrom options (offset + region.byteSize) (region.reverse ++ seen) after := by
  unfold targetsFrom
  rw [scanFrom_of_region found]

theorem targetsFrom_of_absent {c : Char}
    (clear : splitOpaque? options.skipComments (c :: rest) = none)
    (absent : readingAt seen.head? (c :: rest) = .absent) :
    targetsFrom options offset seen (c :: rest) =
      targetsFrom options (offset + c.utf8Size) (c :: seen) rest := by
  unfold targetsFrom
  rw [scanFrom_of_clear clear (markerAt_eq_ok_none_iff.2 absent)]

/-- A marker gives its target, and the scan goes on behind it and its wildcard. -/
theorem targetsFrom_of_found {target : Target} {written : Text}
    (found : readingAt seen.head? text = .found target written rest) :
    ∃ stop, targetsFrom options offset seen text =
      (targetsFrom options stop [] (dropWildcard (rest.head? == some '%') rest)).map
        (target :: ·) := by
  have clear : splitOpaque? options.skipComments text = none :=
    splitOpaque?_eq_none_of_readingAt (by rw [found]; simp)
  obtain ⟨marker, same, taken⟩ : ∃ marker, marker.target = target ∧
      markerAt options offset seen text =
        .ok (some (marker, dropWildcard (rest.head? == some '%') rest)) :=
    ⟨_, rfl, markerAt_of_found found⟩
  refine ⟨marker.stop, ?_⟩
  unfold targetsFrom
  rw [scanFrom_of_marker clear taken]
  cases scanFrom options marker.stop [] (dropWildcard (rest.head? == some '%') rest) with
  | error error => rfl
  | ok spans => simp [Except.map, Except.toOption, markers_literalSpan, same]

theorem targetsFrom_of_failure
    (failed : readingAt seen.head? text = .unterminated ∨
      readingAt seen.head? text = .badPosition) :
    targetsFrom options offset seen text = none := by
  have clear : splitOpaque? options.skipComments text = none :=
    splitOpaque?_eq_none_of_readingAt (by rcases failed with same | same <;> rw [same] <;> simp)
  cases outcome : markerAt options offset seen text with
  | error error =>
    rw [targetsFrom]
    rw [scanFrom_of_error clear outcome]
    rfl
  | ok result =>
    exfalso
    cases result with
    | none =>
      have absent := markerAt_eq_ok_none_iff.1 outcome
      obtain same | same := failed <;> rw [same] at absent <;> cases absent
    | some result =>
      obtain ⟨rest, place⟩ := taken_of_markerAt outcome
      have found := place.found
      obtain same | same := failed <;> rw [same] at found <;> cases found

end Steps

/-! ## What the targets do not depend on -/

theorem readingAt_congr {before before' : Option Char}
    (same : before = some ':' ↔ before' = some ':') (text : Text) :
    readingAt before text = readingAt before' text := by
  unfold readingAt
  split
  · rfl
  · exact readTarget_congr same _

/-- Offsets do not matter, and of the text before only a colon at its end does. -/
theorem targetsFrom_congr {options : Options} {offset offset' : Nat} {seen seen' text : Text}
    (same : seen.head? = some ':' ↔ seen'.head? = some ':') :
    targetsFrom options offset seen text = targetsFrom options offset' seen' text := by
  match text with
  | [] => rw [targetsFrom_nil, targetsFrom_nil]
  | c :: rest =>
    cases found : splitOpaque? options.skipComments (c :: rest) with
    | some split =>
      obtain ⟨region, after⟩ := split
      have shorter := splitOpaque?_length_lt found
      -- Behind a region, both scans have seen the end of the region.
      have ends : (region.reverse ++ seen).head? = (region.reverse ++ seen').head? := by
        obtain ⟨last, lastOfRegion⟩ : ∃ last, region.reverse.head? = some last := by
          rw [List.head?_reverse]
          exact ⟨_, List.getLast?_eq_some_getLast (splitOpaque?_ne_nil found)⟩
        simp [List.head?_append, lastOfRegion]
      rw [targetsFrom_of_region found, targetsFrom_of_region found]
      exact targetsFrom_congr (by rw [ends])
    | none =>
      have alike := readingAt_congr same (c :: rest)
      cases reading : readingAt seen.head? (c :: rest) with
      | absent =>
        rw [targetsFrom_of_absent found reading, targetsFrom_of_absent found (alike ▸ reading)]
        exact targetsFrom_congr Iff.rfl
      | found target written later =>
        have shorter : (dropWildcard (later.head? == some '%') later).length <
            (c :: rest).length :=
          markerAt_length_lt (@markerAt_of_found options 0 _ _ _ _ _ reading)
        obtain ⟨stop, one⟩ := @targetsFrom_of_found options offset _ _ _ _ _ reading
        obtain ⟨stop', two⟩ := @targetsFrom_of_found options offset' _ _ _ _ _ (alike ▸ reading)
        rw [one, two, targetsFrom_congr Iff.rfl]
      | unterminated =>
        rw [targetsFrom_of_failure (.inl reading), targetsFrom_of_failure (.inl (alike ▸ reading))]
      | badPosition =>
        rw [targetsFrom_of_failure (.inr reading), targetsFrom_of_failure (.inr (alike ▸ reading))]
termination_by text.length
decreasing_by
  all_goals first
    | exact shorter
    | simp

/-- A `%` at the start can be taken for a wildcard of an earlier marker. -/
theorem targetsFrom_percent {options : Options} {offset offset' : Nat} (text : Text) :
    targetsFrom options offset [] ('%' :: text) = targetsFrom options offset' [] text := by
  have clear : splitOpaque? options.skipComments ('%' :: text) = none :=
    splitOpaque?_eq_none_of_isMark rfl
  have alike : readTarget (some '%') text = .absent ∨ readingAt none text =
      readTarget (some '%') text := by
    by_cases percent : text.head? = some '%'
    · left
      obtain ⟨rest, rfl⟩ := List.head?_eq_some_iff.1 percent
      rfl
    · right
      have read := readingAt_congr (by simp : none = some ':' ↔ some '%' = some ':') text
      rw [read, readingAt_of_ne percent]
  cases reading : readTarget (some '%') text with
  | absent =>
    rw [targetsFrom_of_absent clear reading]
    exact targetsFrom_congr (by simp)
  | found target written later =>
    have bare : readingAt none text = .found target written later := by simpa [reading] using alike
    obtain ⟨stop, one⟩ := @targetsFrom_of_found options offset [] ('%' :: text) _ _ _ reading
    obtain ⟨stop', two⟩ := @targetsFrom_of_found options offset' [] text _ _ _ bare
    rw [one, two, targetsFrom_congr Iff.rfl]
  | unterminated =>
    have bare : readingAt none text = .unterminated := by simpa [reading] using alike
    rw [@targetsFrom_of_failure _ _ [] ('%' :: text) (.inl reading),
      @targetsFrom_of_failure _ _ [] text (.inl bare)]
  | badPosition =>
    have bare : readingAt none text = .badPosition := by simpa [reading] using alike
    rw [@targetsFrom_of_failure _ _ [] ('%' :: text) (.inr reading),
      @targetsFrom_of_failure _ _ [] text (.inr bare)]

theorem found_of_targetsFrom {options : Options} {offset : Nat} {seen text : Text}
    {target : Target} {later : List Target} (present : readingAt seen.head? text ≠ .absent)
    (targets : targetsFrom options offset seen text = some (target :: later)) :
    ∃ written rest, readingAt seen.head? text = .found target written rest := by
  cases reading : readingAt seen.head? text with
  | absent => contradiction
  | found other written rest =>
    obtain ⟨stop, found⟩ := @targetsFrom_of_found options offset _ _ _ _ _ reading
    rw [found, Option.map_eq_some_iff] at targets
    obtain ⟨_, _, same⟩ := targets
    rw [(List.cons.inj same).1]
    exact ⟨written, rest, rfl⟩
  | unterminated =>
    rw [targetsFrom_of_failure (.inl reading)] at targets
    cases targets
  | badPosition =>
    rw [targetsFrom_of_failure (.inr reading)] at targets
    cases targets

theorem targetsFrom_dropWildcard {options : Options} {offset offset' : Nat} (text : Text) :
    targetsFrom options offset [] (dropWildcard (text.head? == some '%') text) =
      targetsFrom options offset' [] text := by
  cases percent : text.head? == some '%' with
  | false => exact targetsFrom_congr Iff.rfl
  | true =>
    obtain ⟨rest, rfl⟩ := List.head?_eq_some_iff.1 (by simpa using percent)
    exact (targetsFrom_percent rest).symm

/-! ## Separated markers -/

/-- Behind each marker that ends anew stands the end of the template or a character that would not
go on with its name or its digits. -/
def Separated : List Span → Prop
  | [] => True
  | .literal _ :: rest => Separated rest
  | .marker marker :: rest =>
    (marker.endsAnew = true →
      (rest.flatMap Span.raw).head?.any marker.target.isInside = false) ∧ Separated rest

instance Separated.decidable : (spans : List Span) → Decidable (Separated spans)
  | [] => .isTrue trivial
  | .literal _ :: rest => Separated.decidable rest
  | .marker marker :: rest =>
    have : Decidable (Separated rest) := Separated.decidable rest
    inferInstanceAs (Decidable ((marker.endsAnew = true →
      (rest.flatMap Span.raw).head?.any marker.target.isInside = false) ∧ Separated rest))

theorem separated_literalSpan (seen : Text) (spans : List Span) :
    Separated (literalSpan seen ++ spans) ↔ Separated spans := by
  cases seen with
  | nil => rfl
  | cons c seen => rfl

theorem Taken.targetsFrom_placed {options : Options} {offset : Nat}
    {literal text rest after : Text} {marker : Marker} {identifier : Identifier}
    (unmarked : Unmarked options.skipComments none literal text)
    (taken : Taken options offset literal.reverse text marker rest after)
    (suits : Suits marker.target identifier) (tail : Text) (later : List Target) :
    targetsFrom options 0 [] (literal ++ (marker.placed identifier ++ tail)) =
        some (identifier.target :: later) ↔
      (Marker.wildcard marker.keptTrailing ++ tail).head?.any identifier.target.isInside = false ∧
        targetsFrom options 0 [] tail = some later := by
  have passed : targetsFrom options 0 [] (literal ++ (marker.placed identifier ++ tail)) =
      targetsFrom options (0 + literal.byteSize) (literal.reverse ++ [])
        (marker.placed identifier ++ tail) := by
    unfold targetsFrom
    rw [(unmarked.placed taken suits tail).scanFrom_eq rfl]
  have spells := taken.spells suits
  have noCast := taken.noCast suits
  have reading := taken.readingAt_placed suits tail
  rw [passed, List.append_nil]
  cases stops : (Marker.wildcard marker.keptTrailing ++ tail).head?.any
      identifier.target.isInside with
  | false =>
    rw [spells.readTarget_eq noCast stops] at reading
    obtain ⟨stop, found⟩ := @targetsFrom_of_found options (0 + literal.byteSize) _ _ _ _ _ reading
    -- The `%` at the start of the tail may be taken along; no target depends on it.
    have goesOn := calc
      targetsFrom options stop []
          (dropWildcard ((Marker.wildcard marker.keptTrailing ++ tail).head? == some '%')
            (Marker.wildcard marker.keptTrailing ++ tail))
        = targetsFrom options 0 [] (Marker.wildcard marker.keptTrailing ++ tail) :=
          targetsFrom_dropWildcard _
      _ = targetsFrom options 0 [] tail := by
          cases marker.keptTrailing with
          | true => exact targetsFrom_percent tail
          | false => rfl
    rw [found, goesOn]
    simp
  | true =>
    simp only [Bool.true_eq_false, false_and, iff_false]
    -- Something longer than the spelling is read, and it has another target.
    intro respelled
    have present : readingAt literal.reverse.head? (marker.placed identifier ++ tail) ≠
        .absent := by
      rw [reading]
      exact spells.readTarget_ne_absent noCast _
    obtain ⟨written, behind, found⟩ := found_of_targetsFrom present respelled
    rw [reading] at found
    exact spells.target_ne stops found rfl

/-- The executable query can be scanned, and its markers spell the identifiers one after the other,
exactly when the markers are separated. -/
theorem Segments.targetsFrom_canonicalText {options : Options} {offset : Nat} {text : Text}
    {spans : List Span} (segments : Segments options offset text spans)
    {identifiers : List Identifier}
    (suits : List.Forall₂ Suits ((markers spans).map (·.target)) identifiers) :
    targetsFrom options 0 [] (canonicalText (dress spans identifiers)) =
      some (identifiers.map Identifier.target) ↔ Separated spans := by
  induction segments generalizing identifiers with
  | @last offset literal unmarked =>
    rw [markers_last, List.map_nil, List.forall₂_nil_left_iff] at suits
    subst suits
    have separated : Separated (literalSpan literal.reverse) := by
      have appended := (separated_literalSpan literal.reverse []).2 trivial
      rw [List.append_nil] at appended
      exact appended
    have passed : targetsFrom options 0 [] (literal ++ []) = some [] := by
      rw [targetsFrom]
      rw [unmarked.scanFrom_eq rfl]
      exact targetsFrom_nil
    rw [List.append_nil] at passed
    rw [canonicalText_dress_last]
    exact ⟨fun _ => separated, fun _ => passed⟩
  | @marker offset literal text after marker spans unmarked taken behind inductionHypothesis =>
    rw [markers_literalSpan, markers_marker, List.map_cons] at suits
    obtain ⟨identifier, later, suitsFirst, suitsLater, rfl⟩ := List.forall₂_cons_left_iff.1 suits
    obtain ⟨rest, place⟩ := taken_of_markerAt taken
    have head := behind.head?_canonicalText suitsLater
    rw [canonicalText_dress_literalSpan, canonicalText_dress_marker, List.map_cons,
      place.targetsFrom_placed unmarked suitsFirst, inductionHypothesis suitsLater,
      place.stops_iff suitsFirst head, separated_literalSpan, Separated, behind.flatMap_raw]

/-! ## Parsed templates -/

/-- The markers of the executable query refer, one by one, to what the markers of the template were
bound to exactly when the markers are separated. -/
theorem canonical_refers_iff {options : Options} {template : Text} {query : Query}
    (parsed : (Query.parse options template).outcome = .ok query) :
    ∃ spans, scan options template = .ok spans ∧
      ((∃ again, scan options query.canonical = .ok again ∧
          (markers again).map (fun marker => some marker.target) =
            (occurrences (Naming.ofSpans options.stem spans) (markers spans)).map
              (·.identity.map Identifier.target)) ↔
        Separated spans) := by
  obtain ⟨valid, spans, cut⟩ := scan_of_parse_ok parsed
  refine ⟨spans, cut, ?_⟩
  obtain ⟨unopposed, -, written⟩ := bound_of_parse_ok cut parsed
  have suits := suits_occurrences (Naming.sound_ofSpans valid spans) unopposed.isSome
  have referred :
      (occurrences (Naming.ofSpans options.stem spans) (markers spans)).map
          (·.identity.map Identifier.target) =
        ((identifiersOf options.stem spans).map Identifier.target).map some := by
    have identities := congrArg (List.map (Option.map Identifier.target))
      (map_identity unopposed.isSome)
    simpa [identifiersOf, Function.comp_def] using identities
  have read (again : List Span) : (markers again).map (fun marker => some marker.target) =
      ((markers again).map (·.target)).map some := by
    rw [List.map_map]
    rfl
  have injective : Function.Injective (List.map (some : Target → Option Target)) :=
    List.map_injective_iff.2 fun _ _ same => Option.some.inj same
  have respelled := (segments_of_scanFrom cut).targetsFrom_canonicalText suits
  rw [targetsFrom_eq_some_iff] at respelled
  rw [← respelled, referred, written]
  simp only [read, injective.eq_iff]
  exact Iff.rfl

theorem canonical_refers_expression :
    ∃ spans again, scan {} ":#{a} or".toList = .ok spans ∧ Separated spans ∧
      scan {} ":__synthetic__1 or".toList = .ok again ∧
      (markers again).map (fun marker => some marker.target) =
        (occurrences (Naming.ofSpans defaultStem spans) (markers spans)).map
          (·.identity.map Identifier.target) := by
  have parsed : (Query.parse {} ":#{a} or".toList).outcome = .ok
      { template := ":#{a} or".toList
        canonical := ":__synthetic__1 or".toList
        bindings := [⟨.name "__synthetic__1".toList, .simple, some ['a']⟩]
        constructs := false
        rootAlias := none } :=
    eq_ok_of_toOption (by decide +kernel)
  have cut : scan {} ":#{a} or".toList = .ok
      [.marker ⟨0, ":#{a}".toList, .namedExpression ['a'], false, false, .plain, none⟩,
        .literal " or".toList] :=
    eq_ok_of_toOption (by decide +kernel)
  obtain ⟨spans, cut', refers⟩ := canonical_refers_iff parsed
  rw [cut] at cut'
  cases cut'
  have separated : Separated
      [.marker ⟨0, ":#{a}".toList, .namedExpression ['a'], false, false, .plain, none⟩,
        .literal " or".toList] := by decide
  obtain ⟨again, rescanned, same⟩ := refers.2 separated
  exact ⟨_, again, cut, separated, rescanned, same⟩

/-- A letter behind an expression becomes part of the minted name, and nothing is bound to that. -/
theorem canonical_refers_elsewhere :
    ∃ query again, (Query.parse {} ":#{a}b".toList).outcome = .ok query ∧
      query.bindings.map (·.identifier) = [.name "__synthetic__1".toList] ∧
      scan {} query.canonical = .ok again ∧
      (markers again).map (·.target) = [.named "__synthetic__1b".toList] := by
  refine ⟨{ template := ":#{a}b".toList
            canonical := ":__synthetic__1b".toList
            bindings := [⟨.name "__synthetic__1".toList, .simple, some ['a']⟩]
            constructs := false
            rootAlias := none },
    [.marker ⟨0, ":__synthetic__1b".toList, .named "__synthetic__1b".toList, false, false,
      .plain, none⟩], ?_, rfl, ?_, rfl⟩
  · exact eq_ok_of_toOption (by decide +kernel)
  · exact eq_ok_of_toOption (by decide +kernel)

end QueryTemplate
