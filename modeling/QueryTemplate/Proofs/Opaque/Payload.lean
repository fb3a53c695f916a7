import QueryTemplate.Proofs.Opaque.Masking

/-! # Expressions and the shape of a query

The scan passes over the payload of an expression, but the masking does not: the alias and the
constructor projection of a query are found inside payloads too. Two payloads are interchangeable
there exactly when their masked forms have the same outline.

* `ReadsExpression`: a place of a template where an expression is read.
* `InterchangeablePayloads`: payloads that can take each other's place there.
* `Masks.mask_expression`, `outline_expression`: the masked template around a payload, and its
  outline.
* `payload_exchange_iff`: when the payload does not matter to the alias and the projection.
-/

namespace QueryTemplate

/-- Behind `pre`, the scan of the template reads an expression with the payload, in front of `post`.
By then it has found the markers. The wildcard that the marker starts with belongs to `pre`. -/
def ReadsExpression (options : Options) (found : List Marker) (pre : Text) (sigil : Char)
    (payload post : Text) : Prop :=
  ∃ before leading tail target, pre = before ++ Marker.wildcard leading ∧
    Reaches options 0 before (Marker.wildcard leading ++ (embedding sigil payload ++ post)) found
      tail ∧
    readingAt tail.getLast? (Marker.wildcard leading ++ (embedding sigil payload ++ post)) =
      .found target (embedding sigil payload) post ∧
    target.expression? = some payload

/-- Wherever the first payload is read behind markers with closed payloads, the second one can be
put in its place: the query has the same alias and agrees on a projection. -/
def InterchangeablePayloads (options : Options) (payload payload' : Text) : Prop :=
  ∀ found pre sigil post, ReadsExpression options found pre sigil payload post →
    EveryPayload (Closed options.skipComments) found →
    SameShape options (pre ++ (embedding sigil payload ++ post))
      (pre ++ (embedding sigil payload' ++ post))

/-! ## The masked template -/

section Masks

variable {skipComments : Bool} {pre payload post first masked : Text} {sigil : Char}

theorem Masks.mask_eq_of_closed (masks : Masks skipComments payload ['}'] masked) :
    mask skipComments payload = masked := by
  have alone : Masks skipComments payload [] masked := masks.exchange ⟨nofun, .inr nofun⟩
  simpa using alone.mask_eq

theorem Masks.mask_expression
    (masksPre : Masks skipComments pre (embedding sigil payload ++ post) first)
    (masks : Masks skipComments payload ['}'] masked) (mark : isMark sigil = true) :
    mask skipComments (pre ++ (embedding sigil payload ++ post)) =
      first ++ (embedding sigil masked ++ mask skipComments post) := by
  rw [masksPre.mask_eq, (masks.embeds mark post).mask_eq]

/-- The braces around a payload are barriers. -/
theorem outline_expression (first masked last : Text) (sigil : Char) :
    outline (first ++ (embedding sigil masked ++ last)) =
      (outline (first ++ [sigil, '#'])).append ((outline masked).append (outline last)) := by
  have split : first ++ (embedding sigil masked ++ last) =
      (first ++ [sigil, '#']) ++ '{' :: (masked ++ '}' :: last) := by
    simp [embedding]
  have barrier : isBarrier '{' = true ∧ isBarrier '}' = true := by decide
  rw [split, outline_append barrier.1, outline_append barrier.2]

end Masks

/-! ## A payload in the place of a payload -/

theorem ReadsExpression.exists_masks {options : Options} {found : List Marker}
    {pre payload post : Text} {sigil : Char}
    (reads : ReadsExpression options found pre sigil payload post)
    (closed : EveryPayload (Closed options.skipComments) found) :
    isMark sigil = true ∧
      ∃ first, Masks options.skipComments pre (embedding sigil payload ++ post) first := by
  obtain ⟨before, leading, tail, target, rfl, reaches, reading, -⟩ := reads
  constructor
  · rw [readingAt] at reading
    have sameSigil : some sigil = some target.sigil := (sigil_of_readTarget reading).1
    rw [Option.some.inj sameSigil]
    exact target.isMark_sigil
  · obtain ⟨first, masks⟩ := reaches.exists_masks closed
    exact ⟨_, masks.append (masks_of_opensNone opensRegion_of_wildcard _)⟩

theorem ReadsExpression.sameShape {options : Options} {found : List Marker}
    {pre payload payload' post : Text} {sigil : Char}
    (reads : ReadsExpression options found pre sigil payload post)
    (closedBefore : EveryPayload (Closed options.skipComments) found)
    (closed : Closed options.skipComments payload)
    (closed' : Closed options.skipComments payload')
    (same : outline (mask options.skipComments payload) =
      outline (mask options.skipComments payload')) :
    SameShape options (pre ++ (embedding sigil payload ++ post))
      (pre ++ (embedding sigil payload' ++ post)) := by
  obtain ⟨mark, first, masksPre⟩ := reads.exists_masks closedBefore
  obtain ⟨masked, masks⟩ := closed
  obtain ⟨masked', masks'⟩ := closed'
  have masksPre' : Masks options.skipComments pre (embedding sigil payload' ++ post) first :=
    masksPre.exchange ⟨nofun, .inl rfl⟩
  apply sameShape_of_outline_eq
  rw [masks.mask_eq_of_closed, masks'.mask_eq_of_closed] at same
  rw [masksPre.mask_expression masks mark, masksPre'.mask_expression masks' mark,
    outline_expression, outline_expression, same]

/-! ## Payloads between plain texts -/

section Plain

variable {options : Options} {pre payload payload' post : Text}

theorem masks_of_plain {skipComments : Bool} {text : Text} (plain : text.all isPlain = true)
    (rest : Text) : Masks skipComments text rest text :=
  masks_of_opensNone (fun c member => opensRegion_of_isPlain (List.all_eq_true.1 plain c member))
    rest

variable (plainPre : pre.all isPlain = true)

include plainPre

theorem reading_between_plain (balanced : Balanced payload) (post : Text) :
    readingAt pre.getLast? (embedding ':' payload ++ post) =
      .found (.namedExpression payload) (embedding ':' payload) post := by
  have noCast : pre.getLast? = some ':' → (Target.namedExpression payload).sigil ≠ ':' := by
    intro colon
    have plain := List.all_eq_true.1 plainPre ':' (List.mem_of_getLast? colon)
    cases plain
  have wild : (embedding ':' payload ++ post).head? ≠ some '%' := by simp [embedding]
  rw [readingAt_of_ne wild]
  exact readTarget_embedding rfl noCast (payload?_balanced balanced post)

theorem readsExpression_between_plain (balanced : Balanced payload) (post : Text) :
    ReadsExpression options [] pre ':' payload post := by
  have reaches : Reaches options 0 pre (embedding ':' payload ++ post) [] pre :=
    .literal (unmarked_of_plain plainPre _)
  exact ⟨pre, false, pre, .namedExpression payload, (List.append_nil pre).symm, reaches,
    reading_between_plain plainPre balanced post, rfl⟩

theorem exists_parse_between_plain (valid : options.Valid) (balanced : Balanced payload)
    (plainPost : post.all isPlain = true) :
    ∃ query, (Query.parse options (pre ++ (embedding ':' payload ++ post))).outcome =
      .ok query := by
  have reading := reading_between_plain plainPre balanced post
  rw [← List.head?_reverse] at reading
  have noWildcard : (post.head? == some '%') = false := by
    cases post with
    | nil => rfl
    | cons c post =>
      have noMark := isMark_of_isPlain (List.all_eq_true.1 plainPost c List.mem_cons_self)
      have noPercent : c ≠ '%' := by
        rintro rfl
        cases noMark
      simpa using noPercent
  obtain ⟨marker, target, taken⟩ : ∃ marker, marker.target = .namedExpression payload ∧
      markerAt options (0 + pre.byteSize) pre.reverse (embedding ':' payload ++ post) =
        .ok (some (marker, dropWildcard (post.head? == some '%') post)) :=
    ⟨_, rfl, markerAt_of_found reading⟩
  rw [noWildcard] at taken
  have segments := Segments.marker (unmarked_of_plain plainPre _) taken
    (.last (unmarked_of_plain plainPost []))
  refine exists_parse_ok segments.scanFrom_eq valid (unopposed_iff.2 ?_)
  rw [markers_literalSpan, markers_marker, markers_last, occurrences, target]
  -- One marker alone gets a name and has nothing to disagree with.
  refine ⟨?_, ?_⟩
  · intro occurrence member
    obtain rfl := List.mem_singleton.1 member
    rfl
  · intro first member second member' _
    rw [List.mem_singleton.1 member, List.mem_singleton.1 member']

/-- What the query between plain texts shows of the outline of a payload. -/
theorem shape_between_plain (plainPost : post.all isPlain = true)
    (closed : Closed options.skipComments payload) {query : Query}
    (parsed : (Query.parse options (pre ++ (embedding ':' payload ++ post))).outcome = .ok query) :
    let whole := (outline (pre ++ [':', '#'])).append
      ((outline (mask options.skipComments payload)).append (outline post))
    query.rootAlias = whole.alias? ∧ query.constructs = whole.projects := by
  obtain ⟨masked, masks⟩ := closed
  have maskPost : mask options.skipComments post = post := by
    simpa using (masks_of_plain plainPost []).mask_eq
  obtain ⟨named, built⟩ := masked_of_parse_ok parsed
  rw [(masks_of_plain plainPre _).mask_expression masks rfl, maskPost] at named built
  rw [findAlias?_eq, outline_expression] at named
  rw [hasConstructor_eq, outline_expression] at built
  rw [masks.mask_eq_of_closed]
  exact ⟨named, built⟩

end Plain

/-! ## When the payload does not matter -/

section Exchange

variable {options : Options} {payload payload' : Text}

theorem interchangeable_of_outline_eq (closed : Closed options.skipComments payload)
    (closed' : Closed options.skipComments payload')
    (same : outline (mask options.skipComments payload) =
      outline (mask options.skipComments payload')) :
    InterchangeablePayloads options payload payload' :=
  fun _ _ _ _ reads closedBefore => reads.sameShape closedBefore closed closed' same

variable (valid : options.Valid) (balanced : Balanced payload) (balanced' : Balanced payload')
  (closed : Closed options.skipComments payload) (closed' : Closed options.skipComments payload')
  (exchange : InterchangeablePayloads options payload payload')

include valid balanced balanced' closed closed' exchange

/-- Between plain texts, two payloads give queries whose outlines show the same. -/
theorem InterchangeablePayloads.between_plain {pre post : Text}
    (plainPre : pre.all isPlain = true) (plainPost : post.all isPlain = true) :
    let whole (payload : Text) := (outline (pre ++ [':', '#'])).append
      ((outline (mask options.skipComments payload)).append (outline post))
    (whole payload).alias? = (whole payload').alias? ∧
      (whole payload).projects = (whole payload').projects := by
  have reads : ReadsExpression options [] pre ':' payload post :=
    readsExpression_between_plain plainPre balanced post
  obtain ⟨query, parsed⟩ := exists_parse_between_plain plainPre valid balanced plainPost
  obtain ⟨query', parsed'⟩ := exists_parse_between_plain plainPre valid balanced' plainPost
  obtain ⟨sameAlias, sameProjection⟩ :=
    exchange [] pre ':' post reads nofun query query' parsed parsed'
  obtain ⟨named, built⟩ := shape_between_plain plainPre plainPost closed parsed
  obtain ⟨named', built'⟩ := shape_between_plain plainPre plainPost closed' parsed'
  rw [named, named'] at sameAlias
  rw [built, built'] at sameProjection
  exact ⟨sameAlias.symm, sameProjection.symm⟩

/-- Four pairs of plain texts around the payloads show everything there is in their outlines. -/
theorem InterchangeablePayloads.outline_eq :
    outline (mask options.skipComments payload) =
      outline (mask options.skipComments payload') := by
  have observed (pre post : Text) (plainPre : pre.all isPlain = true)
      (plainPost : post.all isPlain = true) :=
    exchange.between_plain valid balanced balanced' closed closed' plainPre plainPost
  have start : outline ([] ++ [':', '#']) = outline [] := by decide
  have place : (outline " from A b".toList).place = some (some ['b']) := by decide
  have call : (outline " new A(".toList).calls = true ∧
      (outline " new A(".toList).projects = false := by decide
  have select : (outline ("select ".toList ++ [':', '#'])).selects = true ∧
      (outline ("select ".toList ++ [':', '#'])).projects = false := by decide
  obtain ⟨alone, projects⟩ := observed [] [] List.all_nil List.all_nil
  obtain ⟨followed, -⟩ := observed [] " from A b".toList List.all_nil (by decide)
  obtain ⟨-, selects⟩ := observed [] " new A(".toList List.all_nil (by decide)
  obtain ⟨-, calls⟩ := observed "select ".toList [] (by decide) List.all_nil
  simp only [start, Outline.nil_append, Outline.append_nil] at alone projects followed selects calls
  simp only [Outline.alias?, Outline.append, place] at followed
  simp only [Outline.append, call, Bool.or_true] at selects
  simp only [Outline.append, select, if_true, Bool.false_or] at calls
  exact Outline.eq_of_observed alone followed (by simpa using selects) calls projects

end Exchange

/-- Payloads in which quoted texts and comments are closed can be exchanged if and only if their
masked forms have the same outline. -/
theorem payload_exchange_iff {options : Options} (valid : options.Valid) {payload payload' : Text}
    (balanced : Balanced payload) (balanced' : Balanced payload')
    (closed : Closed options.skipComments payload)
    (closed' : Closed options.skipComments payload') :
    InterchangeablePayloads options payload payload' ↔
      outline (mask options.skipComments payload) =
        outline (mask options.skipComments payload') := by
  constructor
  · intro exchange
    exact exchange.outline_eq valid balanced balanced' closed closed'
  · intro same
    exact interchangeable_of_outline_eq closed closed' same

theorem payload_exchange_clause :
    InterchangeablePayloads {} "a".toList "b or c".toList ∧
      ¬InterchangeablePayloads {} "a".toList "from A b".toList := by
  have first : Transparent false "a".toList := ⟨by decide, by decide, nofun, nofun⟩
  have second : Transparent false "b or c".toList := ⟨by decide, by decide, nofun, nofun⟩
  have third : Transparent false "from A b".toList := ⟨by decide, by decide, nofun, nofun⟩
  have balanced : Balanced "a".toList := balanced_of_noBraces (by decide) (by decide)
  have balanced' : Balanced "b or c".toList := balanced_of_noBraces (by decide) (by decide)
  have balanced'' : Balanced "from A b".toList := balanced_of_noBraces (by decide) (by decide)
  have harmless := @payload_exchange_iff {} (by decide) _ _ balanced balanced' first.closed
    second.closed
  have clause := @payload_exchange_iff {} (by decide) _ _ balanced balanced'' first.closed
    third.closed
  rw [first.masks.mask_eq_of_closed, second.masks.mask_eq_of_closed] at harmless
  rw [first.masks.mask_eq_of_closed, third.masks.mask_eq_of_closed] at clause
  refine ⟨harmless.2 (by decide), fun exchange => ?_⟩
  have same := clause.1 exchange
  revert same
  decide

/-- The payload of an expression gives the query an alias. -/
theorem payload_names_root :
    (Query.parse {} (embedding ':' "a".toList)).outcome.map Query.rootAlias = .ok none ∧
      (Query.parse {} (embedding ':' "from A b".toList)).outcome.map Query.rootAlias =
        .ok (some ['b']) :=
  ⟨eq_ok_of_toOption (by decide +kernel), eq_ok_of_toOption (by decide +kernel)⟩

end QueryTemplate
