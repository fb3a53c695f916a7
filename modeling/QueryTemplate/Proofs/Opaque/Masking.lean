import QueryTemplate.Proofs.Binding.Agreement
import QueryTemplate.Proofs.Shape.Outline
import QueryTemplate.Proofs.Template.Reached

/-! # Masking up to a place

The masking of a template passes over markers like over any other text. It stands outside quoted
text and comments at a place that the scan reaches, unless it has entered one inside the expression
of a marker.

* `Masks`: what the masking leaves of a first part, in front of a given rest.
* `Masks.mask_eq`: the masked form of the whole.
* `Masks.exchange`: the rest can be exchanged for one that starts alike.
* `SameShape`, `sameShape_of_outline_eq`: queries with the same alias that agree on a projection.
* `Closed`, `Transparent`: payloads behind which the masking stands outside, and payloads in which
  it never stands anywhere else.
* `Taken.exists_masks`, `Taken.masks_raw`: the masking of a marker.
* `Reaches.exists_masks`: the masking of what the scan has passed over.
-/

namespace QueryTemplate

inductive Masks (skipComments : Bool) : Text → Text → Text → Prop where
  | nil {rest : Text} : Masks skipComments [] rest []
  | region {region text rest masked : Text}
      (found : splitOpaque? skipComments (region ++ (text ++ rest)) = some (region, text ++ rest))
      (behind : Masks skipComments text rest masked) :
      Masks skipComments (region ++ text) rest (' ' :: masked)
  | clear {c : Char} {text rest masked : Text}
      (clear : splitOpaque? skipComments (c :: (text ++ rest)) = none)
      (behind : Masks skipComments text rest masked) :
      Masks skipComments (c :: text) rest (c :: masked)

section Masks

variable {skipComments : Bool} {text text' rest after masked masked' : Text}

theorem Masks.mask_eq (masks : Masks skipComments text rest masked) :
    mask skipComments (text ++ rest) = masked ++ mask skipComments rest := by
  induction masks with
  | nil => rfl
  | region found _ inductionHypothesis =>
    rw [List.append_assoc, mask_of_region found, inductionHypothesis, List.cons_append]
  | clear clear _ inductionHypothesis =>
    rw [List.cons_append, mask_of_clear clear, inductionHypothesis, List.cons_append]

theorem Masks.append (first : Masks skipComments text (text' ++ rest) masked)
    (second : Masks skipComments text' rest masked') :
    Masks skipComments (text ++ text') rest (masked ++ masked') := by
  generalize whole : text' ++ rest = behind at first
  induction first with
  | nil => exact second
  | @region region text behind masked found _ inductionHypothesis =>
    subst whole
    rw [List.append_assoc]
    exact .region (by simpa using found) (inductionHypothesis rfl)
  | @clear c text behind masked clear _ inductionHypothesis =>
    subst whole
    exact .clear (by simpa using clear) (inductionHypothesis rfl)

theorem Masks.exchange (masks : Masks skipComments text rest masked)
    (alike : SameHead rest after) : Masks skipComments text after masked := by
  induction masks with
  | nil => exact .nil
  | @region region text rest masked found _ inductionHypothesis =>
    exact .region (splitOpaque?_behind found (alike.append text)) (inductionHypothesis alike)
  | @clear c text rest masked clear _ inductionHypothesis =>
    exact .clear (splitOpaque?_eq_none_behind clear (alike.append text))
      (inductionHypothesis alike)

theorem masks_of_opensNone (opensNone : ∀ c ∈ text, opensRegion c = false) (rest : Text) :
    Masks skipComments text rest text := by
  induction text with
  | nil => exact .nil
  | cons c text inductionHypothesis =>
    have clear : splitOpaque? skipComments (c :: (text ++ rest)) = none :=
      splitOpaque?_eq_none_of_opensNone (opensNone c List.mem_cons_self) _
    exact .clear clear (inductionHypothesis fun d member => opensNone d (.tail c member))

theorem Unmarked.exists_masks {before : Option Char}
    (unmarked : Unmarked skipComments before text rest) :
    ∃ masked, Masks skipComments text rest masked := by
  induction unmarked with
  | nil => exact ⟨[], .nil⟩
  | region found _ inductionHypothesis =>
    obtain ⟨masked, behind⟩ := inductionHypothesis
    exact ⟨_, .region found behind⟩
  | clear clear _ _ inductionHypothesis =>
    obtain ⟨masked, behind⟩ := inductionHypothesis
    exact ⟨_, .clear clear behind⟩

end Masks

/-! ## What is found in the masked form -/

/-- If both templates can be parsed, their queries have the same alias, and both or neither of them
build their results with a constructor. -/
def SameShape (options : Options) (template template' : Text) : Prop :=
  ∀ query query', (Query.parse options template).outcome = .ok query →
    (Query.parse options template').outcome = .ok query' →
    query'.rootAlias = query.rootAlias ∧ query'.constructs = query.constructs

theorem sameShape_of_outline_eq {options : Options} {template template' : Text}
    (same : outline (mask options.skipComments template') =
      outline (mask options.skipComments template)) : SameShape options template template' := by
  intro query query' parsed parsed'
  obtain ⟨named, built⟩ := masked_of_parse_ok parsed
  obtain ⟨named', built'⟩ := masked_of_parse_ok parsed'
  rw [named, named', built, built', findAlias?_eq, findAlias?_eq, hasConstructor_eq,
    hasConstructor_eq, same]
  exact ⟨rfl, rfl⟩

/-! ## Payloads -/

/-- The masking stands outside quoted text and comments at the brace that closes the payload. -/
def Closed (skipComments : Bool) (payload : Text) : Prop :=
  ∃ masked, Masks skipComments payload ['}'] masked

/-- The payload has no quotes in it and, when comments are skipped, no opening mark of one. -/
structure Transparent (skipComments : Bool) (payload : Text) : Prop where
  single : '\'' ∉ payload
  double : '"' ∉ payload
  line : skipComments = true → ¬['-', '-'] <:+: payload
  block : skipComments = true → ¬['/', '*'] <:+: payload

theorem transparent_cons_iff {skipComments : Bool} {c : Char} {text : Text} :
    Transparent skipComments (c :: text) ↔
      splitOpaque? skipComments (c :: text) = none ∧ Transparent skipComments text := by
  rw [splitOpaque?_eq_none_iff]
  constructor
  · rintro ⟨single, double, line, block⟩
    simp only [List.mem_cons, not_or, pair_infix_cons_iff, not_and] at single double line block
    exact ⟨⟨Ne.symm single.1, Ne.symm double.1,
        fun skips => (line skips).1, fun skips => (block skips).1⟩,
      single.2, double.2, fun skips => (line skips).2, fun skips => (block skips).2⟩
  · rintro ⟨⟨noSingle, noDouble, noDash, noStar⟩, single, double, line, block⟩
    refine ⟨?_, ?_, fun skips => ?_, fun skips => ?_⟩
    · exact List.not_mem_cons_of_ne_of_not_mem noSingle.symm single
    · exact List.not_mem_cons_of_ne_of_not_mem noDouble.symm double
    · rw [pair_infix_cons_iff, not_or, not_and]
      exact ⟨noDash skips, line skips⟩
    · rw [pair_infix_cons_iff, not_or, not_and]
      exact ⟨noStar skips, block skips⟩

theorem Transparent.masks {skipComments : Bool} {payload : Text}
    (transparent : Transparent skipComments payload) :
    Masks skipComments payload ['}'] payload := by
  induction payload with
  | nil => exact .nil
  | cons c payload inductionHypothesis =>
    obtain ⟨clear, behind⟩ := transparent_cons_iff.1 transparent
    refine .clear (splitOpaque?_eq_none_of_head? clear fun d opening first => ?_)
      (inductionHypothesis behind)
    -- The brace is not the second character of an opening mark.
    cases payload with
    | nil => obtain rfl | rfl := opening <;> cases first
    | cons e payload => exact first

theorem Transparent.closed {skipComments : Bool} {payload : Text}
    (transparent : Transparent skipComments payload) : Closed skipComments payload :=
  ⟨payload, transparent.masks⟩

/-! ## Markers -/

/-- The masking keeps a closed payload with all that embeds it apart from every other text. -/
theorem Masks.embeds {skipComments : Bool} {payload masked : Text}
    (masks : Masks skipComments payload ['}'] masked) {sigil : Char} (mark : isMark sigil = true)
    (rest : Text) :
    Masks skipComments (embedding sigil payload) rest (embedding sigil masked) := by
  have opening : ∀ c ∈ [sigil, '#', '{'], opensRegion c = false := by
    simp only [List.forall_mem_cons]
    exact ⟨opensRegion_of_isMark mark, rfl, rfl, nofun⟩
  have closing : ∀ c ∈ ['}'], opensRegion c = false := List.forall_mem_singleton.2 rfl
  have inside : Masks skipComments payload (['}'] ++ rest) masked :=
    masks.exchange ⟨nofun, .inl rfl⟩
  have through : Masks skipComments (payload ++ ['}']) rest (masked ++ ['}']) :=
    inside.append (masks_of_opensNone closing rest)
  exact (masks_of_opensNone opening _).append through

theorem Spells.opensNone {identifier : Identifier} {written : Text}
    (spells : Spells identifier written) : ∀ c ∈ written, opensRegion c = false := by
  cases spells with
  | name _ inside =>
    refine List.forall_mem_cons.2 ⟨rfl, fun c member => ?_⟩
    exact opensRegion_of_isWordChar (inside c member)
  | position _ inside =>
    refine List.forall_mem_cons.2 ⟨rfl, fun c member => ?_⟩
    exact opensRegion_of_isWordChar (isWordChar_of_isDigit (inside c member))

def EveryPayload (holds : Text → Prop) (found : List Marker) : Prop :=
  ∀ marker ∈ found, ∀ payload, marker.target.expression? = some payload → holds payload

theorem opensRegion_of_wildcard {present : Bool} :
    ∀ c ∈ Marker.wildcard present, opensRegion c = false := by
  cases present with
  | false => exact nofun
  | true => exact List.forall_mem_singleton.2 rfl

theorem masks_raw_of_text {skipComments : Bool} {marker : Marker} {behind masked : Text}
    (masks : Masks skipComments marker.text (Marker.wildcard marker.trailing ++ behind) masked) :
    Masks skipComments marker.raw behind
      (Marker.wildcard marker.leading ++ masked ++ Marker.wildcard marker.trailing) := by
  rw [Marker.raw, List.append_assoc, List.append_assoc]
  exact (masks_of_opensNone opensRegion_of_wildcard _).append
    (masks.append (masks_of_opensNone opensRegion_of_wildcard _))

section Marker

variable {options : Options} {offset : Nat} {seen text rest after : Text} {marker : Marker}
  (taken : Taken options offset seen text marker rest after) {skipComments : Bool}

include taken

/-- A marker that is no expression is kept as it is written. -/
theorem Taken.masks_explicit (explicit : marker.target.expression? = none) (behind : Text) :
    Masks skipComments marker.text behind marker.text := by
  have noExpression : marker.target.isExpression = false := by
    rw [Target.isExpression, explicit]
    rfl
  obtain ⟨identifier, -, spells, -⟩ := exists_spells_of_readTarget taken.readTarget_eq noExpression
  exact masks_of_opensNone spells.opensNone behind

theorem Taken.exists_masks
    (closed : ∀ payload, marker.target.expression? = some payload → Closed skipComments payload)
    (behind : Text) : ∃ masked, Masks skipComments marker.raw behind masked := by
  cases expression : marker.target.expression? with
  | some payload =>
    obtain ⟨masked, masks⟩ := closed payload expression
    have written := (expression_of_readTarget taken.readTarget_eq expression).1
    exact ⟨_, masks_raw_of_text (written ▸ masks.embeds marker.target.isMark_sigil _)⟩
  | none => exact ⟨_, masks_raw_of_text (taken.masks_explicit expression _)⟩

theorem Taken.masks_raw
    (transparent : ∀ payload, marker.target.expression? = some payload →
      Transparent skipComments payload)
    (behind : Text) : Masks skipComments marker.raw behind marker.raw := by
  apply masks_raw_of_text
  cases expression : marker.target.expression? with
  | some payload =>
    rw [(expression_of_readTarget taken.readTarget_eq expression).1]
    exact (transparent payload expression).masks.embeds marker.target.isMark_sigil _
  | none => exact taken.masks_explicit expression _

end Marker

theorem Reaches.exists_masks {options : Options} {offset : Nat} {text rest tail : Text}
    {found : List Marker} (reaches : Reaches options offset text rest found tail)
    (closed : EveryPayload (Closed options.skipComments) found) :
    ∃ masked, Masks options.skipComments text rest masked := by
  induction reaches with
  | literal unmarked => exact unmarked.exists_masks
  | @marker offset literal text rest tail marker found unmarked taken _ inductionHypothesis =>
    obtain ⟨later, place⟩ := taken_of_markerAt taken
    obtain ⟨first, masksLiteral⟩ := unmarked.exists_masks
    obtain ⟨second, masksMarker⟩ :=
      place.exists_masks (closed marker List.mem_cons_self) (text ++ rest)
    obtain ⟨third, masksBehind⟩ :=
      inductionHypothesis fun marker member => closed marker (.tail _ member)
    rw [← List.append_assoc] at masksLiteral
    exact ⟨_, masksLiteral.append (masksMarker.append masksBehind)⟩

end QueryTemplate
