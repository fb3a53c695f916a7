import QueryTemplate.Proofs.Binding.Occurrence
import QueryTemplate.Proofs.Template.Segments

/-! # The place of a marker in the executable query

The executable query has a spelling of its parameter in the place of every marker, with the
wildcards of the marker unless it is a pattern. Up to such a place the executable query is scanned
as the template is.

* `Marker.keptLeading`, `Marker.keptTrailing`: the wildcards that stay.
* `Marker.placed`: what stands in the place of a marker.
* `Unmarked.placed`: the literal text in front of the place is still passed over.
* `Taken.readingAt_placed`: what is read at the place.
* `Marker.endsAnew`, `Taken.stops_iff`: whether the spelling is read as long as it is written.
* `Segments.head?_canonicalText`: the executable query starts as the template does.
-/

namespace QueryTemplate

/-! ## Wildcards -/

def Marker.keptLeading (marker : Marker) : Bool := !marker.kind.isLike && marker.leading

def Marker.keptTrailing (marker : Marker) : Bool := !marker.kind.isLike && marker.trailing

theorem isLike_kind (marker : Marker) : marker.kind.isLike = (marker.context == .like) := by
  rw [Marker.kind]
  cases marker.context <;> rfl

def Marker.placed (marker : Marker) (identifier : Identifier) : Text :=
  keepWildcards marker marker.kind (canonicalMarker marker (marker.binding identifier))

theorem Marker.placed_eq (marker : Marker) (identifier : Identifier) :
    marker.placed identifier =
      wildcard marker.keptLeading ++
        (canonicalMarker marker (marker.binding identifier) ++ wildcard marker.keptTrailing) := by
  rw [placed, keepWildcards, keptLeading, keptTrailing]
  cases marker.kind.isLike <;> simp [wildcard]

/-- No keyword stands directly behind a character that could start a marker. -/
theorem contextAfter_of_isMark {c : Char} (mark : isMark c = true) (rest : Text) :
    contextAfter (c :: rest) = .plain := by
  simp only [isMark, Bool.or_eq_true, beq_iff_eq] at mark
  obtain (rfl | rfl) | rfl := mark <;> rfl

/-! ## The spelling in the place of a marker -/

theorem Identifier.target_injective {first second : Identifier}
    (same : first.target = second.target) : first = second := by
  cases first <;> cases second <;> cases same <;> rfl

theorem Identifier.sigil_ne_percent (identifier : Identifier) :
    identifier.target.sigil ≠ '%' := by
  cases identifier <;> simp [Identifier.target, Target.sigil]

theorem spells_canonicalMarker {before : Option Char} {text rest : Text} {marker : Marker}
    {identifier : Identifier}
    (found : readTarget before text = .found marker.target marker.text rest)
    (suits : Suits marker.target identifier) :
    Spells identifier (canonicalMarker marker (marker.binding identifier)) := by
  rw [canonicalMarker]
  split
  next embedded => exact (suits.minted embedded).spells
  next explicit =>
    have explicit : marker.target.isExpression = false := by simpa using explicit
    obtain ⟨other, same, spells, -⟩ := exists_spells_of_readTarget found explicit
    have sameIdentifier : other = identifier :=
      Identifier.target_injective (same.symm.trans (suits.explicit explicit))
    exact sameIdentifier ▸ spells

theorem Marker.head?_placed {marker : Marker} {identifier : Identifier}
    (spells : Spells identifier (canonicalMarker marker (marker.binding identifier))) :
    (marker.placed identifier).head? =
      some (if marker.keptLeading then '%' else identifier.target.sigil) := by
  rw [placed_eq]
  cases marker.keptLeading with
  | true => rfl
  | false =>
    have head := spells.head?
    simp only [wildcard, Bool.false_eq_true, if_false, List.nil_append, List.head?_append, head]
    rfl

theorem Marker.markHead_placed {marker : Marker} {identifier : Identifier}
    (spells : Spells identifier (canonicalMarker marker (marker.binding identifier)))
    (tail : Text) : MarkHead (marker.placed identifier ++ tail) := by
  intro c member
  rw [List.head?_append, head?_placed spells] at member
  cases member
  split
  · rfl
  · exact identifier.target.isMark_sigil

/-! ## Reading at the place -/

section Reading

variable {options : Options} {offset : Nat} {seen literal text rest after : Text}
  {marker : Marker} {identifier : Identifier}

theorem Taken.spells (taken : Taken options offset seen text marker rest after)
    (suits : Suits marker.target identifier) :
    Spells identifier (canonicalMarker marker (marker.binding identifier)) :=
  spells_canonicalMarker taken.readTarget_eq suits

/-- A `%` that ends the literal text is followed by another one, which stays. -/
theorem Taken.keptLeading_of_percent
    (unmarked : Unmarked options.skipComments none literal text)
    (taken : Taken options offset literal.reverse text marker rest after)
    (percent : literal.getLast? = some '%') : marker.keptLeading = true := by
  have head : literal.reverse.head? = some '%' := by rw [List.head?_reverse, percent]
  have leading : marker.leading = true := taken.leading_of_percent unmarked percent
  have plain : marker.context = .plain := by
    rw [taken.context]
    cases reversed : literal.reverse with
    | nil => simp [reversed] at head
    | cons c before =>
      rw [reversed, List.head?_cons, Option.some.injEq] at head
      exact contextAfter_of_isMark (head ▸ rfl) before
  rw [Marker.keptLeading]
  rw [isLike_kind, plain, leading]
  rfl

theorem Unmarked.placed (unmarked : Unmarked options.skipComments none literal text)
    (taken : Taken options offset literal.reverse text marker rest after)
    (suits : Suits marker.target identifier) (tail : Text) :
    Unmarked options.skipComments none literal (marker.placed identifier ++ tail) := by
  have spells := taken.spells suits
  have nonempty : text ≠ [] := by
    rintro rfl
    have found := taken.found
    cases found
  refine unmarked.behind (fun empty => absurd empty nonempty) (Marker.markHead_placed spells tail)
    fun percent => ?_
  -- Nothing is read at a second `%`.
  have kept := taken.keptLeading_of_percent unmarked percent
  rw [Marker.placed_eq, kept]
  rfl

/-- No cast is made where the template has none. -/
theorem Taken.noCast (taken : Taken options offset seen text marker rest after)
    (suits : Suits marker.target identifier)
    (colon : (if marker.keptLeading then some '%' else seen.head?) = some ':') :
    identifier.target.sigil ≠ ':' := by
  rw [suits.sameSigil]
  cases leading : marker.leading with
  | false =>
    have kept : marker.keptLeading = false := by simp [Marker.keptLeading, leading]
    have found := taken.readTarget_eq
    rw [kept] at colon
    rw [leading] at found
    exact (sigil_of_readTarget found).2 colon
  | true =>
    -- Only a pattern loses its wildcard, and no pattern follows a colon.
    exfalso
    cases like : marker.kind.isLike with
    | false => simp [Marker.keptLeading, leading, like] at colon
    | true =>
      have context : contextAfter seen = .like := by
        rw [isLike_kind, beq_iff_eq, taken.context] at like
        exact like
      cases seen with
      | nil => simp [Marker.keptLeading, like] at colon
      | cons c before =>
        have same : c = ':' := by simpa [Marker.keptLeading, like] using colon
        rw [contextAfter_of_isMark (same ▸ rfl)] at context
        cases context

theorem Taken.readingAt_placed (taken : Taken options offset seen text marker rest after)
    (suits : Suits marker.target identifier) (tail : Text) :
    readingAt seen.head? (marker.placed identifier ++ tail) =
      readTarget (if marker.keptLeading then some '%' else seen.head?)
        (canonicalMarker marker (marker.binding identifier) ++
          (Marker.wildcard marker.keptTrailing ++ tail)) := by
  have spells := taken.spells suits
  have head := Marker.head?_placed spells
  have sigil := identifier.sigil_ne_percent
  cases kept : marker.keptLeading with
  | true =>
    rw [Marker.placed_eq, kept]
    simp only [Marker.wildcard, if_true, List.cons_append, List.nil_append, List.append_assoc]
    exact readingAt_percent
  | false =>
    have other : (marker.placed identifier ++ tail).head? ≠ some '%' := by
      rw [List.head?_append, head, kept]
      simpa using sigil
    rw [readingAt_of_ne other, Marker.placed_eq, kept]
    simp [Marker.wildcard]

end Reading

/-! ## The end of the spelling -/

/-- Other text comes to stand behind the spelling than stood behind the marker: the marker is an
expression, or a pattern that loses its trailing wildcard. -/
def Marker.endsAnew (marker : Marker) : Bool :=
  !marker.keptTrailing && (marker.target.isExpression || marker.trailing)

theorem Suits.isInside_eq {target : Target} {identifier : Identifier}
    (suits : Suits target identifier) : identifier.target.isInside = target.isInside := by
  unfold Target.isInside
  rw [suits.sameSigil]

theorem Target.isInside_percent (target : Target) : target.isInside '%' = false :=
  target.isInside_of_isBreak (by decide)

theorem Taken.stops_iff {options : Options} {offset : Nat} {seen text rest after tail : Text}
    {marker : Marker} {identifier : Identifier}
    (taken : Taken options offset seen text marker rest after)
    (suits : Suits marker.target identifier) (head : tail.head? = after.head?) :
    (Marker.wildcard marker.keptTrailing ++ tail).head?.any identifier.target.isInside = false ↔
      (marker.endsAnew = true → after.head?.any marker.target.isInside = false) := by
  rw [suits.isInside_eq]
  cases kept : marker.keptTrailing with
  | true => simp [Marker.wildcard, Marker.endsAnew, kept, Target.isInside_percent]
  | false =>
    simp only [Marker.wildcard, Bool.false_eq_true, if_false, List.nil_append, head,
      Marker.endsAnew, kept, Bool.not_false, Bool.true_and]
    cases anew : marker.target.isExpression || marker.trailing with
    | true => simp
    | false =>
      -- An explicit marker without wildcard is as long as it can be.
      obtain ⟨explicit, bare⟩ := Bool.or_eq_false_iff.1 anew
      obtain ⟨-, -, -, stops⟩ := exists_spells_of_readTarget taken.readTarget_eq explicit
      have same : after = rest := by
        rw [taken.after, bare]
        rfl
      simp [same, stops]

/-! ## The text of the executable query -/

theorem canonicalText_dress_literalSpan (literal : Text) (spans : List Span)
    (identifiers : List Identifier) :
    canonicalText (dress (literalSpan literal.reverse ++ spans) identifiers) =
      literal ++ canonicalText (dress spans identifiers) := by
  cases literal with
  | nil => rfl
  | cons c literal =>
    have span : literalSpan (c :: literal).reverse = [.literal (c :: literal)] := by
      simp [literalSpan]
    rw [span]
    rfl

theorem canonicalText_dress_last (literal : Text) (identifiers : List Identifier) :
    canonicalText (dress (literalSpan literal.reverse) identifiers) = literal := by
  have written := canonicalText_dress_literalSpan literal [] identifiers
  rw [List.append_nil] at written
  rw [written]
  exact List.append_nil literal

theorem canonicalText_dress_marker (marker : Marker) (spans : List Span) (identifier : Identifier)
    (identifiers : List Identifier) :
    canonicalText (dress (.marker marker :: spans) (identifier :: identifiers)) =
      marker.placed identifier ++ canonicalText (dress spans identifiers) := rfl

theorem Segments.head?_canonicalText {options : Options} {offset : Nat} {text : Text}
    {spans : List Span} (segments : Segments options offset text spans)
    {identifiers : List Identifier}
    (suits : List.Forall₂ Suits ((markers spans).map (·.target)) identifiers) :
    (canonicalText (dress spans identifiers)).head? = text.head? := by
  cases segments with
  | last unmarked => rw [canonicalText_dress_last]
  | @marker _ literal text after marker spans unmarked taken behind =>
    rw [markers_literalSpan, markers_marker, List.map_cons] at suits
    obtain ⟨identifier, later, suitsFirst, -, rfl⟩ := List.forall₂_cons_left_iff.1 suits
    obtain ⟨rest, place⟩ := taken_of_markerAt taken
    rw [canonicalText_dress_literalSpan, canonicalText_dress_marker]
    cases literal with
    | cons c literal => rfl
    | nil =>
      -- Without literal text in front there is no keyword, so the wildcards stay.
      have plain : marker.kind.isLike = false := by
        rw [isLike_kind, place.context]
        rfl
      rw [List.nil_append, List.nil_append, List.head?_append,
        Marker.head?_placed (place.spells suitsFirst), Marker.keptLeading, plain]
      cases leading : marker.leading with
      | true =>
        have head : text.head? = some '%' := by simpa [leading] using place.leading.symm
        rw [head]
        rfl
      | false =>
        have found := place.readTarget_eq
        rw [leading] at found
        obtain ⟨nonempty, split⟩ := readTarget_split found
        have head := (sigil_of_readTarget found).1
        have whole : text.head? = marker.text.head? := by
          have same : marker.text ++ rest = text := split
          rw [← same, List.head?_append, head]
          rfl
        rw [whole, head, suitsFirst.sameSigil]
        rfl

end QueryTemplate
