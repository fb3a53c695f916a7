import QueryTemplate.Proofs.Template.Embedding
import QueryTemplate.Proofs.Template.EscapeClause
import QueryTemplate.Proofs.Template.Offset

/-! # The places that a scan reaches

The scan of a template reaches a place when it comes to stand there outside any marker, quoted text
and comment. What it finds is then what it has found by then, and what is found from that place on.

* `Reaches`: the scan of a first part, in front of a given rest.
* `Reaches.markersFrom_eq`: the scan of the whole.
* `Taken.exchange`, `Reaches.exchange`: with another rest that starts alike, or like a marker, the
  scan reaches the same place. Only the escape character of the last marker can then be another one.
-/

namespace QueryTemplate

/-- The scan of `text`, which begins at a byte of the template and has `rest` behind it, comes to
stand in front of `rest`. By then it has found the markers, and `tail` is the literal text since the
last one. -/
inductive Reaches (options : Options) : Nat → Text → Text → List Marker → Text → Prop where
  | literal {offset : Nat} {tail rest : Text}
      (unmarked : Unmarked options.skipComments none tail rest) :
      Reaches options offset tail rest [] tail
  | marker {offset : Nat} {literal text rest tail : Text} {marker : Marker} {found : List Marker}
      (unmarked : Unmarked options.skipComments none literal (marker.raw ++ (text ++ rest)))
      (taken : markerAt options (offset + literal.byteSize) literal.reverse
        (marker.raw ++ (text ++ rest)) = .ok (some (marker, text ++ rest)))
      (behind : Reaches options marker.stop text rest found tail) :
      Reaches options offset (literal ++ (marker.raw ++ text)) rest (marker :: found) tail

theorem Found.behind_cons (marker : Marker) (before : List Marker) (found : Found) :
    (found.behind before).behind [marker] = found.behind (marker :: before) := by
  cases found <;> rfl

theorem Taken.stop_add_byteSize {options : Options} {offset : Nat}
    {seen literal text later after : Text} {marker : Marker}
    (taken : Taken options (offset + literal.byteSize) seen text marker later after)
    (front : Text) :
    marker.stop + front.byteSize = offset + (literal ++ (marker.raw ++ front)).byteSize := by
  rw [Marker.stop, taken.start]
  simp only [Text.byteSize_append]
  omega

theorem Reaches.markersFrom_eq {options : Options} {offset : Nat} {text rest tail : Text}
    {found : List Marker} (reaches : Reaches options offset text rest found tail) :
    markersFrom options offset [] (text ++ rest) =
      (markersFrom options (offset + text.byteSize) tail.reverse rest).behind found := by
  induction reaches with
  | @literal offset tail rest unmarked =>
    rw [unmarked.markersFrom_eq rfl, List.append_nil]
    cases markersFrom options (offset + tail.byteSize) tail.reverse rest <;> rfl
  | @marker offset literal text rest tail marker found unmarked taken _ inductionHypothesis =>
    obtain ⟨later, place⟩ := taken_of_markerAt taken
    have clear : splitOpaque? options.skipComments (marker.raw ++ (text ++ rest)) = none :=
      splitOpaque?_eq_none_of_readingAt (by rw [place.found]; simp)
    rw [List.append_assoc, List.append_assoc, unmarked.markersFrom_eq rfl, List.append_nil,
      markersFrom_of_marker clear taken, inductionHypothesis, Found.behind_cons,
      place.stop_add_byteSize]

/-! ## The marker in front of another rest -/

def Marker.withEscape (escape : Option Char) (marker : Marker) : Marker := { marker with escape }

theorem Marker.withEscape_self (marker : Marker) : marker.withEscape marker.escape = marker := rfl

section Taken

variable {options : Options} {offset : Nat} {seen text rest later after : Text} {marker : Marker}

theorem Taken.rest_eq (taken : Taken options offset seen text marker rest after) :
    rest = Marker.wildcard marker.trailing ++ after := by
  rw [taken.after, taken.trailing]
  exact (wildcard_append_dropWildcard rest).symm

theorem dropWildcard_raw (marker : Marker) (text : Text) :
    dropWildcard marker.leading (marker.raw ++ text) =
      marker.text ++ (Marker.wildcard marker.trailing ++ text) := by
  rw [Marker.raw]
  cases marker.leading <;> simp [dropWildcard, Marker.wildcard]

theorem Taken.head?_ne_percent
    (taken : Taken options offset seen (marker.raw ++ later) marker rest later)
    (bare : marker.trailing = false) : later.head? ≠ some '%' := by
  intro percent
  have trailing := taken.trailing
  rw [taken.rest_eq, bare] at trailing
  simp [Marker.wildcard, percent] at trailing

/-- Behind a marker another text can come that starts in the same way, or like a marker without a
wildcard in front. -/
theorem Taken.exchange
    (taken : Taken options offset seen (marker.raw ++ later) marker rest later)
    (alike : SameHead later after) (wildcard : after.head? = some '%' → later.head? = some '%') :
    ∃ escape, markerAt options offset seen (marker.raw ++ after) =
        .ok (some (marker.withEscape escape, after)) ∧
      (escapeClause? after = escapeClause? later → escape = marker.escape) := by
  have found := taken.readTarget_eq
  rw [dropWildcard_raw, taken.rest_eq] at found
  have sigil := (sigil_of_readTarget found).1
  have leading : ((marker.raw ++ after).head? == some '%') = marker.leading := by
    rw [Marker.raw]
    cases marker.leading with
    | true => rfl
    | false =>
      have other : marker.target.sigil ≠ '%' := by cases marker.target <;> simp [Target.sigil]
      simpa [Marker.wildcard, List.head?_append, sigil] using other
  have trailing : ((Marker.wildcard marker.trailing ++ after).head? == some '%') =
      marker.trailing := by
    cases bare : marker.trailing with
    | true => rfl
    | false => simpa [Marker.wildcard] using mt wildcard (taken.head?_ne_percent bare)
  have stops : (Marker.wildcard marker.trailing ++ later).head?.any marker.target.isInside =
        false →
      (Marker.wildcard marker.trailing ++ after).head?.any marker.target.isInside = false := by
    cases marker.trailing with
    | true => exact id
    | false =>
      intro stopsBefore
      obtain same | marked := alike.2
      · rw [List.head?_append, same, ← List.head?_append]
        exact stopsBefore
      · exact marked.breakHead.any_head? fun _ => marker.target.isInside_of_isBreak
  have again : readingAt seen.head? (marker.raw ++ after) =
      .found marker.target marker.text (Marker.wildcard marker.trailing ++ after) := by
    rw [readingAt, leading, dropWildcard_raw]
    exact readTarget_exchange found stops
  have behind : dropWildcard marker.trailing (Marker.wildcard marker.trailing ++ after) =
      after := by
    cases marker.trailing <;> rfl
  have escape (same : escapeClause? after = escapeClause? later) :
      (if contextAfter seen = .like ∧ options.detectEscape then escapeClause? after else none) =
        marker.escape := by
    rw [same, taken.escape]
  refine ⟨_, ?_, escape⟩
  rw [markerAt_of_found again, leading, trailing, behind, ← taken.context, ← taken.start]
  rfl

theorem Taken.markHead_raw
    (taken : Taken options offset seen (marker.raw ++ later) marker rest later) (behind : Text) :
    MarkHead (marker.raw ++ behind) := by
  obtain ⟨sigil, -⟩ := sigil_of_readTarget taken.readTarget_eq
  rw [Marker.raw]
  intro c first
  cases leading : marker.leading with
  | true =>
    obtain rfl : '%' = c := by simpa [Marker.wildcard, leading] using first
    rfl
  | false =>
    obtain rfl : marker.target.sigil = c := by
      simpa [Marker.wildcard, leading, List.head?_append, sigil] using first
    exact marker.target.isMark_sigil

end Taken

/-! ## Another rest -/

/-- The markers are the same, but for the escape character of the last one. -/
structure SameButEscape (found found' : List Marker) : Prop where
  withoutEscape : found'.map (Marker.withEscape none) = found.map (Marker.withEscape none)
  dropLast : found'.dropLast = found.dropLast

section Exchange

variable {options : Options} {offset : Nat} {text rest after tail : Text} {found : List Marker}

/-- The escape clause behind the text's start is the same, unless it lies in front of the rest and
the rest is its operand. -/
theorem Reaches.escapeClause?_eq (reaches : Reaches options offset text rest found tail)
    (breaks : BreakHead after)
    (clause : found = [] →
      after.head? = rest.head? ∧ (rest.head? = some '\'' → ¬IsEscapeKeyword tail)) :
    escapeClause? (text ++ after) = escapeClause? (text ++ rest) := by
  cases reaches with
  | literal unmarked =>
    obtain ⟨head, noOperand⟩ := clause rfl
    have breaksBefore : BreakHead rest := by
      rw [BreakHead, ← head]
      exact breaks
    have empty (nothing : rest = []) : after = [] := by
      rw [nothing] at head
      exact List.head?_eq_none_iff.1 head
    exact unmarked.escapeClause?_exchange breaksBefore breaks empty (by rw [head]) noOperand
  | @marker _ literal text _ _ marker found unmarked taken behind =>
    -- The clause lies in front of the next marker, which stays.
    obtain ⟨later, place⟩ := taken_of_markerAt taken
    have nonempty : marker.raw ++ (text ++ rest) ≠ [] := by
      intro empty
      have found := place.found
      rw [empty] at found
      cases found
    rw [List.append_assoc, List.append_assoc, List.append_assoc, List.append_assoc]
    exact unmarked.escapeClause?_eq (place.markHead_raw _) (place.markHead_raw _)
      fun empty => absurd empty nonempty

theorem Reaches.exchange (reaches : Reaches options offset text rest found tail)
    (alike : SameHead rest after) (breaks : BreakHead after)
    (wildcard : after.head? = some '%' → rest.head? = some '%')
    (percent : tail.getLast? = some '%' → readTarget (some '%') after = .absent) :
    ∃ found', Reaches options offset text after found' tail ∧ SameButEscape found found' ∧
      (after.head? = rest.head? → (rest.head? = some '\'' → ¬IsEscapeKeyword tail) →
        found' = found) := by
  induction reaches with
  | @literal _ tail _ unmarked =>
    have again : Unmarked options.skipComments none tail after :=
      unmarked.exchange alike breaks percent
    exact ⟨[], .literal again, ⟨rfl, rfl⟩, fun _ _ => rfl⟩
  | @marker offset literal text rest tail marker found unmarked taken behind inductionHypothesis =>
    obtain ⟨found', again, same, unchanged⟩ := inductionHypothesis alike wildcard percent
    obtain ⟨later, place⟩ := taken_of_markerAt taken
    have percentBefore : literal.getLast? = some '%' →
        readTarget (some '%') (marker.raw ++ (text ++ after)) = .absent := by
      intro last
      have leading : marker.leading = true := place.leading_of_percent unmarked last
      rw [Marker.raw, leading]
      rfl
    have unmarkedAgain : Unmarked options.skipComments none literal
        (marker.raw ++ (text ++ after)) :=
      unmarked.exchange ((alike.append text).append marker.raw) (place.markHead_raw _).breakHead
        percentBefore
    have wildcardBehind : (text ++ after).head? = some '%' → (text ++ rest).head? = some '%' := by
      cases text with
      | nil => exact wildcard
      | cons c text => exact id
    obtain ⟨escape, takenAgain, sameEscape⟩ := place.exchange (alike.append text) wildcardBehind
    have reachesAgain : Reaches options offset
        (literal ++ ((marker.withEscape escape).raw ++ text)) after
        (marker.withEscape escape :: found') tail :=
      .marker unmarkedAgain takenAgain again
    refine ⟨_, reachesAgain, ⟨?_, ?_⟩, fun head noOperand => ?_⟩
    · rw [List.map_cons, List.map_cons, same.withoutEscape]
      rfl
    · cases found with
      | nil =>
        obtain rfl : found' = [] := List.map_eq_nil_iff.1 same.withoutEscape
        rfl
      | cons first found =>
        have nonempty : found' ≠ [] := by
          rintro rfl
          cases same.withoutEscape
        have sameClause := behind.escapeClause?_eq breaks fun none =>
          absurd none (List.cons_ne_nil first found)
        rw [sameEscape sameClause, Marker.withEscape_self,
          List.dropLast_cons_of_ne_nil nonempty, same.dropLast]
        rfl
    · rw [unchanged head noOperand,
        sameEscape (behind.escapeClause?_eq breaks fun _ => ⟨head, noOperand⟩),
        Marker.withEscape_self]

end Exchange

end QueryTemplate
