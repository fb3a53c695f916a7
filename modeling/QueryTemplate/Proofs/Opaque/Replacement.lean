import QueryTemplate.Proofs.Template.Reached

/-! # Another region in the place of a region

When the scan reaches an opaque region and another one that opens alike is put in its place, the
scan finds the same markers on either side of it.

* `SameLookBack.of_breakHead`: what ends in a break looks the same from behind.
* `Reaches.replace`: the markers found with either region, which is the step that every result about
  quoted text and comments takes.
-/

namespace QueryTemplate

theorem isMark_of_opensRegion {c : Char} (opens : opensRegion c = true) : isMark c = false := by
  refine Bool.eq_false_iff.2 fun mark => ?_
  rw [opensRegion_of_isMark mark] at opens
  cases opens

theorem SameLookBack.of_breakHead {seen seen' : Text} (breaks : BreakHead seen)
    (breaks' : BreakHead seen') (colon : seen.head? = some ':' ↔ seen'.head? = some ':') :
    SameLookBack seen seen' where
  colon := colon
  context := by
    intro literal
    rw [contextAfter_append breaks, contextAfter_append breaks']

section Replace

variable {options : Options} {pre region region' post tail : Text} {found : List Marker}

theorem Reaches.scan_eq (reaches : Reaches options 0 pre (region ++ post) found tail)
    (split : splitOpaque? options.skipComments (region ++ post) = some (region, post))
    {seen : Text} (alike : SameLookBack (region.reverse ++ tail.reverse) seen) :
    (scan options (pre ++ (region ++ post))).map markers =
      ((markersFrom options 0 seen post).moved (pre ++ region).byteSize).behind found := by
  have stop : 0 + pre.byteSize + region.byteSize = (pre ++ region).byteSize + 0 := by
    rw [Text.byteSize_append]
    omega
  calc (scan options (pre ++ (region ++ post))).map markers
      = (markersFrom options (0 + pre.byteSize) tail.reverse (region ++ post)).behind found :=
        reaches.markersFrom_eq
    _ = (markersFrom options ((pre ++ region).byteSize + 0) (region.reverse ++ tail.reverse)
          post).behind found := by
        rw [markersFrom_of_region split, stop]
    _ = _ := by rw [markersFrom_moved alike]

theorem Reaches.replace (reaches : Reaches options 0 pre (region ++ post) found tail)
    (split : splitOpaque? options.skipComments (region ++ post) = some (region, post))
    (split' : splitOpaque? options.skipComments (region' ++ post) = some (region', post))
    (head : region'.head? = region.head?)
    (lookBack : SameLookBack (region'.reverse ++ tail.reverse) (region.reverse ++ tail.reverse)) :
    ∃ found' behind, Reaches options 0 pre (region' ++ post) found' tail ∧
      SameButEscape found found' ∧
      ((region.head? = some '\'' → ¬IsEscapeKeyword tail) → found' = found) ∧
      (scan options (pre ++ (region ++ post))).map markers =
        (Found.moved (pre ++ region).byteSize behind).behind found ∧
      (scan options (pre ++ (region' ++ post))).map markers =
        (Found.moved (pre ++ region').byteSize behind).behind found' := by
  have opens : ∀ c ∈ (region ++ post).head?, opensRegion c = true := by
    intro c first
    obtain ⟨rest, whole⟩ := List.head?_eq_some_iff.1 first
    rw [whole] at split
    exact opensRegion_of_splitOpaque? split
  have first : (region ++ post).head? = region.head? := by
    cases region with
    | nil => exact absurd rfl (splitOpaque?_ne_nil split)
    | cons c region => rfl
  have headBehind : (region' ++ post).head? = (region ++ post).head? := by
    rw [List.head?_append, List.head?_append, head]
  have alike : SameHead (region ++ post) (region' ++ post) :=
    ⟨fun empty => List.head?_eq_none_iff.1 (by rw [headBehind, empty]; rfl), .inl headBehind⟩
  have absent : readTarget (some '%') (region' ++ post) = .absent := by
    apply readTarget_eq_absent
    rw [headBehind]
    exact fun c member => isMark_of_opensRegion (opens c member)
  have breaks : BreakHead (region' ++ post) := by
    rw [BreakHead, headBehind]
    exact fun c member => isBreak_of_opensRegion (opens c member)
  obtain ⟨found', again, same, unchanged⟩ :=
    reaches.exchange alike breaks (by rw [headBehind]; exact id) fun _ => absent
  have unchanged := unchanged headBehind
  rw [first] at unchanged
  exact ⟨found', markersFrom options 0 (region.reverse ++ tail.reverse) post, again, same,
    unchanged, reaches.scan_eq split (.refl _), again.scan_eq split' lookBack⟩

end Replace

end QueryTemplate
