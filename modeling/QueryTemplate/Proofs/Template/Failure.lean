import QueryTemplate.Proofs.Template.Reached

/-! # Markers that cannot be read

A scan fails at the first marker that it cannot read: an expression that is never closed, or a
position that cannot be addressed. The error names the byte of the colon or question mark.

* `Fault`: what stands at that byte.
* `fault_of_markerAt`: a marker that cannot be read, behind its wildcard.
* `reaches_of_scan_error`: the scan reaches the marker that it fails at.
-/

namespace QueryTemplate

/-- The text begins with a marker that cannot be read. The error that comes of it needs the byte
where the text begins. -/
inductive Fault : Text → (Nat → Error) → Prop where
  | unterminated {sign : Char} {tail : Text} (marks : sign = ':' ∨ sign = '?')
      (stays : StaysOpen 0 tail) : Fault (sign :: '#' :: '{' :: tail) .unterminatedExpression
  | badPosition {digits tail : Text} (nonempty : digits ≠ [])
      (inside : ∀ c ∈ digits, c.isDigit = true) (stops : tail.head?.any Char.isDigit = false)
      (unaddressable :
        ¬(1 ≤ Nat.ofDigitChars 10 digits 0 ∧ Nat.ofDigitChars 10 digits 0 ≤ maxPosition)) :
      Fault ('?' :: (digits ++ tail)) .invalidPosition

theorem Fault.exists_sign {text : Text} {make : Nat → Error} (fault : Fault text make) :
    ∃ sign rest, text = sign :: rest ∧ (sign = ':' ∨ sign = '?') := by
  cases fault with
  | unterminated marks => exact ⟨_, _, rfl, marks⟩
  | badPosition => exact ⟨_, _, rfl, .inr rfl⟩

/-! ## The readers -/

theorem readNamed_eq_unterminated_iff {rest : Text} :
    readNamed rest = .unterminated ↔ ∃ tail, rest = '#' :: '{' :: tail ∧ StaysOpen 0 tail := by
  constructor
  · intro failed
    unfold readNamed at failed
    split at failed
    next tail =>
      split at failed
      next => cases failed
      next unclosed => exact ⟨tail, rfl, payload?_eq_none_iff.1 unclosed⟩
    next => split at failed <;> cases failed
  · rintro ⟨tail, rfl, stays⟩
    rw [readNamed, payload?_eq_none_iff.2 stays]

theorem readPositional_eq_unterminated_iff {rest : Text} :
    readPositional rest = .unterminated ↔
      ∃ tail, rest = '#' :: '{' :: tail ∧ StaysOpen 0 tail := by
  constructor
  · intro failed
    unfold readPositional at failed
    split at failed
    next tail =>
      split at failed
      next => cases failed
      next unclosed => exact ⟨tail, rfl, payload?_eq_none_iff.1 unclosed⟩
    next =>
      split at failed
      next => cases failed
      next =>
        dsimp only at failed
        split at failed <;> cases failed
  · rintro ⟨tail, rfl, stays⟩
    rw [readPositional, payload?_eq_none_iff.2 stays]

theorem readNamed_ne_badPosition (rest : Text) : readNamed rest ≠ .badPosition := by
  unfold readNamed
  split <;> split <;> simp

theorem fault_of_badPosition {rest : Text} (failed : readPositional rest = .badPosition) :
    Fault ('?' :: rest) .invalidPosition := by
  unfold readPositional at failed
  split at failed
  next tail => split at failed <;> cases failed
  next =>
    split at failed
    next => cases failed
    next nonempty =>
      dsimp only at failed
      split at failed
      next => cases failed
      next unaddressable =>
        have fault : Fault ('?' :: (rest.takeWhile Char.isDigit ++ rest.dropWhile Char.isDigit))
            .invalidPosition :=
          .badPosition nonempty all_takeWhile (any_head?_dropWhile _ _) unaddressable
        rwa [List.takeWhile_append_dropWhile] at fault

theorem fault_of_readTarget_unterminated {before : Option Char} {text : Text}
    (failed : readTarget before text = .unterminated) : Fault text .unterminatedExpression := by
  unfold readTarget at failed
  split at failed
  next rest =>
    split at failed
    next => cases failed
    next =>
      obtain ⟨tail, rfl, stays⟩ := readNamed_eq_unterminated_iff.1 failed
      exact .unterminated (.inl rfl) stays
  next rest =>
    obtain ⟨tail, rfl, stays⟩ := readPositional_eq_unterminated_iff.1 failed
    exact .unterminated (.inr rfl) stays
  next => cases failed

theorem fault_of_readTarget_badPosition {before : Option Char} {text : Text}
    (failed : readTarget before text = .badPosition) : Fault text .invalidPosition := by
  unfold readTarget at failed
  split at failed
  next rest =>
    split at failed
    next => cases failed
    next => exact absurd failed (readNamed_ne_badPosition rest)
  next rest => exact fault_of_badPosition failed
  next => cases failed

/-! ## The scan -/

theorem fault_of_markerAt {options : Options} {offset : Nat} {seen text : Text} {error : Error}
    (failed : markerAt options offset seen text = .error error) :
    ∃ leading rest make, text = Marker.wildcard leading ++ rest ∧ Fault rest make ∧
      error = make (offset + (Marker.wildcard leading).byteSize) := by
  refine ⟨text.head? == some '%', dropWildcard (text.head? == some '%') text, ?_⟩
  rw [wildcard_append_dropWildcard]
  cases reading : readingAt seen.head? text with
  | absent =>
    rw [markerAt_eq_ok_none_iff.2 reading] at failed
    cases failed
  | unterminated =>
    rw [readingAt] at reading
    simp only [markerAt, reading, Except.error.injEq] at failed
    exact ⟨_, rfl, fault_of_readTarget_unterminated reading, failed.symm⟩
  | badPosition =>
    rw [readingAt] at reading
    simp only [markerAt, reading, Except.error.injEq] at failed
    exact ⟨_, rfl, fault_of_readTarget_badPosition reading, failed.symm⟩
  | found target written rest =>
    rw [markerAt_of_found reading] at failed
    cases failed

theorem reaches_of_scanFrom_error {options : Options} {offset : Nat} {text : Text} {error : Error}
    (failed : scanFrom options offset [] text = .error error) :
    ∃ front rest found tail, text = front ++ rest ∧
      Reaches options offset front rest found tail ∧
      markerAt options (offset + front.byteSize) tail.reverse rest = .error error := by
  have first := firstSegment_scanFrom options offset text
  rw [failed] at first
  cases first with
  | @unreadable literal text _ unmarked failedHere =>
    exact ⟨literal, text, [], literal, rfl, .literal unmarked, failedHere⟩
  | @later literal text after marker _ unmarked taken failedBehind =>
    have shorter := markerAt_length_lt taken
    obtain ⟨front, rest, found, tail, rfl, reaches, failedThere⟩ :=
      reaches_of_scanFrom_error failedBehind
    obtain ⟨later, place⟩ := taken_of_markerAt taken
    obtain ⟨-, rfl⟩ := markerAt_split taken
    refine ⟨literal ++ (marker.raw ++ front), rest, marker :: found, tail, by simp,
      .marker unmarked taken reaches, ?_⟩
    rw [← place.stop_add_byteSize]
    exact failedThere
termination_by text.length
decreasing_by
  subst_vars
  simp only [List.length_append]
  omega

/-- A scan that fails comes to stand in front of a marker that cannot be read. The error names the
byte behind the wildcard of the marker. -/
theorem reaches_of_scan_error {options : Options} {template : Text} {error : Error}
    (failed : scan options template = .error error) :
    ∃ front leading rest make found tail, template = front ++ (Marker.wildcard leading ++ rest) ∧
      Reaches options 0 front (Marker.wildcard leading ++ rest) found tail ∧
      Fault rest make ∧ error = make (front ++ Marker.wildcard leading).byteSize := by
  obtain ⟨front, place, found, tail, rfl, reaches, failedThere⟩ := reaches_of_scanFrom_error failed
  obtain ⟨leading, rest, make, rfl, fault, rfl⟩ := fault_of_markerAt failedThere
  refine ⟨front, leading, rest, make, found, tail, rfl, reaches, fault, ?_⟩
  rw [Nat.zero_add, Text.byteSize_append]

end QueryTemplate
