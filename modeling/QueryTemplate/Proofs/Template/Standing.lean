import QueryTemplate.Proofs.Template.Failure
import QueryTemplate.Proofs.Template.Token

/-! # The first fault of a template

A scan fails exactly where the text in front scans without fault and leaves the scan outside any
marker, quoted text and comment, and where a marker begins that cannot be read.

* `Reaches.append`, `Reaches.dropMark`: the place that a scan reaches, moved over a text without
  markers and back over a `%`.
* `Reaches.getLast?_eq_colon_iff`: a colon in front of that place is literal text.
* `StandsBehind`: texts at whose end the scan stands outside.
* `Fault.markerAt_eq`: the error at a marker that cannot be read.
* `scan_eq_error_iff`: the templates whose scan fails, and the byte that the error names.
-/

namespace QueryTemplate

/-! ## Moving the place that is reached -/

section Unmarked

variable {skipComments : Bool} {before : Option Char} {text text' rest : Text}

theorem Unmarked.append (first : Unmarked skipComments before text (text' ++ rest))
    (second : Unmarked skipComments (text.getLast?.or before) text' rest) :
    Unmarked skipComments before (text ++ text') rest := by
  generalize whole : text' ++ rest = behind at first
  induction first with
  | nil => simpa using second
  | @region before region literal behind found _ inductionHypothesis =>
    subst whole
    have nonempty := splitOpaque?_ne_nil found
    rw [List.append_assoc]
    refine .region (by simpa using found) (inductionHypothesis ?_ rfl)
    simpa [List.getLast?_append, Option.or_assoc, List.getLast?_eq_some_getLast nonempty]
      using second
  | @clear before c literal behind clear absent _ inductionHypothesis =>
    subst whole
    refine .clear (by simpa using clear) (by simpa using absent) (inductionHypothesis ?_ rfl)
    rw [List.getLast?_cons] at second
    cases last : literal.getLast? <;> simpa [last] using second

/-- A region in front of another text does not end in a mark, so a mark at the end of an unmarked
text was passed over by itself. -/
theorem Unmarked.dropMark {c : Char} (unmarked : Unmarked skipComments before (text ++ [c]) rest)
    (mark : isMark c = true) (closed : rest ≠ []) :
    Unmarked skipComments before text (c :: rest) := by
  generalize whole : text ++ [c] = literal at unmarked
  induction unmarked generalizing text with
  | nil => simp at whole
  | @region before region literal rest found behind inductionHypothesis =>
    obtain rfl | ⟨inner, d, rfl⟩ := List.eq_nil_or_concat literal
    · have last : region.getLast? = some c := by
        rw [← List.append_nil region, ← whole, List.getLast?_concat]
      have noMark := splitOpaque?_getLast? found closed last
      rw [mark] at noMark
      cases noMark
    · rw [List.concat_eq_append, ← List.append_assoc] at whole
      obtain ⟨rfl, same⟩ := List.append_inj' whole rfl
      obtain rfl : c = d := by simpa using same
      exact .region (by simpa using found) (inductionHypothesis closed (by simp))
  | @clear before d literal rest clear absent behind inductionHypothesis =>
    obtain rfl | ⟨inner, e, rfl⟩ := List.eq_nil_or_concat literal
    · have split : text ++ [c] = [] ++ [d] := whole
      obtain ⟨rfl, same⟩ := List.append_inj' split rfl
      obtain rfl : c = d := by simpa using same
      exact .nil
    · rw [List.concat_eq_append, ← List.cons_append] at whole
      obtain ⟨rfl, same⟩ := List.append_inj' whole rfl
      obtain rfl : c = e := by simpa using same
      exact .clear (by simpa using clear) (by simpa using absent)
        (inductionHypothesis closed (by simp))

end Unmarked

theorem Taken.exists_getLast?_raw {options : Options} {offset : Nat}
    {literal text rest after : Text} {marker : Marker}
    (taken : Taken options (offset + literal.byteSize) literal.reverse text marker rest after) :
    ∃ c, marker.raw.getLast? = some c ∧ c ≠ ':' := by
  have nonempty : marker.text ≠ [] := (readTarget_split taken.readTarget_eq).1
  cases trailing : marker.trailing with
  | true =>
    refine ⟨'%', ?_, by decide⟩
    rw [Marker.raw, trailing]
    exact List.getLast?_concat
  | false =>
    have last := List.getLast?_eq_some_getLast nonempty
    refine ⟨marker.text.getLast nonempty, ?_, fun colon => ?_⟩
    · simp [Marker.raw, trailing, Marker.wildcard, List.getLast?_append, last]
    · rw [colon] at last
      exact absurd (taken.token.isMark_of_getLast? last) (by decide)

section Reaches

variable {options : Options} {offset : Nat} {text text' rest tail : Text} {found : List Marker}

theorem Reaches.append (reaches : Reaches options offset text (text' ++ rest) found tail)
    (unmarked : Unmarked options.skipComments tail.getLast? text' rest) :
    Reaches options offset (text ++ text') rest found (tail ++ text') := by
  generalize whole : text' ++ rest = behind at reaches
  induction reaches with
  | literal unmarkedBefore =>
    subst whole
    exact .literal (unmarkedBefore.append (by simpa using unmarked))
  | @marker offset literal text behind tail marker found unmarkedBefore taken _
      inductionHypothesis =>
    subst whole
    rw [List.append_assoc, List.append_assoc]
    exact .marker (by simpa using unmarkedBefore) (by simpa using taken)
      (inductionHypothesis unmarked rfl)

theorem Reaches.dropMark {c : Char}
    (reaches : Reaches options offset text rest found (tail ++ [c])) (mark : isMark c = true)
    (closed : rest ≠ []) :
    ∃ front, text = front ++ [c] ∧ Reaches options offset front (c :: rest) found tail := by
  generalize whole : tail ++ [c] = literal at reaches
  induction reaches with
  | literal unmarked =>
    subst whole
    exact ⟨tail, rfl, .literal (unmarked.dropMark mark closed)⟩
  | @marker offset literal text rest behind marker found unmarked taken _ inductionHypothesis =>
    obtain ⟨front, rfl, reaches⟩ := inductionHypothesis closed whole
    exact ⟨literal ++ (marker.raw ++ front), by simp,
      .marker (by simpa using unmarked) (by simpa using taken) reaches⟩

/-- A colon in front of the place stands in the literal text, as no marker ends in one. -/
theorem Reaches.getLast?_eq_colon_iff (reaches : Reaches options offset text rest found tail) :
    text.getLast? = some ':' ↔ tail.getLast? = some ':' := by
  induction reaches with
  | literal => exact Iff.rfl
  | @marker offset literal text rest tail marker found unmarked taken _ inductionHypothesis =>
    obtain ⟨later, place⟩ := taken_of_markerAt taken
    obtain ⟨c, last, noColon⟩ := place.exists_getLast?_raw
    rw [← inductionHypothesis, List.getLast?_append, List.getLast?_append, last]
    cases text.getLast? with
    | none => simpa using noColon
    | some d => rfl

end Reaches

/-! ## Standing outside -/

/-- At the end of the text the scan stands outside any marker, quoted text and comment: in some
template that goes on behind the text, it comes to read on from there. -/
def StandsBehind (options : Options) (text : Text) : Prop :=
  ∃ rest found tail, rest ≠ [] ∧ Reaches options 0 text rest found tail

section Standing

variable {options : Options} {front rest tail : Text} {found : List Marker}

theorem StandsBehind.exists_scan (stands : StandsBehind options front) :
    ∃ spans, scan options front = .ok spans := by
  obtain ⟨rest, found, tail, -, reaches⟩ := stands
  have alike : SameHead rest [] := ⟨fun _ => rfl, .inr nofun⟩
  obtain ⟨found', again, -⟩ := reaches.exchange alike nofun nofun fun _ => rfl
  have whole := again.markersFrom_eq
  rw [List.append_nil, markersFrom_nil] at whole
  obtain ⟨spans, cut, -⟩ := exists_ok_of_map whole
  exact ⟨spans, cut⟩

/-- The scan stands outside in front of a marker, and behind the wildcard that it starts with. -/
theorem Reaches.standsBehind {leading : Bool} (nonempty : rest ≠ [])
    (reaches : Reaches options 0 front (Marker.wildcard leading ++ rest) found tail) :
    StandsBehind options (front ++ Marker.wildcard leading) := by
  cases leading with
  | false =>
    rw [Marker.wildcard, if_neg (by decide), List.append_nil]
    exact ⟨rest, found, tail, nonempty, reaches⟩
  | true =>
    -- With another `%` behind it the first one is literal text.
    have alike : SameHead (Marker.wildcard true ++ rest) (['%'] ++ ['%']) :=
      ⟨fun none => absurd none (List.cons_ne_nil '%' rest), .inl rfl⟩
    have marked : MarkHead (['%'] ++ ['%']) := markHead_cons.2 rfl
    obtain ⟨found', again, -⟩ :=
      reaches.exchange alike marked.breakHead (fun _ => rfl) fun _ => rfl
    have unmarked : Unmarked options.skipComments tail.getLast? ['%'] ['%'] :=
      .clear (splitOpaque?_eq_none_of_isMark rfl) rfl .nil
    exact ⟨['%'], found', tail ++ ['%'], by decide, again.append unmarked⟩

/-! ## Faults -/

theorem Fault.readTarget_eq {before : Option Char} {make : Nat → Error} (fault : Fault rest make)
    (noCast : before = some ':' → rest.head? ≠ some ':') :
    readTarget before rest = .unterminated ∧ make = .unterminatedExpression ∨
      readTarget before rest = .badPosition ∧ make = .invalidPosition := by
  cases fault with
  | @unterminated sign tail marks stays =>
    refine .inl ⟨?_, rfl⟩
    obtain rfl | rfl := marks
    · have single : before ≠ some ':' := fun colon => noCast colon rfl
      rw [readTarget, if_neg single]
      exact readNamed_eq_unterminated_iff.2 ⟨tail, rfl, stays⟩
    · exact readPositional_eq_unterminated_iff.2 ⟨tail, rfl, stays⟩
  | @badPosition digits tail nonempty inside stops unaddressable =>
    refine .inr ⟨?_, rfl⟩
    rw [readTarget, readPositional_of_isDigit (any_head?_append_of_inside nonempty inside tail),
      takeWhile_append_of_stop inside stops]
    exact if_neg unaddressable

theorem Fault.head?_ne {make : Nat → Error} (fault : Fault rest make) : rest.head? ≠ some '%' := by
  obtain ⟨sign, later, rfl, rfl | rfl⟩ := fault.exists_sign <;> simp

theorem Fault.markHead {make : Nat → Error} (fault : Fault rest make) : MarkHead rest := by
  obtain ⟨sign, later, rfl, rfl | rfl⟩ := fault.exists_sign <;> exact markHead_cons.2 rfl

theorem Fault.markerAt_eq {make : Nat → Error} (fault : Fault rest make) {leading : Bool}
    {seen : Text}
    (noCast : leading = false → seen.head? = some ':' → rest.head? ≠ some ':') (offset : Nat) :
    markerAt options offset seen (Marker.wildcard leading ++ rest) =
      .error (make (offset + (Marker.wildcard leading).byteSize)) := by
  have first : ((Marker.wildcard leading ++ rest).head? == some '%') = leading := by
    cases leading with
    | true => rfl
    | false => simpa [Marker.wildcard] using fault.head?_ne
  have dropped : dropWildcard leading (Marker.wildcard leading ++ rest) = rest := by
    cases leading <;> rfl
  have single : (if leading then some '%' else seen.head?) = some ':' → rest.head? ≠ some ':' := by
    cases leading with
    | true => exact fun colon => absurd (Option.some.inj colon) (by decide)
    | false => exact noCast rfl
  unfold markerAt
  dsimp only
  rw [first, dropped]
  obtain ⟨read, rfl⟩ | ⟨read, rfl⟩ := fault.readTarget_eq single <;> rw [read]

/-- A scan that comes to stand in front of a marker that cannot be read fails there. -/
theorem Reaches.scan_eq_error {make : Nat → Error} {leading : Bool}
    (reaches : Reaches options 0 front (Marker.wildcard leading ++ rest) found tail)
    (fault : Fault rest make)
    (noCast : leading = false → rest.head? = some ':' → front.getLast? ≠ some ':') :
    scan options (front ++ (Marker.wildcard leading ++ rest)) =
      .error (make (front ++ Marker.wildcard leading).byteSize) := by
  have noCastTail : leading = false → tail.reverse.head? = some ':' → rest.head? ≠ some ':' := by
    intro bare colon first
    rw [List.head?_reverse, ← reaches.getLast?_eq_colon_iff] at colon
    exact noCast bare first colon
  have failed : markerAt options (0 + front.byteSize) tail.reverse
      (Marker.wildcard leading ++ rest) = .error (make _) := fault.markerAt_eq noCastTail _
  have present : readingAt tail.reverse.head? (Marker.wildcard leading ++ rest) ≠ .absent := by
    intro absent
    rw [markerAt_eq_ok_none_iff.2 absent] at failed
    cases failed
  have whole := reaches.markersFrom_eq
  rw [markersFrom_of_error (splitOpaque?_eq_none_of_readingAt present) failed, Nat.zero_add,
    ← Text.byteSize_append] at whole
  exact error_of_map whole

end Standing

/-! ## The scan of a template -/

theorem exists_fault_of_scan {options : Options} {template : Text} {error : Error}
    (failed : scan options template = .error error) :
    ∃ front rest make, template = front ++ rest ∧ StandsBehind options front ∧
      (rest.head? = some ':' → front.getLast? ≠ some ':') ∧ Fault rest make ∧
      error = make front.byteSize := by
  obtain ⟨front, place, found, tail, rfl, reaches, failedThere⟩ := reaches_of_scanFrom_error failed
  obtain ⟨leading, rest, make, rfl, fault, rfl⟩ := fault_of_markerAt failedThere
  obtain ⟨sign, later, whole, -⟩ := fault.exists_sign
  have nonempty : rest ≠ [] := by simp [whole]
  refine ⟨front ++ Marker.wildcard leading, rest, make, by simp, reaches.standsBehind nonempty,
    fun first colon => ?_, fault, by simp⟩
  cases leading with
  | true => simp [Marker.wildcard] at colon
  | false =>
    -- The colon behind another one would be part of a cast, and no marker.
    rw [Marker.wildcard, if_neg (by decide), List.append_nil,
      reaches.getLast?_eq_colon_iff] at colon
    obtain ⟨behind, rfl⟩ := List.head?_eq_some_iff.1 first
    have absent : readingAt tail.reverse.head? (':' :: behind) = .absent := by
      rw [List.head?_reverse, colon]
      rfl
    have none : markerAt options (0 + front.byteSize) tail.reverse (':' :: behind) = .ok none :=
      markerAt_eq_ok_none_iff.2 absent
    exact absurd (none.symm.trans failedThere) (by simp)

theorem StandsBehind.scan_eq_error {options : Options} {front rest : Text} {make : Nat → Error}
    (stands : StandsBehind options front)
    (noCast : rest.head? = some ':' → front.getLast? ≠ some ':') (fault : Fault rest make) :
    scan options (front ++ rest) = .error (make front.byteSize) := by
  obtain ⟨later, found, tail, nonempty, reaches⟩ := stands
  by_cases percent : tail.getLast? = some '%'
  · -- The `%` becomes the wildcard of the marker.
    obtain ⟨literal, rfl⟩ := List.getLast?_eq_some_iff.1 percent
    obtain ⟨front, rfl, reachesBefore⟩ := reaches.dropMark rfl nonempty
    have alike : SameHead ('%' :: later) (Marker.wildcard true ++ rest) := ⟨nofun, .inl rfl⟩
    have marked : MarkHead (Marker.wildcard true ++ rest) := markHead_cons.2 rfl
    obtain ⟨found', again, -⟩ :=
      reachesBefore.exchange alike marked.breakHead (fun _ => rfl) fun _ => rfl
    rw [List.append_assoc]
    exact again.scan_eq_error fault nofun
  · have alike : SameHead later (Marker.wildcard false ++ rest) :=
      ⟨fun empty => absurd empty nonempty, .inr fault.markHead⟩
    obtain ⟨found', again, -⟩ :=
      reaches.exchange alike fault.markHead.breakHead (fun first => absurd first fault.head?_ne)
        fun last => absurd last percent
    have failed := again.scan_eq_error fault fun _ => noCast
    rw [Marker.wildcard, if_neg (by decide), List.append_nil] at failed
    exact failed

/-- A scan fails exactly at a marker that cannot be read, behind a text that scans without fault and
leaves the scan outside any marker, quoted text and comment. A colon behind another one begins no
marker. -/
theorem scan_eq_error_iff {options : Options} {template : Text} {error : Error} :
    scan options template = .error error ↔
      ∃ front rest make, template = front ++ rest ∧
        (∃ spans, scan options front = .ok spans) ∧ StandsBehind options front ∧
        (rest.head? = some ':' → front.getLast? ≠ some ':') ∧ Fault rest make ∧
        error = make front.byteSize := by
  constructor
  · intro failed
    obtain ⟨front, rest, make, rfl, stands, noCast, fault, rfl⟩ := exists_fault_of_scan failed
    exact ⟨front, rest, make, rfl, stands.exists_scan, stands, noCast, fault, rfl⟩
  · rintro ⟨front, rest, make, rfl, -, stands, noCast, fault, rfl⟩
    exact stands.scan_eq_error noCast fault

end QueryTemplate
