import QueryTemplate.Logged
import QueryTemplate.Proofs.Template.Segments
import QueryTemplate.Template.Mask

/-! # Literal text holds no marker

What the scan leaves as literal text it would leave again, and outside quoted text and comments no
marker starts in it. That the text was cut out of a template makes no difference: a marker in front
of it does not end in a colon, and a marker behind it starts with a break.

* `Markerless`: texts in which no marker starts, with the character in front of them.
* `Continues.of_mask`: masking does not make a text go on like a marker.
* `Unmarked.markerless_mask`: in the masked form of a text that the scan passes over, no marker
  starts.
* `literal_of_scan`: the literal texts of a scanned template.
-/

namespace QueryTemplate

/-! ## Texts without markers -/

/-- No marker starts at any character of the text. The character before the text is given first. -/
def Markerless (before : Option Char) : Text → Prop
  | [] => True
  | c :: rest => readTarget before (c :: rest) = .absent ∧ Markerless (some c) rest

theorem Markerless.congr {before before' : Option Char} {text : Text}
    (markerless : Markerless before text) (same : before = some ':' ↔ before' = some ':') :
    Markerless before' text := by
  cases text with
  | nil => trivial
  | cons c rest =>
    obtain ⟨absent, behind⟩ := markerless
    exact ⟨(readTarget_congr same _).symm.trans absent, behind⟩

theorem Markerless.readTarget_eq {before : Option Char} {front rest : Text} {c : Char}
    (markerless : Markerless before (front ++ c :: rest)) :
    readTarget (front.getLast?.or before) (c :: rest) = .absent := by
  induction front generalizing before with
  | nil => exact markerless.1
  | cons d front inductionHypothesis =>
    have absent := inductionHypothesis markerless.2
    rw [List.getLast?_cons]
    cases last : front.getLast? <;> simpa [last] using absent

/-! ## The masked form -/

theorem head?_of_mask {skipComments : Bool} {text : Text} {c : Char}
    (first : (mask skipComments text).head? = some c) (visible : c ≠ ' ') :
    text.head? = some c := by
  cases text with
  | nil => simp at first
  | cons d rest =>
    cases split : splitOpaque? skipComments (d :: rest) with
    | none => simpa [mask_of_clear split] using first
    | some parts =>
      rw [mask_of_region split] at first
      exact absurd (Option.some.inj first).symm visible

theorem Continues.of_mask {inside : Char → Bool}
    (words : ∀ c, inside c = true → isWordChar c = true) {skipComments : Bool} {text : Text}
    (continues : Continues inside (mask skipComments text)) : Continues inside text := by
  obtain ⟨rest, opens⟩ | starts := continues
  · have first : text.head? = some '#' :=
      head?_of_mask (by rw [← opens]; rfl) (by decide)
    obtain ⟨behind, rfl⟩ := List.head?_eq_some_iff.1 first
    rw [mask_of_clear (splitOpaque?_eq_none_of_opensNone rfl behind)] at opens
    have second : behind.head? = some '{' :=
      head?_of_mask (by rw [← (List.cons.inj opens).2]; rfl) (by decide)
    obtain ⟨tail, rfl⟩ := List.head?_eq_some_iff.1 second
    exact .inl ⟨tail, rfl⟩
  · obtain ⟨c, first, isInside⟩ := (Option.any_eq_true _ _).1 starts
    have visible : c ≠ ' ' := by
      rintro rfl
      exact absurd (words ' ' isInside) (by decide)
    exact .inr (by rw [head?_of_mask first visible]; exact isInside)

theorem readTarget_mask {before : Option Char} {c : Char} {rest : Text}
    (absent : readTarget before (c :: rest) = .absent) (skipComments : Bool) :
    readTarget before (c :: mask skipComments rest) = .absent := by
  rw [readTarget_eq_absent_iff] at absent ⊢
  obtain ⟨noName, noPosition⟩ := absent
  refine ⟨fun colon single continues => noName colon single ?_, fun question continues =>
    noPosition question ?_⟩
  · exact continues.of_mask fun _ word => word
  · exact continues.of_mask fun _ digit => isWordChar_of_isDigit digit

theorem Unmarked.markerless_mask {skipComments : Bool} {before : Option Char} {literal : Text}
    (unmarked : Unmarked skipComments before literal []) :
    Markerless before (mask skipComments literal) := by
  generalize empty : ([] : Text) = rest at unmarked
  induction unmarked with
  | nil => simp [Markerless]
  | @region before region literal rest found behind inductionHypothesis =>
    subst empty
    rw [List.append_nil] at found
    rw [mask_of_region found]
    refine ⟨readTarget_eq_absent (by simp [isMark]), ?_⟩
    by_cases nothing : literal = []
    · simp [nothing, Markerless]
    · -- A region that something follows does not end in a colon, and neither does the space.
      refine (inductionHypothesis rfl).congr ⟨fun colon => ?_, fun space => ?_⟩
      · have closed := splitOpaque?_getLast? found nothing colon
        cases closed
      · cases space
  | @clear before c literal rest clear absent behind inductionHypothesis =>
    subst empty
    rw [List.append_nil] at clear absent
    rw [mask_of_clear clear]
    refine ⟨?_, inductionHypothesis rfl⟩
    by_cases percent : c = '%'
    · subst percent
      refine readTarget_eq_absent_iff.2 ⟨fun colon => ?_, fun question => ?_⟩
      · cases colon
      · cases question
    · rw [readingAt_of_ne (by simpa using percent)] at absent
      exact readTarget_mask absent skipComments

/-! ## Literal spans -/

theorem eq_of_mem_literalSpan {literal text : Text}
    (member : .literal text ∈ literalSpan literal.reverse) : text = literal ∧ text ≠ [] := by
  cases literal with
  | nil => cases member
  | cons c literal =>
    have same : text = c :: literal := by simpa [literalSpan] using member
    exact ⟨same, by simp [same]⟩

theorem Segments.unmarked_of_mem {options : Options} {offset : Nat} {text : Text}
    {spans : List Span} (segments : Segments options offset text spans) {literal : Text}
    (member : .literal literal ∈ spans) :
    Unmarked options.skipComments none literal [] ∧ literal ≠ [] := by
  induction segments with
  | @last offset literal unmarked =>
    obtain ⟨rfl, nonempty⟩ := eq_of_mem_literalSpan member
    exact ⟨unmarked, nonempty⟩
  | @marker offset front text after marker spans unmarked taken behind inductionHypothesis =>
    obtain here | here := List.mem_append.1 member
    · obtain ⟨rfl, nonempty⟩ := eq_of_mem_literalSpan here
      exact ⟨unmarked.behind (fun _ => rfl) nofun fun _ => rfl, nonempty⟩
    · obtain same | later := List.mem_cons.1 here
      · cases same
      · exact inductionHypothesis later

/-- No marker starts in the text: no colon outside a cast goes on with a name or an expression, and
no question mark with a digit or an expression. -/
structure MarkerFree (text : Text) : Prop where
  named : ∀ front rest, text = front ++ ':' :: rest → front.getLast? ≠ some ':' →
    rest.head? ≠ some ':' → ¬Continues isWordChar rest
  positional : ∀ front rest, text = front ++ '?' :: rest → ¬Continues Char.isDigit rest

theorem Markerless.markerFree {text : Text} (markerless : Markerless none text) :
    MarkerFree text where
  named := by
    rintro front rest rfl single -
    have absent := (readTarget_eq_absent_iff.1 markerless.readTarget_eq).1 rfl
    rw [Option.or_none] at absent
    exact absent single
  positional := by
    rintro front rest rfl
    exact (readTarget_eq_absent_iff.1 markerless.readTarget_eq).2 rfl

/-- Outside quoted text and comments no marker starts in a literal text of a scanned template, and
scanned on its own the text is literal again. -/
theorem literal_of_scan {options : Options} {template : Text} {spans : List Span}
    (cut : scan options template = .ok spans) :
    ∀ literal, .literal literal ∈ spans →
      MarkerFree (mask options.skipComments literal) ∧ literal ≠ [] ∧
        scan options literal = .ok [.literal literal] := by
  intro literal member
  obtain ⟨unmarked, nonempty⟩ := (segments_of_scanFrom cut).unmarked_of_mem member
  refine ⟨unmarked.markerless_mask.markerFree, nonempty, ?_⟩
  have alone : Segments options 0 literal (literalSpan literal.reverse) := .last unmarked
  have whole : literalSpan literal.reverse = [.literal literal] := by
    simp [literalSpan, nonempty]
  rw [scan, alone.scanFrom_eq, whole]

theorem literal_of_scan_between_marks :
    let literal := "a::b ':x' ?".toList
    ∃ spans, scan {} "a::b ':x' ?:y".toList = .ok spans ∧ .literal literal ∈ spans ∧
      MarkerFree (mask false literal) ∧ literal ≠ [] ∧
        scan {} literal = .ok [.literal literal] := by
  intro literal
  have cut : scan {} "a::b ':x' ?:y".toList = .ok
      [.literal literal, .marker ⟨11, ":y".toList, .named ['y'], false, false, .plain, none⟩] :=
    eq_ok_of_toOption (by decide +kernel)
  exact ⟨_, cut, List.mem_cons_self, literal_of_scan cut literal List.mem_cons_self⟩

end QueryTemplate
