import QueryTemplate.Options
import QueryTemplate.Template.Context
import QueryTemplate.Template.Opaque
import QueryTemplate.Template.Target

/-! # Scanning a template

A template is cut into spans from left to right. Opaque regions belong to the literal text around
them; a marker takes the wildcards that it touches.

* `markerAt`: the marker that starts at a place of the template.
* `scanFrom`, `scan`: the spans of a template, or the first error.
* `markerAt_split`: a marker and the text behind it make up the text.
-/

namespace QueryTemplate

def dropWildcard (present : Bool) (text : Text) : Text := if present then text.tail else text

/-- The marker that starts at byte `offset`, where `text` begins, with the text behind it. The
    literal text since the last marker is given backwards. -/
def markerAt (options : Options) (offset : Nat) (seen text : Text) :
    Except Error (Option (Marker × Text)) :=
  let leading := text.head? == some '%'
  let before := if leading then some '%' else seen.head?
  -- Errors are reported at the colon or question mark, behind the wildcard.
  let bare := offset + (Marker.wildcard leading).byteSize
  match readTarget before (dropWildcard leading text) with
  | .absent => .ok none
  | .unterminated => .error (.unterminatedExpression bare)
  | .badPosition => .error (.invalidPosition bare)
  | .found target written rest =>
    let trailing := rest.head? == some '%'
    let after := dropWildcard trailing rest
    let context := contextAfter seen
    let escape :=
      if context = .like ∧ options.detectEscape then escapeClause? after else none
    .ok (some
      ({ start := offset, text := written, target, leading, trailing, context, escape }, after))

theorem wildcard_append_dropWildcard (text : Text) :
    Marker.wildcard (text.head? == some '%') ++ dropWildcard (text.head? == some '%') text =
      text := by
  cases text with
  | nil => rfl
  | cons c rest =>
    by_cases same : c = '%'
    · simp [Marker.wildcard, dropWildcard, same]
    · simp [Marker.wildcard, dropWildcard, same]

/-- The marker as written is not empty, and with the text behind it makes up the text. -/
theorem markerAt_split {options : Options} {offset : Nat} {seen text after : Text}
    {marker : Marker} (h : markerAt options offset seen text = .ok (some (marker, after))) :
    marker.text ≠ [] ∧ marker.raw ++ after = text := by
  unfold markerAt at h
  dsimp only at h
  split at h
  · simp at h
  · simp at h
  · simp at h
  · next target written rest found =>
    simp only [Except.ok.injEq, Option.some.injEq, Prod.mk.injEq] at h
    obtain ⟨rfl, rfl⟩ := h
    obtain ⟨nonempty, split⟩ := readTarget_split found
    refine ⟨nonempty, ?_⟩
    simp only [Marker.raw, List.append_assoc, wildcard_append_dropWildcard, split]

theorem markerAt_length_lt {options : Options} {offset : Nat} {seen text after : Text}
    {marker : Marker} (h : markerAt options offset seen text = .ok (some (marker, after))) :
    after.length < text.length := by
  obtain ⟨nonempty, split⟩ := markerAt_split h
  have positive := List.length_pos_iff.2 nonempty
  rw [← split, Marker.raw]
  simp only [List.length_append]
  omega

/-- The literal span for a text given backwards; the empty text makes no span. -/
def literalSpan (seen : Text) : List Span := if seen.isEmpty then [] else [.literal seen.reverse]

/-- The spans of the rest of a template. The rest begins at byte `offset`, behind the literal text
    `seen`, which is given backwards. -/
def scanFrom (options : Options) (offset : Nat) (seen text : Text) : Except Error (List Span) :=
  match text with
  | [] => .ok (literalSpan seen)
  | c :: rest =>
    match _opaque : splitOpaque? options.skipComments (c :: rest) with
    | some (region, after) =>
      scanFrom options (offset + region.byteSize) (region.reverse ++ seen) after
    | none =>
      match _marker : markerAt options offset seen (c :: rest) with
      | .error error => .error error
      | .ok none => scanFrom options (offset + c.utf8Size) (c :: seen) rest
      | .ok (some (marker, after)) =>
        -- Behind a marker the literal text starts anew, and with it the search for a keyword.
        match scanFrom options marker.stop [] after with
        | .error error => .error error
        | .ok spans => .ok (literalSpan seen ++ .marker marker :: spans)
termination_by text.length
decreasing_by
  · exact splitOpaque?_length_lt _opaque
  · simp
  · exact markerAt_length_lt _marker

def scan (options : Options) (template : Text) : Except Error (List Span) :=
  scanFrom options 0 [] template

/-! ## One step of the scan -/

theorem scanFrom_nil {options : Options} {offset : Nat} {seen : Text} :
    scanFrom options offset seen [] = .ok (literalSpan seen) := by
  rw [scanFrom]

theorem scanFrom_of_region {options : Options} {offset : Nat} {seen text region after : Text}
    (h : splitOpaque? options.skipComments text = some (region, after)) :
    scanFrom options offset seen text =
      scanFrom options (offset + region.byteSize) (region.reverse ++ seen) after := by
  cases text with
  | nil => simp [splitOpaque?] at h
  | cons c rest =>
    rw [scanFrom]
    split
    · next region' after' h' =>
      simp only [h, Option.some.injEq, Prod.mk.injEq] at h'
      rw [h'.1, h'.2]
    · next h' => simp [h] at h'

theorem scanFrom_of_marker {options : Options} {offset : Nat} {seen text after : Text}
    {marker : Marker} (clear : splitOpaque? options.skipComments text = none)
    (h : markerAt options offset seen text = .ok (some (marker, after))) :
    scanFrom options offset seen text =
      (scanFrom options marker.stop [] after).map (literalSpan seen ++ .marker marker :: ·) := by
  cases text with
  | nil => simp [markerAt, readTarget, dropWildcard] at h
  | cons c rest =>
    rw [scanFrom]
    split
    · next h' => simp [clear] at h'
    · split
      · next h' => simp [h] at h'
      · next h' => simp [h] at h'
      · next marker' after' h' =>
        simp only [h, Except.ok.injEq, Option.some.injEq, Prod.mk.injEq] at h'
        rw [h'.1, h'.2]
        split <;> next eq => simp [eq, Except.map]

theorem scanFrom_of_error {options : Options} {offset : Nat} {seen text : Text} {error : Error}
    (clear : splitOpaque? options.skipComments text = none)
    (h : markerAt options offset seen text = .error error) :
    scanFrom options offset seen text = .error error := by
  cases text with
  | nil => simp [markerAt, readTarget, dropWildcard] at h
  | cons c rest =>
    rw [scanFrom]
    split
    · next h' => simp [clear] at h'
    · split
      · next error' h' =>
        simp only [h, Except.error.injEq] at h'
        rw [h']
      · next h' => simp [h] at h'
      · next h' => simp [h] at h'

theorem scanFrom_of_clear {options : Options} {offset : Nat} {seen rest : Text} {c : Char}
    (clear : splitOpaque? options.skipComments (c :: rest) = none)
    (h : markerAt options offset seen (c :: rest) = .ok none) :
    scanFrom options offset seen (c :: rest) =
      scanFrom options (offset + c.utf8Size) (c :: seen) rest := by
  rw [scanFrom]
  split
  · next h' => simp [clear] at h'
  · split
    · next h' => simp [h] at h'
    · rfl
    · next h' => simp [h] at h'

end QueryTemplate
