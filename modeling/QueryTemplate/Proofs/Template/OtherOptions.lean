import QueryTemplate.Template.Scan

/-! # The scan with other options

Of the options the scan asks whether comments are opaque and, at each marker, for the escape
character. With other options that agree on comments it cuts a template at the same places, so the
spans differ as far as single markers do.

* `Span.change`: a span with another marker in place of its own.
* `scanFrom_change`: the scan with other options, from what they do at one marker.
* `scan_stem`: the stem of names plays no part.
-/

namespace QueryTemplate

def Span.change (change : Marker → Marker) : Span → Span
  | .literal text => .literal text
  | .marker found => .marker (change found)

theorem map_change_literalSpan (change : Marker → Marker) (seen : Text) :
    (literalSpan seen).map (Span.change change) = literalSpan seen := by
  rw [literalSpan]
  split <;> rfl

theorem Span.change_id : change id = id := by
  funext span
  cases span <;> rfl

/-- Each marker is read with the other options as with the given ones and then changed, with the
same text behind it. -/
def ReadsChanged (change : Marker → Marker) (options other : Options) : Prop :=
  ∀ offset seen text, markerAt other offset seen text =
    (markerAt options offset seen text).map
      (Option.map fun (marker, after) => (change marker, after))

section Scan

variable {options other : Options} {change : Marker → Marker}
  (reads : ReadsChanged change options other)
  (comments : other.skipComments = options.skipComments)
  (stop : ∀ marker, (change marker).stop = marker.stop)

include reads comments stop

theorem scanFrom_change (offset : Nat) (seen text : Text) :
    scanFrom other offset seen text =
      (scanFrom options offset seen text).map (List.map (Span.change change)) := by
  match text with
  | [] => rw [scanFrom_nil, scanFrom_nil, Except.map, map_change_literalSpan]
  | c :: rest =>
    cases found : splitOpaque? options.skipComments (c :: rest) with
    | some split =>
      obtain ⟨region, after⟩ := split
      have shorter := splitOpaque?_length_lt found
      rw [scanFrom_of_region found, scanFrom_of_region (comments ▸ found)]
      exact scanFrom_change _ _ after
    | none =>
      have clear : splitOpaque? other.skipComments (c :: rest) = none := comments ▸ found
      have both := reads offset seen (c :: rest)
      cases taken : markerAt options offset seen (c :: rest) with
      | error error =>
        rw [taken] at both
        rw [scanFrom_of_error found taken, scanFrom_of_error clear both]
        rfl
      | ok result =>
        rw [taken] at both
        cases result with
        | none =>
          rw [scanFrom_of_clear found taken, scanFrom_of_clear clear both]
          exact scanFrom_change _ _ rest
        | some result =>
          obtain ⟨marker, after⟩ := result
          have shorter := markerAt_length_lt taken
          -- The scan goes on at the same byte, since the marker is as long as it was.
          rw [scanFrom_of_marker found taken, scanFrom_of_marker clear both, stop,
            scanFrom_change marker.stop [] after]
          cases scanFrom options marker.stop [] after with
          | error error => rfl
          | ok spans => simp [Except.map, map_change_literalSpan, Span.change]
termination_by text.length
decreasing_by
  all_goals first
    | exact shorter
    | simp

end Scan

theorem scan_stem (options : Options) (stem template : Text) :
    scan { options with stem } template = scan options template := by
  have reads : ReadsChanged id options { options with stem } := by
    intro offset seen text
    change markerAt options offset seen text = _
    cases markerAt options offset seen text with
    | error error => rfl
    | ok result => cases result <;> rfl
  have both : scan { options with stem } template =
      (scan options template).map (List.map (Span.change id)) :=
    scanFrom_change reads rfl (fun _ => rfl) 0 [] template
  rw [both, Span.change_id, List.map_id_fun]
  cases scan options template <;> rfl

end QueryTemplate
