import QueryTemplate.Proofs.Template.Segments

/-! # What is found from another offset

A scan that starts later in a template finds the same markers in the same text, only further on. Of
the text that it has seen, a colon at the end matters, and the keyword that it can end in.

* `Marker.moved`, `Error.moved`, `Found.moved`: the same finding, so many bytes further on.
* `markersFrom`: the markers that a scan finds, or its error.
* `SameLookBack`: texts behind which the same is found.
* `markersFrom_moved`: the markers behind two such texts, from two offsets.
-/

namespace QueryTemplate

/-- What a scan finds: the markers in order, or the first error. -/
abbrev Found := Except Error (List Marker)

def Marker.moved (shift : Nat) (marker : Marker) : Marker :=
  { marker with start := shift + marker.start }

def Error.moved (shift : Nat) : Error → Error
  | .unterminatedExpression offset => .unterminatedExpression (shift + offset)
  | .invalidPosition offset => .invalidPosition (shift + offset)
  | error => error

def Found.moved (shift : Nat) : Found → Found
  | .ok found => .ok (found.map (Marker.moved shift))
  | .error error => .error (error.moved shift)

/-- A finding behind markers that were found before. -/
def Found.behind (before : List Marker) (found : Found) : Found := found.map (before ++ ·)

def markersFrom (options : Options) (offset : Nat) (seen text : Text) : Found :=
  (scanFrom options offset seen text).map markers

@[simp] theorem Marker.raw_moved (shift : Nat) (marker : Marker) :
    (marker.moved shift).raw = marker.raw := rfl

theorem Marker.stop_moved (shift : Nat) (marker : Marker) :
    (marker.moved shift).stop = shift + marker.stop := by
  rw [stop, stop, raw_moved]
  exact Nat.add_assoc _ _ _

/-! ## One step -/

section Steps

variable {options : Options} {offset : Nat} {seen text : Text}

theorem markersFrom_nil : markersFrom options offset seen [] = .ok [] := by
  rw [markersFrom, scanFrom_nil, Except.map, markers_last]

theorem markersFrom_of_region {region after : Text}
    (found : splitOpaque? options.skipComments text = some (region, after)) :
    markersFrom options offset seen text =
      markersFrom options (offset + region.byteSize) (region.reverse ++ seen) after := by
  rw [markersFrom, scanFrom_of_region found]
  rfl

theorem markersFrom_of_clear {c : Char} {rest : Text}
    (clear : splitOpaque? options.skipComments (c :: rest) = none)
    (none : markerAt options offset seen (c :: rest) = .ok none) :
    markersFrom options offset seen (c :: rest) =
      markersFrom options (offset + c.utf8Size) (c :: seen) rest := by
  rw [markersFrom, scanFrom_of_clear clear none]
  rfl

theorem markersFrom_of_marker {marker : Marker} {after : Text}
    (clear : splitOpaque? options.skipComments text = none)
    (taken : markerAt options offset seen text = .ok (some (marker, after))) :
    markersFrom options offset seen text =
      (markersFrom options marker.stop [] after).behind [marker] := by
  rw [markersFrom, scanFrom_of_marker clear taken, markersFrom, Found.behind]
  cases scanFrom options marker.stop [] after with
  | error error => rfl
  | ok spans => simp [Except.map, markers_literalSpan]

theorem markersFrom_of_error {error : Error}
    (clear : splitOpaque? options.skipComments text = none)
    (failed : markerAt options offset seen text = .error error) :
    markersFrom options offset seen text = .error error := by
  rw [markersFrom, scanFrom_of_error clear failed]
  rfl

theorem Unmarked.markersFrom_eq {before : Option Char} {literal rest : Text}
    (unmarked : Unmarked options.skipComments before literal rest) (last : seen.head? = before) :
    markersFrom options offset seen (literal ++ rest) =
      markersFrom options (offset + literal.byteSize) (literal.reverse ++ seen) rest := by
  rw [markersFrom, unmarked.scanFrom_eq last]
  rfl

end Steps

/-! ## Two scans of one text -/

/-- Behind either text the same is found: casts are recognised alike, and whatever literal text
follows, the keyword in front of a marker is the same. Both texts are given backwards. -/
structure SameLookBack (seen seen' : Text) : Prop where
  colon : seen.head? = some ':' ↔ seen'.head? = some ':'
  context : ∀ literal, contextAfter (literal ++ seen) = contextAfter (literal ++ seen')

theorem SameLookBack.refl (seen : Text) : SameLookBack seen seen := ⟨Iff.rfl, fun _ => rfl⟩

theorem SameLookBack.append {seen seen' : Text} (alike : SameLookBack seen seen')
    (literal : Text) : SameLookBack (literal ++ seen) (literal ++ seen') where
  colon := by
    cases literal with
    | nil => exact alike.colon
    | cons c literal => simp
  context := by
    intro later
    rw [← List.append_assoc, ← List.append_assoc]
    exact alike.context (later ++ literal)

/-- A marker that is read from another offset is the same marker further on. -/
theorem markerAt_moved {options : Options} {seen seen' : Text} (alike : SameLookBack seen seen')
    (shift offset : Nat) (text : Text) :
    markerAt options (shift + offset) seen text =
      match markerAt options offset seen' text with
      | .ok (some (marker, after)) => .ok (some (marker.moved shift, after))
      | .ok none => .ok none
      | .error error => .error (error.moved shift) := by
  have context : contextAfter seen = contextAfter seen' := alike.context []
  have same (leading : Bool) (rest : Text) :
      readTarget (if leading then some '%' else seen.head?) rest =
        readTarget (if leading then some '%' else seen'.head?) rest := by
    apply readTarget_congr
    cases leading with
    | true => rfl
    | false => exact alike.colon
  unfold markerAt
  dsimp only
  rw [same, context]
  split <;> simp only [Nat.add_assoc] <;> rfl

theorem Found.moved_behind (shift : Nat) (before : List Marker) (found : Found) :
    (found.behind before).moved shift =
      (found.moved shift).behind (before.map (Marker.moved shift)) := by
  cases found with
  | error error => rfl
  | ok found => simp [Found.behind, Found.moved, Except.map]

/-- What is found behind two texts that look alike is the same, further on. -/
theorem markersFrom_moved {options : Options} {seen seen' : Text}
    (alike : SameLookBack seen seen') (shift offset : Nat) (text : Text) :
    markersFrom options (shift + offset) seen text =
      (markersFrom options offset seen' text).moved shift := by
  match text with
  | [] =>
    rw [markersFrom_nil, markersFrom_nil]
    rfl
  | c :: rest =>
    cases found : splitOpaque? options.skipComments (c :: rest) with
    | some split =>
      obtain ⟨region, after⟩ := split
      have shorter := splitOpaque?_length_lt found
      rw [markersFrom_of_region found, markersFrom_of_region found, Nat.add_assoc]
      exact markersFrom_moved (alike.append _) shift _ after
    | none =>
      have both := @markerAt_moved options _ _ alike shift offset (c :: rest)
      cases taken : markerAt options offset seen' (c :: rest) with
      | error error =>
        rw [taken] at both
        rw [markersFrom_of_error found both, markersFrom_of_error found taken]
        rfl
      | ok result =>
        rw [taken] at both
        cases result with
        | none =>
          rw [markersFrom_of_clear found both, markersFrom_of_clear found taken, Nat.add_assoc]
          exact markersFrom_moved (alike.append [c]) shift _ rest
        | some result =>
          obtain ⟨marker, after⟩ := result
          have shorter := markerAt_length_lt taken
          rw [markersFrom_of_marker found both, markersFrom_of_marker found taken,
            Marker.stop_moved, markersFrom_moved (.refl []) shift marker.stop after,
            Found.moved_behind]
          rfl
termination_by text.length
decreasing_by
  all_goals first
    | exact shorter
    | simp

end QueryTemplate
