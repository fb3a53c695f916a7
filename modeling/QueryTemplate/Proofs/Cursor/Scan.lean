import QueryTemplate.Proofs.Cursor.Keyword
import QueryTemplate.Proofs.Cursor.Region
import QueryTemplate.Proofs.Cursor.Target
import QueryTemplate.Proofs.Template.Standing

/-! # Scanning by bytes

The scan of a template with a cursor that counts bytes, turn by turn. Most turns pass one byte and
some of them end inside a character, but nothing is cut out there: a literal text is cut off where a
marker or the template ends, and a marker where it is read.

* `cutMarkerAt`: the marker at the cursor, with its wildcards and surroundings.
* `Scanning`, `scanWalk`, `scanByBytes`: the state of the scan, one turn of it, and the whole.
* `cutMarkerAt_eq`: the marker is that of `markerAt`, and no access to its surroundings goes wrong.
* `scanWalk_invariant`: what a turn preserves.
* `scan_and_mask_by_bytes`: the scan and the masking make their way through every template.
-/

namespace QueryTemplate

/-! ## The scan -/

/-- A span, with the byte behind it if it is a marker. -/
inductive CutSpan where
  | literal (text : Text)
  | marker (marker : Marker) (stop : Nat)
  deriving DecidableEq, Repr

def CutSpan.span : CutSpan → Span
  | .literal text => .literal text
  | .marker found _ => .marker found

/-- The keyword in front of a marker, and the escape character that is declared behind it. -/
def surroundingsAt (options : Options) (template : Text) (literalStart start stop : Nat) :
    Checked (Context × Option Char) := do
  let preceding ← slice template literalStart start
  let context ← keywordContext preceding
  if context = .like ∧ options.detectEscape then
    let following ← sliceFrom template stop
    let escape ← escapeBehind following
    return (context, escape)
  else return (context, none)

/-- The marker that starts at a byte, behind the literal text that starts at `literalStart`. -/
def cutMarkerAt (options : Options) (template : Text) (literalStart start : Nat) :
    Checked (Except Error (Option (Marker × Nat))) := do
  let byte ← byteAt template.bytes start
  let leading := byte == '%'.toUInt8
  let sign := if leading then start + 1 else start
  match ← targetAt template sign with
  | .error error => return .error error
  | .ok none => return .ok none
  | .ok (some (target, signStop)) =>
    let trailing := template.bytes[signStop]? == some '%'.toUInt8
    let stop := if trailing then signStop + 1 else signStop
    let (context, escape) ← surroundingsAt options template literalStart start stop
    let text ← slice template sign signStop
    return .ok (some ({ start, text, target, leading, trailing, context, escape }, stop))

structure Scanning where
  cursor : Nat
  /-- The byte behind the last marker. -/
  literalStart : Nat
  spans : List CutSpan
  deriving DecidableEq, Repr

namespace Scanning

/-- The spans with the literal text up to a byte; no span is made of no text. -/
def flush (template : Text) (state : Scanning) (stop : Nat) : Checked (List CutSpan) :=
  if state.literalStart < stop then do
    let text ← slice template state.literalStart stop
    return state.spans ++ [.literal text]
  else return state.spans

def step (state : Scanning) : Scanning := { state with cursor := state.cursor + 1 }

end Scanning

def scanWalk (options : Options) (template : Text) : Walk Error Scanning where
  limit := template.bytes.length
  cursor := Scanning.cursor
  turn state := do
    match ← opaqueEnd options.skipComments template.bytes state.cursor with
    | some stop => return .ok { state with cursor := stop }
    | none =>
      let byte ← byteAt template.bytes state.cursor
      if byte = '%'.toUInt8 ∨ byte = ':'.toUInt8 ∨ byte = '?'.toUInt8 then
        match ← cutMarkerAt options template state.literalStart state.cursor with
        | .error error => return .error error
        | .ok none => return .ok state.step
        | .ok (some (marker, stop)) =>
          let spans ← state.flush template marker.start
          return .ok ⟨stop, stop, spans ++ [.marker marker stop]⟩
      else return .ok state.step

def scanByBytes (options : Options) (template : Text) :
    Checked (Except Error (List CutSpan)) := do
  match ← (scanWalk options template).run template.bytes.length ⟨0, 0, []⟩ with
  | .error error => return .error error
  | .ok final =>
    let spans ← final.flush template template.bytes.length
    return .ok spans

/-! ## One marker -/

section Marker

variable {options : Options} {done pending : Text}

/-- Of the character in front of a marker it matters only whether it is a colon, and the last marker
does not end in one. -/
theorem behindColon_iff (noColon : done.getLast? ≠ some ':') (leading : Bool) :
    (done ++ pending ++ Marker.wildcard leading).getLast? = some ':' ↔
      (if leading then some '%' else pending.reverse.head?) = some ':' := by
  cases leading with
  | true => simp [Marker.wildcard]
  | false =>
    rw [Marker.wildcard, if_neg Bool.false_ne_true, List.append_nil, List.getLast?_append,
      if_neg Bool.false_ne_true, List.head?_reverse]
    cases pending.getLast? with
    | some c => rfl
    | none => simpa using noColon

theorem percentAt_eq (front text : Text) :
    ((front ++ text).bytes[front.byteSize]? == some '%'.toUInt8) = (text.head? == some '%') := by
  rw [Bool.eq_iff_iff, beq_iff_eq, beq_iff_eq]
  exact getElem?_bytes_eq_some_iff (by decide)

theorem byteSize_append_wildcard (front : Text) (present : Bool) :
    (if present then front.byteSize + 1 else front.byteSize) =
      Text.byteSize (front ++ Marker.wildcard present) := by
  cases present with
  | true => exact (byteSize_concat (by decide) front).symm
  | false => simp [Marker.wildcard]

/-- The look-back and the look-ahead begin and end where a part of the template does. -/
theorem surroundingsAt_eq (options : Options) (done pending raw after : Text) :
    surroundingsAt options (done ++ pending ++ raw ++ after) done.byteSize
        (done ++ pending).byteSize (done ++ pending ++ raw).byteSize =
      .ok (contextAfter pending.reverse,
        if contextAfter pending.reverse = .like ∧ options.detectEscape then escapeClause? after
        else none) := by
  have preceding := slice_append done pending (raw ++ after)
  rw [← List.append_assoc, ← List.append_assoc, ← Text.byteSize_append] at preceding
  rw [surroundingsAt, preceding, Checked.bind_ok, keywordContext_eq, Checked.bind_ok]
  split
  · rw [sliceFrom_append, Checked.bind_ok, escapeBehind_eq]
    rfl
  · rfl

theorem cutMarkerAt_eq (noColon : done.getLast? ≠ some ':') (c : Char) (rest : Text) :
    cutMarkerAt options (done ++ pending ++ c :: rest) done.byteSize (done ++ pending).byteSize =
      .ok ((markerAt options (done ++ pending).byteSize pending.reverse (c :: rest)).map
        (Option.map fun found => (found.1, found.1.stop))) := by
  obtain ⟨lead, here, leadIs⟩ := exists_byteAt (done ++ pending) c rest
  have leadingIs : (lead == '%'.toUInt8) = ((c :: rest).head? == some '%') := by
    rw [Bool.eq_iff_iff, beq_iff_eq, beq_iff_eq, List.head?_cons, Option.some.injEq]
    exact leadIs '%' (by decide)
  rw [cutMarkerAt, here, Checked.bind_ok, markerAt]
  simp only [leadingIs]
  -- From here on the marker is put together from the wildcards and what stands between them.
  generalize isLeading : ((c :: rest).head? == some '%') = leading
  have split : c :: rest = Marker.wildcard leading ++ dropWildcard leading (c :: rest) := by
    rw [← isLeading, wildcard_append_dropWildcard]
  have target := targetAt_eq (done ++ pending ++ Marker.wildcard leading)
    (dropWildcard leading (c :: rest))
  rw [List.append_assoc, ← split, readTarget_congr (behindColon_iff noColon leading)] at target
  rw [byteSize_append_wildcard, target, Checked.bind_ok, Text.byteSize_append _ (Marker.wildcard _)]
  cases reading : readTarget (if leading then some '%' else pending.reverse.head?)
      (dropWildcard leading (c :: rest)) with
  | absent => rfl
  | unterminated | badPosition => rfl
  | found found written after =>
    obtain ⟨-, parts⟩ := readTarget_split reading
    have percent := wildcard_append_dropWildcard after
    have trailingIs := percentAt_eq (done ++ pending ++ Marker.wildcard leading ++ written) after
    generalize isTrailing : (after.head? == some '%') = trailing at percent trailingIs
    have stop := byteSize_append_wildcard
      (done ++ pending ++ Marker.wildcard leading ++ written) trailing
    have around := surroundingsAt_eq options done pending
      (Marker.wildcard leading ++ written ++ Marker.wildcard trailing)
      (dropWildcard trailing after)
    have cut := slice_append (done ++ pending ++ Marker.wildcard leading) written after
    -- The parts make up one template, and each end is the sum of the sizes in front of it.
    simp only [List.append_assoc, percent, parts, ← split, Text.byteSize_append,
      Nat.add_assoc] at trailingIs stop around cut
    simp only [Reading.placed, isTrailing, Text.byteSize_append, List.append_assoc, Nat.add_assoc,
      trailingIs, stop, around, cut, Checked.bind_ok]
    simp only [Except.map, Option.map_some, Marker.stop, Marker.raw, Text.byteSize_append,
      List.append_assoc, Nat.add_assoc]
    rfl

/-- A marker starts at a percent sign, a colon or a question mark. -/
theorem markerAt_of_isMark_eq_false {c : Char} (other : isMark c = false) (offset : Nat)
    (seen rest : Text) : markerAt options offset seen (c :: rest) = .ok none := by
  refine markerAt_eq_ok_none_iff.2 (Decidable.byContradiction fun present => ?_)
  obtain ⟨d, behind, same, mark⟩ := exists_isMark_of_readingAt present
  rw [← (List.cons.inj same).1, other] at mark
  cases mark

end Marker

/-! ## The turns -/

/-- What is cut out, what is read behind it as literal text and the spans of the rest make up the
spans of the template. -/
structure ScannedUpTo (options : Options) (template : Text) (state : Scanning)
    (done pending rest : Text) : Prop where
  passing : Passing template state.cursor (done ++ pending) rest
  literalStart : state.literalStart = done.byteSize
  noColon : done.getLast? ≠ some ':'
  whole : scan options template =
    (scanFrom options (done ++ pending).byteSize pending.reverse rest).map
      (state.spans.map CutSpan.span ++ ·)
  markers : ∀ marker stop, .marker marker stop ∈ state.spans →
    slice template marker.start stop = .ok marker.raw

/-- The literal text in front of the cursor becomes a span, and no marker is added. -/
theorem Scanning.exists_flush {state : Scanning} {done : Text}
    (behind : state.literalStart = done.byteSize) (pending rest : Text) :
    ∃ spans, state.flush (done ++ pending ++ rest) (done ++ pending).byteSize = .ok spans ∧
      spans.map CutSpan.span = state.spans.map CutSpan.span ++ literalSpan pending.reverse ∧
      ∀ marker stop, .marker marker stop ∈ spans → .marker marker stop ∈ state.spans := by
  rw [flush, behind, Text.byteSize_append]
  by_cases nonempty : pending = []
  · subst nonempty
    exact ⟨state.spans, if_neg (Nat.lt_irrefl _), (List.append_nil _).symm, fun _ _ => id⟩
  · have cut := slice_append done pending rest
    rw [← List.append_assoc] at cut
    refine ⟨state.spans ++ [.literal pending], ?_, ?_, ?_⟩
    · rw [if_pos (Nat.lt_add_of_pos_right (Text.byteSize_pos nonempty)), cut]
      rfl
    · simp [literalSpan, nonempty, CutSpan.span]
    · simp

section Turn

variable {options : Options} {template : Text} {state : Scanning} {done pending rest : Text}

theorem ScannedUpTo.start (options : Options) (template : Text) :
    ScannedUpTo options template ⟨0, 0, []⟩ [] [] template where
  passing := passing_of_split rfl rfl
  literalStart := rfl
  noColon := nofun
  whole := by
    change scan options template = (scan options template).map ([] ++ ·)
    cases scan options template <;> rfl
  markers := nofun

/-- Inside a character the cursor moves on, and what is read stays the same. -/
theorem ScannedUpTo.passInner (scanned : ScannedUpTo options template state done pending rest)
    (inside : state.cursor < (done ++ pending).byteSize) :
    ScannedUpTo options template state.step done pending rest :=
  { scanned with passing := scanned.passing.next inside }

variable {c : Char} {behind : Text}

/-- A character at which no region opens and no marker starts is literal text. -/
theorem ScannedUpTo.passChar (scanned : ScannedUpTo options template state done pending (c :: rest))
    (here : state.cursor = (done ++ pending).byteSize)
    (clear : splitOpaque? options.skipComments (c :: rest) = none)
    (absent : markerAt options (done ++ pending).byteSize pending.reverse (c :: rest) = .ok none) :
    ScannedUpTo options template state.step done (pending ++ [c]) rest where
  passing := by
    rw [scanned.passing.split, Scanning.step, here, ← List.append_assoc]
    exact passing_char (done ++ pending) c rest
  literalStart := scanned.literalStart
  noColon := scanned.noColon
  whole := by
    rw [scanned.whole, scanFrom_of_clear clear absent, List.reverse_concat, ← List.append_assoc,
      Text.byteSize_append _ [c], Text.byteSize_cons, Text.byteSize_nil, Nat.add_zero]
    rfl
  markers := scanned.markers

/-- A region is literal text. -/
theorem ScannedUpTo.passRegion {region after : Text}
    (scanned : ScannedUpTo options template state done pending rest)
    (found : splitOpaque? options.skipComments rest = some (region, after)) :
    ScannedUpTo options template
      { state with cursor := (done ++ pending).byteSize + region.byteSize } done
      (pending ++ region) after where
  passing := by
    refine passing_of_split ?_ ?_
    · rw [scanned.passing.split, ← splitOpaque?_append found, List.append_assoc, List.append_assoc,
        List.append_assoc]
    · rw [← List.append_assoc, Text.byteSize_append (done ++ pending)]
  literalStart := scanned.literalStart
  noColon := scanned.noColon
  whole := by
    rw [scanned.whole, scanFrom_of_region found, List.reverse_append, ← List.append_assoc,
      Text.byteSize_append (done ++ pending)]
  markers := scanned.markers

/-- A marker is cut out behind the literal text. -/
theorem ScannedUpTo.exists_passMarker {marker : Marker} {after : Text}
    (scanned : ScannedUpTo options template state done pending rest)
    (clear : splitOpaque? options.skipComments rest = none)
    (found : markerAt options (done ++ pending).byteSize pending.reverse rest =
      .ok (some (marker, after))) :
    ∃ spans, state.flush template marker.start = .ok spans ∧
      (done ++ pending).byteSize < marker.stop ∧
      ScannedUpTo options template
        ⟨marker.stop, marker.stop, spans ++ [.marker marker marker.stop]⟩
        (done ++ pending ++ marker.raw) [] after := by
  obtain ⟨nonempty, parts⟩ := markerAt_split found
  obtain ⟨later, taken⟩ := taken_of_markerAt found
  obtain ⟨spans, flushed, same, earlier⟩ :=
    Scanning.exists_flush scanned.literalStart pending rest
  rw [← scanned.passing.split, ← taken.start] at flushed
  have size := Text.byteSize_append (done ++ pending) marker.raw
  have stop : marker.stop = Text.byteSize (done ++ pending ++ marker.raw) := by
    rw [Marker.stop, taken.start, size]
  have split : template = done ++ pending ++ (marker.raw ++ after) := by
    rw [parts, scanned.passing.split]
  have longer : marker.raw ≠ [] := by simp [Marker.raw, nonempty]
  refine ⟨spans, flushed, ?_, passing_of_split ?_ ?_, stop, ?_, ?_, ?_⟩
  · rw [stop, size]
    exact Nat.lt_add_of_pos_right (Text.byteSize_pos longer)
  · rw [split, List.append_nil, List.append_assoc _ marker.raw]
  · rw [List.append_nil, stop]
  · -- The look-back of the next marker reaches into this one, and finds no colon there.
    rw [Text.byteSize_append] at taken
    obtain ⟨last, isLast, noColon⟩ := taken.exists_getLast?_raw
    rw [List.getLast?_append, isLast]
    simpa using noColon
  · rw [scanned.whole, scanFrom_of_marker clear found, List.append_nil, List.reverse_nil, ← stop]
    cases scanFrom options marker.stop [] after with
    | error error => rfl
    | ok found =>
      simp only [Except.map, List.map_append, same, List.append_assoc]
      rfl
  · intro other behind member
    obtain member | isLast := List.mem_append.1 member
    · exact scanned.markers other behind (earlier other behind member)
    · obtain ⟨rfl, rfl⟩ := CutSpan.marker.inj (List.mem_singleton.1 isLast)
      have cut := slice_append (done ++ pending) other.raw after
      rwa [← split, ← taken.start] at cut

/-- A byte inside a character is passed over. -/
theorem scanWalk_turn_inside {byte : UInt8} (here : template.bytes[state.cursor]? = some byte)
    (beyond : 0x80 ≤ byte.toNat) :
    (scanWalk options template).turn state = .ok (.ok state.step) := by
  have noMark : ¬(byte = '%'.toUInt8 ∨ byte = ':'.toUInt8 ∨ byte = '?'.toUInt8) := by
    rintro (same | same | same)
    · exact ne_toUInt8_of_le beyond (by decide) same
    · exact ne_toUInt8_of_le beyond (by decide) same
    · exact ne_toUInt8_of_le beyond (by decide) same
  simp only [scanWalk, opaqueEnd_inside here beyond, byteAt, here, Checked.bind_ok, if_neg noMark]
  rfl

/-- In front of a character a turn goes by the region or by the marker that begins there. -/
theorem scanWalk_turn_char (scanned : ScannedUpTo options template state done pending (c :: behind))
    (here : state.cursor = (done ++ pending).byteSize) :
    (scanWalk options template).turn state =
      match splitOpaque? options.skipComments (c :: behind) with
      | some (region, _) =>
        .ok (.ok { state with cursor := (done ++ pending).byteSize + region.byteSize })
      | none =>
        match markerAt options (done ++ pending).byteSize pending.reverse (c :: behind) with
        | .error error => .ok (.error error)
        | .ok none => .ok (.ok state.step)
        | .ok (some (marker, _)) => do
          let spans ← state.flush template marker.start
          return .ok ⟨marker.stop, marker.stop, spans ++ [.marker marker marker.stop]⟩ := by
  obtain ⟨lead, first, leadIs⟩ := exists_byteAt (done ++ pending) c behind
  have region := opaqueEnd_eq options.skipComments (done ++ pending) c behind
  have cut := @cutMarkerAt_eq options _ pending scanned.noColon c behind
  have markIs : lead = '%'.toUInt8 ∨ lead = ':'.toUInt8 ∨ lead = '?'.toUInt8 ↔
      isMark c = true := by
    rw [leadIs _ (by decide), leadIs _ (by decide), leadIs _ (by decide)]
    simp [isMark, or_assoc]
  simp only [scanWalk, here, scanned.literalStart, scanned.passing.split, region, first, cut,
    markIs, Checked.bind_ok]
  cases splitOpaque? options.skipComments (c :: behind) with
  | some split => rfl
  | none =>
    simp only [Option.map_none]
    cases mark : isMark c with
    | true =>
      cases markerAt options (done ++ pending).byteSize pending.reverse (c :: behind) with
      | error error => rfl
      | ok found => cases found <;> rfl
    | false =>
      rw [markerAt_of_isMark_eq_false mark]
      rfl

end Turn

theorem scanWalk_invariant (options : Options) (template : Text) :
    (scanWalk options template).Invariant
      (fun state => ∃ done pending rest, ScannedUpTo options template state done pending rest)
      (fun error => scan options template = .error error) where
  within := fun state ⟨_, _, _, scanned⟩ => scanned.passing.le_limit
  turn := by
    rintro state ⟨done, pending, rest, scanned⟩ more
    obtain ⟨inside, byte, here, beyond⟩ | ⟨here, c, behind, rfl⟩ := scanned.passing.cases more
    -- Inside a character only the cursor changes; in front of one the turn is a step of `scanFrom`.
    · exact .inl ⟨state.step, scanWalk_turn_inside here beyond,
        ⟨done, pending, rest, scanned.passInner inside⟩, Nat.lt_succ_self _⟩
    rw [scanWalk_turn_char scanned here]
    cases found : splitOpaque? options.skipComments (c :: behind) with
    | some split =>
      obtain ⟨region, after⟩ := split
      refine .inl ⟨_, rfl, ⟨done, pending ++ region, after, scanned.passRegion found⟩, ?_⟩
      change state.cursor < _
      rw [here]
      exact Nat.lt_add_of_pos_right (Text.byteSize_pos (splitOpaque?_ne_nil found))
    | none =>
      cases read : markerAt options (done ++ pending).byteSize pending.reverse (c :: behind) with
      | error error =>
        refine .inr ⟨error, rfl, ?_⟩
        rw [scanned.whole, scanFrom_of_error found read]
        rfl
      | ok outcome =>
        cases outcome with
        | none =>
          exact .inl ⟨state.step, rfl,
            ⟨done, pending ++ [c], behind, scanned.passChar here found read⟩, Nat.lt_succ_self _⟩
        | some taken =>
          obtain ⟨marker, after⟩ := taken
          obtain ⟨spans, flushed, later, next⟩ := scanned.exists_passMarker found read
          refine .inl ⟨_, ?_, ⟨done ++ pending ++ marker.raw, [], after, next⟩, here.trans_lt later⟩
          simp only [flushed, Checked.bind_ok]
          rfl

/-! ## The whole template -/

/-- The spans that are cut out are those of the scan, and each marker is what stands in the template
between its ends. -/
theorem exists_scanByBytes (options : Options) (template : Text) :
    ∃ outcome, scanByBytes options template = .ok outcome ∧
      outcome.map (List.map CutSpan.span) = scan options template ∧
      ∀ spans, outcome = .ok spans → ∀ marker stop, .marker marker stop ∈ spans →
        slice template marker.start stop = .ok marker.raw := by
  have begins := ScannedUpTo.start options template
  obtain ⟨final, ended, ⟨done, pending, rest, scanned⟩, atEnd⟩ | ⟨error, ended, fails⟩ :=
    (scanWalk_invariant options template).run ⟨[], [], template, begins⟩
      (Nat.le_add_left template.bytes.length 0)
  · obtain rfl := scanned.passing.rest_eq_nil atEnd
    obtain ⟨spans, flushed, same, earlier⟩ :=
      Scanning.exists_flush scanned.literalStart pending []
    rw [← scanned.passing.split] at flushed
    have size : template.bytes.length = (done ++ pending).byteSize := by
      rw [Text.length_bytes, scanned.passing.split, List.append_nil]
    refine ⟨.ok spans, ?_, ?_, ?_⟩
    · rw [scanByBytes, ended, Checked.bind_ok]
      simp only [size, flushed, Checked.bind_ok]
      rfl
    · rw [scanned.whole, scanFrom_nil]
      exact congrArg Except.ok same
    · intro others isSame marker stop member
      obtain rfl := Except.ok.inj isSame
      exact scanned.markers marker stop (earlier marker stop member)
  · refine ⟨.error error, ?_, fails.symm, nofun⟩
    rw [scanByBytes, ended, Checked.bind_ok]
    rfl

/-- No access of the scan and of the masking goes wrong, in no template and with no options. Each
turn moves the cursor on, the loops are over after as many turns as there are bytes, and what they
give is the result of `scan` and `mask`. -/
theorem scan_and_mask_by_bytes (options : Options) (template : Text) :
    (scanWalk options template).Advances ⟨0, 0, []⟩ ∧
    (∃ outcome, scanByBytes options template = .ok outcome ∧
      outcome.map (List.map CutSpan.span) = scan options template ∧
      ∀ spans, outcome = .ok spans → ∀ marker stop, .marker marker stop ∈ spans →
        slice template marker.start stop = .ok marker.raw) ∧
    (maskWalk options.skipComments template).Advances ⟨0, 0, []⟩ ∧
    maskByBytes options.skipComments template = .ok (mask options.skipComments template) :=
  ⟨(scanWalk_invariant options template).advances
      ⟨[], [], template, ScannedUpTo.start options template⟩,
    exists_scanByBytes options template,
    (maskWalk_invariant options.skipComments template).advances
      ⟨[], [], template, MaskedUpTo.start options.skipComments template⟩,
    maskByBytes_eq options.skipComments template⟩

end QueryTemplate
