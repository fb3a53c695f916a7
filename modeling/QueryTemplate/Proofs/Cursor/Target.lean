import QueryTemplate.Proofs.Cursor.Bytes
import QueryTemplate.Proofs.Template.Spelling

/-! # Markers by bytes

Everything that a marker is recognised by is ASCII: its sign, the braces of an expression and the
digits of a position. A name is cut off behind its sign and read there character by character.

* `closingBrace?`, `expressionAt`: an expression between braces. The depth is counted down at a
  closing brace, and there is always an opening one for it.
* `targetAt`: the marker without wildcards at a byte, and the byte behind it.
* `targetAt_eq`: no access goes wrong, and the marker is that of `readTarget`.
-/

namespace QueryTemplate

/-- One brace less is open. -/
def lessOne : Nat → Checked Nat
  | 0 => .error .depth
  | depth + 1 => .ok depth

/-- Where the brace stands that leaves no brace open, counted from the first byte. -/
def closingBrace? : Nat → List UInt8 → Checked (Option Nat)
  | _, [] => .ok none
  | depth, byte :: rest =>
    if byte = '{'.toUInt8 then (closingBrace? (depth + 1) rest).map (Option.map (· + 1))
    else if byte = '}'.toUInt8 then do
      let depth ← lessOne depth
      if depth = 0 then return some 0
      else (closingBrace? depth rest).map (Option.map (· + 1))
    else (closingBrace? depth rest).map (Option.map (· + 1))

/-- The expression whose opening brace is at the byte `opening`, and the byte behind it. -/
def expressionAt (template : Text) (marker opening : Nat) :
    Checked (Except Error (Text × Nat)) := do
  let rest ← bytesFrom template.bytes opening
  match ← closingBrace? 0 rest with
  | some offset =>
    let closing := opening + offset
    let expression ← slice template (opening + 1) closing
    return .ok (expression, closing + 1)
  | none => return .error (.unterminatedExpression marker)

/-- The marker of an expression, whose sign is at the offset. -/
def embeddedAt (make : Text → Target) (template : Text) (offset : Nat) :
    Checked (Except Error (Option (Target × Nat))) := do
  match ← expressionAt template offset (offset + 2) with
  | .error error => return .error error
  | .ok (expression, stop) => return .ok (some (make expression, stop))

def isBehindColon (bytes : List UInt8) (offset : Nat) : Checked Bool :=
  if 0 < offset then do
    let before ← byteAt bytes (offset - 1)
    return before == ':'.toUInt8
  else return false

def isDigitByte (byte : UInt8) : Bool :=
  '0'.toNat ≤ byte.toNat && byte.toNat ≤ '9'.toNat

/-- The marker whose sign is at the offset, if there is one, and the byte behind it. -/
def targetAt (template : Text) (offset : Nat) :
    Checked (Except Error (Option (Target × Nat))) :=
  let bytes := template.bytes
  if bytes[offset]? = some ':'.toUInt8 then do
    if ← isBehindColon bytes offset then return .ok none
    else if bytes[offset + 1]? = some ':'.toUInt8 then return .ok none
    else if bytes[offset + 1]? = some '#'.toUInt8 ∧ bytes[offset + 2]? = some '{'.toUInt8 then
      embeddedAt .namedExpression template offset
    else
      let rest ← sliceFrom template (offset + 1)
      match rest.takeWhile isWordChar with
      | [] => return .ok none
      | name => return .ok (some (.named name, offset + 1 + Text.byteSize name))
  else if bytes[offset]? = some '?'.toUInt8 then
    if bytes[offset + 1]? = some '#'.toUInt8 ∧ bytes[offset + 2]? = some '{'.toUInt8 then
      embeddedAt .positionalExpression template offset
    else if bytes[offset + 1]?.any isDigitByte then do
      let rest ← bytesFrom bytes (offset + 1)
      let stop := (rest.findIdx? (!isDigitByte ·)).elim bytes.length (offset + 1 + ·)
      let digits ← slice template (offset + 1) stop
      let position := Nat.ofDigitChars 10 digits 0
      if 1 ≤ position ∧ position ≤ maxPosition then
        return .ok (some (.positional position, stop))
      else return .error (.invalidPosition offset)
    else return .ok none
  else return .ok none

/-! ## Expressions -/

theorem closingBrace?_pass {part : List UInt8} (depth : Nat)
    (others : ∀ byte ∈ part, byte ≠ '{'.toUInt8 ∧ byte ≠ '}'.toUInt8) (rest : List UInt8) :
    closingBrace? depth (part ++ rest) =
      (closingBrace? depth rest).map (Option.map (· + part.length)) := by
  induction part with
  | nil =>
    rw [List.nil_append]
    cases closingBrace? depth rest with
    | error trap => rfl
    | ok found => cases found <;> rfl
  | cons byte part inductionHypothesis =>
    obtain ⟨notOpening, notClosing⟩ := others byte List.mem_cons_self
    have later := inductionHypothesis fun byte member => others byte (List.mem_cons_of_mem _ member)
    rw [List.cons_append, closingBrace?, if_neg notOpening, if_neg notClosing, later]
    cases closingBrace? depth rest with
    | error trap => rfl
    | ok found => cases found <;> rfl

/-- The size of an expression grows with the character in front of it. -/
theorem map_byteSize_cons (c : Char) (found : Option (Text × Text)) :
    (found.map fun (inner, after) => (c :: inner, after)).map
        (fun split => Text.byteSize split.1) =
      (found.map fun split => split.1.byteSize).map (· + c.utf8Size) := by
  cases found with
  | none => rfl
  | some split => exact congrArg some (Nat.add_comm _ _)

/-- With one brace open at least, the depth does not get below zero. -/
theorem closingBrace?_eq (depth : Nat) (text : Text) :
    closingBrace? (depth + 1) text.bytes =
      .ok ((payload? depth text).map fun split => split.1.byteSize) := by
  fun_induction payload? depth text with
  | case1 => rfl
  | case2 depth rest inductionHypothesis =>
    rw [map_byteSize_cons, Text.bytes_cons]
    change (closingBrace? (depth + 1 + 1) (Text.bytes rest)).map _ = _
    rw [inductionHypothesis]
    rfl
  | case3 rest => rfl
  | case4 rest depth notOpening inductionHypothesis =>
    rw [map_byteSize_cons, Text.bytes_cons]
    change (closingBrace? (depth + 1) (Text.bytes rest)).map _ = _
    rw [inductionHypothesis]
    rfl
  | case5 depth c rest notOpening notClosing inductionHypothesis =>
    -- No byte of another character is a brace.
    have others : ∀ byte ∈ String.utf8EncodeChar c, byte ≠ '{'.toUInt8 ∧ byte ≠ '}'.toUInt8 := by
      refine fun byte member => ⟨fun same => notOpening ?_, fun same => notClosing ?_⟩
      · exact eq_of_toUInt8_mem (by decide) (same ▸ member)
      · exact eq_of_toUInt8_mem (by decide) (same ▸ member)
    rw [map_byteSize_cons, Text.bytes_cons, closingBrace?_pass _ others, inductionHypothesis,
      String.length_utf8EncodeChar]
    rfl

/-! ## Targets -/

def Reading.placed (offset : Nat) : Reading → Except Error (Option (Target × Nat))
  | .absent => .ok none
  | .unterminated => .error (.unterminatedExpression offset)
  | .badPosition => .error (.invalidPosition offset)
  | .found target written _ => .ok (some (target, offset + written.byteSize))

theorem expressionAt_eq {sign : Char} (ascii : sign.toNat < 0x80) (front rest : Text) :
    expressionAt (front ++ sign :: '#' :: '{' :: rest) front.byteSize (front.byteSize + 2) =
      .ok (match payload? 0 rest with
        | some (expression, _) => .ok (expression, front.byteSize + (expression.byteSize + 4))
        | none => .error (.unterminatedExpression front.byteSize)) := by
  have cut := @bytesFrom_behind_two sign '#' ascii (by decide) front ('{' :: rest)
  have close := closingBrace?_eq 0 rest
  have first : closingBrace? 0 (Text.bytes ('{' :: rest)) =
      (closingBrace? 1 rest.bytes).map (Option.map (· + 1)) := rfl
  rw [expressionAt, cut, Checked.bind_ok, first, close]
  cases read : payload? 0 rest with
  | none => rfl
  | some split =>
    obtain ⟨expression, after⟩ := split
    obtain rfl := payload?_append read
    have start : Text.byteSize (front ++ [sign] ++ ['#'] ++ ['{']) = front.byteSize + 2 + 1 := by
      rw [byteSize_concat (by decide), byteSize_concat (by decide), byteSize_concat ascii]
    have closing : front.byteSize + 2 + (expression.byteSize + 1) =
        front.byteSize + 2 + 1 + expression.byteSize := by omega
    have behind : front.byteSize + 2 + (expression.byteSize + 1) + 1 =
        front.byteSize + (expression.byteSize + 4) := by omega
    have inner := slice_append (front ++ [sign] ++ ['#'] ++ ['{']) expression ('}' :: after)
    rw [start, ← closing, ← List.append_cons, ← List.append_cons, ← List.append_cons] at inner
    simp only [Option.map_some, Except.map, Checked.bind_ok, inner, behind]
    rfl

theorem embeddedAt_eq {sign : Char} (ascii : sign.toNat < 0x80) (make : Text → Target)
    (front rest : Text) :
    embeddedAt make (front ++ sign :: '#' :: '{' :: rest) front.byteSize =
      .ok (Reading.placed front.byteSize (match payload? 0 rest with
        | some (expression, after) =>
          .found (make expression) ([sign, '#', '{'] ++ expression ++ ['}']) after
        | none => .unterminated)) := by
  rw [embeddedAt, expressionAt_eq ascii, Checked.bind_ok]
  cases payload? 0 rest with
  | none => rfl
  | some split =>
    obtain ⟨expression, after⟩ := split
    have size : Text.byteSize ([sign, '#', '{'] ++ expression ++ ['}']) =
        expression.byteSize + 4 := by
      have signSize := utf8Size_of_lt ascii
      have braces : '#'.utf8Size = 1 ∧ '{'.utf8Size = 1 ∧ '}'.utf8Size = 1 := by decide
      simp only [Text.byteSize_append, Text.byteSize_cons, Text.byteSize_nil, signSize, braces]
      omega
    simp only [Reading.placed, size]
    rfl

theorem embeds_iff {sign : Char} (ascii : sign.toNat < 0x80) {front rest : Text} :
    ((front ++ sign :: rest).bytes[front.byteSize + 1]? = some '#'.toUInt8 ∧
      (front ++ sign :: rest).bytes[front.byteSize + 2]? = some '{'.toUInt8) ↔
    ∃ tail, rest = '#' :: '{' :: tail := by
  have size := byteSize_concat ascii front
  have brace (later : Text) := @getElem?_bytes_next (front ++ [sign]) later '#' '{' (by decide)
    (by decide)
  simp only [size, Nat.add_assoc, ← List.append_cons] at brace
  rw [getElem?_bytes_next ascii (by decide)]
  constructor
  · rintro ⟨hash, next⟩
    obtain ⟨tail, rfl⟩ := List.head?_eq_some_iff.1 hash
    obtain ⟨tail, rfl⟩ := List.head?_eq_some_iff.1 ((brace tail).1 next)
    exact ⟨tail, rfl⟩
  · rintro ⟨tail, rfl⟩
    exact ⟨rfl, (brace _).2 rfl⟩

/-! ## The byte in front of a marker -/

/-- There is a byte to look back at, unless nothing is in front. -/
theorem isBehindColon_eq (front text : Text) :
    isBehindColon (front ++ text).bytes front.byteSize = .ok (front.getLast? == some ':') := by
  rw [isBehindColon]
  obtain rfl | ⟨init, c, rfl⟩ := List.eq_nil_or_concat' front
  · rfl
  · have positive := c.utf8Size_pos
    have size : Text.byteSize (init ++ [c]) = Text.byteSize init + c.utf8Size := by simp
    have there : c.utf8Size - 1 < (String.utf8EncodeChar c).length := by
      rw [String.length_utf8EncodeChar]
      omega
    have last : (Text.bytes (init ++ [c] ++ text))[Text.byteSize (init ++ [c]) - 1]? =
        some (String.utf8EncodeChar c)[c.utf8Size - 1] := by
      rw [size, Nat.add_sub_assoc positive, ← List.append_cons, getElem?_bytes, Text.bytes_cons,
        List.getElem?_append_left there, List.getElem?_eq_getElem there]
    rw [if_pos (by omega), byteAt, last, Checked.bind_ok, List.getLast?_concat]
    by_cases colon : c = ':'
    · subst colon
      rfl
    · -- The byte may be the last one of a longer character, which is no ASCII byte.
      have other : (String.utf8EncodeChar c)[c.utf8Size - 1] ≠ ':'.toUInt8 := fun same =>
        colon (eq_of_toUInt8_mem (by decide) (same ▸ List.getElem_mem there))
      rw [beq_eq_false_iff_ne.2 other, beq_eq_false_iff_ne.2 (by simpa using colon)]
      rfl

/-! ## Digits -/

theorem isDigitByte_toUInt8 {c : Char} (ascii : c.toNat < 0x80) :
    isDigitByte c.toUInt8 = c.isDigit := by
  rw [isDigitByte, toNat_toUInt8 ascii]
  rfl

/-- The first byte of a character tells whether it is a digit. -/
theorem isDigitByte_lead {c : Char} {lead : UInt8} {inner : List UInt8}
    (written : String.utf8EncodeChar c = lead :: inner) : isDigitByte lead = c.isDigit := by
  obtain ascii | wide := Nat.lt_or_ge c.toNat 0x80
  · rw [utf8EncodeChar_of_lt ascii] at written
    rw [← (List.cons.inj written).1, isDigitByte_toUInt8 ascii]
  · have noDigit : c.isDigit = false :=
      Bool.eq_false_iff.2 fun digit => absurd (toNat_lt_of_isDigit digit) (Nat.not_lt_of_le wide)
    obtain ⟨lead', inner', written', first, -⟩ := exists_lead_of_le wide
    rw [written] at written'
    obtain rfl := (List.cons.inj written').1
    have beyond : ¬lead.toNat ≤ '9'.toNat := fun below =>
      absurd (Nat.le_trans first below) (by decide)
    rw [noDigit, isDigitByte, decide_eq_false beyond, Bool.and_false]

theorem any_isDigitByte (text : Text) :
    text.bytes.head?.any isDigitByte = text.head?.any Char.isDigit := by
  cases text with
  | nil => rfl
  | cons c text =>
    obtain ⟨lead, inner, written, -, -⟩ := exists_lead c
    rw [Text.bytes_cons, written]
    exact isDigitByte_lead written

/-- The digits end at the first byte that is none. -/
theorem digitsEnd_eq (offset : Nat) (text : Text) :
    (text.bytes.findIdx? (!isDigitByte ·)).elim (offset + text.byteSize) (offset + ·) =
      offset + Text.byteSize (text.takeWhile Char.isDigit) := by
  induction text generalizing offset with
  | nil => rfl
  | cons c text inductionHypothesis =>
    rw [Text.bytes_cons, List.takeWhile_cons]
    cases digit : c.isDigit with
    | true =>
      have ascii := toNat_lt_of_isDigit digit
      have rest := inductionHypothesis (offset + 1)
      rw [utf8EncodeChar_of_lt ascii, List.singleton_append, List.findIdx?_cons,
        isDigitByte_toUInt8 ascii, digit]
      simp only [Bool.not_true, Bool.false_eq_true, ↓reduceIte, Option.elim_map, Text.byteSize_cons,
        utf8Size_of_lt ascii, ← Nat.add_assoc]
      rw [← rest]
      congr 1
      funext inside
      simp only [Function.comp_apply]
      omega
    | false =>
      obtain ⟨lead, inner, written, -, -⟩ := exists_lead c
      rw [written, List.cons_append, List.findIdx?_cons, isDigitByte_lead written, digit]
      rfl

/-! ## Targets -/

theorem readNamed_of_bare {rest : Text} (bare : ¬∃ tail, rest = '#' :: '{' :: tail) :
    readNamed rest =
      match rest.takeWhile isWordChar with
      | [] => .absent
      | name => .found (.named name) (':' :: name) (rest.dropWhile isWordChar) := by
  unfold readNamed
  split
  next tail => exact absurd ⟨tail, rfl⟩ bare
  next => rfl

theorem readPositional_of_bare {rest : Text} (bare : ¬∃ tail, rest = '#' :: '{' :: tail)
    (starts : rest.head?.any Char.isDigit = false) : readPositional rest = .absent := by
  unfold readPositional
  split
  next tail => exact absurd ⟨tail, rfl⟩ bare
  next => rw [takeWhile_eq_nil_iff.2 starts]

theorem targetAt_colon (front rest : Text) :
    targetAt (front ++ ':' :: rest) front.byteSize =
      .ok ((readTarget front.getLast? (':' :: rest)).placed front.byteSize) := by
  have here : (front ++ ':' :: rest).bytes[front.byteSize]? = some ':'.toUInt8 :=
    (getElem?_bytes_eq_some_iff (by decide)).2 rfl
  have cut := sliceFrom_append (front ++ [':']) rest
  rw [byteSize_concat (by decide), ← List.append_cons] at cut
  rw [targetAt, readTarget]
  simp only [here, ↓reduceIte, isBehindColon_eq, Checked.bind_ok, beq_iff_eq,
    getElem?_bytes_next (show ':'.toNat < 0x80 by decide) (show ':'.toNat < 0x80 by decide),
    cut]
  split
  · rfl
  · split
    · next double =>
      obtain ⟨tail, rfl⟩ := List.head?_eq_some_iff.1 double
      rfl
    · split
      · next embeds =>
        obtain ⟨tail, rfl⟩ := (embeds_iff (by decide)).1 embeds
        exact embeddedAt_eq (by decide) .namedExpression front tail
      · next bare =>
        rw [readNamed_of_bare (mt (embeds_iff (by decide)).2 bare)]
        cases rest.takeWhile isWordChar with
        | nil => rfl
        | cons c name =>
          rw [Reading.placed, Text.byteSize_cons ':', ← Nat.add_assoc]
          rfl

theorem targetAt_question (front rest : Text) :
    targetAt (front ++ '?' :: rest) front.byteSize =
      .ok ((readTarget front.getLast? ('?' :: rest)).placed front.byteSize) := by
  have here : (front ++ '?' :: rest).bytes[front.byteSize]? = some '?'.toUInt8 :=
    (getElem?_bytes_eq_some_iff (by decide)).2 rfl
  have size : Text.byteSize (front ++ ['?']) = front.byteSize + 1 := byteSize_concat (by decide) _
  have noColon : ¬some '?'.toUInt8 = some ':'.toUInt8 := by decide
  have next : (front ++ '?' :: rest).bytes[front.byteSize + 1]? = rest.bytes.head? := by
    rw [List.append_cons, ← size, getElem?_bytes_zero]
  have cut := @bytesFrom_behind '?' (by decide) front rest
  have digits := slice_append (front ++ ['?']) (rest.takeWhile Char.isDigit)
    (rest.dropWhile Char.isDigit)
  have length : (front ++ '?' :: rest).bytes.length = front.byteSize + 1 + rest.byteSize := by
    rw [Text.length_bytes, List.append_cons, Text.byteSize_append, size]
  rw [List.takeWhile_append_dropWhile, size, ← List.append_cons] at digits
  rw [targetAt, readTarget]
  simp only [here, noColon, ↓reduceIte]
  split
  · next embeds =>
    obtain ⟨tail, rfl⟩ := (embeds_iff (by decide)).1 embeds
    exact embeddedAt_eq (by decide) .positionalExpression front tail
  · next bare =>
    rw [next, any_isDigitByte]
    cases starts : rest.head?.any Char.isDigit with
    | true =>
      rw [readPositional_of_isDigit starts]
      simp only [↓reduceIte, cut, Checked.bind_ok, length, digitsEnd_eq, digits]
      split
      · rw [Reading.placed, Text.byteSize_cons '?', ← Nat.add_assoc]
        rfl
      · rfl
    | false =>
      rw [readPositional_of_bare (mt (embeds_iff (by decide)).2 bare) starts]
      rfl

/-- No access goes wrong, and the marker is the one that is read there. -/
theorem targetAt_eq (front text : Text) :
    targetAt (front ++ text) front.byteSize =
      .ok ((readTarget front.getLast? text).placed front.byteSize) := by
  by_cases colon : text.head? = some ':'
  · obtain ⟨rest, rfl⟩ := List.head?_eq_some_iff.1 colon
    exact targetAt_colon front rest
  by_cases question : text.head? = some '?'
  · obtain ⟨rest, rfl⟩ := List.head?_eq_some_iff.1 question
    exact targetAt_question front rest
  · have absent : readTarget front.getLast? text = .absent := by
      unfold readTarget
      split
      · exact absurd rfl colon
      · exact absurd rfl question
      · rfl
    rw [targetAt]
    simp only [getElem?_bytes_eq_some_iff (show ':'.toNat < 0x80 by decide),
      getElem?_bytes_eq_some_iff (show '?'.toNat < 0x80 by decide), colon, question, absent,
      ↓reduceIte]
    rfl

end QueryTemplate
