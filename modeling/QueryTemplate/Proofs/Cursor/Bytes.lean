import Mathlib.Data.List.Infix
import QueryTemplate.Text.Basic

/-! # Texts as bytes

The scan of a template can be carried out with a cursor that counts bytes. Then a byte that is
looked at has to be there, and a part that is cut out has to begin and end between two characters.
Such an access is *checked*: it gives its result, or the trap that it falls into.

* `Text.bytes`: the UTF-8 form of a text.
* `Trap`, `Checked`: accesses that go wrong, and checked computations.
* `byteAt`, `bytesFrom`, `slice`, `sliceFrom`: bytes and parts of a text.
* `isBoundary_iff`: the check of one byte finds out whether a character begins there.
* `slice_eq_ok_iff`: a part can be cut out exactly where a split of the text leaves it.
-/

namespace QueryTemplate

/-- The UTF-8 form of a text. Bytes are valid UTF-8 if they are the form of some text. -/
def Text.bytes (text : Text) : List UInt8 := text.flatMap String.utf8EncodeChar

inductive Trap where
  /-- There is no byte at the offset. -/
  | index (offset : Nat)
  /-- An end lies outside of the text or inside a character, or the ends are in the wrong order. -/
  | slice (start stop : Nat)
  /-- A depth below zero. -/
  | depth
  /-- A loop is not over when its turns are used up. -/
  | turns
  deriving DecidableEq, Repr

abbrev Checked := Except Trap

def byteAt (bytes : List UInt8) (offset : Nat) : Checked UInt8 :=
  match bytes[offset]? with
  | some byte => .ok byte
  | none => .error (.index offset)

def bytesFrom (bytes : List UInt8) (start : Nat) : Checked (List UInt8) :=
  if start ≤ bytes.length then .ok (bytes.drop start) else .error (.slice start bytes.length)

/-- No character goes on at the offset: the byte there begins a character, or the text ends. -/
def isBoundary (bytes : List UInt8) (offset : Nat) : Bool :=
  offset == 0 ||
    match bytes[offset]? with
    | some byte => byte.toNat < 0x80 || 0xC0 ≤ byte.toNat
    | none => offset == bytes.length

/-- The characters from a byte on. -/
def Text.dropBytes : Text → Nat → Text
  | [], _ => []
  | c :: text, size => if size = 0 then c :: text else Text.dropBytes text (size - c.utf8Size)

/-- The characters in front of a byte. -/
def Text.takeBytes : Text → Nat → Text
  | [], _ => []
  | c :: text, size => if size = 0 then [] else c :: Text.takeBytes text (size - c.utf8Size)

/-- The part of a text between two bytes. -/
def slice (text : Text) (start stop : Nat) : Checked Text :=
  if start ≤ stop ∧ stop ≤ text.bytes.length ∧ isBoundary text.bytes start ∧
      isBoundary text.bytes stop then
    .ok ((text.dropBytes start).takeBytes (stop - start))
  else .error (.slice start stop)

def sliceFrom (text : Text) (start : Nat) : Checked Text := slice text start text.bytes.length

theorem Checked.bind_ok {α β : Type} (value : α) (next : α → Checked β) :
    (Except.ok value >>= next) = next value := rfl

/-! ## The bytes of a text -/

namespace Text

@[simp] theorem bytes_nil : Text.bytes [] = [] := rfl

@[simp] theorem bytes_cons (c : Char) (text : Text) :
    Text.bytes (c :: text) = String.utf8EncodeChar c ++ text.bytes := rfl

@[simp] theorem bytes_append (first second : Text) :
    Text.bytes (first ++ second) = first.bytes ++ second.bytes := List.flatMap_append

@[simp] theorem length_bytes (text : Text) : text.bytes.length = text.byteSize := by
  induction text with
  | nil => rfl
  | cons c text inductionHypothesis =>
    rw [bytes_cons, List.length_append, String.length_utf8EncodeChar, inductionHypothesis,
      byteSize_cons]

end Text

/-- Behind a front part the bytes are those of the rest. -/
theorem getElem?_bytes (front text : Text) (offset : Nat) :
    (front ++ text).bytes[front.byteSize + offset]? = text.bytes[offset]? := by
  rw [Text.bytes_append, ← Text.length_bytes, List.getElem?_append_right (Nat.le_add_right _ _),
    Nat.add_sub_cancel_left]

theorem getElem?_bytes_zero (front text : Text) :
    (front ++ text).bytes[front.byteSize]? = text.bytes.head? := by
  rw [← Nat.add_zero front.byteSize, getElem?_bytes, List.head?_eq_getElem?]

theorem bytesFrom_eq (front text : Text) :
    bytesFrom (front ++ text).bytes front.byteSize = .ok text.bytes := by
  rw [bytesFrom, if_pos (by simp), Text.bytes_append, List.drop_left' (Text.length_bytes front)]

/-! ## The bytes of one character -/

theorem utf8EncodeChar_of_lt {c : Char} (ascii : c.toNat < 0x80) :
    String.utf8EncodeChar c = [c.toUInt8] := by
  have small : c.val.toNat ≤ 127 := Nat.le_of_lt_succ ascii
  rw [String.utf8EncodeChar]
  simp only [small, ↓reduceIte]
  rfl

/-- A character beyond ASCII has no byte below 128, and only its first byte is one that a character
can begin with. -/
theorem exists_lead_of_le {c : Char} (wide : 0x80 ≤ c.toNat) :
    ∃ lead inner, String.utf8EncodeChar c = lead :: inner ∧ 0xC0 ≤ lead.toNat ∧
      ∀ byte ∈ inner, 0x80 ≤ byte.toNat ∧ byte.toNat < 0xC0 := by
  have large : ¬c.val.toNat ≤ 127 := Nat.not_le_of_lt wide
  rw [String.utf8EncodeChar]
  simp only [large, ↓reduceIte]
  split
  · refine ⟨_, _, rfl, ?_⟩
    simp only [List.forall_mem_singleton, UInt8.toNat_ofNat']
    omega
  · split
    · refine ⟨_, _, rfl, ?_⟩
      simp only [List.forall_mem_cons, List.not_mem_nil, false_implies, implies_true, and_true,
        UInt8.toNat_ofNat']
      omega
    · refine ⟨_, _, rfl, ?_⟩
      simp only [List.forall_mem_cons, List.not_mem_nil, false_implies, implies_true, and_true,
        UInt8.toNat_ofNat']
      omega

theorem toNat_toUInt8 {c : Char} (ascii : c.toNat < 0x80) : c.toUInt8.toNat = c.toNat :=
  Nat.mod_eq_of_lt (Nat.lt_trans ascii (by decide))

/-- A character has a first byte, which alone is one that a character can begin with. -/
theorem exists_lead (c : Char) :
    ∃ lead inner, String.utf8EncodeChar c = lead :: inner ∧
      (lead.toNat < 0x80 ∨ 0xC0 ≤ lead.toNat) ∧
      ∀ byte ∈ inner, 0x80 ≤ byte.toNat ∧ byte.toNat < 0xC0 := by
  obtain ascii | wide := Nat.lt_or_ge c.toNat 0x80
  · refine ⟨_, _, utf8EncodeChar_of_lt ascii, .inl ?_, nofun⟩
    rwa [toNat_toUInt8 ascii]
  · obtain ⟨lead, inner, written, first, goesOn⟩ := exists_lead_of_le wide
    exact ⟨lead, inner, written, .inr first, goesOn⟩

/-- An ASCII byte occurs in the form of its own character only. -/
theorem eq_of_toUInt8_mem {c d : Char} (ascii : d.toNat < 0x80)
    (member : d.toUInt8 ∈ String.utf8EncodeChar c) : c = d := by
  have value := toNat_toUInt8 ascii
  obtain alsoAscii | wide := Nat.lt_or_ge c.toNat 0x80
  · rw [utf8EncodeChar_of_lt alsoAscii, List.mem_singleton] at member
    rw [member, toNat_toUInt8 alsoAscii] at value
    exact Char.toNat_inj.1 value
  · obtain ⟨lead, inner, written, first, goesOn⟩ := exists_lead_of_le wide
    rw [written, List.mem_cons] at member
    obtain rfl | member := member
    · omega
    · have := (goesOn _ member).1
      omega

theorem head?_bytes_eq_some_iff {text : Text} {d : Char} (ascii : d.toNat < 0x80) :
    text.bytes.head? = some d.toUInt8 ↔ text.head? = some d := by
  cases text with
  | nil => simp
  | cons c text =>
    constructor
    · intro same
      obtain ⟨lead, inner, written, -, -⟩ := exists_lead c
      rw [Text.bytes_cons, written] at same
      have first : lead = d.toUInt8 := Option.some.inj same
      have member : d.toUInt8 ∈ String.utf8EncodeChar c := by simp [written, first]
      exact congrArg some (eq_of_toUInt8_mem ascii member)
    · intro same
      obtain rfl : c = d := Option.some.inj same
      rw [Text.bytes_cons, utf8EncodeChar_of_lt ascii]
      rfl

theorem getElem?_bytes_eq_some_iff {front text : Text} {d : Char} (ascii : d.toNat < 0x80) :
    (front ++ text).bytes[front.byteSize]? = some d.toUInt8 ↔ text.head? = some d := by
  rw [getElem?_bytes_zero, head?_bytes_eq_some_iff ascii]

/-- The first byte of a character tells the ASCII characters apart from all others. -/
theorem exists_byteAt (front : Text) (c : Char) (rest : Text) :
    ∃ lead, byteAt (front ++ c :: rest).bytes front.byteSize = .ok lead ∧
      ∀ d : Char, d.toNat < 0x80 → (lead = d.toUInt8 ↔ c = d) := by
  obtain ⟨lead, inner, written, -, -⟩ := exists_lead c
  have here : (front ++ c :: rest).bytes[front.byteSize]? = some lead := by
    rw [getElem?_bytes_zero, Text.bytes_cons, written]
    rfl
  refine ⟨lead, by rw [byteAt, here], fun d ascii => ?_⟩
  have same := @getElem?_bytes_eq_some_iff front (c :: rest) d ascii
  rw [here] at same
  simpa using same

theorem ne_toUInt8_of_le {byte : UInt8} (beyond : 0x80 ≤ byte.toNat) {d : Char}
    (ascii : d.toNat < 0x80) : byte ≠ d.toUInt8 := by
  rintro rfl
  rw [toNat_toUInt8 ascii] at beyond
  omega

theorem utf8Size_of_lt {c : Char} (ascii : c.toNat < 0x80) : c.utf8Size = 1 := by
  rw [← String.length_utf8EncodeChar, utf8EncodeChar_of_lt ascii, List.length_singleton]

theorem byteSize_concat {c : Char} (ascii : c.toNat < 0x80) (front : Text) :
    Text.byteSize (front ++ [c]) = front.byteSize + 1 := by
  rw [Text.byteSize_append, Text.byteSize_cons, utf8Size_of_lt ascii, Text.byteSize_nil]

theorem bytesFrom_behind {c : Char} (ascii : c.toNat < 0x80) (front rest : Text) :
    bytesFrom (front ++ c :: rest).bytes (front.byteSize + 1) = .ok rest.bytes := by
  have cut := bytesFrom_eq (front ++ [c]) rest
  rwa [byteSize_concat ascii, ← List.append_cons] at cut

theorem bytesFrom_behind_two {c d : Char} (ascii : c.toNat < 0x80) (asciiNext : d.toNat < 0x80)
    (front rest : Text) :
    bytesFrom (front ++ c :: d :: rest).bytes (front.byteSize + 2) = .ok rest.bytes := by
  have cut := bytesFrom_behind asciiNext (front ++ [c]) rest
  rwa [byteSize_concat ascii, ← List.append_cons] at cut

/-- Behind an ASCII character the next character begins one byte later. -/
theorem getElem?_bytes_next {front rest : Text} {c d : Char} (ascii : c.toNat < 0x80)
    (asciiNext : d.toNat < 0x80) :
    (front ++ c :: rest).bytes[front.byteSize + 1]? = some d.toUInt8 ↔ rest.head? = some d := by
  rw [List.append_cons, ← byteSize_concat ascii, getElem?_bytes_eq_some_iff asciiNext]

/-! ## Cutting out a part -/

theorem isBoundary_append (front rest : Text) :
    isBoundary (front ++ rest).bytes front.byteSize = true := by
  rw [isBoundary, Bool.or_eq_true, getElem?_bytes_zero]
  right
  cases rest with
  | nil => simp
  | cons c rest =>
    obtain ⟨lead, inner, written, first, -⟩ := exists_lead c
    simpa [written] using first

/-- Behind its first byte a character goes on with bytes that no character begins with. -/
theorem exists_byte_inside {c : Char} {offset : Nat} (positive : 0 < offset)
    (inside : offset < c.utf8Size) (text : Text) :
    ∃ byte, (Text.bytes (c :: text))[offset]? = some byte ∧
      0x80 ≤ byte.toNat ∧ byte.toNat < 0xC0 := by
  obtain ⟨lead, inner, written, -, goesOn⟩ := exists_lead c
  obtain ⟨earlier, rfl⟩ := Nat.exists_eq_add_of_lt positive
  rw [Nat.zero_add] at inside ⊢
  rw [← String.length_utf8EncodeChar, written, List.length_cons] at inside
  have there : earlier < inner.length := Nat.lt_of_succ_lt_succ inside
  refine ⟨inner[earlier], ?_, goesOn _ (List.getElem_mem there)⟩
  rw [Text.bytes_cons, written, List.cons_append, List.getElem?_cons_succ,
    List.getElem?_append_left there, List.getElem?_eq_getElem there]

theorem isBoundary_behind {c : Char} {text : Text} {offset : Nat}
    (boundary : isBoundary (Text.bytes (c :: text)) (c.utf8Size + offset) = true) :
    isBoundary text.bytes offset = true := by
  have positive := c.utf8Size_pos
  have moved := getElem?_bytes [c] text offset
  simp only [Text.byteSize_cons, Text.byteSize_nil, Nat.add_zero, List.singleton_append] at moved
  simp only [isBoundary, moved, Text.length_bytes, Text.byteSize_cons, Bool.or_eq_true,
    beq_iff_eq] at boundary ⊢
  obtain start | boundary := boundary
  · omega
  · right
    cases there : text.bytes[offset]? with
    | some byte =>
      rw [there] at boundary
      exact boundary
    | none =>
      rw [there] at boundary
      simpa using boundary

/-- A character begins at the offset, or the text ends there, exactly if the text can be split
there. -/
theorem isBoundary_iff {text : Text} {offset : Nat} :
    isBoundary text.bytes offset = true ↔
      ∃ front rest, text = front ++ rest ∧ front.byteSize = offset := by
  constructor
  · intro boundary
    induction text generalizing offset with
    | nil =>
      have start : offset = 0 := by simpa [isBoundary] using boundary
      exact ⟨[], [], rfl, start.symm⟩
    | cons c text inductionHypothesis =>
      obtain start | positive := Nat.eq_zero_or_pos offset
      · exact ⟨[], c :: text, rfl, start.symm⟩
      obtain inside | behind := Nat.lt_or_ge offset c.utf8Size
      · -- A byte with which a character goes on is no boundary.
        obtain ⟨byte, here, goesOn⟩ := exists_byte_inside positive inside text
        simp only [isBoundary, here, Bool.or_eq_true, beq_iff_eq, decide_eq_true_eq] at boundary
        omega
      · obtain ⟨later, rfl⟩ := Nat.exists_eq_add_of_le behind
        obtain ⟨front, rest, rfl, rfl⟩ := inductionHypothesis (isBoundary_behind boundary)
        exact ⟨c :: front, rest, rfl, rfl⟩
  · rintro ⟨front, rest, rfl, rfl⟩
    exact isBoundary_append front rest

theorem dropBytes_append (front rest : Text) :
    (front ++ rest).dropBytes front.byteSize = rest := by
  induction front with
  | nil => cases rest <;> rfl
  | cons c front inductionHypothesis =>
    have positive := c.utf8Size_pos
    rw [List.cons_append, Text.dropBytes, Text.byteSize_cons, if_neg (by omega),
      Nat.add_sub_cancel_left, inductionHypothesis]

theorem takeBytes_append (front rest : Text) :
    (front ++ rest).takeBytes front.byteSize = front := by
  induction front with
  | nil => cases rest <;> rfl
  | cons c front inductionHypothesis =>
    have positive := c.utf8Size_pos
    rw [List.cons_append, Text.takeBytes, Text.byteSize_cons, if_neg (by omega),
      Nat.add_sub_cancel_left, inductionHypothesis]

theorem slice_append (front part rest : Text) :
    slice (front ++ (part ++ rest)) front.byteSize (front.byteSize + part.byteSize) = .ok part := by
  have start := isBoundary_append front (part ++ rest)
  have stop := isBoundary_append (front ++ part) rest
  rw [List.append_assoc, Text.byteSize_append] at stop
  rw [slice, if_pos ⟨Nat.le_add_right _ _, by simp, start, stop⟩, dropBytes_append,
    Nat.add_sub_cancel_left, takeBytes_append]

theorem Text.eq_nil_of_byteSize {text : Text} (empty : text.byteSize = 0) : text = [] := by
  cases text with
  | nil => rfl
  | cons c text =>
    have positive := c.utf8Size_pos
    rw [byteSize_cons] at empty
    omega

theorem Text.byteSize_pos {text : Text} (nonempty : text ≠ []) : 0 < text.byteSize :=
  Nat.pos_of_ne_zero (mt eq_nil_of_byteSize nonempty)

/-- Of two splits of a text, the later one leaves a part in between. -/
theorem exists_part_between {front rest whole tail : Text} (split : front ++ rest = whole ++ tail)
    (ordered : front.byteSize ≤ whole.byteSize) :
    ∃ part, whole = front ++ part ∧ rest = part ++ tail := by
  obtain ⟨part, between⟩ | ⟨part, rfl, rfl⟩ := List.append_eq_append_iff.1 split
  · exact ⟨part, between⟩
  · rw [Text.byteSize_append] at ordered
    obtain rfl : part = [] := Text.eq_nil_of_byteSize (by omega)
    exact ⟨[], by simp, rfl⟩

/-- What is cut out is a part of the text, which begins and ends between two characters. -/
theorem slice_eq_ok_iff {text part : Text} {start stop : Nat} :
    slice text start stop = .ok part ↔
      ∃ front rest, text = front ++ (part ++ rest) ∧ front.byteSize = start ∧
        stop = start + part.byteSize := by
  constructor
  · intro cut
    have taken := cut
    rw [slice] at cut
    split at cut
    · next fits =>
      obtain ⟨ordered, -, starts, stops⟩ := fits
      obtain ⟨front, rest, rfl, rfl⟩ := isBoundary_iff.1 starts
      obtain ⟨whole, tail, split, rfl⟩ := isBoundary_iff.1 stops
      obtain ⟨between, rfl, rfl⟩ := exists_part_between split ordered
      rw [Text.byteSize_append, slice_append] at taken
      obtain rfl := Except.ok.inj taken
      exact ⟨front, tail, rfl, rfl, Text.byteSize_append _ _⟩
    · cases cut
  · rintro ⟨front, rest, rfl, rfl, rfl⟩
    exact slice_append front part rest

example : slice ['é', 'a'] 1 3 = .error (.slice 1 3) ∧ slice ['é', 'a'] 2 3 = .ok ['a'] := by
  decide

theorem sliceFrom_append (front rest : Text) :
    sliceFrom (front ++ rest) front.byteSize = .ok rest := by
  have whole := slice_append front rest []
  rw [sliceFrom, Text.length_bytes, Text.byteSize_append]
  rwa [List.append_nil] at whole

end QueryTemplate
