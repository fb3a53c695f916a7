import QueryTemplate.Proofs.Cursor.Walk
import QueryTemplate.Proofs.Template.Region
import QueryTemplate.Template.Mask

/-! # Opaque regions by bytes

A region that opens at the cursor is closed by an ASCII byte or by two of them, and no such byte
occurs inside another character. So the byte at which a region ends is the same as when it is read
character by character, and inside a character no region opens.

* `quotedEnd`, `opaqueEnd`: the byte behind a region.
* `opaqueEnd_eq`, `opaqueEnd_inside`: what is found in front of a character, and inside one.
* `maskWalk`, `maskByBytes`: the masked form of a template by bytes.
* `maskWalk_invariant`, `maskByBytes_eq`: the loop makes its way through the template, and its
  result is the masked form.
-/

namespace QueryTemplate

/-! ## The end of a region -/

/-- The end of a quoted text whose opening quote is in front of the offset. -/
def quotedEnd (quote : UInt8) (bytes : List UInt8) (offset : Nat) : Checked Nat :=
  if _inside : offset < bytes.length then do
    let byte ← byteAt bytes offset
    if byte = quote then
      if bytes[offset + 1]? = some quote then quotedEnd quote bytes (offset + 2)
      else return offset + 1
    else quotedEnd quote bytes (offset + 1)
  else return bytes.length
termination_by bytes.length - offset

/-- Where the closing mark of a block comment is first met. -/
def closingMark? : List UInt8 → Option Nat
  | first :: second :: rest =>
    if first = '*'.toUInt8 ∧ second = '/'.toUInt8 then some 0
    else (closingMark? (second :: rest)).map (· + 1)
  | _ => none

/-- The end of the opaque region that opens at the offset. -/
def opaqueEnd (skipComments : Bool) (bytes : List UInt8) (offset : Nat) : Checked (Option Nat) := do
  let next := bytes[offset + 1]?
  let byte ← byteAt bytes offset
  if byte = '\''.toUInt8 ∨ byte = '"'.toUInt8 then
    let stop ← quotedEnd byte bytes (offset + 1)
    return some stop
  else if skipComments ∧ byte = '-'.toUInt8 ∧ next = some '-'.toUInt8 then
    let rest ← bytesFrom bytes offset
    return some ((rest.findIdx? (· == '\n'.toUInt8)).elim bytes.length (offset + · + 1))
  else if skipComments ∧ byte = '/'.toUInt8 ∧ next = some '*'.toUInt8 then
    let rest ← bytesFrom bytes (offset + 2)
    return some ((closingMark? rest).elim bytes.length (offset + 2 + · + 2))
  else return none

/-! ### Quoted text -/

section Quoted

variable {quote : UInt8} {bytes : List UInt8} {offset : Nat}

theorem quotedEnd_other {byte : UInt8} (here : bytes[offset]? = some byte)
    (other : byte ≠ quote) :
    quotedEnd quote bytes offset = quotedEnd quote bytes (offset + 1) := by
  obtain ⟨inside, -⟩ := List.getElem?_eq_some_iff.1 here
  rw [quotedEnd, dif_pos inside]
  simp only [byteAt, here, Checked.bind_ok, if_neg other]

theorem quotedEnd_doubled (here : bytes[offset]? = some quote)
    (doubled : bytes[offset + 1]? = some quote) :
    quotedEnd quote bytes offset = quotedEnd quote bytes (offset + 2) := by
  obtain ⟨inside, -⟩ := List.getElem?_eq_some_iff.1 here
  rw [quotedEnd, dif_pos inside]
  simp only [byteAt, here, Checked.bind_ok, doubled, ↓reduceIte]

theorem quotedEnd_close (here : bytes[offset]? = some quote)
    (single : bytes[offset + 1]? ≠ some quote) :
    quotedEnd quote bytes offset = .ok (offset + 1) := by
  obtain ⟨inside, -⟩ := List.getElem?_eq_some_iff.1 here
  rw [quotedEnd, dif_pos inside]
  simp only [byteAt, here, Checked.bind_ok, ↓reduceIte, if_neg single]
  rfl

theorem quotedEnd_end : quotedEnd quote bytes bytes.length = .ok bytes.length := by
  rw [quotedEnd, dif_neg (Nat.lt_irrefl _)]
  rfl

theorem quotedEnd_pass {before part after : List UInt8} (others : ∀ byte ∈ part, byte ≠ quote) :
    quotedEnd quote (before ++ (part ++ after)) before.length =
      quotedEnd quote (before ++ (part ++ after)) (before.length + part.length) := by
  induction part generalizing before with
  | nil => rfl
  | cons byte part inductionHypothesis =>
    have here : (before ++ (byte :: part ++ after))[before.length]? = some byte := by simp
    have rest := @inductionHypothesis (before ++ [byte]) fun other member =>
      others other (List.mem_cons_of_mem _ member)
    simp only [List.append_assoc, List.singleton_append, List.length_append,
      List.length_singleton] at rest
    rw [quotedEnd_other here (others byte List.mem_cons_self), List.cons_append, rest,
      List.length_cons, Nat.add_assoc, Nat.add_comm 1]

end Quoted

/-- A character that is not the quote is passed over with all its bytes. -/
theorem quotedEnd_char {quote c : Char} (ascii : quote.toNat < 0x80) (other : c ≠ quote)
    (front text : Text) :
    quotedEnd quote.toUInt8 (front ++ c :: text).bytes front.byteSize =
      quotedEnd quote.toUInt8 (front ++ [c] ++ text).bytes (front ++ [c]).byteSize := by
  have others : ∀ byte ∈ String.utf8EncodeChar c, byte ≠ quote.toUInt8 := fun byte member same =>
    other (eq_of_toUInt8_mem ascii (same ▸ member))
  have passed := @quotedEnd_pass _ front.bytes _ text.bytes others
  simpa [String.length_utf8EncodeChar] using passed

theorem quotedEnd_nil (quote : UInt8) (front : Text) :
    quotedEnd quote (front ++ []).bytes front.byteSize = .ok front.byteSize := by
  rw [List.append_nil, ← Text.length_bytes]
  exact quotedEnd_end

theorem quotedEnd_eq {quote : Char} (ascii : quote.toNat < 0x80) (front text : Text) :
    quotedEnd quote.toUInt8 (front ++ text).bytes front.byteSize =
      .ok (front.byteSize + (throughQuote quote text).1.byteSize) := by
  have size := utf8Size_of_lt ascii
  have closed {rest : Text} (single : rest.head? ≠ some quote) (front : Text) :
      quotedEnd quote.toUInt8 (front ++ quote :: rest).bytes front.byteSize =
        .ok (front.byteSize + 1) :=
    quotedEnd_close ((getElem?_bytes_eq_some_iff ascii).2 rfl)
      (mt (getElem?_bytes_next ascii ascii).1 single)
  fun_induction throughQuote quote text generalizing front with
  | case1 => exact quotedEnd_nil _ front
  | case2 c =>
    by_cases same : c = quote
    · rw [same, closed (by simp)]
      simp [size]
    · rw [quotedEnd_char ascii same, quotedEnd_nil, Text.byteSize_append]
  | case3 c d rest other region after read inductionHypothesis =>
    rw [quotedEnd_char ascii other, inductionHypothesis, read]
    simp [Nat.add_assoc]
  | case4 c rest same region after read inductionHypothesis =>
    -- Two quotes are one quote of the text, and reading goes on behind both.
    obtain rfl : c = quote := Decidable.not_not.1 same
    have here : (front ++ c :: c :: rest).bytes[front.byteSize]? = some c.toUInt8 :=
      (getElem?_bytes_eq_some_iff ascii).2 rfl
    have pair := inductionHypothesis (front ++ [c] ++ [c])
    rw [byteSize_concat ascii, byteSize_concat ascii, read, ← List.append_cons,
      ← List.append_cons] at pair
    rw [quotedEnd_doubled here ((getElem?_bytes_next ascii ascii).2 rfl), pair, Text.byteSize_cons,
      Text.byteSize_cons, size]
    simp only [Nat.add_assoc]
  | case5 c d rest same other =>
    obtain rfl : c = quote := Decidable.not_not.1 same
    rw [closed (by simpa using other)]
    simp [size]

/-! ### Comments -/

/-- A line comment ends behind the first line end. -/
theorem lineEnd_eq (offset : Nat) (text : Text) :
    (text.bytes.findIdx? (· == '\n'.toUInt8)).elim (offset + text.byteSize) (offset + · + 1) =
      offset + (throughLineEnd text).1.byteSize := by
  induction text generalizing offset with
  | nil => rfl
  | cons c text inductionHypothesis =>
    rw [throughLineEnd, Text.bytes_cons, List.findIdx?_append]
    by_cases ends : c = '\n'
    · subst ends
      rfl
    · -- No byte of another character ends the line.
      have others : (String.utf8EncodeChar c).findIdx? (· == '\n'.toUInt8) = none := by
        refine List.findIdx?_eq_none_iff.2 fun byte member => beq_eq_false_iff_ne.2 fun same => ?_
        exact ends (eq_of_toUInt8_mem (by decide) (same ▸ member))
      have rest := inductionHypothesis (offset + c.utf8Size)
      rw [others, Option.none_or, String.length_utf8EncodeChar, if_neg ends]
      simp only [Text.byteSize_cons, Option.elim_map, ← Nat.add_assoc] at rest ⊢
      rw [← rest]
      congr 1
      funext inside
      simp only [Function.comp_apply]
      omega

theorem closingMark?_cons {first : UInt8} {rest : List UInt8}
    (noMark : first = '*'.toUInt8 → rest.head? ≠ some '/'.toUInt8) :
    closingMark? (first :: rest) = (closingMark? rest).map (· + 1) := by
  cases rest with
  | nil => rfl
  | cons second rest =>
    have noMark : ¬(first = '*'.toUInt8 ∧ second = '/'.toUInt8) := fun ⟨star, slash⟩ =>
      noMark star (congrArg some slash)
    rw [closingMark?, if_neg noMark]

theorem closingMark?_pass {part : List UInt8} (others : ∀ byte ∈ part, byte ≠ '*'.toUInt8)
    (rest : List UInt8) :
    closingMark? (part ++ rest) = (closingMark? rest).map (· + part.length) := by
  induction part with
  | nil => simp
  | cons byte part inductionHypothesis =>
    have later := inductionHypothesis fun byte member => others byte (List.mem_cons_of_mem _ member)
    have noStar : byte ≠ '*'.toUInt8 := others byte List.mem_cons_self
    rw [List.cons_append, closingMark?_cons fun star => absurd star noStar, later, Option.map_map]
    rfl

theorem closingMark?_char {c : Char} {text : Text} (noMark : c = '*' → text.head? ≠ some '/') :
    closingMark? (Text.bytes (c :: text)) = (closingMark? text.bytes).map (· + c.utf8Size) := by
  rw [Text.bytes_cons, ← String.length_utf8EncodeChar]
  by_cases star : c = '*'
  · subst star
    exact closingMark?_cons fun _ => mt (head?_bytes_eq_some_iff (by decide)).1 (noMark rfl)
  · refine closingMark?_pass (fun byte member same => star ?_) _
    exact eq_of_toUInt8_mem (by decide) (same ▸ member)

/-- A block comment ends behind the first closing mark. -/
theorem blockEnd_eq (offset : Nat) (text : Text) :
    (closingMark? text.bytes).elim (offset + text.byteSize) (offset + · + 2) =
      offset + (throughBlockEnd text).1.byteSize := by
  have passed {c : Char} {rest region : Text} (noMark : c = '*' → rest.head? ≠ some '/')
      (read : ∀ offset, (closingMark? rest.bytes).elim (offset + rest.byteSize) (offset + · + 2) =
        offset + region.byteSize) (offset : Nat) :
      (closingMark? (Text.bytes (c :: rest))).elim (offset + Text.byteSize (c :: rest))
        (offset + · + 2) = offset + Text.byteSize (c :: region) := by
    have later := read (offset + c.utf8Size)
    rw [closingMark?_char noMark]
    simp only [Text.byteSize_cons, Option.elim_map, ← Nat.add_assoc] at later ⊢
    rw [← later]
    congr 1
    funext inside
    simp only [Function.comp_apply]
    omega
  fun_induction throughBlockEnd text generalizing offset with
  | case1 => rfl
  | case2 c => exact passed (by simp) (fun _ => rfl) offset
  | case3 c d rest mark =>
    obtain ⟨rfl, rfl⟩ := mark
    rfl
  | case4 c d rest noMark region after read inductionHypothesis =>
    have noMark : c = '*' → (d :: rest).head? ≠ some '/' := fun star slash =>
      noMark ⟨star, Option.some.inj slash⟩
    rw [read] at inductionHypothesis
    exact passed noMark inductionHypothesis offset

/-! ### All regions -/

/-- A comment opens with two ASCII characters. -/
theorem opens_comment_iff {lead : UInt8} {front rest : Text} {c : Char} (first second : Char)
    (leadIs : lead = first.toUInt8 ↔ c = first) (ascii : first.toNat < 0x80)
    (asciiNext : second.toNat < 0x80) (skipComments : Bool) :
    (skipComments = true ∧ lead = first.toUInt8 ∧
        (front ++ c :: rest).bytes[front.byteSize + 1]? = some second.toUInt8) ↔
      skipComments = true ∧ c = first ∧ rest.head? = some second := by
  rw [leadIs]
  refine and_congr_right fun _ => and_congr_right ?_
  rintro rfl
  exact getElem?_bytes_next ascii asciiNext

/-- In front of a character the region is found that opens there. -/
theorem opaqueEnd_eq (skipComments : Bool) (front : Text) (c : Char) (rest : Text) :
    opaqueEnd skipComments (front ++ c :: rest).bytes front.byteSize =
      .ok ((splitOpaque? skipComments (c :: rest)).map fun split =>
        front.byteSize + split.1.byteSize) := by
  obtain ⟨lead, here, leadIs⟩ := exists_byteAt front c rest
  have quoteIs := (leadIs '\'' (by decide)).or (leadIs '"' (by decide))
  have lineIs := @opens_comment_iff _ front rest _ '-' '-' (leadIs _ (by decide)) (by decide)
    (by decide) skipComments
  have blockIs := @opens_comment_iff _ front rest _ '/' '*' (leadIs _ (by decide)) (by decide)
    (by decide) skipComments
  rw [opaqueEnd, here, Checked.bind_ok, splitOpaque?]
  simp only [quoteIs, lineIs, blockIs]
  split
  · next quotes =>
    have ascii : c.toNat < 0x80 := by obtain rfl | rfl := quotes <;> decide
    rw [(leadIs c ascii).2 rfl, List.append_cons, ← byteSize_concat ascii, quotedEnd_eq ascii,
      byteSize_concat ascii, Checked.bind_ok, Option.map_some, Text.byteSize_cons,
      utf8Size_of_lt ascii, ← Nat.add_assoc]
    rfl
  · split
    · next line =>
      obtain ⟨-, rfl, -⟩ := line
      have stop := lineEnd_eq front.byteSize ('-' :: rest)
      have goesOn : (throughLineEnd ('-' :: rest)).1 = '-' :: (throughLineEnd rest).1 := rfl
      rw [bytesFrom_eq, Checked.bind_ok, Text.length_bytes, Text.byteSize_append, stop, goesOn]
      rfl
    · split
      · next block =>
        obtain ⟨-, rfl, opened⟩ := block
        obtain ⟨tail, rfl⟩ := List.head?_eq_some_iff.1 opened
        have cut := @bytesFrom_behind_two '/' '*' (by decide) (by decide) front tail
        have stop := blockEnd_eq (front.byteSize + 2) tail
        have behindTwo (text : Text) : Text.byteSize ('/' :: '*' :: text) = 2 + text.byteSize := by
          rw [Text.byteSize_cons, Text.byteSize_cons, ← Nat.add_assoc]
          rfl
        rw [cut, Checked.bind_ok, Text.length_bytes, Text.byteSize_append, behindTwo,
          ← Nat.add_assoc, stop, Nat.add_assoc, ← behindTwo]
        rfl
      · rfl

/-- Inside a character no region opens. -/
theorem opaqueEnd_inside {bytes : List UInt8} {offset : Nat} {byte : UInt8}
    (here : bytes[offset]? = some byte) (beyond : 0x80 ≤ byte.toNat) (skipComments : Bool) :
    opaqueEnd skipComments bytes offset = .ok none := by
  have other {d : Char} (ascii : d.toNat < 0x80) : byte ≠ d.toUInt8 := ne_toUInt8_of_le beyond ascii
  have noQuote : ¬(byte = '\''.toUInt8 ∨ byte = '"'.toUInt8) := by
    rintro (same | same)
    · exact other (by decide) same
    · exact other (by decide) same
  rw [opaqueEnd, byteAt, here, Checked.bind_ok, if_neg noQuote, if_neg fun opens =>
    other (by decide) opens.2.1, if_neg fun opens => other (by decide) opens.2.1]
  rfl

/-! ## The masked form -/

structure Masking where
  cursor : Nat
  /-- What is in front of this byte is written to the masked form. -/
  copied : Nat
  masked : Text
  deriving DecidableEq, Repr

def maskWalk (skipComments : Bool) (template : Text) : Walk Empty Masking where
  limit := template.bytes.length
  cursor := Masking.cursor
  turn state := do
    match ← opaqueEnd skipComments template.bytes state.cursor with
    | some stop =>
      let front ← slice template state.copied state.cursor
      return .ok { cursor := stop, copied := stop, masked := state.masked ++ front ++ [' '] }
    | none => return .ok { state with cursor := state.cursor + 1 }

def maskByBytes (skipComments : Bool) (template : Text) : Checked Text := do
  match ← (maskWalk skipComments template).run template.bytes.length ⟨0, 0, []⟩ with
  | .error impossible => nomatch impossible
  | .ok final =>
    let rest ← sliceFrom template final.copied
    return final.masked ++ rest

/-- What is written, what is read behind it and the masked form of the rest make up the masked form
of the template. -/
structure MaskedUpTo (skipComments : Bool) (template : Text) (state : Masking)
    (done pending rest : Text) : Prop where
  passing : Passing template state.cursor (done ++ pending) rest
  copied : state.copied = done.byteSize
  whole : mask skipComments template = state.masked ++ (pending ++ mask skipComments rest)

theorem MaskedUpTo.start (skipComments : Bool) (template : Text) :
    MaskedUpTo skipComments template ⟨0, 0, []⟩ [] [] template where
  passing := passing_of_split rfl rfl
  copied := rfl
  whole := rfl

theorem maskWalk_invariant (skipComments : Bool) (template : Text) :
    (maskWalk skipComments template).Invariant
      (fun state => ∃ done pending rest,
        MaskedUpTo skipComments template state done pending rest)
      (fun _ => False) where
  within := fun state ⟨_, _, _, masked⟩ => masked.passing.le_limit
  turn := by
    rintro ⟨cursor, copied, written⟩ ⟨done, pending, rest, passing, rfl, whole⟩ more
    left
    obtain ⟨inside, byte, here, beyond⟩ | ⟨rfl, c, behind, rfl⟩ := passing.cases more
    · refine ⟨⟨cursor + 1, done.byteSize, written⟩, ?_, ⟨done, pending, rest, ?_⟩,
        Nat.lt_succ_self _⟩
      · simp only [maskWalk, opaqueEnd_inside here beyond, Checked.bind_ok]
        rfl
      · exact ⟨passing.next inside, rfl, whole⟩
    · obtain rfl := passing.split
      have opened := opaqueEnd_eq skipComments (done ++ pending) c behind
      cases found : splitOpaque? skipComments (c :: behind) with
      | none =>
        refine ⟨⟨(done ++ pending).byteSize + 1, done.byteSize, written⟩, ?_,
          ⟨done, pending ++ [c], behind, ?_, rfl, ?_⟩, Nat.lt_succ_self _⟩
        · simp only [maskWalk, opened, found, Option.map_none, Checked.bind_ok]
          rfl
        · rw [← List.append_assoc]
          exact passing_char (done ++ pending) c behind
        · rw [whole, mask_of_clear found, List.append_assoc, List.singleton_append]
      | some split =>
        obtain ⟨region, after⟩ := split
        have parts := splitOpaque?_append found
        have later := Text.byteSize_pos (splitOpaque?_ne_nil found)
        have cut := slice_append done pending (c :: behind)
        rw [← List.append_assoc, ← Text.byteSize_append] at cut
        have stop : (done ++ pending).byteSize + region.byteSize =
            Text.byteSize (done ++ pending ++ region) := (Text.byteSize_append _ _).symm
        refine ⟨⟨(done ++ pending).byteSize + region.byteSize,
          (done ++ pending).byteSize + region.byteSize, written ++ pending ++ [' ']⟩, ?_,
          ⟨done ++ pending ++ region, [], after, ?_, ?_, ?_⟩, Nat.lt_add_of_pos_right later⟩
        · simp only [maskWalk, opened, found, Option.map_some, Checked.bind_ok, cut]
          rfl
        · refine passing_of_split ?_ ?_
          · rw [List.append_nil, List.append_assoc (done ++ pending), parts]
          · rw [List.append_nil, ← stop]
        · exact stop
        · rw [whole, mask_of_region found]
          simp

theorem maskByBytes_eq (skipComments : Bool) (template : Text) :
    maskByBytes skipComments template = .ok (mask skipComments template) := by
  have begins := MaskedUpTo.start skipComments template
  obtain ⟨⟨cursor, copied, written⟩, ended, ⟨done, pending, rest, passing, rfl, whole⟩, atEnd⟩ |
      ⟨error, -, impossible⟩ :=
    (maskWalk_invariant skipComments template).run ⟨[], [], template, begins⟩
      (Nat.le_add_left template.bytes.length 0)
  · obtain rfl := passing.rest_eq_nil atEnd
    obtain rfl : template = done ++ pending := by simpa using passing.split
    rw [maskByBytes, ended, Checked.bind_ok]
    simp only [sliceFrom_append, Checked.bind_ok, whole, mask_nil, List.append_nil]
    rfl
  · exact impossible.elim

end QueryTemplate
