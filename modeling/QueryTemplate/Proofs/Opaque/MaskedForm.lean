import QueryTemplate.Proofs.Opaque.Comment
import QueryTemplate.Proofs.Opaque.Quotation
import QueryTemplate.Proofs.Template.Literal

/-! # The masked form of a text

Masking cuts a text into opaque regions and single characters, from left to right, and leaves one
space for each region. In what is left no region begins: the space keeps the characters around a
region from coming together to a quote or to the opening mark of a comment. Masking it again changes
nothing.

* `OpaqueRegion`: quoted texts and comments by their form.
* `splitOpaque?_eq_some_iff`: the reader of regions finds them and nothing else.
* `MaskPart`, `CutIntoRegions`: a text cut from left to right.
* `transparent_mask`: no region begins in the masked form.
* `mask_leaves_no_region`: the masked form of any text.
-/

namespace QueryTemplate

/-! ## Regions by their form -/

/-- A quoted text or a comment, in front of the text behind it. Without its closing mark it reaches
to the end of the text. -/
inductive OpaqueRegion (skipComments : Bool) : Text → Text → Prop where
  | quoted {quote : Char} {content after : Text} (quotes : quote = '\'' ∨ quote = '"')
      (doubled : Doubled quote content) (single : after.head? ≠ some quote) :
      OpaqueRegion skipComments (quotation quote content) after
  | unclosedQuote {quote : Char} {content : Text} (quotes : quote = '\'' ∨ quote = '"')
      (doubled : Doubled quote content) : OpaqueRegion skipComments (quote :: content) []
  | line {body after : Text} (skips : skipComments = true) (unbroken : '\n' ∉ body) :
      OpaqueRegion skipComments (lineComment body) after
  | lastLine {body : Text} (skips : skipComments = true) (unbroken : '\n' ∉ body) :
      OpaqueRegion skipComments ('-' :: '-' :: body) []
  | block {body after : Text} (skips : skipComments = true) (unclosed : ¬['*', '/'] <:+: body) :
      OpaqueRegion skipComments (blockComment body) after
  | unclosedBlock {body : Text} (skips : skipComments = true)
      (unclosed : ¬['*', '/'] <:+: body) : OpaqueRegion skipComments ('/' :: '*' :: body) []

/-! ## Reading a region -/

theorem Doubled.throughQuote_unclosed {quote : Char} {content : Text}
    (doubled : Doubled quote content) : throughQuote quote content = (content, []) := by
  induction doubled with
  | nil => rfl
  | other noQuote _ inductionHypothesis => rw [throughQuote_of_ne noQuote, inductionHypothesis]
  | pair _ inductionHypothesis => rw [throughQuote_doubled, inductionHypothesis]

theorem throughLineEnd_unbroken {body : Text} (unbroken : '\n' ∉ body) :
    throughLineEnd body = (body, []) := by
  induction body with
  | nil => rfl
  | cons c body inductionHypothesis =>
    obtain ⟨other, later⟩ : '\n' ≠ c ∧ '\n' ∉ body := by simpa using unbroken
    rw [throughLineEnd, if_neg other.symm, inductionHypothesis later]

theorem throughBlockEnd_unclosed {body : Text} (unclosed : ¬['*', '/'] <:+: body) :
    throughBlockEnd body = (body, []) := by
  induction body with
  | nil => rfl
  | cons c body inductionHypothesis =>
    obtain ⟨stays, later⟩ := not_or.1 (mt pair_infix_cons_iff.2 unclosed)
    rw [throughBlockEnd_of_open stays, inductionHypothesis later]

/-- A quoted text is read up to the first quote that is not doubled, or to the end. -/
theorem doubled_of_throughQuote {quote : Char} {text region after : Text}
    (through : throughQuote quote text = (region, after)) :
    (∃ content, Doubled quote content ∧ region = content ++ [quote] ∧
      after.head? ≠ some quote) ∨ (Doubled quote region ∧ after = []) := by
  fun_induction throughQuote quote text generalizing region after with
  | case1 =>
    cases through
    exact .inr ⟨.nil, rfl⟩
  | case2 c =>
    cases through
    by_cases same : c = quote
    · exact .inl ⟨[], .nil, by rw [same]; rfl, by simp⟩
    · exact .inr ⟨.other same .nil, rfl⟩
  | case3 c d rest other inner later split inductionHypothesis =>
    cases through
    obtain ⟨content, doubled, rfl, single⟩ | ⟨doubled, rfl⟩ := inductionHypothesis split
    · exact .inl ⟨c :: content, .other other doubled, rfl, single⟩
    · exact .inr ⟨.other other doubled, rfl⟩
  | case4 c rest same inner later split inductionHypothesis =>
    cases through
    obtain rfl := Decidable.not_not.1 same
    obtain ⟨content, doubled, rfl, single⟩ | ⟨doubled, rfl⟩ := inductionHypothesis split
    · exact .inl ⟨_ :: _ :: content, .pair doubled, rfl, single⟩
    · exact .inr ⟨.pair doubled, rfl⟩
  | case5 c d rest same other =>
    cases through
    exact .inl ⟨[], .nil, by rw [Decidable.not_not.1 same]; rfl, by simpa using other⟩

theorem unbroken_of_throughLineEnd {text region after : Text}
    (through : throughLineEnd text = (region, after)) :
    (∃ body, '\n' ∉ body ∧ region = body ++ ['\n']) ∨ ('\n' ∉ region ∧ after = []) := by
  fun_induction throughLineEnd text generalizing region after with
  | case1 =>
    cases through
    exact .inr ⟨List.not_mem_nil, rfl⟩
  | case2 rest =>
    cases through
    exact .inl ⟨[], List.not_mem_nil, rfl⟩
  | case3 c rest other inner later split inductionHypothesis =>
    cases through
    obtain ⟨body, unbroken, rfl⟩ | ⟨unbroken, rfl⟩ := inductionHypothesis split
    · exact .inl ⟨c :: body, by simp [Ne.symm other, unbroken], rfl⟩
    · exact .inr ⟨by simp [Ne.symm other, unbroken], rfl⟩

theorem unclosed_of_throughBlockEnd {text region after : Text}
    (through : throughBlockEnd text = (region, after)) :
    (∃ body, ¬['*', '/'] <:+: body ∧ region = body ++ ['*', '/']) ∨
      (¬['*', '/'] <:+: region ∧ after = []) := by
  fun_induction throughBlockEnd text generalizing region after with
  | case1 =>
    cases through
    exact .inr ⟨by simp, rfl⟩
  | case2 c =>
    cases through
    exact .inr ⟨by simp [pair_infix_cons_iff], rfl⟩
  | case3 c d rest closes =>
    cases through
    exact .inl ⟨[], by simp, by rw [closes.1, closes.2]; rfl⟩
  | case4 c d rest opened inner later split inductionHypothesis =>
    cases through
    have head := throughBlockEnd_head? (d :: rest)
    rw [split] at head
    have longer {body : Text} (unclosed : ¬['*', '/'] <:+: body)
        (begins : body.head? = some '/' → inner.head? = some '/') :
        ¬['*', '/'] <:+: c :: body := by
      rw [pair_infix_cons_iff]
      rintro (⟨rfl, slash⟩ | inside)
      · exact opened ⟨rfl, by simpa [begins slash] using head.symm⟩
      · exact unclosed inside
    obtain ⟨body, unclosed, rfl⟩ | ⟨unclosed, rfl⟩ := inductionHypothesis split
    · exact .inl ⟨c :: body, longer unclosed fun slash => by simp [slash], rfl⟩
    · exact .inr ⟨longer unclosed id, rfl⟩

theorem OpaqueRegion.splitOpaque?_eq {skipComments : Bool} {region after : Text}
    (opaqueRegion : OpaqueRegion skipComments region after) :
    splitOpaque? skipComments (region ++ after) = some (region, after) := by
  cases opaqueRegion with
  | quoted quotes doubled single => exact splitOpaque?_quotation skipComments quotes doubled single
  | unclosedQuote quotes doubled =>
    rw [List.append_nil, splitOpaque?, if_pos quotes, doubled.throughQuote_unclosed]
  | line skips unbroken =>
    rw [skips]
    exact splitOpaque?_lineComment unbroken after
  | @lastLine body skips unbroken =>
    have inside : '\n' ∉ '-' :: body := by simpa using unbroken
    rw [List.append_nil, splitOpaque?, if_neg (by decide), if_pos ⟨skips, rfl, rfl⟩,
      throughLineEnd_unbroken inside]
  | block skips unclosed =>
    rw [skips]
    exact splitOpaque?_blockComment unclosed after
  | unclosedBlock skips unclosed =>
    rw [List.append_nil, splitOpaque?, if_neg (by decide), if_neg (by simp),
      if_pos ⟨skips, rfl, rfl⟩, List.tail_cons, throughBlockEnd_unclosed unclosed]

theorem opaqueRegion_of_splitOpaque? {skipComments : Bool} {text region after : Text}
    (found : splitOpaque? skipComments text = some (region, after)) :
    OpaqueRegion skipComments region after := by
  cases text with
  | nil => cases found
  | cons c rest =>
    rw [splitOpaque?] at found
    split at found
    next quotes =>
      cases through : throughQuote c rest with
      | mk inner later =>
        rw [through] at found
        cases found
        obtain ⟨content, doubled, rfl, single⟩ | ⟨doubled, rfl⟩ := doubled_of_throughQuote through
        · exact .quoted quotes doubled single
        · exact .unclosedQuote quotes doubled
    next =>
      split at found
      next dashes =>
        obtain ⟨skips, rfl, dash⟩ := dashes
        obtain ⟨line, rfl⟩ := List.head?_eq_some_iff.1 dash
        cases through : throughLineEnd line with
        | mk inner later =>
          rw [throughLineEnd, if_neg (by decide), through] at found
          cases found
          obtain ⟨body, unbroken, rfl⟩ | ⟨unbroken, rfl⟩ := unbroken_of_throughLineEnd through
          · exact .line skips unbroken
          · exact .lastLine skips unbroken
      next =>
        split at found
        next opens =>
          obtain ⟨skips, rfl, star⟩ := opens
          obtain ⟨block, rfl⟩ := List.head?_eq_some_iff.1 star
          cases through : throughBlockEnd block with
          | mk inner later =>
            rw [List.tail_cons, through] at found
            cases found
            obtain ⟨body, unclosed, rfl⟩ | ⟨unclosed, rfl⟩ := unclosed_of_throughBlockEnd through
            · exact .block skips unclosed
            · exact .unclosedBlock skips unclosed
        next => cases found

/-- The region that is read is the opaque region with which the text begins, if there is one. -/
theorem splitOpaque?_eq_some_iff {skipComments : Bool} {text region after : Text} :
    splitOpaque? skipComments text = some (region, after) ↔
      text = region ++ after ∧ OpaqueRegion skipComments region after := by
  constructor
  · intro found
    exact ⟨(splitOpaque?_append found).symm, opaqueRegion_of_splitOpaque? found⟩
  · rintro ⟨rfl, opaqueRegion⟩
    exact opaqueRegion.splitOpaque?_eq

/-! ## Cutting from left to right -/

inductive MaskPart where
  | kept (c : Char)
  | region (written : Text)
  deriving DecidableEq, Repr

namespace MaskPart

def written : MaskPart → Text
  | kept c => [c]
  | region written => written

def masked : MaskPart → Text
  | kept c => [c]
  | region _ => [' ']

end MaskPart

/-- The parts of a text that is cut from left to right: an opaque region wherever one begins, and a
single character where none does. -/
inductive CutIntoRegions (skipComments : Bool) : List MaskPart → Prop where
  | nil : CutIntoRegions skipComments []
  | region {region : Text} {behind : List MaskPart}
      (opens : OpaqueRegion skipComments region (behind.flatMap MaskPart.written))
      (cut : CutIntoRegions skipComments behind) :
      CutIntoRegions skipComments (.region region :: behind)
  | kept {c : Char} {behind : List MaskPart}
      (opensNone : ∀ region after, c :: behind.flatMap MaskPart.written = region ++ after →
        ¬OpaqueRegion skipComments region after)
      (cut : CutIntoRegions skipComments behind) :
      CutIntoRegions skipComments (.kept c :: behind)

theorem exists_cutIntoRegions (skipComments : Bool) (text : Text) :
    ∃ parts, CutIntoRegions skipComments parts ∧ parts.flatMap MaskPart.written = text ∧
      parts.flatMap MaskPart.masked = mask skipComments text := by
  match text with
  | [] => exact ⟨[], .nil, rfl, by simp⟩
  | c :: rest =>
    cases found : splitOpaque? skipComments (c :: rest) with
    | some split =>
      obtain ⟨region, after⟩ := split
      have shorter := splitOpaque?_length_lt found
      obtain ⟨parts, cut, rfl, masked⟩ := exists_cutIntoRegions skipComments after
      obtain ⟨whole, opens⟩ := splitOpaque?_eq_some_iff.1 found
      refine ⟨.region region :: parts, .region opens cut, whole.symm, ?_⟩
      rw [mask_of_region found, ← masked]
      rfl
    | none =>
      obtain ⟨parts, cut, rfl, masked⟩ := exists_cutIntoRegions skipComments rest
      refine ⟨.kept c :: parts, .kept (fun region after whole opens => ?_) cut, rfl, ?_⟩
      · rw [splitOpaque?_eq_some_iff.2 ⟨whole, opens⟩] at found
        cases found
      · rw [mask_of_clear found, ← masked]
        rfl
termination_by text.length
decreasing_by
  · simp
  · exact shorter

/-! ## No region is left -/

theorem Transparent.mask_eq {skipComments : Bool} {text : Text}
    (transparent : Transparent skipComments text) : mask skipComments text = text := by
  induction text with
  | nil => exact mask_nil skipComments
  | cons c text inductionHypothesis =>
    obtain ⟨clear, behind⟩ := transparent_cons_iff.1 transparent
    rw [mask_of_clear clear, inductionHypothesis behind]

/-- Where no region begins, none begins when the text behind is masked: its first character is as it
was, or a space. -/
theorem splitOpaque?_mask {skipComments : Bool} {c : Char} {rest : Text}
    (clear : splitOpaque? skipComments (c :: rest) = none) :
    splitOpaque? skipComments (c :: mask skipComments rest) = none :=
  splitOpaque?_eq_none_of_head? clear fun _ opening first =>
    head?_of_mask first (by rintro rfl; simp at opening)

theorem transparent_mask (skipComments : Bool) (text : Text) :
    Transparent skipComments (mask skipComments text) := by
  match text with
  | [] => exact ⟨by simp, by simp, by simp, by simp⟩
  | c :: rest =>
    cases found : splitOpaque? skipComments (c :: rest) with
    | some split =>
      have shorter := splitOpaque?_length_lt found
      rw [mask_of_region found]
      exact transparent_cons_iff.2
        ⟨splitOpaque?_eq_none_of_opensNone rfl _, transparent_mask skipComments split.2⟩
    | none =>
      rw [mask_of_clear found]
      exact transparent_cons_iff.2 ⟨splitOpaque?_mask found, transparent_mask skipComments rest⟩
termination_by text.length
decreasing_by
  · simp
  · exact shorter

/-- The masked form of a text has no quote in it and, where comments are skipped, no opening mark of
one, so that masking it again changes nothing. It is the text with one space for each of the opaque
regions that are met from left to right, and with every other character in its place. -/
theorem mask_leaves_no_region (options : Options) (text : Text) :
    Transparent options.skipComments (mask options.skipComments text) ∧
    mask options.skipComments (mask options.skipComments text) =
      mask options.skipComments text ∧
    ∃ parts, CutIntoRegions options.skipComments parts ∧
      parts.flatMap MaskPart.written = text ∧
      parts.flatMap MaskPart.masked = mask options.skipComments text := by
  have transparent := transparent_mask options.skipComments text
  exact ⟨transparent, transparent.mask_eq, exists_cutIntoRegions options.skipComments text⟩

/-- Neither the dashes nor the slash and the star come together. -/
example : mask true "-'a''b'-\"c\"/--d\n*".toList = "- - / *".toList := by decide +kernel

end QueryTemplate
