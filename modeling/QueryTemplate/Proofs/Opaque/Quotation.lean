import QueryTemplate.Proofs.Opaque.Masking
import QueryTemplate.Proofs.Opaque.Replacement

/-! # Quoted text

What stands between two quotes decides nothing. The markers around a quoted text, the alias of the
root entity and the constructor projection are the same for any other content. Only where the quoted
text is the operand of an escape clause does its content give the escape character.

* `Doubled`, `quotation`: contents in which every quote is doubled, and the quoted text with them.
* `splitOpaque?_quotation`: a quoted text is a region.
* `quotation_exchange`: the markers of two templates that differ in one quoted text.
-/

namespace QueryTemplate

inductive Doubled (quote : Char) : Text → Prop where
  | nil : Doubled quote []
  | other {c : Char} {content : Text} (noQuote : c ≠ quote) (behind : Doubled quote content) :
      Doubled quote (c :: content)
  | pair {content : Text} (behind : Doubled quote content) :
      Doubled quote (quote :: quote :: content)

def quotation (quote : Char) (content : Text) : Text := quote :: (content ++ [quote])

section Quotation

variable {quote : Char} {content content' post : Text}

theorem Doubled.throughQuote_eq (doubled : Doubled quote content)
    (single : post.head? ≠ some quote) :
    throughQuote quote (content ++ quote :: post) = (content ++ [quote], post) := by
  induction doubled with
  | nil => exact throughQuote_close single
  | other noQuote _ inductionHypothesis =>
    rw [List.cons_append, throughQuote_of_ne noQuote, inductionHypothesis]
    rfl
  | pair _ inductionHypothesis =>
    rw [List.cons_append, List.cons_append, throughQuote_doubled, inductionHypothesis]
    rfl

theorem splitOpaque?_quotation (skipComments : Bool) (quotes : quote = '\'' ∨ quote = '"')
    (doubled : Doubled quote content) (single : post.head? ≠ some quote) :
    splitOpaque? skipComments (quotation quote content ++ post) =
      some (quotation quote content, post) := by
  have whole : quotation quote content ++ post = quote :: (content ++ quote :: post) := by
    simp [quotation]
  rw [whole, splitOpaque?, if_pos quotes, doubled.throughQuote_eq single]
  rfl

/-- Behind a quoted text, what stands in it cannot be seen. -/
theorem sameLookBack_quotation (quotes : quote = '\'' ∨ quote = '"') (tail : Text) :
    SameLookBack ((quotation quote content').reverse ++ tail)
      ((quotation quote content).reverse ++ tail) := by
  have last (content : Text) : ((quotation quote content).reverse ++ tail).head? = some quote := by
    simp [quotation]
  have breaks (content : Text) : BreakHead ((quotation quote content).reverse ++ tail) := by
    intro c first
    obtain rfl : quote = c := by simpa [last] using first
    apply isBreak_of_opensRegion
    obtain rfl | rfl := quotes <;> rfl
  exact .of_breakHead (breaks _) (breaks _) (by rw [last, last])

variable {options : Options} {pre tail : Text} {before : List Marker}

/-- The content of a quoted text changes the places of the markers behind it, and nothing else about
the markers but the escape character that it can be itself. -/
theorem quotation_exchange (quotes : quote = '\'' ∨ quote = '"') (doubled : Doubled quote content)
    (doubled' : Doubled quote content') (single : post.head? ≠ some quote)
    (reaches : Reaches options 0 pre (quotation quote content ++ post) before tail) :
    ∃ before' behind,
      (scan options (pre ++ (quotation quote content ++ post))).map markers =
        (Found.moved (pre ++ quotation quote content).byteSize behind).behind before ∧
      (scan options (pre ++ (quotation quote content' ++ post))).map markers =
        (Found.moved (pre ++ quotation quote content').byteSize behind).behind before' ∧
      SameButEscape before before' ∧
      (¬(quote = '\'' ∧ IsEscapeKeyword tail) → before' = before) ∧
      (EveryPayload (Transparent options.skipComments) before →
        mask options.skipComments (pre ++ (quotation quote content' ++ post)) =
          mask options.skipComments (pre ++ (quotation quote content ++ post)) ∧
        SameShape options (pre ++ (quotation quote content ++ post))
          (pre ++ (quotation quote content' ++ post))) := by
  have split := splitOpaque?_quotation options.skipComments quotes doubled single
  have split' := splitOpaque?_quotation options.skipComments quotes doubled' single
  obtain ⟨before', behind, again, same, unchanged, found, found'⟩ :=
    reaches.replace split split' rfl (sameLookBack_quotation quotes tail.reverse)
  refine ⟨before', behind, found, found', same, fun noOperand => unchanged ?_,
    fun transparent => ?_⟩
  · intro first keyword
    exact noOperand ⟨by simpa [quotation] using first, keyword⟩
  · -- The masking passes over the first part alike, and leaves one space for either quoted text.
    obtain ⟨masked, masks⟩ := reaches.exists_masks fun marker member payload expression =>
      (transparent marker member payload expression).closed
    have masks' : Masks options.skipComments pre (quotation quote content' ++ post) masked :=
      masks.exchange ⟨nofun, .inl rfl⟩
    have sameMask : mask options.skipComments (pre ++ (quotation quote content' ++ post)) =
        mask options.skipComments (pre ++ (quotation quote content ++ post)) := by
      rw [masks.mask_eq, masks'.mask_eq, mask_of_region split, mask_of_region split']
    exact ⟨sameMask, sameShape_of_outline_eq (congrArg outline sameMask)⟩

end Quotation

theorem quotation_exchange_behind_pattern :
    ∃ before behind, before.map Marker.context = [.like] ∧
      (scan {} "a like :p or \"it\"\"s\" = :q".toList).map markers =
        (Found.moved 20 behind).behind before ∧
      (scan {} "a like :p or \":x like --\" = :q".toList).map markers =
        (Found.moved 25 behind).behind before ∧
      mask false "a like :p or \":x like --\" = :q".toList =
        mask false "a like :p or \"it\"\"s\" = :q".toList := by
  let marker : Marker := ⟨7, ":p".toList, .named ['p'], false, false, .like, none⟩
  let pre : Text := "a like ".toList ++ (marker.raw ++ " or ".toList)
  let after : Text := quotation '"' "it\"\"s".toList ++ " = :q".toList
  have plain : "a like ".toList.all isPlain = true := by decide
  have plainBehind : " or ".toList.all isPlain = true := by decide
  have taken : markerAt {} (0 + Text.byteSize "a like ".toList) "a like ".toList.reverse
      (marker.raw ++ (" or ".toList ++ after)) = .ok (some (marker, " or ".toList ++ after)) :=
    eq_ok_of_toOption (by decide +kernel)
  have reaches : Reaches {} 0 pre after [marker] " or ".toList :=
    .marker (unmarked_of_plain plain _) taken (.literal (unmarked_of_plain plainBehind _))
  have doubled : Doubled '"' "it\"\"s".toList :=
    .other (by decide) (.other (by decide) (.pair (.other (by decide) .nil)))
  have doubled' : Doubled '"' ":x like --".toList := by
    repeat apply Doubled.other (by decide)
    exact .nil
  obtain ⟨before', behind, found, found', -, unchanged, masked⟩ :=
    quotation_exchange (.inr rfl) doubled doubled' (by decide) reaches
  obtain rfl := unchanged (by simp)
  have template : pre ++ after = "a like :p or \"it\"\"s\" = :q".toList := by decide
  have template' : pre ++ (quotation '"' ":x like --".toList ++ " = :q".toList) =
      "a like :p or \":x like --\" = :q".toList := by decide
  have size : (pre ++ quotation '"' "it\"\"s".toList).byteSize = 20 := by decide
  have size' : (pre ++ quotation '"' ":x like --".toList).byteSize = 25 := by decide
  have transparent : EveryPayload (Transparent false) [marker] := by
    intro other member payload expression
    obtain rfl : other = marker := List.mem_singleton.1 member
    cases expression
  have masked := (masked transparent).1
  rw [template, size] at found
  rw [template', size'] at found'
  rw [template, template'] at masked
  exact ⟨_, behind, rfl, found, found', masked⟩

end QueryTemplate
