import ContentAssist.Completion.Rules
import ContentAssist.Proofs.Markup.Nesting

/-! What each rule asks of a cursor, and which cursors an element can answer for at all: those behind a character
of the element that belongs to none of its children. -/
namespace ContentAssist.Completion

open Markup (Token present present_eq_some_iff)

section Inversion

variable {markup : Markup.Element} {element : Document.Element} {offset : Nat} {context : Context}

theorem afterOpen_eq_some_iff : afterOpen markup element offset = some context ↔
    ∃ opening, present markup.openAngle = some opening ∧ opening.span.endOffset + 1 = offset ∧
      context = ⟨.elementName, element, none, none, none⟩ := by
  simp [afterOpen, Option.bind_eq_some_iff, @eq_comm _ _ context]

theorem inName_eq_some_iff : inName markup element offset = some context ↔
    ∃ name, present markup.name = some name ∧
      name.span.startOffset < offset ∧ offset ≤ name.span.endOffset + 1 ∧
      context = ⟨.elementName, element, none, none,
        some (firstChars name.image (offset - name.span.startOffset))⟩ := by
  simp [inName, Option.bind_eq_some_iff, and_assoc, @eq_comm _ _ context]

theorem inValue_eq_some_iff {attr : Markup.Attribute} {partner : Document.Attribute} :
    inValue element offset attr partner = some context ↔
    ∃ value, present attr.string = some value ∧
      value.span.startOffset < offset ∧ offset ≤ value.span.endOffset ∧
      context = ⟨.attributeValue, element, some partner, none,
        nonEmpty (firstQuoted value.image (offset - value.span.startOffset))⟩ := by
  simp [inValue, Option.bind_eq_some_iff, and_assoc, @eq_comm _ _ context]

theorem onKey_eq_some_iff {attr : Markup.Attribute} {partner : Document.Attribute} :
    onKey element offset attr partner = some context ↔
    ∃ key, present attr.name = some key ∧
      key.span.startOffset ≤ offset ∧ offset ≤ key.span.endOffset + 1 ∧
      context = ⟨.attributeName, element, some partner, none,
        nonEmpty (firstChars key.image (offset - key.span.startOffset))⟩ := by
  simp [onKey, touches, Option.bind_eq_some_iff, and_assoc, @eq_comm _ _ context]

/-- The attribute that answers is at the same place in the tree and in the document. -/
theorem exists_of_inAttributes_eq_some (h : inAttributes markup element offset = some context) :
    ∃ (index : Nat) (attr : Markup.Attribute) (partner : Document.Attribute),
      markup.attributes[index]? = some attr ∧ element.attributes[index]? = some partner ∧
      (inValue element offset attr partner = some context ∨ onKey element offset attr partner = some context) := by
  obtain ⟨⟨attr, partner⟩, hPair, hAnswer⟩ := List.exists_of_findSome?_eq_some h
  obtain ⟨index, hIndex⟩ := List.getElem?_of_mem hPair
  obtain ⟨hAttr, hPartner⟩ := List.getElem?_zip_eq_some.mp hIndex
  exact ⟨index, attr, partner, hAttr, hPartner, (Option.or_eq_some_iff.mp hAnswer).imp_right And.right⟩

theorem newAttribute_eq_some_iff : newAttribute markup element offset = some context ↔
    ∃ name close, present markup.name = some name ∧
      (present markup.startClose).or (present markup.slashClose) = some close ∧
      name.span.endOffset + 1 ≤ offset ∧ offset ≤ close.span.startOffset ∧
      (∀ attr ∈ element.attributes, attr.span.contains offset = false) ∧
      context = ⟨.attributeName, element, none, none, none⟩ := by
  simp [newAttribute, Option.bind_eq_some_iff, and_assoc, @eq_comm _ _ context]

/-- The part that is found is the first around the offset. A run of text is found by its number among the runs. -/
theorem exists_of_locateFrom_eq_some {seen position : Nat} {parts : List Markup.ContentPart} {hit : Hit}
    (h : locateFrom seen parts position = some hit) :
    ∃ before part after, parts = before ++ part :: after ∧ part.span.contains position = true ∧
      hit = if part.isText then .text (seen + (before.filterMap Markup.ContentPart.text?).length) else .other := by
  induction parts generalizing seen with
  | nil => cases h
  | cons first rest ih =>
      rw [locateFrom] at h
      split at h
      · rename_i hContains
        exact ⟨[], first, rest, rfl, hContains, (Option.some.inj h).symm⟩
      · obtain ⟨before, part, after, hParts, hContains, hHit⟩ := ih h
        have hSeen : (if first.isText then seen + 1 else seen)
              + (before.filterMap Markup.ContentPart.text?).length =
            seen + ((first :: before).filterMap Markup.ContentPart.text?).length := by
          cases first <;>
            simp [Markup.ContentPart.isText, Markup.ContentPart.text?, List.filterMap_cons, Nat.add_right_comm,
              Nat.add_assoc]
        refine ⟨first :: before, part, after, by rw [hParts, List.cons_append], hContains, ?_⟩
        rw [hHit, hSeen]

theorem locateFrom_eq_none_iff {seen position : Nat} {parts : List Markup.ContentPart} :
    locateFrom seen parts position = none ↔ ∀ part ∈ parts, part.span.contains position = false := by
  induction parts generalizing seen with
  | nil => simp [locateFrom]
  | cons first rest ih =>
      rw [locateFrom]
      split
      · rename_i hContains
        simp [hContains]
      · rename_i hContains
        simp [ih, hContains]

/-- Between the tags the cursor starts a new run of text, if nothing is before it, or continues the run that is. -/
theorem inContent_cases (h : inContent markup element offset = some context) :
    ∃ opening closing, present markup.startClose = some opening ∧
      (present markup.slashOpen).or (present markup.slashClose) = some closing ∧
      opening.span.endOffset + 1 ≤ offset ∧ offset ≤ closing.span.startOffset ∧
      ((locate markup.parts (offset - 1) = none ∧ context = ⟨.elementContent, element, none, none, none⟩) ∨
        ∃ index text, locate markup.parts (offset - 1) = some (.text index) ∧
          element.texts[index]? = some text ∧
          context = ⟨.elementContent, element, none, some text,
            some (firstChars text.text (offset - text.span.startOffset))⟩) := by
  simp only [inContent, Option.bind_eq_bind, Option.bind_eq_some_iff] at h
  obtain ⟨opening, hOpening, closing, hClosing, _, hGuard, hAnswer⟩ := h
  rw [Option.guard_eq_some', Bool.and_eq_true, decide_eq_true_iff, decide_eq_true_iff] at hGuard
  refine ⟨opening, closing, hOpening, hClosing, hGuard.1, hGuard.2, ?_⟩
  rw [show (markup.content.map Markup.Content.parts).getD [] = markup.parts from rfl] at hAnswer
  split at hAnswer
  · rename_i hNone
    exact Or.inl ⟨hNone, (Option.some.inj hAnswer).symm⟩
  · rename_i index hText
    obtain ⟨text, hFound, hContext⟩ := Option.bind_eq_some_iff.mp hAnswer
    exact Or.inr ⟨index, text, hText, hFound, (Option.some.inj hContext).symm⟩
  · cases hAnswer

end Inversion

/-- The answer of an element alone: that of the first of its rules that has one. -/
def ownAnswer (markup : Markup.Element) (element : Document.Element) (offset : Nat) : Option Context :=
  [afterOpen, inName, inAttributes, newAttribute, inContent].findSome? fun rule => rule markup element offset

theorem ownAnswer_eq (markup : Markup.Element) (element : Document.Element) (offset : Nat) :
    ownAnswer markup element offset = (ownTag markup element offset).or (ownBody markup element offset) := by
  simp only [ownAnswer, List.findSome?_cons, List.findSome?_nil, ownTag, ownBody]
  cases afterOpen markup element offset <;> cases inName markup element offset <;>
    cases inAttributes markup element offset <;> cases newAttribute markup element offset <;>
    cases inContent markup element offset <;> rfl

theorem ownAnswer_cases {markup : Markup.Element} {element : Document.Element} {offset : Nat} {context : Context}
    (h : ownAnswer markup element offset = some context) :
    afterOpen markup element offset = some context ∨ inName markup element offset = some context ∨
      inAttributes markup element offset = some context ∨ newAttribute markup element offset = some context ∨
      inContent markup element offset = some context := by
  obtain ⟨rule, hRule, hContext⟩ := List.exists_of_findSome?_eq_some h
  simp only [List.mem_cons, List.not_mem_nil, or_false] at hRule
  rcases hRule with rfl | rfl | rfl | rfl | rfl <;> simp [hContext]

/-- The character before the cursor is one of the element's own: inside the element, and inside none of its
children. -/
structure Owns (markup : Markup.Element) (offset : Nat) : Prop where
  pos : 0 < offset
  contains : markup.span.contains (offset - 1) = true
  notChild : ∀ child ∈ markup.children, child.span.contains (offset - 1) = false

section Ownership

variable {source : List Char} {markup : Markup.Element} {element : Document.Element} {offset : Nat}
  {context : Context}

/-- Before the end of the opening tag no child has started. -/
theorem Owns.of_opening (h : markup.LaidOut source) {token : Token} (hToken : token ∈ markup.openingTokens)
    (hStart : markup.span.startOffset < offset) (hEnd : offset ≤ token.span.endOffset + 1) :
    Owns markup offset := by
  have hWithin := h.token_span (Markup.Element.mem_tokens_of_opening hToken)
  refine ⟨by omega, ?_, ?_⟩
  · rw [Span.contains_iff]
    omega
  · intro child hChild
    have hOrder : token.span.endOffset < child.span.startOffset :=
      h.opening_lt_part hToken ((Markup.Element.mem_children_iff ..).mp hChild)
    rw [Bool.eq_false_iff, ne_eq, Span.contains_iff]
    intro hContains
    omega

/-- The tokens of an attribute come behind the `<` of the tag. -/
theorem startOffset_lt_attribute (h : markup.LaidOut source) {attr : Markup.Attribute} {index : Nat} {token : Token}
    (hAttr : markup.attributes[index]? = some attr) (hToken : token ∈ attr.tokens) :
    markup.span.startOffset < token.span.startOffset := by
  obtain ⟨opening, hOpening, _⟩ := h.opening
  have hFlat := List.mem_flatMap.mpr ⟨attr, List.mem_of_getElem? hAttr, hToken⟩
  have hLaid := h.opening_laid
  rw [Markup.Element.openingTokens, hOpening] at hLaid
  simp only [Option.toList_some, List.append_assoc] at hLaid
  have hOrder := hLaid.endOffset_lt_startOffset (List.mem_singleton.mpr rfl)
    (List.mem_append_right _ (List.mem_append_left _ hFlat))
  have hMem : opening ∈ markup.openingTokens := by simp [Markup.Element.openingTokens, hOpening]
  have hWithin := h.token_span (Markup.Element.mem_tokens_of_opening hMem)
  omega

theorem owns_of_afterOpen (h : markup.LaidOut source) (hAnswer : afterOpen markup element offset = some context) :
    Owns markup offset := by
  obtain ⟨opening, hOpening, hOffset, _⟩ := afterOpen_eq_some_iff.mp hAnswer
  rw [present_eq_some_iff] at hOpening
  have hMem : opening ∈ markup.openingTokens := by simp [Markup.Element.openingTokens, hOpening.1]
  have hWithin := h.token_span (Markup.Element.mem_tokens_of_opening hMem)
  exact Owns.of_opening h hMem (by omega) (by omega)

theorem owns_of_inName (h : markup.LaidOut source) (hAnswer : inName markup element offset = some context) :
    Owns markup offset := by
  obtain ⟨name, hName, hStart, hEnd, _⟩ := inName_eq_some_iff.mp hAnswer
  rw [present_eq_some_iff] at hName
  have hMem : name ∈ markup.openingTokens := by simp [Markup.Element.openingTokens, hName.1]
  have hWithin := h.token_span (Markup.Element.mem_tokens_of_opening hMem)
  exact Owns.of_opening h hMem (by omega) hEnd

theorem owns_of_inAttributes (h : markup.LaidOut source)
    (hAnswer : inAttributes markup element offset = some context) : Owns markup offset := by
  obtain ⟨index, attr, partner, hAttr, _, hValue | hKey⟩ := exists_of_inAttributes_eq_some hAnswer
  · obtain ⟨value, hString, hStart, hEnd, _⟩ := inValue_eq_some_iff.mp hValue
    rw [present_eq_some_iff] at hString
    have hToken : value ∈ attr.tokens := Markup.Attribute.mem_tokens_of_string hString.1
    have hBehind := startOffset_lt_attribute h hAttr hToken
    exact Owns.of_opening h (Markup.Element.mem_openingTokens_of_attribute hAttr hToken) (by omega) (by omega)
  · obtain ⟨key, hName, hStart, hEnd, _⟩ := onKey_eq_some_iff.mp hKey
    rw [present_eq_some_iff] at hName
    have hToken : key ∈ attr.tokens := Markup.Attribute.mem_tokens_of_name hName.1
    have hBehind := startOffset_lt_attribute h hAttr hToken
    exact Owns.of_opening h (Markup.Element.mem_openingTokens_of_attribute hAttr hToken) (by omega) hEnd

/-- Tokens that were read are never marked as supplied. -/
theorem present_of_mem (h : markup.LaidOut source) {slot : Option Token} {token : Token} (hSlot : slot = some token)
    (hMem : token ∈ markup.tokens) : present slot = some token :=
  (present_eq_some_iff ..).mpr ⟨hSlot, (h.tokens.of_mem hMem).1.notSupplied⟩

/-- Before the end of a tag whose end is known the element is asked itself. -/
theorem Owns.of_tag (h : markup.LaidOut source) {close : Token}
    (hClose : markup.startClose = some close ∨ markup.slashClose = some close)
    (hStart : markup.span.startOffset < offset) (hEnd : offset ≤ close.span.startOffset) : Owns markup offset := by
  rcases hClose with hClose | hClose
  · have hMem : close ∈ markup.openingTokens := by simp [Markup.Element.openingTokens, hClose]
    have hWithin := h.token_span (Markup.Element.mem_tokens_of_opening hMem)
    exact Owns.of_opening h hMem hStart (by omega)
  · -- The tag ends with `/>`, so there are no children to be in.
    have hMem : close ∈ markup.closingTokens := by simp [Markup.Element.closingTokens, hClose]
    have hWithin := h.token_span (Markup.Element.mem_tokens_of_closing hMem)
    refine ⟨by omega, ?_, ?_⟩
    · rw [Span.contains_iff]
      omega
    · intro child hChild
      rw [Markup.Element.children, h.noContent (h.startClose_eq_none hClose)] at hChild
      cases hChild

theorem owns_of_newAttribute (h : markup.LaidOut source)
    (hAnswer : newAttribute markup element offset = some context) : Owns markup offset := by
  obtain ⟨name, close, hName, hClose, hStart, hEnd, _⟩ := newAttribute_eq_some_iff.mp hAnswer
  rw [present_eq_some_iff] at hName
  have hNameMem : name ∈ markup.openingTokens := by simp [Markup.Element.openingTokens, hName.1]
  have hNameWithin := h.token_span (Markup.Element.mem_tokens_of_opening hNameMem)
  have hSlot : markup.startClose = some close ∨ markup.slashClose = some close := by
    rcases Option.or_eq_some_iff.mp hClose with hPresent | ⟨_, hPresent⟩
    · exact Or.inl ((present_eq_some_iff ..).mp hPresent).1
    · exact Or.inr ((present_eq_some_iff ..).mp hPresent).1
  exact Owns.of_tag h hSlot (by omega) hEnd

theorem owns_of_inContent (h : markup.LaidOut source) (hAnswer : inContent markup element offset = some context) :
    Owns markup offset := by
  obtain ⟨opening, closing, hOpening, hClosing, hStart, hEnd, hFound⟩ := inContent_cases hAnswer
  rw [present_eq_some_iff] at hOpening
  have hSlashClose : markup.slashClose = none := h.slashClose (by simp [hOpening.1])
  rw [hSlashClose, show present none = none from rfl, Option.or_none, present_eq_some_iff] at hClosing
  have hOpeningMem : opening ∈ markup.openingTokens := by simp [Markup.Element.openingTokens, hOpening.1]
  have hClosingMem : closing ∈ markup.closingTokens := by simp [Markup.Element.closingTokens, hClosing.1]
  have hOpeningWithin := h.token_span (Markup.Element.mem_tokens_of_opening hOpeningMem)
  have hClosingWithin := h.token_span (Markup.Element.mem_tokens_of_closing hClosingMem)
  refine ⟨by omega, ?_, ?_⟩
  · rw [Span.contains_iff]
    omega
  · intro child hChild
    have hPart := (Markup.Element.mem_children_iff ..).mp hChild
    rcases hFound with ⟨hNone, _⟩ | ⟨index, text, hText, _⟩
    · exact locateFrom_eq_none_iff.mp hNone (.element child) hPart
    · obtain ⟨before, part, after, hParts, hContains, hHit⟩ := exists_of_locateFrom_eq_some hText
      rw [Bool.eq_false_iff]
      intro hInside
      -- The first part around the character is the only one, and it is not text.
      obtain ⟨place, hPlace⟩ := List.getElem?_of_mem hPart
      have hBefore : markup.parts[before.length]? = some part := by simp [hParts]
      have hSame := Markup.index_unique h.parts_pairwise hPlace hBefore hInside hContains
      rw [hSame, hBefore] at hPlace
      cases hPlace
      cases hHit

/-- An element answers only where the character before the cursor is its own. -/
theorem owns_of_ownAnswer (h : markup.LaidOut source) (hAnswer : ownAnswer markup element offset = some context) :
    Owns markup offset := by
  rcases ownAnswer_cases hAnswer with hRule | hRule | hRule | hRule | hRule
  · exact owns_of_afterOpen h hRule
  · exact owns_of_inName h hRule
  · exact owns_of_inAttributes h hRule
  · exact owns_of_newAttribute h hRule
  · exact owns_of_inContent h hRule

end Ownership

section Silence

variable {source : List Char} {markup : Markup.Element} {element : Document.Element} {offset : Nat}
  {attr : Markup.Attribute} {partner : Document.Attribute}

theorem afterOpen_eq_none (h : markup.LaidOut source) (hOffset : markup.span.startOffset + 1 < offset) :
    afterOpen markup element offset = none := by
  rw [Option.eq_none_iff_forall_ne_some]
  intro context hAnswer
  obtain ⟨first, hFirst, hEnd, _⟩ := afterOpen_eq_some_iff.mp hAnswer
  obtain ⟨opening, hOpening, hWidth, hStart⟩ := h.startOffset
  rw [present_eq_some_iff, hOpening, Option.some.injEq] at hFirst
  rw [← hFirst.1] at hEnd
  omega

theorem inName_eq_none (hName : ∀ name, markup.name = some name → name.span.endOffset + 1 < offset) :
    inName markup element offset = none := by
  rw [Option.eq_none_iff_forall_ne_some]
  intro context hAnswer
  obtain ⟨name, hPresent, _, hEnd, _⟩ := inName_eq_some_iff.mp hAnswer
  have hBehind := hName name ((present_eq_some_iff ..).mp hPresent).1
  omega

theorem inValue_eq_none (hString : ∀ value, attr.string = some value →
      ¬ (value.span.startOffset < offset ∧ offset ≤ value.span.endOffset)) :
    inValue element offset attr partner = none := by
  rw [Option.eq_none_iff_forall_ne_some]
  intro context hAnswer
  obtain ⟨value, hPresent, hStart, hEnd, _⟩ := inValue_eq_some_iff.mp hAnswer
  exact hString value ((present_eq_some_iff ..).mp hPresent).1 ⟨hStart, hEnd⟩

theorem onKey_eq_none (hName : ∀ key, attr.name = some key →
      ¬ (key.span.startOffset ≤ offset ∧ offset ≤ key.span.endOffset + 1)) :
    onKey element offset attr partner = none := by
  rw [Option.eq_none_iff_forall_ne_some]
  intro context hAnswer
  obtain ⟨key, hPresent, hStart, hEnd, _⟩ := onKey_eq_some_iff.mp hAnswer
  exact hName key ((present_eq_some_iff ..).mp hPresent).1 ⟨hStart, hEnd⟩

theorem inAttributes_eq_none (hEach : ∀ (index : Nat) (attr : Markup.Attribute) (partner : Document.Attribute),
      markup.attributes[index]? = some attr →
        inValue element offset attr partner = none ∧ onKey element offset attr partner = none) :
    inAttributes markup element offset = none := by
  rw [Option.eq_none_iff_forall_ne_some]
  intro context hAnswer
  obtain ⟨index, attr, partner, hAttr, _, hRule⟩ := exists_of_inAttributes_eq_some hAnswer
  obtain ⟨hValue, hKey⟩ := hEach index attr partner hAttr
  rw [hValue, hKey, or_self] at hRule
  cases hRule

/-- Before the end of its opening tag the body of an element has not begun. -/
theorem inContent_eq_none_of_tag (h : markup.LaidOut source) {close : Token}
    (hClose : markup.startClose = some close ∨ markup.slashClose = some close)
    (hEnd : offset ≤ close.span.startOffset) : inContent markup element offset = none := by
  rw [Option.eq_none_iff_forall_ne_some]
  intro context hAnswer
  obtain ⟨opening, _, hPresent, _, hStart, _⟩ := inContent_cases hAnswer
  have hOpening := ((present_eq_some_iff ..).mp hPresent).1
  have hMem : opening ∈ markup.openingTokens := by simp [Markup.Element.openingTokens, hOpening]
  have hWidth := h.token_span (Markup.Element.mem_tokens_of_opening hMem)
  rcases hClose with hClose | hClose
  · rw [hOpening, Option.some.injEq] at hClose
    subst hClose
    omega
  · rw [h.startClose_eq_none hClose] at hOpening
    cases hOpening

/-- In a tag whose end is known an attribute can be added wherever there is none. -/
theorem newAttribute_eq (h : markup.LaidOut source) {name close : Token} (hName : markup.name = some name)
    (hClose : markup.startClose = some close ∨ markup.slashClose = some close)
    (hStart : name.span.endOffset + 1 ≤ offset) (hEnd : offset ≤ close.span.startOffset) :
    newAttribute markup element offset = if element.attributes.any fun attr => attr.span.contains offset then none
      else some ⟨.attributeName, element, none, none, none⟩ := by
  by_cases hInside : element.attributes.any fun attr => attr.span.contains offset
  · rw [if_pos hInside, Option.eq_none_iff_forall_ne_some]
    intro context hAnswer
    obtain ⟨_, _, _, _, _, _, hOutside, _⟩ := newAttribute_eq_some_iff.mp hAnswer
    obtain ⟨attr, hAttr, hContains⟩ := List.any_eq_true.mp hInside
    rw [hOutside attr hAttr] at hContains
    cases hContains
  · have hNameHere : present markup.name = some name :=
      present_of_mem h hName (Markup.Element.mem_tokens_of_opening (by simp [Markup.Element.openingTokens, hName]))
    have hCloseHere : (present markup.startClose).or (present markup.slashClose) = some close := by
      rcases hClose with hClose | hClose
      · have hMem : close ∈ markup.openingTokens := by simp [Markup.Element.openingTokens, hClose]
        rw [present_of_mem h hClose (Markup.Element.mem_tokens_of_opening hMem), Option.some_or]
      · have hMem : close ∈ markup.closingTokens := by simp [Markup.Element.closingTokens, hClose]
        rw [present_of_mem h hClose (Markup.Element.mem_tokens_of_closing hMem), h.startClose_eq_none hClose]
        rfl
    rw [if_neg hInside]
    refine newAttribute_eq_some_iff.mpr ⟨name, close, hNameHere, hCloseHere, hStart, hEnd, ?_, rfl⟩
    simpa using hInside

/-- The first attribute that does not stay silent has the say. -/
theorem inAttributes_eq_some {index : Nat} {context : Context} (hAttr : markup.attributes[index]? = some attr)
    (hPartner : element.attributes[index]? = some partner)
    (hEarlier : ∀ number earlier other, number < index → markup.attributes[number]? = some earlier →
      inValue element offset earlier other = none ∧ onKey element offset earlier other = none)
    (hAnswer : (inValue element offset attr partner).or (onKey element offset attr partner) = some context) :
    inAttributes markup element offset = some context := by
  have hPair : (markup.attributes.zip element.attributes)[index]? = some (attr, partner) :=
    List.getElem?_zip_eq_some.mpr ⟨hAttr, hPartner⟩
  obtain ⟨hLt, hHere⟩ := List.getElem?_eq_some_iff.mp hPair
  rw [inAttributes, List.findSome?_eq_some_iff]
  refine ⟨(markup.attributes.zip element.attributes).take index, (attr, partner),
    (markup.attributes.zip element.attributes).drop (index + 1), ?_, hAnswer, ?_⟩
  · rw [← hHere, ← List.drop_eq_getElem_cons hLt, List.take_append_drop]
  · rintro ⟨earlier, other⟩ hMem
    obtain ⟨number, hNumber⟩ := List.getElem?_of_mem hMem
    rw [List.getElem?_take] at hNumber
    split at hNumber
    · rename_i hBefore
      obtain ⟨hValue, hKey⟩ := hEarlier number earlier other hBefore (List.getElem?_zip_eq_some.mp hNumber).1
      simp only [hValue, hKey, Option.or_none]
    · cases hNumber

end Silence

end ContentAssist.Completion
