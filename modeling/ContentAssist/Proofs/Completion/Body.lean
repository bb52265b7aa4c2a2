import ContentAssist.Proofs.Completion.Typed
import ContentAssist.Proofs.Markup.TokenOrder
import ContentAssist.Proofs.Markup.Trail

/-! What is completed between the tags of an element, and where nothing is. Between the tags the part with the
character before the cursor decides. An element without a closing tag goes on to the end of the text, and so do all
elements around it, so that behind its last part there is nothing to complete. -/
namespace ContentAssist

/-- What is completed in the body and in the closing tag of an element. -/
structure Snapshot.CompletesBody (source : String) (snapshot : Snapshot) (markup : Markup.Element)
    (element : Document.Element) : Prop where
  /-- Where no part is before the cursor a text is started. -/
  fresh : ∀ (opening closing : Markup.Token) (offset : Nat), markup.startClose = some opening →
    markup.slashOpen = some closing → opening.span.endOffset + 1 ≤ offset → offset ≤ closing.span.startOffset →
    (∀ part ∈ markup.parts, part.span.contains (offset - 1) = false) →
      snapshot.complete offset = some ⟨.elementContent, element, none, none, none⟩
  /-- Behind a character of a text the text is continued. -/
  text : ∀ (opening closing : Markup.Token) (offset : Nat) (run : Markup.CharacterData),
    markup.startClose = some opening → markup.slashOpen = some closing → opening.span.endOffset + 1 ≤ offset →
    offset ≤ closing.span.startOffset → .text run ∈ markup.parts → run.span.contains (offset - 1) = true →
      ∃ text ∈ element.texts, text.span = run.span ∧
        snapshot.complete offset = some ⟨.elementContent, element, none, some text,
          some (String.ofList ((source.toList.take offset).drop run.span.startOffset))⟩
  /-- In comments, sections, instructions and references there is nothing to complete. -/
  other : ∀ (opening closing : Markup.Token) (offset : Nat) (part : Markup.ContentPart),
    markup.startClose = some opening → markup.slashOpen = some closing → opening.span.endOffset + 1 ≤ offset →
    offset ≤ closing.span.startOffset → part ∈ markup.parts → part.isText = false → part.element? = none →
    part.span.contains (offset - 1) = true → snapshot.complete offset = none
  /-- In the closing tag there is nothing to complete. -/
  endTag : ∀ (closing last : Markup.Token) (offset : Nat), markup.slashOpen = some closing →
    (last = closing ∨ markup.endName = some last ∨ markup.close = some last) →
    closing.span.startOffset < offset → offset ≤ last.span.endOffset + 1 → snapshot.complete offset = none
  /-- Without a closing tag there is nothing to complete behind the opening tag, except in the children. -/
  unclosed : ∀ (opening : Markup.Token) (offset : Nat), markup.startClose = some opening → markup.slashOpen = none →
    opening.span.endOffset + 1 ≤ offset → (∀ child ∈ markup.children, child.span.contains (offset - 1) = false) →
      snapshot.complete offset = none

/-- A span over tokens ends where a span over the last of them ends. -/
theorem Markup.Covers.endOffset_eq_of_suffix {span inner : Span} {before tokens : List Markup.Token}
    (h : Markup.Covers span (before ++ tokens)) (hInner : Markup.Covers inner tokens) :
    span.endOffset = inner.endOffset := by
  obtain ⟨last, hLast, hEnd⟩ := h.last
  obtain ⟨final, hFinal, hFinalEnd⟩ := hInner.last
  rw [List.getLast?_append, hFinal, Option.some_or, Option.some.injEq] at hLast
  rw [← hEnd, ← hFinalEnd, hLast]

namespace Markup.Reader

variable {source : List Char} {input next : Input} {element found : Element}

/-- At the end of the text there is no closing tag. -/
theorem endTag_of_rest_eq_nil {finish : EndTag} (hRest : input.rest = [])
    (hRead : endTag input = (finish, next)) : finish = ⟨none, none, none⟩ ∧ next = input := by
  rcases endTag_steps hRead with ⟨_, hFinish, hNext⟩ | ⟨_, _, _, hOpen, _⟩
  · exact ⟨hFinish, hNext⟩
  · rw [Input.word?, Input.startsWith, hRest] at hOpen
    cases hOpen

/-- An element without a closing tag is the last thing in the text, and all elements around it end with it. -/
theorem ElementRead.ends {path : List Nat} (h : input.Within source) (hRest : input.rest ≠ [])
    (hRead : ElementRead input element next) (hAt : element.at? path = some found)
    (hOpen : found.startClose.isSome = true) (hSlash : found.slashOpen = none) :
    next.rest = [] ∧ element.span.endOffset = found.span.endOffset := by
  induction path generalizing input element next with
  | nil =>
      obtain rfl : element = found := Option.some.inj hAt
      refine ⟨?_, rfl⟩
      by_contra hNext
      have hClosed := hRead.slashOpen_isSome hNext hOpen
      rw [hSlash] at hClosed
      cases hClosed
  | cons index path ih =>
      obtain ⟨child, hChild, hInner⟩ := Option.bind_eq_some_iff.mp hAt
      have hCovers := hRead.covers h hRest
      cases hRead with
      | bare hStart hNone => cases hChild
      | @enclosing _ afterStart afterContent _ start parts finish hStart hEnclosing body hFinish =>
          have hStarted := startTag_passes h hRest hStart
          rw [Element.children, assemble_parts] at hChild
          obtain ⟨passed, others, rfl, _⟩ := exists_split_of_getElem?_filterMap hChild
          obtain ⟨middle, hBefore, hAfter⟩ := body.partsTo.1.split
          have hMiddle := (hBefore.passes hStarted.within).within
          cases hAfter with
          | leaf hEnd hAtLeaf hLeaf _ =>
              obtain ⟨_, _, _, hNone, _⟩ := leaf_passes hMiddle (rest_ne_nil_of_atContentEnd hEnd) hLeaf
              cases hNone
          | @child _ behind _ _ _ hEnd hAtElement first rest =>
              have hHere := rest_ne_nil_of_atContentEnd hEnd
              obtain ⟨hBehind, hChildEnd⟩ := ih hMiddle hHere first hInner
              -- Behind the child there is neither another part nor a closing tag.
              obtain ⟨rfl, rfl⟩ : others = [] ∧ behind = afterContent := by
                cases rest with
                | here => exact ⟨rfl, rfl⟩
                | child hMore _ _ _ => exact absurd hBehind (rest_ne_nil_of_atContentEnd hMore)
                | leaf hMore _ _ _ => exact absurd hBehind (rest_ne_nil_of_atContentEnd hMore)
              obtain ⟨rfl, rfl⟩ := endTag_of_rest_eq_nil hBehind hFinish
              refine ⟨hBehind, ?_⟩
              have hTokens : (assemble start (some (contentOf afterStart.offset (passed ++ [.element child])))
                  ⟨none, none, none⟩).tokens = start.tokens ++ passed.flatMap ContentPart.tokens ++ child.tokens := by
                rw [assemble_tokens _ _ _ (startTag_slashClose hStart hEnclosing)]
                simp [EndTag.tokens, ContentPart.tokens]
              rw [hTokens] at hCovers
              rw [← hChildEnd]
              exact hCovers.endOffset_eq_of_suffix (first.covers hMiddle hHere)

end Markup.Reader

namespace Markup

variable {source : List Char} {element : Element}

/-- Only what was opened is closed. -/
theorem Reader.IsRead.exists_startClose (h : IsRead source element) {closing : Token}
    (hClose : element.slashOpen = some closing) : ∃ opening, element.startClose = some opening := by
  obtain ⟨_, _, _, _, hRead⟩ := h
  cases hRead with
  | bare _ _ => cases hClose
  | enclosing _ hOpen _ _ => exact Option.isSome_iff_exists.mp hOpen

namespace Element.LaidOut

/-- The parts come before the closing tag. -/
theorem part_lt_closing (h : element.LaidOut source) {part : ContentPart} {token : Token}
    (hPart : part ∈ element.parts) (hToken : token ∈ element.closingTokens) :
    part.span.endOffset < token.span.startOffset := by
  obtain ⟨last, hLast, hEnd⟩ := (h.parts part hPart).exists_end
  obtain ⟨_, _, hLater⟩ := h.opening_laid.split
  have hOrder := hLater.endOffset_lt_startOffset (List.mem_flatMap.mpr ⟨part, hPart, hLast⟩) hToken
  omega

/-- A character of a part that is no element belongs to no child. -/
theorem not_child_of_part (h : element.LaidOut source) {part : ContentPart} {position : Nat}
    (hPart : part ∈ element.parts) (hContains : part.span.contains position = true) (hElement : part.element? = none) :
    ∀ child ∈ element.children, child.span.contains position = false := by
  intro child hChild
  rw [Bool.eq_false_iff]
  intro hInside
  obtain ⟨first, hFirst⟩ := List.getElem?_of_mem hPart
  obtain ⟨second, hSecond⟩ := List.getElem?_of_mem ((mem_children_iff ..).mp hChild)
  have hSame := index_unique h.parts_pairwise hFirst hSecond hContains hInside
  rw [hSame, hSecond, Option.some.injEq] at hFirst
  rw [← hFirst] at hElement
  cases hElement

end Element.LaidOut

end Markup

namespace Completion

open Markup (Token present present_eq_some_iff)

section Body

variable {source : List Char} {markup : Markup.Element} {element : Document.Element} {offset : Nat}
  {opening closing : Token}

/-- Behind the opening tag only the body is asked. -/
theorem ownAnswer_eq_inContent (h : markup.LaidOut source) (hOpen : markup.startClose = some opening)
    (hOffset : opening.span.endOffset + 1 ≤ offset) :
    ownAnswer markup element offset = inContent markup element offset := by
  have hMem : opening ∈ markup.openingTokens := by simp [Markup.Element.openingTokens, hOpen]
  have hWidth := h.token_span (Markup.Element.mem_tokens_of_opening hMem)
  have hBefore : ∀ token ∈ markup.openAngle.toList ++ markup.name.toList
      ++ markup.attributes.flatMap Markup.Attribute.tokens, token.span.endOffset + 1 < offset := by
    intro token hToken
    obtain ⟨_, hTag, _⟩ := h.opening_laid.split
    have hLast : opening ∈ markup.startClose.toList := by simp [hOpen]
    have hOrder := hTag.endOffset_lt_startOffset hToken hLast
    omega
  have hNotOpen : afterOpen markup element offset = none := by
    obtain ⟨angle, hAngle, _, hStart⟩ := h.startOffset
    have hFirst := hBefore angle (by simp [hAngle])
    exact afterOpen_eq_none h (by omega)
  have hNotName : inName markup element offset = none :=
    inName_eq_none fun name hName => hBefore name (by simp [hName])
  have hNotAttributes : inAttributes markup element offset = none := by
    refine inAttributes_eq_none fun index attr partner hAttr => ?_
    have hTokens : ∀ token ∈ attr.tokens, token.span.endOffset + 1 < offset := fun token hToken =>
      hBefore token (List.mem_append_right _ (List.mem_flatMap.mpr ⟨attr, List.mem_of_getElem? hAttr, hToken⟩))
    refine ⟨inValue_eq_none fun value hString => ?_, onKey_eq_none fun key hKey => ?_⟩
    · have hBehind := hTokens value (Markup.Attribute.mem_tokens_of_string hString)
      omega
    · have hBehind := hTokens key (Markup.Attribute.mem_tokens_of_name hKey)
      omega
  have hNotNew : newAttribute markup element offset = none := by
    rw [Option.eq_none_iff_forall_ne_some]
    intro context hAnswer
    obtain ⟨_, close, _, hClose, _, hEnd, _⟩ := newAttribute_eq_some_iff.mp hAnswer
    rw [present_of_mem h hOpen (Markup.Element.mem_tokens_of_opening hMem), Option.some_or, Option.some.injEq] at hClose
    rw [← hClose] at hEnd
    omega
  simp only [ownAnswer, List.findSome?_cons, List.findSome?_nil, hNotOpen, hNotName, hNotAttributes, hNotNew]
  cases inContent markup element offset <;> rfl

/-- Between the tags the answer is that for the part before the cursor. -/
theorem inContent_eq_some (h : markup.LaidOut source) (hOpen : markup.startClose = some opening)
    (hClose : markup.slashOpen = some closing) (hStart : opening.span.endOffset + 1 ≤ offset)
    (hEnd : offset ≤ closing.span.startOffset) :
    (locate markup.parts (offset - 1) = none →
      inContent markup element offset = some ⟨.elementContent, element, none, none, none⟩) ∧
    ∀ index text, locate markup.parts (offset - 1) = some (.text index) → element.texts[index]? = some text →
      inContent markup element offset = some ⟨.elementContent, element, none, some text,
        some (firstChars text.text (offset - text.span.startOffset))⟩ := by
  have hOpenHere : present markup.startClose = some opening :=
    present_of_mem h hOpen (Markup.Element.mem_tokens_of_opening (by simp [Markup.Element.openingTokens, hOpen]))
  have hCloseHere : present markup.slashOpen = some closing :=
    present_of_mem h hClose (Markup.Element.mem_tokens_of_closing (by simp [Markup.Element.closingTokens, hClose]))
  have hParts : (markup.content.map Markup.Content.parts).getD [] = markup.parts := rfl
  have hBetween :
      (decide (opening.span.endOffset + 1 ≤ offset) && decide (offset ≤ closing.span.startOffset)) = true := by
    rw [decide_eq_true hStart, decide_eq_true hEnd, Bool.and_self]
  constructor
  · intro hLocate
    simp only [inContent, hOpenHere, hCloseHere, hParts, hLocate, Option.some_or, Option.bind_eq_bind, Option.bind_some,
      hBetween]
    rfl
  · intro index text hLocate hText
    simp only [inContent, hOpenHere, hCloseHere, hParts, hLocate, Option.some_or, Option.bind_eq_bind, Option.bind_some,
      hBetween, hText]
    rfl

/-- The part around a character is found, a run of text by its number. -/
theorem exists_locate (h : markup.LaidOut source) {part : Markup.ContentPart} {position : Nat}
    (hPart : part ∈ markup.parts) (hContains : part.span.contains position = true) :
    ∃ before after, markup.parts = before ++ part :: after ∧ locate markup.parts position = some
      (if part.isText then .text (before.filterMap Markup.ContentPart.text?).length else .other) := by
  cases hLocate : locate markup.parts position with
  | none =>
      rw [locateFrom_eq_none_iff.mp hLocate part hPart] at hContains
      cases hContains
  | some hit =>
      obtain ⟨before, found, after, hParts, hFound, hHit⟩ := exists_of_locateFrom_eq_some hLocate
      obtain ⟨place, hPlace⟩ := List.getElem?_of_mem hPart
      have hBefore : markup.parts[before.length]? = some found := by simp [hParts]
      have hSame := Markup.index_unique h.parts_pairwise hPlace hBefore hContains hFound
      rw [hSame, hBefore, Option.some.injEq] at hPlace
      subst hPlace
      rw [Nat.zero_add] at hHit
      exact ⟨before, after, hParts, by rw [hHit]⟩

end Body

end Completion

namespace Snapshot

open Completion

variable {source : String} {snapshot : Snapshot} {path : List Nat} {markup : Markup.Element}
  {element : Document.Element} {offset : Nat} {opening closing : Markup.Token}

/-- A cursor that is not in the root element is in no element. -/
theorem complete_eq_none_of_root (hSnapshot : ofText source = .ok snapshot)
    (hAway : ∀ root, snapshot.tree.element = some root → Markup.Reader.IsRead source.toList root →
      root.span.contains (offset - 1) = false) : snapshot.complete offset = none := by
  have hAligned := aligned_of_ofText hSnapshot
  refine complete_eq_none_of_away hSnapshot (Or.inr fun other hOther => ?_)
  obtain ⟨place, outer, hPair⟩ := hAligned.exists_markup hOther
  obtain ⟨root, hRoot, hPlace⟩ := Option.bind_eq_some_iff.mp hPair.markup
  obtain ⟨_, hRootPair⟩ := hAligned.exists_element ((at?_eq_of_root hRoot []).trans rfl)
  have hRead := isRead_of_pairs hSnapshot hRootPair
  rw [(hAligned.repeats hPair).span, Bool.eq_false_iff]
  intro hContains
  exact absurd (hRead.contains_of_at hPlace hContains) (by simp [hAway root hRoot hRead])

/-- Between the tags, and in none of the children, the body answers. -/
theorem complete_eq_inContent (hSnapshot : ofText source = .ok snapshot) (hPair : snapshot.Pairs path markup element)
    (hOpen : markup.startClose = some opening) (hStart : opening.span.endOffset + 1 ≤ offset)
    (hEnd : offset ≤ markup.span.endOffset + 1)
    (hOutside : ∀ child ∈ markup.children, child.span.contains (offset - 1) = false) :
    snapshot.complete offset = inContent markup element offset := by
  have hLaid := (isRead_of_pairs hSnapshot hPair).laidOut
  have hMem : opening ∈ markup.openingTokens := by simp [Markup.Element.openingTokens, hOpen]
  have hWidth := hLaid.token_span (Markup.Element.mem_tokens_of_opening hMem)
  have hOwns : Owns markup offset := by
    refine ⟨by omega, ?_, hOutside⟩
    rw [Span.contains_iff]
    omega
  rw [complete_eq_of_owns hSnapshot hPair hOwns, ownAnswer_eq_inContent hLaid hOpen hStart]

theorem complete_eq_between (hSnapshot : ofText source = .ok snapshot) (hPair : snapshot.Pairs path markup element)
    (hOpen : markup.startClose = some opening) (hClose : markup.slashOpen = some closing)
    (hStart : opening.span.endOffset + 1 ≤ offset) (hEnd : offset ≤ closing.span.startOffset)
    (hOutside : ∀ child ∈ markup.children, child.span.contains (offset - 1) = false) :
    snapshot.complete offset = inContent markup element offset := by
  have hMem : closing ∈ markup.closingTokens := by simp [Markup.Element.closingTokens, hClose]
  have hWidth := (isRead_of_pairs hSnapshot hPair).laidOut.token_span (Markup.Element.mem_tokens_of_closing hMem)
  exact complete_eq_inContent hSnapshot hPair hOpen hStart (by omega) hOutside

theorem complete_fresh (hSnapshot : ofText source = .ok snapshot) (hPair : snapshot.Pairs path markup element)
    (hOpen : markup.startClose = some opening) (hClose : markup.slashOpen = some closing)
    (hStart : opening.span.endOffset + 1 ≤ offset) (hEnd : offset ≤ closing.span.startOffset)
    (hOutside : ∀ part ∈ markup.parts, part.span.contains (offset - 1) = false) :
    snapshot.complete offset = some ⟨.elementContent, element, none, none, none⟩ := by
  have hLaid := (isRead_of_pairs hSnapshot hPair).laidOut
  rw [complete_eq_between hSnapshot hPair hOpen hClose hStart hEnd]
  · exact (inContent_eq_some hLaid hOpen hClose hStart hEnd).1 (locateFrom_eq_none_iff.mpr hOutside)
  · intro child hChild
    exact hOutside _ ((Markup.Element.mem_children_iff ..).mp hChild)

theorem complete_in_text (hSnapshot : ofText source = .ok snapshot) (hPair : snapshot.Pairs path markup element)
    (hOpen : markup.startClose = some opening) (hClose : markup.slashOpen = some closing)
    (hStart : opening.span.endOffset + 1 ≤ offset) (hEnd : offset ≤ closing.span.startOffset)
    {run : Markup.CharacterData} (hRun : .text run ∈ markup.parts) (hContains : run.span.contains (offset - 1) = true) :
    ∃ text ∈ element.texts, text.span = run.span ∧
      snapshot.complete offset = some ⟨.elementContent, element, none, some text,
        some (String.ofList ((source.toList.take offset).drop run.span.startOffset))⟩ := by
  have hLaid := (isRead_of_pairs hSnapshot hPair).laidOut
  have hTexts := ((aligned_of_ofText hSnapshot).repeats hPair).texts
  obtain ⟨before, after, hParts, hLocate⟩ := exists_locate hLaid hRun hContains
  have hNumber : markup.runs[(before.filterMap Markup.ContentPart.text?).length]? = some run := by
    rw [Markup.Element.runs, hParts]
    simp [Markup.ContentPart.text?]
  have hLt := (List.getElem?_eq_some_iff.mp hNumber).1
  rw [hTexts.length_eq] at hLt
  have hText := List.getElem?_eq_getElem hLt
  obtain ⟨other, token, hOther, _, hSpan, hToken, _, hEnds⟩ := run_endsAt hLaid hTexts (by omega) hLocate hText
  obtain rfl : run = other := Option.some.inj (hNumber.symm.trans hOther)
  refine ⟨_, List.getElem_mem hLt, hSpan, ?_⟩
  rw [complete_eq_between hSnapshot hPair hOpen hClose hStart hEnd (hLaid.not_child_of_part hRun hContains rfl),
    (inContent_eq_some hLaid hOpen hClose hStart hEnd).2 _ _ hLocate hText, hToken, ← hEnds.text, String.ofList_toList]

theorem complete_in_other (hSnapshot : ofText source = .ok snapshot) (hPair : snapshot.Pairs path markup element)
    (hOpen : markup.startClose = some opening) (hClose : markup.slashOpen = some closing)
    (hStart : opening.span.endOffset + 1 ≤ offset) (hEnd : offset ≤ closing.span.startOffset)
    {part : Markup.ContentPart} (hPart : part ∈ markup.parts) (hText : part.isText = false)
    (hElement : part.element? = none) (hContains : part.span.contains (offset - 1) = true) :
    snapshot.complete offset = none := by
  have hLaid := (isRead_of_pairs hSnapshot hPair).laidOut
  obtain ⟨before, after, _, hLocate⟩ := exists_locate hLaid hPart hContains
  rw [complete_eq_between hSnapshot hPair hOpen hClose hStart hEnd (hLaid.not_child_of_part hPart hContains hElement),
    Option.eq_none_iff_forall_ne_some]
  intro context hAnswer
  rw [hText] at hLocate
  obtain ⟨_, _, _, _, _, _, ⟨hNone, _⟩ | ⟨_, _, hFound, _⟩⟩ := inContent_cases hAnswer
  · rw [hLocate] at hNone
    cases hNone
  · rw [hLocate] at hFound
    cases hFound

/-- In the closing tag nothing is completed: what comes before it has ended. -/
theorem complete_in_endTag (hSnapshot : ofText source = .ok snapshot) (hPair : snapshot.Pairs path markup element)
    {last : Markup.Token} (hClose : markup.slashOpen = some closing)
    (hLast : last = closing ∨ markup.endName = some last ∨ markup.close = some last)
    (hStart : closing.span.startOffset < offset) (hEnd : offset ≤ last.span.endOffset + 1) :
    snapshot.complete offset = none := by
  have hRead := isRead_of_pairs hSnapshot hPair
  have hLaid := hRead.laidOut
  obtain ⟨opening, hOpen⟩ := hRead.exists_startClose hClose
  have hOpenMem : opening ∈ markup.openingTokens := by simp [Markup.Element.openingTokens, hOpen]
  have hCloseMem : closing ∈ markup.closingTokens := by simp [Markup.Element.closingTokens, hClose]
  have hLastMem : last ∈ markup.closingTokens := by
    rcases hLast with rfl | hName | hAngle
    · exact hCloseMem
    · simp [Markup.Element.closingTokens, hName]
    · simp [Markup.Element.closingTokens, hAngle]
  have hOrder := hLaid.opening_laid.endOffset_lt_startOffset hOpenMem (List.mem_append_right _ hCloseMem)
  have hWidth := hLaid.token_span (Markup.Element.mem_tokens_of_closing hLastMem)
  rw [complete_eq_inContent hSnapshot hPair hOpen (by omega) (by omega), Option.eq_none_iff_forall_ne_some]
  · intro context hAnswer
    obtain ⟨_, found, _, hFound, _, hBefore, _⟩ := inContent_cases hAnswer
    rw [present_of_mem hLaid hClose (Markup.Element.mem_tokens_of_closing hCloseMem), Option.some_or,
      Option.some.injEq] at hFound
    rw [← hFound] at hBefore
    omega
  · intro child hChild
    have hBefore := hLaid.part_lt_closing ((Markup.Element.mem_children_iff ..).mp hChild) hCloseMem
    rw [Bool.eq_false_iff, ne_eq, Span.contains_iff]
    intro hContains
    have hChildEnd : (Markup.ContentPart.element child).span.endOffset = child.span.endOffset := rfl
    omega

/-- Without a closing tag the body of an element is silent. -/
theorem complete_unclosed (hSnapshot : ofText source = .ok snapshot) (hPair : snapshot.Pairs path markup element)
    (hOpen : markup.startClose = some opening) (hClose : markup.slashOpen = none)
    (hStart : opening.span.endOffset + 1 ≤ offset)
    (hOutside : ∀ child ∈ markup.children, child.span.contains (offset - 1) = false) :
    snapshot.complete offset = none := by
  have hLaid := (isRead_of_pairs hSnapshot hPair).laidOut
  by_cases hEnd : offset ≤ markup.span.endOffset + 1
  · rw [complete_eq_inContent hSnapshot hPair hOpen hStart hEnd hOutside, Option.eq_none_iff_forall_ne_some]
    intro context hAnswer
    obtain ⟨_, _, _, hFound, _⟩ := inContent_cases hAnswer
    rw [hClose, hLaid.slashClose (by simp [hOpen])] at hFound
    cases hFound
  · -- The elements around it end where it ends, so that the cursor is behind all of them.
    refine complete_eq_none_of_root hSnapshot fun root hRoot hRead => ?_
    obtain ⟨input, next, hInput, hRest, hElement⟩ := hRead
    have hAt := (at?_eq_of_root hRoot path).symm.trans hPair.markup
    have hEnds := (hElement.ends hInput hRest hAt (by simp [hOpen]) hClose).2
    rw [Bool.eq_false_iff, ne_eq, Span.contains_iff]
    omega

theorem complete_behind_source (hSnapshot : ofText source = .ok snapshot) (hOffset : source.length < offset) :
    snapshot.complete offset = none := by
  refine complete_eq_none_of_root hSnapshot fun root hRoot hRead => ?_
  obtain ⟨last, hLast, hEnd⟩ := hRead.laidOut.span.exists_end
  have hInside := (hRead.laidOut.tokens.of_mem hLast).2.2
  rw [String.length_toList] at hInside
  rw [Bool.eq_false_iff, ne_eq, Span.contains_iff]
  omega

/-- Outside the root element nothing is completed. -/
theorem complete_outside_root (hSnapshot : ofText source = .ok snapshot) {token : Markup.Token}
    (hToken : token ∈ (snapshot.tree.prolog.map Markup.Prolog.tokens).getD []
      ++ snapshot.tree.misc.map Markup.Misc.token)
    (hContains : token.span.contains (offset - 1) = true) : snapshot.complete offset = none := by
  refine complete_eq_none_of_root hSnapshot fun root hRoot hRead => ?_
  rcases hDocument : Markup.Reader.document ⟨0, source.toList⟩ with ⟨tree, last⟩
  have hTree := tree_eq_of_ofText hSnapshot hDocument
  have hLaid := Markup.Reader.document_laid hDocument
  rw [← hTree, Markup.Tree.tokens, hRoot] at hLaid
  rw [← Markup.Tree.leadingMisc_append_trailingMisc, List.map_append, ← List.append_assoc] at hToken
  obtain ⟨first, hFirst, hStart⟩ := hRead.laidOut.span.exists_start
  obtain ⟨final, hFinal, hEnd⟩ := hRead.laidOut.span.exists_end
  rw [Span.contains_iff] at hContains
  rw [Bool.eq_false_iff, ne_eq, Span.contains_iff]
  rcases List.mem_append.mp hToken with hBefore | hAfter
  · obtain ⟨_, hLeading, _⟩ := hLaid.split
    have hOrder := hLeading.endOffset_lt_startOffset hBefore hFirst
    omega
  · have hOrder := hLaid.endOffset_lt_startOffset (List.mem_append_right _ hFinal) hAfter
    omega

/-- What is completed between the tags of an element, for every element of every text; and nothing is completed at
the start of the text, behind its end, and outside the root element. -/
theorem complete_in_body (source : String) :
    ∃ snapshot, ofText source = .ok snapshot ∧
      (∀ path markup, snapshot.tree.at? path = some markup →
        ∃ element, snapshot.Pairs path markup element ∧ snapshot.CompletesBody source markup element) ∧
      snapshot.complete 0 = none ∧
      (∀ offset, source.length < offset → snapshot.complete offset = none) ∧
      ∀ (token : Markup.Token) (offset : Nat),
        ((∃ prolog, snapshot.tree.prolog = some prolog ∧ token ∈ prolog.tokens) ∨
          ∃ item ∈ snapshot.tree.misc, item.token = token) →
        token.span.contains (offset - 1) = true → snapshot.complete offset = none := by
  obtain ⟨snapshot, hSnapshot⟩ : ∃ snapshot, ofText source = .ok snapshot := ⟨_, ofText_eq source⟩
  refine ⟨snapshot, hSnapshot, ?_, complete_eq_none_of_away hSnapshot (Or.inl rfl),
    fun offset => complete_behind_source hSnapshot, ?_⟩
  · intro path markup hAt
    obtain ⟨element, hPair⟩ := (aligned_of_ofText hSnapshot).exists_element hAt
    refine ⟨element, hPair, ?_⟩
    exact {
      fresh := fun _ _ _ => complete_fresh hSnapshot hPair
      text := fun _ _ _ _ hOpen hClose hStart hEnd =>
        complete_in_text hSnapshot hPair hOpen hClose hStart hEnd
      other := fun _ _ _ _ hOpen hClose hStart hEnd =>
        complete_in_other hSnapshot hPair hOpen hClose hStart hEnd
      endTag := fun _ _ _ => complete_in_endTag hSnapshot hPair
      unclosed := fun _ _ => complete_unclosed hSnapshot hPair }
  · intro token offset hToken
    refine complete_outside_root hSnapshot ?_
    rcases hToken with ⟨prolog, hProlog, hMem⟩ | ⟨item, hItem, rfl⟩
    · rw [hProlog]
      exact List.mem_append_left _ hMem
    · exact List.mem_append_right _ (List.mem_map_of_mem hItem)

end Snapshot

end ContentAssist
