import ContentAssist.Proofs.Markup.Adjacency
import ContentAssist.Proofs.Markup.Trail

/-! A tag that is written into the content of an element. Between two parts or inside a run of text, the tag is read
as a child of the element whatever follows it; the parts before it are read as they were, but a run of text that it
divides ends at the tag. -/
namespace ContentAssist.Markup

/-- The place lies between the tags. The content of an element without closing tag goes on to the end of the text. -/
structure Element.HasInBody (element : Element) (length position : Nat) : Prop where
  start : ∃ close, element.startClose = some close ∧ close.span.endOffset + 1 ≤ position
  stop : position ≤ (element.slashOpen.map fun token => token.span.startOffset).getD length

/-- The place is not inside a part that is no text. -/
def Element.IsBetweenParts (element : Element) (position : Nat) : Prop :=
  ∀ part ∈ element.parts, part.isText = false →
    ¬ (part.span.startOffset < position ∧ position ≤ part.span.endOffset)

namespace Reader

variable {source tail : List Char} {stop : Nat} {input next last : Input} {element : Element}
  {found : List ContentPart}

/-- A part other than an element starts where it is read, and the reader goes on directly behind it. -/
theorem leaf_bounds {part : ContentPart} (hRest : input.rest ≠ []) (hRead : leaf input = (part, next)) :
    part.span.startOffset = input.offset ∧ part.span.endOffset + 1 = next.offset := by
  obtain ⟨kind, _, hPos, hCount, _, hSpan, _, rfl, _⟩ := leaf_steps hRest hRead
  rw [hSpan]
  exact Input.token_bounds kind hPos hCount

/-- A reference is not cut in two where no part but text is. -/
theorem PartsRead.reference_fits (body : PartsRead input found last)
    (hBetween : ∀ part ∈ found, part.isText = false →
      ¬ (part.span.startOffset < stop ∧ stop ≤ part.span.endOffset)) :
    ∀ reference, Lexeme.referenceLength? input.rest = some reference → input.offset < stop →
      input.offset + reference.2 ≤ stop := by
  intro reference hReference hLt
  obtain ⟨rest, hRest⟩ := Lexeme.exists_of_referenceLength? hReference
  cases body with
  | done hEnd => simp [atContentEnd, Input.startsWith, Lexeme.startsWith, hRest, List.isPrefixOf] at hEnd
  | child _ hAt _ _ =>
      rw [referenceLength?_of_atElement hAt] at hReference
      cases hReference
  | @leaf _ middle _ part others hEnd hAt hLeaf _ =>
      obtain ⟨hFrom, hTo⟩ := leaf_bounds (rest_ne_nil_of_atContentEnd hEnd) hLeaf
      obtain ⟨hText, hNext, _⟩ := leaf_reference hReference hLeaf
      have hOutside := hBetween part (List.mem_cons_self ..) hText
      omega

/-- Before a tag that is written into content, the reader comes to it and has read parts of the content. -/
theorem PartsRead.exists_partsTo_cut (hTail : Barrier tail) (body : PartsRead input found last)
    (h : input.Within source) (hStart : input.offset ≤ stop) (hStop : stop ≤ last.offset)
    (hBetween : ∀ part ∈ found, part.isText = false →
      ¬ (part.span.startOffset < stop ∧ stop ≤ part.span.endOffset))
    (hTerminated : ∀ part ∈ found, part.isDelimited = true → part.span.endOffset + 1 = stop → stop < source.length)
    (hClosed : ∀ child, ContentPart.element child ∈ found → child.span.endOffset < stop →
      child.startClose.isSome = true → child.slashOpen.isSome = true) :
    ∃ passed, PartsTo (input.cut stop tail) passed ⟨stop, tail⟩ := by
  have hLast := (body.passes h).within.offset
  induction found generalizing input with
  | nil =>
      cases body with
      | done _ =>
          rw [Input.cut_of_le hStop]
          exact ⟨[], .here⟩
  | cons part others ih =>
      rcases Nat.lt_or_eq_of_le hStart with hLt | rfl
      · cases body with
        | @child _ middle _ child _ hEnd hAt first rest =>
            have hRest := rest_ne_nil_of_atContentEnd hEnd
            have hPasses := first.passes h hRest
            have hBefore : child.span.endOffset < stop := by
              have hOutside := hBetween _ (List.mem_cons_self ..) rfl
              have hFrom := first.startOffset
              simp only [ContentPart.span] at hOutside
              omega
            have hTokens : EndBefore stop child.tokens := fun token hToken =>
              (((first.covers h hRest).of_mem hPasses.laid hToken).2).trans_lt hBefore
            have hChild := keeps_of_endBefore hTail source child hTokens (hClosed child (List.mem_cons_self ..) hBefore)
              input middle h hRest first
            obtain ⟨hEndCut, hAtCut⟩ := atElement_cut_of_lt hTail hEnd hAt hLt
            by_cases hMiddle : middle.offset ≤ stop
            · obtain ⟨passed, hPassed⟩ := ih rest hPasses.within hMiddle
                (fun part hPart => hBetween part (List.mem_cons_of_mem _ hPart))
                (fun part hPart => hTerminated part (List.mem_cons_of_mem _ hPart))
                (fun child hChild => hClosed child (List.mem_cons_of_mem _ hChild))
              exact ⟨_, .child hEndCut hAtCut hChild hPassed⟩
            · -- Only characters that belong to no token came behind the child.
              rw [Input.cut_of_le (Nat.le_of_not_le hMiddle)] at hChild
              exact ⟨_, .child hEndCut hAtCut hChild .here⟩
        | @leaf _ middle _ _ _ hEnd hAt hLeaf rest =>
            have hRest := rest_ne_nil_of_atContentEnd hEnd
            obtain ⟨hFrom, hTo⟩ := leaf_bounds hRest hLeaf
            obtain ⟨_, _, _, _, hPasses⟩ := leaf_passes h hRest hLeaf
            by_cases hMiddle : middle.offset ≤ stop
            · have hEnded : part.isDelimited = true → middle.rest ≠ [] := by
                intro hDelimited hEmpty
                have hAtEnd := hPasses.within.length
                rw [hEmpty, List.length_nil] at hAtEnd
                have hMore := hTerminated part (List.mem_cons_self ..) hDelimited (by omega)
                omega
              have hLater : ∀ other ∈ others, other.isText = false →
                  ¬ (other.span.startOffset < stop ∧ stop ≤ other.span.endOffset) :=
                fun other hOther => hBetween other (List.mem_cons_of_mem _ hOther)
              have hLeafCut := leaf_cut hTail hRest hLeaf hMiddle hEnded (rest.reference_fits hLater)
              have hAtCut : atElement (input.cut stop tail) = false := by
                rw [atElement_cut hTail hRest hLt (opening_fits hLeaf hMiddle hEnded), hAt]
              obtain ⟨passed, hPassed⟩ := ih rest hPasses.within hMiddle hLater
                (fun part hPart => hTerminated part (List.mem_cons_of_mem _ hPart))
                (fun child hChild => hClosed child (List.mem_cons_of_mem _ hChild))
              exact ⟨_, .leaf (atContentEnd_cut hTail hEnd hLt) hAtCut hLeafCut hPassed⟩
            · -- A part that goes on over the place is text, and now stops there.
              have hText : part.isText = true := by
                by_contra hNot
                have hOutside := hBetween part (List.mem_cons_self ..) (Bool.eq_false_iff.mpr hNot)
                omega
              obtain ⟨hSame, run, hRun⟩ := leaf_cut_text hTail hRest hLeaf hText hLt (Nat.le_of_not_le hMiddle)
              rw [Input.cut_of_le (Nat.le_of_not_le hMiddle)] at hRun
              exact ⟨_, .leaf (atContentEnd_cut hTail hEnd hLt) (hSame.trans hAt) hRun .here⟩
      · rw [Input.cut_of_le le_rfl]
        exact ⟨[], .here⟩

/-- The content of an element that was read ends at its `</` or at the end of the text. -/
theorem PartsRead.offset_eq {finish : EndTag} (body : PartsRead input found last) (h : input.Within source)
    (hFinish : endTag last = (finish, next)) :
    last.offset = (finish.slashOpen.map fun token => token.span.startOffset).getD source.length := by
  have hLast := (body.passes h).within
  cases hOpen : finish.slashOpen with
  | some token =>
      rw [Option.map_some, Option.getD_some]
      exact ((endTag_bounds hFinish).1 token hOpen).symm
  | none =>
      have hEmpty : last.rest = [] := by
        rcases Bool.or_eq_true_iff.mp body.partsTo.2 with hEmpty | hSlash
        · exact List.isEmpty_iff.mp hEmpty
        · rcases endTag_steps hFinish with ⟨hWord, _, _⟩ | ⟨slashOpen, _, _, _, hIs, _⟩
          · rw [Input.word?, if_pos hSlash] at hWord
            cases hWord
          · rw [hIs] at hOpen
            cases hOpen
      have hLength := hLast.length
      rw [hEmpty] at hLength
      exact hLength

/-- A tag that is written into the content of an element is read as a child of this element. -/
theorem Comes.insert {trail : Trail} {here : Input} (hTail : Barrier tail) (hNonempty : tail ≠ [])
    (hComes : Comes source trail here) (hRead : ElementRead here element next)
    (hBody : element.HasInBody source.length stop) (hBetween : element.IsBetweenParts stop)
    (hTerminated : ∀ part ∈ element.parts, part.isDelimited = true → part.span.endOffset + 1 = stop →
      stop < source.length)
    (hDeepest : ∀ child ∈ element.children, ¬ child.HasInBody source.length stop) :
    ∃ passed, Comes (source.take stop ++ tail) (trail ++ [passed]) ⟨stop, tail⟩ := by
  obtain ⟨hHere, hRest⟩ := hComes.within
  obtain ⟨⟨close, hClose, hFrom⟩, hTo⟩ := hBody
  cases hRead with
  | bare _ hNone => cases hNone.symm.trans hClose
  | @enclosing _ afterStart afterContent _ start found finish hStart hOpen body hFinish =>
      have hStarted := startTag_passes hHere hRest hStart
      have hParts := body.passes hStarted.within
      have hAfterStart : afterStart.offset ≤ stop := by
        rw [← startTag_bounds hStart (Or.inl hClose)]
        exact hFrom
      have hAfterContent : stop ≤ afterContent.offset := by
        rw [body.offset_eq hStarted.within hFinish]
        exact hTo
      have hLength := hAfterContent.trans hParts.within.offset
      simp only [Element.IsBetweenParts, Element.children, assemble_parts] at hBetween hTerminated hDeepest
      have hClosed : ∀ child, ContentPart.element child ∈ found → child.span.endOffset < stop →
          child.startClose.isSome = true → child.slashOpen.isSome = true := by
        intro child hChild hBefore hOpened
        by_contra hNot
        obtain ⟨token, hToken⟩ := Option.isSome_iff_exists.mp hOpened
        have hLaid := (body.isRead hStarted.within hChild).laidOut
        have hMem : token ∈ child.openingTokens := by simp [Element.openingTokens, hToken]
        have hInside := hLaid.token_span (Element.mem_tokens_of_opening hMem)
        refine hDeepest child (List.mem_filterMap.mpr ⟨_, hChild, rfl⟩) ⟨⟨token, hToken, by omega⟩, ?_⟩
        rw [Option.not_isSome_iff_eq_none.mp hNot]
        exact hLength
      obtain ⟨passed, hPassed⟩ := body.exists_partsTo_cut hTail hStarted.within hAfterStart hAfterContent hBetween
        hTerminated hClosed
      obtain ⟨hEndCut, hAtCut⟩ := atElement_barrier hTail hNonempty stop
      have hStartCut := startTag_cut hTail hHere hRest hStart (hStarted.endBefore hAfterStart)
      have hOuter := hComes.cut hTail hNonempty (hStarted.laid.le.trans hAfterStart) hLength
      exact ⟨passed, hOuter.trans (.inside hStartCut hOpen hPassed hEndCut hAtCut .here)⟩

end Reader

end ContentAssist.Markup
