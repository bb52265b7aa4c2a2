import ContentAssist.Proofs.Markup.Cut

/-! Elements and content in a text whose end was replaced by a barrier. An element that ends before the barrier is
read as before, if its content was closed; so are the first parts of content whose later parts the barrier replaces.
The place where the reader is inside an element is therefore fixed by the text before it. -/
namespace ContentAssist.Markup

namespace Lexeme

/-- A reference starts with `&`. -/
theorem exists_of_referenceLength? {text : List Char} {reference : Bool × Nat}
    (h : referenceLength? text = some reference) : ∃ rest, text = '&' :: rest := by
  cases text with
  | nil => cases h
  | cons c rest =>
      by_cases hFirst : c = '&'
      · exact ⟨rest, by rw [hFirst]⟩
      · rw [referenceLength?_eq_none hFirst] at h
        cases h

theorem referenceLength?_of_startsWith {text : List Char} {word : String} (hStarts : startsWith word text = true)
    (hWord : word.toList.head? = some '<') : referenceLength? text = none := by
  obtain ⟨rest, rfl⟩ := List.isPrefixOf_iff_prefix.mp hStarts
  obtain ⟨others, hOthers⟩ := List.head?_eq_some_iff.mp hWord
  have hAngle : '<' ≠ '&' := by decide
  rw [hOthers, List.cons_append]
  exact referenceLength?_eq_none hAngle _

end Lexeme

/-- If the text goes on behind a place, it went on before. -/
theorem Passes.rest_ne_nil {source : List Char} {input next : Input} {tokens : List Token}
    (h : Passes source input tokens next) (hInput : input.Within source) (hNext : next.rest ≠ []) :
    input.rest ≠ [] := by
  have hFrom := hInput.length
  have hTo := h.within.length
  have hForward := h.laid.le
  have hPos := List.length_pos_iff.mpr hNext
  exact List.length_pos_iff.mp (by omega)

namespace Reader

variable {source tail : List Char} {stop : Nat} {input middle next last : Input} {element : Element}
  {found others : List ContentPart}

/-- The first parts of content are read from the first place, and the second is behind them. Content may go on. -/
inductive PartsTo : Input → List ContentPart → Input → Prop
  | here {input : Input} : PartsTo input [] input
  | child {input middle last : Input} {child : Element} {others : List ContentPart}
      (hEnd : atContentEnd input = false) (hAt : atElement input = true)
      (first : ElementRead input child middle) (rest : PartsTo middle others last) :
      PartsTo input (.element child :: others) last
  | leaf {input middle last : Input} {part : ContentPart} {others : List ContentPart}
      (hEnd : atContentEnd input = false) (hAt : atElement input = false)
      (hLeaf : Reader.leaf input = (part, middle)) (rest : PartsTo middle others last) :
      PartsTo input (part :: others) last

theorem PartsRead.partsTo (hRead : PartsRead input found last) :
    PartsTo input found last ∧ atContentEnd last = true := by
  induction found generalizing input with
  | nil =>
      cases hRead with
      | done hEnd => exact ⟨.here, hEnd⟩
  | cons part others ih =>
      cases hRead with
      | child hEnd hAt first rest => exact ⟨.child hEnd hAt first (ih rest).1, (ih rest).2⟩
      | leaf hEnd hAt hLeaf rest => exact ⟨.leaf hEnd hAt hLeaf (ih rest).1, (ih rest).2⟩

namespace PartsTo

theorem finish (hTo : PartsTo input found last) (hEnd : atContentEnd last = true) : PartsRead input found last := by
  induction hTo with
  | here => exact .done hEnd
  | child hOpen hAt first _ ih => exact .child hOpen hAt first (ih hEnd)
  | leaf hOpen hAt hLeaf _ ih => exact .leaf hOpen hAt hLeaf (ih hEnd)

theorem passes (hTo : PartsTo input found last) (h : input.Within source) :
    Passes source input (found.flatMap ContentPart.tokens) last := by
  induction hTo with
  | here => exact Passes.refl h
  | child hEnd _ first _ ih =>
      have hFirst := first.passes h (rest_ne_nil_of_atContentEnd hEnd)
      rw [List.flatMap_cons]
      exact hFirst.trans (ih hFirst.within)
  | leaf hEnd _ hLeaf _ ih =>
      obtain ⟨token, hTokens, _, _, hFirst⟩ := leaf_passes h (rest_ne_nil_of_atContentEnd hEnd) hLeaf
      rw [List.flatMap_cons, hTokens]
      exact hFirst.trans (ih hFirst.within)

/-- Parts that were read one after another can be divided anywhere. -/
theorem split (hTo : PartsTo input (found ++ others) last) :
    ∃ middle, PartsTo input found middle ∧ PartsTo middle others last := by
  induction found generalizing input with
  | nil => exact ⟨input, .here, hTo⟩
  | cons part found ih =>
      cases hTo with
      | child hEnd hAt first rest =>
          obtain ⟨middle, hBefore, hAfter⟩ := ih rest
          exact ⟨middle, .child hEnd hAt first hBefore, hAfter⟩
      | leaf hEnd hAt hLeaf rest =>
          obtain ⟨middle, hBefore, hAfter⟩ := ih rest
          exact ⟨middle, .leaf hEnd hAt hLeaf hBefore, hAfter⟩

end PartsTo

/-- From one place only one element is read. -/
theorem ElementRead.unique {other : Element} {behind : Input} (h : input.Within source) (hRest : input.rest ≠ [])
    (hRead : ElementRead input element next) (hOther : ElementRead input other behind) :
    element = other ∧ next = behind := by
  have hFirst := hRead.element_eq h hRest le_rfl
  rw [hOther.element_eq h hRest le_rfl, Prod.mk.injEq] at hFirst
  exact ⟨hFirst.1.symm, hFirst.2.symm⟩

/-- Whatever is read as content starts with the parts that were read first. -/
theorem PartsTo.initial {whole : List ContentPart} {final : Input} (hTo : PartsTo input found middle)
    (h : input.Within source) (hRead : PartsRead input whole final) :
    ∃ others, whole = found ++ others ∧ PartsRead middle others final := by
  induction hTo generalizing whole with
  | here => exact ⟨whole, rfl, hRead⟩
  | child hEnd hAt first _ ih =>
      have hRest := rest_ne_nil_of_atContentEnd hEnd
      cases hRead with
      | done hOther =>
          rw [hEnd] at hOther
          cases hOther
      | child _ _ hFirst hRead =>
          obtain ⟨rfl, rfl⟩ := first.unique h hRest hFirst
          obtain ⟨others, rfl, hOthers⟩ := ih (first.passes h hRest).within hRead
          exact ⟨others, rfl, hOthers⟩
      | leaf _ hOther _ _ =>
          rw [hAt] at hOther
          cases hOther
  | leaf hEnd hAt hLeaf _ ih =>
      cases hRead with
      | done hOther =>
          rw [hEnd] at hOther
          cases hOther
      | child _ hOther _ _ =>
          rw [hAt] at hOther
          cases hOther
      | leaf _ _ hFirst hRead =>
          rw [hLeaf, Prod.mk.injEq] at hFirst
          obtain ⟨rfl, rfl⟩ := hFirst
          obtain ⟨_, _, _, _, hPasses⟩ := leaf_passes h (rest_ne_nil_of_atContentEnd hEnd) hLeaf
          obtain ⟨others, rfl, hOthers⟩ := ih hPasses.within hRead
          exact ⟨others, rfl, hOthers⟩

/-- Content that the text goes on behind was closed. -/
theorem ElementRead.slashOpen_isSome (hRead : ElementRead input element next) (hNext : next.rest ≠ [])
    (hOpen : element.startClose.isSome = true) : element.slashOpen.isSome = true := by
  cases hRead with
  | @bare _ _ start _ hNone =>
      rw [show (assemble start none ⟨none, none, none⟩).startClose = none from hNone] at hOpen
      cases hOpen
  | @enclosing _ _ afterContent _ start _ finish _ _ body hFinish =>
      rcases endTag_steps hFinish with ⟨hWord, rfl, rfl⟩ | ⟨slashOpen, _, _, _, hIs, _⟩
      · rcases Bool.or_eq_true_iff.mp body.partsTo.2 with hEmpty | hSlash
        · exact absurd (List.isEmpty_iff.mp hEmpty) hNext
        · rw [Input.word?, if_pos hSlash] at hWord
          cases hWord
      · exact Option.isSome_iff_exists.mpr ⟨slashOpen, hIs⟩

theorem PartsTo.closed (hTo : PartsTo input found last) (h : input.Within source) (hLast : last.rest ≠ []) :
    ∀ child, ContentPart.element child ∈ found → child.startClose.isSome = true → child.slashOpen.isSome = true := by
  intro child hChild hOpen
  induction hTo with
  | here => cases hChild
  | child hEnd _ first rest ih =>
      have hFirst := first.passes h (rest_ne_nil_of_atContentEnd hEnd)
      rcases List.mem_cons.mp hChild with hHere | hLater
      · cases hHere
        exact first.slashOpen_isSome ((rest.passes hFirst.within).rest_ne_nil hFirst.within hLast) hOpen
      · exact ih hFirst.within hLast hLater
  | leaf hEnd _ hLeaf _ ih =>
      obtain ⟨_, _, _, hNone, hFirst⟩ := leaf_passes h (rest_ne_nil_of_atContentEnd hEnd) hLeaf
      rcases List.mem_cons.mp hChild with hHere | hLater
      · rw [← hHere] at hNone
        cases hNone
      · exact ih hFirst.within hLast hLater

theorem referenceLength?_of_atElement (hAt : atElement input = true) : Lexeme.referenceLength? input.rest = none := by
  simp only [atElement, Bool.and_eq_true] at hAt
  exact Lexeme.referenceLength?_of_startsWith hAt.1.1.1 (by decide)

/-- Where a closing tag ends before the cut, its `</` does. -/
theorem endTag_opening {finish : EndTag} (hRead : endTag input = (finish, next))
    (hOpen : finish.slashOpen.isSome = true) (hBefore : EndBefore stop finish.tokens) :
    input.startsWith "</" = true ∧ input.offset + "</".length ≤ stop := by
  rcases endTag_steps hRead with ⟨_, rfl, _⟩ | ⟨slashOpen, _, _, hWord, hIs, _⟩
  · cases hOpen
  · have hStarts : input.startsWith "</" = true := by
      by_contra hNot
      rw [Input.word?, if_neg hNot] at hWord
      cases hWord
    rw [EndTag.tokens, hIs, endBefore_append, endBefore_append] at hBefore
    exact ⟨hStarts, Input.word?_fits (by decide) hWord hBefore.1.1 hStarts⟩

/-- Where a reference comes next, it is the next part. -/
theorem leaf_reference {part : ContentPart} {reference : Bool × Nat}
    (hReference : Lexeme.referenceLength? input.rest = some reference) (hRead : leaf input = (part, next)) :
    part.isText = false ∧ next.offset = input.offset + reference.2 ∧
      ∃ kind, part.tokens = [(input.token kind reference.2).1] := by
  obtain ⟨rest, hRest⟩ := Lexeme.exists_of_referenceLength? hReference
  have hOpening : ∀ word ∈ openings, input.startsWith word = false := by
    simp [openings, Input.startsWith, Lexeme.startsWith, hRest, List.isPrefixOf]
  rw [leaf, hOpening _ (by decide), hOpening _ (by decide), hOpening _ (by decide)] at hRead
  simp only [Bool.false_eq_true, if_false, hReference] at hRead
  cases hRead
  exact ⟨rfl, rfl, _, rfl⟩

/-- The element is read in the text with the new end as it was before. -/
def Keeps (source tail : List Char) (stop : Nat) (element : Element) : Prop :=
  ∀ input next, input.Within source → input.rest ≠ [] → ElementRead input element next →
    ElementRead (input.cut stop tail) element (next.cut stop tail)

/-- Parts that end before the cut are read as before, if each child is. The last part must not be a comment, section
or instruction that ran into the end of the text, and no reference behind it may be cut in two. -/
theorem PartsTo.cut (hTail : Barrier tail) (hTo : PartsTo input found last) (h : input.Within source)
    (hChildren : ∀ child, ContentPart.element child ∈ found → Keeps source tail stop child)
    (hBefore : EndBefore stop (found.flatMap ContentPart.tokens))
    (hTerminated : last.rest = [] → ∀ part, found.getLast? = some part → part.isDelimited = false)
    (hWhole : ∀ reference, Lexeme.referenceLength? last.rest = some reference → last.offset < stop →
      last.offset + reference.2 ≤ stop) :
    PartsTo (input.cut stop tail) found (last.cut stop tail) := by
  induction hTo with
  | here => exact .here
  | @child input middle last child others hEnd hAt first rest ih =>
      have hRest := rest_ne_nil_of_atContentEnd hEnd
      have hFirst := first.passes h hRest
      rw [List.flatMap_cons, endBefore_append] at hBefore
      have hStop : input.offset < stop := by
        obtain ⟨token, hToken⟩ := List.exists_mem_of_ne_nil _ (first.covers h hRest).ne_nil
        obtain ⟨hOccurs, hFrom, _⟩ := hFirst.laid.of_mem hToken
        exact (hFrom.trans hOccurs.startOffset_le).trans_lt (hBefore.1 token hToken)
      obtain ⟨hEndCut, hAtCut⟩ := atElement_cut_of_lt hTail hEnd hAt hStop
      refine .child hEndCut hAtCut
        (hChildren child (List.mem_cons_self ..) input middle h hRest first)
        (ih hFirst.within (fun child hChild => hChildren child (List.mem_cons_of_mem _ hChild)) hBefore.2 ?_ hWhole)
      intro hLast part hPart
      exact hTerminated hLast part (by rw [List.getLast?_cons, hPart, Option.getD_some])
  | @leaf input middle last part others hEnd hAt hLeaf rest ih =>
      have hRest := rest_ne_nil_of_atContentEnd hEnd
      obtain ⟨kind, count, hPos, hCount, hTokens, _, _, hNext, _⟩ := leaf_steps hRest hLeaf
      have hWithin : middle.Within source := by
        rw [hNext]
        exact (Input.token_passes h kind count hPos hCount).within
      rw [List.flatMap_cons, endBefore_append, hTokens] at hBefore
      have hFits := Input.offset_add_le hPos hCount hBefore.1
      have hMiddle : middle.offset ≤ stop := by
        rw [hNext]
        exact hFits
      have hEnded : part.isDelimited = true → middle.rest ≠ [] := by
        intro hDelimited hEmpty
        cases rest with
        | here =>
            rw [hTerminated hEmpty part rfl] at hDelimited
            cases hDelimited
        | child hOther _ _ _ => exact rest_ne_nil_of_atContentEnd hOther hEmpty
        | leaf hOther _ _ _ => exact rest_ne_nil_of_atContentEnd hOther hEmpty
      have hKept : ∀ reference, Lexeme.referenceLength? middle.rest = some reference → middle.offset < stop →
          middle.offset + reference.2 ≤ stop := by
        intro reference hReference hLt
        cases rest with
        | here => exact hWhole reference hReference hLt
        | child _ hOther _ _ =>
            rw [referenceLength?_of_atElement hOther] at hReference
            cases hReference
        | leaf _ _ hOther _ =>
            obtain ⟨_, _, _, hSecond⟩ := leaf_reference hReference hOther
            have hBounds := Lexeme.referenceLength?_bounds hReference
            have hLater := hBefore.2
            rw [List.flatMap_cons, endBefore_append, hSecond] at hLater
            exact Input.offset_add_le hBounds.1 hBounds.2 hLater.1
      have hStop : input.offset < stop := by omega
      have hAtCut : atElement (input.cut stop tail) = false := by
        rw [atElement_cut hTail hRest hStop (opening_fits hLeaf hMiddle hEnded), hAt]
      refine .leaf (atContentEnd_cut hTail hEnd hStop) hAtCut (leaf_cut hTail hRest hLeaf hMiddle hEnded hKept)
        (ih hWithin (fun child hChild => hChildren child (List.mem_cons_of_mem _ hChild)) hBefore.2 ?_ hWhole)
      intro hLast other hOther
      exact hTerminated hLast other (by rw [List.getLast?_cons, hOther, Option.getD_some])

/-- An element that ends before the cut is read as before, if its content was closed. -/
theorem keeps_of_endBefore (hTail : Barrier tail) (source : List Char) (element : Element)
    (hBefore : EndBefore stop element.tokens)
    (hClosed : element.startClose.isSome = true → element.slashOpen.isSome = true) :
    Keeps source tail stop element := by
  induction element using Element.inductionOnChildren with
  | step element ih =>
      intro input next h hRest hRead
      cases hRead with
      | bare hStart hOpen =>
          rw [assemble_tokens_bare] at hBefore
          exact .bare (startTag_cut hTail h hRest hStart hBefore) hOpen
      | @enclosing _ afterStart afterContent _ start found finish hStart hOpen body hFinish =>
          obtain ⟨hTo, hEnd⟩ := body.partsTo
          have hStarted := startTag_passes h hRest hStart
          rw [assemble_tokens _ _ _ (startTag_slashClose hStart hOpen), endBefore_append, endBefore_append] at hBefore
          obtain ⟨⟨hStartBefore, hPartsBefore⟩, hFinishBefore⟩ := hBefore
          have hStarts := endTag_opening hFinish (hClosed hOpen) hFinishBefore
          have hNonempty : afterContent.rest ≠ [] := by
            intro hEmpty
            simp [Input.startsWith, hEmpty, Lexeme.startsWith] at hStarts
          have hNoReference : Lexeme.referenceLength? afterContent.rest = none :=
            Lexeme.referenceLength?_of_startsWith hStarts.1 (by decide)
          have hChildren : ∀ child, ContentPart.element child ∈ found → Keeps source tail stop child := by
            intro child hChild
            refine ih child ?_ (fun token hToken => hPartsBefore token ?_)
              (hTo.closed hStarted.within hNonempty child hChild)
            · rwa [Element.mem_children_iff, assemble_parts]
            · exact List.mem_flatMap.mpr ⟨_, hChild, hToken⟩
          have hBody := hTo.cut hTail hStarted.within hChildren hPartsBefore
            (fun hEmpty => absurd hEmpty hNonempty) (by simp [hNoReference])
          have hEndCut : atContentEnd (afterContent.cut stop tail) = true := by
            have hCut : (afterContent.cut stop tail).startsWith "</" = _ :=
              Input.startsWith_cut hTail (by decide) (by decide) afterContent stop
            rw [hStarts.1, decide_eq_true hStarts.2, Bool.and_true] at hCut
            rw [atContentEnd, hCut, Bool.or_true]
          have hOffset : (afterStart.cut stop tail).offset = afterStart.offset := by
            have hForward := (hTo.passes hStarted.within).laid.le
            exact Nat.min_eq_left (hForward.trans ((Nat.le_add_right _ _).trans hStarts.2))
          have hElement := ElementRead.enclosing (startTag_cut hTail h hRest hStart hStartBefore) hOpen
            (hBody.finish hEndCut) (endTag_cut hTail hFinish hFinishBefore)
          rwa [hOffset] at hElement

/-- Parts that end before the cut are read as before, if the text went on behind them. -/
theorem PartsTo.cut_of_rest (hTail : Barrier tail) (hTo : PartsTo input found last) (h : input.Within source)
    (hLast : last.rest ≠ []) (hBefore : EndBefore stop (found.flatMap ContentPart.tokens))
    (hWhole : ∀ reference, Lexeme.referenceLength? last.rest = some reference → last.offset < stop →
      last.offset + reference.2 ≤ stop) :
    PartsTo (input.cut stop tail) found (last.cut stop tail) := by
  refine hTo.cut hTail h ?_ hBefore (fun hEmpty => absurd hEmpty hLast) hWhole
  intro child hChild
  refine keeps_of_endBefore hTail source child ?_ (hTo.closed h hLast child hChild)
  intro token hToken
  exact hBefore token (List.mem_flatMap.mpr ⟨_, hChild, hToken⟩)

end Reader

end ContentAssist.Markup
