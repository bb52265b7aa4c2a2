import ContentAssist.Proofs.Markup.Passage
import Mathlib.Data.Option.Basic

/-! Reading elements and content as a relation between two places in the text and what lies between them. The
relation has no budget of steps: it is what the reader does whenever its budget is as large as the text that is
left. What is proved by induction over a reading therefore holds of every element that the reader returns. -/
namespace ContentAssist.Markup

namespace Reader

/-- Content ends here: at `</` or at the end of the text. -/
def atContentEnd (input : Input) : Bool :=
  input.rest.isEmpty || input.startsWith "</"

mutual

/-- The element is read from the first place and the second is behind it. -/
inductive ElementRead : Input → Element → Input → Prop
  /-- An opening tag without `>` is all there is. -/
  | bare {input next : Input} {start : StartTag} (hStart : startTag input = (start, next))
      (hOpen : start.startClose = none) :
      ElementRead input (assemble start none ⟨none, none, none⟩) next
  | enclosing {input afterStart afterContent next : Input} {start : StartTag} {found : List ContentPart}
      {finish : EndTag} (hStart : startTag input = (start, afterStart))
      (hOpen : start.startClose.isSome = true) (body : PartsRead afterStart found afterContent)
      (hFinish : endTag afterContent = (finish, next)) :
      ElementRead input (assemble start (some (contentOf afterStart.offset found)) finish) next

/-- The parts of content are read from the first place up to the second, where content ends. -/
inductive PartsRead : Input → List ContentPart → Input → Prop
  | done {input : Input} (hEnd : atContentEnd input = true) : PartsRead input [] input
  | child {input middle last : Input} {child : Element} {others : List ContentPart}
      (hEnd : atContentEnd input = false) (hAt : atElement input = true)
      (first : ElementRead input child middle) (rest : PartsRead middle others last) :
      PartsRead input (.element child :: others) last
  | leaf {input middle last : Input} {part : ContentPart} {others : List ContentPart}
      (hEnd : atContentEnd input = false) (hAt : atElement input = false)
      (hLeaf : Reader.leaf input = (part, middle)) (rest : PartsRead middle others last) :
      PartsRead input (part :: others) last

end

variable {source : List Char} {input next : Input} {start : StartTag} {finish : EndTag} {element : Element}
  {found : List ContentPart}

theorem rest_ne_nil_of_atContentEnd (h : atContentEnd input = false) : input.rest ≠ [] := by
  intro hRest
  simp [atContentEnd, hRest] at h

theorem contentOf_parts (offset : Nat) (found : List ContentPart) : (contentOf offset found).parts = found := by
  unfold contentOf
  split <;> rfl

theorem assemble_parts (start : StartTag) (offset : Nat) (found : List ContentPart) (finish : EndTag) :
    (assemble start (some (contentOf offset found)) finish).parts = found := by
  simp [assemble, Element.parts, contentOf_parts]

theorem assemble_tokens_bare (start : StartTag) :
    (assemble start none ⟨none, none, none⟩).tokens = start.tokens := by
  simp [Element.tokens_eq, Element.openingTokens, Element.closingTokens, Element.parts, assemble,
    StartTag.tokens]

theorem assemble_tokens (offset : Nat) (found : List ContentPart) (finish : EndTag)
    (hSlash : start.slashClose = none) :
    (assemble start (some (contentOf offset found)) finish).tokens =
      start.tokens ++ found.flatMap ContentPart.tokens ++ finish.tokens := by
  rw [Element.tokens_eq, assemble_parts]
  simp [Element.openingTokens, Element.closingTokens, assemble, StartTag.tokens, EndTag.tokens, hSlash]

mutual

/-- Reading an element passes over its tokens. -/
theorem ElementRead.passes {input next : Input} {element : Element} (h : input.Within source)
    (hRest : input.rest ≠ []) : ElementRead input element next → Passes source input element.tokens next
  | .bare hStart _ => by
      rw [assemble_tokens_bare]
      exact startTag_passes h hRest hStart
  | .enclosing hStart hOpen body hFinish => by
      have hStarted := startTag_passes h hRest hStart
      have hBody := body.passes hStarted.within
      have hFinished := endTag_passes hBody.within hFinish
      rw [assemble_tokens _ _ _ (startTag_slashClose hStart hOpen)]
      exact (hStarted.trans hBody).trans hFinished

theorem PartsRead.passes {input last : Input} {found : List ContentPart} (h : input.Within source) :
    PartsRead input found last → Passes source input (found.flatMap ContentPart.tokens) last
  | .done _ => Passes.refl h
  | .child hEnd _ first rest => by
      have hFirst := first.passes h (rest_ne_nil_of_atContentEnd hEnd)
      rw [List.flatMap_cons]
      exact hFirst.trans (rest.passes hFirst.within)
  | .leaf hEnd _ hLeaf rest => by
      obtain ⟨token, hTokens, _, _, hFirst⟩ := leaf_passes h (rest_ne_nil_of_atContentEnd hEnd) hLeaf
      rw [List.flatMap_cons, hTokens]
      exact hFirst.trans (rest.passes hFirst.within)

end

/-- The last token of nodes that span their tokens ends where the last node ends. -/
theorem getLast?_flatMap_endOffset {Node : Type} {tokens : Node → List Token} {span : Node → Span}
    {nodes : List Node} (h : ∀ node ∈ nodes, Covers (span node) (tokens node)) :
    (nodes.flatMap tokens).getLast?.map (fun token => token.span.endOffset) =
      nodes.getLast?.map fun node => (span node).endOffset := by
  rcases List.eq_nil_or_concat nodes with rfl | ⟨before, last, rfl⟩
  · rfl
  · obtain ⟨token, hToken, hEnd⟩ := (h last (by simp)).last
    simp [List.getLast?_append, hToken, hEnd]

/-- Content that is not empty spans the tokens of its parts. -/
theorem contentOf_covers {lower upper : Nat} (offset : Nat)
    (hCovers : ∀ part ∈ found, Covers part.span part.tokens)
    (hLaid : Laid source lower (found.flatMap ContentPart.tokens) upper) (hFound : found ≠ []) :
    Covers (contentOf offset found).span (found.flatMap ContentPart.tokens) := by
  obtain ⟨last, hLast⟩ := Option.isSome_iff_exists.mp (List.getLast?_isSome.mpr hFound)
  obtain ⟨first, rest, rfl⟩ := List.exists_cons_of_ne_nil hFound
  have hFirst := hCovers first (List.mem_cons_self ..)
  have hFinal := hCovers last (List.mem_of_getLast? hLast)
  have hHull : Covers ⟨first.span.startOffset, last.span.endOffset⟩
      ((first :: rest).flatMap ContentPart.tokens) := by
    constructor
    · obtain ⟨token, hToken, hStart⟩ := hFirst.first
      exact ⟨token, by simp [List.head?_append, hToken], hStart⟩
    · have hEnds := getLast?_flatMap_endOffset hCovers
      rw [hLast] at hEnds
      obtain ⟨token, hToken, hEnd⟩ := Option.map_eq_some_iff.mp hEnds
      exact ⟨token, hToken, hEnd⟩
  -- The hull is the least span over the two: the first part ends no later than the last one, which starts no earlier.
  obtain ⟨endToken, hEndToken, hFirstEnd⟩ := hFirst.exists_end
  obtain ⟨startToken, hStartToken, hFinalStart⟩ := hFinal.exists_start
  have hEndBound := hHull.of_mem hLaid (List.mem_flatMap.mpr ⟨first, List.mem_cons_self .., hEndToken⟩)
  have hStartBound := hHull.of_mem hLaid (List.mem_flatMap.mpr ⟨last, List.mem_of_getLast? hLast, hStartToken⟩)
  have hSpan : (contentOf offset (first :: rest)).span = ⟨first.span.startOffset, last.span.endOffset⟩ := by
    simp only [contentOf, List.head?_cons, hLast, Span.cover, Span.mk.injEq]
    simp only at hEndBound hStartBound
    omega
  rw [hSpan]
  exact hHull

theorem getLast?_toList {Item : Type} (slot : Option Item) : slot.toList.getLast? = slot := by
  cases slot <;> rfl

/-- The end of the last token of an opening tag. -/
theorem startTag_getLast? (hAttributes : ∀ attr ∈ start.attributes, attr.LaidOut) :
    start.tokens.getLast?.map (fun token => token.span.endOffset) =
      (start.slashClose.map fun token => token.span.endOffset).or
        ((start.startClose.map fun token => token.span.endOffset).or
          ((start.attributes.getLast?.map fun attr => attr.span.endOffset).or
            ((start.name.map fun token => token.span.endOffset).or (some start.openAngle.span.endOffset)))) := by
  rw [← getLast?_flatMap_endOffset fun attr hAttr => (hAttributes attr hAttr).span]
  have hTokens : start.tokens = [start.openAngle] ++ start.name.toList
      ++ start.attributes.flatMap Attribute.tokens ++ start.startClose.toList ++ start.slashClose.toList := by
    simp [StartTag.tokens]
  rw [hTokens]
  simp only [List.getLast?_append, getLast?_toList, Option.map_or, List.getLast?_singleton, Option.map_some]

theorem endTag_getLast? (finish : EndTag) :
    finish.tokens.getLast?.map (fun token => token.span.endOffset) =
      (finish.close.map fun token => token.span.endOffset).or
        ((finish.name.map fun token => token.span.endOffset).or
          (finish.slashOpen.map fun token => token.span.endOffset)) := by
  simp only [EndTag.tokens, List.getLast?_append, getLast?_toList, Option.map_or]

theorem lastSpan_endOffset (start : StartTag) (content : Option Content) (finish : EndTag) :
    some (lastSpan start content finish).endOffset =
      ((finish.close.map fun token => token.span.endOffset).or
        ((finish.name.map fun token => token.span.endOffset).or
          (finish.slashOpen.map fun token => token.span.endOffset))).or
      (((content.filter fun content => !content.parts.isEmpty).map fun content => content.span.endOffset).or
        ((start.startClose.map fun token => token.span.endOffset).or
          ((start.slashClose.map fun token => token.span.endOffset).or
            ((start.attributes.getLast?.map fun attr => attr.span.endOffset).or
              ((start.name.map fun token => token.span.endOffset).or
                (some start.openAngle.span.endOffset)))))) := by
  unfold lastSpan
  cases finish.close <;> cases finish.name <;> cases finish.slashOpen <;> try rfl
  cases content.filter fun content => !content.parts.isEmpty with
  | some content => rfl
  | none =>
      cases start.startClose <;> cases start.slashClose <;> cases start.attributes.getLast? <;>
        cases start.name <;> rfl

theorem assemble_covers_bare (hAttributes : ∀ attr ∈ start.attributes, attr.LaidOut)
    (hOpen : start.startClose = none) :
    Covers (assemble start none ⟨none, none, none⟩).span start.tokens := by
  refine ⟨⟨start.openAngle, rfl, rfl⟩, ?_⟩
  apply Option.map_eq_some_iff.mp
  rw [startTag_getLast? hAttributes]
  refine Eq.trans ?_ (lastSpan_endOffset start none ⟨none, none, none⟩).symm
  simp [hOpen]

theorem assemble_covers {lower upper offset : Nat}
    (hAttributes : ∀ attr ∈ start.attributes, attr.LaidOut)
    (hSlash : start.slashClose = none) (hParts : ∀ part ∈ found, Covers part.span part.tokens)
    (hLaid : Laid source lower (found.flatMap ContentPart.tokens) upper) :
    Covers (assemble start (some (contentOf offset found)) finish).span
      (start.tokens ++ found.flatMap ContentPart.tokens ++ finish.tokens) := by
  refine ⟨⟨start.openAngle, rfl, rfl⟩, ?_⟩
  apply Option.map_eq_some_iff.mp
  have hContent : (found.flatMap ContentPart.tokens).getLast?.map (fun token => token.span.endOffset) =
      ((some (contentOf offset found)).filter fun content => !content.parts.isEmpty).map fun content =>
        content.span.endOffset := by
    by_cases hFound : found = []
    · subst hFound
      rfl
    · obtain ⟨token, hToken, hEnd⟩ := (contentOf_covers offset hParts hLaid hFound).last
      simp [contentOf_parts, hFound, hToken, hEnd]
  rw [List.getLast?_append, List.getLast?_append, Option.map_or, Option.map_or, endTag_getLast?,
    startTag_getLast? hAttributes, hContent]
  refine Eq.trans ?_ (lastSpan_endOffset start (some (contentOf offset found)) finish).symm
  simp [hSlash]

mutual

/-- An element that was read spans its tokens. -/
theorem ElementRead.covers {input next : Input} {element : Element} (h : input.Within source)
    (hRest : input.rest ≠ []) : ElementRead input element next → Covers element.span element.tokens
  | .bare hStart hOpen => by
      rw [assemble_tokens_bare]
      exact assemble_covers_bare (startTag_laidOut h hRest hStart) hOpen
  | .enclosing hStart hOpen body _ => by
      have hStarted := startTag_passes h hRest hStart
      have hSlash := startTag_slashClose hStart hOpen
      rw [assemble_tokens _ _ _ hSlash]
      exact assemble_covers (startTag_laidOut h hRest hStart) hSlash (body.covers hStarted.within)
        (body.passes hStarted.within).laid

theorem PartsRead.covers {input last : Input} {found : List ContentPart} (h : input.Within source) :
    PartsRead input found last → ∀ part ∈ found, Covers part.span part.tokens
  | .done _ => by simp
  | .child hEnd _ first rest => by
      have hRest := rest_ne_nil_of_atContentEnd hEnd
      intro part hPart
      rcases List.mem_cons.mp hPart with rfl | hLater
      · exact first.covers h hRest
      · exact rest.covers (first.passes h hRest).within part hLater
  | .leaf hEnd _ hLeaf rest => by
      obtain ⟨token, hTokens, hSpan, _, hFirst⟩ := leaf_passes h (rest_ne_nil_of_atContentEnd hEnd) hLeaf
      intro part hPart
      rcases List.mem_cons.mp hPart with rfl | hLater
      · rw [hTokens, hSpan]
        exact Covers.singleton token
      · exact rest.covers hFirst.within part hLater

end

/-- A part that is no element is one token. -/
theorem PartsRead.leaves {input last : Input} {part : ContentPart} (h : input.Within source)
    (hRead : PartsRead input found last) (hPart : part ∈ found) (hLeaf : part.element? = none) :
    ∃ token, part.tokens = [token] ∧ part.span = token.span := by
  induction found generalizing input with
  | nil => cases hPart
  | cons first others ih =>
      cases hRead with
      | child hEnd hAt hFirst hOthers =>
          rcases List.mem_cons.mp hPart with rfl | hLater
          · cases hLeaf
          · exact ih (hFirst.passes h (rest_ne_nil_of_atContentEnd hEnd)).within hOthers hLater
      | leaf hEnd hAt hFirst hOthers =>
          obtain ⟨token, hTokens, hSpan, _, hPasses⟩ :=
            leaf_passes h (rest_ne_nil_of_atContentEnd hEnd) hFirst
          rcases List.mem_cons.mp hPart with rfl | hLater
          · exact ⟨token, hTokens, hSpan⟩
          · exact ih hPasses.within hOthers hLater

/-- The element is read somewhere in the text. -/
def IsRead (source : List Char) (element : Element) : Prop :=
  ∃ input next, input.Within source ∧ input.rest ≠ [] ∧ ElementRead input element next

theorem PartsRead.isRead {input last : Input} {found : List ContentPart} {child : Element}
    (h : input.Within source) (hRead : PartsRead input found last) (hChild : ContentPart.element child ∈ found) :
    IsRead source child := by
  induction found generalizing input with
  | nil => cases hChild
  | cons part others ih =>
      cases hRead with
      | child hEnd hAt first rest =>
          have hRest := rest_ne_nil_of_atContentEnd hEnd
          rcases List.mem_cons.mp hChild with hHere | hLater
          · cases hHere
            exact ⟨input, _, h, hRest, first⟩
          · exact ih (first.passes h hRest).within rest hLater
      | leaf hEnd hAt hLeaf rest =>
          obtain ⟨token, _, _, hNone, hFirst⟩ := leaf_passes h (rest_ne_nil_of_atContentEnd hEnd) hLeaf
          rcases List.mem_cons.mp hChild with hHere | hLater
          · rw [← hHere] at hNone
            cases hNone
          · exact ih hFirst.within rest hLater

/-- The children of an element that was read were read themselves. -/
theorem IsRead.of_mem_children {child : Element} (h : IsRead source element) (hChild : child ∈ element.children) :
    IsRead source child := by
  obtain ⟨input, next, hInput, hRest, hRead⟩ := h
  rw [Element.mem_children_iff] at hChild
  cases hRead with
  | bare hStart hOpen => cases hChild
  | enclosing hStart hOpen body hFinish =>
      rw [assemble_parts] at hChild
      exact body.isRead (startTag_passes hInput hRest hStart).within hChild

theorem IsRead.at {child : Element} {path : List Nat} (h : IsRead source element)
    (hAt : element.at? path = some child) : IsRead source child :=
  Element.holds_at (fun _ hRead _ hChild => hRead.of_mem_children hChild) h hAt

/-- An opening tag with `>` takes at least two characters. -/
theorem startTag_rest_lt (h : input.Within source) (hRest : input.rest ≠ [])
    (hRead : startTag input = (start, next)) (hOpen : start.startClose.isSome = true) :
    next.rest.length + 1 < input.rest.length := by
  have hPasses := startTag_passes h hRest hRead
  obtain ⟨close, hClose⟩ := Option.isSome_iff_exists.mp hOpen
  have hTokens : start.tokens = [start.openAngle] ++ (start.name.toList
      ++ start.attributes.flatMap Attribute.tokens ++ [close] ++ start.slashClose.toList) := by
    simp [StartTag.tokens, hClose]
  have hLater : close ∈ start.name.toList ++ start.attributes.flatMap Attribute.tokens ++ [close]
      ++ start.slashClose.toList := by
    simp
  have hLaid := hPasses.laid
  rw [hTokens] at hLaid
  have hOpenAngle := hLaid.of_mem (List.mem_append_left _ (List.mem_singleton.mpr rfl))
  have hCloseAngle := hLaid.of_mem (List.mem_append_right _ hLater)
  have hOrder := hLaid.endOffset_lt_startOffset (List.mem_singleton.mpr rfl) hLater
  have hOpenLe := hOpenAngle.1.startOffset_le
  have hCloseLe := hCloseAngle.1.startOffset_le
  have hBefore := h.length
  have hAfter := hPasses.within.length
  omega

/-- A budget as large as the text that is left suffices: what the reader returns was read. -/
theorem reads_of_budget (budget : Nat) :
    (∀ input : Input, input.Within source → input.rest ≠ [] → input.rest.length ≤ budget →
      ElementRead input (Reader.element budget input).1 (Reader.element budget input).2) ∧
    (∀ input : Input, input.Within source → input.rest.length < budget →
      PartsRead input (Reader.parts budget input).1 (Reader.parts budget input).2) := by
  induction budget with
  | zero =>
      constructor
      · intro input _ hRest hBudget
        exact absurd (List.length_eq_zero_iff.mp (Nat.le_zero.mp hBudget)) hRest
      · intro input _ hBudget
        exact absurd hBudget (Nat.not_lt_zero _)
  | succ budget ih =>
      obtain ⟨ihElement, ihParts⟩ := ih
      constructor
      · intro input hInput hRest hBudget
        rcases hStart : startTag input with ⟨start, afterStart⟩
        simp only [Reader.element, hStart]
        cases hOpen : start.startClose with
        | none => exact .bare hStart hOpen
        | some close =>
            have hSome : start.startClose.isSome = true := by rw [hOpen]; rfl
            have hShorter := startTag_rest_lt hInput hRest hStart hSome
            have hBody := ihParts afterStart (startTag_passes hInput hRest hStart).within (by omega)
            exact .enclosing hStart hSome hBody rfl
      · intro input hInput hBudget
        simp only [Reader.parts]
        split
        · rename_i hEnd
          exact .done hEnd
        · rename_i hEnd
          have hEnd : atContentEnd input = false := Bool.not_eq_true _ ▸ hEnd
          have hRest := rest_ne_nil_of_atContentEnd hEnd
          split
          · rename_i hAt
            have hFirst := ihElement input hInput hRest (by omega)
            have hPasses := hFirst.passes hInput hRest
            have hShorter := hPasses.rest_lt hInput (hFirst.covers hInput hRest).ne_nil
            exact .child hEnd hAt hFirst (ihParts _ hPasses.within (by omega))
          · rename_i hAt
            obtain ⟨token, _, _, _, hPasses⟩ := leaf_passes hInput hRest (rfl : Reader.leaf input = (_, _))
            have hShorter := hPasses.rest_lt hInput (List.cons_ne_nil _ _)
            exact .leaf hEnd (Bool.not_eq_true _ ▸ hAt) rfl (ihParts _ hPasses.within (by omega))

mutual

/-- There is only one reading from a place: the one that the reader finds. -/
theorem ElementRead.element_eq {input next : Input} {element : Element} {budget : Nat} (h : input.Within source)
    (hRest : input.rest ≠ []) (hBudget : input.rest.length ≤ budget) :
    ElementRead input element next → Reader.element budget input = (element, next)
  | .bare hStart hOpen => by
      obtain ⟨budget, rfl⟩ := Nat.exists_eq_succ_of_ne_zero
        (Nat.ne_of_gt ((List.length_pos_iff.mpr hRest).trans_le hBudget))
      simp only [Reader.element, hStart, hOpen]
  | .enclosing hStart hOpen body hFinish => by
      obtain ⟨budget, rfl⟩ := Nat.exists_eq_succ_of_ne_zero
        (Nat.ne_of_gt ((List.length_pos_iff.mpr hRest).trans_le hBudget))
      have hShorter := startTag_rest_lt h hRest hStart hOpen
      have hBody : Reader.parts budget _ = (_, _) :=
        body.parts_eq (startTag_passes h hRest hStart).within (by omega)
      obtain ⟨close, hClose⟩ := Option.isSome_iff_exists.mp hOpen
      simp only [Reader.element, hStart, hClose, hBody, hFinish]

theorem PartsRead.parts_eq {input last : Input} {found : List ContentPart} {budget : Nat}
    (h : input.Within source) (hBudget : input.rest.length < budget) :
    PartsRead input found last → Reader.parts budget input = (found, last)
  | .done hEnd => by
      obtain ⟨budget, rfl⟩ := Nat.exists_eq_succ_of_ne_zero (Nat.ne_of_gt ((Nat.zero_le _).trans_lt hBudget))
      rw [atContentEnd] at hEnd
      simp only [Reader.parts, hEnd, if_true]
  | .child hEnd hAt first rest => by
      obtain ⟨budget, rfl⟩ := Nat.exists_eq_succ_of_ne_zero (Nat.ne_of_gt ((Nat.zero_le _).trans_lt hBudget))
      have hRest := rest_ne_nil_of_atContentEnd hEnd
      have hPasses := first.passes h hRest
      have hShorter := hPasses.rest_lt h (first.covers h hRest).ne_nil
      have hFirst : Reader.element budget _ = (_, _) := first.element_eq h hRest (by omega)
      have hOthers : Reader.parts budget _ = (_, _) := rest.parts_eq hPasses.within (by omega)
      rw [atContentEnd] at hEnd
      simp [Reader.parts, hEnd, hAt, hFirst, hOthers]
  | .leaf hEnd hAt hLeaf rest => by
      obtain ⟨budget, rfl⟩ := Nat.exists_eq_succ_of_ne_zero (Nat.ne_of_gt ((Nat.zero_le _).trans_lt hBudget))
      obtain ⟨token, _, _, _, hPasses⟩ := leaf_passes h (rest_ne_nil_of_atContentEnd hEnd) hLeaf
      have hShorter := hPasses.rest_lt h (List.cons_ne_nil _ _)
      have hOthers : Reader.parts budget _ = (_, _) := rest.parts_eq hPasses.within (by omega)
      rw [atContentEnd] at hEnd
      simp [Reader.parts, hEnd, hAt, hLeaf, hOthers]

end

theorem prolog?_passes (h : input.Within source) :
    Passes source input (((prolog? input).1.map Prolog.tokens).getD []) (prolog? input).2 := by
  unfold prolog?
  split
  · rename_i hStarts
    exact prolog_passes h hStarts
  · exact Passes.refl h

/-- Where a root element is expected, either an element is read or nothing is. -/
theorem root?_cases {budget : Nat} (h : input.Within source) (hBudget : input.rest.length ≤ budget) :
    root? budget input = (none, input) ∨
      ∃ root next, root? budget input = (some root, next) ∧ input.rest ≠ [] ∧ ElementRead input root next := by
  unfold root?
  split
  · rename_i hAt
    rw [Bool.and_eq_true] at hAt
    have hRest : input.rest ≠ [] := List.length_pos_iff.mp (Lexeme.length_le_of_startsWith hAt.1)
    exact Or.inr ⟨_, _, rfl, hRest, (reads_of_budget budget).1 input h hRest hBudget⟩
  · exact Or.inl rfl

/-- The root element of a document was read. -/
theorem document_isRead {root : Element} (hRoot : (document ⟨0, source⟩).1.element = some root) :
    IsRead source root := by
  have hStart : (⟨0, source⟩ : Input).Within source := ⟨rfl, Nat.zero_le _⟩
  have hMisc := misc_passes (source.length + 1) (prolog?_passes hStart).within
  have hLength := hMisc.within.length
  simp only [document] at hRoot
  have hBudget : (misc (source.length + 1) (prolog? ⟨0, source⟩).2).2.rest.length ≤ source.length + 1 := by omega
  rcases root?_cases hMisc.within hBudget with hNone | ⟨_, _, hSome, hRest, hRead⟩
  · rw [hNone] at hRoot
    cases hRoot
  · rw [hSome] at hRoot
    cases hRoot
    exact ⟨_, _, hMisc.within, hRest, hRead⟩

end Reader

/-- Every element of a tree that was read was read itself. -/
theorem Tree.at?_isRead {source : String} {path : List Nat} {element : Element}
    (hAt : (Tree.read source).at? path = some element) : Reader.IsRead source.toList element := by
  obtain ⟨root, hRoot, hPath⟩ := Option.bind_eq_some_iff.mp hAt
  exact (Reader.document_isRead hRoot).at hPath

/-- Where the tokens of an element stand: laid out in the text, and spanned by the element and by each of its
attributes and parts. -/
structure Element.LaidOut (source : List Char) (element : Element) : Prop where
  opening : ∃ token, element.openAngle = some token ∧ token.span.endOffset = token.span.startOffset
  tokens : Laid source 0 element.tokens source.length
  span : Covers element.span element.tokens
  attributes : ∀ attr ∈ element.attributes, attr.LaidOut
  parts : ∀ part ∈ element.parts, Covers part.span part.tokens
  leaves : ∀ part ∈ element.parts, part.element? = none → ∃ token, part.tokens = [token] ∧ part.span = token.span
  slashClose : element.startClose.isSome = true → element.slashClose = none
  noContent : element.startClose = none → element.parts = []

theorem Reader.IsRead.laidOut {source : List Char} {element : Element} (h : IsRead source element) :
    element.LaidOut source := by
  obtain ⟨input, next, hInput, hRest, hRead⟩ := h
  have hPasses := hRead.passes hInput hRest
  have hTokens := hPasses.laid.weaken (Nat.zero_le _) hPasses.within.offset
  have hSpan := hRead.covers hInput hRest
  cases hRead with
  | bare hStart hOpen =>
      refine ⟨⟨_, rfl, startTag_openAngle hRest hStart⟩, hTokens, hSpan, startTag_laidOut hInput hRest hStart,
        ?_, ?_, startTag_slashClose hStart, fun _ => rfl⟩
      · intro part hPart
        cases hPart
      · intro part hPart
        cases hPart
  | @enclosing _ _ _ _ start _ _ hStart hOpen body hFinish =>
      have hWithin := (startTag_passes hInput hRest hStart).within
      refine ⟨⟨_, rfl, startTag_openAngle hRest hStart⟩, hTokens, hSpan, startTag_laidOut hInput hRest hStart,
        ?_, ?_, startTag_slashClose hStart, ?_⟩
      · rw [assemble_parts]
        exact body.covers hWithin
      · rw [assemble_parts]
        exact fun part => body.leaves hWithin
      · intro hNone
        rw [show start.startClose = none from hNone] at hOpen
        cases hOpen

/-- The element starts with its `<`, which is one character. -/
theorem Element.LaidOut.startOffset {source : List Char} {element : Element} (h : element.LaidOut source) :
    ∃ opening, element.openAngle = some opening ∧ opening.span.endOffset = opening.span.startOffset ∧
      opening.span.startOffset = element.span.startOffset := by
  obtain ⟨opening, hOpening, hWidth⟩ := h.opening
  obtain ⟨first, hFirst, hStart⟩ := h.span.first
  have hIs : first = opening := by
    simpa [tokens_eq, openingTokens, hOpening, eq_comm] using hFirst
  subst hIs
  exact ⟨first, hOpening, hWidth, hStart⟩

end ContentAssist.Markup
