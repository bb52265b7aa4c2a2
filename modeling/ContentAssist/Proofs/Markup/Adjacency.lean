import ContentAssist.Proofs.Markup.Nesting
import Mathlib.Data.List.Chain

/-! Where an element and its pieces stand. The reader passes characters over only inside a tag, so between the tags
nothing is lost: the parts of the content fill the body of the element. The one place where characters may be
missing is behind a child that was left without its end, since they were passed over inside the child's tag. -/
namespace ContentAssist.Markup

/-- What is laid out node by node is laid out for each of the nodes. -/
theorem Laid.of_mem_flatMap {Node : Type} {tokens : Node → List Token} {nodes : List Node} {node : Node}
    {source : List Char} {start stop : Nat} (h : Laid source start (nodes.flatMap tokens) stop)
    (hNode : node ∈ nodes) : ∃ lower upper, Laid source lower (tokens node) upper := by
  obtain ⟨before, after, rfl⟩ := List.append_of_mem hNode
  rw [List.flatMap_append, List.flatMap_cons] at h
  obtain ⟨lower, _, hLater⟩ := h.split
  obtain ⟨upper, hHere, _⟩ := hLater.split
  exact ⟨lower, upper, hHere⟩

/-- A child element without its end: it has neither the `>` of a closing tag nor `/>`. -/
def ContentPart.isUnclosed : ContentPart → Bool
  | .element child => child.close.isNone && child.slashClose.isNone
  | _ => false

/-- The least span that has all the tokens inside. -/
structure IsHull (span : Span) (tokens : List Token) : Prop where
  includes : ∀ token ∈ tokens, span.startOffset ≤ token.span.startOffset ∧ token.span.endOffset ≤ span.endOffset
  first : ∃ token ∈ tokens, token.span.startOffset = span.startOffset
  last : ∃ token ∈ tokens, token.span.endOffset = span.endOffset

/-- The parts fill the text from `start` up to `stop`: each starts where the one before it stopped. A part stops
directly behind its last token, but an unclosed child may stop anywhere. -/
def Fills : Nat → List ContentPart → Nat → Prop
  | start, [], stop => start = stop
  | start, part :: rest, stop =>
    part.span.startOffset = start ∧
      ∃ next, (part.isUnclosed = false → next = part.span.endOffset + 1) ∧ Fills next rest stop

namespace Fills

variable {start stop : Nat} {parts : List ContentPart}

theorem head (h : Fills start parts stop) {part : ContentPart} (hPart : parts.head? = some part) :
    part.span.startOffset = start := by
  cases parts with
  | nil => cases hPart
  | cons first rest =>
      cases hPart
      exact h.1

/-- A part starts directly behind the one before it, unless that is an unclosed child. -/
theorem isChain (h : Fills start parts stop) :
    parts.IsChain fun before after =>
      before.isUnclosed = false → after.span.startOffset = before.span.endOffset + 1 := by
  induction parts generalizing start with
  | nil => exact List.IsChain.nil
  | cons first rest ih =>
      obtain ⟨_, next, hNext, hRest⟩ := h
      refine List.isChain_cons.mpr ⟨?_, ih hRest⟩
      intro second hSecond hClosed
      rw [hRest.head hSecond, hNext hClosed]

theorem getLast (h : Fills start parts stop) {last : ContentPart} (hLast : parts.getLast? = some last)
    (hClosed : last.isUnclosed = false) : stop = last.span.endOffset + 1 := by
  induction parts generalizing start with
  | nil => cases hLast
  | cons first rest ih =>
      obtain ⟨_, next, hNext, hRest⟩ := h
      cases rest with
      | nil =>
          rw [List.getLast?_singleton, Option.some.injEq] at hLast
          subst hLast
          rw [← hNext hClosed]
          exact hRest.symm
      | cons second others => exact ih hRest (by rwa [List.getLast?_cons_cons] at hLast)

end Fills

namespace Lexeme

/-- Plain text stops at the end of the text, at `<` or at a reference. -/
theorem drop_plainLength (text : List Char) :
    text.drop (plainLength text) = [] ∨ startsWith "<" (text.drop (plainLength text)) = true ∨
      (referenceLength? (text.drop (plainLength text))).isSome = true := by
  induction text with
  | nil => exact Or.inl rfl
  | cons c rest ih =>
      simp only [plainLength]
      split
      · rename_i hStop
        rcases Bool.or_eq_true_iff.mp hStop with hAngle | hReference
        · rw [of_decide_eq_true hAngle]
          exact Or.inr (Or.inl rfl)
        · exact Or.inr (Or.inr hReference)
      · simpa using ih

end Lexeme

namespace Reader

variable {source : List Char} {input next : Input} {start : StartTag} {finish : EndTag} {element : Element}
  {found : List ContentPart}

theorem startTag_startOffset (hRead : startTag input = (start, next)) :
    start.openAngle.span.startOffset = input.offset := by
  obtain ⟨_, _, _, _, _, hOpen, _⟩ := startTag_steps hRead
  rw [hOpen]
  rfl

/-- The reader goes on directly behind the end of an opening tag. -/
theorem startTag_bounds (hRead : startTag input = (start, next)) {token : Token}
    (hToken : start.startClose = some token ∨ start.slashClose = some token) :
    token.span.endOffset + 1 = next.offset := by
  obtain ⟨_, _, _, slashClose, startClose, _, _, _, hSlash, hSlot, hEnd⟩ := startTag_steps hRead
  rcases hEnd with ⟨_, hNone, rfl⟩ | ⟨hNone, hClose, hStart⟩
  · rcases hToken with hToken | hToken
    · rw [hNone] at hToken
      cases hToken
    · rw [← hSlot, hToken] at hSlash
      exact (Input.word?_bounds (by decide) hSlash).2
  · rcases hToken with hToken | hToken
    · rw [← hClose, hToken] at hStart
      exact (Input.word?_bounds (by decide) hStart).2
    · rw [hSlot, hNone] at hToken
      cases hToken

/-- A closing tag starts where content ends, and the reader goes on directly behind its `>`. -/
theorem endTag_bounds (hRead : endTag input = (finish, next)) :
    (∀ token, finish.slashOpen = some token → token.span.startOffset = input.offset) ∧
      ∀ token, finish.close = some token → token.span.endOffset + 1 = next.offset := by
  rcases endTag_steps hRead with ⟨_, rfl, _⟩ | ⟨slashOpen, afterOpen, afterName, hOpen, hIs, _, hClose⟩
  · exact ⟨fun _ hToken => (nomatch hToken), fun _ hToken => (nomatch hToken)⟩
  · constructor
    · intro token hToken
      rw [hIs, Option.some.injEq] at hToken
      rw [← hToken]
      exact (Input.word?_bounds (by decide) hOpen).1
    · intro token hToken
      rw [hToken] at hClose
      exact (Input.word?_bounds (by decide) hClose).2

theorem ElementRead.startOffset (hRead : ElementRead input element next) :
    element.span.startOffset = input.offset := by
  cases hRead with
  | bare hStart _ => exact startTag_startOffset hStart
  | enclosing hStart _ _ _ => exact startTag_startOffset hStart

/-- The reader goes on directly behind an element that has its end. -/
theorem ElementRead.endOffset (hRead : ElementRead input element next)
    (hClosed : (ContentPart.element element).isUnclosed = false) : next.offset = element.span.endOffset + 1 := by
  cases hRead with
  | @bare _ _ start hStart hOpen =>
      cases hSlash : start.slashClose with
      | none => simp [ContentPart.isUnclosed, assemble, hSlash] at hClosed
      | some slash =>
          have hEnd := startTag_bounds hStart (Or.inr hSlash)
          simpa [assemble, lastSpan, hOpen, hSlash] using hEnd.symm
  | @enclosing _ _ _ _ start _ finish hStart hOpen _ hFinish =>
      cases hClose : finish.close with
      | none => simp [ContentPart.isUnclosed, assemble, hClose, startTag_slashClose hStart hOpen] at hClosed
      | some close =>
          have hEnd := (endTag_bounds hFinish).2 close hClose
          simpa [assemble, lastSpan, hClose] using hEnd.symm

/-- The parts that were read fill the text between the two places. -/
theorem PartsRead.fills {input last : Input} (hRead : PartsRead input found last) :
    Fills input.offset found last.offset := by
  induction found generalizing input with
  | nil =>
      cases hRead
      rfl
  | cons part others ih =>
      cases hRead with
      | child hEnd hAt first rest => exact ⟨first.startOffset, _, first.endOffset, ih rest⟩
      | leaf hEnd hAt hLeaf rest =>
          obtain ⟨kind, count, hPos, hCount, _, hSpan, _, rfl, _⟩ :=
            leaf_steps (rest_ne_nil_of_atContentEnd hEnd) hLeaf
          obtain ⟨hFrom, hTo⟩ := Input.token_bounds kind hPos hCount
          rw [← hSpan] at hFrom hTo
          exact ⟨hFrom, _, fun _ => hTo.symm, ih rest⟩

/-- Text is read only where plain text starts: neither `<` nor a reference is there. -/
theorem leaf_text {part : ContentPart} (hEnd : atContentEnd input = false) (hAt : atElement input = false)
    (hRead : leaf input = (part, next)) (hText : part.isText = true) :
    Lexeme.startsWith "<" input.rest = false ∧ Lexeme.referenceLength? input.rest = none := by
  obtain ⟨_, _, _, _, _, _, _, _, hPlain⟩ := leaf_steps (rest_ne_nil_of_atContentEnd hEnd) hRead
  obtain ⟨_, hReference, hComment, hSection, hInstruction⟩ := hPlain hText
  simp only [atElement, hComment, hSection, hInstruction, Bool.not_false, Bool.and_true] at hAt
  exact ⟨hAt, hReference⟩

/-- A run of text is read to its end: what follows it does not go on with text. -/
theorem leaf_text_stop {part : ContentPart} (hRest : input.rest ≠ []) (hRead : leaf input = (part, next))
    (hText : part.isText = true) :
    next.rest = [] ∨ Lexeme.startsWith "<" next.rest = true ∨
      (Lexeme.referenceLength? next.rest).isSome = true := by
  obtain ⟨kind, count, _, _, _, _, _, rfl, hPlain⟩ := leaf_steps hRest hRead
  obtain ⟨rfl, _⟩ := hPlain hText
  have hStop := Lexeme.drop_plainLength (input.rest.drop 1)
  rw [List.drop_drop, Nat.add_comm] at hStop
  exact hStop

/-- No run of text comes directly behind another. -/
theorem PartsRead.texts_apart {input last : Input} (hRead : PartsRead input found last) :
    found.IsChain fun before after => ¬ (before.isText = true ∧ after.isText = true) := by
  induction found generalizing input with
  | nil => exact List.IsChain.nil
  | cons part others ih =>
      cases hRead with
      | child hEnd hAt first rest =>
          refine List.isChain_cons.mpr ⟨?_, ih rest⟩
          rintro second _ ⟨hText, _⟩
          cases hText
      | leaf hEnd hAt hLeaf rest =>
          refine List.isChain_cons.mpr ⟨?_, ih rest⟩
          rintro second hSecond ⟨hText, hAfter⟩
          have hStop := leaf_text_stop (rest_ne_nil_of_atContentEnd hEnd) hLeaf hText
          cases rest with
          | done _ => cases hSecond
          | child _ _ _ _ =>
              cases hSecond
              cases hAfter
          | leaf hEndAfter hAtAfter hLeafAfter _ =>
              cases hSecond
              obtain ⟨hAngle, hReference⟩ := leaf_text hEndAfter hAtAfter hLeafAfter hAfter
              simp [rest_ne_nil_of_atContentEnd hEndAfter, hAngle, hReference] at hStop

end Reader

/-- Where an element and its pieces stand. -/
structure Element.Placed (element : Element) : Prop where
  /-- From the opening `<` to the last token of the element or inside it. -/
  span : ∃ opening last, element.openAngle = some opening ∧ element.tokens.getLast? = some last ∧
    element.span = ⟨opening.span.startOffset, last.span.endOffset⟩
  attributes : ∀ attr ∈ element.attributes, IsHull attr.span attr.tokens
  first : ∀ part, element.parts.head? = some part →
    ∃ close, element.startClose = some close ∧ part.span.startOffset = close.span.endOffset + 1
  ordered : ∀ part ∈ element.parts, part.span.startOffset ≤ part.span.endOffset
  increasing : element.parts.Pairwise fun before after => before.span.endOffset < after.span.startOffset
  adjacent : element.parts.IsChain fun before after =>
    before.isUnclosed = false → after.span.startOffset = before.span.endOffset + 1
  textsApart : element.parts.IsChain fun before after => ¬ (before.isText = true ∧ after.isText = true)
  slashOpen : ∀ slash last, element.slashOpen = some slash → element.parts.getLast? = some last →
    last.isUnclosed = false → slash.span.startOffset = last.span.endOffset + 1
  /-- Without parts the closing tag follows the opening tag. -/
  emptyBody : ∀ slash, element.slashOpen = some slash → element.parts = [] →
    ∃ close, element.startClose = some close ∧ slash.span.startOffset = close.span.endOffset + 1

namespace Element.LaidOut

variable {source : List Char} {element : Element}

theorem span_eq (h : element.LaidOut source) :
    ∃ opening last, element.openAngle = some opening ∧ element.tokens.getLast? = some last ∧
      element.span = ⟨opening.span.startOffset, last.span.endOffset⟩ := by
  obtain ⟨opening, hOpening, _, hStart⟩ := h.startOffset
  obtain ⟨last, hLast, hEnd⟩ := h.span.last
  refine ⟨opening, last, hOpening, hLast, ?_⟩
  rw [hStart, hEnd]

/-- An attribute is as wide as its tokens. -/
theorem attribute_isHull (h : element.LaidOut source) {attr : Attribute} (hAttr : attr ∈ element.attributes) :
    IsHull attr.span attr.tokens := by
  have hCovers := (h.attributes attr hAttr).span
  obtain ⟨_, hOpening, _⟩ := h.opening_laid.split
  rw [openingTokens] at hOpening
  obtain ⟨_, hBefore, _⟩ := hOpening.split
  obtain ⟨_, _, hAttributes⟩ := hBefore.split
  obtain ⟨_, _, hLaid⟩ := hAttributes.of_mem_flatMap hAttr
  exact ⟨fun token hToken => hCovers.of_mem hLaid hToken, hCovers.exists_start, hCovers.exists_end⟩

theorem part_ordered (h : element.LaidOut source) {part : ContentPart} (hPart : part ∈ element.parts) :
    part.span.startOffset ≤ part.span.endOffset := by
  have hCovers := h.parts part hPart
  obtain ⟨_, _, hLater⟩ := h.opening_laid.split
  obtain ⟨_, hParts, _⟩ := hLater.split
  obtain ⟨_, _, hLaid⟩ := hParts.of_mem_flatMap hPart
  obtain ⟨first, hFirst, hStart⟩ := hCovers.exists_start
  have hInside := hCovers.of_mem hLaid hFirst
  have hWidth := (hLaid.of_mem hFirst).1.startOffset_le
  omega

end Element.LaidOut

/-- Every element that was read stands where its tokens stand, and its parts fill its body. -/
theorem Reader.IsRead.placed {source : List Char} {element : Element} (h : IsRead source element) :
    element.Placed := by
  have hLaid := h.laidOut
  obtain ⟨input, next, hInput, hRest, hRead⟩ := h
  cases hRead with
  | bare hStart hOpen =>
      exact ⟨hLaid.span_eq, fun attr hAttr => hLaid.attribute_isHull hAttr, fun _ hPart => (nomatch hPart),
        fun part hPart => hLaid.part_ordered hPart, hLaid.parts_pairwise, List.IsChain.nil, List.IsChain.nil,
        fun _ _ hSlash => (nomatch hSlash), fun _ hSlash => (nomatch hSlash)⟩
  | @enclosing _ afterStart afterContent _ start found finish hStart hOpen body hFinish =>
      obtain ⟨close, hClose⟩ := Option.isSome_iff_exists.mp hOpen
      have hBody := startTag_bounds hStart (Or.inl hClose)
      have hSlashOpen := (endTag_bounds hFinish).1
      have hFills := body.fills
      refine ⟨hLaid.span_eq, fun attr hAttr => hLaid.attribute_isHull hAttr, ?_,
        fun part hPart => hLaid.part_ordered hPart, hLaid.parts_pairwise, ?_, ?_, ?_, ?_⟩
      · intro part hPart
        rw [assemble_parts] at hPart
        exact ⟨close, hClose, (hFills.head hPart).trans hBody.symm⟩
      · rw [assemble_parts]
        exact hFills.isChain
      · rw [assemble_parts]
        exact body.texts_apart
      · intro slash last hSlash hLast hClosed
        rw [assemble_parts] at hLast
        exact (hSlashOpen slash hSlash).trans (hFills.getLast hLast hClosed)
      · intro slash hSlash hEmpty
        rw [assemble_parts] at hEmpty
        subst hEmpty
        exact ⟨close, hClose, (hSlashOpen slash hSlash).trans (hFills.symm.trans hBody.symm)⟩

/-- All elements of the tree stand where their tokens stand, and their parts fill their bodies. -/
def Tree.Placed (tree : Tree) : Prop :=
  ∀ path element, tree.at? path = some element → element.Placed

/-- Every text is read into a tree whose elements span exactly their tokens and lose nothing of their bodies. -/
theorem Tree.read_placed (source : String) : (Tree.read source).Placed := by
  intro path element hAt
  exact (Tree.at?_isRead hAt).placed

end ContentAssist.Markup
