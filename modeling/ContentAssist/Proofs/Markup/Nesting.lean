import ContentAssist.Proofs.Markup.Reading

/-! How the places of elements lie to each other in a text that was read: the parts of an element follow one
another between its tags, so the elements around a character form one chain, from the root down to the innermost.
-/
namespace ContentAssist.Markup

variable {source : List Char} {element child : Element} {position : Nat}

/-- Nodes whose tokens are laid out together follow one another. -/
theorem Laid.pairwise_span {Node : Type} {tokens : Node → List Token} {span : Node → Span} {nodes : List Node}
    {start stop : Nat} (hLaid : Laid source start (nodes.flatMap tokens) stop)
    (hCovers : ∀ node ∈ nodes, Covers (span node) (tokens node)) :
    nodes.Pairwise fun before after => (span before).endOffset < (span after).startOffset := by
  induction nodes generalizing start with
  | nil => exact List.Pairwise.nil
  | cons first rest ih =>
      rw [List.flatMap_cons] at hLaid
      have hRest : ∀ node ∈ rest, Covers (span node) (tokens node) :=
        fun node hNode => hCovers node (List.mem_cons_of_mem _ hNode)
      obtain ⟨_, _, hAfter⟩ := hLaid.split
      refine List.Pairwise.cons ?_ (ih hAfter hRest)
      intro node hNode
      obtain ⟨last, hLast, hEnd⟩ := (hCovers first (List.mem_cons_self ..)).exists_end
      obtain ⟨next, hNext, hStart⟩ := (hRest node hNode).exists_start
      have hOrder := hLaid.endOffset_lt_startOffset hLast (List.mem_flatMap.mpr ⟨node, hNode, hNext⟩)
      omega

/-- No character belongs to two of several nodes that follow one another. -/
theorem index_unique {Node : Type} {span : Node → Span} {nodes : List Node}
    (hPairwise : nodes.Pairwise fun before after => (span before).endOffset < (span after).startOffset)
    {first second : Nat} {before after : Node} (hFirst : nodes[first]? = some before)
    (hSecond : nodes[second]? = some after) (hBefore : (span before).contains position = true)
    (hAfter : (span after).contains position = true) : first = second := by
  rw [Span.contains_iff] at hBefore hAfter
  obtain ⟨hFirstLt, rfl⟩ := List.getElem?_eq_some_iff.mp hFirst
  obtain ⟨hSecondLt, rfl⟩ := List.getElem?_eq_some_iff.mp hSecond
  have hOrder := List.pairwise_iff_getElem.mp hPairwise
  rcases Nat.lt_trichotomy first second with hLt | hEq | hGt
  · have := hOrder first second hFirstLt hSecondLt hLt
    omega
  · exact hEq
  · have := hOrder second first hSecondLt hFirstLt hGt
    omega

namespace Element.LaidOut

theorem opening_laid (h : element.LaidOut source) :
    Laid source 0 (element.openingTokens ++ (element.parts.flatMap ContentPart.tokens ++ element.closingTokens))
      source.length := by
  rw [← List.append_assoc, ← tokens_eq]
  exact h.tokens

/-- A tag does not end twice. -/
theorem startClose_eq_none (h : element.LaidOut source) {close : Token} (hClose : element.slashClose = some close) :
    element.startClose = none := by
  by_contra hOpen
  rw [h.slashClose (Option.isSome_iff_ne_none.mpr hOpen)] at hClose
  cases hClose

/-- A token lies inside the element. -/
theorem token_span (h : element.LaidOut source) {token : Token} (hToken : token ∈ element.tokens) :
    element.span.startOffset ≤ token.span.startOffset ∧ token.span.startOffset ≤ token.span.endOffset ∧
      token.span.endOffset ≤ element.span.endOffset := by
  have hSpan := h.span.of_mem h.tokens hToken
  have hOccurs := (h.tokens.of_mem hToken).1.startOffset_le
  omega

/-- A part lies inside the element. -/
theorem part_span (h : element.LaidOut source) {part : ContentPart} (hPart : part ∈ element.parts) :
    element.span.startOffset ≤ part.span.startOffset ∧ part.span.endOffset ≤ element.span.endOffset := by
  obtain ⟨first, hFirst, hStart⟩ := (h.parts part hPart).exists_start
  obtain ⟨last, hLast, hEnd⟩ := (h.parts part hPart).exists_end
  have hFrom := h.token_span (mem_tokens_of_part hPart hFirst)
  have hTo := h.token_span (mem_tokens_of_part hPart hLast)
  omega

/-- The tokens of the opening tag come before all parts. -/
theorem opening_lt_part (h : element.LaidOut source) {part : ContentPart} {token : Token}
    (hToken : token ∈ element.openingTokens) (hPart : part ∈ element.parts) :
    token.span.endOffset < part.span.startOffset := by
  obtain ⟨first, hFirst, hStart⟩ := (h.parts part hPart).exists_start
  have hOrder := h.opening_laid.endOffset_lt_startOffset hToken
    (List.mem_append_left _ (List.mem_flatMap.mpr ⟨part, hPart, hFirst⟩))
  omega

/-- The parts follow one another. -/
theorem parts_pairwise (h : element.LaidOut source) :
    element.parts.Pairwise fun before after => before.span.endOffset < after.span.startOffset := by
  obtain ⟨_, _, hLater⟩ := h.opening_laid.split
  obtain ⟨_, hParts, _⟩ := hLater.split
  exact hParts.pairwise_span h.parts

/-- A child lies inside the element. -/
theorem child_span (h : element.LaidOut source) (hChild : child ∈ element.children) :
    element.span.startOffset ≤ child.span.startOffset ∧ child.span.endOffset ≤ element.span.endOffset :=
  h.part_span ((mem_children_iff ..).mp hChild)

theorem contains_of_child (h : element.LaidOut source) (hChild : child ∈ element.children)
    (hContains : child.span.contains position = true) : element.span.contains position = true := by
  have hSpan := h.child_span hChild
  rw [Span.contains_iff] at hContains ⊢
  omega

/-- The children follow one another. -/
theorem children_pairwise (h : element.LaidOut source) :
    element.children.Pairwise fun before after => before.span.endOffset < after.span.startOffset := by
  refine List.Pairwise.filterMap ContentPart.element? ?_ h.parts_pairwise
  intro part other hOrder inner hInner second hSecond
  cases part <;> cases hInner
  cases other <;> cases hSecond
  exact hOrder

/-- No character belongs to two children. -/
theorem child_unique (h : element.LaidOut source) {first second : Nat} {before after : Element}
    (hFirst : element.children[first]? = some before) (hSecond : element.children[second]? = some after)
    (hBefore : before.span.contains position = true) (hAfter : after.span.contains position = true) :
    first = second :=
  index_unique h.children_pairwise hFirst hSecond hBefore hAfter

end Element.LaidOut

theorem Reader.IsRead.contains_of_at {path : List Nat} {found : Element} (hRead : IsRead source element)
    (hAt : element.at? path = some found) (hContains : found.span.contains position = true) :
    element.span.contains position = true := by
  induction path generalizing element with
  | nil =>
      cases hAt
      exact hContains
  | cons index path ih =>
      obtain ⟨child, hChild, hRest⟩ := Option.bind_eq_some_iff.mp hAt
      have hMem := List.mem_of_getElem? hChild
      exact hRead.laidOut.contains_of_child hMem (ih (hRead.of_mem_children hMem) hRest)

/-- The elements of an outline start inside the element that the outline is of. -/
theorem Reader.IsRead.span_of_mem_outline {path : List Nat} {entry : List Nat × Element} (hRead : IsRead source element)
    (hEntry : entry ∈ element.outline path) :
    element.span.startOffset ≤ entry.2.span.startOffset ∧ entry.2.span.startOffset ≤ element.span.endOffset := by
  obtain ⟨inner, _, hAt⟩ := (Element.mem_outline_iff path element entry.2 entry.1).mp hEntry
  have hLaid := (hRead.at hAt).laidOut
  obtain ⟨opening, hOpening, _, hStart⟩ := hLaid.startOffset
  have hMem : opening ∈ entry.2.openingTokens := by simp [Element.openingTokens, hOpening]
  have hWithin := hLaid.token_span (Element.mem_tokens_of_opening hMem)
  rw [← Span.contains_iff]
  exact hRead.contains_of_at hAt ((Span.contains_iff ..).mpr ⟨le_rfl, by omega⟩)

/-- The element of the first entry starts before that of the second. -/
def startsBefore (before after : List Nat × Element) : Prop :=
  before.2.span.startOffset < after.2.span.startOffset

theorem Element.outlines_increasing {siblings : List Element}
    (hReads : ∀ child ∈ siblings, Reader.IsRead source child)
    (hSiblings : siblings.Pairwise fun before after => before.span.endOffset < after.span.startOffset)
    (hEach : ∀ child ∈ siblings, ∀ path, (child.outline path).Pairwise startsBefore) (path : List Nat) (index : Nat) :
    (outlines path index siblings).Pairwise startsBefore := by
  induction siblings generalizing index with
  | nil => exact List.Pairwise.nil
  | cons first rest ih =>
      rw [List.forall_mem_cons] at hReads hEach
      rw [List.pairwise_cons] at hSiblings
      rw [outlines, List.pairwise_append]
      refine ⟨hEach.1 _, ih hReads.2 hSiblings.2 hEach.2 _, ?_⟩
      intro entry hEntry later hLater
      obtain ⟨number, child, hChild, hLater⟩ := (mem_outlines_iff ..).mp hLater
      have hMem := List.mem_of_getElem? hChild
      have hBefore := (hReads.1.span_of_mem_outline hEntry).2
      have hBetween := hSiblings.1 child hMem
      have hAfter := ((hReads.2 child hMem).span_of_mem_outline hLater).1
      exact (hBefore.trans_lt hBetween).trans_le hAfter

/-- In the outline each element starts behind those before it. -/
theorem Reader.IsRead.outline_increasing (hRead : IsRead source element) (path : List Nat) :
    (element.outline path).Pairwise startsBefore := by
  induction element using Element.inductionOnChildren generalizing path with
  | step element ih =>
      have hReads : ∀ child ∈ element.children, IsRead source child := fun _ => hRead.of_mem_children
      rw [Element.outline_eq, List.pairwise_cons]
      constructor
      · intro entry hEntry
        obtain ⟨number, child, hChild, hEntry⟩ := (Element.mem_outlines_iff ..).mp hEntry
        have hMem := List.mem_of_getElem? hChild
        obtain ⟨opening, hOpening, hWidth, hStart⟩ := hRead.laidOut.startOffset
        have hFirst : opening ∈ element.openingTokens := by simp [Element.openingTokens, hOpening]
        have hOrder : opening.span.endOffset < child.span.startOffset :=
          hRead.laidOut.opening_lt_part hFirst ((Element.mem_children_iff ..).mp hMem)
        rw [hWidth, hStart] at hOrder
        exact hOrder.trans_le ((hReads child hMem).span_of_mem_outline hEntry).1
      · exact Element.outlines_increasing hReads hRead.laidOut.children_pairwise
          (fun child hChild => ih child hChild (hReads child hChild)) path 0

/-- Of the elements around a character, the one at the end of the path is inside all others. -/
structure Element.Innermost (element : Element) (position : Nat) (path : List Nat) (found : Element) :
    Prop where
  reached : element.at? path = some found
  contains : found.span.contains position = true
  deepest : ∀ other around, element.at? other = some around → around.span.contains position = true →
    other <+: path

namespace Element.Innermost

variable {path : List Nat} {found : Element} {index : Nat}

/-- The innermost element of a child around the character is that of the element. -/
theorem of_child (hRead : Reader.IsRead source element) (hChild : element.children[index]? = some child)
    (h : child.Innermost position path found) : element.Innermost position (index :: path) found where
  reached := by
    simp only [at?, hChild, Option.bind_some, h.reached]
  contains := h.contains
  deepest := by
    intro other around hAround hContains
    cases other with
    | nil => exact List.nil_prefix
    | cons number rest =>
        obtain ⟨sibling, hSibling, hRest⟩ := Option.bind_eq_some_iff.mp hAround
        have hReads : ∀ {inner : Element} {place : Nat}, element.children[place]? = some inner →
            Reader.IsRead source inner :=
          fun hInner => hRead.of_mem_children (List.mem_of_getElem? hInner)
        have hHere := (hReads hChild).contains_of_at h.reached h.contains
        have hThere := (hReads hSibling).contains_of_at hRest hContains
        have hSame := hRead.laidOut.child_unique hSibling hChild hThere hHere
        subst hSame
        rw [Option.some.inj (hSibling.symm.trans hChild)] at hRest
        exact List.cons_prefix_cons.mpr ⟨rfl, h.deepest rest around hRest hContains⟩

theorem to_child (hChild : element.children[index]? = some child)
    (h : element.Innermost position (index :: path) found) : child.Innermost position path found where
  reached := by
    have hReached := h.reached
    simpa only [at?, hChild, Option.bind_some] using hReached
  contains := h.contains
  deepest := by
    intro other around hAround hContains
    have hOuter : element.at? (index :: other) = some around := by
      simp only [at?, hChild, Option.bind_some, hAround]
    exact (List.cons_prefix_cons.mp (h.deepest (index :: other) around hOuter hContains)).2

theorem of_at {around : Element} {outer : List Nat} (hRead : Reader.IsRead source element)
    (hAt : element.at? outer = some around) (h : around.Innermost position path found) :
    element.Innermost position (outer ++ path) found := by
  induction outer generalizing element with
  | nil =>
      cases hAt
      exact h
  | cons index outer ih =>
      obtain ⟨child, hChild, hDown⟩ := Option.bind_eq_some_iff.mp hAt
      have hInner := ih (hRead.of_mem_children (List.mem_of_getElem? hChild)) hDown
      exact hInner.of_child hRead hChild

/-- No child of the innermost element is around the character. -/
theorem not_child (h : element.Innermost position [] found) (hChild : child ∈ element.children) :
    child.span.contains position = false := by
  obtain ⟨index, hIndex⟩ := List.getElem?_of_mem hChild
  rw [Bool.eq_false_iff]
  intro hContains
  have hAt : element.at? [index] = some child := by
    simp only [at?, hIndex, Option.bind_some]
  have hPrefix := List.prefix_nil.mp (h.deepest [index] child hAt hContains)
  cases hPrefix

end Element.Innermost

theorem Element.exists_innermost (hRead : Reader.IsRead source element)
    (hContains : element.span.contains position = true) :
    ∃ path found, element.Innermost position path found := by
  induction element using Element.inductionOnChildren with
  | step element ih =>
      by_cases hInside : ∃ child ∈ element.children, child.span.contains position = true
      · obtain ⟨child, hChild, hAround⟩ := hInside
        obtain ⟨path, found, hInner⟩ := ih child hChild (hRead.of_mem_children hChild) hAround
        obtain ⟨index, hIndex⟩ := List.getElem?_of_mem hChild
        exact ⟨index :: path, found, hInner.of_child hRead hIndex⟩
      · refine ⟨[], element, rfl, hContains, ?_⟩
        intro other around hAround hOther
        cases other with
        | nil => exact List.prefix_refl _
        | cons index rest =>
            obtain ⟨child, hChild, hRest⟩ := Option.bind_eq_some_iff.mp hAround
            have hMem := List.mem_of_getElem? hChild
            exact absurd ⟨child, hMem, (hRead.of_mem_children hMem).contains_of_at hRest hOther⟩ hInside

end ContentAssist.Markup
