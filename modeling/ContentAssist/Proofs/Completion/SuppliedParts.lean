import ContentAssist.Proofs.Completion.Innermost

/-! Comments, sections and instructions that were supplied to mend a broken text. A part of content is found by its
span alone, whether or not it was supplied: one that has the character before the cursor keeps its element from
answering. All other rules look at written tokens only. So the walk is set out as the list of its questions, and a
completion stays as it is without the supplied parts exactly if the first answer does not come from an element that a
supplied part would silence. The tree and the document may be any, also ones that do not belong together. -/
namespace ContentAssist

namespace Markup

/-- A comment, section or instruction that was supplied. -/
def ContentPart.isSupplied : ContentPart → Bool
  | .cdata token | .processingInstruction token | .comment token => token.recovered
  | _ => false

mutual

/-- The element without supplied parts, inside its children too. -/
def Element.withoutSupplied : Element → Element
  | ⟨openAngle, name, attributes, startClose, content, slashOpen, endName, close, slashClose, span⟩ =>
    ⟨openAngle, name, attributes, startClose,
      match content with
        | some content => some (Content.withoutSupplied content)
        | none => none,
      slashOpen, endName, close, slashClose, span⟩

def Content.withoutSupplied : Content → Content
  | ⟨parts, span⟩ => ⟨writtenParts parts, span⟩

def writtenParts : List ContentPart → List ContentPart
  | [] => []
  | part :: rest =>
    if part.isSupplied then writtenParts rest else ContentPart.withoutSupplied part :: writtenParts rest

def ContentPart.withoutSupplied : ContentPart → ContentPart
  | .element child => .element (Element.withoutSupplied child)
  | part => part

end

def Tree.withoutSupplied (tree : Tree) : Tree :=
  { tree with element := tree.element.map Element.withoutSupplied }

theorem ContentPart.span_withoutSupplied (part : ContentPart) : part.withoutSupplied.span = part.span := by
  cases part with
  | element child =>
      obtain ⟨_, _, _, _, _, _, _, _, _, _⟩ := child
      rfl
  | _ => rfl

theorem ContentPart.isText_withoutSupplied (part : ContentPart) : part.withoutSupplied.isText = part.isText := by
  cases part <;> rfl

theorem ContentPart.element?_withoutSupplied (part : ContentPart) :
    part.withoutSupplied.element? = part.element?.map Element.withoutSupplied := by
  cases part <;> rfl

/-- Elements and runs of text are never supplied. -/
theorem ContentPart.not_element_of_isSupplied {part : ContentPart} (hSupplied : part.isSupplied = true) :
    part.element? = none ∧ part.isText = false := by
  cases part with
  | element child => cases hSupplied
  | text run => cases hSupplied
  | _ => exact ⟨rfl, rfl⟩

namespace Element

theorem withoutSupplied_eq (element : Element) :
    element.withoutSupplied = { element with content := element.content.map Content.withoutSupplied } := by
  obtain ⟨_, _, _, _, content, _, _, _, _, _⟩ := element
  cases content <;> rfl

theorem parts_withoutSupplied (element : Element) : element.withoutSupplied.parts = writtenParts element.parts := by
  rw [parts, parts, withoutSupplied_eq]
  cases element.content with
  | none => rfl
  | some content =>
      obtain ⟨_, _⟩ := content
      rfl

theorem children_withoutSupplied (element : Element) :
    element.withoutSupplied.children = element.children.map Element.withoutSupplied := by
  rw [children, parts_withoutSupplied, children]
  induction element.parts with
  | nil => rfl
  | cons part rest ih =>
      rw [writtenParts, List.filterMap_cons]
      cases hSupplied : part.isSupplied with
      | true =>
          rw [(part.not_element_of_isSupplied hSupplied).1]
          exact ih
      | false =>
          rw [if_neg Bool.false_ne_true, List.filterMap_cons, part.element?_withoutSupplied, ih]
          cases part.element? <;> rfl

end Element

end Markup

namespace Completion

/-- Which rules of an element are asked: those of its own tag, or those of its body once its children are silent. -/
inductive Stage where
  | tag
  | body
deriving DecidableEq

/-- One question of the walk. -/
structure Visit where
  stage : Stage
  markup : Markup.Element
  element : Document.Element

namespace Visit

def answer (offset : Nat) (visit : Visit) : Option Context :=
  match visit.stage with
  | .tag => ownTag visit.markup visit.element offset
  | .body => ownBody visit.markup visit.element offset

def withoutSupplied (visit : Visit) : Visit :=
  { visit with markup := visit.markup.withoutSupplied }

end Visit

mutual

/-- The questions for an element and its children, in the order in which they are asked. -/
def visits (document : Document) : Markup.Element → Document.Element → List Visit
  | ⟨openAngle, name, attributes, startClose, content, slashOpen, endName, close, slashClose, span⟩, element =>
    let markup : Markup.Element :=
      ⟨openAngle, name, attributes, startClose, content, slashOpen, endName, close, slashClose, span⟩
    ⟨.tag, markup, element⟩ :: ((match content with
      | some content => visitsOfContent document content element
      | none => []) ++ [⟨.body, markup, element⟩])

def visitsOfContent (document : Document) : Markup.Content → Document.Element → List Visit
  | ⟨parts, _⟩, element => visitsOfParts document element 0 parts

def visitsOfParts (document : Document) (element : Document.Element) (index : Nat) :
    List Markup.ContentPart → List Visit
  | [] => []
  | part :: rest =>
    visitsOfPart document (document.subElement? element index) part
      ++ visitsOfParts document element (if part.element?.isSome then index + 1 else index) rest

def visitsOfPart (document : Document) (partner : Option Document.Element) : Markup.ContentPart → List Visit
  | .element child => match partner with
    | some element => visits document child element
    | none => []
  | _ => []

end

/-- The questions of the whole walk. -/
def walk (tree : Markup.Tree) (document : Document) : List Visit :=
  match tree.element, document.rootElement? with
  | some markup, some root => visits document markup root
  | _, _ => []

section Walk

variable (document : Document) (element : Document.Element)

/-- The questions for sibling elements, the first of which has the number `index`. -/
def visitsOfChildren (index : Nat) : List Markup.Element → List Visit
  | [] => []
  | child :: rest =>
    (document.subElement? element index).elim [] (visits document child) ++ visitsOfChildren (index + 1) rest

theorem visitsOfParts_eq (index : Nat) (parts : List Markup.ContentPart) :
    visitsOfParts document element index parts =
      visitsOfChildren document element index (parts.filterMap Markup.ContentPart.element?) := by
  induction parts generalizing index with
  | nil => rw [visitsOfParts, List.filterMap_nil, visitsOfChildren]
  | cons part rest ih =>
      rw [visitsOfParts, ih]
      cases part with
      | element child =>
          rw [List.filterMap_cons, Markup.ContentPart.element?, visitsOfChildren]
          cases document.subElement? element index <;> simp [visitsOfPart]
      | _ => simp [visitsOfPart, Markup.ContentPart.element?, List.filterMap_cons]

theorem visits_eq (markup : Markup.Element) :
    visits document markup element = ⟨.tag, markup, element⟩ ::
      (visitsOfChildren document element 0 markup.children ++ [⟨.body, markup, element⟩]) := by
  obtain ⟨_, _, _, _, content, _, _, _, _, _⟩ := markup
  cases content with
  | none => rw [visits]; rfl
  | some content =>
      obtain ⟨parts, _⟩ := content
      simp only [visits, visitsOfContent, visitsOfParts_eq]
      rfl

variable {document} {offset : Nat}

theorem resolveChildren_eq_findSome? (index : Nat) {siblings : List Markup.Element}
    (hEach : ∀ child ∈ siblings, ∀ partner, resolveElement document offset child partner =
      (visits document child partner).findSome? (Visit.answer offset)) :
    resolveChildren document offset element index siblings =
      (visitsOfChildren document element index siblings).findSome? (Visit.answer offset) := by
  induction siblings generalizing index with
  | nil => rfl
  | cons child rest ih =>
      rw [List.forall_mem_cons] at hEach
      rw [resolveChildren, visitsOfChildren, List.findSome?_append, ih (index + 1) hEach.2]
      cases document.subElement? element index with
      | none => rfl
      | some partner => rw [Option.bind_some, Option.elim_some, hEach.1 partner]

theorem resolveElement_eq_findSome? (markup : Markup.Element) (element : Document.Element) :
    resolveElement document offset markup element =
      (visits document markup element).findSome? (Visit.answer offset) := by
  induction markup using Markup.Element.inductionOnChildren generalizing element with
  | step markup ih =>
      rw [resolveElement_eq, visits_eq, List.findSome?_cons, List.findSome?_append, List.findSome?_singleton,
        resolveChildren_eq_findSome? element 0 ih]
      cases hTag : ownTag markup element offset <;> simp [Visit.answer, hTag]

theorem visitsOfChildren_withoutSupplied (element : Document.Element) (index : Nat) {siblings : List Markup.Element}
    (hEach : ∀ child ∈ siblings, ∀ partner, visits document child.withoutSupplied partner =
      (visits document child partner).map Visit.withoutSupplied) :
    visitsOfChildren document element index (siblings.map Markup.Element.withoutSupplied) =
      (visitsOfChildren document element index siblings).map Visit.withoutSupplied := by
  induction siblings generalizing index with
  | nil => rfl
  | cons child rest ih =>
      rw [List.forall_mem_cons] at hEach
      rw [List.map_cons, visitsOfChildren, visitsOfChildren, List.map_append, ih (index + 1) hEach.2]
      cases document.subElement? element index with
      | none => rfl
      | some partner => rw [Option.elim_some, Option.elim_some, hEach.1 partner]

/-- Without the supplied parts the same questions are asked. -/
theorem visits_withoutSupplied (markup : Markup.Element) (element : Document.Element) :
    visits document markup.withoutSupplied element =
      (visits document markup element).map Visit.withoutSupplied := by
  induction markup using Markup.Element.inductionOnChildren generalizing element with
  | step markup ih =>
      rw [visits_eq, visits_eq, Markup.Element.children_withoutSupplied,
        visitsOfChildren_withoutSupplied element 0 ih]
      simp [Visit.withoutSupplied]

end Walk

/-- The walk gives the first answer to its questions. -/
theorem resolve_eq_findSome? (tree : Markup.Tree) (document : Document) (offset : Nat) :
    resolve tree document offset = (walk tree document).findSome? (Visit.answer offset) := by
  rw [resolve, walk]
  cases tree.element with
  | none => rfl
  | some markup =>
      cases document.rootElement? with
      | none => rfl
      | some root => exact resolveElement_eq_findSome? markup root

theorem walk_withoutSupplied (tree : Markup.Tree) (document : Document) :
    walk tree.withoutSupplied document = (walk tree document).map Visit.withoutSupplied := by
  rw [walk, walk, Markup.Tree.withoutSupplied]
  cases tree.element with
  | none => rfl
  | some markup =>
      cases document.rootElement? with
      | none => rfl
      | some root => exact visits_withoutSupplied markup root

section Rules

variable (markup : Markup.Element) (element : Document.Element) (offset : Nat)

theorem ownTag_withoutSupplied : ownTag markup.withoutSupplied element offset = ownTag markup element offset := by
  rw [Markup.Element.withoutSupplied_eq]
  rfl

theorem newAttribute_withoutSupplied :
    newAttribute markup.withoutSupplied element offset = newAttribute markup element offset := by
  rw [Markup.Element.withoutSupplied_eq]
  rfl

/-- A supplied part is found like any other. -/
theorem locateFrom_of_supplied {position seen : Nat} {parts : List Markup.ContentPart} {part : Markup.ContentPart}
    (hFirst : parts.find? (fun part => part.span.contains position) = some part)
    (hSupplied : part.isSupplied = true) : locateFrom seen parts position = some .other := by
  induction parts generalizing seen with
  | nil => cases hFirst
  | cons first rest ih =>
      rw [List.find?_cons] at hFirst
      rw [locateFrom]
      cases hContains : first.span.contains position with
      | true =>
          rw [hContains, Option.some.injEq] at hFirst
          rw [hFirst, if_pos rfl, (part.not_element_of_isSupplied hSupplied).2]
          rfl
      | false =>
          rw [hContains] at hFirst
          exact ih hFirst

/-- Where the first part that is found was written, the supplied ones make no difference. -/
theorem locateFrom_writtenParts {position seen : Nat} {parts : List Markup.ContentPart}
    (hFirst : ∀ part, parts.find? (fun part => part.span.contains position) = some part → part.isSupplied = false) :
    locateFrom seen (Markup.writtenParts parts) position = locateFrom seen parts position := by
  induction parts generalizing seen with
  | nil => rfl
  | cons first rest ih =>
      rw [List.find?_cons] at hFirst
      rw [Markup.writtenParts, locateFrom]
      cases hContains : first.span.contains position with
      | true =>
          -- The part that is found was written, so it is still there.
          rw [hContains] at hFirst
          rw [hFirst first rfl, if_neg Bool.false_ne_true, locateFrom, first.span_withoutSupplied,
            first.isText_withoutSupplied, hContains]
          rfl
      | false =>
          rw [hContains] at hFirst
          cases hSupplied : first.isSupplied with
          | true =>
              rw [(first.not_element_of_isSupplied hSupplied).2]
              exact ih hFirst
          | false =>
              rw [if_neg Bool.false_ne_true, locateFrom, first.span_withoutSupplied, first.isText_withoutSupplied,
                hContains]
              exact ih hFirst

/-- The first part of the element with the character before the cursor was supplied. -/
def IsMasked : Prop :=
  ∃ part, markup.parts.find? (fun part => part.span.contains (offset - 1)) = some part ∧ part.isSupplied = true

variable {markup offset}

theorem inContent_eq_none_of_isMasked (hMasked : IsMasked markup offset) : inContent markup element offset = none := by
  obtain ⟨part, hFirst, hSupplied⟩ := hMasked
  have hLocate : locate ((markup.content.map Markup.Content.parts).getD []) (offset - 1) = some .other :=
    locateFrom_of_supplied hFirst hSupplied
  simp only [inContent, hLocate]
  simp

theorem inContent_withoutSupplied_of_not_isMasked (hMasked : ¬ IsMasked markup offset) :
    inContent markup.withoutSupplied element offset = inContent markup element offset := by
  have hParts : ∀ markup : Markup.Element, (markup.content.map Markup.Content.parts).getD [] = markup.parts :=
    fun _ => rfl
  have hLocate : locate markup.withoutSupplied.parts (offset - 1) = locate markup.parts (offset - 1) := by
    rw [Markup.Element.parts_withoutSupplied]
    refine locateFrom_writtenParts fun part hFirst => ?_
    rw [← Bool.not_eq_true]
    exact fun hSupplied => hMasked ⟨part, hFirst, hSupplied⟩
  simp only [inContent, hParts, hLocate]
  rw [Markup.Element.withoutSupplied_eq]

end Rules

/-- A supplied part keeps the question from being answered: no attribute can be added at the cursor, and between the
tags the element would answer with the context if the part were not there. -/
structure Visit.Masks (offset : Nat) (visit : Visit) (context : Context) : Prop where
  inBody : visit.stage = .body
  noAttribute : newAttribute visit.markup visit.element offset = none
  isMasked : IsMasked visit.markup offset
  context : inContent visit.markup.withoutSupplied visit.element offset = some context

namespace Visit

variable {offset : Nat} {visit : Visit} {context : Context}

/-- Answers stay as they are without the supplied parts, and there are more of them only where one was masked. -/
theorem answer_withoutSupplied (offset : Nat) (visit : Visit) :
    visit.withoutSupplied.answer offset = visit.answer offset ∨
      visit.answer offset = none ∧ ∀ context, visit.withoutSupplied.answer offset = some context →
        visit.Masks offset context := by
  obtain ⟨stage, markup, element⟩ := visit
  cases stage with
  | tag => exact Or.inl (ownTag_withoutSupplied markup element offset)
  | body =>
      simp only [answer, withoutSupplied, ownBody, newAttribute_withoutSupplied]
      cases hAttribute : newAttribute markup element offset with
      | some found => exact Or.inl rfl
      | none =>
          by_cases hMasked : IsMasked markup offset
          · refine Or.inr ⟨inContent_eq_none_of_isMasked element hMasked, fun context hContext => ?_⟩
            exact ⟨rfl, hAttribute, hMasked, hContext⟩
          · exact Or.inl (inContent_withoutSupplied_of_not_isMasked element hMasked)

/-- A masked question is answered only without the supplied parts. -/
theorem Masks.answers (hMasks : visit.Masks offset context) :
    visit.answer offset = none ∧ visit.withoutSupplied.answer offset = some context := by
  obtain ⟨stage, markup, element⟩ := visit
  obtain ⟨rfl, hAttribute, hMasked, hContext⟩ := hMasks
  simp only [answer, withoutSupplied, ownBody, newAttribute_withoutSupplied] at hAttribute hContext ⊢
  rw [hAttribute, Option.none_or, Option.none_or]
  exact ⟨inContent_eq_none_of_isMasked element hMasked, hContext⟩

end Visit

/-- If the head has an answer, then it is the item before which there are no answers. -/
theorem eq_head_of_forall_eq_none {Item Answer : Type} {search : Item → Option Answer} {head item : Item}
    {rest before after : List Item} {found : Answer} (hHead : search head = some found)
    (hItems : head :: rest = before ++ item :: after) (hBefore : ∀ earlier ∈ before, search earlier = none) :
    head = item ∧ rest = after := by
  cases before with
  | nil =>
      rw [List.nil_append, List.cons.injEq] at hItems
      exact hItems
  | cons other before =>
      rw [List.cons_append, List.cons.injEq] at hItems
      have hNone := (List.forall_mem_cons.mp hBefore).1
      rw [← hItems.1, hHead] at hNone
      cases hNone

/-- Two searches of which the second finds an answer wherever the first does: they end alike, unless the second has an
answer to something that the first passes over and finds another answer later. -/
theorem findSome?_eq_findSome?_iff {Item Answer : Type} {first second : Item → Option Answer}
    (hKeeps : ∀ item, second item = first item ∨ first item = none) (items : List Item) :
    items.findSome? second = items.findSome? first ↔
      ∀ before item after answer, items = before ++ item :: after → (∀ earlier ∈ before, second earlier = none) →
        first item = none → second item = some answer → after.findSome? first = some answer := by
  induction items with
  | nil => simp
  | cons head rest ih =>
      rw [List.findSome?_cons, List.findSome?_cons]
      cases hSecond : second head with
      | none =>
          have hFirst : first head = none := by
            rcases hKeeps head with hSame | hNone
            · rw [← hSame, hSecond]
            · exact hNone
          rw [hFirst]
          refine ih.trans ⟨?_, ?_⟩
          · intro hRest before item after answer hItems hBefore hNone hAnswer
            cases before with
            | nil =>
                rw [List.nil_append, List.cons.injEq] at hItems
                rw [← hItems.1, hSecond] at hAnswer
                cases hAnswer
            | cons other before =>
                rw [List.cons_append, List.cons.injEq] at hItems
                exact hRest before item after answer hItems.2 (List.forall_mem_cons.mp hBefore).2 hNone hAnswer
          · intro hAll before item after answer hItems hBefore hNone hAnswer
            exact hAll (head :: before) item after answer (by rw [hItems, List.cons_append])
              (List.forall_mem_cons.mpr ⟨hSecond, hBefore⟩) hNone hAnswer
      | some found =>
          cases hFirst : first head with
          | none =>
              -- The first search passes over the head and has to find the same answer in the rest.
              constructor
              · intro hSame before item after answer hItems hBefore _ hAnswer
                obtain ⟨rfl, rfl⟩ := eq_head_of_forall_eq_none hSecond hItems hBefore
                rw [← hAnswer, hSecond]
                exact hSame.symm
              · intro hAll
                exact (hAll [] head rest found rfl (fun _ hMem => absurd hMem List.not_mem_nil) hFirst hSecond).symm
          | some other =>
              have hSame : found = other := by
                rcases hKeeps head with hSame | hNone
                · rwa [hSecond, hFirst, Option.some.injEq] at hSame
                · rw [hFirst] at hNone
                  cases hNone
              rw [hSame]
              refine iff_of_true rfl fun before item after answer hItems hBefore hNone _ => ?_
              obtain ⟨rfl, rfl⟩ := eq_head_of_forall_eq_none hSecond hItems hBefore
              rw [hFirst] at hNone
              cases hNone

/-- A completion is the first answer to the questions of the walk. It stays as it is without the comments, sections
and instructions that were supplied, unless one of them masks the question that is answered first without them; then
only if the walk comes to the same context later. -/
theorem resolve_withoutSupplied_iff (tree : Markup.Tree) (document : Document) (offset : Nat) :
    resolve tree document offset = (walk tree document).findSome? (Visit.answer offset) ∧
    (resolve tree.withoutSupplied document offset = resolve tree document offset ↔
      ∀ before visit after context, walk tree document = before ++ visit :: after →
        (∀ earlier ∈ before, earlier.withoutSupplied.answer offset = none) → visit.Masks offset context →
          after.findSome? (Visit.answer offset) = some context) := by
  refine ⟨resolve_eq_findSome? tree document offset, ?_⟩
  rw [resolve_eq_findSome?, resolve_eq_findSome?, walk_withoutSupplied, List.findSome?_map,
    findSome?_eq_findSome?_iff fun visit => (visit.answer_withoutSupplied offset).imp_right And.left]
  constructor
  · intro hLater before visit after context hWalk hBefore hMasks
    exact hLater before visit after context hWalk hBefore hMasks.answers.1 hMasks.answers.2
  · intro hLater before visit after context hWalk hBefore hNone hAnswer
    refine hLater before visit after context hWalk hBefore ?_
    rcases visit.answer_withoutSupplied offset with hSame | ⟨_, hMasks⟩
    · rw [← hSame] at hNone
      rw [Function.comp_apply, hNone] at hAnswer
      cases hAnswer
    · exact hMasks context hAnswer

/-- `<a>x</a>` with a supplied comment in front of the text, at the place of the text. The comment is found first, so
behind the `x` there is nothing to complete; without the comment, the text is continued. -/
theorem resolve_masked_by_comment :
    let written (kind : Markup.TokenKind) (image : String) (start : Nat) := Markup.Token.ofImage kind image start
    let comment : Markup.Token := ⟨.comment, "", ⟨3, 3⟩, true⟩
    let parts : List Markup.ContentPart := [.comment comment, .text ⟨[written .text "x" 3], ⟨3, 3⟩⟩]
    let markup : Markup.Element :=
      ⟨written .openAngle "<" 0, written .name "a" 1, [], written .startClose ">" 2, some ⟨parts, ⟨3, 3⟩⟩,
        written .slashOpen "</" 4, written .name "a" 6, written .close ">" 7, none, ⟨0, 7⟩⟩
    let element : Document.Element := ⟨0, some "a", [], [], [⟨"x", ⟨3, 3⟩⟩], ⟨0, 7⟩, none, ⟨none, none, none⟩⟩
    let tree : Markup.Tree := ⟨none, [], some markup, ⟨0, 7⟩⟩
    let document : Document := ⟨some 0, [element], ⟨0, 7⟩⟩
    resolve tree document 4 = none ∧
      resolve tree.withoutSupplied document 4 =
        some ⟨.elementContent, element, none, some ⟨"x", ⟨3, 3⟩⟩, some "x"⟩ := by
  decide +kernel

end Completion

end ContentAssist
