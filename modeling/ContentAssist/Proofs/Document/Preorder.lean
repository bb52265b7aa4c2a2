import ContentAssist.Proofs.Document.Order
import Mathlib.Data.List.Basic
import Mathlib.Logic.Relation

/-! Walks through documents that grew by insertions. The insertions may come in any order, so elements need not stand
in the document in the order of the walk. The walk takes identifiers from a stack; the traversal that it is set
against has neither a stack nor a limit: an element, and then what its sub-elements give one after the other. -/
namespace ContentAssist.Document

mutual

/-- The elements are those of the traversal from an element on: the element itself, and then those from its
sub-elements on. -/
inductive Traverses (document : Document) : Nat → List Element → Prop
  | visit {id : Nat} {element : Element} {below : List Element} (hElement : document.element? id = some element)
      (hBelow : TraversesAll document element.subElements below) : Traverses document id (element :: below)

/-- The elements are those of the traversals from several elements on, one traversal after the other. -/
inductive TraversesAll (document : Document) : List Nat → List Element → Prop
  | nil : TraversesAll document [] []
  | cons {id : Nat} {others : List Nat} {found rest : List Element} (hFirst : Traverses document id found)
      (hOthers : TraversesAll document others rest) : TraversesAll document (id :: others) (found ++ rest)

end

mutual

/-- There is one traversal at most. -/
theorem Traverses.unique {document : Document} {id : Nat} {found : List Element} :
    Traverses document id found → ∀ {other : List Element}, Traverses document id other → found = other
  | .visit hElement hBelow, _, .visit hOther hBelowOther => by
      rw [hElement, Option.some.injEq] at hOther
      subst hOther
      rw [hBelow.unique hBelowOther]

theorem TraversesAll.unique {document : Document} {ids : List Nat} {found : List Element} :
    TraversesAll document ids found → ∀ {other : List Element}, TraversesAll document ids other → found = other
  | .nil, _, .nil => rfl
  | .cons hFirst hOthers, _, .cons hFirstOther hOthersOther => by
      rw [hFirst.unique hFirstOther, hOthers.unique hOthersOther]

end

/-- The traversals from several elements on make up one list, if there is a traversal from each of them on. -/
theorem TraversesAll.of_forall {document : Document} {found : Nat → List Element} {ids : List Nat}
    (hEach : ∀ id ∈ ids, Traverses document id (found id)) : TraversesAll document ids (ids.flatMap found) := by
  induction ids with
  | nil => exact .nil
  | cons id others ih =>
      rw [List.forall_mem_cons] at hEach
      exact .cons hEach.1 (ih hEach.2)

/-- The second element is a sub-element of the first, or one of a sub-element, and so on. -/
def IsDescendant (document : Document) : Element → Element → Prop :=
  Relation.TransGen fun around inner => inner ∈ document.subElements around

/-- A walk gives the elements in the order of the traversal from the root on. -/
structure WalksInPreorder (document : Document) : Prop where
  /-- A walk with a limit is the start of the whole walk. -/
  limited : ∀ limit, document.iterate limit = (document.iterate document.elements.length).take limit
  /-- The whole walk has as many elements as the document. -/
  count : (document.iterate document.elements.length).length = document.elements.length
  everyElement : (document.iterate document.elements.length).Perm document.elements
  noneTwice : (document.iterate document.elements.length).Nodup
  descendantsLater : ∀ first ∈ document.elements, ∀ second, document.IsDescendant first second →
    [first, second].Sublist (document.iterate document.elements.length)
  noRoot : document.root = none → document.iterate document.elements.length = []
  traversal : ∀ root, document.root = some root → ∀ found, Traverses document root found ↔
    found = document.iterate document.elements.length

namespace IsTree

variable {document : Document} {place id : Nat} {element : Element}

/-- The whole walk gives the elements that stand at the places of the order. -/
theorem iterate_length (h : document.IsTree) :
    document.iterate document.elements.length = (document.order 0).filterMap document.element? :=
  h.iterate_eq 0

/-- The whole walk gives the elements of the document, in another order perhaps. -/
theorem iterate_perm (h : document.IsTree) :
    (document.iterate document.elements.length).Perm document.elements := by
  have hPerm := h.order_perm.filterMap document.element?
  rwa [← h.iterate_length, show document.element? = (document.elements[·]?) from rfl,
    Snapshot.filterMap_getElem?_range] at hPerm

/-- From an element on, the order is the traversal. -/
theorem traverses_order (h : document.IsTree) (hElement : document.elements[place]? = some element) :
    Traverses document place ((document.order place).filterMap document.element?) := by
  induction place, element, hElement using h.inductionOnSubElements with
  | step place element hElement ih =>
      have hFound : document.element? place = some element := hElement
      rw [h.order_eq hElement, List.filterMap_cons_some hFound, List.filterMap_flatMap]
      refine .visit hFound (.of_forall fun sub hSub => ?_)
      obtain ⟨child, hChild, _⟩ := (h.elements place element hElement).subElements sub hSub
      exact ih sub hSub child hChild

/-- The order from an element on stands without a gap in every order that the element comes in. -/
theorem order_infix (h : document.IsTree) {top : Nat} {first : Element}
    (hTop : document.elements[top]? = some first) (hMem : place ∈ document.order top) :
    document.order place <:+: document.order top := by
  induction top, first, hTop using h.inductionOnSubElements with
  | step top first hTop ih =>
      rw [h.order_eq hTop] at hMem
      rcases List.mem_cons.mp hMem with rfl | hLower
      · exact List.infix_refl _
      · obtain ⟨sub, hSub, hMem⟩ := List.mem_flatMap.mp hLower
        obtain ⟨child, hChild, _⟩ := (h.elements top first hTop).subElements sub hSub
        have hInner := (ih sub hSub child hChild hMem).trans (List.infix_flatMap_of_mem hSub document.order)
        rw [h.order_eq hTop]
        exact hInner.trans (List.suffix_cons _ _).isInfix

/-- Descendants come in the order from an element on, and stand behind the element in the document. -/
theorem exists_place_of_isDescendant (h : document.IsTree) {second : Element}
    (hElement : document.elements[place]? = some element) (hBelow : document.IsDescendant element second) :
    ∃ below, document.elements[below]? = some second ∧ below ∈ document.order place ∧ place < below := by
  have hStep : ∀ {around inner : Element} {middle : Nat}, document.elements[middle]? = some around →
      middle ∈ document.order place → place ≤ middle → inner ∈ document.subElements around →
      ∃ below, document.elements[below]? = some inner ∧ below ∈ document.order place ∧ place < below := by
    intro around inner middle hAround hMem hLe hInner
    obtain ⟨sub, hSub, hFound⟩ := List.mem_filterMap.mp hInner
    exact ⟨sub, hFound, h.mem_order_of_mem hElement hAround hMem hSub, hLe.trans_lt (h.lt_of_mem hAround hSub)⟩
  induction hBelow with
  | single hSub => exact hStep hElement (h.mem_order_self (List.getElem?_eq_some_iff.mp hElement).1) le_rfl hSub
  | tail _ hSub ih =>
      obtain ⟨middle, hMiddle, hMem, hLt⟩ := ih
      exact hStep hMiddle hMem hLt.le hSub

/-- The walk comes to an element before it comes to its descendants. -/
theorem sublist_iterate_of_isDescendant (h : document.IsTree) {first second : Element}
    (hFirst : first ∈ document.elements) (hBelow : document.IsDescendant first second) :
    [first, second].Sublist (document.iterate document.elements.length) := by
  obtain ⟨place, hPlace⟩ := List.getElem?_of_mem hFirst
  obtain ⟨below, hSecond, hMem, hLt⟩ := h.exists_place_of_isDescendant hPlace hBelow
  have hIn : place ∈ document.order 0 := h.mem_order_root (List.getElem?_eq_some_iff.mp hPlace).1
  have hRoot := List.getElem?_eq_getElem (Nat.zero_lt_of_lt (List.getElem?_eq_some_iff.mp hPlace).1)
  have hPair : [place, below].Sublist (document.order place) := by
    rw [h.order_eq hPlace, List.mem_cons] at hMem
    rw [h.order_eq hPlace, List.cons_sublist_cons, List.singleton_sublist]
    exact hMem.resolve_left hLt.ne'
  have hElements := (hPair.trans (h.order_infix hRoot hIn).sublist).filterMap document.element?
  rwa [List.filterMap_cons_some (show document.element? place = some first from hPlace),
    List.filterMap_cons_some (show document.element? below = some second from hSecond), List.filterMap_nil,
    ← h.iterate_length] at hElements

theorem walksInPreorder (h : document.IsTree) : document.WalksInPreorder where
  limited := by
    intro limit
    rw [h.iterate_eq_take limit, h.iterate_length]
  count := h.iterate_perm.length_eq
  everyElement := h.iterate_perm
  noneTwice := h.nodup_iterate 0
  descendantsLater := fun _ hFirst _ => h.sublist_iterate_of_isDescendant hFirst
  noRoot := by
    intro hRoot
    have hEmpty : document.elements = [] := by
      by_contra hElements
      rw [h.root hElements] at hRoot
      cases hRoot
    rw [hEmpty]
    rfl
  traversal := by
    intro root hRoot found
    have hElements : document.elements ≠ [] := by
      intro hEmpty
      rw [h.noRoot hEmpty] at hRoot
      cases hRoot
    rw [h.root hElements, Option.some.injEq] at hRoot
    have hTraverses := h.traverses_order (List.getElem?_eq_getElem (List.length_pos_iff.mpr hElements))
    rw [← hRoot, h.iterate_length]
    refine ⟨fun hFound => hFound.unique hTraverses, fun hFound => ?_⟩
    rw [hFound]
    exact hTraverses

end IsTree

/-- After any insertions, those that failed included, a walk through the document ends after as many elements as the
document has. It comes to every element once, to none before an element around it, and it gives the traversal
that visits an element and then its sub-elements in the order of their insertion. -/
theorem iterate_in_preorder (span : Span) (requests : List Insertion) :
    (Insertion.afterAll requests (empty span)).WalksInPreorder :=
  (Insertion.isTree_afterAll requests (.empty span)).walksInPreorder

end ContentAssist.Document
