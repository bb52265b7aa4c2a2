import ContentAssist.Proofs.Document.Alignment
import ContentAssist.Proofs.Document.Growth
import ContentAssist.Proofs.Markup.Nesting
import Mathlib.Data.List.Nodup
import Mathlib.Data.List.Perm.Subperm

/-! The walk through a document whose elements form a tree. The walk keeps a stack of the elements that are still to
come; set against it is the recursive order, an element first and then its sub-elements one after the other. In a
tree the two agree, no element comes twice, and the walk ends when every element has come. -/
namespace ContentAssist

namespace Document

/-- The identifier of an element and those of the elements below it, each before the ones below it, as deep as the
limit allows. -/
def preorder (document : Document) : Nat → Nat → List Nat
  | 0, _ => []
  | depth + 1, id => match document.element? id with
    | some element => id :: element.subElements.flatMap (document.preorder depth)
    | none => []

/-- The identifiers from an element on downwards. In a tree no element is deeper than there are elements. -/
def order (document : Document) (id : Nat) : List Nat :=
  document.preorder document.elements.length id

/-- The second element is the first or below it: going up from it by parents leads to the first. -/
inductive IsBelow (document : Document) (top : Nat) : Nat → Prop
  | here : IsBelow document top top
  | up {place up : Nat} {element : Element} (hElement : document.elements[place]? = some element)
      (hParent : element.parent = some up) (above : IsBelow document top up) : IsBelow document top place

theorem IsBelow.trans {document : Document} {top middle place : Nat} (hMiddle : IsBelow document top middle)
    (hPlace : IsBelow document middle place) : IsBelow document top place := by
  induction hPlace with
  | here => exact hMiddle
  | up hElement hParent _ ih => exact .up hElement hParent ih

namespace IsTree

variable {document : Document} {place sub id : Nat} {element : Element}

/-- Sub-elements come behind the element that refers to them. -/
theorem lt_of_mem (h : document.IsTree) (hElement : document.elements[place]? = some element)
    (hSub : sub ∈ element.subElements) : place < sub := by
  obtain ⟨child, hChild, hParent⟩ := (h.elements place element hElement).subElements sub hSub
  exact ((h.elements sub child hChild).parent place hParent).1

/-- What holds of an element whenever it holds of its sub-elements holds of every element of a tree. -/
@[elab_as_elim]
theorem inductionOnSubElements (h : document.IsTree)
    {motive : ∀ place element, document.elements[place]? = some element → Prop}
    (step : ∀ place element (hElement : document.elements[place]? = some element),
      (∀ sub ∈ element.subElements, ∀ child (hChild : document.elements[sub]? = some child), motive sub child hChild) →
      motive place element hElement)
    (place : Nat) (element : Element) (hElement : document.elements[place]? = some element) :
    motive place element hElement :=
  step place element hElement fun sub _hSub child hChild => inductionOnSubElements h step sub child hChild
termination_by document.elements.length - place
decreasing_by
  have hPlace := (List.getElem?_eq_some_iff.mp hElement).1
  have hLt := h.lt_of_mem hElement _hSub
  omega

/-- Deeper than the elements behind an element there is nothing below it. -/
theorem preorder_eq_of_le (h : document.IsTree) {depth other : Nat}
    (hDepth : document.elements.length ≤ id + depth) (hOther : document.elements.length ≤ id + other) :
    document.preorder depth id = document.preorder other id := by
  have hNone : document.elements.length ≤ id → document.element? id = none := fun hId => List.getElem?_eq_none hId
  induction depth generalizing other id with
  | zero =>
      cases other with
      | zero => rfl
      | succ other => simp only [preorder, hNone hDepth]
  | succ depth ih =>
      cases other with
      | zero => simp only [preorder, hNone hOther]
      | succ other =>
          simp only [preorder]
          cases hElement : document.element? id with
          | none => rfl
          | some element =>
              refine congrArg (id :: ·) (List.flatMap_congr fun sub hSub => ?_)
              have hLt := h.lt_of_mem hElement hSub
              exact ih (by omega) (by omega) fun hId => List.getElem?_eq_none hId

/-- The order from an element on is the element and then the orders from its sub-elements on. -/
theorem order_eq (h : document.IsTree) (hElement : document.elements[place]? = some element) :
    document.order place = place :: element.subElements.flatMap document.order := by
  have hPlace := (List.getElem?_eq_some_iff.mp hElement).1
  have hDeeper : document.order place = document.preorder (document.elements.length + 1) place :=
    h.preorder_eq_of_le (Nat.le_add_left _ _) (by omega)
  simp only [hDeeper, preorder, element?, hElement]
  rfl

theorem mem_order_self (h : document.IsTree) (hPlace : place < document.elements.length) :
    place ∈ document.order place := by
  rw [h.order_eq (List.getElem?_eq_getElem hPlace)]
  exact List.mem_cons_self

/-- What comes in the order from an element on is below the element. -/
theorem isBelow_of_mem_order (h : document.IsTree) (hElement : document.elements[place]? = some element)
    (hId : id ∈ document.order place) : IsBelow document place id ∧ id < document.elements.length := by
  induction place, element, hElement using h.inductionOnSubElements with
  | step place element hElement ih =>
      rw [h.order_eq hElement] at hId
      rcases List.mem_cons.mp hId with rfl | hLower
      · exact ⟨.here, (List.getElem?_eq_some_iff.mp hElement).1⟩
      · obtain ⟨sub, hSub, hMem⟩ := List.mem_flatMap.mp hLower
        obtain ⟨child, hChild, hParent⟩ := (h.elements place element hElement).subElements sub hSub
        obtain ⟨hBelow, hLt⟩ := ih sub hSub child hChild hMem
        exact ⟨.trans (.up hChild hParent .here) hBelow, hLt⟩

/-- Going up leads to the front of the document. -/
theorem le_of_isBelow (h : document.IsTree) (hBelow : IsBelow document place id) : place ≤ id := by
  induction hBelow with
  | here => exact le_rfl
  | up hElement hParent _ ih => exact ih.trans ((h.elements _ _ hElement).parent _ hParent).1.le

/-- Of two elements above a third, one is above the other. -/
theorem isBelow_or_isBelow {first second : Nat} (hFirst : IsBelow document first id)
    (hSecond : IsBelow document second id) : IsBelow document first second ∨ IsBelow document second first := by
  induction hFirst with
  | here => exact Or.inr hSecond
  | up hElement hParent above ih =>
      cases hSecond with
      | here => exact Or.inl (.up hElement hParent above)
      | up hOther hUp hAbove =>
          rw [hElement, Option.some.injEq] at hOther
          subst hOther
          rw [hParent, Option.some.injEq] at hUp
          subst hUp
          exact ih hAbove

/-- No sub-element of an element is below another one. -/
theorem not_isBelow_sibling (h : document.IsTree) {other : Nat} (hElement : document.elements[place]? = some element)
    (hSub : sub ∈ element.subElements) (hOther : other ∈ element.subElements) (hNe : sub ≠ other) :
    ¬ IsBelow document sub other := by
  intro hBelow
  obtain ⟨child, hChild, hParent⟩ := (h.elements place element hElement).subElements other hOther
  cases hBelow with
  | here => exact hNe rfl
  | up hFound hUp above =>
      rw [hChild, Option.some.injEq] at hFound
      subst hFound
      rw [hParent, Option.some.injEq] at hUp
      subst hUp
      exact absurd (h.le_of_isBelow above) (Nat.not_le.mpr (h.lt_of_mem hElement hSub))

/-- No element comes twice in the order. -/
theorem nodup_order (h : document.IsTree) (hElement : document.elements[place]? = some element) :
    (document.order place).Nodup := by
  induction place, element, hElement using h.inductionOnSubElements with
  | step place element hElement ih =>
      have hLinked := h.elements place element hElement
      rw [h.order_eq hElement, List.nodup_cons, List.nodup_flatMap]
      refine ⟨?_, ?_, ?_⟩
      · intro hMem
        obtain ⟨sub, hSub, hMem⟩ := List.mem_flatMap.mp hMem
        obtain ⟨child, hChild, _⟩ := hLinked.subElements sub hSub
        have hLe := h.le_of_isBelow (h.isBelow_of_mem_order hChild hMem).1
        exact absurd hLe (Nat.not_le.mpr (h.lt_of_mem hElement hSub))
      · intro sub hSub
        obtain ⟨child, hChild, _⟩ := hLinked.subElements sub hSub
        exact ih sub hSub child hChild
      · refine hLinked.increasing.imp_of_mem fun {first second} hFirst hSecond hLt => ?_
        intro id hOne hTwo
        obtain ⟨_, hFirstChild, _⟩ := hLinked.subElements first hFirst
        obtain ⟨_, hSecondChild, _⟩ := hLinked.subElements second hSecond
        -- The two sub-elements would both be above the element that comes twice.
        rcases isBelow_or_isBelow (h.isBelow_of_mem_order hFirstChild hOne).1
          (h.isBelow_of_mem_order hSecondChild hTwo).1 with hBelow | hBelow
        · exact h.not_isBelow_sibling hElement hFirst hSecond hLt.ne hBelow
        · exact h.not_isBelow_sibling hElement hSecond hFirst hLt.ne' hBelow

/-- The order goes on with the sub-elements of every element that comes in it. -/
theorem mem_order_of_mem (h : document.IsTree) {top : Nat} {first around : Element}
    (hTop : document.elements[top]? = some first) (hPlace : document.elements[place]? = some around)
    (hMem : place ∈ document.order top) (hSub : sub ∈ around.subElements) : sub ∈ document.order top := by
  induction top, first, hTop using h.inductionOnSubElements with
  | step top first hTop ih =>
      rw [h.order_eq hTop] at hMem ⊢
      refine List.mem_cons_of_mem _ (List.mem_flatMap.mpr ?_)
      rcases List.mem_cons.mp hMem with rfl | hLower
      · rw [hPlace, Option.some.injEq] at hTop
        subst hTop
        obtain ⟨child, hChild, _⟩ := (h.elements place around hPlace).subElements sub hSub
        exact ⟨sub, hSub, h.mem_order_self (List.getElem?_eq_some_iff.mp hChild).1⟩
      · obtain ⟨inner, hInner, hMem⟩ := List.mem_flatMap.mp hLower
        obtain ⟨child, hChild, _⟩ := (h.elements top first hTop).subElements inner hInner
        exact ⟨inner, hInner, ih inner hInner child hChild hMem⟩

/-- Every element of a tree comes in the order from the root on. -/
theorem mem_order_root (h : document.IsTree) (hPlace : place < document.elements.length) :
    place ∈ document.order 0 := by
  induction place using Nat.strong_induction_on with
  | h place ih =>
      have hElement := List.getElem?_eq_getElem hPlace
      have hLinked := h.elements place _ hElement
      cases hParent : document.elements[place].parent with
      | none =>
          rw [hLinked.root.mp hParent] at hPlace ⊢
          exact h.mem_order_self hPlace
      | some up =>
          obtain ⟨hUp, around, hAround, hCount⟩ := hLinked.parent up hParent
          have hSub : place ∈ around.subElements := List.count_pos_iff.mp (by omega)
          have hRoot := List.getElem?_eq_getElem (Nat.zero_lt_of_lt hPlace)
          exact h.mem_order_of_mem hRoot hAround (ih up hUp (hUp.trans hPlace)) hSub

/-- The order from the root on has every element once. -/
theorem order_perm (h : document.IsTree) : (document.order 0).Perm (List.range document.elements.length) := by
  cases hElements : document.elements with
  | nil => simp [order, hElements, preorder]
  | cons first rest =>
      have hRoot : document.elements[0]? = some first := by rw [hElements]; rfl
      rw [← hElements, List.perm_ext_iff_of_nodup (h.nodup_order hRoot) List.nodup_range]
      intro id
      rw [List.mem_range]
      exact ⟨fun hId => (h.isBelow_of_mem_order hRoot hId).2, h.mem_order_root⟩

/-- The walk from a stack gives the orders from its elements on, as far as the limit goes. -/
theorem walk_eq (h : document.IsTree) (limit : Nat) {stack : List Nat}
    (hStack : ∀ id ∈ stack, id < document.elements.length) :
    document.walk limit stack = ((stack.flatMap document.order).filterMap document.element?).take limit := by
  induction limit generalizing stack with
  | zero => rfl
  | succ limit ih =>
      cases stack with
      | nil => rfl
      | cons id stack =>
          rw [List.forall_mem_cons] at hStack
          obtain ⟨element, hElement⟩ : ∃ element, document.elements[id]? = some element :=
            ⟨_, List.getElem?_eq_getElem hStack.1⟩
          have hLater : ∀ later ∈ element.subElements ++ stack, later < document.elements.length := by
            rw [List.forall_mem_append]
            exact ⟨fun sub => h.lt_of_mem_subElements hElement, hStack.2⟩
          have hStep : document.step? (id :: stack) = some (element, element.subElements ++ stack) := by
            simp [step?, element?, hElement]
          simp only [walk, hStep, ih hLater, List.flatMap_cons, h.order_eq hElement, List.cons_append,
            List.filterMap_cons, element?, hElement, List.take_succ_cons, List.flatMap_append]

/-- A walk gives the start of the order from the root on. -/
theorem iterate_eq_take (h : document.IsTree) (limit : Nat) :
    document.iterate limit = ((document.order 0).filterMap document.element?).take limit := by
  cases hElements : document.elements with
  | nil =>
      have hOrder : document.order 0 = [] := by rw [order, hElements]; rfl
      rw [iterate, h.noRoot hElements, hOrder]
      cases limit <;> rfl
  | cons first rest =>
      have hNonempty : document.elements ≠ [] := by simp [hElements]
      rw [iterate, h.root hNonempty, h.walk_eq limit, Option.toList_some, List.flatMap_singleton]
      intro id hId
      rw [Option.toList_some, List.mem_singleton] at hId
      rw [hId]
      exact List.length_pos_iff.mpr hNonempty

/-- A walk whose limit is not below the number of elements gives them all, in the order from the root on. -/
theorem iterate_eq (h : document.IsTree) (extra : Nat) :
    document.iterate (document.elements.length + extra) = (document.order 0).filterMap document.element? := by
  rw [h.iterate_eq_take, List.take_of_length_le]
  refine (List.length_filterMap_le ..).trans ?_
  rw [h.order_perm.length_eq, List.length_range]
  exact Nat.le_add_right _ _

theorem mem_iterate_iff (h : document.IsTree) (extra : Nat) :
    element ∈ document.iterate (document.elements.length + extra) ↔ element ∈ document.elements := by
  rw [h.iterate_eq, List.mem_filterMap]
  constructor
  · rintro ⟨id, _, hElement⟩
    exact List.mem_of_getElem? hElement
  · intro hElement
    obtain ⟨place, hPlace⟩ := List.getElem?_of_mem hElement
    exact ⟨place, h.mem_order_root (List.getElem?_eq_some_iff.mp hPlace).1, hPlace⟩

/-- A walk does not come to an element twice. -/
theorem nodup_iterate (h : document.IsTree) (extra : Nat) :
    (document.iterate (document.elements.length + extra)).Nodup := by
  rw [h.iterate_eq]
  refine (h.order_perm.nodup_iff.mpr List.nodup_range).filterMap fun first second element hFirst hSecond => ?_
  rw [← (h.elements first element hFirst).id, (h.elements second element hSecond).id]

end IsTree

theorem isTree_insertChildren {children : List Markup.Element}
    (hEach : ∀ child ∈ children, ∀ {document result : Document} {parent : Option Nat}, document.IsTree →
      insertMarkup document parent child = .ok result → result.IsTree)
    {document result : Document} {parent : Nat} (h : document.IsTree)
    (hResult : insertChildren document parent children = .ok result) : result.IsTree := by
  induction children generalizing document with
  | nil =>
      cases hResult
      exact h
  | cons child rest ih =>
      rw [List.forall_mem_cons] at hEach
      rw [insertChildren] at hResult
      cases hFirst : insertMarkup document (some parent) child with
      | error fault =>
          rw [hFirst] at hResult
          cases hResult
      | ok next =>
          rw [hFirst] at hResult
          exact ih hEach.2 (hEach.1 h hFirst) hResult

/-- The elements of a concrete tree are inserted one by one, so they form a tree in the document too. -/
theorem isTree_insertMarkup {document result : Document} {parent : Option Nat} {markup : Markup.Element}
    (h : document.IsTree) (hResult : insertMarkup document parent markup = .ok result) : result.IsTree := by
  induction markup using Markup.Element.inductionOnChildren generalizing document parent result with
  | step markup ih =>
      let request : Insertion := ⟨parent, Element.ofMarkup markup, rfl⟩
      have hInsert : document.insert parent (Element.ofMarkup markup) = _ := request.insert_eq document
      rw [insertMarkup_eq, hInsert] at hResult
      cases hFault : request.fault? document with
      | some fault =>
          rw [hFault] at hResult
          cases hResult
      | none =>
          rw [hFault] at hResult
          exact isTree_insertChildren ih (Insertion.isTree_grown h hFault) hResult

theorem isTree_ofOutline (tree : Markup.Tree) : (ofOutline tree).IsTree := by
  have hOk := ofTree_eq tree
  unfold ofTree at hOk
  cases hRoot : tree.element with
  | some root =>
      rw [hRoot] at hOk
      exact isTree_insertMarkup (IsTree.empty tree.span) hOk
  | none =>
      rw [hRoot] at hOk
      rw [← Except.ok.inj hOk]
      exact IsTree.empty tree.span

/-- The rows of the element come in the order one after the other, wherever they stand. -/
def OrdersRows (document : Document) (markup : Markup.Element) : Prop :=
  ∀ (before after : List Element) (above : Option Nat),
    document.elements = before ++ rows before.length above markup ++ after →
      document.order before.length = List.range' before.length markup.size

theorem order_siblingRows {document : Document} {siblings : List Markup.Element}
    (hEach : ∀ child ∈ siblings, OrdersRows document child) (before after : List Element) (parent : Nat)
    (hElements : document.elements = before ++ siblingRows before.length parent siblings ++ after) :
    (siblingNumbers before.length siblings).flatMap document.order =
      List.range' before.length (siblingRows before.length parent siblings).length := by
  induction siblings generalizing before with
  | nil => rfl
  | cons child rest ih =>
      rw [List.forall_mem_cons] at hEach
      rw [siblingRows] at hElements
      have hChild := hEach.1 before (siblingRows (before.length + child.size) parent rest ++ after) (some parent)
        (by rw [hElements]; simp only [List.append_assoc])
      have hLength : (before ++ rows before.length (some parent) child).length = before.length + child.size := by
        rw [List.length_append, length_rows]
      have hRest := ih hEach.2 (before ++ rows before.length (some parent) child)
        (by rw [hElements, hLength]; simp only [List.append_assoc])
      rw [hLength] at hRest
      rw [siblingNumbers, siblingRows, List.flatMap_cons, hChild, hRest, List.length_append, length_rows]
      exact List.range'_append_1

theorem ordersRows {document : Document} (h : document.IsTree) (markup : Markup.Element) :
    OrdersRows document markup := by
  induction markup using Markup.Element.inductionOnChildren with
  | step markup ih =>
      intro before after above hElements
      have hSize := length_rows before.length above markup
      rw [rows_eq] at hElements hSize
      have hRow : document.elements[before.length]? = some (row before.length above markup [] markup) := by
        rw [hElements]
        simp
      have hSubElements : (row before.length above markup [] markup).subElements =
          siblingNumbers (before.length + 1) markup.children := (siblingNumbers_eq before.length markup).symm
      have hSiblings := order_siblingRows ih (before ++ [row before.length above markup [] markup]) after
        before.length (by rw [hElements]; simp)
      rw [List.length_append, List.length_singleton] at hSiblings
      rw [h.order_eq hRow, hSubElements, hSiblings, ← hSize, List.length_cons, List.range'_succ]

end Document

namespace Snapshot

variable {source : String} {snapshot : Snapshot}

theorem isTree_of_ofText (hSnapshot : ofText source = .ok snapshot) : snapshot.document.IsTree := by
  rw [ofText_eq, Except.ok.injEq] at hSnapshot
  rw [← hSnapshot]
  exact Document.isTree_ofOutline _

theorem filterMap_getElem?_range {Item : Type} (items : List Item) :
    (List.range items.length).filterMap (items[·]?) = items := by
  induction items with
  | nil => rfl
  | cons item rest ih =>
      rw [List.length_cons, List.range_succ_eq_map, List.filterMap_cons, List.filterMap_map]
      exact congrArg (item :: ·) ih

/-- A walk through the document of a text gives the elements in the order in which they stand in the document. -/
theorem iterate_eq_elements (hSnapshot : ofText source = .ok snapshot) (extra : Nat) :
    snapshot.document.iterate (snapshot.document.elements.length + extra) = snapshot.document.elements := by
  have hTree := isTree_of_ofText hSnapshot
  have hOrder : snapshot.document.order 0 = List.range snapshot.document.elements.length := by
    cases hRoot : snapshot.tree.element with
    | none =>
        have hCount := (aligned_of_ofText hSnapshot).count
        rw [Markup.Tree.outline, hRoot, List.length_nil] at hCount
        rw [Document.order, hCount]
        rfl
    | some root =>
        have hElements := elements_eq_rows hSnapshot hRoot
        have hRows := Document.ordersRows hTree root [] [] none (by rw [hElements]; simp)
        rw [hElements, Document.length_rows, List.range_eq_range']
        exact hRows
  rw [hTree.iterate_eq, hOrder]
  exact filterMap_getElem?_range _

/-- The elements of a text stand in the document in the order in which they start. -/
theorem starts_increasing (hSnapshot : ofText source = .ok snapshot) :
    snapshot.document.elements.Pairwise fun first second => first.span.startOffset < second.span.startOffset := by
  cases hRoot : snapshot.tree.element with
  | none =>
      have hCount := (aligned_of_ofText hSnapshot).count
      rw [Markup.Tree.outline, hRoot, List.length_nil, List.length_eq_zero_iff] at hCount
      rw [hCount]
      exact .nil
  | some root =>
      have hRead : Markup.Reader.IsRead source.toList root := by
        have hTree : snapshot.tree = Markup.Tree.read source := by
          rw [ofText_eq, Except.ok.injEq] at hSnapshot
          rw [← hSnapshot]
        rw [hTree] at hRoot
        exact Markup.Reader.document_isRead hRoot
      rw [elements_eq_rows hSnapshot hRoot, Document.rows, List.pairwise_map]
      exact hRead.outline_increasing []

end Snapshot

end ContentAssist
