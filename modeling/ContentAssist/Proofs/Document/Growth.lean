import ContentAssist.Proofs.Document.Arena
import Mathlib.Data.List.Pairwise

/-! Documents that grow by insertions. The links between parents and children are kept twice, and an insertion
changes the document twice: first it adds the reference to the new element, then the element itself. After any
number of insertions, those that failed included, the elements still form a tree. Elements that come with
sub-elements of their own are left out: their references may lead anywhere. -/
namespace ContentAssist.Document

/-- What an insertion asks for: a parent, and an element that does not refer to others yet. -/
structure Insertion where
  parent : Option Nat
  element : Element
  childless : element.subElements = []

namespace Insertion

/-- The element as it stands in a document, under the identifier that it is given. -/
def placed (request : Insertion) (id : Nat) : Element :=
  { request.element with
    id := id
    parent := request.parent
    attributes := request.element.attributes.map fun attr => { attr with owner := id } }

/-- Carry the insertion out on a document that is changed in place: what was changed before a failure would stay
changed. -/
def perform (request : Insertion) : EStateM ChangeError Document Nat := do
  let id := (← get).elements.length
  match (← get).attach request.parent with
  | .error fault => throw fault
  | .ok attached => set attached
  let attached ← get
  set { attached with elements := attached.elements ++ [request.placed id] }
  return id

/-- The document with the new element behind the others and one reference to it: as the last sub-element of the
parent, or as the root. -/
def grown (request : Insertion) (document : Document) : Document :=
  let id := document.elements.length
  match request.parent with
  | some parent => { document with
      elements := document.elements.modify parent (Element.addSubElements [id]) ++ [request.placed id] }
  | none => { document with root := some id, elements := document.elements ++ [request.placed id] }

/-- What the document refuses: a parent that it does not have, and a second root. -/
inductive Refused (request : Insertion) (document : Document) : ChangeError → Prop
  | unknownParent {parent : Nat} (hParent : request.parent = some parent)
      (hRange : document.elements.length ≤ parent) : Refused request document (.unknownElement parent)
  | secondRoot {root : Nat} (hParent : request.parent = none) (hRoot : document.root = some root) :
      Refused request document (.rootAlreadySet root)

/-- Why the document refuses the element, if it does. -/
def fault? (request : Insertion) (document : Document) : Option ChangeError :=
  match request.parent with
  | some parent => if document.elements.length ≤ parent then some (.unknownElement parent) else none
  | none => document.root.map .rootAlreadySet

@[simp] theorem placed_parent (request : Insertion) (id : Nat) : (request.placed id).parent = request.parent := rfl

@[simp] theorem placed_subElements (request : Insertion) (id : Nat) : (request.placed id).subElements = [] :=
  request.childless

variable (request : Insertion) (document : Document)

/-- Adding the reference is all that can fail. Where it does not, the element behind the others completes the
change. -/
theorem attach_cases :
    (∃ fault, request.fault? document = some fault ∧ document.attach request.parent = .error fault) ∨
    (request.fault? document = none ∧ ∃ attached, document.attach request.parent = .ok attached ∧
      { attached with elements := attached.elements ++ [request.placed document.elements.length] } =
        request.grown document) := by
  cases hParent : request.parent with
  | some parent =>
      by_cases hKnown : parent < document.elements.length
      · refine Or.inr ⟨by simp [fault?, hParent, hKnown], _, attach_some hKnown, ?_⟩
        simp only [grown, hParent]
      · exact Or.inl ⟨.unknownElement parent, by simp [fault?, hParent, Nat.not_lt.mp hKnown],
          by simp [attach, modify, hKnown]⟩
  | none =>
      cases hRoot : document.root with
      | some root => exact Or.inl ⟨.rootAlreadySet root, by simp [fault?, hParent, hRoot], by simp [attach, hRoot]⟩
      | none =>
          refine Or.inr ⟨by simp [fault?, hParent, hRoot], { document with root := some document.elements.length },
            by simp [attach, hRoot], ?_⟩
          simp [grown, hParent]

/-- An insertion in place either fails and leaves the document as it was, or makes the whole change. -/
theorem perform_eq :
    request.perform.run document = match request.fault? document with
      | some fault => .error fault document
      | none => .ok document.elements.length (request.grown document) := by
  rcases attach_cases request document with ⟨fault, hFault, hAttach⟩ | ⟨hFault, attached, hAttach, hGrown⟩
  · simp [perform, hAttach, hFault]
  · simp [perform, hAttach, hFault, hGrown, -bind_pure_comp]

theorem insert_eq :
    document.insert request.parent request.element = match request.fault? document with
      | some fault => .error fault
      | none => .ok (document.elements.length, request.grown document) := by
  rcases attach_cases request document with ⟨fault, hFault, hAttach⟩ | ⟨hFault, attached, hAttach, hGrown⟩
  · rw [insert, hAttach, hFault]
    rfl
  · rw [insert, hAttach, hFault, ← hGrown]
    rfl

theorem fault?_eq_some_iff (fault : ChangeError) :
    request.fault? document = some fault ↔ request.Refused document fault := by
  constructor
  · intro hFault
    unfold fault? at hFault
    split at hFault
    · rename_i parent hParent
      split at hFault
      · rename_i hRange
        cases hFault
        exact .unknownParent hParent hRange
      · cases hFault
    · rename_i hParent
      obtain ⟨root, hRoot, rfl⟩ := Option.map_eq_some_iff.mp hFault
      exact .secondRoot hParent hRoot
  · intro hRefused
    cases hRefused with
    | unknownParent hParent hRange => simp [fault?, hParent, hRange]
    | secondRoot hParent hRoot => simp [fault?, hParent, hRoot]

variable {request document}

theorem parent_lt (hFault : request.fault? document = none) {parent : Nat} (hParent : request.parent = some parent) :
    parent < document.elements.length := by
  simpa [fault?, hParent] using hFault

theorem root_eq_none (hFault : request.fault? document = none) (hParent : request.parent = none) :
    document.root = none := by
  simpa [fault?, hParent] using hFault

/-- The document that the insertion leaves. -/
def after (request : Insertion) (document : Document) : Document :=
  match request.perform.run document with
  | .ok _ left => left
  | .error _ left => left

/-- The document that the insertions leave one after the other, whether or not they succeed. -/
def afterAll (requests : List Insertion) (document : Document) : Document :=
  requests.foldl (fun document request => request.after document) document

end Insertion

/-- The element stands at its place, and its links lead to its parent and its children and back. -/
structure Element.Linked (document : Document) (place : Nat) (element : Element) : Prop where
  id : element.id = place
  attributes : ∀ attr ∈ element.attributes, attr.owner = place
  root : element.parent = none ↔ place = 0
  /-- The parent comes before the element and refers to it once. -/
  parent : ∀ up, element.parent = some up → up < place ∧
    ∃ around, document.elements[up]? = some around ∧ around.subElements.count place = 1
  /-- No element but the parent refers to the element. -/
  onlyParent : ∀ other around, document.elements[other]? = some around → place ∈ around.subElements →
    element.parent = some other
  increasing : element.subElements.Pairwise (· < ·)
  subElements : ∀ sub ∈ element.subElements,
    ∃ child, document.elements[sub]? = some child ∧ child.parent = some place

/-- The elements form one tree, and the first of them is its root. -/
structure IsTree (document : Document) : Prop where
  root : document.elements ≠ [] → document.root = some 0
  noRoot : document.elements = [] → document.root = none
  elements : ∀ (place : Nat) (element : Element), document.elements[place]? = some element →
    element.Linked document place

namespace IsTree

variable {document : Document}

theorem empty (span : Span) : (Document.empty span).IsTree :=
  ⟨fun hElements => absurd rfl hElements, fun _ => rfl, fun _ _ hElement => (nomatch hElement)⟩

/-- References lead to elements of the document. -/
theorem lt_of_mem_subElements (h : document.IsTree) {place sub : Nat} {element : Element}
    (hElement : document.elements[place]? = some element) (hSub : sub ∈ element.subElements) :
    sub < document.elements.length := by
  obtain ⟨child, hChild, _⟩ := (h.elements place element hElement).subElements sub hSub
  exact (List.getElem?_eq_some_iff.mp hChild).1

/-- No element refers to the identifier that comes next. -/
theorem length_not_mem_subElements (h : document.IsTree) {place : Nat} {element : Element}
    (hElement : document.elements[place]? = some element) : document.elements.length ∉ element.subElements :=
  fun hMem => Nat.lt_irrefl _ (h.lt_of_mem_subElements hElement hMem)

end IsTree

namespace Insertion

variable {request : Insertion} {document : Document}

/-- An element of the document before, as it stands in the one that has grown. -/
def renewed (request : Insertion) (document : Document) (place : Nat) (element : Element) : Element :=
  if request.parent = some place then element.addSubElements [document.elements.length] else element

theorem length_grown (request : Insertion) (document : Document) :
    (request.grown document).elements.length = document.elements.length + 1 := by
  unfold grown
  split <;> simp

theorem getElem?_grown_of_lt {place : Nat} (hPlace : place < document.elements.length) :
    (request.grown document).elements[place]? =
      document.elements[place]?.map (request.renewed document place) := by
  cases hParent : request.parent with
  | some parent =>
      simp only [grown, hParent]
      rw [List.getElem?_append_left (by rwa [List.length_modify]), List.getElem?_modify]
      cases document.elements[place]? <;> simp [renewed, hParent]
  | none =>
      simp only [grown, hParent]
      rw [List.getElem?_append_left hPlace]
      cases document.elements[place]? <;> simp [renewed, hParent]

theorem getElem?_grown_length :
    (request.grown document).elements[document.elements.length]? =
      some (request.placed document.elements.length) := by
  unfold grown
  split <;> simp

/-- Elements keep their places, and the new one comes behind them. -/
theorem getElem?_grown_iff {place : Nat} {element : Element} :
    (request.grown document).elements[place]? = some element ↔
      (∃ before, document.elements[place]? = some before ∧ request.renewed document place before = element) ∨
      (place = document.elements.length ∧ request.placed document.elements.length = element) := by
  rcases Nat.lt_trichotomy place document.elements.length with hLt | rfl | hGt
  · rw [getElem?_grown_of_lt hLt, Option.map_eq_some_iff]
    simp [hLt.ne]
  · rw [getElem?_grown_length]
    simp
  · have hNone : (request.grown document).elements[place]? = none :=
      List.getElem?_eq_none (by rw [length_grown]; exact hGt)
    rw [hNone]
    simp [hGt.ne', hGt.le]

theorem renewed_id (request : Insertion) (document : Document) (place : Nat) (before : Element) :
    (request.renewed document place before).id = before.id := by
  unfold renewed
  split <;> rfl

theorem renewed_parent (request : Insertion) (document : Document) (place : Nat) (before : Element) :
    (request.renewed document place before).parent = before.parent := by
  unfold renewed
  split <;> rfl

theorem renewed_attributes (request : Insertion) (document : Document) (place : Nat) (before : Element) :
    (request.renewed document place before).attributes = before.attributes := by
  unfold renewed
  split <;> rfl

/-- Only the parent refers to one more element. -/
theorem renewed_subElements (place : Nat) (before : Element) :
    (request.renewed document place before).subElements =
      before.subElements ++ if request.parent = some place then [document.elements.length] else [] := by
  unfold renewed
  split
  · rfl
  · exact (List.append_nil _).symm

theorem mem_renewed_subElements_iff (place sub : Nat) (before : Element) :
    sub ∈ (request.renewed document place before).subElements ↔
      sub ∈ before.subElements ∨ (request.parent = some place ∧ sub = document.elements.length) := by
  rw [renewed_subElements, List.mem_append]
  split
  · rename_i hParent
    simp [hParent]
  · rename_i hParent
    simp [hParent]

/-- An element of a tree keeps its links when the tree grows. -/
theorem linked_renewed (h : document.IsTree) {place : Nat} {before : Element}
    (hBefore : document.elements[place]? = some before) :
    (request.renewed document place before).Linked (request.grown document) place where
  id := (renewed_id ..).trans (h.elements place before hBefore).id
  attributes := by
    rw [renewed_attributes]
    exact (h.elements place before hBefore).attributes
  root := by
    rw [renewed_parent]
    exact (h.elements place before hBefore).root
  parent := by
    intro up hParent
    rw [renewed_parent] at hParent
    obtain ⟨hLt, around, hAround, hCount⟩ := (h.elements place before hBefore).parent up hParent
    have hPlace := (List.getElem?_eq_some_iff.mp hBefore).1
    refine ⟨hLt, _, getElem?_grown_iff.mpr (Or.inl ⟨around, hAround, rfl⟩), ?_⟩
    rw [renewed_subElements, List.count_append, hCount]
    split
    · simp [hPlace.ne']
    · rfl
  onlyParent := by
    intro other around hAround hMem
    have hPlace := (List.getElem?_eq_some_iff.mp hBefore).1
    rw [renewed_parent]
    rcases getElem?_grown_iff.mp hAround with ⟨earlier, hEarlier, rfl⟩ | ⟨rfl, rfl⟩
    · rcases (mem_renewed_subElements_iff ..).mp hMem with hMem | ⟨_, hNew⟩
      · exact (h.elements place before hBefore).onlyParent other earlier hEarlier hMem
      · exact absurd hNew hPlace.ne
    · rw [placed_subElements] at hMem
      cases hMem
  increasing := by
    rw [renewed_subElements, List.pairwise_append]
    refine ⟨(h.elements place before hBefore).increasing, ?_, ?_⟩
    · split
      · exact List.pairwise_singleton _ _
      · exact List.Pairwise.nil
    · intro sub hSub new hNew
      have hOld := h.lt_of_mem_subElements hBefore hSub
      split at hNew
      · rwa [List.mem_singleton.mp hNew]
      · cases hNew
  subElements := by
    intro sub hSub
    rcases (mem_renewed_subElements_iff ..).mp hSub with hSub | ⟨hParent, rfl⟩
    · obtain ⟨child, hChild, hUp⟩ := (h.elements place before hBefore).subElements sub hSub
      exact ⟨_, getElem?_grown_iff.mpr (Or.inl ⟨child, hChild, rfl⟩), (renewed_parent ..).trans hUp⟩
    · exact ⟨_, getElem?_grown_length, hParent⟩

/-- The new element is linked to the parent it was inserted under. -/
theorem linked_placed (h : document.IsTree) (hFault : request.fault? document = none) :
    (request.placed document.elements.length).Linked (request.grown document) document.elements.length where
  id := rfl
  attributes := by
    intro attr hAttr
    obtain ⟨_, _, rfl⟩ := List.mem_map.mp hAttr
    rfl
  root := by
    rw [placed_parent]
    constructor
    · intro hParent
      by_contra hLength
      have hFirst := h.root (List.ne_nil_of_length_pos (Nat.pos_of_ne_zero hLength))
      rw [root_eq_none hFault hParent] at hFirst
      cases hFirst
    · intro hLength
      rw [Option.eq_none_iff_forall_ne_some]
      intro parent hParent
      have hLt := parent_lt hFault hParent
      omega
  parent := by
    intro up hParent
    rw [placed_parent] at hParent
    have hLt := parent_lt hFault hParent
    have hAround := List.getElem?_eq_getElem hLt
    refine ⟨hLt, _, getElem?_grown_iff.mpr (Or.inl ⟨_, hAround, rfl⟩), ?_⟩
    rw [renewed_subElements, List.count_append, if_pos hParent, List.count_singleton_self,
      List.count_eq_zero_of_not_mem (h.length_not_mem_subElements hAround)]
  onlyParent := by
    intro other around hAround hMem
    rcases getElem?_grown_iff.mp hAround with ⟨earlier, hEarlier, rfl⟩ | ⟨rfl, rfl⟩
    · rcases (mem_renewed_subElements_iff ..).mp hMem with hMem | ⟨hParent, _⟩
      · exact absurd hMem (h.length_not_mem_subElements hEarlier)
      · exact hParent
    · rw [placed_subElements] at hMem
      cases hMem
  increasing := by
    rw [placed_subElements]
    exact List.Pairwise.nil
  subElements := by
    intro sub hSub
    rw [placed_subElements] at hSub
    cases hSub

/-- A tree that grows stays a tree. -/
theorem isTree_grown (h : document.IsTree) (hFault : request.fault? document = none) :
    (request.grown document).IsTree where
  root := by
    intro _
    cases hParent : request.parent with
    | some parent =>
        have hKnown := parent_lt hFault hParent
        have hRoot := h.root (List.ne_nil_of_length_pos (Nat.zero_lt_of_lt hKnown))
        simpa only [grown, hParent] using hRoot
    | none =>
        have hFirst := (linked_placed h hFault).root.mp hParent
        simp only [grown, hParent, hFirst]
  noRoot := by
    intro hEmpty
    have hLength := length_grown request document
    rw [hEmpty] at hLength
    cases hLength
  elements := by
    intro place element hElement
    rcases getElem?_grown_iff.mp hElement with ⟨before, hBefore, rfl⟩ | ⟨rfl, rfl⟩
    · exact linked_renewed h hBefore
    · exact linked_placed h hFault

/-- What one insertion leaves: the same document, or the one that has grown. -/
theorem after_eq : request.after document =
    if request.fault? document = none then request.grown document else document := by
  rw [after, perform_eq]
  cases request.fault? document <;> rfl

theorem isTree_after (h : document.IsTree) : (request.after document).IsTree := by
  rw [after_eq]
  split
  · rename_i hFault
    exact isTree_grown h hFault
  · exact h

theorem isTree_afterAll (requests : List Insertion) (h : document.IsTree) :
    (afterAll requests document).IsTree := by
  induction requests generalizing document with
  | nil => exact h
  | cons request rest ih => exact ih (isTree_after h)

end Insertion

/-- Whatever is inserted into a new document, successfully or not, its elements form a tree. An insertion fails
exactly if its parent is not there or if it asks for a second root, and then changes nothing; otherwise it adds one
element and one reference to it. -/
theorem insertions_form_tree (span : Span) (requests : List Insertion) :
    (default : Document) = empty default ∧
    (Insertion.afterAll requests (empty span)).IsTree ∧
    ∀ (document : Document) (request : Insertion),
      (∀ fault left, request.perform.run document = .error fault left ↔
        request.Refused document fault ∧ left = document) ∧
      (∀ id left, request.perform.run document = .ok id left ↔
        (∀ fault, ¬ request.Refused document fault) ∧ id = document.elements.length ∧
          left = request.grown document) ∧
      document.insert request.parent request.element = match request.perform.run document with
        | .ok id left => .ok (id, left)
        | .error fault _ => .error fault := by
  refine ⟨rfl, Insertion.isTree_afterAll requests (IsTree.empty span), ?_⟩
  intro document request
  rw [Insertion.insert_eq, Insertion.perform_eq]
  simp only [← Insertion.fault?_eq_some_iff]
  cases request.fault? document with
  | some fault => simp [eq_comm]
  | none => simp [eq_comm]

end ContentAssist.Document
