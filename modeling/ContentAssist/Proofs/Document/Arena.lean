import ContentAssist.Document.OfTree
import ContentAssist.Proofs.Markup.Outline
import Mathlib.Order.Nat

/-! The elements that a concrete tree leaves in a document. They stand in the order of the outline, and every
link between two of them is the number of a path: to the sub-elements the paths that are one step longer, to the
parent the path without its last step. -/
namespace ContentAssist.Document

/-- Insert sibling elements under the same parent. -/
def insertChildren (document : Document) (parent : Nat) : List Markup.Element → Except ChangeError Document
  | [] => return document
  | child :: rest => do
    let document ← insertMarkup document (some parent) child
    insertChildren document parent rest

theorem insertParts_eq (document : Document) (parent : Nat) (parts : List Markup.ContentPart) :
    insertParts document parent parts =
      insertChildren document parent (parts.filterMap Markup.ContentPart.element?) := by
  induction parts generalizing document with
  | nil => rfl
  | cons part rest ih =>
      cases part with
      | element child =>
          simp only [insertParts, insertPart, Markup.ContentPart.element?, List.filterMap_cons, insertChildren, ih]
      | _ => exact ih document

theorem insertMarkup_eq (document : Document) (parent : Option Nat) (markup : Markup.Element) :
    insertMarkup document parent markup =
      (document.insert parent (Element.ofMarkup markup) >>= fun placed =>
        insertChildren placed.2 placed.1 markup.children) := by
  obtain ⟨_, _, _, _, content, _, _, _, _, _⟩ := markup
  cases content with
  | none => rfl
  | some content =>
      obtain ⟨parts, _⟩ := content
      simp only [insertMarkup, insertContent, insertParts_eq]
      rfl

/-- The element that a path leads to, as it stands in the document. The element that the path starts from has
the number `base` and the parent `above`. -/
def row (base : Nat) (above : Option Nat) (top : Markup.Element) (path : List Nat) (markup : Markup.Element) :
    Element :=
  { Element.ofMarkup markup with
    id := base + top.number path
    parent := match path with
      | [] => above
      | _ :: _ => some (base + top.number path.dropLast)
    attributes := (Element.ofMarkup markup).attributes.map fun attr =>
      { attr with owner := base + top.number path }
    subElements := (List.range markup.children.length).map fun index => base + top.number (path ++ [index]) }

def rows (base : Nat) (above : Option Nat) (top : Markup.Element) : List Element :=
  (top.outline []).map fun entry => row base above top entry.1 entry.2

/-- The rows of sibling elements, the first of which has the number `next`. -/
def siblingRows (next parent : Nat) : List Markup.Element → List Element
  | [] => []
  | child :: rest => rows next (some parent) child ++ siblingRows (next + child.size) parent rest

def siblingNumbers (next : Nat) : List Markup.Element → List Nat
  | [] => []
  | child :: rest => next :: siblingNumbers (next + child.size) rest

theorem length_rows (base : Nat) (above : Option Nat) (top : Markup.Element) :
    (rows base above top).length = top.size := by
  rw [rows, List.length_map, Markup.Element.length_outline]

/-- Below a child, numbers are counted from the child on. -/
theorem row_child {base index : Nat} {top child : Markup.Element} (above : Option Nat)
    (hChild : top.children[index]? = some child) (path : List Nat) (markup : Markup.Element) :
    row base above top (index :: path) markup =
      row (base + 1 + Markup.Element.sizeBefore top.children index) (some base) child path markup := by
  have hNumber : ∀ inner, base + top.number (index :: inner) =
      base + 1 + Markup.Element.sizeBefore top.children index + child.number inner := by
    intro inner
    simp only [Markup.Element.number, hChild]
    omega
  cases path with
  | nil => simp only [row, List.cons_append, hNumber, List.dropLast_singleton, Markup.Element.number_nil, Nat.add_zero]
  | cons step path => simp only [row, List.cons_append, hNumber, List.dropLast_cons_cons]

/-- Passing the first of the siblings that are left. -/
theorem children_step {index : Nat} {top child : Markup.Element} {rest : List Markup.Element}
    (hRest : top.children.drop index = child :: rest) :
    top.children[index]? = some child ∧ top.children.drop (index + 1) = rest ∧
      Markup.Element.sizeBefore top.children (index + 1) =
        Markup.Element.sizeBefore top.children index + child.size := by
  have hChild : top.children[index]? = some child := by
    rw [← List.head?_drop, hRest, List.head?_cons]
  refine ⟨hChild, ?_, ?_⟩
  · rw [← List.tail_drop, hRest, List.tail_cons]
  · exact Markup.Element.sizeBefore_succ hChild

theorem map_row_outlines (base : Nat) (above : Option Nat) (top : Markup.Element) (index : Nat) :
    (Markup.Element.outlines [] index (top.children.drop index)).map
        (fun entry => row base above top entry.1 entry.2) =
      siblingRows (base + 1 + Markup.Element.sizeBefore top.children index) base (top.children.drop index) := by
  induction hRest : top.children.drop index generalizing index with
  | nil => rfl
  | cons child rest ih =>
      obtain ⟨hChild, hAfter, hBefore⟩ := children_step hRest
      rw [Markup.Element.outlines, siblingRows, List.map_append, ih (index + 1) hAfter, hBefore, ← Nat.add_assoc,
        Markup.Element.outline_eq_map, List.map_map, rows]
      congr 1
      apply List.map_congr_left
      intro entry _
      exact row_child above hChild entry.1 entry.2

theorem rows_eq (base : Nat) (above : Option Nat) (top : Markup.Element) :
    rows base above top = row base above top [] top :: siblingRows (base + 1) base top.children := by
  have hSiblings := map_row_outlines base above top 0
  rw [List.drop_zero, Markup.Element.sizeBefore_zero, Nat.add_zero] at hSiblings
  rw [rows, Markup.Element.outline_eq, List.map_cons, hSiblings]

theorem siblingNumbers_eq (base : Nat) (top : Markup.Element) :
    siblingNumbers (base + 1) top.children =
      (List.range top.children.length).map fun index => base + top.number [index] := by
  have hFrom : ∀ index, siblingNumbers (base + 1 + Markup.Element.sizeBefore top.children index)
      (top.children.drop index) =
        (List.range' index (top.children.length - index)).map fun index => base + top.number [index] := by
    intro index
    induction hRest : top.children.drop index generalizing index with
    | nil =>
        have hLe := List.drop_eq_nil_iff.mp hRest
        rw [Nat.sub_eq_zero_of_le hLe]
        rfl
    | cons child rest ih =>
        obtain ⟨hChild, hAfter, hBefore⟩ := children_step hRest
        have hLt := (List.getElem?_eq_some_iff.mp hChild).1
        have hLength : top.children.length - index = (top.children.length - (index + 1)) + 1 := by omega
        rw [siblingNumbers, hLength, List.range'_succ, List.map_cons, ← ih (index + 1) hAfter, hBefore]
        simp only [Markup.Element.number, hChild, Nat.add_zero, Nat.add_assoc]
  have hAll := hFrom 0
  rw [List.drop_zero, Markup.Element.sizeBefore_zero, Nat.add_zero, Nat.sub_zero, ← List.range_eq_range'] at hAll
  exact hAll

theorem attach_length {document attached : Document} {parent : Option Nat}
    (hAttach : document.attach parent = .ok attached) : attached.elements.length = document.elements.length := by
  unfold attach at hAttach
  split at hAttach
  · unfold modify at hAttach
    split at hAttach
    · cases hAttach
      exact List.length_modify ..
    · cases hAttach
  · split at hAttach
    · cases hAttach
    · cases hAttach
      rfl

theorem modify_append_of_lt {Item : Type} (change : Item → Item) (before rest : List Item) {place : Nat}
    (hPlace : place < before.length) :
    (before ++ rest).modify place change = before.modify place change ++ rest := by
  induction before generalizing place with
  | nil => cases hPlace
  | cons first before ih =>
      cases place with
      | zero => rfl
      | succ place => simp [ih (Nat.lt_of_succ_lt_succ hPlace)]

theorem modify_append_singleton {Item : Type} (change : Item → Item) (before : List Item) (item : Item) :
    (before ++ [item]).modify before.length change = before ++ [change item] := by
  induction before with
  | nil => rfl
  | cons first before ih => simpa using ih

/-- The element with more sub-elements behind those that it has. -/
def Element.addSubElements (numbers : List Nat) (element : Element) : Element :=
  { element with subElements := element.subElements ++ numbers }

theorem addSubElements_nil : Element.addSubElements [] = id := by
  funext element
  simp [Element.addSubElements]

theorem addSubElements_append (first second : List Nat) :
    Element.addSubElements second ∘ Element.addSubElements first = Element.addSubElements (first ++ second) := by
  funext element
  simp [Element.addSubElements]

theorem attach_some {document : Document} {parent : Nat} (hParent : parent < document.elements.length) :
    document.attach (some parent) = .ok { document with
      elements := document.elements.modify parent (Element.addSubElements [document.elements.length]) } := by
  simp only [attach, modify, if_pos hParent]
  rfl

/-- Inserting an element adds the rows of its tree behind the elements that are there already, once the
document is ready to refer to it. -/
def InsertsRows (markup : Markup.Element) : Prop :=
  ∀ (document attached : Document) (parent : Option Nat), document.attach parent = .ok attached →
    insertMarkup document parent markup =
      .ok { attached with elements := attached.elements ++ rows document.elements.length parent markup }

theorem insertChildren_ok (children : List Markup.Element) (hEach : ∀ child ∈ children, InsertsRows child)
    (document : Document) {parent : Nat} (hParent : parent < document.elements.length) :
    insertChildren document parent children = .ok { document with
      elements := document.elements.modify parent
          (Element.addSubElements (siblingNumbers document.elements.length children))
        ++ siblingRows document.elements.length parent children } := by
  induction children generalizing document with
  | nil =>
      rw [siblingNumbers, addSubElements_nil, List.modify_id, siblingRows, List.append_nil]
      rfl
  | cons child rest ih =>
      have hFirst := hEach child (List.mem_cons_self ..) document _ (some parent) (attach_some hParent)
      have hModified : parent < (document.elements.modify parent
          (Element.addSubElements [document.elements.length])).length := by
        rwa [List.length_modify]
      have hLength : (document.elements.modify parent (Element.addSubElements [document.elements.length])
          ++ rows document.elements.length (some parent) child).length = document.elements.length + child.size := by
        rw [List.length_append, List.length_modify, length_rows]
      have hRest := ih (fun child hChild => hEach child (List.mem_cons_of_mem _ hChild))
        ⟨document.root, _, document.span⟩ (hParent.trans_le ((Nat.le_add_right _ _).trans_eq hLength.symm))
      simp only [hLength, modify_append_of_lt _ _ _ hModified, List.modify_modify_eq, addSubElements_append]
        at hRest
      rw [insertChildren, hFirst]
      refine hRest.trans ?_
      simp only [siblingNumbers, siblingRows, List.append_assoc, List.cons_append, List.nil_append]

theorem insertMarkup_ok (markup : Markup.Element) : InsertsRows markup := by
  induction markup using Markup.Element.inductionOnChildren with
  | step markup ih =>
      intro document attached parent hAttach
      have hLength := attach_length hAttach
      let placed : Element := { Element.ofMarkup markup with
        id := document.elements.length
        parent := parent
        attributes := (Element.ofMarkup markup).attributes.map fun attr =>
          { attr with owner := document.elements.length } }
      have hGrown : document.elements.length < (attached.elements ++ [placed]).length := by
        rw [List.length_append, hLength]
        exact Nat.lt_succ_self _
      have hChildren := insertChildren_ok markup.children ih
        ⟨attached.root, attached.elements ++ [placed], attached.span⟩ hGrown
      rw [insertMarkup_eq, insert, hAttach]
      refine hChildren.trans ?_
      simp only [List.length_append, List.length_singleton, hLength]
      rw [← hLength, modify_append_singleton, rows_eq, siblingNumbers_eq, List.append_assoc, hLength]
      rfl

/-- The rows of the outline of a tree, the first of them the root. -/
def ofOutline (tree : Markup.Tree) : Document :=
  ⟨tree.element.map fun _ => 0,
    tree.outline.map fun entry => row 0 none (tree.element.getD default) entry.1 entry.2, tree.span⟩

/-- The document of a tree has one row for each element and can always be built. -/
theorem ofTree_eq (tree : Markup.Tree) : ofTree tree = .ok (ofOutline tree) := by
  unfold ofTree ofOutline Markup.Tree.outline
  cases tree.element with
  | none => rfl
  | some root => exact insertMarkup_ok root (empty tree.span) _ none rfl

end ContentAssist.Document
