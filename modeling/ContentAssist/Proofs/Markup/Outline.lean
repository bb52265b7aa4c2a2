import ContentAssist.Markup.Tree

/-! The elements of a concrete tree, each at the end of a path of child numbers. The path says which element is
meant even where two elements look alike; its length is the depth of the element, and one path continues
another exactly if the second element stands around the first. -/
namespace ContentAssist.Markup

namespace Element

/-- The parts of the content; an element without content has none. -/
def parts (element : Element) : List ContentPart :=
  (element.content.map Content.parts).getD []

/-- The child elements in order. -/
def children (element : Element) : List Element :=
  element.parts.filterMap ContentPart.element?

/-- The runs of text in order. -/
def runs (element : Element) : List CharacterData :=
  element.parts.filterMap ContentPart.text?

theorem mem_children_iff (element child : Element) :
    child ∈ element.children ↔ ContentPart.element child ∈ element.parts := by
  simp only [children, List.mem_filterMap]
  constructor
  · rintro ⟨part, hPart, hChild⟩
    cases part <;> simp_all [ContentPart.element?]
  · intro hPart
    exact ⟨_, hPart, rfl⟩

theorem sizeOf_lt_of_mem_children {element child : Element} (hChild : child ∈ element.children) :
    sizeOf child < sizeOf element := by
  rw [mem_children_iff] at hChild
  obtain ⟨_, _, _, _, content, _, _, _, _, _⟩ := element
  cases content with
  | none => cases hChild
  | some content =>
      obtain ⟨parts, span⟩ := content
      have hPart := List.sizeOf_lt_of_mem (show ContentPart.element child ∈ parts from hChild)
      simp only [ContentPart.element.sizeOf_spec] at hPart
      simp only [Element.mk.sizeOf_spec, Content.mk.sizeOf_spec, Option.some.sizeOf_spec]
      omega

/-- Induction over the elements of a tree: what holds of an element whenever it holds of its children holds of
every element. -/
@[elab_as_elim]
theorem inductionOnChildren {motive : Element → Prop}
    (step : ∀ element : Element, (∀ child ∈ element.children, motive child) → motive element)
    (element : Element) : motive element :=
  step element fun child _hChild => inductionOnChildren step child
termination_by sizeOf element
decreasing_by exact sizeOf_lt_of_mem_children _hChild

/-- The element at the end of a path, each step of which is the number of a child. -/
def at? : List Nat → Element → Option Element
  | [], element => some element
  | index :: path, element => element.children[index]?.bind (at? path)

@[simp] theorem at?_nil (element : Element) : element.at? [] = some element := rfl

theorem at?_append (element : Element) (first second : List Nat) :
    element.at? (first ++ second) = (element.at? first).bind (at? second) := by
  induction first generalizing element with
  | nil => rfl
  | cons index path ih =>
      simp only [List.cons_append, at?]
      cases element.children[index]? with
      | none => rfl
      | some child => exact ih child

/-- A property that passes from every element to its children passes to the end of every path. -/
theorem holds_at {P : Element → Prop} (hDown : ∀ element, P element → ∀ child ∈ element.children, P child)
    {element found : Element} {path : List Nat} (hStart : P element)
    (hAt : element.at? path = some found) : P found := by
  induction path generalizing element with
  | nil =>
      cases hAt
      exact hStart
  | cons index path ih =>
      obtain ⟨child, hChild, hRest⟩ := Option.bind_eq_some_iff.mp hAt
      exact ih (hDown element hStart child (List.mem_of_getElem? hChild)) hRest

mutual

/-- The element and all elements inside it, every one before those inside it, with their paths. The element
itself is at the end of `path`. -/
def outline (path : List Nat) : Element → List (List Nat × Element)
  | ⟨openAngle, name, attributes, startClose, content, slashOpen, endName, close, slashClose, span⟩ =>
    (path, ⟨openAngle, name, attributes, startClose, content, slashOpen, endName, close, slashClose, span⟩)
      :: match content with
        | some content => outlineContent path content
        | none => []

def outlineContent (path : List Nat) : Content → List (List Nat × Element)
  | ⟨parts, _⟩ => outlineParts path 0 parts

def outlineParts (path : List Nat) (index : Nat) : List ContentPart → List (List Nat × Element)
  | [] => []
  | part :: rest =>
    outlinePart (path ++ [index]) part
      ++ outlineParts path (if part.element?.isSome then index + 1 else index) rest

def outlinePart (path : List Nat) : ContentPart → List (List Nat × Element)
  | .element child => outline path child
  | _ => []

end

/-- The outlines of sibling elements, the first of which has the number `index`. -/
def outlines (path : List Nat) (index : Nat) : List Element → List (List Nat × Element)
  | [] => []
  | child :: rest => child.outline (path ++ [index]) ++ outlines path (index + 1) rest

theorem outlineParts_eq (path : List Nat) (index : Nat) (parts : List ContentPart) :
    outlineParts path index parts = outlines path index (parts.filterMap ContentPart.element?) := by
  induction parts generalizing index with
  | nil => rfl
  | cons part rest ih =>
      cases part <;> simp [outlineParts, outlinePart, outlines, ContentPart.element?, List.filterMap_cons, ih]

theorem outline_eq (path : List Nat) (element : Element) :
    element.outline path = (path, element) :: outlines path 0 element.children := by
  obtain ⟨_, _, _, _, content, _, _, _, _, _⟩ := element
  cases content with
  | none => rfl
  | some content =>
      obtain ⟨parts, _⟩ := content
      simp only [outline, outlineContent, outlineParts_eq]
      rfl

theorem mem_outlines_iff (path : List Nat) (index : Nat) (siblings : List Element)
    (entry : List Nat × Element) :
    entry ∈ outlines path index siblings ↔
      ∃ (number : Nat) (child : Element), siblings[number]? = some child ∧
        entry ∈ child.outline (path ++ [index + number]) := by
  induction siblings generalizing index with
  | nil => simp [outlines]
  | cons first rest ih =>
      simp only [outlines, List.mem_append, ih]
      constructor
      · rintro (hFirst | ⟨number, child, hChild, hEntry⟩)
        · exact ⟨0, first, rfl, hFirst⟩
        · exact ⟨number + 1, child, hChild, by rwa [Nat.add_right_comm] at hEntry⟩
      · rintro ⟨number, child, hChild, hEntry⟩
        cases number with
        | zero =>
            cases hChild
            exact Or.inl hEntry
        | succ number =>
            exact Or.inr ⟨number, child, hChild, by rwa [Nat.add_right_comm]⟩

/-- The outline lists exactly the elements at the ends of paths. -/
theorem mem_outline_iff (path : List Nat) (element found : Element) (place : List Nat) :
    (place, found) ∈ element.outline path ↔
      ∃ inner, place = path ++ inner ∧ element.at? inner = some found := by
  induction element using inductionOnChildren generalizing path with
  | step element ih =>
      rw [outline_eq, List.mem_cons, mem_outlines_iff]
      constructor
      · rintro (hHere | ⟨number, child, hChild, hEntry⟩)
        · cases hHere
          exact ⟨[], by simp, rfl⟩
        · obtain ⟨inner, hPlace, hAt⟩ := (ih child (List.mem_of_getElem? hChild) _).mp hEntry
          refine ⟨number :: inner, by simpa using hPlace, ?_⟩
          simpa [at?, hChild] using hAt
      · rintro ⟨inner, hPlace, hAt⟩
        cases inner with
        | nil =>
            cases hAt
            exact Or.inl (by simpa using hPlace)
        | cons number inner =>
            obtain ⟨child, hChild, hRest⟩ := Option.bind_eq_some_iff.mp hAt
            refine Or.inr ⟨number, child, hChild, ?_⟩
            rw [ih child (List.mem_of_getElem? hChild)]
            exact ⟨inner, by simpa using hPlace, hRest⟩

private theorem outlines_eq_map (path inner : List Nat) (index : Nat) (siblings : List Element)
    (hEach : ∀ child ∈ siblings, ∀ path, child.outline path =
      (child.outline []).map fun entry => (path ++ entry.1, entry.2)) :
    outlines (path ++ inner) index siblings =
      (outlines inner index siblings).map fun entry => (path ++ entry.1, entry.2) := by
  induction siblings generalizing index with
  | nil => rfl
  | cons first rest ih =>
      have hFirst := hEach first (List.mem_cons_self ..)
      simp only [outlines, List.map_append, ih _ fun child hChild => hEach child (List.mem_cons_of_mem _ hChild)]
      rw [hFirst (path ++ inner ++ [index]), hFirst (inner ++ [index]), List.map_map]
      simp [Function.comp_def]

/-- A path in front of an outline comes in front of all its paths. -/
theorem outline_eq_map (path : List Nat) (element : Element) :
    element.outline path = (element.outline []).map fun entry => (path ++ entry.1, entry.2) := by
  induction element using inductionOnChildren generalizing path with
  | step element ih =>
      have hInner := outlines_eq_map path [] 0 element.children fun child hChild path => ih child hChild path
      rw [outline_eq, outline_eq, List.map_cons, ← hInner]
      simp

/-- How many elements there are, the element itself and all elements inside it. -/
def size (element : Element) : Nat :=
  (element.outline []).length

/-- How many elements the first siblings and the elements inside them are. -/
def sizeBefore : List Element → Nat → Nat
  | first :: rest, index + 1 => first.size + sizeBefore rest index
  | _, _ => 0

/-- The place in the outline of the element at the end of a path. -/
def number : List Nat → Element → Nat
  | [], _ => 0
  | index :: path, element => match element.children[index]? with
    | some child => 1 + sizeBefore element.children index + number path child
    | none => 0

@[simp] theorem sizeBefore_zero (siblings : List Element) : sizeBefore siblings 0 = 0 := by
  cases siblings <;> rfl

/-- One more sibling adds its size. -/
theorem sizeBefore_succ {siblings : List Element} {index : Nat} {child : Element}
    (hChild : siblings[index]? = some child) :
    sizeBefore siblings (index + 1) = sizeBefore siblings index + child.size := by
  induction siblings generalizing index with
  | nil => cases hChild
  | cons first rest ih =>
      cases index with
      | zero =>
          cases hChild
          simp [sizeBefore]
      | succ index =>
          rw [sizeBefore, ih hChild, sizeBefore, Nat.add_assoc]

@[simp] theorem number_nil (element : Element) : element.number [] = 0 := rfl

/-- The elements inside an element are counted on from its number. -/
theorem number_append {element middle : Element} {first : List Nat} (hAt : element.at? first = some middle)
    (second : List Nat) : element.number (first ++ second) = element.number first + middle.number second := by
  induction first generalizing element with
  | nil =>
      cases hAt
      rw [List.nil_append, number_nil, Nat.zero_add]
  | cons index first ih =>
      obtain ⟨child, hChild, hDown⟩ := Option.bind_eq_some_iff.mp hAt
      simp only [List.cons_append, number, hChild, ih hDown, Nat.add_assoc]

theorem length_outline (path : List Nat) (element : Element) : (element.outline path).length = element.size := by
  rw [outline_eq_map, List.length_map, size]

theorem getElem?_outlines {path : List Nat} {index number : Nat} {siblings : List Element} {child : Element}
    (hChild : siblings[number]? = some child) (place : Nat) (hPlace : place < child.size) :
    (outlines path index siblings)[sizeBefore siblings number + place]? =
      (child.outline (path ++ [index + number]))[place]? := by
  induction siblings generalizing index number with
  | nil => cases hChild
  | cons first rest ih =>
      cases number with
      | zero =>
          cases hChild
          rw [← length_outline (path ++ [index])] at hPlace
          simp [outlines, List.getElem?_append_left hPlace]
      | succ number =>
          have hLater : sizeBefore (first :: rest) (number + 1) + place =
              (first.outline (path ++ [index])).length + (sizeBefore rest number + place) := by
            rw [length_outline, sizeBefore, Nat.add_assoc]
          rw [hLater, outlines, List.getElem?_append_right (Nat.le_add_right _ _), Nat.add_sub_cancel_left,
            ih hChild, Nat.add_right_comm, Nat.add_assoc]

theorem exists_of_getElem?_outlines {path : List Nat} {index place : Nat} {siblings : List Element}
    {entry : List Nat × Element} (hEntry : (outlines path index siblings)[place]? = some entry) :
    ∃ (number inner : Nat) (child : Element), siblings[number]? = some child ∧
      place = sizeBefore siblings number + inner ∧
      (child.outline (path ++ [index + number]))[inner]? = some entry := by
  induction siblings generalizing index place with
  | nil => cases hEntry
  | cons first rest ih =>
      rw [outlines, List.getElem?_append] at hEntry
      split at hEntry
      · exact ⟨0, place, first, rfl, by simp, hEntry⟩
      · rename_i hLater
        obtain ⟨number, inner, child, hChild, hPlace, hFound⟩ := ih hEntry
        refine ⟨number + 1, inner, child, hChild, ?_, by rwa [Nat.add_right_comm] at hFound⟩
        rw [length_outline] at hPlace hLater
        rw [sizeBefore]
        omega

/-- An element stands in the outline at the number of its path. -/
theorem getElem?_outline_number {element found : Element} {path : List Nat}
    (hAt : element.at? path = some found) (before : List Nat) :
    (element.outline before)[number path element]? = some (before ++ path, found) := by
  induction path generalizing element before with
  | nil =>
      cases hAt
      rw [outline_eq, List.append_nil]
      rfl
  | cons index path ih =>
      obtain ⟨child, hChild, hRest⟩ := Option.bind_eq_some_iff.mp hAt
      have hInner := ih hRest (before ++ [0 + index])
      have hLt : number path child < child.size := by
        rw [← length_outline (before ++ [0 + index])]
        exact (List.getElem?_eq_some_iff.mp hInner).1
      have hNumber : number (index :: path) element = sizeBefore element.children index + number path child + 1 := by
        simp only [number, hChild]
        omega
      rw [outline_eq, hNumber, List.getElem?_cons_succ, getElem?_outlines hChild _ hLt, hInner]
      simp

/-- No path comes twice in an outline: each stands at its own number. -/
theorem number_eq_of_getElem?_outline {element found : Element} {path : List Nat} {place : Nat}
    (hEntry : (element.outline [])[place]? = some (path, found)) : number path element = place := by
  induction element using inductionOnChildren generalizing path place with
  | step element ih =>
      rw [outline_eq] at hEntry
      cases place with
      | zero =>
          cases hEntry
          rfl
      | succ place =>
          obtain ⟨index, inner, child, hChild, hPlace, hFound⟩ := exists_of_getElem?_outlines hEntry
          rw [outline_eq_map, List.getElem?_map] at hFound
          obtain ⟨⟨rest, _⟩, hInner, hEq⟩ := Option.map_eq_some_iff.mp hFound
          cases hEq
          have hNumber := ih child (List.mem_of_getElem? hChild) hInner
          simp only [Nat.zero_add, List.nil_append, List.cons_append, number, hChild, hNumber]
          omega

end Element

namespace Tree

/-- The element at the end of a path from the root element. -/
def at? (tree : Tree) (path : List Nat) : Option Element :=
  tree.element.bind (Element.at? path)

/-- All elements in document order, with their paths. -/
def outline (tree : Tree) : List (List Nat × Element) :=
  match tree.element with
  | some element => element.outline []
  | none => []

/-- The place in the outline of the element at the end of a path. -/
def number (tree : Tree) (path : List Nat) : Nat :=
  match tree.element with
  | some element => element.number path
  | none => 0

theorem mem_outline_iff (tree : Tree) (path : List Nat) (found : Element) :
    (path, found) ∈ tree.outline ↔ tree.at? path = some found := by
  unfold outline at?
  cases tree.element with
  | none => simp
  | some element => simp [Element.mem_outline_iff]

theorem getElem?_outline_iff (tree : Tree) (path : List Nat) (found : Element) (place : Nat) :
    tree.outline[place]? = some (path, found) ↔ tree.at? path = some found ∧ tree.number path = place := by
  constructor
  · intro hEntry
    refine ⟨(mem_outline_iff ..).mp (List.mem_of_getElem? hEntry), ?_⟩
    unfold outline at hEntry
    unfold number
    cases hRoot : tree.element with
    | none => simp [hRoot] at hEntry
    | some element =>
        rw [hRoot] at hEntry
        exact Element.number_eq_of_getElem?_outline hEntry
  · rintro ⟨hAt, rfl⟩
    unfold at? at hAt
    unfold outline number
    cases hRoot : tree.element with
    | none => simp [hRoot] at hAt
    | some element =>
        rw [hRoot] at hAt
        exact Element.getElem?_outline_number hAt []

end Tree

end ContentAssist.Markup
