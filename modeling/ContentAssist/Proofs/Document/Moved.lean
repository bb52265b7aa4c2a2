import ContentAssist.Proofs.Document.Alignment
import ContentAssist.Proofs.Markup.Moved

/-! The elements inside one element of a document stand together in its list, from the element itself on. They are
those of a document that has only this element, with all places in the text and all numbers moved by the same
distances; where that document has no parent for its root, this one has the element around. -/
namespace ContentAssist

def Excerpt.moved (distance : Nat) (excerpt : Excerpt) : Excerpt :=
  { excerpt with span := excerpt.span.moved distance }

namespace Document

def TagPlaces.moved (distance : Nat) (places : TagPlaces) : TagPlaces :=
  ⟨places.openName.map (Excerpt.moved distance), places.openBody.map (Span.moved distance),
    places.closeName.map (Excerpt.moved distance)⟩

def AttributePlaces.moved (distance : Nat) (places : AttributePlaces) : AttributePlaces :=
  ⟨places.key.map (Excerpt.moved distance), places.value.map (Excerpt.moved distance)⟩

def Text.moved (distance : Nat) (text : Text) : Text :=
  { text with span := text.span.moved distance }

/-- The attribute further to the right in the text, of an element with a higher number. -/
def Attribute.moved (distance first : Nat) (attr : Attribute) : Attribute :=
  { attr with
    span := attr.span.moved distance
    owner := attr.owner + first
    places := attr.places.moved distance }

/-- The element further to the right in the text, in a document where the former root has the number `first` and
the parent `above`. -/
def Element.moved (distance first : Nat) (above : Option Nat) (element : Element) : Element where
  id := element.id + first
  name := element.name
  attributes := element.attributes.map (Attribute.moved distance first)
  subElements := element.subElements.map (· + first)
  texts := element.texts.map (Text.moved distance)
  span := element.span.moved distance
  parent := match element.parent with
    | some parent => some (parent + first)
    | none => above
  places := element.places.moved distance

theorem Attribute.ofMarkup_moved (distance first : Nat) (attr : Markup.Attribute) (owner : Nat) :
    { Attribute.ofMarkup (attr.moved distance) with owner := owner + first } =
      Attribute.moved distance first { Attribute.ofMarkup attr with owner := owner } := by
  obtain ⟨name, _, string, _⟩ := attr
  cases name <;> cases string <;> rfl

theorem Text.ofMarkup_moved (distance : Nat) (run : Markup.CharacterData) :
    Text.ofMarkup (run.moved distance) = (Text.ofMarkup run).moved distance := by
  simp only [Text.ofMarkup, Markup.CharacterData.moved, List.map_map]
  rfl

theorem openBodyEnd_moved (distance : Nat) (markup : Markup.Element) :
    openBodyEnd (markup.moved distance) = openBodyEnd markup + distance := by
  rw [Markup.Element.moved_eq]
  simp only [openBodyEnd, List.getLast?_map]
  cases markup.startClose <;> cases markup.slashClose <;> cases markup.attributes.getLast? <;>
    cases markup.name <;> rfl

theorem TagPlaces.ofMarkup_moved (distance : Nat) (markup : Markup.Element) :
    (Element.ofMarkup (markup.moved distance)).places = (Element.ofMarkup markup).places.moved distance := by
  simp only [Element.ofMarkup, openBodyEnd_moved, TagPlaces.moved, Option.map_map]
  rw [Markup.Element.moved_eq]
  simp only [Option.map_map]
  rfl

/-- The row of a moved element. -/
theorem row_moved (distance first : Nat) (above : Option Nat) (top : Markup.Element) (path : List Nat)
    (markup : Markup.Element) :
    row first above (top.moved distance) path (markup.moved distance) =
      (row 0 none top path markup).moved distance first above := by
  have hTexts : (row first above (top.moved distance) path (markup.moved distance)).texts =
      (row 0 none top path markup).texts.map (Text.moved distance) := by
    rw [row_texts, row_texts, Markup.Element.runs_moved, List.map_map, List.map_map]
    exact List.map_congr_left fun run _ => Text.ofMarkup_moved distance run
  have hName : (Element.ofMarkup (markup.moved distance)).name = (Element.ofMarkup markup).name := by
    simp only [Element.ofMarkup, Markup.Element.moved_eq, Option.map_map]
    rfl
  have hAttributes : (row first above (top.moved distance) path (markup.moved distance)).attributes =
      (row 0 none top path markup).attributes.map (Attribute.moved distance first) := by
    simp only [row, Element.ofMarkup, Markup.Element.number_moved, List.map_map, Nat.zero_add, Nat.add_comm first]
    rw [Markup.Element.moved_eq, List.map_map]
    exact List.map_congr_left fun attr _ => Attribute.ofMarkup_moved distance first attr _
  simp only [Element.moved, ← hTexts, ← hAttributes]
  simp only [row, TagPlaces.ofMarkup_moved, hName, Markup.Element.number_moved, Markup.Element.children_moved,
    List.length_map, List.map_map, Element.mk.injEq, Nat.zero_add, true_and]
  refine ⟨Nat.add_comm .., ?_, ?_, ?_⟩
  · exact List.map_congr_left fun index _ => Nat.add_comm ..
  · exact Markup.Element.span_moved distance markup
  · cases path with
    | nil => exact ⟨rfl, trivial⟩
    | cons index path => exact ⟨congrArg some (Nat.add_comm ..), trivial⟩

theorem rows_moved (distance first : Nat) (above : Option Nat) (top : Markup.Element) :
    rows first above (top.moved distance) = (rows 0 none top).map (Element.moved distance first above) := by
  rw [rows, Markup.Element.outline_moved, rows, List.map_map, List.map_map]
  exact List.map_congr_left fun entry _ => row_moved distance first above top entry.1 entry.2

/-- The rows of a child stand together among those of its siblings. -/
theorem exists_siblingRows_split {siblings : List Markup.Element} {index : Nat} {child : Markup.Element}
    (hChild : siblings[index]? = some child) (next parent : Nat) :
    ∃ before after, before.length = Markup.Element.sizeBefore siblings index ∧
      siblingRows next parent siblings =
        before ++ rows (next + Markup.Element.sizeBefore siblings index) (some parent) child ++ after := by
  induction siblings generalizing index next with
  | nil => cases hChild
  | cons first rest ih =>
      cases index with
      | zero =>
          cases hChild
          exact ⟨[], siblingRows (next + child.size) parent rest, rfl, rfl⟩
      | succ index =>
          obtain ⟨before, after, hLength, hRows⟩ := ih hChild (next + first.size)
          refine ⟨rows next (some parent) first ++ before, after, ?_, ?_⟩
          · rw [List.length_append, length_rows, hLength, Markup.Element.sizeBefore]
          · rw [siblingRows, hRows, Markup.Element.sizeBefore, Nat.add_assoc, List.append_assoc, List.append_assoc,
              List.append_assoc]

/-- The rows of the elements inside an element stand together, behind as many as its number says. -/
theorem exists_rows_split {top found : Markup.Element} {path : List Nat} (hAt : top.at? path = some found)
    (base : Nat) (above : Option Nat) :
    ∃ before after parent, before.length = top.number path ∧
      rows base above top = before ++ rows (base + top.number path) parent found ++ after := by
  induction path generalizing top base above with
  | nil =>
      cases hAt
      exact ⟨[], [], above, rfl, by rw [Markup.Element.number_nil, List.nil_append, List.append_nil, Nat.add_zero]⟩
  | cons index path ih =>
      obtain ⟨child, hChild, hDown⟩ := Option.bind_eq_some_iff.mp hAt
      obtain ⟨left, right, hLeft, hSiblings⟩ := exists_siblingRows_split hChild (base + 1) base
      obtain ⟨before, after, parent, hBefore, hRows⟩ :=
        ih hDown (base + 1 + Markup.Element.sizeBefore top.children index) (some base)
      have hNumber : top.number (index :: path) =
          1 + Markup.Element.sizeBefore top.children index + child.number path := by
        simp only [Markup.Element.number, hChild]
      refine ⟨row base above top [] top :: (left ++ before), after ++ right, parent, ?_, ?_⟩
      · rw [List.length_cons, List.length_append, hLeft, hBefore, hNumber]
        omega
      · rw [rows_eq, hSiblings, hRows, hNumber]
        simp only [Nat.add_assoc, List.append_assoc, List.cons_append]

end Document

end ContentAssist
