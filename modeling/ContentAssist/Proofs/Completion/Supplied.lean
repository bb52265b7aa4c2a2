import ContentAssist.Proofs.Completion.Innermost

/-! Tokens that were supplied to mend a broken text count as missing. If every slot with such a token is left open,
in the attributes and elements of a tree at any depth, then every completion stays as it is. The tree and the
document may be any, also ones that do not belong together. -/
namespace ContentAssist

namespace Markup

/-- The slot, left open if its token was supplied. -/
def dropSupplied : Option Token → Option Token
  | some token => if token.recovered then none else some token
  | none => none

def Attribute.dropSupplied (attr : Attribute) : Attribute :=
  ⟨Markup.dropSupplied attr.name, Markup.dropSupplied attr.equals, Markup.dropSupplied attr.string, attr.span⟩

mutual

/-- The element with open slots in place of supplied tokens, inside its content too. -/
def Element.dropSupplied : Element → Element
  | ⟨openAngle, name, attributes, startClose, content, slashOpen, endName, close, slashClose, span⟩ =>
    ⟨Markup.dropSupplied openAngle, Markup.dropSupplied name, attributes.map Attribute.dropSupplied,
      Markup.dropSupplied startClose,
      match content with
        | some content => some (Content.dropSupplied content)
        | none => none,
      Markup.dropSupplied slashOpen, Markup.dropSupplied endName, Markup.dropSupplied close,
      Markup.dropSupplied slashClose, span⟩

def Content.dropSupplied : Content → Content
  | ⟨parts, span⟩ => ⟨dropSuppliedParts parts, span⟩

def dropSuppliedParts : List ContentPart → List ContentPart
  | [] => []
  | part :: rest => ContentPart.dropSupplied part :: dropSuppliedParts rest

def ContentPart.dropSupplied : ContentPart → ContentPart
  | .element child => .element (Element.dropSupplied child)
  | part => part

end

def Tree.dropSupplied (tree : Tree) : Tree :=
  { tree with
    prolog := tree.prolog.map fun prolog =>
      { prolog with attributes := prolog.attributes.map Attribute.dropSupplied }
    element := tree.element.map Element.dropSupplied }

theorem dropSupplied_eq_some_iff (slot : Option Token) (token : Token) :
    dropSupplied slot = some token ↔ slot = some token ∧ token.recovered = false := by
  cases slot with
  | none => simp [dropSupplied]
  | some first =>
      by_cases hRecovered : first.recovered = true
      · rw [dropSupplied, if_pos hRecovered]
        constructor
        · intro hNone
          cases hNone
        · rintro ⟨hSame, hWritten⟩
          rw [← Option.some.inj hSame, hRecovered] at hWritten
          cases hWritten
      · rw [dropSupplied, if_neg hRecovered]
        refine ⟨fun hSame => ⟨hSame, ?_⟩, And.left⟩
        rw [← Option.some.inj hSame]
        exact Bool.eq_false_iff.mpr hRecovered

/-- What looks for a token finds the same tokens. -/
theorem present_dropSupplied (slot : Option Token) : present (dropSupplied slot) = present slot := by
  apply Option.ext
  intro token
  rw [present_eq_some_iff, present_eq_some_iff, dropSupplied_eq_some_iff, and_assoc, and_self]

theorem dropSuppliedParts_eq (parts : List ContentPart) :
    dropSuppliedParts parts = parts.map ContentPart.dropSupplied := by
  induction parts with
  | nil => rfl
  | cons part rest ih => rw [dropSuppliedParts, ih, List.map_cons]

theorem ContentPart.span_dropSupplied (part : ContentPart) : part.dropSupplied.span = part.span := by
  cases part with
  | element child =>
      obtain ⟨_, _, _, _, _, _, _, _, _, _⟩ := child
      rfl
  | _ => rfl

theorem ContentPart.isText_dropSupplied (part : ContentPart) : part.dropSupplied.isText = part.isText := by
  cases part <;> rfl

theorem ContentPart.element?_dropSupplied (part : ContentPart) :
    part.dropSupplied.element? = part.element?.map Element.dropSupplied := by
  cases part <;> rfl

namespace Element

theorem dropSupplied_eq (element : Element) : element.dropSupplied =
    ⟨Markup.dropSupplied element.openAngle, Markup.dropSupplied element.name,
      element.attributes.map Attribute.dropSupplied, Markup.dropSupplied element.startClose,
      element.content.map Content.dropSupplied, Markup.dropSupplied element.slashOpen,
      Markup.dropSupplied element.endName, Markup.dropSupplied element.close,
      Markup.dropSupplied element.slashClose, element.span⟩ := by
  obtain ⟨_, _, _, _, content, _, _, _, _, _⟩ := element
  cases content <;> rfl

theorem parts_dropSupplied (element : Element) :
    element.dropSupplied.parts = element.parts.map ContentPart.dropSupplied := by
  rw [parts, parts, dropSupplied_eq]
  cases element.content with
  | none => rfl
  | some content =>
      obtain ⟨parts, _⟩ := content
      exact dropSuppliedParts_eq parts

theorem children_dropSupplied (element : Element) :
    element.dropSupplied.children = element.children.map Element.dropSupplied := by
  rw [children, parts_dropSupplied, List.filterMap_map, children, List.map_filterMap]
  congr 1
  funext part
  exact part.element?_dropSupplied

end Element

end Markup

namespace Completion

section Rules

variable (markup : Markup.Element) (element : Document.Element) (offset : Nat)

theorem afterOpen_dropSupplied : afterOpen markup.dropSupplied element offset = afterOpen markup element offset := by
  simp only [afterOpen, Markup.Element.dropSupplied_eq, Markup.present_dropSupplied]

theorem inName_dropSupplied : inName markup.dropSupplied element offset = inName markup element offset := by
  simp only [inName, Markup.Element.dropSupplied_eq, Markup.present_dropSupplied]

theorem inAttributes_dropSupplied :
    inAttributes markup.dropSupplied element offset = inAttributes markup element offset := by
  rw [inAttributes, inAttributes, Markup.Element.dropSupplied_eq, List.zip_map_left, List.findSome?_map]
  congr 1
  funext pair
  obtain ⟨attr, partner⟩ := pair
  simp only [Function.comp_apply, Prod.map_apply, id_eq, inValue, onKey, Markup.Attribute.dropSupplied,
    Markup.present_dropSupplied]

theorem newAttribute_dropSupplied :
    newAttribute markup.dropSupplied element offset = newAttribute markup element offset := by
  simp only [newAttribute, Markup.Element.dropSupplied_eq, Markup.present_dropSupplied]

theorem locateFrom_dropSupplied (seen position : Nat) (parts : List Markup.ContentPart) :
    locateFrom seen (parts.map Markup.ContentPart.dropSupplied) position = locateFrom seen parts position := by
  induction parts generalizing seen with
  | nil => rfl
  | cons part rest ih =>
      simp only [List.map_cons, locateFrom, Markup.ContentPart.span_dropSupplied,
        Markup.ContentPart.isText_dropSupplied, ih]

theorem inContent_dropSupplied : inContent markup.dropSupplied element offset = inContent markup element offset := by
  have hParts : ∀ markup : Markup.Element, (markup.content.map Markup.Content.parts).getD [] = markup.parts :=
    fun _ => rfl
  have hLocate : locate markup.dropSupplied.parts (offset - 1) = locate markup.parts (offset - 1) := by
    rw [Markup.Element.parts_dropSupplied]
    exact locateFrom_dropSupplied 0 (offset - 1) markup.parts
  simp only [inContent, hParts, hLocate]
  simp only [Markup.Element.dropSupplied_eq, Markup.present_dropSupplied]

end Rules

section Walk

variable {document : Document} {offset : Nat}

theorem resolveChildren_dropSupplied (element : Document.Element) (index : Nat) {siblings : List Markup.Element}
    (hEach : ∀ child ∈ siblings, ∀ partner, resolveElement document offset child.dropSupplied partner =
      resolveElement document offset child partner) :
    resolveChildren document offset element index (siblings.map Markup.Element.dropSupplied) =
      resolveChildren document offset element index siblings := by
  induction siblings generalizing index with
  | nil => rfl
  | cons child rest ih =>
      rw [List.forall_mem_cons] at hEach
      have hChild : resolveElement document offset child.dropSupplied = resolveElement document offset child := by
        funext partner
        exact hEach.1 partner
      rw [List.map_cons, resolveChildren, resolveChildren, hChild, ih (index + 1) hEach.2]

theorem resolveElement_dropSupplied (markup : Markup.Element) (element : Document.Element) :
    resolveElement document offset markup.dropSupplied element = resolveElement document offset markup element := by
  induction markup using Markup.Element.inductionOnChildren generalizing element with
  | step markup ih =>
      rw [resolveElement_eq, resolveElement_eq, Markup.Element.children_dropSupplied,
        resolveChildren_dropSupplied element 0 ih]
      simp only [ownTag, ownBody, afterOpen_dropSupplied, inName_dropSupplied, inAttributes_dropSupplied,
        newAttribute_dropSupplied, inContent_dropSupplied]

end Walk

/-- Whether a token was supplied or is missing makes no difference to any completion. -/
theorem resolve_dropSupplied (tree : Markup.Tree) (document : Document) (offset : Nat) :
    resolve tree.dropSupplied document offset = resolve tree document offset := by
  rw [resolve, resolve, Markup.Tree.dropSupplied]
  cases tree.element with
  | none => rfl
  | some root =>
      cases document.rootElement? with
      | none => rfl
      | some element => exact resolveElement_dropSupplied root element

end Completion

end ContentAssist
