import ContentAssist.Proofs.Completion.SuppliedParts
import ContentAssist.Proofs.Completion.Typed

/-! What every completion has in common, whatever tree and document it was found in: they need not belong together,
references of the document may lead nowhere or in circles, and tokens may stand anywhere. The element of a completion
can be reached from the root, and its kind says which of its other parts are there and where they come from. -/
namespace ContentAssist

namespace Document

/-- The element is the root, or a sub-element of one that can be reached. -/
inductive IsReachable (document : Document) : Element → Prop
  | root {element : Element} (hRoot : document.rootElement? = some element) : IsReachable document element
  | sub {around element : Element} (index : Nat) (hAround : IsReachable document around)
      (hSub : document.subElement? around index = some element) : IsReachable document element

/-- Every element has its place as its identifier, and its attributes belong to it. -/
def IsNumbered (document : Document) : Prop :=
  ∀ (place : Nat) (element : Element), document.elements[place]? = some element →
    element.id = place ∧ ∀ attr ∈ element.attributes, attr.owner = element.id

theorem IsReachable.exists_place {document : Document} {element : Element} (h : document.IsReachable element) :
    ∃ place : Nat, document.elements[place]? = some element := by
  cases h with
  | root hRoot =>
      obtain ⟨place, _, hElement⟩ := Option.bind_eq_some_iff.mp hRoot
      exact ⟨place, hElement⟩
  | sub index _ hSub =>
      obtain ⟨place, _, hElement⟩ := Option.bind_eq_some_iff.mp hSub
      exact ⟨place, hElement⟩

/-- In a document that is numbered, an attribute belongs to the element that has it. -/
theorem IsNumbered.ownerOf?_eq {document : Document} {element : Element} {attr : Attribute}
    (h : document.IsNumbered) (hElement : document.IsReachable element) (hAttr : attr ∈ element.attributes) :
    document.ownerOf? attr = some element := by
  obtain ⟨place, hPlace⟩ := hElement.exists_place
  obtain ⟨hId, hOwner⟩ := h place element hPlace
  rw [ownerOf?, element?, hOwner attr hAttr, hId]
  exact hPlace

end Document

namespace Completion

/-- Which parts a context has and where they come from, by its kind. -/
def Context.IsShaped (context : Context) : Prop :=
  match context.kind with
  | .elementName => context.attr = none ∧ context.text = none
  | .attributeName =>
    (∀ attr ∈ context.attr, attr ∈ context.element.attributes) ∧ (context.attr = none → context.typed = none) ∧
      context.text = none ∧ context.typed ≠ some ""
  | .attributeValue =>
    (∃ attr ∈ context.element.attributes, context.attr = some attr) ∧ context.text = none ∧
      context.typed ≠ some ""
  | .elementContent =>
    context.attr = none ∧ (context.text.isSome ↔ context.typed.isSome) ∧
      ∀ text ∈ context.text, text ∈ context.element.texts ∧
        ∀ typed ∈ context.typed, typed.toList <+: text.text.toList

section Rules

variable {markup : Markup.Element} {element : Document.Element} {offset : Nat} {context : Context}

theorem nonEmpty_ne_empty (text : String) : nonEmpty text ≠ some "" := by
  intro hEmpty
  exact (of_nonEmpty_eq_some hEmpty).2 rfl

theorem isShaped_of_inAttributes (h : inAttributes markup element offset = some context) :
    context.element = element ∧ context.IsShaped := by
  obtain ⟨index, attr, partner, _, hPartner, hRule⟩ := exists_of_inAttributes_eq_some h
  have hMem : partner ∈ element.attributes := List.mem_of_getElem? hPartner
  rcases hRule with hValue | hKey
  · obtain ⟨value, _, _, _, rfl⟩ := inValue_eq_some_iff.mp hValue
    exact ⟨rfl, ⟨partner, hMem, rfl⟩, rfl, nonEmpty_ne_empty _⟩
  · obtain ⟨key, _, _, _, rfl⟩ := onKey_eq_some_iff.mp hKey
    refine ⟨rfl, ?_, fun hNone => (nomatch hNone), rfl, nonEmpty_ne_empty _⟩
    rintro _ ⟨⟩
    exact hMem

theorem isShaped_of_inContent (h : inContent markup element offset = some context) :
    context.element = element ∧ context.IsShaped := by
  obtain ⟨_, _, _, _, _, _, ⟨_, rfl⟩ | ⟨index, text, _, hText, rfl⟩⟩ := inContent_cases h
  · exact ⟨rfl, rfl, Iff.rfl, fun _ hNone => (nomatch hNone)⟩
  · refine ⟨rfl, rfl, Iff.rfl, ?_⟩
    rintro _ ⟨⟩
    refine ⟨List.mem_of_getElem? hText, ?_⟩
    rintro _ ⟨⟩
    rw [firstChars, String.toList_ofList]
    exact List.take_prefix _ _

/-- Whatever an element answers, at either stage, is about this element and has its shape. -/
theorem Visit.isShaped_of_answer {visit : Visit} (h : visit.answer offset = some context) :
    context.element = visit.element ∧ context.IsShaped := by
  obtain ⟨stage, markup, element⟩ := visit
  cases stage with
  | tag =>
      rcases Option.or_eq_some_iff.mp h with hOpen | ⟨_, hTag⟩
      · obtain ⟨_, _, _, rfl⟩ := afterOpen_eq_some_iff.mp hOpen
        exact ⟨rfl, rfl, rfl⟩
      · rcases Option.or_eq_some_iff.mp hTag with hName | ⟨_, hAttributes⟩
        · obtain ⟨_, _, _, _, rfl⟩ := inName_eq_some_iff.mp hName
          exact ⟨rfl, rfl, rfl⟩
        · exact isShaped_of_inAttributes hAttributes
  | body =>
      rcases Option.or_eq_some_iff.mp h with hNew | ⟨_, hContent⟩
      · obtain ⟨_, _, _, _, _, _, _, rfl⟩ := newAttribute_eq_some_iff.mp hNew
        exact ⟨rfl, fun _ hNone => (nomatch hNone), fun _ => rfl, rfl, fun hTyped => (nomatch hTyped)⟩
      · exact isShaped_of_inContent hContent

/-- An attribute in a context is one of the element's own. -/
theorem Context.IsShaped.attr_mem {attr : Document.Attribute} (h : context.IsShaped)
    (hAttr : context.attr = some attr) :
    attr ∈ context.element.attributes := by
  unfold IsShaped at h
  split at h
  · rw [h.1] at hAttr
    cases hAttr
  · exact h.1 attr hAttr
  · obtain ⟨found, hFound, hIs⟩ := h.1
    rw [hAttr, Option.some.injEq] at hIs
    rwa [hIs]
  · rw [h.1] at hAttr
    cases hAttr

end Rules

section Walk

variable {document : Document} {element : Document.Element} {visit : Visit}

theorem exists_of_mem_visitsOfChildren {index : Nat} {siblings : List Markup.Element}
    (h : visit ∈ visitsOfChildren document element index siblings) :
    ∃ child ∈ siblings, ∃ number partner, document.subElement? element number = some partner ∧
      visit ∈ visits document child partner := by
  induction siblings generalizing index with
  | nil => cases h
  | cons child rest ih =>
      rw [visitsOfChildren, List.mem_append] at h
      rcases h with hFirst | hRest
      · cases hPartner : document.subElement? element index with
        | none =>
            rw [hPartner] at hFirst
            cases hFirst
        | some partner =>
            rw [hPartner] at hFirst
            exact ⟨child, List.mem_cons_self, index, partner, hPartner, hFirst⟩
      · obtain ⟨found, hFound, hVisit⟩ := ih hRest
        exact ⟨found, List.mem_cons_of_mem _ hFound, hVisit⟩

/-- The walk goes down the tree, and with every step from an element to one of its sub-elements in the document. -/
theorem isReachable_of_mem_visits {markup : Markup.Element} (hElement : document.IsReachable element)
    (h : visit ∈ visits document markup element) : document.IsReachable visit.element := by
  induction markup using Markup.Element.inductionOnChildren generalizing element with
  | step markup ih =>
      rw [visits_eq, List.mem_cons, List.mem_append, List.mem_singleton] at h
      rcases h with rfl | hChildren | rfl
      · exact hElement
      · obtain ⟨child, hChild, number, partner, hPartner, hVisit⟩ := exists_of_mem_visitsOfChildren hChildren
        exact ih child hChild (.sub number hElement hPartner) hVisit
      · exact hElement

theorem isReachable_of_mem_walk {tree : Markup.Tree} (h : visit ∈ walk tree document) :
    document.IsReachable visit.element := by
  unfold walk at h
  split at h
  · rename_i markup root _ hRoot
    exact isReachable_of_mem_visits (.root hRoot) h
  · cases h

end Walk

/-- Whatever tree and document a completion is found in, its element can be reached from the root, and its parts are
those of its kind. Where the document is numbered, an attribute that is being changed belongs to the element. -/
theorem resolve_isShaped {tree : Markup.Tree} {document : Document} {offset : Nat} {context : Context}
    (h : resolve tree document offset = some context) :
    document.IsReachable context.element ∧ context.IsShaped ∧
      (document.IsNumbered → ∀ attr, context.attr = some attr → document.ownerOf? attr = some context.element) := by
  rw [resolve_eq_findSome?] at h
  obtain ⟨visit, hVisit, hAnswer⟩ := List.exists_of_findSome?_eq_some h
  obtain ⟨hElement, hShaped⟩ := visit.isShaped_of_answer hAnswer
  have hReachable : document.IsReachable context.element := by
    rw [hElement]
    exact isReachable_of_mem_walk hVisit
  exact ⟨hReachable, hShaped, fun hNumbered attr hAttr => hNumbered.ownerOf?_eq hReachable (hShaped.attr_mem hAttr)⟩

/-- `<a><b k="v"/></a>`, beside a document with one element that is a sub-element of itself. Beside the child the walk
comes to this element a second time, and completes the value of its attribute. -/
theorem resolve_isShaped_in_circle :
    let token (kind : Markup.TokenKind) (image : String) (start : Nat) := some (Markup.Token.ofImage kind image start)
    let value : Markup.Attribute := ⟨token .name "k" 6, token .equals "=" 7, token .string "\"v\"" 8, ⟨6, 10⟩⟩
    let child : Markup.Element :=
      ⟨token .openAngle "<" 3, token .name "b" 4, [value], none, none, none, none, none, token .slashClose "/>" 11,
        ⟨3, 12⟩⟩
    let root : Markup.Element :=
      ⟨token .openAngle "<" 0, token .name "a" 1, [], token .startClose ">" 2, some ⟨[.element child], ⟨3, 12⟩⟩,
        token .slashOpen "</" 13, token .name "a" 15, token .close ">" 16, none, ⟨0, 16⟩⟩
    let attr : Document.Attribute := ⟨"k", some "v", ⟨6, 10⟩, 0, ⟨none, none⟩⟩
    let element : Document.Element := ⟨0, some "a", [attr], [0, 7], [], ⟨0, 16⟩, none, ⟨none, none, none⟩⟩
    let tree : Markup.Tree := ⟨none, [], some root, ⟨0, 16⟩⟩
    let document : Document := ⟨some 0, [element], ⟨0, 16⟩⟩
    let context : Context := ⟨.attributeValue, element, some attr, none, some "v"⟩
    resolve tree document 10 = some context ∧ document.IsReachable element ∧ context.IsShaped ∧
      (document.IsNumbered → ∀ found, context.attr = some found → document.ownerOf? found = some element) := by
  intro token value child root attr element tree document context
  have hAnswer : resolve tree document 10 = some context := by decide +kernel
  exact ⟨hAnswer, resolve_isShaped hAnswer⟩

end Completion

end ContentAssist
