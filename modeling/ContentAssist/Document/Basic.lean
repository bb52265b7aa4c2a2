import ContentAssist.Span

/-! A document as a list of elements that refer to one another by number.

An element knows its sub-elements and its parent by their identifiers, which are places in the list. Nothing
forces the references of a document that was read from a file to be sound: an identifier may lead nowhere,
and elements may contain one another in a circle. -/
namespace ContentAssist

/-- A stretch of source text with its place. -/
structure Excerpt where
  image : String
  span : Span
deriving DecidableEq, Repr, Inhabited

namespace Document

/-- Where the tags of an element stand in the source. -/
structure TagPlaces where
  /-- The name in the opening tag -/
  openName : Option Excerpt
  /-- The opening tag -/
  openBody : Option Span
  /-- The name in the closing tag -/
  closeName : Option Excerpt
deriving DecidableEq, Repr, Inhabited

/-- Where the key and the quoted value of an attribute stand in the source. -/
structure AttributePlaces where
  key : Option Excerpt
  value : Option Excerpt
deriving DecidableEq, Repr, Inhabited

/-- A run of text inside an element. -/
structure Text where
  text : String
  span : Span
deriving DecidableEq, Repr, Inhabited

/-- An attribute. It has no value while it is still being typed. -/
structure Attribute where
  key : String
  value : Option String
  span : Span
  /-- The element that the attribute belongs to -/
  owner : Nat
  places : AttributePlaces
deriving DecidableEq, Repr, Inhabited

/-- An element. It has no name while only `<` has been typed, and no parent if it is the root. -/
structure Element where
  id : Nat
  name : Option String
  attributes : List Attribute
  subElements : List Nat
  texts : List Text
  span : Span
  parent : Option Nat
  places : TagPlaces
deriving DecidableEq, Repr, Inhabited

namespace Element

/-- The first attribute with the key. -/
def attribute? (element : Element) (key : String) : Option Attribute :=
  element.attributes.find? fun attr => attr.key = key

def isRoot (element : Element) : Bool :=
  element.parent.isNone

end Element

end Document

/-- A document: its elements, and which of them is the root. -/
structure Document where
  root : Option Nat
  elements : List Document.Element
  span : Span
deriving DecidableEq, Repr, Inhabited

namespace Document

/-- A document without elements. -/
def empty (span : Span) : Document :=
  ⟨none, [], span⟩

def element? (document : Document) (id : Nat) : Option Element :=
  document.elements[id]?

def rootElement? (document : Document) : Option Element :=
  document.root.bind document.element?

/-- The sub-element at a place in the element's list. -/
def subElement? (document : Document) (element : Element) (index : Nat) : Option Element :=
  element.subElements[index]?.bind document.element?

/-- The sub-elements, without the identifiers that lead nowhere. -/
def subElements (document : Document) (element : Element) : List Element :=
  element.subElements.filterMap document.element?

def parentOf? (document : Document) (element : Element) : Option Element :=
  element.parent.bind document.element?

def ownerOf? (document : Document) (attr : Attribute) : Option Element :=
  document.element? attr.owner

/-- Why a document cannot be changed as asked. -/
inductive ChangeError where
  | unknownElement (id : Nat)
  | rootAlreadySet (root : Nat)
deriving DecidableEq, Repr

def ChangeError.message : ChangeError → String
  | .unknownElement id => s!"Unknown element id: ElementId({id})"
  | .rootAlreadySet root => s!"Document already has a root element: ElementId({root})"

/-- Change the element with the identifier. -/
def modify (document : Document) (id : Nat) (change : Element → Element) :
    Except ChangeError Document :=
  if id < document.elements.length then
    .ok { document with elements := document.elements.modify id change }
  else .error (.unknownElement id)

/-- Make the document ready to refer to the next element: as its root, or under the parent. -/
def attach (document : Document) : Option Nat → Except ChangeError Document
  | some parent =>
    document.modify parent fun element =>
      { element with subElements := element.subElements ++ [document.elements.length] }
  | none => match document.root with
    | some root => .error (.rootAlreadySet root)
    | none => .ok { document with root := some document.elements.length }

/-- Add an element as the last sub-element of the parent, or as the root. It takes the next free identifier
as its own and as the owner of its attributes. -/
def insert (document : Document) (parent : Option Nat) (element : Element) :
    Except ChangeError (Nat × Document) := do
  let id := document.elements.length
  let attached ← document.attach parent
  let placed := { element with
    id := id
    parent := parent
    attributes := element.attributes.map fun attr => { attr with owner := id } }
  return (id, { attached with elements := attached.elements ++ [placed] })

/-- One step of the walk through the document: the element on top of the stack, and the stack with the
sub-elements in its place. An identifier that leads nowhere ends the walk. -/
def step? (document : Document) : List Nat → Option (Element × List Nat)
  | [] => none
  | id :: stack => (document.element? id).map fun element => (element, element.subElements ++ stack)

def walk (document : Document) : Nat → List Nat → List Element
  | 0, _ => []
  | limit + 1, stack => match document.step? stack with
    | none => []
    | some (element, stack) => element :: document.walk limit stack

/-- The first `limit` elements in document order: each element before its sub-elements. The limit is needed
because a document may go round in circles. -/
def iterate (document : Document) (limit : Nat) : List Element :=
  document.walk limit document.root.toList

end Document

end ContentAssist
