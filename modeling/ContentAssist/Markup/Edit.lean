import ContentAssist.Markup.Tree

/-! Changing single tokens of a concrete tree, to see what a mended or a damaged text would give. -/
namespace ContentAssist.Markup

/-- What to do with a slot. -/
inductive SlotChange where
  /-- Mark the token as supplied, if there is one -/
  | recover
  /-- Leave the slot empty -/
  | remove
  | set (token : Token)

def SlotChange.apply : SlotChange → Option Token → Option Token
  | .recover, slot => slot.map fun token => { token with recovered := true }
  | .remove, _ => none
  | .set token, _ => some token

/-- The slots of an element's own tags. -/
inductive ElementSlot where
  | openAngle
  | name
  | startClose
  | slashOpen
  | endName
  | close
  | slashClose
deriving DecidableEq, Repr

inductive AttributeSlot where
  | name
  | equals
  | string
deriving DecidableEq, Repr

def Element.changeSlot (element : Element) (slot : ElementSlot) (change : SlotChange) : Element :=
  match slot with
  | .openAngle => { element with openAngle := change.apply element.openAngle }
  | .name => { element with name := change.apply element.name }
  | .startClose => { element with startClose := change.apply element.startClose }
  | .slashOpen => { element with slashOpen := change.apply element.slashOpen }
  | .endName => { element with endName := change.apply element.endName }
  | .close => { element with close := change.apply element.close }
  | .slashClose => { element with slashClose := change.apply element.slashClose }

def Attribute.changeSlot (attr : Attribute) (slot : AttributeSlot) (change : SlotChange) : Attribute :=
  match slot with
  | .name => { attr with name := change.apply attr.name }
  | .equals => { attr with equals := change.apply attr.equals }
  | .string => { attr with string := change.apply attr.string }

/-- One change to an element. -/
inductive Edit where
  | tagToken (place : ElementSlot) (change : SlotChange)
  | attributeToken (index : Nat) (place : AttributeSlot) (change : SlotChange)
  | dropContent

def Edit.apply (edit : Edit) (element : Element) : Element :=
  match edit with
  | .tagToken place change => element.changeSlot place change
  | .attributeToken index place change =>
    { element with attributes := element.attributes.modify index fun attr => attr.changeSlot place change }
  | .dropContent => { element with content := none }

/-- Change the element child with the given number. -/
def modifyChild (change : Element → Element) : Nat → List ContentPart → List ContentPart
  | _, [] => []
  | 0, .element child :: rest => .element (change child) :: rest
  | index + 1, .element child :: rest => .element child :: modifyChild change index rest
  | index, part :: rest => part :: modifyChild change index rest

/-- Change the element at the end of a path, each step of which is the number of an element child. -/
def Element.modifyAt (change : Element → Element) : List Nat → Element → Element
  | [], element => change element
  | index :: path, element =>
    { element with content := element.content.map fun content =>
        { content with parts := modifyChild (Element.modifyAt change path) index content.parts } }

def Tree.edit (tree : Tree) (path : List Nat) (edit : Edit) : Tree :=
  { tree with element := tree.element.map (Element.modifyAt edit.apply path) }

end ContentAssist.Markup
