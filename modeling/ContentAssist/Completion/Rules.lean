import ContentAssist.Completion.Context
import ContentAssist.Markup.Tree

/-! The rules by which one element answers for a cursor. Each looks at the tokens of the element itself and
never at its sub-elements. A slot whose token the text does not have matches nothing; the parts of content are found
by their spans alone. -/
namespace ContentAssist.Completion

open Markup (Token present)

/-- The first `count` characters, or all of them if there are fewer. -/
def firstChars (text : String) (count : Nat) : String :=
  String.ofList (text.toList.take count)

/-- The characters of a quoted value before place `count`, without the opening quote. -/
def firstQuoted (image : String) (count : Nat) : String :=
  String.ofList ((image.toList.take count).drop 1)

/-- Nothing, if the text is empty. -/
def nonEmpty (text : String) : Option String :=
  if text.isEmpty then none else some text

/-- The cursor is inside the token, or right before or behind it. -/
def touches (token : Token) (offset : Nat) : Bool :=
  token.span.startOffset ≤ offset && offset ≤ token.span.endOffset + 1

/-- What the character before a cursor belongs to. -/
inductive Hit where
  /-- The run of text with this number among the runs -/
  | text (index : Nat)
  /-- A part of another kind -/
  | other
deriving DecidableEq, Repr

/-- The first part with the offset in its span. `seen` is the number of runs of text before the parts. -/
def locateFrom (seen : Nat) : List Markup.ContentPart → Nat → Option Hit
  | [], _ => none
  | part :: rest, offset =>
    if part.span.contains offset then some (if part.isText then .text seen else .other)
    else locateFrom (if part.isText then seen + 1 else seen) rest offset

def locate (parts : List Markup.ContentPart) (offset : Nat) : Option Hit :=
  locateFrom 0 parts offset

section

variable (markup : Markup.Element) (element : Document.Element) (offset : Nat)

/-- Right behind `<`. -/
def afterOpen : Option Context := do
  let opening ← present markup.openAngle
  guard (opening.span.endOffset + 1 = offset)
  return ⟨.elementName, element, none, none, none⟩

/-- Inside or right behind the name in the opening tag. -/
def inName : Option Context := do
  let name ← present markup.name
  guard (name.span.startOffset < offset && offset ≤ name.span.endOffset + 1)
  return ⟨.elementName, element, none, none,
    some (firstChars name.image (offset - name.span.startOffset))⟩

/-- Between the quotes of a value. -/
def inValue (markup : Markup.Attribute) (attr : Document.Attribute) : Option Context := do
  let value ← present markup.string
  guard (value.span.startOffset < offset && offset ≤ value.span.endOffset)
  return ⟨.attributeValue, element, some attr, none,
    nonEmpty (firstQuoted value.image (offset - value.span.startOffset))⟩

/-- On the key of an attribute. -/
def onKey (markup : Markup.Attribute) (attr : Document.Attribute) : Option Context := do
  let key ← present markup.name
  guard (touches key offset)
  return ⟨.attributeName, element, some attr, none,
    nonEmpty (firstChars key.image (offset - key.span.startOffset))⟩

/-- In an attribute that is there, in order of the attributes. -/
def inAttributes : Option Context :=
  (markup.attributes.zip element.attributes).findSome? fun (markup, attr) =>
    (inValue element offset markup attr).or (onKey element offset markup attr)

/-- Where an attribute could be added: behind the name, in a tag whose end is known, and in no attribute. -/
def newAttribute : Option Context := do
  let name ← present markup.name
  let close ← (present markup.startClose).or (present markup.slashClose)
  guard (name.span.endOffset + 1 ≤ offset && offset ≤ close.span.startOffset)
  guard (!element.attributes.any fun attr => attr.span.contains offset)
  return ⟨.attributeName, element, none, none, none⟩

/-- Between the tags. The character before the cursor decides: the cursor continues a run of text, or starts
a new one, or stands in something else. -/
def inContent : Option Context := do
  let opening ← present markup.startClose
  let closing ← (present markup.slashOpen).or (present markup.slashClose)
  guard (opening.span.endOffset + 1 ≤ offset && offset ≤ closing.span.startOffset)
  match locate ((markup.content.map Markup.Content.parts).getD []) (offset - 1) with
  | none => return ⟨.elementContent, element, none, none, none⟩
  | some (.text index) =>
    let text ← element.texts[index]?
    return ⟨.elementContent, element, none, some text,
      some (firstChars text.text (offset - text.span.startOffset))⟩
  | some .other => none

/-- The answer of the element before its sub-elements are asked. -/
def ownTag : Option Context :=
  (afterOpen markup element offset).or
    ((inName markup element offset).or (inAttributes markup element offset))

/-- The answer of the element after its sub-elements were asked in vain. -/
def ownBody : Option Context :=
  (newAttribute markup element offset).or (inContent markup element offset)

end

end ContentAssist.Completion
