import ContentAssist.Document.Json

/-! What can be completed at a place in a text. -/
namespace ContentAssist.Completion

/-- What is being typed. -/
inductive Kind where
  /-- The name of an element, as in `<pe` -/
  | elementName
  /-- The key of an attribute, as in `<person na` -/
  | attributeName
  /-- A quoted value, as in `<person name="ti` -/
  | attributeValue
  /-- Text inside an element, as in `<person>ab` -/
  | elementContent
deriving DecidableEq, Repr

def Kind.all : List Kind :=
  [.elementName, .attributeName, .attributeValue, .elementContent]

def Kind.label : Kind → String
  | .elementName => "elementName"
  | .attributeName => "attributeName"
  | .attributeValue => "attributeValue"
  | .elementContent => "elementContent"

/-- The kind as it is named in messages. -/
def Kind.title : Kind → String
  | .elementName => "ElementName"
  | .attributeName => "AttributeName"
  | .attributeValue => "AttributeValue"
  | .elementContent => "ElementContent"

/-- What is being typed, in which element, and how much of it stands before the cursor. -/
structure Context where
  kind : Kind
  /-- The element around the cursor -/
  element : Document.Element
  /-- The attribute that is being changed -/
  attr : Option Document.Attribute
  /-- The run of text that is being continued -/
  text : Option Document.Text
  /-- What has been typed so far -/
  typed : Option String
deriving DecidableEq, Repr

/-- A member for each part that is there. -/
def Context.toJson (context : Context) : Json :=
  let given (key : String) (value : Option Json) : List (String × Json) :=
    (value.map fun value => (key, value)).toList
  .ofMembers
    [("providerType", .ofString context.kind.label),
     ("providerArgs", .ofMembers (("element", context.element.toJson)
       :: given "attribute" (context.attr.map Document.Attribute.toJson)
       ++ given "textContent" (context.text.map Document.Text.toJson)
       ++ given "prefix" (context.typed.map Json.ofString)))]

end ContentAssist.Completion
