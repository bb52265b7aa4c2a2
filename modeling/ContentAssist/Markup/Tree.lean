import ContentAssist.Markup.Token

/-! The concrete tree of a markup text: every token in its place, and slots left open where the text has
none. -/
namespace ContentAssist.Markup

/-- A name with `=` and a quoted value, as far as they were written. -/
structure Attribute where
  name : Option Token
  equals : Option Token
  string : Option Token
  span : Span
deriving DecidableEq, Repr, Inhabited

/-- A run of text. -/
structure CharacterData where
  tokens : List Token
  span : Span
deriving DecidableEq, Repr, Inhabited

/-- An entity or character reference. -/
structure Reference where
  token : Token
  span : Span
deriving DecidableEq, Repr, Inhabited

mutual

/-- An element: opening tag, content and closing tag. -/
structure Element where
  openAngle : Option Token
  name : Option Token
  attributes : List Attribute
  startClose : Option Token
  content : Option Content
  slashOpen : Option Token
  endName : Option Token
  close : Option Token
  slashClose : Option Token
  span : Span

/-- What stands between the opening and the closing tag. -/
structure Content where
  parts : List ContentPart
  span : Span

/-- One piece of content. -/
inductive ContentPart where
  | element (child : Element)
  | text (run : CharacterData)
  | reference (part : Reference)
  | cdata (token : Token)
  | processingInstruction (token : Token)
  | comment (token : Token)

end

deriving instance BEq for Element, Content, ContentPart

instance : Inhabited Content := ⟨⟨[], default⟩⟩

instance : Inhabited Element :=
  ⟨⟨none, none, [], none, none, none, none, none, none, default⟩⟩

/-- The declaration at the head of a document. -/
structure Prolog where
  declarationOpen : Option Token
  attributes : List Attribute
  specialClose : Option Token
  span : Span
deriving DecidableEq, Repr, Inhabited

/-- A comment, an instruction or blanks outside the root element. -/
structure Misc where
  token : Token
deriving DecidableEq, Repr, Inhabited

/-- A whole text. The constructs before and after the root element share one list. -/
structure Tree where
  prolog : Option Prolog
  misc : List Misc
  element : Option Element
  span : Span
deriving BEq, Inhabited

namespace ContentPart

def span : ContentPart → Span
  | .element child => child.span
  | .text run => run.span
  | .reference part => part.span
  | .cdata token | .processingInstruction token | .comment token => token.span

def isText : ContentPart → Bool
  | .text _ => true
  | _ => false

def element? : ContentPart → Option Element
  | .element child => some child
  | _ => none

def text? : ContentPart → Option CharacterData
  | .text run => some run
  | _ => none

end ContentPart

namespace Content

/-- The child elements in order. -/
def elements (content : Content) : List Element :=
  content.parts.filterMap ContentPart.element?

/-- The runs of text in order. -/
def texts (content : Content) : List CharacterData :=
  content.parts.filterMap ContentPart.text?

end Content

end ContentAssist.Markup
