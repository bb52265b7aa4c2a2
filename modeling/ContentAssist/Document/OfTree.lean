import ContentAssist.Document.Basic
import ContentAssist.Markup.Tree

/-! The document that a concrete tree describes. Elements are inserted in the order of their opening tags, so
an element's identifier is its place in that order. -/
namespace ContentAssist

open Markup (Token)

/-- The value inside the quotes: all but the first and the last character. -/
def unquote (image : String) : String :=
  String.ofList (image.toList.drop 1).dropLast

def Excerpt.ofToken (token : Token) : Excerpt :=
  ⟨token.image, token.span⟩

namespace Document

def Attribute.ofMarkup (attr : Markup.Attribute) : Attribute where
  key := (attr.name.map Token.image).getD ""
  value := attr.string.map fun token => unquote token.image
  span := attr.span
  owner := 0
  places := ⟨attr.name.map .ofToken, attr.string.map .ofToken⟩

def Text.ofMarkup (run : Markup.CharacterData) : Text where
  text := String.join (run.tokens.map Token.image)
  span := run.span

/-- The end of the opening tag: its `>` or `/>`, or else the last thing that it has. -/
def openBodyEnd (element : Markup.Element) : Nat :=
  (element.startClose.map fun token => token.span.endOffset)
    <|> (element.slashClose.map fun token => token.span.endOffset)
    <|> (element.attributes.getLast?.map fun attr => attr.span.endOffset)
    <|> (element.name.map fun token => token.span.endOffset)
    |>.getD element.span.startOffset

/-- The element by itself, not yet placed in a document. -/
def Element.ofMarkup (element : Markup.Element) : Element where
  id := 0
  name := element.name.map Token.image
  attributes := element.attributes.map .ofMarkup
  subElements := []
  texts := match element.content with
    | some content => content.texts.map .ofMarkup
    | none => []
  span := element.span
  parent := none
  places :=
    { openName := element.name.map .ofToken
      openBody := some ⟨element.span.startOffset, openBodyEnd element⟩
      closeName := element.endName.map .ofToken }

mutual

/-- Insert an element, and then the elements inside it. -/
def insertMarkup (document : Document) (parent : Option Nat) :
    Markup.Element → Except ChangeError Document
  | ⟨openAngle, name, attributes, startClose, content, slashOpen, endName, close, slashClose, span⟩ => do
    let node := Element.ofMarkup
      ⟨openAngle, name, attributes, startClose, content, slashOpen, endName, close, slashClose, span⟩
    let (id, document) ← document.insert parent node
    match content with
    | none => return document
    | some content => insertContent document id content

def insertContent (document : Document) (parent : Nat) : Markup.Content → Except ChangeError Document
  | ⟨parts, _⟩ => insertParts document parent parts

def insertParts (document : Document) (parent : Nat) :
    List Markup.ContentPart → Except ChangeError Document
  | [] => return document
  | part :: rest => do
    let document ← insertPart document parent part
    insertParts document parent rest

def insertPart (document : Document) (parent : Nat) : Markup.ContentPart → Except ChangeError Document
  | .element child => insertMarkup document (some parent) child
  | _ => return document

end

def ofTree (tree : Markup.Tree) : Except ChangeError Document :=
  match tree.element with
  | some element => insertMarkup (empty tree.span) none element
  | none => return empty tree.span

end Document

end ContentAssist
