import ContentAssist.Document.Basic
import ContentAssist.Markup.Json

/-! The JSON form of documents. An identifier is a plain number. -/
namespace ContentAssist

open Json (Slot slots? option? list? count? string?)

def Excerpt.toJson (excerpt : Excerpt) : Json :=
  .ofMembers
    [("image", .ofString excerpt.image), ("startOffset", .count excerpt.span.startOffset),
     ("endOffset", .count excerpt.span.endOffset)]

def Excerpt.ofJson? : Nat → Json → Option Excerpt
  | 0, _ => none
  | _ + 1, value => match slots? ["image", "startOffset", "endOffset"] value with
    | some [image, startOffset, endOffset] => do
      let image ← image.required string?
      let startOffset ← startOffset.required count?
      let endOffset ← endOffset.required count?
      return ⟨image, ⟨startOffset, endOffset⟩⟩
    | _ => none

namespace Document

def TagPlaces.toJson (places : TagPlaces) : Json :=
  .ofMembers
    [("openName", .ofOption Excerpt.toJson places.openName),
     ("openBody", .ofOption Span.toJson places.openBody),
     ("closeName", .ofOption Excerpt.toJson places.closeName)]

def TagPlaces.ofJson? : Nat → Json → Option TagPlaces
  | 0, _ => none
  | levels + 1, value => match slots? ["openName", "openBody", "closeName"] value with
    | some [openName, openBody, closeName] => do
      let openName ← openName.orElse none (option? (Excerpt.ofJson? levels))
      let openBody ← openBody.orElse none (option? (Span.ofJson? levels))
      let closeName ← closeName.orElse none (option? (Excerpt.ofJson? levels))
      return ⟨openName, openBody, closeName⟩
    | _ => none

def AttributePlaces.toJson (places : AttributePlaces) : Json :=
  .ofMembers
    [("key", .ofOption Excerpt.toJson places.key), ("value", .ofOption Excerpt.toJson places.value)]

def AttributePlaces.ofJson? : Nat → Json → Option AttributePlaces
  | 0, _ => none
  | levels + 1, value => match slots? ["key", "value"] value with
    | some [key, value] => do
      let key ← key.orElse none (option? (Excerpt.ofJson? levels))
      let value ← value.orElse none (option? (Excerpt.ofJson? levels))
      return ⟨key, value⟩
    | _ => none

def Text.toJson (text : Text) : Json :=
  .ofMembers [("text", .ofString text.text), ("position", text.span.toJson)]

def Text.ofJson? : Nat → Json → Option Text
  | 0, _ => none
  | levels + 1, value => match slots? ["text", "position"] value with
    | some [text, span] => do
      return ⟨← text.required string?, ← span.required (Span.ofJson? levels)⟩
    | _ => none

def Attribute.toJson (attr : Attribute) : Json :=
  .ofMembers
    [("key", .ofString attr.key), ("value", .ofOption Json.ofString attr.value),
     ("position", attr.span.toJson), ("parent", .count attr.owner), ("syntax", attr.places.toJson)]

def Attribute.ofJson? : Nat → Json → Option Attribute
  | 0, _ => none
  | levels + 1, value => match slots? ["key", "value", "position", "parent", "syntax"] value with
    | some [key, value, span, owner, places] => do
      let key ← key.required string?
      let value ← value.orElseMember none (option? string?)
      let span ← span.required (Span.ofJson? levels)
      let owner ← owner.required count?
      let places ← places.orElse default (AttributePlaces.ofJson? levels)
      return ⟨key, value, span, owner, places⟩
    | _ => none

def Element.toJson (element : Element) : Json :=
  .ofMembers
    [("id", .count element.id), ("name", .ofOption Json.ofString element.name),
     ("attributes", .ofList Attribute.toJson element.attributes),
     ("subElements", .ofList Json.count element.subElements),
     ("textContents", .ofList Text.toJson element.texts), ("position", element.span.toJson),
     ("parent", .ofOption Json.count element.parent), ("syntax", element.places.toJson)]

def Element.ofJson? : Nat → Json → Option Element
  | 0, _ => none
  | levels + 1, value =>
    match slots? ["id", "name", "attributes", "subElements", "textContents", "position", "parent", "syntax"]
      value with
    | some [id, name, attributes, subElements, texts, span, parent, places] => do
      let id ← id.required count?
      let name ← name.orElseMember none (option? string?)
      let attributes ← attributes.required (list? Attribute.ofJson? levels)
      let subElements ← subElements.required (list? (fun _ => count?) levels)
      let texts ← texts.required (list? Text.ofJson? levels)
      let span ← span.required (Span.ofJson? levels)
      let parent ← parent.orElseMember none (option? count?)
      let places ← places.orElse default (TagPlaces.ofJson? levels)
      return ⟨id, name, attributes, subElements, texts, span, parent, places⟩
    | _ => none

def toJson (document : Document) : Json :=
  .ofMembers
    [("rootElement", .ofOption Json.count document.root),
     ("elements", .ofList Element.toJson document.elements), ("position", document.span.toJson)]

def ofJson? : Nat → Json → Option Document
  | 0, _ => none
  | levels + 1, value => match slots? ["rootElement", "elements", "position"] value with
    | some [root, elements, span] => do
      let root ← root.orElseMember none (option? count?)
      let elements ← elements.required (list? Element.ofJson? levels)
      let span ← span.required (Span.ofJson? levels)
      return ⟨root, elements, span⟩
    | _ => none

end Document

end ContentAssist
