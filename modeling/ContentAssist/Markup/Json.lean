import ContentAssist.Json.Record
import ContentAssist.Markup.Tree

/-! The JSON form of concrete trees.

Reading follows `levels`, the number of arrays and objects that may still be opened. A part of content says
what it is by a member `part`, which may stand anywhere among the others; so the part is looked at as a whole
before its fields are read, and `whole` tells the readers of the fields that they are inside such a part. -/
namespace ContentAssist

open Json (Slot slots? option? list? count? bool? string?)

def Span.toJson (span : Span) : Json :=
  .ofMembers [("startOffset", .count span.startOffset), ("endOffset", .count span.endOffset)]

def Span.ofJson? : Nat → Json → Option Span
  | 0, _ => none
  | _ + 1, value => match slots? ["startOffset", "endOffset"] value with
    | some [startOffset, endOffset] => do
      return ⟨← startOffset.required count?, ← endOffset.required count?⟩
    | _ => none

namespace Markup

def TokenKind.label : TokenKind → String
  | .openAngle => "OPEN"
  | .slashOpen => "SLASH_OPEN"
  | .startClose => "START_CLOSE"
  | .slashClose => "SLASH_CLOSE"
  | .close => "CLOSE"
  | .equals => "EQUALS"
  | .name => "NAME"
  | .string => "STRING"
  | .text => "TEXT"
  | .seaWhitespace => "SEA_WS"
  | .comment => "COMMENT"
  | .cdata => "C_DATA"
  | .processingInstruction => "PROCESSING_INSTRUCTION"
  | .entityReference => "ENTITY_REF"
  | .characterReference => "CHAR_REF"
  | .declarationOpen => "XML_DECL_OPEN"
  | .specialClose => "SPECIAL_CLOSE"

def TokenKind.ofLabel? (label : String) : Option TokenKind :=
  TokenKind.all.find? fun kind => kind.label = label

theorem TokenKind.ofLabel?_label (kind : TokenKind) : ofLabel? kind.label = some kind := by
  cases kind <;> decide

def TokenKind.toJson (kind : TokenKind) : Json :=
  .ofString kind.label

/-- A kind is written by its label, or as an object whose only member has the label as its key. The value of
that member is empty: `null`, or inside a part also an empty object. -/
def TokenKind.ofJson? (whole : Bool) (levels : Nat) : Json → Option TokenKind
  | .string (some label) => ofLabel? label
  | .object [(some label, .null)] => if 0 < levels then ofLabel? label else none
  | .object [(some label, .object [])] => if whole && 1 < levels then ofLabel? label else none
  | _ => none

def Token.members (token : Token) : List (String × Json) :=
  [("kind", token.kind.toJson), ("image", .ofString token.image),
   ("startOffset", .count token.span.startOffset), ("endOffset", .count token.span.endOffset),
   ("recovered", .bool token.recovered)]

def Token.toJson (token : Token) : Json :=
  .ofMembers token.members

def Token.ofJson? (whole : Bool) : Nat → Json → Option Token
  | 0, _ => none
  | levels + 1, value => match slots? ["kind", "image", "startOffset", "endOffset", "recovered"] value with
    | some [kind, image, startOffset, endOffset, recovered] => do
      let kind ← kind.required (TokenKind.ofJson? whole levels)
      let image ← image.required string?
      let startOffset ← startOffset.required count?
      let endOffset ← endOffset.required count?
      let recovered ← recovered.orElse false bool?
      return ⟨kind, image, ⟨startOffset, endOffset⟩, recovered⟩
    | _ => none

/-- A slot for a token, empty where it is missing. -/
def slotOfJson? (whole : Bool) (levels : Nat) (slot : Slot) : Option (Option Token) :=
  slot.orElse none (option? (Token.ofJson? whole levels))

def slotToJson : Option Token → Json :=
  .ofOption Token.toJson

def Attribute.toJson (attr : Attribute) : Json :=
  .ofMembers
    [("name", slotToJson attr.name), ("equals", slotToJson attr.equals), ("string", slotToJson attr.string),
     ("location", attr.span.toJson)]

def Attribute.ofJson? (whole : Bool) : Nat → Json → Option Attribute
  | 0, _ => none
  | levels + 1, value => match slots? ["name", "equals", "string", "location"] value with
    | some [name, equals, string, span] => do
      let name ← slotOfJson? whole levels name
      let equals ← slotOfJson? whole levels equals
      let string ← slotOfJson? whole levels string
      let span ← span.orElse default (Span.ofJson? levels)
      return ⟨name, equals, string, span⟩
    | _ => none

def CharacterData.members (run : CharacterData) : List (String × Json) :=
  [("tokens", .ofList Token.toJson run.tokens), ("location", run.span.toJson)]

def CharacterData.toJson (run : CharacterData) : Json :=
  .ofMembers run.members

def CharacterData.ofJson? (whole : Bool) : Nat → Json → Option CharacterData
  | 0, _ => none
  | levels + 1, value => match slots? ["tokens", "location"] value with
    | some [tokens, span] => do
      let tokens ← tokens.orElse [] (list? (Token.ofJson? whole) levels)
      let span ← span.orElse default (Span.ofJson? levels)
      return ⟨tokens, span⟩
    | _ => none

def Reference.members (part : Reference) : List (String × Json) :=
  [("token", part.token.toJson), ("location", part.span.toJson)]

def Reference.toJson (part : Reference) : Json :=
  .ofMembers part.members

def Reference.ofJson? (whole : Bool) : Nat → Json → Option Reference
  | 0, _ => none
  | levels + 1, value => match slots? ["token", "location"] value with
    | some [token, span] => do
      return ⟨← token.required (Token.ofJson? whole levels), ← span.required (Span.ofJson? levels)⟩
    | _ => none

mutual

def Element.members : Element → List (String × Json)
  | ⟨openAngle, name, attributes, startClose, content, slashOpen, endName, close, slashClose, span⟩ =>
    [("open", slotToJson openAngle), ("name", slotToJson name),
     ("attributes", .ofList Attribute.toJson attributes), ("startClose", slotToJson startClose),
     ("content", match content with
      | some content => content.toJson
      | none => .null),
     ("slashOpen", slotToJson slashOpen), ("endName", slotToJson endName), ("close", slotToJson close),
     ("slashClose", slotToJson slashClose), ("location", span.toJson)]

def Content.toJson : Content → Json
  | ⟨parts, span⟩ => .ofMembers [("parts", .array (partsToJson parts)), ("location", span.toJson)]

def partsToJson : List ContentPart → List Json
  | [] => []
  | part :: rest => part.toJson :: partsToJson rest

def ContentPart.toJson : ContentPart → Json
  | .element child => .ofMembers (("part", .ofString "element") :: child.members)
  | .text run => .ofMembers (("part", .ofString "chardata") :: run.members)
  | .reference part => .ofMembers (("part", .ofString "reference") :: part.members)
  | .cdata token => .ofMembers (("part", .ofString "cData") :: token.members)
  | .processingInstruction token =>
    .ofMembers (("part", .ofString "processingInstruction") :: token.members)
  | .comment token => .ofMembers (("part", .ofString "comment") :: token.members)

end

def Element.toJson (element : Element) : Json :=
  .ofMembers element.members

/-- What a part of content says it is. -/
inductive PartKind where
  | element
  | text
  | reference
  | cdata
  | processingInstruction
  | comment
deriving DecidableEq, Repr

def PartKind.all : List PartKind :=
  [.element, .text, .reference, .cdata, .processingInstruction, .comment]

def PartKind.label : PartKind → String
  | .element => "element"
  | .text => "chardata"
  | .reference => "reference"
  | .cdata => "cData"
  | .processingInstruction => "processingInstruction"
  | .comment => "comment"

/-- The kind is named, or inside another part numbered from zero. -/
def PartKind.ofJson? (whole : Bool) : Json → Option PartKind
  | .string (some label) => PartKind.all.find? fun kind => kind.label = label
  | .count index => if whole then PartKind.all[index]? else none
  | _ => none

/-- The kind of a part and its fields: the member `part` and the others, or the first item and the rest. -/
def splitPart? : Json → Option (Json × Json)
  | .object members =>
    match members.filter fun member => member.1 = some "part" with
    | [(_, kind)] => some (kind, .object (members.filter fun member => member.1 ≠ some "part"))
    | _ => none
  | .array (kind :: fields) => some (kind, .array fields)
  | _ => none

/-- Read a part, given how to read an element at the same level. -/
def ContentPart.read? (whole : Bool) (levels : Nat) (readElement : Json → Option Element) (value : Json) :
    Option ContentPart := do
  if !value.within levels then none
  let (kind, fields) ← splitPart? value
  match ← PartKind.ofJson? whole kind with
  | .element => (readElement fields).map .element
  | .text => (CharacterData.ofJson? true levels fields).map .text
  | .reference => (Reference.ofJson? true levels fields).map .reference
  | .cdata => (Token.ofJson? true levels fields).map .cdata
  | .processingInstruction => (Token.ofJson? true levels fields).map .processingInstruction
  | .comment => (Token.ofJson? true levels fields).map .comment

mutual

def Element.ofJson? (whole : Bool) : Nat → Json → Option Element
  | 0, _ => none
  | levels + 1, value =>
    match slots? ["open", "name", "attributes", "startClose", "content", "slashOpen", "endName", "close",
      "slashClose", "location"] value with
    | some [openAngle, name, attributes, startClose, content, slashOpen, endName, close, slashClose,
        span] => do
      let openAngle ← slotOfJson? whole levels openAngle
      let name ← slotOfJson? whole levels name
      let attributes ← attributes.orElse [] (list? (Attribute.ofJson? whole) levels)
      let startClose ← slotOfJson? whole levels startClose
      let content ← content.orElse none (option? (Content.ofJson? whole levels))
      let slashOpen ← slotOfJson? whole levels slashOpen
      let endName ← slotOfJson? whole levels endName
      let close ← slotOfJson? whole levels close
      let slashClose ← slotOfJson? whole levels slashClose
      let span ← span.orElse default (Span.ofJson? levels)
      return ⟨openAngle, name, attributes, startClose, content, slashOpen, endName, close, slashClose, span⟩
    | _ => none

def Content.ofJson? (whole : Bool) : Nat → Json → Option Content
  | 0, _ => none
  | levels + 1, value => match slots? ["parts", "location"] value with
    | some [parts, span] => do
      let parts ← parts.orElse [] (partsOfJson? whole levels)
      let span ← span.orElse default (Span.ofJson? levels)
      return ⟨parts, span⟩
    | _ => none

def partsOfJson? (whole : Bool) : Nat → Json → Option (List ContentPart)
  | levels + 1, .array items => items.mapM (ContentPart.read? whole levels (Element.ofJson? true levels))
  | _, _ => none

end

def ContentPart.ofJson? (levels : Nat) : Json → Option ContentPart :=
  ContentPart.read? false levels (Element.ofJson? true levels)

def Prolog.toJson (prolog : Prolog) : Json :=
  .ofMembers
    [("xmlDeclOpen", slotToJson prolog.declarationOpen),
     ("attributes", .ofList Attribute.toJson prolog.attributes),
     ("specialClose", slotToJson prolog.specialClose), ("location", prolog.span.toJson)]

def Prolog.ofJson? : Nat → Json → Option Prolog
  | 0, _ => none
  | levels + 1, value =>
    match slots? ["xmlDeclOpen", "attributes", "specialClose", "location"] value with
    | some [declarationOpen, attributes, specialClose, span] => do
      let declarationOpen ← slotOfJson? false levels declarationOpen
      let attributes ← attributes.orElse [] (list? (Attribute.ofJson? false) levels)
      let specialClose ← slotOfJson? false levels specialClose
      let span ← span.orElse default (Span.ofJson? levels)
      return ⟨declarationOpen, attributes, specialClose, span⟩
    | _ => none

def Misc.toJson (misc : Misc) : Json :=
  .ofMembers [("token", misc.token.toJson)]

def Misc.ofJson? : Nat → Json → Option Misc
  | 0, _ => none
  | levels + 1, value => match slots? ["token"] value with
    | some [token] => (token.required (Token.ofJson? false levels)).map .mk
    | _ => none

def Tree.toJson (tree : Tree) : Json :=
  .ofMembers
    [("prolog", .ofOption Prolog.toJson tree.prolog), ("misc", .ofList Misc.toJson tree.misc),
     ("element", .ofOption Element.toJson tree.element), ("location", tree.span.toJson)]

def Tree.ofJson? : Nat → Json → Option Tree
  | 0, _ => none
  | levels + 1, value => match slots? ["prolog", "misc", "element", "location"] value with
    | some [prolog, misc, element, span] => do
      let prolog ← prolog.orElse none (option? (Prolog.ofJson? levels))
      let misc ← misc.orElse [] (list? Misc.ofJson? levels)
      let element ← element.orElse none (option? (Element.ofJson? false levels))
      let span ← span.orElse default (Span.ofJson? levels)
      return ⟨prolog, misc, element, span⟩
    | _ => none

end Markup

end ContentAssist
