import ContentAssist.Completion.Rules
import ContentAssist.Snapshot

/-! Finding what can be completed at a cursor. The concrete tree and the document are walked side by side,
and the first element with an answer gives it: an element's own tag comes before its sub-elements, and these
before its body. -/
namespace ContentAssist.Completion

mutual

/-- The answer of an element and its sub-elements. -/
def resolveElement (document : Document) (offset : Nat) :
    Markup.Element → Document.Element → Option Context
  | ⟨openAngle, name, attributes, startClose, content, slashOpen, endName, close, slashClose, span⟩, element =>
    let markup : Markup.Element :=
      ⟨openAngle, name, attributes, startClose, content, slashOpen, endName, close, slashClose, span⟩
    (ownTag markup element offset).or
      ((match content with
        | some content => resolveContent document offset content element
        | none => none).or
      (ownBody markup element offset))

def resolveContent (document : Document) (offset : Nat) :
    Markup.Content → Document.Element → Option Context
  | ⟨parts, _⟩, element => resolveParts document offset element 0 parts

/-- The answers of the sub-elements, each paired with the sub-element of the same number in the document.
One without a partner has no answer. -/
def resolveParts (document : Document) (offset : Nat) (element : Document.Element) (index : Nat) :
    List Markup.ContentPart → Option Context
  | [] => none
  | part :: rest =>
    (resolvePart document offset (document.subElement? element index) part).or
      (resolveParts document offset element (if part.element?.isSome then index + 1 else index) rest)

def resolvePart (document : Document) (offset : Nat) (partner : Option Document.Element) :
    Markup.ContentPart → Option Context
  | .element child => match partner with
    | some element => resolveElement document offset child element
    | none => none
  | _ => none

end

/-- What can be completed with the cursor before the character at the offset. -/
def resolve (tree : Markup.Tree) (document : Document) (offset : Nat) : Option Context := do
  let markup ← tree.element
  let root ← document.rootElement?
  resolveElement document offset markup root

end ContentAssist.Completion

namespace ContentAssist

def Snapshot.complete (snapshot : Snapshot) (offset : Nat) : Option Completion.Context :=
  Completion.resolve snapshot.tree snapshot.document offset

/-- The completion as a JSON value, `null` where there is none. -/
def Snapshot.completionReport (snapshot : Snapshot) (offset : Nat) : Json :=
  .ofOption Completion.Context.toJson (snapshot.complete offset)

end ContentAssist
