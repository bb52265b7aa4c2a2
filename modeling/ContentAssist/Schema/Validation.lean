import ContentAssist.Document.Json
import ContentAssist.Schema.Basic

/-! Checking documents against schemas.

An element is checked against the declaration of its name that comes first among those of its parent's
declaration. Elements without a declaration are left alone, with all that is inside them. The check follows
the schema and not the document, so it ends for every document, also for one whose elements contain
themselves. -/
namespace ContentAssist.Schema

variable {P : Type}

/-- What is wrong. -/
inductive Finding (P : Type := Pattern) where
  | missingAttribute (key : String)
  | missingSubElement (name : String)
  | rejectedValue (constraint : Constraint P) (actual : String)
deriving DecidableEq

def Finding.message [PatternLanguage P] : Finding P → String
  | .missingAttribute key => "Missing Required Attribute: <" ++ key ++ ">"
  | .missingSubElement name => "Missing Required Sub-Element: <" ++ name ++ ">"
  | .rejectedValue constraint actual =>
    let asked := match constraint with
      | .exact _ => "Expecting Value <"
      | .matching _ => "Expecting Value matching <"
      | .oneOf _ => "Expecting one of <"
    asked ++ constraint.text ++ "> but found <" ++ actual ++ ">"

/-- Where it is wrong. -/
inductive Subject where
  | element (found : Document.Element)
  | attr (found : Document.Attribute)
deriving DecidableEq

def Subject.span : Subject → Span
  | .element found => found.span
  | .attr found => found.span

def Subject.toJson : Subject → Json
  | .element found => found.toJson
  | .attr found => found.toJson

/-- An error in a document. -/
structure Issue (P : Type := Pattern) where
  finding : Finding P
  subject : Subject
deriving DecidableEq

namespace Issue

def message [PatternLanguage P] (issue : Issue P) : String :=
  issue.finding.message

/-- How bad it is: every issue is an error. -/
def severity : String := "error"

def isError (_issue : Issue P) : Bool :=
  severity = "error"

def toJson [PatternLanguage P] (issue : Issue P) : Json :=
  .ofMembers
    [("msg", .ofString issue.message), ("node", issue.subject.toJson), ("severity", .ofString severity)]

end Issue

/-- The value does not meet the constraint. An attribute without a value meets every constraint. -/
def Attribute.valueIssues [PatternLanguage P] (declaration : Attribute P) (attr : Document.Attribute) :
    List (Issue P) :=
  match declaration.value, attr.value with
  | some constraint, some actual =>
    if constraint.accepts actual then [] else [⟨.rejectedValue constraint actual, .attr attr⟩]
  | _, _ => []

namespace Element

/-- Required attributes that the element has not, in the order of their declarations. -/
def attributeIssues (declaration : Element P) (element : Document.Element) : List (Issue P) :=
  (declaration.attributes.filter fun attr => attr.required && (element.attribute? attr.key).isNone).map
    fun attr => ⟨.missingAttribute attr.key, .element element⟩

/-- Required sub-elements that the element has not, in the order of their declarations. -/
def subElementIssues (document : Document) (declaration : Element P) (element : Document.Element) :
    List (Issue P) :=
  let present := (document.subElements element).filterMap Document.Element.name
  (declaration.elements.filter fun sub => sub.required && !present.contains sub.name).map
    fun sub => ⟨.missingSubElement sub.name, .element element⟩

variable [PatternLanguage P]

/-- Values that are not accepted, in the order of the attributes. -/
def valueIssues (declaration : Element P) (element : Document.Element) : List (Issue P) :=
  element.attributes.flatMap fun attr =>
    match declaration.attribute? attr.key with
    | some declared => declared.valueIssues attr
    | none => []

/-- The issues of one element, without those of its sub-elements. -/
def ownIssues (document : Document) (declaration : Element P) (element : Document.Element) : List (Issue P) :=
  declaration.attributeIssues element ++ declaration.subElementIssues document element
    ++ declaration.valueIssues element

mutual

/-- The issues of an element, followed by those of its sub-elements in order. -/
def issues (document : Document) : Element P → Document.Element → List (Issue P)
  | ⟨name, required, attributes, elements⟩, element =>
    ownIssues document ⟨name, required, attributes, elements⟩ element
      ++ (document.subElements element).flatMap fun sub => issuesAmong document elements sub

/-- The issues of an element under the first declaration of its name. -/
def issuesAmong (document : Document) : List (Element P) → Document.Element → List (Issue P)
  | [], _ => []
  | declaration :: rest, element =>
    if element.name = some declaration.name then declaration.issues document element
    else issuesAmong document rest element

end

/-- The issues of a document. The schema declares its root; a document with another root has none. -/
def documentIssues (schema : Element P) (document : Document) : List (Issue P) :=
  match document.rootElement? with
  | some root => if root.name = some schema.name then schema.issues document root else []
  | none => []

end Element

/-- The issues of a document as they are written out. -/
def issueReport [PatternLanguage P] (issues : List (Issue P)) : Json :=
  .ofList Issue.toJson issues

/-- What a check comes to. -/
structure Report where
  json : Json
  issueCount : Nat
  hasErrors : Bool

def Element.report [PatternLanguage P] (schema : Element P) (document : Document) : Report :=
  let issues := schema.documentIssues document
  ⟨issueReport issues, issues.length, issues.any Issue.isError⟩

end ContentAssist.Schema
