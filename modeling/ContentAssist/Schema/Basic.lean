import ContentAssist.Pattern.Reader

/-! What a schema declares. A schema is the declaration of one element: its attributes and its sub-elements,
in the order in which they are written. Values may be asked to match patterns, which can be of any kind; where none
is named they are those of the program. -/
namespace ContentAssist.Schema

/-- What is asked of the value of an attribute. -/
inductive Constraint (P : Type := Pattern) where
  /-- The value is this text -/
  | exact (value : String)
  /-- The pattern occurs in the value -/
  | matching (pattern : P)
  /-- The value is one of these texts -/
  | oneOf (values : List String)
deriving DecidableEq

def Constraint.accepts {P : Type} [PatternLanguage P] : Constraint P → String → Bool
  | .exact value, actual => actual = value
  | .matching pattern, actual => PatternLanguage.occursIn pattern actual
  | .oneOf values, actual => values.contains actual

/-- The constraint as it is shown in messages. -/
def Constraint.text {P : Type} [PatternLanguage P] : Constraint P → String
  | .exact value => value
  | .matching pattern => "/" ++ PatternLanguage.source pattern ++ "/"
  | .oneOf values => ",".intercalate values

/-- A declared attribute. Without a constraint every value is accepted. -/
structure Attribute (P : Type := Pattern) where
  key : String
  required : Bool := false
  value : Option (Constraint P) := none
deriving DecidableEq

/-- A declared element. -/
structure Element (P : Type := Pattern) where
  name : String
  required : Bool := false
  attributes : List (Attribute P) := []
  elements : List (Element P) := []

namespace Element

variable {P : Type}

/-- The first declaration with the key. -/
def attribute? (declaration : Element P) (key : String) : Option (Attribute P) :=
  declaration.attributes.find? fun attr => attr.key = key

/-- The first declaration with the name. -/
def element? (declaration : Element P) (name : String) : Option (Element P) :=
  declaration.elements.find? fun sub => sub.name = name

mutual

/-- All declared attributes, those of an element before those of its sub-elements. -/
def allAttributes : Element P → List (Attribute P)
  | ⟨_, _, attributes, elements⟩ => attributes ++ allAttributesAmong elements

def allAttributesAmong : List (Element P) → List (Attribute P)
  | [] => []
  | element :: rest => element.allAttributes ++ allAttributesAmong rest

end

end Element

end ContentAssist.Schema
