import ContentAssist.Json.Reader
import ContentAssist.Json.Record
import ContentAssist.Schema.Basic

/-! The JSON form of schemas. A constraint is a string, an array of strings, or an object with a member
`pattern`. -/
namespace ContentAssist.Schema

open Json (Slot slots? option? list? bool? string?)

variable {P : Type}

def Constraint.toJson [PatternLanguage P] : Constraint P → Json
  | .exact value => .ofString value
  | .oneOf values => .ofList Json.ofString values
  | .matching pattern => .ofMembers [("pattern", .ofString (PatternLanguage.source pattern))]

/-- Which constraint is meant shows in the value itself, so it is looked at as a whole first. -/
def Constraint.ofJson? [PatternReader P] (levels : Nat) (value : Json) : Option (Constraint P) :=
  if !Json.within levels value then none
  else match value with
    | .string text => text.map .exact
    | .array items => (items.mapM string?).map .oneOf
    | .object members => match slots? ["pattern"] (.object members) with
      | some [source] => do
        let source ← source.required string?
        return .matching (← PatternReader.ofSource? source)
      | _ => none
    | _ => none

def Attribute.toJson [PatternLanguage P] (attr : Attribute P) : Json :=
  .ofMembers ([("key", .ofString attr.key), ("required", .bool attr.required)]
    ++ (attr.value.map fun value => ("value", value.toJson)).toList)

def Attribute.ofJson? [PatternReader P] : Nat → Json → Option (Attribute P)
  | 0, _ => none
  | levels + 1, value => match slots? ["key", "required", "value"] value with
    | some [key, required, value] => do
      let key ← key.required string?
      let required ← required.orElse false bool?
      let value ← value.orElse none (option? (Constraint.ofJson? levels))
      return ⟨key, required, value⟩
    | _ => none

mutual

def Element.toJson [PatternLanguage P] : Element P → Json
  | ⟨name, required, attributes, elements⟩ => .ofMembers
    [("name", .ofString name), ("required", .bool required), ("attributes", .ofList Attribute.toJson attributes),
     ("elements", .array (Element.listToJson elements))]

def Element.listToJson [PatternLanguage P] : List (Element P) → List Json
  | [] => []
  | element :: rest => element.toJson :: listToJson rest

end

mutual

def Element.ofJson? [PatternReader P] : Nat → Json → Option (Element P)
  | 0, _ => none
  | levels + 1, value => match slots? ["name", "required", "attributes", "elements"] value with
    | some [name, required, attributes, elements] => do
      let name ← name.required string?
      let required ← required.orElse false bool?
      let attributes ← attributes.orElse [] (list? Attribute.ofJson? levels)
      let elements ← elements.orElse [] (Element.listOfJson? levels)
      return ⟨name, required, attributes, elements⟩
    | _ => none

def Element.listOfJson? [PatternReader P] : Nat → Json → Option (List (Element P))
  | levels + 1, .array items => items.mapM (Element.ofJson? levels)
  | _, _ => none

end

/-- Read a schema from its JSON text. -/
def Element.parseJson? [PatternReader P] (text : String) : Option (Element P) :=
  (Json.parse? text).bind (ofJson? Json.maxLevels)

end ContentAssist.Schema
