import ContentAssist.Schema.Basic
import ContentAssist.Yaml.Reading

/-! The YAML form of schemas. It has the same records as the JSON form; unknown entries are passed over. -/
namespace ContentAssist.Schema

open Yaml (Node Reading Targets Value)

variable {P : Type} [PatternReader P]

/-- Whether a key is that of the pattern. A count is the number of a field, of which there is one; other
kinds of keys are refused. -/
def isPatternKey? : Value → Option Bool
  | .string name => some (name = "pattern")
  | .count index => some (index = 0)
  | _ => none

/-- The pattern of a mapping, which gives it once. -/
def patternSource? (entries : List (Value × Value)) : Option String := do
  let marks ← entries.mapM fun entry => isPatternKey? entry.1
  match (entries.zip marks).filter Prod.snd with
  | [((_, source), _)] => source.string?
  | _ => none

def Constraint.ofValue? : Value → Option (Constraint P)
  | .string text => some (.exact text)
  | .sequence items => (items.mapM Value.string?).map .oneOf
  | .mapping entries => do
    return .matching (← PatternReader.ofSource? (← patternSource? entries))
  | _ => none

def Constraint.read (targets : Targets) (levels : Nat) (node : Node Nat) : Reading (Constraint P) := do
  match Constraint.ofValue? (← Reading.value targets levels node) with
  | some constraint => pure constraint
  | none => failure

def Attribute.read (targets : Targets) : Nat → Node Nat → Reading (Attribute P)
  | 0, _ => failure
  | levels + 1, node => do
    match ← Reading.entries targets false ["key", "required", "value"] node with
    | [key, required, value] =>
      let key ← Reading.required (Reading.text targets) key
      let required ← Reading.orElse false (Reading.bool targets) required
      let value ← Reading.orElse none (Reading.option targets (Constraint.read targets levels)) value
      pure ⟨key, required, value⟩
    | _ => failure

def Element.read (targets : Targets) : Nat → Node Nat → Reading (Element P)
  | 0, _ => failure
  | levels + 1, node => do
    match ← Reading.entries targets false ["name", "required", "attributes", "elements"] node with
    | [name, required, attributes, elements] =>
      let name ← Reading.required (Reading.text targets) name
      let required ← Reading.orElse false (Reading.bool targets) required
      let attributes ← Reading.orElse [] (fun node => do
        match levels, ← Reading.items targets node with
        | levels + 1, items => items.mapM (Attribute.read targets levels)
        | 0, [] => pure []
        | 0, _ => failure) attributes
      let elements ← Reading.orElse [] (fun node => do
        match levels, ← Reading.items targets node with
        | levels + 1, items => items.mapM (Element.read targets levels)
        | 0, [] => pure []
        | 0, _ => failure) elements
      pure ⟨name, required, attributes, elements⟩
    | _ => failure

/-- Read a schema from its YAML text. -/
def Element.parseYaml? (text : String) : Option (Element P) := do
  let document ← Yaml.Document.parse? text
  document.read? (Element.read document.targets Yaml.maxLevels)

end ContentAssist.Schema
