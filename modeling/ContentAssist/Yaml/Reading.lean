import ContentAssist.Yaml.Document
import ContentAssist.Yaml.Plain

/-! Reading values out of documents.

How often aliases are followed is limited, so that a short text cannot stand for an enormous value; and so is
the depth of what is read. -/
namespace ContentAssist.Yaml

/-- How many sequences and mappings may stand inside one another. -/
def maxLevels : Nat := 128

/-- Reading takes a number of steps along aliases from those that are left, or fails. -/
abbrev Reading (α : Type) := StateT Nat Option α

/-- How many steps along aliases reading a document may take. -/
def Document.maxSteps (document : Document) : Nat := 100 * document.events

/-- The meaning of a value of any kind. -/
inductive Value where
  | null
  | bool (value : Bool)
  | count (value : Nat)
  | number
  | string (text : String)
  | sequence (items : List Value)
  | mapping (entries : List (Value × Value))

def Value.string? : Value → Option String
  | .string text => some text
  | _ => none

namespace Reading

/-- The tags of scalars that have a meaning here. -/
def coreTag (name : String) : String := "tag:yaml.org,2002:" ++ name

/-- A tag of the document's own. -/
def isOwnTag (tag : Option String) : Bool :=
  tag.any fun tag => tag.toList.head? = some '!'

/-- The node that an alias stands for. -/
def follow (targets : Targets) : Node Nat → Reading (Node Nat)
  | .alias number => fun steps =>
    match steps, targets.find? number with
    | steps + 1, some node => some (node, steps)
    | _, _ => none
  | node => pure node

/-- The text of any scalar. -/
def text (targets : Targets) (node : Node Nat) : Reading String := do
  match ← follow targets node with
  | .scalar _ _ _ text => pure text
  | _ => failure

/-- A truth value, which is written plain, or as a literal block with a tag. -/
def bool (targets : Targets) (node : Node Nat) : Reading Bool := do
  match ← follow targets node with
  | .scalar _ tag style text =>
    if style = .plain || (style = .literal && tag = some (coreTag "bool")) then
      match Plain.bool? text with
      | some value => pure value
      | none => failure
    else failure
  | _ => failure

/-- The items of a sequence. A scalar that is left out is an empty sequence. -/
def items (targets : Targets) (node : Node Nat) : Reading (List (Node Nat)) := do
  match ← follow targets node with
  | .sequence _ _ items => pure items
  | .scalar _ _ .plain "" => pure []
  | _ => failure

/-- The values of the named entries of a mapping. An entry may occur once only; others are passed over, or
refused if the names are all there are. A scalar that is left out is an empty mapping. -/
def entries (targets : Targets) (only : Bool) (names : List String) (node : Node Nat) :
    Reading (List (Option (Node Nat))) := do
  match ← follow targets node with
  | .mapping _ _ entries =>
    let entries ← entries.mapM fun (key, value) => do pure (← text targets key, value)
    if only && !(entries.all fun entry => names.contains entry.1) then failure
    else names.mapM fun name =>
      match entries.filter fun entry => entry.1 = name with
      | [] => pure none
      | [entry] => pure (some entry.2)
      | _ => failure
  | .scalar _ _ .plain "" => pure (names.map fun _ => none)
  | _ => failure

/-- An entry that has to be there. -/
def required {α : Type} (read : Node Nat → Reading α) : Option (Node Nat) → Reading α
  | some node => read node
  | none => failure

/-- An entry that stands for `fallback` where it is missing. -/
def orElse {α : Type} (fallback : α) (read : Node Nat → Reading α) : Option (Node Nat) → Reading α
  | some node => read node
  | none => pure fallback

/-- A value that may be null. With the tag for null nothing else is accepted. -/
def option {α : Type} (targets : Targets) (read : Node Nat → Reading α) (node : Node Nat) :
    Reading (Option α) := do
  let node ← follow targets node
  match node with
  | .scalar _ none .plain text =>
    if text.isEmpty || Plain.isNull text then pure none else some <$> read node
  | .scalar _ (some tag) .plain text =>
    if tag = coreTag "null" then
      if Plain.isNull text then pure none else failure
    else some <$> read node
  | node => some <$> read node

/-- The meaning of a scalar. Only plain ones without a tag are looked at for what they stand for; a tag says it
itself. -/
def scalar (tag : Option String) (style : ScalarStyle) (text : String) : Reading Value :=
  let plain : Plain → Reading Value
    | .null => pure .null
    | .bool value => pure (.bool value)
    | .count value => pure (.count value)
    | .number => pure .number
    | .wide => failure
    | .text => pure (.string text)
  match tag with
  | none => if style = .plain then plain (Plain.ofText text) else pure (.string text)
  | some tag =>
    if tag = coreTag "bool" then
      match Plain.bool? text with
      | some value => pure (.bool value)
      | none => failure
    else if tag = coreTag "int" then
      match Plain.integer? text.toList with
      | some value => plain value
      | none => failure
    else if tag = coreTag "float" then
      if Plain.isFloat text then pure .number else failure
    else if tag = coreTag "null" then
      if Plain.isNull text then pure .null else failure
    else pure (.string text)

/-- A value of any kind. A document's own tags are refused. -/
def value (targets : Targets) : Nat → Node Nat → Reading Value
  | levels, node => do
    match ← follow targets node with
    | .alias _ => failure
    | .scalar _ tag style text => if isOwnTag tag then failure else scalar tag style text
    | .sequence _ tag items =>
      if isOwnTag tag then failure
      else match levels with
        | 0 => failure
        | levels + 1 => do
          let items ← items.mapM (value targets levels)
          pure (.sequence items)
    | .mapping _ tag entries =>
      if isOwnTag tag then failure
      else match levels with
        | 0 => failure
        | levels + 1 => do
          let entries ← entries.mapM fun (key, entry) => do
            let key ← value targets levels key
            let entry ← value targets levels entry
            pure (key, entry)
          pure (.mapping entries)

end Reading

/-- Read the root of a document. An empty text has an empty root. -/
def Document.read? {α : Type} (document : Document) (read : Node Nat → Reading α) : Option α :=
  (read (document.root.getD Node.blank) document.maxSteps).map Prod.fst

end ContentAssist.Yaml
