import ContentAssist.Yaml.Node

/-! A document with its anchors. -/
namespace ContentAssist.Yaml

/-- The anchors that are known at a place, each with the number of its node. -/
abbrev Anchors := List (String × Nat)

namespace Anchors

/-- Give a number to the node with the anchor, which is known by that number from there on. The number is that
of the names known before, so a name that is given again shares its number with the next new name. -/
def add (anchors : Anchors) (anchor : Option String) : Option Nat × Anchors :=
  match anchor with
  | none => (none, anchors)
  | some name => (some anchors.length, (name, anchors.length) :: anchors.filter fun entry => entry.1 ≠ name)

end Anchors

/-- The nodes that aliases stand for, by number, in the order in which they start. Of several with one number
the last counts. -/
abbrev Targets := List (Nat × Node Nat)

def Targets.find? (targets : Targets) (number : Nat) : Option (Node Nat) :=
  ((targets.filter fun entry => entry.1 = number).getLast?).map Prod.snd

/-- The node itself, if it has a number, before those inside it. -/
def Targets.ofNode (number : Option Nat) (node : Node Nat) (inside : Targets) : Targets :=
  (number.map fun number => (number, node)).toList ++ inside

namespace Node

mutual

/-- Put numbers in place of the names of anchors. An alias stands for the node that had its name last; one
without such a node is refused. -/
def number? (anchors : Anchors) : Node String → Option (Node Nat × Targets × Anchors)
  | .alias name => (anchors.lookup name).map fun number => (.alias number, [], anchors)
  | .scalar anchor tag style text =>
    let (number, anchors) := anchors.add anchor
    let node := .scalar anchor tag style text
    some (node, .ofNode number node [], anchors)
  | .sequence anchor tag items => do
    let (number, anchors) := anchors.add anchor
    let (items, targets, anchors) ← numberItems? anchors items
    let node := .sequence anchor tag items
    some (node, .ofNode number node targets, anchors)
  | .mapping anchor tag entries => do
    let (number, anchors) := anchors.add anchor
    let (entries, targets, anchors) ← numberEntries? anchors entries
    let node := .mapping anchor tag entries
    some (node, .ofNode number node targets, anchors)

def numberItems? (anchors : Anchors) : List (Node String) → Option (List (Node Nat) × Targets × Anchors)
  | [] => some ([], [], anchors)
  | item :: rest => do
    let (item, targets, anchors) ← number? anchors item
    let (rest, more, anchors) ← numberItems? anchors rest
    some (item :: rest, targets ++ more, anchors)

def numberEntries? (anchors : Anchors) :
    List (Node String × Node String) → Option (List (Node Nat × Node Nat) × Targets × Anchors)
  | [] => some ([], [], anchors)
  | (key, value) :: rest => do
    let (key, keyTargets, anchors) ← number? anchors key
    let (value, valueTargets, anchors) ← number? anchors value
    let (rest, more, anchors) ← numberEntries? anchors rest
    some ((key, value) :: rest, keyTargets ++ valueTargets ++ more, anchors)

end

mutual

/-- How many starts and ends of nodes there are, where scalars and aliases have no end of their own. -/
def events {α : Type} : Node α → Nat
  | .alias _ => 1
  | .scalar _ _ _ _ => 1
  | .sequence _ _ items => eventsOfItems items + 2
  | .mapping _ _ entries => eventsOfEntries entries + 2

def eventsOfItems {α : Type} : List (Node α) → Nat
  | [] => 0
  | item :: rest => events item + eventsOfItems rest

def eventsOfEntries {α : Type} : List (Node α × Node α) → Nat
  | [] => 0
  | (key, value) :: rest => events key + events value + eventsOfEntries rest

end

end Node

/-- The document of a text. It has no root where the text is empty. -/
structure Document where
  root : Option (Node Nat)
  targets : Targets
  events : Nat

/-- Read a text with at most one document. -/
def Document.parse? (text : String) : Option Document := do
  let tokens ← Token.scan? text
  match ← Node.ofTokens? tokens with
  | none => some ⟨none, [], 1⟩
  | some root =>
    let (numbered, targets, _) ← Node.number? [] root
    some ⟨some numbered, targets, root.events⟩

end ContentAssist.Yaml
