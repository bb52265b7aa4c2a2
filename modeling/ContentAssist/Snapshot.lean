import ContentAssist.Document.Json
import ContentAssist.Document.OfTree
import ContentAssist.Json.Reader
import ContentAssist.Json.Writer
import ContentAssist.Markup.Reader

/-! A snapshot: the concrete tree of a text together with the document that it describes. Nothing forces the
two halves of a snapshot that was read from a file to belong together. -/
namespace ContentAssist

structure Snapshot where
  tree : Markup.Tree
  document : Document
deriving BEq, Inhabited

namespace Snapshot

/-- Read a text and build its document. -/
def ofText (source : String) : Except Document.ChangeError Snapshot := do
  let tree := Markup.Tree.read source
  return ⟨tree, ← Document.ofTree tree⟩

def toJson (snapshot : Snapshot) : Json :=
  .ofMembers [("cst", snapshot.tree.toJson), ("ast", snapshot.document.toJson)]

def ofJson? : Nat → Json → Option Snapshot
  | 0, _ => none
  | levels + 1, value => match Json.slots? ["cst", "ast"] value with
    | some [tree, document] => do
      let tree ← tree.required (Markup.Tree.ofJson? levels)
      let document ← document.required (Document.ofJson? levels)
      return ⟨tree, document⟩
    | _ => none

/-- Read a snapshot from its JSON text. -/
def parse? (text : String) : Option Snapshot :=
  (Json.parse? text).bind (ofJson? Json.maxLevels)

end Snapshot

end ContentAssist
