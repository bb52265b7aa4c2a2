import ContentAssist.Snapshot
import ContentAssist.Text.Quoted

/-! Texts with the cursor marked in them. -/
namespace ContentAssist.Completion.Cursor

/-- Stands for the cursor. -/
def marker : Char := '⇶'

/-- The place of the first marker. -/
def offset? (source : String) : Option Nat :=
  source.toList.findIdx? (· = marker)

/-- The text without its markers. -/
def strip (source : String) : String :=
  String.ofList (source.toList.filter (· ≠ marker))

/-- A text without its cursor, and where that was. -/
structure Marked where
  source : String
  offset : Nat
deriving DecidableEq, Repr

/-- The message for a text without a marker. -/
def missingMessage (source : String) : String :=
  s!"missing cursor marker '{marker}' in " ++ Text.quote source

def read (source : String) : Except String Marked :=
  match offset? source with
  | some offset => .ok ⟨strip source, offset⟩
  | none => .error (missingMessage source)

end ContentAssist.Completion.Cursor
