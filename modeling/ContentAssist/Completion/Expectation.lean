import ContentAssist.Completion.Context
import ContentAssist.Text.Quoted

/-! Comparing a completion with what was expected. -/
namespace ContentAssist.Completion

/-- How a completion differs from what was expected. -/
inductive Mismatch where
  | unexpected (kind : Kind) (typed : Option String)
  | missing (kind : Kind)
  | otherKind
  | otherText
deriving DecidableEq, Repr

def Mismatch.message : Mismatch → String
  | .unexpected kind typed =>
    let written := match typed with
      | some text => "Some(" ++ Text.quote text ++ ")"
      | none => "None"
    s!"Expected no context, found {kind.title} with prefix " ++ written
  | .missing kind => s!"Expected {kind.title}, found no context"
  | .otherKind => "assertion `left == right` failed: Provider type mismatch"
  | .otherText => "assertion `left == right` failed: Prefix mismatch"

/-- No completion is expected. -/
def expectNone : Option Context → Option Mismatch
  | some context => some (.unexpected context.kind context.typed)
  | none => none

/-- A completion of this kind with this text typed is expected. -/
def expect (kind : Kind) (typed : Option String) : Option Context → Option Mismatch
  | none => some (.missing kind)
  | some context =>
    if context.kind ≠ kind then some .otherKind
    else if context.typed ≠ typed then some .otherText
    else none

end ContentAssist.Completion
