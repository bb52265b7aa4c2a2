/-! Positions in a text. Offsets count characters from zero, and a span includes both of its ends. -/
namespace ContentAssist

/-- The characters from `startOffset` to `endOffset`, both included. Nothing forces the ends into order: a
span that was read from a file may be empty. -/
structure Span where
  startOffset : Nat
  endOffset : Nat
deriving DecidableEq, Repr, Inhabited

namespace Span

def contains (span : Span) (offset : Nat) : Bool :=
  span.startOffset ≤ offset && offset ≤ span.endOffset

/-- The least span that includes both. -/
def cover (a b : Span) : Span :=
  ⟨min a.startOffset b.startOffset, max a.endOffset b.endOffset⟩

theorem contains_iff (span : Span) (offset : Nat) :
    span.contains offset = true ↔ span.startOffset ≤ offset ∧ offset ≤ span.endOffset := by
  simp [contains]

end Span

end ContentAssist
