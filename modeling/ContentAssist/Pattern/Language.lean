/-! What patterns are to a schema. It shows the text that a pattern is written as, asks whether the pattern occurs in
a value, and reads patterns from their texts. Nothing else about a pattern matters to it, so schemas are made of
patterns of any kind. -/
namespace ContentAssist

/-- Patterns that can be looked for. -/
class PatternLanguage (P : Type) where
  /-- The text that the pattern is written as -/
  source : P → String
  /-- Whether the pattern occurs anywhere in the text -/
  occursIn : P → String → Bool

/-- Patterns that can also be read. -/
class PatternReader (P : Type) extends PatternLanguage P where
  /-- The pattern that the text stands for, if it stands for one -/
  ofSource? : String → Option P
  /-- A pattern is written as a text that stands for it. -/
  ofSource?_source (pattern : P) : ofSource? (source pattern) = some pattern

end ContentAssist
