import ContentAssist.Pattern.CharClass

/-! Patterns and the texts in which they occur.

A pattern is run on sets of places in the text at once. From a set of places where it may start, it gives the
set of places where it may end; so the work grows with the pattern and the text, and never with the number of
ways in which one matches the other. -/
namespace ContentAssist.Pattern

/-- A condition on a place in the text. -/
inductive Look where
  | textStart
  | textEnd
  | lineStart
  | lineEnd
  /-- At the start of a line, where lines may also end in a carriage return -/
  | crlfLineStart
  | crlfLineEnd
  | wordBoundary
  | notWordBoundary
  | wordStart
  | wordEnd
  /-- Not behind a word -/
  | wordStartHalf
  /-- Not before a word -/
  | wordEndHalf
deriving DecidableEq, Repr

/-- Whether the condition holds between two characters. Words are made of the characters of `word`. -/
def Look.holds (word : CharClass) (before after : Option Char) (look : Look) : Bool :=
  let isWord (c : Option Char) : Bool := c.any fun c => word.contains c.toNat
  match look with
  | .textStart => before.isNone
  | .textEnd => after.isNone
  | .lineStart => before.isNone || before = some '\n'
  | .lineEnd => after.isNone || after = some '\n'
  | .crlfLineStart =>
    before.isNone || before = some '\n' || (before = some '\r' && after ≠ some '\n')
  | .crlfLineEnd =>
    after.isNone || after = some '\r' || (after = some '\n' && before ≠ some '\r')
  | .wordBoundary => isWord before != isWord after
  | .notWordBoundary => isWord before == isWord after
  | .wordStart => !isWord before && isWord after
  | .wordEnd => isWord before && !isWord after
  | .wordStartHalf => !isWord before
  | .wordEndHalf => !isWord after

/-- A pattern. Which of several matches is found first makes no difference here, so it has no place for
preferring long or short ones. -/
inductive Regex where
  | empty
  | symbol (chars : CharClass)
  | look (word : CharClass) (condition : Look)
  | cat (a b : Regex)
  | alt (a b : Regex)
  /-- At least `least` times, and at most `most` times if that is given -/
  | repeated (a : Regex) (least : Nat) (most : Option Nat)

/-- A pattern laid onto a text: for each of its symbols and conditions, the places where it holds. Place `i`
is bit `i`. -/
inductive Flow where
  | empty
  | step (places : Nat)
  | stay (places : Nat)
  | cat (a b : Flow)
  | alt (a b : Flow)
  | repeated (a : Flow) (least : Nat) (most : Option Nat)

/-- The set of the places that are marked. -/
def places (marks : List Bool) : Nat :=
  marks.foldr (fun mark rest => 2 * rest + mark.toNat) 0

/-- The characters on both sides of each place. -/
def neighbours (text : List Char) : List (Option Char × Option Char) :=
  (Option.none :: text.map some).zip (text.map some ++ [Option.none])

def Regex.flow (text : List Char) : Regex → Flow
  | .empty => .empty
  | .symbol chars => .step (places (text.map fun c => chars.contains c.toNat))
  | .look word condition =>
    .stay (places ((neighbours text).map fun (before, after) => condition.holds word before after))
  | .cat a b => .cat (a.flow text) (b.flow text)
  | .alt a b => .alt (a.flow text) (b.flow text)
  | .repeated a least most => .repeated (a.flow text) least most

/-- Apply a step the given number of times. Once it changes nothing the rest is left out. -/
def iterate (step : Nat → Nat) : Nat → Nat → Nat
  | 0, places => places
  | count + 1, places =>
    let next := step places
    if next = places then places else iterate step count next

/-- All places that are reached from the given ones. -/
def Flow.run (length : Nat) : Flow → Nat → Nat
  | .empty, places => places
  | .step marked, places => (places &&& marked) <<< 1
  | .stay marked, places => places &&& marked
  | .cat a b, places => b.run length (a.run length places)
  | .alt a b, places => a.run length places ||| b.run length places
  | .repeated a least most, places =>
    let grow (places : Nat) : Nat := places ||| a.run length places
    let reached := iterate (a.run length) least places
    match most with
    | some most => iterate grow (most - least) reached
    | none => iterate grow (length + 1) reached

/-- Whether the pattern occurs anywhere in the text. -/
def Regex.occursIn (regex : Regex) (text : String) : Bool :=
  let chars := text.toList
  (regex.flow chars).run chars.length (Nat.pow 2 (chars.length + 1) - 1) ≠ 0

end ContentAssist.Pattern
