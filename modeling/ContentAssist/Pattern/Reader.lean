import ContentAssist.Pattern.Bracket
import ContentAssist.Pattern.Language
import ContentAssist.Pattern.Size
import ContentAssist.Unicode.Numeric

/-! Patterns as they are written. -/
namespace ContentAssist.Pattern

open ContentAssist.Unicode

/-- A part of a pattern. -/
structure Piece where
  regex : Regex
  /-- The nesting of its writing -/
  depth : Nat
  /-- The room that it takes -/
  size : Nat
  /-- The least number of characters in a match, unless some part of it can never match -/
  shortest : Option Nat
  /-- Nothing but the empty text matches it -/
  hollow : Bool
  /-- A switch of modes is a part too, but one that cannot be repeated -/
  repeatable : Bool := true

namespace Piece

def empty : Piece := ⟨.empty, 0, Size.state, some 0, true, true⟩

/-- A switch of modes. -/
def switch : Piece := ⟨.empty, 0, 0, some 0, true, false⟩

def ofClass (chars : CharClass) (depth : Nat) : Piece :=
  let members := chars.members
  { regex := .symbol chars
    depth
    size := Size.ofRanges members
    shortest := if members.isEmpty then none else some 1
    hollow := false }

def ofLook (word : CharClass) (condition : Look) : Piece :=
  { regex := .look word condition, depth := 0, size := Size.state, shortest := some 0, hollow := true }

/-- A character, with its case variants if it stands for them. -/
def ofChar (mode : Mode) (c : Char) : Piece :=
  let variants := if mode.unicode then caseVariants c.toNat else asciiCaseVariants c.toNat
  if mode.foldCase && 1 < variants.length then ofClass (mode.folded (.single c)) 0
  else
    { regex := .symbol (.single c), depth := 0, size := Size.ofCode c.toNat, shortest := some 1, hollow := false }

def deepest (pieces : List Piece) : Nat :=
  (pieces.map Piece.depth).foldl max 0

def totalSize (pieces : List Piece) : Nat :=
  (pieces.map Piece.size).foldl (· + ·) 0

/-- What is known of how short the pieces can be, if it is known of all of them. -/
def shortestOfEach (pieces : List Piece) : Option (List Nat) :=
  pieces.mapM Piece.shortest

/-- Pieces written one after the other. -/
def sequence : List Piece → Piece
  | [] => empty
  | [piece] => piece
  | first :: rest =>
    { regex := .cat first.regex ((rest.map Piece.regex).foldr .cat .empty)
      depth := 1 + deepest (first :: rest)
      size := totalSize (first :: rest)
      shortest := (shortestOfEach (first :: rest)).map fun lengths => lengths.foldl (· + ·) 0
      hollow := (first :: rest).all Piece.hollow }

/-- The class of a piece that stands for single characters. -/
def chars? (piece : Piece) : Option CharClass :=
  match piece.regex with
  | .symbol chars => some chars
  | _ => none

/-- The room for alternatives. Those that stand for single characters make one class. -/
def choiceSize (pieces : List Piece) : Nat :=
  match pieces.mapM chars? with
  | some classes => Size.ofRanges (CharClass.unionAll classes).members
  | none => Size.fork pieces.length + totalSize pieces + Size.state

/-- Alternatives. -/
def choice : List Piece → Piece
  | [] => empty
  | [piece] => piece
  | first :: rest =>
    { regex := (rest.map Piece.regex).foldl .alt first.regex
      depth := 1 + deepest (first :: rest)
      size := choiceSize (first :: rest)
      shortest := (shortestOfEach (first :: rest)).bind List.min?
      hollow := (first :: rest).all Piece.hollow }

/-- A piece in parentheses. What a group matched is kept if it is to be, which takes room. -/
def group (captures : Bool) (piece : Piece) : Piece :=
  { regex := piece.regex
    depth := piece.depth + 1
    size := piece.size + if captures then 2 * Size.state else 0
    shortest := piece.shortest
    hollow := piece.hollow }

/-- How often a piece is written out for a repetition. What takes up no text is there once or not at all. -/
def copies (piece : Piece) (least : Nat) (most : Option Nat) : Nat × Option Nat :=
  if piece.hollow then (min least 1, some (min (most.getD 1) 1)) else (least, most)

/-- The room for a repetition. -/
def repeatedSize (piece : Piece) (least : Nat) (most : Option Nat) : Nat :=
  match piece.copies least most with
  | (_, some 0) => Size.state
  | (1, some 1) => piece.size
  | (least, most) => Size.repeated piece.size (piece.shortest.any (0 < ·)) least most

def repeated (piece : Piece) (least : Nat) (most : Option Nat) : Piece :=
  { regex := .repeated piece.regex least most
    depth := piece.depth + 1
    size := piece.repeatedSize least most
    shortest := if most = some 0 then some 0 else piece.shortest.map ((piece.copies least most).1 * ·)
    hollow := piece.hollow || most = some 0 }

end Piece

namespace Reader

/-- Repetitions count up to this number. -/
def maxCount : Nat := 4294967295

/-- Decimal digits, with the rest behind them and behind blanks on both sides. -/
def digits (mode : Mode) : Nat → List Char → List Char × List Char
  | 0, text => ([], text)
  | budget + 1, text =>
    match text with
    | c :: rest =>
      if c.isDigit then
        let (more, rest) := digits mode budget (mode.skip rest)
        (c :: more, rest)
      else ([], (c :: rest).dropWhile isWhiteSpace)
    | [] => ([], [])

/-- A count in a repetition. The outer answer is whether digits were there at all. -/
def count (mode : Mode) (text : List Char) : Option (List Char) × List Char :=
  let (digits, rest) := digits mode text.length (text.dropWhile isWhiteSpace)
  (if digits.isEmpty then none else some digits, rest)

def countValue? (digits : Option (List Char)) : Option Nat := do
  let value := (← digits).foldl (fun value c => value * 10 + (c.toNat - '0'.toNat)) 0
  if value ≤ maxCount then some value else none

/-- The bounds of a repetition in braces, from behind the opening brace on. A question mark behind the
closing brace belongs to it. -/
def bounds? (mode : Mode) (text : List Char) : Option (Nat × Option Nat × List Char) := do
  let (least, rest) := count mode (mode.skip text)
  let least ← countValue? least
  let (most, rest) ←
    match rest with
    | ',' :: rest =>
      match mode.skip rest with
      | '}' :: rest => some (none, '}' :: rest)
      | rest =>
        let (most, rest) := count mode rest
        (countValue? most).map fun most => (some most, rest)
    | rest => some (some least, rest)
  if most.any (· < least) then none
  else match rest with
  | '}' :: rest =>
    match mode.skip rest with
    | '?' :: rest => some (least, most, rest)
    | rest => some (least, most, rest)
  | _ => none

/-- The switches of a group up to a colon or a closing parenthesis. The answer holds the new mode, whether
there were any switches, that last character, and the rest. -/
def switches? (mode : Mode) (seen : List Char) (value : Bool) : List Char → Option (Mode × Bool × Char × List Char)
  | [] => none
  | c :: rest =>
    if c = ':' || c = ')' then
      if seen.head? = some '-' then none else some (mode, !seen.isEmpty, c, rest)
    else if seen.contains c then none
    else if c = '-' then switches? mode (c :: seen) false rest
    else match mode.set? c value with
      | some mode => switches? mode (c :: seen) value rest
      | none => none

/-- Whether the characters are the name of a group. -/
def isGroupName : List Char → Bool
  | [] => false
  | first :: rest =>
    (first = '_' || isAlphabetic first) &&
      rest.all fun c => c = '_' || c = '.' || c = '[' || c = ']' || isAlphabetic c || isNumeric c

/-- What stands behind an opening parenthesis. -/
inductive Opening where
  /-- A group in the given mode, and whether what it matches is kept, perhaps under a name -/
  | group (mode : Mode) (captures : Bool) (name : Option (List Char))
  /-- Switches for the rest of the enclosing group -/
  | switches (mode : Mode)

def groupName? (mode : Mode) (text : List Char) : Option (Opening × List Char) := do
  let (name, rest) ← Escape.splitAt? '>' text
  if isGroupName name then some (.group mode true (some name), rest) else none

def opening? (mode : Mode) (text : List Char) : Option (Opening × List Char) :=
  match mode.skip text with
  | '?' :: 'P' :: '<' :: rest => groupName? mode rest
  | '?' :: '<' :: rest => groupName? mode rest
  | '?' :: rest =>
    match switches? mode [] true rest with
    | some (inner, given, last, rest) =>
      if last = ':' then some (.group inner false none, rest)
      else if given then some (.switches inner, rest)
      else none
    | none => none
  | rest => some (.group mode true none, rest)

/-- A part that is none of the signs for grouping, choice and repetition. -/
def atom? (mode : Mode) (text : List Char) : Option (Piece × List Char) :=
  match text with
  | [] => none
  | '\\' :: rest =>
    (Escape.read? mode rest).map fun (atom, rest) =>
      match atom with
      | .literal c => (.ofChar mode c, rest)
      | .look condition => (.ofLook mode.wordChars condition, rest)
      | .chars chars => (.ofClass chars 0, rest)
  | '.' :: rest => mode.dot?.map fun chars => (.ofClass chars 0, rest)
  | '^' :: rest => some (.ofLook mode.wordChars mode.caret, rest)
  | '$' :: rest => some (.ofLook mode.wordChars mode.dollar, rest)
  | c :: rest => some (.ofChar mode c, rest)

/-- The last piece read, repeated. -/
def repeatLast? (pieces : List Piece) (least : Nat) (most : Option Nat) : Option (List Piece) :=
  match pieces with
  | [] => none
  | last :: rest => if last.repeatable then some (last.repeated least most :: rest) else none

/-- The text behind a question mark, if there is one. -/
def dropQuestion : List Char → List Char
  | '?' :: rest => rest
  | rest => rest

/-- The pieces up to the end or to a closing parenthesis, which is left. `pieces` holds what was read of the
present alternative and `done` the alternatives before it, both with the last one first. `names` are the names
of groups so far. -/
def pieces? : Nat → Mode → List (List Char) → List Piece → List Piece → List Char →
    Option (Piece × List (List Char) × List Char)
  | 0, _, _, _, _, _ => none
  | budget + 1, mode, names, pieces, done, text =>
    let finished := Piece.choice (Piece.sequence pieces.reverse :: done).reverse
    match mode.skip text with
    | [] => some (finished, names, [])
    | ')' :: rest => some (finished, names, ')' :: rest)
    | '|' :: rest => pieces? budget mode names [] (Piece.sequence pieces.reverse :: done) rest
    | '(' :: rest =>
      match opening? mode rest with
      | none => none
      | some (.switches mode, rest) => pieces? budget mode names (.switch :: pieces) done rest
      | some (.group inner captures name, rest) =>
        if name.any names.contains then none
        else match pieces? budget inner (name.toList ++ names) [] [] rest with
        | some (inside, names, ')' :: rest) => pieces? budget mode names (inside.group captures :: pieces) done rest
        | _ => none
    | '[' :: rest =>
      match Bracket.read? mode rest with
      | some (member, rest) =>
        pieces? budget mode names (.ofClass member.chars member.depth :: pieces) done rest
      | none => none
    | '?' :: rest =>
      match repeatLast? pieces 0 (some 1) with
      | some pieces => pieces? budget mode names pieces done (dropQuestion rest)
      | none => none
    | '*' :: rest =>
      match repeatLast? pieces 0 none with
      | some pieces => pieces? budget mode names pieces done (dropQuestion rest)
      | none => none
    | '+' :: rest =>
      match repeatLast? pieces 1 none with
      | some pieces => pieces? budget mode names pieces done (dropQuestion rest)
      | none => none
    | '{' :: rest =>
      match bounds? mode rest with
      | some (least, most, rest) =>
        match repeatLast? pieces least most with
        | some pieces => pieces? budget mode names pieces done rest
        | none => none
      | none => none
    | text =>
      match atom? mode text with
      | some (piece, rest) => pieces? budget mode names (piece :: pieces) done rest
      | none => none

end Reader

/-- Deeper nesting than this is refused. -/
def maxDepth : Nat := 250

/-- Read a pattern. One that is nested too deep or takes too much room is refused. -/
def Regex.read? (source : String) : Option Regex :=
  match Reader.pieces? (source.length + 1) {} [] [] [] source.toList with
  | some (piece, _, []) =>
    if piece.depth ≤ maxDepth && piece.size + Size.base ≤ Size.limit then some piece.regex else none
  | _ => none

end ContentAssist.Pattern

namespace ContentAssist

/-- A pattern with the text it was read from. -/
structure Pattern where
  source : String
  regex : Pattern.Regex
  read : Pattern.Regex.read? source = some regex

namespace Pattern

def ofSource? (source : String) : Option Pattern :=
  match h : Regex.read? source with
  | some regex => some ⟨source, regex, h⟩
  | none => none

theorem ofSource?_source (pattern : Pattern) : ofSource? pattern.source = some pattern := by
  obtain ⟨source, regex, hRead⟩ := pattern
  unfold ofSource?
  split
  · rename_i other hOther
    simp only [Option.some.injEq, Pattern.mk.injEq, true_and]
    exact Option.some.inj (hOther.symm.trans hRead)
  · rename_i hNone
    dsimp only at hNone
    rw [hRead] at hNone
    cases hNone

/-- Whether the pattern occurs anywhere in the text. -/
def occursIn (pattern : Pattern) (text : String) : Bool :=
  pattern.regex.occursIn text

/-- These are the patterns that the program has. -/
@[default_instance]
instance : PatternReader Pattern where
  source := source
  occursIn := occursIn
  ofSource? := ofSource?
  ofSource?_source := ofSource?_source

/-- What a pattern stands for depends on its text alone. -/
instance : DecidableEq Pattern := fun a b =>
  if h : a.source = b.source then
    isTrue (by
      obtain ⟨source, regex, hRead⟩ := a
      obtain ⟨source', regex', hRead'⟩ := b
      subst h
      have hSame : regex = regex' := Option.some.inj (hRead.symm.trans hRead')
      subst hSame
      rfl)
  else isFalse fun hSame => h (congrArg Pattern.source hSame)

end Pattern

end ContentAssist
