/-! A YAML text while it is being read. -/
namespace ContentAssist.Yaml

/-- What is left of a text, and where that starts. -/
structure Input where
  rest : List Char
  index : Nat := 0
  line : Nat := 0
  column : Nat := 0
deriving Repr

/-- Line ends: carriage return, line feed, and the three of Unicode. -/
def isBreak (c : Char) : Bool :=
  c = '\r' || c = '\n' || c = '\x85' || c = '\u2028' || c = '\u2029'

def isBlank (c : Char) : Bool :=
  c = ' ' || c = '\t'

/-- Characters of anchors and of the handles of tags. -/
def isWordChar (c : Char) : Bool :=
  c.isAlphanum || c = '_' || c = '-'

/-- Characters that may occur in a text at all. -/
def isAllowed (c : Char) : Bool :=
  let code := c.toNat
  code = 0x09 || code = 0x0a || code = 0x0d || (0x20 ≤ code && code ≤ 0x7e) || code = 0x85
    || (0xa0 ≤ code && code ≤ 0xfffd) || 0x10000 ≤ code

namespace Input

def ofString (text : String) : Input := { rest := text.toList }

def next? (input : Input) : Option Char := input.rest.head?

/-- The character at some distance. -/
def ahead? (input : Input) (distance : Nat) : Option Char := input.rest[distance]?

def starts (input : Input) (c : Char) : Bool := input.rest.head? = some c

def startsWith (input : Input) (chars : List Char) : Bool := chars.isPrefixOf input.rest

def startsBlank (input : Input) : Bool := input.rest.head?.any isBlank

def startsBreak (input : Input) : Bool := input.rest.head?.any isBreak

/-- At a line end or at the end of the text. -/
def endsLine (input : Input) : Bool := input.rest.head?.all isBreak

/-- No visible character stands at the given distance. -/
def gapAhead (input : Input) (distance : Nat) : Bool :=
  (input.ahead? distance).all fun c => isBlank c || isBreak c

/-- No visible character comes next. -/
def endsWord (input : Input) : Bool := input.gapAhead 0

/-- Pass over a character that is no line end. -/
def skip (input : Input) : Input :=
  { input with rest := input.rest.tail, index := input.index + 1, column := input.column + 1 }

def skipMany (input : Input) (count : Nat) : Input :=
  { input with rest := input.rest.drop count, index := input.index + count, column := input.column + count }

/-- Pass over a line end. A carriage return and a line feed together are one. -/
def skipBreak (input : Input) : Input :=
  match input.rest with
  | '\r' :: '\n' :: rest => { rest, index := input.index + 2, line := input.line + 1, column := 0 }
  | c :: rest =>
    if isBreak c then { rest, index := input.index + 1, line := input.line + 1, column := 0 } else input
  | [] => input

/-- The line end as it stands in the text of a scalar. -/
def breakText (input : Input) : List Char :=
  match input.rest with
  | c :: _ => if c = '\u2028' || c = '\u2029' then [c] else if isBreak c then ['\n'] else []
  | [] => []

/-- Pass over the characters of a kind, none of which is a line end. -/
def skipWhile (input : Input) (kind : Char → Bool) : Input :=
  input.skipMany (input.rest.takeWhile kind).length

/-- Pass over all that is left of a line. -/
def skipLine (input : Input) : Input :=
  input.skipWhile fun c => !isBreak c

/-- At the mark between documents or at the mark of their end. -/
def atDocumentMark (input : Input) : Bool :=
  input.column = 0 && (input.startsWith ['-', '-', '-'] || input.startsWith ['.', '.', '.'])
    && input.gapAhead 3

/-- Pass over blanks and a comment, up to the end of the line and beyond. -/
def finishLine? (input : Input) : Option Input :=
  let input := input.skipWhile isBlank
  let input := if input.starts '#' then input.skipLine else input
  if input.endsLine then some input.skipBreak else none

end Input

end ContentAssist.Yaml
