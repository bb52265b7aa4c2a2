import ContentAssist.Pattern.Regex

/-! How a pattern is read from some point on: the switches that it sets as it goes. -/
namespace ContentAssist.Pattern

open ContentAssist.Unicode

structure Mode where
  /-- Letters also stand for those that differ in case only -/
  foldCase : Bool := false
  /-- `^` and `$` also hold at line ends -/
  lines : Bool := false
  /-- `.` also stands for line ends -/
  dotAll : Bool := false
  /-- Lines may also end in a carriage return -/
  crlf : Bool := false
  /-- Classes range over all characters; without it, over ASCII -/
  unicode : Bool := true
  /-- Blanks and comments in the pattern stand for nothing -/
  free : Bool := false
deriving DecidableEq, Repr

namespace Mode

/-- Turn the switch with the given letter. Which of several matches is preferred is not observed, so its
switch changes nothing. -/
def set? (mode : Mode) (letter : Char) (value : Bool) : Option Mode :=
  match letter with
  | 'i' => some { mode with foldCase := value }
  | 'm' => some { mode with lines := value }
  | 's' => some { mode with dotAll := value }
  | 'R' => some { mode with crlf := value }
  | 'u' => some { mode with unicode := value }
  | 'x' => some { mode with free := value }
  | 'U' => some mode
  | _ => none

/-- The text behind blanks and comments. A comment goes from `#` to the end of its line. -/
def skipBlanks (inComment : Bool) : List Char → List Char
  | [] => []
  | c :: rest =>
    if inComment then skipBlanks (c ≠ '\n') rest
    else if isWhiteSpace c then skipBlanks false rest
    else if c = '#' then skipBlanks true rest
    else c :: rest

def skip (mode : Mode) (text : List Char) : List Char :=
  if mode.free then skipBlanks false text else text

/-- The next character behind blanks. A `#` among them is passed over too, and no more of its comment. -/
def peekBlanks (inComment : Bool) : List Char → Option Char
  | [] => none
  | c :: rest =>
    if isWhiteSpace c then peekBlanks inComment rest
    else if !inComment && c = '#' then peekBlanks true rest
    else some c

def peek (mode : Mode) (text : List Char) : Option Char :=
  if mode.free then peekBlanks false text else text.head?

/-- What stands before the next closing brace, and the text behind it. -/
def untilBrace (mode : Mode) (inComment : Bool) : List Char → Option (List Char × List Char)
  | [] => none
  | c :: rest =>
    if inComment then mode.untilBrace (c ≠ '\n') rest
    else if mode.free && isWhiteSpace c then mode.untilBrace false rest
    else if mode.free && c = '#' then mode.untilBrace true rest
    else if c = '}' then some ([], rest)
    else (mode.untilBrace false rest).map fun (inside, rest) => (c :: inside, rest)

/-- The class with its case variants, if letters stand for them. -/
def folded (mode : Mode) (chars : CharClass) : CharClass :=
  if mode.foldCase then .folded (!mode.unicode) chars else chars

/-- The class or its complement. Complements within ASCII are refused: they would take in parts of
characters. -/
def polarity? (mode : Mode) (negated : Bool) (chars : CharClass) : Option CharClass :=
  if !negated then some chars
  else if mode.unicode then some (.complement chars)
  else none

def wordChars (mode : Mode) : CharClass :=
  if mode.unicode then CharClass.wordChars else CharClass.asciiWordChars

/-- What `.` stands for. -/
def dot? (mode : Mode) : Option CharClass :=
  if !mode.unicode then none
  else if mode.dotAll then some (.allBut [])
  else if mode.crlf then some (.allBut ['\n', '\r'])
  else some (.allBut ['\n'])

def caret (mode : Mode) : Look :=
  if !mode.lines then .textStart else if mode.crlf then .crlfLineStart else .lineStart

def dollar (mode : Mode) : Look :=
  if !mode.lines then .textEnd else if mode.crlf then .crlfLineEnd else .lineEnd

end Mode

end ContentAssist.Pattern
