import ContentAssist.Unicode.Alphabetic
import ContentAssist.Unicode.Numeric
import ContentAssist.Unicode.WhiteSpace

/-! How far each lexeme reaches. Every function looks at the text that is left and answers with a number of
characters, or with nothing where the lexeme does not start here. -/
namespace ContentAssist.Markup.Lexeme

open ContentAssist.Unicode

def isAlphanumeric (c : Char) : Bool :=
  isAlphabetic c || isNumeric c

def isNameStart (c : Char) : Bool :=
  isAlphabetic c || c = '_' || c = ':'

def isNameChar (c : Char) : Bool :=
  isAlphanumeric c || c = '_' || c = ':' || c = '-' || c = '.'

theorem isNameChar_of_isNameStart {c : Char} (h : isNameStart c = true) : isNameChar c = true := by
  simp only [isNameStart, isNameChar, isAlphanumeric, Bool.or_eq_true] at *
  grind

/-- The text starts with `word`. -/
def startsWith (word : String) (text : List Char) : Bool :=
  word.toList.isPrefixOf text

/-- The blanks at the head of the text. -/
def blankLength (text : List Char) : Nat :=
  (text.takeWhile isWhiteSpace).length

/-- A name, as long as it goes. -/
def nameLength? (text : List Char) : Option Nat :=
  match text with
  | [] => none
  | c :: _ => if isNameStart c then some (text.takeWhile isNameChar).length else none

/-- Up to and including the closing quote, which has to come before any `<`. -/
def closingQuote? (quote : Char) : List Char → Option Nat
  | [] => none
  | c :: rest =>
    if c = quote then some 1
    else if c = '<' then none
    else (closingQuote? quote rest).map (· + 1)

/-- A quoted value that is closed. -/
def quotedLength? : List Char → Option Nat
  | [] => none
  | c :: rest => if c = '"' || c = '\'' then (closingQuote? c rest).map (· + 1) else none

/-- One or more letters and numbers, and the semicolon after them. -/
def referenceBody? (text : List Char) : Option Nat :=
  let letters := (text.takeWhile isAlphanumeric).length
  if 0 < letters && (text.drop letters).head? = some ';' then some (letters + 1) else none

/-- A character reference `&#...;` (answered with `true`) or an entity reference `&...;`. -/
def referenceLength? : List Char → Option (Bool × Nat)
  | '&' :: '#' :: rest => (referenceBody? rest).map fun n => (true, n + 2)
  | '&' :: rest => (referenceBody? rest).map fun n => (false, n + 1)
  | _ => none

/-- Up to and including the first `terminator`, or to the end of the text if there is none. -/
def throughTerminator (terminator : String) : List Char → Nat
  | [] => 0
  | c :: rest =>
    if startsWith terminator (c :: rest) then terminator.length
    else throughTerminator terminator rest + 1

/-- A comment, section or instruction: the two characters that open it, and everything through its
terminator. Only two, so the terminator may share characters with the rest of a longer opening: `<!-->` is a
comment. -/
def delimitedLength (terminator : String) (text : List Char) : Nat :=
  throughTerminator terminator (text.drop 2) + 2

/-- Characters up to the next `<` or reference. -/
def plainLength : List Char → Nat
  | [] => 0
  | c :: rest =>
    if c = '<' || (referenceLength? (c :: rest)).isSome then 0 else plainLength rest + 1

/-- A run of text, at least one character whatever that is: a stray `&` is text. -/
def textLength (text : List Char) : Nat :=
  plainLength (text.drop 1) + 1

end ContentAssist.Markup.Lexeme
