import ContentAssist.Pattern.Mode

/-! What a backslash and the characters behind it stand for. -/
namespace ContentAssist.Pattern

open ContentAssist.Unicode

/-- The smallest part of a pattern. -/
inductive Atom where
  | literal (c : Char)
  | look (condition : Look)
  | chars (chars : CharClass)

namespace Escape

def isHexDigit (c : Char) : Bool :=
  c.isDigit || ('a' ≤ c && c ≤ 'f') || ('A' ≤ c && c ≤ 'F')

/-- The character with the given number, if there is one. -/
def scalar? (code : Nat) : Option Char :=
  if code.isValidChar then some (Char.ofNat code) else none

/-- The value of hexadecimal digits in either case. -/
def hex? (digits : List Char) : Option Nat :=
  if digits.all isHexDigit && !digits.isEmpty then some (hexValue (digits.map Char.toLower)) else none

/-- The given number of digits, with the rest behind them. -/
def fixedHex (mode : Mode) : Nat → List Char → Option (List Char × List Char)
  | 0, text => some ([], text)
  | count + 1, text =>
    match mode.skip text with
    | [] => none
    | c :: rest =>
      if isHexDigit c then (fixedHex mode count rest).map fun (digits, rest) => (c :: digits, rest)
      else none

/-- A character by its number, in braces or with a fixed count of digits. In ASCII mode the two-digit form
names a byte, which has to be a character of its own. -/
def numbered? (mode : Mode) (count : Nat) (text : List Char) : Option (Atom × List Char) :=
  match mode.skip text with
  | '{' :: rest => do
    let (digits, rest) ← mode.untilBrace false rest
    let c ← scalar? (← hex? digits)
    some (.literal c, rest)
  | _ => do
    let (digits, rest) ← fixedHex mode count text
    let c ← scalar? (← hex? digits)
    if !mode.unicode && count = 2 && c.toNat > 0x7f then none
    else some (.literal c, rest)

/-- The text divided at the first `!=`. -/
def splitNotEqual? : List Char → Option (List Char × List Char)
  | '!' :: '=' :: rest => some ([], rest)
  | c :: rest => (splitNotEqual? rest).map fun (before, after) => (c :: before, after)
  | [] => none

/-- The text divided at the first occurrence of a character. -/
def splitAt? (mark : Char) : List Char → Option (List Char × List Char)
  | [] => none
  | c :: rest =>
    if c = mark then some ([], rest)
    else (splitAt? mark rest).map fun (before, after) => (c :: before, after)

/-- The set that the text between braces names, and whether its complement is meant. A property and its value
are divided by a colon, an equals sign, or the sign for being different. -/
def propertyNamed? (name : List Char) : Option (Bool × PropertySet) :=
  match splitNotEqual? name with
  | some (property, value) => (propertyValue? property value).map fun set => (true, set)
  | none =>
    (match splitAt? ':' name <|> splitAt? '=' name with
    | some (property, value) => propertyValue? property value
    | none => property? name).map fun set => (false, set)

def property? (mode : Mode) (negated : Bool) (text : List Char) : Option (Atom × List Char) := do
  let (name, rest) ←
    match mode.skip text with
    | [] => none
    | '{' :: rest => mode.untilBrace false rest
    | c :: rest => if c = '\\' then none else some ([c], rest)
  let (different, set) ← propertyNamed? name
  if !mode.unicode then none
  else some (.chars (← mode.polarity? (negated != different) (mode.folded (.property set))), rest)

/-- One of the classes `\d`, `\s` and `\w`, given by its small letter. -/
def shorthand (mode : Mode) (letter : Char) : CharClass :=
  match letter, mode.unicode with
  | 'd', true => .digits
  | 'd', false => .asciiDigits
  | 's', true => .whiteSpace
  | 's', false => .asciiSpace
  | _, _ => mode.wordChars

/-- What `\b` stands for, with the text behind it. A brace after it may name a kind of boundary; if no name
starts there, the brace is left for a repetition. -/
def boundary? (mode : Mode) (text : List Char) : Option (Look × List Char) :=
  match text with
  | '{' :: rest =>
    match mode.skip rest with
    | [] => none
    | c :: _ =>
      if c.isAlpha || c = '-' then do
        let (name, rest) ← mode.untilBrace false rest
        match String.ofList name with
        | "start" => some (.wordStart, rest)
        | "end" => some (.wordEnd, rest)
        | "start-half" => some (.wordStartHalf, rest)
        | "end-half" => some (.wordEndHalf, rest)
        | _ => none
      else some (.wordBoundary, text)
  | _ => some (.wordBoundary, text)

/-- Whether a backslash before the character makes it stand for itself. -/
def standsForItself (c : Char) : Bool :=
  c.toNat < 0x80 && !c.isAlphanum && c ≠ '<' && c ≠ '>'

/-- Read what stands behind a backslash. -/
def read? (mode : Mode) : List Char → Option (Atom × List Char)
  | [] => none
  | c :: rest =>
    if standsForItself c then some (.literal c, rest)
    else match c with
    | 'x' => numbered? mode 2 rest
    | 'u' => numbered? mode 4 rest
    | 'U' => numbered? mode 8 rest
    | 'p' => property? mode false rest
    | 'P' => property? mode true rest
    | 'd' | 's' | 'w' => some (.chars (shorthand mode c), rest)
    | 'D' | 'S' | 'W' => (mode.polarity? true (shorthand mode c.toLower)).map fun chars => (.chars chars, rest)
    | 'a' => some (.literal '\x07', rest)
    | 'f' => some (.literal '\x0c', rest)
    | 't' => some (.literal '\t', rest)
    | 'n' => some (.literal '\n', rest)
    | 'r' => some (.literal '\r', rest)
    | 'v' => some (.literal '\x0b', rest)
    | 'A' => some (.look .textStart, rest)
    | 'z' => some (.look .textEnd, rest)
    | 'b' => (boundary? mode rest).map fun (condition, rest) => (.look condition, rest)
    | 'B' => some (.look .notWordBoundary, rest)
    | '<' => some (.look .wordStart, rest)
    | '>' => some (.look .wordEnd, rest)
    | _ => none

end Escape

end ContentAssist.Pattern
