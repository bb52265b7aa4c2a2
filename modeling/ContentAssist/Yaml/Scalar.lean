import ContentAssist.Yaml.Input

/-! The text of scalars, in the five ways in which they are written. The functions stand behind the character
that tells which of them it is. -/
namespace ContentAssist.Yaml

/-- Blanks and line ends between two parts of a scalar. -/
structure Gap where
  /-- Blanks before the first line end, the last one first -/
  blanks : List Char := []
  /-- Whether a line has ended -/
  broken : Bool := false
  /-- The first line end; none if it was escaped -/
  first : List Char := []
  /-- Further line ends, the last one first -/
  more : List Char := []
deriving Repr

namespace Gap

/-- What the gap stands for. A single line end is folded into a blank, and of several the first is dropped;
line ends of Unicode stand for themselves. -/
def text (gap : Gap) : List Char :=
  if !gap.broken then gap.blanks.reverse
  else if gap.first = ['\n'] then
    if gap.more.isEmpty then [' '] else gap.more.reverse
  else gap.first ++ gap.more.reverse

/-- Read a gap. In the lines behind the first a tab may not stand before column `margin`. -/
def read? (margin : Nat) : Nat → Gap → Input → Option (Gap × Input)
  | 0, _, _ => none
  | budget + 1, gap, input =>
    match input.rest with
    | [] => some (gap, input)
    | c :: _ =>
      if isBlank c then
        if !gap.broken then read? margin budget { gap with blanks := c :: gap.blanks } input.skip
        else if c = '\t' && input.column < margin then none
        else read? margin budget gap input.skip
      else if isBreak c then
        if !gap.broken then
          read? margin budget { gap with blanks := [], broken := true, first := input.breakText }
            input.skipBreak
        else
          read? margin budget { gap with more := input.breakText.reverse ++ gap.more } input.skipBreak
      else some (gap, input)

end Gap

namespace Scalar

/-- Whether a plain scalar ends before the character that comes next. -/
def endsPlain (inFlow : Bool) (input : Input) : Bool :=
  (input.starts ':' && input.gapAhead 1)
    || (inFlow && input.next?.any fun c => c = ',' || c = '[' || c = ']' || c = '{' || c = '}')

/-- A colon that is glued to one of the signs of flow collections. -/
def straysColon (inFlow : Bool) (input : Input) : Bool :=
  inFlow && input.starts ':'
    && (input.ahead? 1).any fun c => c = ',' || c = '?' || c = '[' || c = ']' || c = '{' || c = '}'

/-- The visible characters of a plain scalar up to the next gap. -/
def plainWord? (inFlow : Bool) : Nat → Input → Option (List Char × Input)
  | 0, _ => none
  | budget + 1, input =>
    match input.rest with
    | [] => some ([], input)
    | c :: _ =>
      if isBlank c || isBreak c then some ([], input)
      else if straysColon inFlow input then none
      else if endsPlain inFlow input then some ([], input)
      else (plainWord? inFlow budget input.skip).map fun (word, input) => (c :: word, input)

/-- A plain scalar from behind a gap on; `text` is what came before the gap. In block context it ends where a
line starts before column `margin`. The answer also tells whether a line ended behind the last word. -/
def plain? (inFlow : Bool) (margin : Nat) : Nat → List Char → Gap → Input → Option (List Char × Bool × Input)
  | 0, _, _, _ => none
  | budget + 1, text, gap, input =>
    if input.atDocumentMark || input.starts '#' then some (text, gap.broken, input)
    else do
      let (word, input) ← plainWord? inFlow (input.rest.length + 1) input
      if word.isEmpty then some (text, gap.broken, input)
      else
        let text := text ++ gap.text ++ word
        if !input.endsWord || input.rest.isEmpty then some (text, false, input)
        else
          let (gap, input) ← Gap.read? margin (input.rest.length + 1) {} input
          if !inFlow && input.column < margin then some (text, gap.broken, input)
          else plain? inFlow margin budget text gap input

/-- What a single character behind a backslash stands for. -/
def escaped? (c : Char) : Option Char :=
  match c with
  | '0' => some '\x00'
  | 'a' => some '\x07'
  | 'b' => some '\x08'
  | 't' | '\t' => some '\t'
  | 'n' => some '\n'
  | 'v' => some '\x0b'
  | 'f' => some '\x0c'
  | 'r' => some '\r'
  | 'e' => some '\x1b'
  | ' ' => some ' '
  | '"' => some '"'
  | '/' => some '/'
  | '\\' => some '\\'
  | 'N' => some '\x85'
  | '_' => some '\xa0'
  | 'L' => some '\u2028'
  | 'P' => some '\u2029'
  | _ => none

/-- How many digits a numbered character has. -/
def escapeDigits? (c : Char) : Option Nat :=
  match c with
  | 'x' => some 2
  | 'u' => some 4
  | 'U' => some 8
  | _ => none

def hexDigit? (c : Char) : Option Nat :=
  if c.isDigit then some (c.toNat - '0'.toNat)
  else if 'a' ≤ c && c ≤ 'f' then some (c.toNat - 'a'.toNat + 10)
  else if 'A' ≤ c && c ≤ 'F' then some (c.toNat - 'A'.toNat + 10)
  else none

/-- The character with the given number. -/
def numbered? (digits : List Char) : Option Char := do
  let code ← digits.foldlM (fun value c => (hexDigit? c).map fun digit => value * 16 + digit) 0
  if code.isValidChar then some (Char.ofNat code) else none

/-- An escape, from behind its backslash on. -/
def escape? (input : Input) : Option (Char × Input) := do
  let c ← input.next?
  match escapeDigits? c with
  | some count =>
    let digits := input.skip.rest.take count
    if digits.length < count then none
    else some (← numbered? digits, input.skipMany (count + 1))
  | none => some (← escaped? c, input.skip)

/-- The visible characters of a quoted scalar up to the next gap or to its end. The answer also tells whether
they end in a backslash before a line end. -/
def quotedWord? (single : Bool) : Nat → Input → Option (List Char × Bool × Input)
  | 0, _ => none
  | budget + 1, input =>
    let quote := if single then '\'' else '"'
    match input.rest with
    | [] => some ([], false, input)
    | c :: rest =>
      if isBlank c || isBreak c then some ([], false, input)
      else if single && c = quote && rest.head? = some quote then
        (quotedWord? single budget (input.skipMany 2)).map fun (word, broken, input) => (quote :: word, broken, input)
      else if c = quote then some ([], false, input)
      else if !single && c = '\\' then
        if rest.head?.any isBreak then some ([], true, input.skip.skipBreak)
        else do
          let (c, input) ← escape? input.skip
          let (word, broken, input) ← quotedWord? single budget input
          some (c :: word, broken, input)
      else (quotedWord? single budget input.skip).map fun (word, broken, input) => (c :: word, broken, input)

/-- A quoted scalar, from behind its first quote or from behind a gap on. -/
def quoted? (single : Bool) : Nat → List Char → Input → Option (List Char × Input)
  | 0, _, _ => none
  | budget + 1, text, input =>
    if input.atDocumentMark || input.rest.isEmpty then none
    else do
      let (word, broken, input) ← quotedWord? single (input.rest.length + 1) input
      let text := text ++ word
      if input.starts (if single then '\'' else '"') then some (text, input.skip)
      else
        let (gap, input) ← Gap.read? 0 (input.rest.length + 1) { broken } input
        quoted? single budget (text ++ gap.text) input

/-- What becomes of the line ends behind a block scalar. -/
inductive Chomping where
  | strip
  | clip
  | keep
deriving DecidableEq, Repr

def chomping? (c : Char) : Option Chomping :=
  match c with
  | '+' => some .keep
  | '-' => some .strip
  | _ => none

def increment? (c : Char) : Option Nat :=
  if '1' ≤ c && c ≤ '9' then some (c.toNat - '0'.toNat) else none

/-- The signs behind `|` and `>`: how line ends are chomped, and how far the lines are indented if that is
given. They may stand in either order. -/
def blockHeader (input : Input) : Chomping × Option Nat × Input :=
  match input.next?.bind chomping?, input.next?.bind increment? with
  | some chomping, _ =>
    match input.skip.next?.bind increment? with
    | some increment => (chomping, some increment, input.skipMany 2)
    | none => (chomping, none, input.skip)
  | none, some increment =>
    match input.skip.next?.bind chomping? with
    | some chomping => (chomping, some increment, input.skipMany 2)
    | none => (.clip, some increment, input.skip)
  | none, none => (.clip, none, input)

/-- Pass over the indentation and over lines that hold no more than that, up to `indent` columns if that is
known. The answer has the line ends, the last one first, and the greatest column reached. -/
def blockBreaks? (indent : Option Nat) : Nat → List Char → Nat → Input → Option (List Char × Nat × Input)
  | 0, _, _, _ => none
  | budget + 1, breaks, deepest, input =>
    let spaces := (input.rest.takeWhile (· = ' ')).length
    let input := input.skipMany (match indent with
      | some indent => min spaces (indent - input.column)
      | none => spaces)
    let deepest := max deepest input.column
    if (indent.all fun indent => input.column < indent) && input.starts '\t' then none
    else if input.startsBreak then
      blockBreaks? indent budget (input.breakText.reverse ++ breaks) deepest input.skipBreak
    else some (breaks, deepest, input)

/-- What was read of a block scalar. -/
structure BlockText where
  text : List Char := []
  /-- The line end behind the last line -/
  lastBreak : List Char := []
  /-- The line ends of the empty lines behind it, the last one first -/
  breaks : List Char := []
  /-- Whether the last line starts with a blank -/
  indented : Bool := false
deriving Repr

/-- The lines of a block scalar that stand at the given column. -/
def blockLines? (literal : Bool) (indent : Nat) : Nat → BlockText → Input → Option (BlockText × Input)
  | 0, _, _ => none
  | budget + 1, block, input =>
    if input.column ≠ indent || input.rest.isEmpty then some (block, input)
    else do
      let indented := input.startsBlank
      let join :=
        if !literal && block.lastBreak = ['\n'] && !block.indented && !indented then
          if block.breaks.isEmpty then [' '] else []
        else block.lastBreak
      let line := input.rest.takeWhile fun c => !isBreak c
      let text := block.text ++ join ++ block.breaks.reverse ++ line
      let input := input.skipLine
      let lastBreak := input.breakText
      let (breaks, _, input) ← blockBreaks? (some indent) (input.rest.length + 1) [] 0 input.skipBreak
      blockLines? literal indent budget { text, lastBreak, breaks, indented } input

/-- A block scalar, from behind its sign on, in a block that starts at column `margin - 1`. -/
def block? (literal : Bool) (margin : Nat) (input : Input) : Option (List Char × Input) := do
  let (chomping, increment, input) := blockHeader input
  let input ← input.finishLine?
  let given := increment.map fun increment => (margin - 1) + increment
  let (breaks, deepest, input) ← blockBreaks? given (input.rest.length + 1) [] 0 input
  let indent := given.getD (max (max deepest margin) 1)
  let (block, input) ← blockLines? literal indent (input.rest.length + 1) { breaks } input
  let tail := match chomping with
    | .strip => []
    | .clip => block.lastBreak
    | .keep => block.lastBreak ++ block.breaks.reverse
  some (block.text ++ tail, input)

end Scalar

end ContentAssist.Yaml
