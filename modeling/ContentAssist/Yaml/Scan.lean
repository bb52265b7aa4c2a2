import ContentAssist.Yaml.Property
import ContentAssist.Yaml.Scalar

/-! From characters to tokens.

Blocks have no brackets in the text: they are opened and closed by indentation. Nor is there a sign before most
keys; whether something was a key shows only when its colon comes. So the place of each possible key is kept,
and the tokens that it needs are put there later. -/
namespace ContentAssist.Yaml

/-- A place where a key may have started. -/
structure KeyPlace where
  /-- No colon behind it would be an error -/
  required : Bool
  /-- How many tokens come before it -/
  number : Nat
  index : Nat
  line : Nat
  column : Nat
deriving Repr

structure Scan where
  input : Input
  /-- The tokens so far, the last one first -/
  tokens : List Token := []
  /-- How many they are -/
  count : Nat := 0
  /-- The columns of the open blocks, the innermost one first -/
  indents : List Nat := []
  /-- Whether a key may start here -/
  keyAllowed : Bool := true
  /-- The possible key of the innermost collection -/
  key : Option KeyPlace := none
  /-- Those of the collections around it; one for each open bracket -/
  outerKeys : List (Option KeyPlace) := []
deriving Repr

namespace Scan

def inFlow (scan : Scan) : Bool := !scan.outerKeys.isEmpty

/-- The column before which a line leaves the innermost block. -/
def margin (scan : Scan) : Nat :=
  match scan.indents with
  | [] => 0
  | indent :: _ => indent + 1

def push (scan : Scan) (token : Token) : Scan :=
  { scan with tokens := token :: scan.tokens, count := scan.count + 1 }

/-- Put a token behind the first `number` tokens. -/
def insert (scan : Scan) (number : Nat) (token : Token) : Scan :=
  let later := scan.count - number
  { scan with
    tokens := scan.tokens.take later ++ token :: scan.tokens.drop later, count := scan.count + 1 }

/-- Close the blocks that are indented deeper than the column; all blocks if there is none. -/
def unroll (scan : Scan) (column : Option Nat) : Scan :=
  if scan.inFlow then scan
  else
    let closed := scan.indents.takeWhile fun indent => column.all fun column => column < indent
    { closed.foldl (fun scan _ => scan.push .blockEnd) scan with
      indents := scan.indents.drop closed.length }

/-- Open a block at a column that is deeper than the innermost block. Its token comes behind the first
`number` tokens. -/
def roll (scan : Scan) (column number : Nat) (token : Token) : Scan :=
  if scan.inFlow || !(scan.indents.head?.all fun indent => indent < column) then scan
  else { scan.insert number token with indents := column :: scan.indents }

/-- Give up the possible key of the innermost collection. -/
def dropKey? (scan : Scan) : Option Scan :=
  if scan.key.any KeyPlace.required then none else some { scan with key := none }

/-- Keep the present place as that of a possible key. -/
def markKey? (scan : Scan) : Option Scan :=
  if scan.keyAllowed then do
    let scan ← scan.dropKey?
    some { scan with
      key := some
        { required := !scan.inFlow && scan.indents.head? = some scan.input.column
          number := scan.count
          index := scan.input.index
          line := scan.input.line
          column := scan.input.column } }
  else some scan

/-- A key stands on one line and is no longer than this. -/
def maxKeyLength : Nat := 1024

/-- A possible key that can no longer be one is given up. -/
def fresh? (input : Input) (key : Option KeyPlace) : Option (Option KeyPlace) :=
  match key with
  | some place =>
    if place.line < input.line || place.index + maxKeyLength < input.index then
      if place.required then none else some none
    else some (some place)
  | none => some none

def freshKeys? (scan : Scan) : Option Scan := do
  let key ← fresh? scan.input scan.key
  let outerKeys ← scan.outerKeys.mapM (fresh? scan.input)
  some { scan with key, outerKeys }

/-- Pass over blanks, comments and line ends. Tabs are blanks only where no key may start. -/
def skipGap : Nat → Scan → Scan
  | 0, scan => scan
  | budget + 1, scan =>
    let input := scan.input
    let input := if input.column = 0 && input.starts '\ufeff' then input.skip else input
    let input := input.skipWhile fun c => c = ' ' || ((scan.inFlow || !scan.keyAllowed) && c = '\t')
    let input := if input.starts '#' then input.skipLine else input
    if input.startsBreak then
      skipGap budget { scan with input := input.skipBreak, keyAllowed := scan.keyAllowed || !scan.inFlow }
    else { scan with input }

/-- Pass over a sign that is a token of its own. -/
def sign (scan : Scan) (token : Token) (length : Nat) : Scan :=
  { scan with input := scan.input.skipMany length }.push token

def documentMark? (scan : Scan) (token : Token) : Option Scan := do
  let scan ← (scan.unroll none).dropKey?
  some ({ scan with keyAllowed := false }.sign token 3)

def directive? (scan : Scan) : Option Scan := do
  let scan ← (scan.unroll none).dropKey?
  let (token, input) ← Property.directive? scan.input.skip
  some ({ scan with input, keyAllowed := false }.push token)

def flowStart? (scan : Scan) (token : Token) : Option Scan := do
  let scan ← scan.markKey?
  some ({ scan with key := none, outerKeys := scan.key :: scan.outerKeys, keyAllowed := true }.sign token 1)

def flowEnd? (scan : Scan) (token : Token) : Option Scan := do
  let scan ← scan.dropKey?
  let scan := match scan.outerKeys with
    | key :: outerKeys => { scan with key, outerKeys }
    | [] => scan
  some ({ scan with keyAllowed := false }.sign token 1)

def flowEntry? (scan : Scan) : Option Scan := do
  let scan ← scan.dropKey?
  some ({ scan with keyAllowed := true }.sign .flowEntry 1)

def blockEntry? (scan : Scan) : Option Scan :=
  if !scan.inFlow && !scan.keyAllowed then none
  else do
    let scan ← (scan.roll scan.input.column scan.count .blockSequenceStart).dropKey?
    some ({ scan with keyAllowed := true }.sign .blockEntry 1)

def key? (scan : Scan) : Option Scan :=
  if !scan.inFlow && !scan.keyAllowed then none
  else do
    let scan ← (scan.roll scan.input.column scan.count .blockMappingStart).dropKey?
    some ({ scan with keyAllowed := !scan.inFlow }.sign .key 1)

def value? (scan : Scan) : Option Scan :=
  match scan.key with
  | some place =>
    let scan := (scan.insert place.number .key).roll place.column place.number .blockMappingStart
    some ({ scan with key := none, keyAllowed := false }.sign .value 1)
  | none =>
    if !scan.inFlow && !scan.keyAllowed then none
    else
      let scan := scan.roll scan.input.column scan.count .blockMappingStart
      some ({ scan with keyAllowed := !scan.inFlow }.sign .value 1)

def anchor? (scan : Scan) (token : String → Token) : Option Scan := do
  let scan ← scan.markKey?
  let (name, input) ← Property.anchor? scan.input.skip
  some ({ scan with input, keyAllowed := false }.push (token name))

def tag? (scan : Scan) : Option Scan := do
  let scan ← scan.markKey?
  let (handle, suffix, input) ← Property.tag? scan.inFlow scan.input
  some ({ scan with input, keyAllowed := false }.push (.tag handle suffix))

def blockScalar? (scan : Scan) (literal : Bool) : Option Scan := do
  let scan ← scan.dropKey?
  let (text, input) ← Scalar.block? literal scan.margin scan.input.skip
  let style := if literal then ScalarStyle.literal else .folded
  some ({ scan with input, keyAllowed := true }.push (.scalar style (String.ofList text)))

def quotedScalar? (scan : Scan) (single : Bool) : Option Scan := do
  let scan ← scan.markKey?
  let (text, input) ← Scalar.quoted? single (scan.input.rest.length + 1) [] scan.input.skip
  let style := if single then ScalarStyle.singleQuoted else .doubleQuoted
  some ({ scan with input, keyAllowed := false }.push (.scalar style (String.ofList text)))

def plainScalar? (scan : Scan) : Option Scan := do
  let scan ← scan.markKey?
  let (text, broken, input) ←
    Scalar.plain? scan.inFlow scan.margin (scan.input.rest.length + 1) [] {} scan.input
  some ({ scan with input, keyAllowed := broken }.push (.scalar .plain (String.ofList text)))

/-- Signs that cannot start a plain scalar. -/
def isIndicator (c : Char) : Bool :=
  ['-', '?', ':', ',', '[', ']', '{', '}', '#', '&', '*', '!', '|', '>', '\'', '"', '%', '@', '`'].contains c

/-- Whether a plain scalar may start with the character. A hyphen, and in block context a question mark or a
colon, may start one if a visible character follows. -/
def startsPlain (scan : Scan) (c : Char) : Bool :=
  !(isBlank c || isBreak c || isIndicator c)
    || (c = '-' && !(scan.input.ahead? 1).any isBlank)
    || (!scan.inFlow && (c = '?' || c = ':') && !scan.input.gapAhead 1)

/-- Read the token that starts at the given character, which comes next. -/
def token? (scan : Scan) (c : Char) : Option Scan :=
  let input := scan.input
  if input.column = 0 && c = '%' then scan.directive?
  else if input.atDocumentMark then scan.documentMark? (if c = '-' then .documentStart else .documentEnd)
  else if c = '[' then scan.flowStart? .flowSequenceStart
  else if c = '{' then scan.flowStart? .flowMappingStart
  else if c = ']' then scan.flowEnd? .flowSequenceEnd
  else if c = '}' then scan.flowEnd? .flowMappingEnd
  else if c = ',' then scan.flowEntry?
  else if c = '-' && input.gapAhead 1 then scan.blockEntry?
  else if c = '?' && (scan.inFlow || input.gapAhead 1) then scan.key?
  else if c = ':' && (scan.inFlow || input.gapAhead 1) then scan.value?
  else if c = '*' then scan.anchor? .alias
  else if c = '&' then scan.anchor? .anchor
  else if c = '!' then scan.tag?
  else if c = '|' && !scan.inFlow then scan.blockScalar? true
  else if c = '>' && !scan.inFlow then scan.blockScalar? false
  else if c = '\'' then scan.quotedScalar? true
  else if c = '"' then scan.quotedScalar? false
  else if scan.startsPlain c then scan.plainScalar?
  else none

/-- Close what is open at the end of the text. -/
def finish? (scan : Scan) : Option Scan := do
  let scan ← (scan.unroll none).dropKey?
  some (scan.push .streamEnd)

/-- Read all tokens. Each one takes at least one character. -/
def run? : Nat → Scan → Option Scan
  | 0, _ => none
  | budget + 1, scan => do
    let scan ← (skipGap (scan.input.rest.length + 1) scan).freshKeys?
    let scan := scan.unroll (some scan.input.column)
    match scan.input.next? with
    | none => scan.finish?
    | some c => run? budget (← scan.token? c)

end Scan

/-- The tokens of a text. -/
def Token.scan? (text : String) : Option (List Token) :=
  let input := Input.ofString text
  if input.rest.all isAllowed then
    (Scan.run? (input.rest.length + 1) { input }).map fun scan => scan.tokens.reverse
  else none

end ContentAssist.Yaml
