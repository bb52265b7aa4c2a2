import ContentAssist.Json.Value

/-! Reading JSON text. The reader takes exactly the texts that the grammar allows, and holds back judgement
on what depends on how a value is used: half surrogate pairs, numbers out of range, and depth. -/
namespace ContentAssist.Json

namespace Reader

def isBlank (c : Char) : Bool :=
  c = ' ' || c = '\t' || c = '\n' || c = '\r'

def skipBlanks (text : List Char) : List Char :=
  text.dropWhile isBlank

def hexDigit? (c : Char) : Option Nat :=
  if '0' ≤ c && c ≤ '9' then some (c.toNat - '0'.toNat)
  else if 'a' ≤ c && c ≤ 'f' then some (c.toNat - 'a'.toNat + 10)
  else if 'A' ≤ c && c ≤ 'F' then some (c.toNat - 'A'.toNat + 10)
  else none

/-- The character that a letter stands for after a backslash. -/
def escape? (letter : Char) : Option Char :=
  match letter with
  | '"' => some '"'
  | '\\' => some '\\'
  | '/' => some '/'
  | 'b' => some '\x08'
  | 'f' => some '\x0c'
  | 'n' => some '\n'
  | 'r' => some '\r'
  | 't' => some '\t'
  | _ => none

/-- The codes of a string up to its closing quote. A surrogate among them comes from an escape, since no
character is one. -/
def stringCodes : List Char → Option (List Nat × List Char)
  | '"' :: rest => some ([], rest)
  | '\\' :: 'u' :: a :: b :: c :: d :: rest => do
    let code := (((← hexDigit? a) * 16 + (← hexDigit? b)) * 16 + (← hexDigit? c)) * 16 + (← hexDigit? d)
    let (codes, rest) ← stringCodes rest
    return (code :: codes, rest)
  | '\\' :: letter :: rest => do
    let escaped ← escape? letter
    let (codes, rest) ← stringCodes rest
    return (escaped.toNat :: codes, rest)
  | c :: rest => do
    if c.toNat < 0x20 then none
    let (codes, rest) ← stringCodes rest
    return (c.toNat :: codes, rest)
  | [] => none

def isHighSurrogate (code : Nat) : Bool :=
  0xd800 ≤ code && code < 0xdc00

def isLowSurrogate (code : Nat) : Bool :=
  0xdc00 ≤ code && code < 0xe000

/-- The characters that the codes stand for. Surrogates have to come in pairs. -/
def charsOfCodes : List Nat → Option (List Char)
  | [] => some []
  | [code] =>
    if isHighSurrogate code || isLowSurrogate code then none else some [Char.ofNat code]
  | code :: next :: rest =>
    if isHighSurrogate code then
      if isLowSurrogate next then
        (charsOfCodes rest).map
          (Char.ofNat ((code - 0xd800) * 0x400 + (next - 0xdc00) + 0x10000) :: ·)
      else none
    else if isLowSurrogate code then none
    else (charsOfCodes (next :: rest)).map (Char.ofNat code :: ·)

/-- A string, after its opening quote. -/
def string? (text : List Char) : Option (Option String × List Char) :=
  (stringCodes text).map fun (codes, rest) => ((charsOfCodes codes).map String.ofList, rest)

def digitsValue (digits : List Char) : Nat :=
  digits.foldl (fun value c => value * 10 + (c.toNat - '0'.toNat)) 0

/-- One or more digits. -/
def digits? (text : List Char) : Option (List Char × List Char) :=
  match text.takeWhile Char.isDigit with
  | [] => none
  | digits => some (digits, text.dropWhile Char.isDigit)

/-- The whole part of a number: a zero by itself, or digits that do not start with one. -/
def whole? (text : List Char) : Option (List Char × List Char) :=
  match text with
  | '0' :: rest => some (['0'], rest)
  | _ => digits? text

/-- The fraction of a number, if it has one. -/
def fraction? (text : List Char) : Option (List Char × List Char) :=
  match text with
  | '.' :: rest => digits? rest
  | _ => some ([], text)

/-- The exponent of a number, if it has one. -/
def exponent? (text : List Char) : Option (Option Int × List Char) :=
  let unsigned (rest : List Char) : Option (Nat × List Char) :=
    (digits? rest).map fun (digits, rest) => (digitsValue digits, rest)
  let signed (rest : List Char) : Option (Option Int × List Char) :=
    match rest with
    | '-' :: rest => (unsigned rest).map fun (value, rest) => (some (-value), rest)
    | '+' :: rest => (unsigned rest).map fun (value, rest) => (some value, rest)
    | _ => (unsigned rest).map fun (value, rest) => (some value, rest)
  match text with
  | 'e' :: rest => signed rest
  | 'E' :: rest => signed rest
  | _ => some (none, text)

def number? (text : List Char) : Option (Json × List Char) := do
  let (negative, text) := match text with
    | '-' :: rest => (true, rest)
    | _ => (false, text)
  let (whole, text) ← whole? text
  let (fraction, text) ← fraction? text
  let (exponent, text) ← exponent? text
  if !negative && fraction.isEmpty && exponent.isNone then
    return (.count (digitsValue whole), text)
  else
    let scale : Int := exponent.getD 0 - fraction.length
    return (.decimal ⟨negative, digitsValue (whole ++ fraction), scale⟩, text)

mutual

/-- A value, and the text after it. -/
def value? : Nat → List Char → Option (Json × List Char)
  | 0, _ => none
  | budget + 1, text => match skipBlanks text with
    | '"' :: rest => (string? rest).map fun (text, rest) => (.string text, rest)
    | '[' :: rest => match skipBlanks rest with
      | ']' :: rest => some (.array [], rest)
      | _ => (items? budget rest).map fun (items, rest) => (.array items, rest)
    | '{' :: rest => match skipBlanks rest with
      | '}' :: rest => some (.object [], rest)
      | _ => (members? budget rest).map fun (members, rest) => (.object members, rest)
    | 'n' :: 'u' :: 'l' :: 'l' :: rest => some (.null, rest)
    | 't' :: 'r' :: 'u' :: 'e' :: rest => some (.bool true, rest)
    | 'f' :: 'a' :: 'l' :: 's' :: 'e' :: rest => some (.bool false, rest)
    | rest => number? rest

/-- One or more items, through the closing bracket. -/
def items? : Nat → List Char → Option (List Json × List Char)
  | 0, _ => none
  | budget + 1, text => do
    let (item, rest) ← value? budget text
    match skipBlanks rest with
    | ']' :: rest => return ([item], rest)
    | ',' :: rest =>
      let (items, rest) ← items? budget rest
      return (item :: items, rest)
    | _ => none

/-- One or more members, through the closing brace. -/
def members? : Nat → List Char → Option (List (Option String × Json) × List Char)
  | 0, _ => none
  | budget + 1, text => match skipBlanks text with
    | '"' :: rest => do
      let (key, rest) ← string? rest
      match skipBlanks rest with
      | ':' :: rest =>
        let (value, rest) ← value? budget rest
        match skipBlanks rest with
        | '}' :: rest => return ([(key, value)], rest)
        | ',' :: rest =>
          let (members, rest) ← members? budget rest
          return ((key, value) :: members, rest)
        | _ => none
      | _ => none
    | _ => none

end

end Reader

open Reader in
/-- Read a text that holds one value and blanks around it. A nested value takes two steps of the budget and
at least one character. -/
def parse? (text : String) : Option Json := do
  let chars := text.toList
  let (value, rest) ← value? (2 * chars.length + 1) chars
  if (skipBlanks rest).isEmpty then some value else none

end ContentAssist.Json
