import ContentAssist.Yaml.Input
import ContentAssist.Yaml.Token

/-! Anchors, tags and directives. -/
namespace ContentAssist.Yaml.Property

/-- Characters that may follow an anchor without a gap. -/
def endsAnchor (c : Char) : Bool :=
  ['?', ':', ',', ']', '}', '%', '@', '`'].contains c

/-- The name of an anchor, from behind its sign on. -/
def anchor? (input : Input) : Option (String × Input) :=
  let name := input.rest.takeWhile isWordChar
  let input := input.skipMany name.length
  if !name.isEmpty && (input.endsWord || input.next?.any endsAnchor) then some (String.ofList name, input)
  else none

/-- Characters of tags besides those of words. -/
def isTagSign (c : Char) : Bool :=
  [';', '/', '?', ':', '@', '&', '=', '+', '$', '.', '!', '~', '*', '\'', '(', ')'].contains c

def isHexDigit (c : Char) : Bool :=
  c.isDigit || ('a' ≤ c && c ≤ 'f') || ('A' ≤ c && c ≤ 'F')

def hexValue (c : Char) : Nat :=
  if c.isDigit then c.toNat - '0'.toNat else c.toLower.toNat - 'a'.toNat + 10

/-- An octet written as a percent sign and two digits. -/
def octet? : List Char → Option (Nat × List Char)
  | '%' :: a :: b :: rest =>
    if isHexDigit a && isHexDigit b then some (hexValue a * 16 + hexValue b, rest) else none
  | _ => none

/-- How many octets a character has that starts with the given one. -/
def width? (octet : Nat) : Option Nat :=
  if octet < 0x80 then some 1
  else if 0xc0 ≤ octet && octet < 0xe0 then some 2
  else if 0xe0 ≤ octet && octet < 0xf0 then some 3
  else if 0xf0 ≤ octet && octet < 0xf8 then some 4
  else none

/-- Further octets of a character. -/
def moreOctets? : Nat → List Char → Option (List Nat × List Char)
  | 0, rest => some ([], rest)
  | count + 1, rest => do
    let (octet, rest) ← octet? rest
    if 0x80 ≤ octet && octet < 0xc0 then
      let (more, rest) ← moreOctets? count rest
      some (octet :: more, rest)
    else none

/-- A character given by its octets. Each octet becomes one character of the tag. -/
def octets? (text : List Char) : Option (List Char × List Char) := do
  let (first, rest) ← octet? text
  let (more, rest) ← moreOctets? ((← width? first) - 1) rest
  some ((first :: more).map Char.ofNat, rest)

/-- The characters of a tag, up to the first that cannot belong to it. Brackets and commas belong to it only
between angle brackets. -/
def uriChars? (verbatim : Bool) : Nat → List Char → Option (List Char × List Char)
  | 0, _ => none
  | budget + 1, text =>
    match text with
    | [] => some ([], [])
    | '%' :: _ => do
      let (octets, rest) ← octets? text
      let (more, rest) ← uriChars? verbatim budget rest
      some (octets ++ more, rest)
    | c :: rest =>
      if isWordChar c || isTagSign c || (verbatim && (c = ',' || c = '[' || c = ']')) then
        (uriChars? verbatim budget rest).map fun (more, rest) => (c :: more, rest)
      else some ([], text)

def uri? (verbatim : Bool) (input : Input) : Option (List Char × Input) := do
  let (chars, rest) ← uriChars? verbatim (input.rest.length + 1) input.rest
  some (chars, input.skipMany (input.rest.length - rest.length))

/-- The start of a tag that may be a handle: an exclamation mark, word characters and, if it comes next,
another exclamation mark. -/
def handle? (input : Input) : Option (List Char × Input) :=
  if input.starts '!' then
    let name := input.skip.rest.takeWhile isWordChar
    let input := input.skipMany (name.length + 1)
    if input.starts '!' then some ('!' :: name ++ ['!'], input.skip) else some ('!' :: name, input)
  else none

/-- Whether what may be a handle is one. -/
def isHandle (handle : List Char) : Bool :=
  1 < handle.length && handle.getLast? = some '!'

/-- The handle and the suffix of a tag. -/
def tag? (inFlow : Bool) (input : Input) : Option (String × String × Input) := do
  let (handle, suffix, input) ←
    if input.ahead? 1 = some '<' then do
      let (uri, input) ← uri? true (input.skipMany 2)
      if uri.isEmpty || !input.starts '>' then none
      else some ([], uri, input.skip)
    else do
      let (handle, input) ← handle? input
      let (uri, input) ← uri? false input
      if isHandle handle then
        if uri.isEmpty then none else some (handle, uri, input)
      else
        let suffix := handle.tail ++ uri
        if suffix.isEmpty then some ([], ['!'], input) else some (['!'], suffix, input)
  if input.endsWord || (inFlow && input.starts ',') then
    some (String.ofList handle, String.ofList suffix, input)
  else none

/-- A number in a version: one to nine digits. -/
def versionNumber? (input : Input) : Option (Nat × Input) :=
  let digits := input.rest.takeWhile Char.isDigit
  if digits.isEmpty || 9 < digits.length then none
  else
    let value := digits.foldl (fun value c => value * 10 + (c.toNat - '0'.toNat)) 0
    some (value, input.skipMany digits.length)

def version? (input : Input) : Option (Token × Input) := do
  let (major, input) ← versionNumber? (input.skipWhile isBlank)
  if !input.starts '.' then none
  else
    let (minor, input) ← versionNumber? input.skip
    some (.versionDirective major minor, input)

def tagDirective? (input : Input) : Option (Token × Input) := do
  let (handle, input) ← handle? (input.skipWhile isBlank)
  if !(handle = ['!'] || isHandle handle) || !input.startsBlank then none
  else
    let (uri, input) ← uri? true (input.skipWhile isBlank)
    if uri.isEmpty || !input.endsWord then none
    else some (.tagDirective (String.ofList handle) (String.ofList uri), input)

/-- A directive and its line, from behind the percent sign on. -/
def directive? (input : Input) : Option (Token × Input) := do
  let name := input.rest.takeWhile isWordChar
  let input := input.skipMany name.length
  if !input.endsWord then none
  else
    let (token, input) ← match String.ofList name with
      | "YAML" => version? input
      | "TAG" => tagDirective? input
      | _ => none
    some (token, ← input.finishLine?)

end ContentAssist.Yaml.Property
