import ContentAssist.Json.Value

/-! Writing JSON. The compact form has no blanks; the pretty form puts every item and member on a line of its
own, indented by two blanks for each level, and keeps empty arrays and objects closed up. -/
namespace ContentAssist.Json

/-- A lower-case hexadecimal digit. -/
def hexDigitChar (digit : Nat) : Char :=
  Nat.digitChar digit

/-- How a character is written inside a string. Control characters are escaped, by letter where they have
one; all others stand for themselves. -/
def escapeChar (c : Char) : List Char :=
  if c = '"' then ['\\', '"']
  else if c = '\\' then ['\\', '\\']
  else if c = '\x08' then ['\\', 'b']
  else if c = '\x0c' then ['\\', 'f']
  else if c = '\n' then ['\\', 'n']
  else if c = '\r' then ['\\', 'r']
  else if c = '\t' then ['\\', 't']
  else if c.toNat < 0x20 then
    ['\\', 'u', '0', '0', hexDigitChar (c.toNat / 16), hexDigitChar (c.toNat % 16)]
  else [c]

/-- A string with its quotes, before `tail`. One that stands for no text is written as half of a surrogate
pair. -/
def writeString (string : Option String) (tail : List Char) : List Char :=
  match string with
  | some text => '"' :: text.toList.foldr (fun c rest => escapeChar c ++ rest) ('"' :: tail)
  | none => "\"\\ud800\"".toList ++ tail

def writeDecimal (number : Decimal) : List Char :=
  let sign := if number.negative then ['-'] else []
  let exponent := match number.exponent with
    | .ofNat power => Nat.toDigits 10 power
    | .negSucc power => '-' :: Nat.toDigits 10 (power + 1)
  sign ++ Nat.toDigits 10 number.digits ++ 'e' :: exponent

/-- What separates the tokens of arrays and objects. -/
structure Layout where
  /-- Before an item or a closing bracket at a level -/
  line : Nat → List Char
  /-- After the colon of a member -/
  afterColon : List Char

def Layout.compact : Layout where
  line _ := []
  afterColon := []

def Layout.pretty : Layout where
  line level := '\n' :: List.replicate (2 * level) ' '
  afterColon := [' ']

mutual

/-- The text of a value that stands at a level of indentation, before `tail`. -/
def write (layout : Layout) (level : Nat) : Json → List Char → List Char
  | .null, tail => "null".toList ++ tail
  | .bool true, tail => "true".toList ++ tail
  | .bool false, tail => "false".toList ++ tail
  | .count value, tail => Nat.toDigits 10 value ++ tail
  | .decimal value, tail => writeDecimal value ++ tail
  | .string text, tail => writeString text tail
  | .array [], tail => '[' :: ']' :: tail
  | .array (first :: rest), tail =>
    '[' :: (layout.line (level + 1) ++ write layout (level + 1) first
      (writeItems layout (level + 1) rest (layout.line level ++ ']' :: tail)))
  | .object [], tail => '{' :: '}' :: tail
  | .object ((key, value) :: rest), tail =>
    '{' :: (layout.line (level + 1) ++ writeString key (':' :: (layout.afterColon
      ++ write layout (level + 1) value
        (writeMembers layout (level + 1) rest (layout.line level ++ '}' :: tail)))))

/-- The items after the first, before `tail`. -/
def writeItems (layout : Layout) (level : Nat) : List Json → List Char → List Char
  | [], tail => tail
  | item :: rest, tail =>
    ',' :: (layout.line level ++ write layout level item (writeItems layout level rest tail))

/-- The members after the first, before `tail`. -/
def writeMembers (layout : Layout) (level : Nat) :
    List (Option String × Json) → List Char → List Char
  | [], tail => tail
  | (key, value) :: rest, tail =>
    ',' :: (layout.line level ++ writeString key (':' :: (layout.afterColon
      ++ write layout level value (writeMembers layout level rest tail))))

end

/-- Text without blanks. -/
def compact (value : Json) : String :=
  String.ofList (write .compact 0 value [])

/-- Text with line ends and indentation. -/
def pretty (value : Json) : String :=
  String.ofList (write .pretty 0 value [])

end ContentAssist.Json
