import ContentAssist.Json.Value

/-! What plain scalars stand for: nothing, truth values, numbers or text. -/
namespace ContentAssist.Yaml

/-- The meaning of a scalar. -/
inductive Plain where
  | null
  | bool (value : Bool)
  /-- A count of 64 bits -/
  | count (value : Nat)
  /-- A number that is no such count -/
  | number
  /-- An integer that needs more than 64 bits -/
  | wide
  | text
deriving DecidableEq, Repr

namespace Plain

def isNull (text : String) : Bool :=
  ["null", "Null", "NULL", "~"].contains text

def bool? (text : String) : Option Bool :=
  if ["true", "True", "TRUE"].contains text then some true
  else if ["false", "False", "FALSE"].contains text then some false
  else none

/-- The value of a digit, if it is one in the base. -/
def digit? (base : Nat) (c : Char) : Option Nat :=
  let value :=
    if c.isDigit then c.toNat - '0'.toNat
    else if 'a' ≤ c && c ≤ 'z' then c.toNat - 'a'.toNat + 10
    else if 'A' ≤ c && c ≤ 'Z' then c.toNat - 'A'.toNat + 10
    else base
  if value < base then some value else none

/-- A number of at least one digit, no larger than `limit`. -/
def digits? (base limit : Nat) (chars : List Char) : Option Nat :=
  if chars.isEmpty then none
  else do
    let value ← chars.foldlM (fun value c => (digit? base c).map fun digit => value * base + digit) 0
    if value ≤ limit then some value else none

/-- A number in one of the bases that have a mark. -/
def based? (limit : Nat) : List Char → Option Nat
  | '0' :: 'x' :: rest => digits? 16 limit rest
  | '0' :: 'o' :: rest => digits? 8 limit rest
  | '0' :: 'b' :: rest => digits? 2 limit rest
  | _ => none

def unsigned : List Char → List Char
  | '+' :: rest | '-' :: rest => rest
  | chars => chars

/-- Digits that start with a zero are text, however they are signed. -/
def isPadded (chars : List Char) : Bool :=
  match unsigned chars with
  | '0' :: c :: rest => (c :: rest).all Char.isDigit
  | _ => false

def nonNegative? (limit : Nat) (chars : List Char) : Option Nat :=
  let digits := match chars with
    | '+' :: rest => rest
    | chars => chars
  based? limit digits <|> (if isPadded chars then none else digits? 10 limit digits)

/-- The magnitude of a number with a minus sign. -/
def negative? (limit : Nat) : List Char → Option Nat
  | '-' :: digits =>
    based? limit digits <|> (if isPadded digits then none else digits? 10 limit digits)
  | _ => none

def integer? (chars : List Char) : Option Plain :=
  match nonNegative? (UInt64.size - 1) chars with
  | some value => some (.count value)
  | none =>
    if (negative? (Nat.pow 2 63) chars).isSome then some .number
    else if (nonNegative? (Nat.pow 2 128 - 1) chars).isSome || (negative? (Nat.pow 2 127) chars).isSome then some .wide
    else none

/-- The exponent of a decimal, from behind its mark on. -/
def exponent? (chars : List Char) : Option Int :=
  match chars with
  | '-' :: digits => (digits? 10 (Nat.pow 10 digits.length) digits).map fun value => -(value : Int)
  | '+' :: digits => (digits? 10 (Nat.pow 10 digits.length) digits).map Int.ofNat
  | digits => (digits? 10 (Nat.pow 10 digits.length) digits).map Int.ofNat

/-- A decimal without sign: digits with at most one point among them, and perhaps an exponent. -/
def decimal? (chars : List Char) : Option Json.Decimal := do
  let whole := chars.takeWhile Char.isDigit
  let rest := chars.drop whole.length
  let (fraction, rest) := match rest with
    | '.' :: rest => (rest.takeWhile Char.isDigit, rest.dropWhile Char.isDigit)
    | rest => ([], rest)
  let digits := whole ++ fraction
  let value ← digits? 10 (Nat.pow 10 digits.length) digits
  let exponent ← match rest with
    | [] => some 0
    | 'e' :: rest | 'E' :: rest => exponent? rest
    | _ => none
  some ⟨false, value, exponent - fraction.length⟩

/-- Whether the text is a number with a point or an exponent, an infinity, or no number at all by name. One
that is too large is text. -/
def isFloat (text : String) : Bool :=
  let chars := text.toList
  let positive := match chars with
    | '+' :: rest => rest
    | chars => chars
  let twice := match chars with
    | '+' :: '+' :: _ | '+' :: '-' :: _ => true
    | _ => false
  !twice && ([".inf", ".Inf", ".INF"].contains (String.ofList positive)
    || ["-.inf", "-.Inf", "-.INF", ".nan", ".NaN", ".NAN"].contains text
    || (decimal? (unsigned positive)).any fun value => !value.overflows)

/-- The meaning of a plain scalar without a tag. -/
def ofText (text : String) : Plain :=
  if text.isEmpty || isNull text then .null
  else match bool? text with
    | some value => .bool value
    | none => match integer? text.toList with
      | some value => value
      | none => if !isPadded text.toList && isFloat text then .number else .text

end Plain

end ContentAssist.Yaml
