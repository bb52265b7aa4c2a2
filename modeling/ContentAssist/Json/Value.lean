/-! JSON values as they are written: members keep their order and may repeat a key, and numbers keep what
tells a count from any other number. -/
namespace ContentAssist

/-- A number other than a count: `digits * 10 ^ exponent`, perhaps negated. -/
structure Json.Decimal where
  negative : Bool
  digits : Nat
  exponent : Int
deriving DecidableEq, Repr, Inhabited

/-- A JSON value. A string or key is `none` if its escapes include half of a surrogate pair: such a string
is well formed but stands for no text. -/
inductive Json where
  | null
  | bool (value : Bool)
  /-- A number written with digits only -/
  | count (value : Nat)
  /-- A number with a sign, a fraction or an exponent -/
  | decimal (value : Json.Decimal)
  | string (text : Option String)
  | array (items : List Json)
  | object (members : List (Option String × Json))

instance : Inhabited Json := ⟨.null⟩

namespace Json

def ofString (text : String) : Json :=
  .string (some text)

/-- An object with the given members. -/
def ofMembers (members : List (String × Json)) : Json :=
  .object (members.map fun (key, value) => (some key, value))

/-- A value that may be missing is written `null`. -/
def ofOption {α : Type} (write : α → Json) : Option α → Json
  | some value => write value
  | none => .null

def ofList {α : Type} (write : α → Json) (items : List α) : Json :=
  .array (items.map write)

mutual

/-- How many arrays and objects stand inside one another. -/
def nesting : Json → Nat
  | .array items => nestingOfItems items + 1
  | .object members => nestingOfMembers members + 1
  | _ => 0

def nestingOfItems : List Json → Nat
  | [] => 0
  | item :: rest => max (nesting item) (nestingOfItems rest)

def nestingOfMembers : List (Option String × Json) → Nat
  | [] => 0
  | (_, value) :: rest => max (nesting value) (nestingOfMembers rest)

end

/-- The least magnitude that no longer rounds to a finite double. -/
def unrepresentable : Nat :=
  Nat.pow 2 1024 - Nat.pow 2 970

/-- Whether the number is too large for a double. The number of digits settles all but the numbers near the
limit, so the power of ten never gets large. -/
def Decimal.overflows (number : Decimal) : Bool :=
  let magnitude : Int := number.exponent + (Nat.toDigits 10 number.digits).length
  if number.digits = 0 || magnitude < 300 then false
  else if 320 < magnitude then true
  else match number.exponent with
    | .ofNat power => unrepresentable ≤ number.digits * Nat.pow 10 power
    | .negSucc power => unrepresentable * Nat.pow 10 (power + 1) ≤ number.digits

mutual

/-- Whether every string in the value is text and every number is in range. -/
def isSound : Json → Bool
  | .string text => text.isSome
  | .count value => value < unrepresentable
  | .decimal value => !value.overflows
  | .array items => itemsSound items
  | .object members => membersSound members
  | _ => true

def itemsSound : List Json → Bool
  | [] => true
  | item :: rest => isSound item && itemsSound rest

def membersSound : List (Option String × Json) → Bool
  | [] => true
  | (key, value) :: rest => key.isSome && isSound value && membersSound rest

end

end Json

end ContentAssist
