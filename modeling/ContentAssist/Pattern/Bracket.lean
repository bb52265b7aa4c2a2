import ContentAssist.Pattern.Escape

/-! Classes of characters in brackets. Brackets nest, and sets in them are joined, intersected and
subtracted. -/
namespace ContentAssist.Pattern.Bracket

open ContentAssist.Unicode

/-- A set written in brackets, with the nesting of its writing. -/
structure Member where
  chars : CharClass
  depth : Nat

inductive Operation where
  | intersection
  | difference
  | symmetricDifference
deriving DecidableEq, Repr

def Operation.apply : Operation → CharClass → CharClass → CharClass
  | .intersection => .intersection
  | .difference => .difference
  | .symmetricDifference => .symmetricDifference

/-- The union of members written side by side. Only two or more of them nest. -/
def join : List Member → Member
  | [] => ⟨.nothing, 0⟩
  | [member] => member
  | members => ⟨.unionAll (members.map Member.chars), 1 + (members.map Member.depth).foldl max 0⟩

/-- An operation that still waits for its right side. -/
abbrev Pending := Option (Operation × Member)

/-- What was read so far as one set. Operations apply from left to right. -/
def settle (mode : Mode) (pending : Pending) (members : List Member) : Member :=
  let right := join members
  match pending with
  | none => right
  | some (operation, left) =>
    ⟨operation.apply (mode.folded left.chars) (mode.folded right.chars), 1 + max left.depth right.depth⟩

/-- The set in brackets: case variants are taken in before the complement is taken. -/
def close? (mode : Mode) (negated : Bool) (inside : Member) : Option Member :=
  (mode.polarity? negated (mode.folded inside.chars)).map fun chars => ⟨chars, 1 + inside.depth⟩

/-- A named class such as `[:alpha:]`, from behind its first bracket on. -/
def named? (text : List Char) : Option (Bool × CharClass × List Char) :=
  match text with
  | ':' :: rest =>
    let (negated, rest) := match rest with
      | '^' :: rest => (true, rest)
      | rest => (false, rest)
    match Escape.splitAt? ':' rest with
    | some (name, ']' :: rest) => (CharClass.asciiNamed? (String.ofList name)).map fun chars => (negated, chars, rest)
    | _ => none
  | _ => none

/-- A character or an escape. -/
def atom? (mode : Mode) : List Char → Option (Atom × List Char)
  | [] => none
  | '\\' :: rest => Escape.read? mode rest
  | c :: rest => some (.literal c, rest)

/-- A character as a member of a class, which outside Unicode mode has to be in ASCII. -/
def literal? (mode : Mode) : Atom → Option Char
  | .literal c => if mode.unicode || c.toNat < 0x80 then some c else none
  | _ => none

/-- A single member or a range. A hyphen before the closing bracket or before another hyphen makes no
range. -/
def item? (mode : Mode) (text : List Char) : Option (Member × List Char) := do
  let (first, rest) ← atom? mode text
  let alone : Option (Member × List Char) :=
    match first with
    | .chars chars => some (⟨chars, 0⟩, rest)
    | first => (literal? mode first).map fun c => (⟨.single c, 0⟩, rest)
  match mode.skip rest with
  | [] => none
  | '-' :: rest =>
    if mode.peek rest = some ']' || mode.peek rest = some '-' then alone
    else
      let (second, rest) ← atom? mode (mode.skip rest)
      let low ← literal? mode first
      let high ← literal? mode second
      if low ≤ high then some (⟨.range low high, 0⟩, rest) else none
  | _ => alone

/-- Whether a bracket opens a complement, and the text behind its sign. -/
def sign (mode : Mode) (text : List Char) : Bool × List Char :=
  match mode.skip text with
  | '^' :: rest => (true, rest)
  | rest => (false, rest)

/-- The inside of brackets up to the closing one, from behind the opening one and its sign on. While the
inside is `fresh`, hyphens stand for themselves, and so does a closing bracket that is the first of all. -/
def inside? (mode : Mode) : Nat → Bool → Pending → List Member → List Char → Option (Member × List Char)
  | 0, _, _, _, _ => none
  | budget + 1, fresh, pending, members, text =>
    match mode.skip text with
    | [] => none
    | c :: rest =>
      if fresh && c = '-' then inside? mode budget true pending (⟨.single c, 0⟩ :: members) rest
      else if fresh && members.isEmpty && c = ']' then
        inside? mode budget false pending (⟨.single c, 0⟩ :: members) rest
      else match c, rest with
      | ']', rest => some (settle mode pending members, rest)
      | '&', '&' :: rest =>
        inside? mode budget false (some (.intersection, settle mode pending members)) [] rest
      | '-', '-' :: rest =>
        inside? mode budget false (some (.difference, settle mode pending members)) [] rest
      | '~', '~' :: rest =>
        inside? mode budget false (some (.symmetricDifference, settle mode pending members)) [] rest
      | '[', rest =>
        match named? rest with
        | some (negated, chars, rest) => do
          let chars ← mode.polarity? negated (mode.folded chars)
          inside? mode budget false pending (⟨chars, 0⟩ :: members) rest
        | none => do
          let (negated, rest) := sign mode rest
          let (nested, rest) ← inside? mode budget true none [] rest
          let member ← close? mode negated nested
          inside? mode budget false pending (member :: members) rest
      | c, rest => do
        let (member, rest) ← item? mode (c :: rest)
        inside? mode budget false pending (member :: members) rest

/-- A class in brackets, from behind its opening bracket on. -/
def read? (mode : Mode) (text : List Char) : Option (Member × List Char) := do
  let (negated, rest) := sign mode text
  let (inside, rest) ← inside? mode (text.length + 1) true none [] rest
  some (← close? mode negated inside, rest)

end ContentAssist.Pattern.Bracket
