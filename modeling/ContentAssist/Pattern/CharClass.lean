import ContentAssist.Unicode.Alphabetic
import ContentAssist.Unicode.CaseFolding
import ContentAssist.Unicode.Property

/-! Sets of characters as patterns write them. -/
namespace ContentAssist.Pattern

open ContentAssist.Unicode

/-- A set of characters. -/
inductive CharClass where
  | ranges (table : Ranges)
  | property (set : PropertySet)
  | union (a b : CharClass)
  | intersection (a b : CharClass)
  | difference (a b : CharClass)
  | symmetricDifference (a b : CharClass)
  | complement (a : CharClass)
  /-- Everything that differs in case only from a member; only within ASCII if so marked -/
  | folded (ascii : Bool) (a : CharClass)

namespace CharClass

def contains (code : Nat) : CharClass → Bool
  | .ranges table => table.contains code
  | .property set => set.contains code
  | .union a b => a.contains code || b.contains code
  | .intersection a b => a.contains code && b.contains code
  | .difference a b => a.contains code && !b.contains code
  | .symmetricDifference a b => a.contains code != b.contains code
  | .complement a => !a.contains code
  | .folded ascii a =>
    (if ascii then asciiCaseVariants code else caseVariants code).any fun variant => a.contains variant

def nothing : CharClass := .ranges []

def single (c : Char) : CharClass := .ranges [(c.toNat, c.toNat)]

def unionAll (classes : List CharClass) : CharClass :=
  classes.foldr .union nothing

def range (low high : Char) : CharClass := .ranges [(low.toNat, high.toNat)]

/-- All characters but those given, which are in increasing order. -/
def allBut (chars : List Char) : CharClass :=
  .complement (.ranges (chars.map fun c => (c.toNat, c.toNat)))

/-- Decimal digits of all scripts. -/
def digits : CharClass := .property ⟨categoryRanges ["Nd"], false⟩

def whiteSpace : CharClass := .ranges Unicode.whiteSpace

/-- Characters of words: letters, marks, decimal digits, connectors and the two joiners. -/
def wordChars : CharClass :=
  .property ⟨[alphabetic, [(0x200c, 0x200d)]] ++ categoryRanges (marks ++ ["Nd", "Pc"]), false⟩

def asciiDigits : CharClass := .ranges [(0x30, 0x39)]

def asciiSpace : CharClass := .ranges [(0x09, 0x0d), (0x20, 0x20)]

def asciiWordChars : CharClass := .ranges [(0x30, 0x39), (0x41, 0x5a), (0x5f, 0x5f), (0x61, 0x7a)]

/-- The classes of ASCII characters that have names. -/
def asciiNamed? (name : String) : Option CharClass :=
  match name with
  | "alnum" => some (.ranges [(0x30, 0x39), (0x41, 0x5a), (0x61, 0x7a)])
  | "alpha" => some (.ranges [(0x41, 0x5a), (0x61, 0x7a)])
  | "ascii" => some (.ranges [(0x00, 0x7f)])
  | "blank" => some (.ranges [(0x09, 0x09), (0x20, 0x20)])
  | "cntrl" => some (.ranges [(0x00, 0x1f), (0x7f, 0x7f)])
  | "digit" => some asciiDigits
  | "graph" => some (.ranges [(0x21, 0x7e)])
  | "lower" => some (.ranges [(0x61, 0x7a)])
  | "print" => some (.ranges [(0x20, 0x7e)])
  | "punct" => some (.ranges [(0x21, 0x2f), (0x3a, 0x40), (0x5b, 0x60), (0x7b, 0x7e)])
  | "space" => some asciiSpace
  | "upper" => some (.ranges [(0x41, 0x5a)])
  | "word" => some asciiWordChars
  | "xdigit" => some (.ranges [(0x30, 0x39), (0x41, 0x46), (0x61, 0x66)])
  | _ => none

end CharClass

end ContentAssist.Pattern
