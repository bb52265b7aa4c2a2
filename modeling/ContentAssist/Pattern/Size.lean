import ContentAssist.Pattern.CharClass

/-! How much room a pattern takes once its repetitions are written out.

The unit is the byte, on a machine that has one state of 32 bytes for each byte that is read, for each condition
and for each fork. Characters are read as one to four bytes. The machine that reads a text backwards is mostly the
larger one, so it is the one measured. The measure is an estimate: what alternatives have in common is not taken
together, so a pattern just at the limit may be judged either way. -/
namespace ContentAssist.Unicode

def maxCode : Nat := 0x10ffff

/-- The codes that are no characters lie between these. -/
def firstSurrogate : Nat := 0xd800

def lastSurrogate : Nat := 0xdfff

namespace Ranges

/-- Bring ranges in order and join those that touch. -/
def normalize (ranges : Ranges) : Ranges :=
  let ordered := ranges.mergeSort fun a b => a.1 ≤ b.1
  (ordered.foldl (fun joined (low, high) =>
    match joined with
    | (start, stop) :: rest =>
      if low ≤ stop + 1 || (stop + 1 = firstSurrogate && low = lastSurrogate + 1) then
        (start, max stop high) :: rest
      else (low, high) :: joined
    | [] => [(low, high)]) []).reverse

/-- A range without the surrogates at its ends. -/
def trimSurrogates (range : Nat × Nat) : Ranges :=
  let inside (code : Nat) : Bool := firstSurrogate ≤ code && code ≤ lastSurrogate
  let low := if inside range.1 then lastSurrogate + 1 else range.1
  let high := if inside range.2 then firstSurrogate - 1 else range.2
  if low ≤ high then [(low, high)] else []

/-- What lies between ranges that are in order, from `start` on. -/
def gaps (start : Nat) : Ranges → Ranges
  | [] => if start ≤ maxCode then trimSurrogates (start, maxCode) else []
  | (low, high) :: rest =>
    (if start < low then trimSurrogates (start, low - 1) else []) ++ gaps (high + 1) rest

def complement (ranges : Ranges) : Ranges :=
  gaps 0 (normalize ranges)

def union (a b : Ranges) : Ranges :=
  normalize (a ++ b)

def intersection (a b : Ranges) : Ranges :=
  complement (complement a ++ complement b)

/-- The ranges together with the case variants of their members. -/
def withCaseVariants (orbits : List (List Nat)) (ranges : Ranges) : Ranges :=
  let met := orbits.filter fun orbit => orbit.any ranges.contains
  normalize (ranges ++ met.flatMap fun orbit => orbit.map fun code => (code, code))

end Ranges

end ContentAssist.Unicode

namespace ContentAssist.Pattern

open ContentAssist.Unicode

/-- The case variants within ASCII. -/
def asciiCaseOrbits : List (List Nat) :=
  (List.range 26).map fun index => [0x41 + index, 0x61 + index]

/-- The members of a class. -/
def CharClass.members : CharClass → Ranges
  | .ranges table => table.normalize
  | .property set =>
    if set.complement then Ranges.complement set.tables.flatten else Ranges.normalize set.tables.flatten
  | .union a b => Ranges.union a.members b.members
  | .intersection a b => Ranges.intersection a.members b.members
  | .difference a b => Ranges.intersection a.members b.members.complement
  | .symmetricDifference a b =>
    Ranges.union (Ranges.intersection a.members b.members.complement)
      (Ranges.intersection b.members a.members.complement)
  | .complement a => a.members.complement
  | .folded ascii a => Ranges.withCaseVariants (if ascii then asciiCaseOrbits else caseOrbits) a.members

namespace Size

/-- What a state takes. -/
def state : Nat := 32

/-- What a state takes besides for each byte range that leads on from it. -/
def rangeStep : Nat := 8

/-- What a fork takes besides for each way on. -/
def way : Nat := 4

/-- A range of codes as ranges of their digits, where `count` digits to base 64 follow the first. -/
def digitRanges : Nat → Nat → Nat → List (List (Nat × Nat))
  | 0, low, high => [[(low, high)]]
  | count + 1, low, high =>
    let unit := Nat.pow 64 (count + 1)
    let a := low / unit
    let b := high / unit
    let p := low % unit
    let q := high % unit
    if a = b then (digitRanges count p q).map ((a, a) :: ·)
    else
      let first := if p = 0 then [] else (digitRanges count p (unit - 1)).map ((a, a) :: ·)
      let last := if q = unit - 1 then [] else (digitRanges count 0 q).map ((b, b) :: ·)
      let start := if p = 0 then a else a + 1
      let stop := if q = unit - 1 then b else b - 1
      let middle := if start ≤ stop then [(start, stop) :: List.replicate (count + 1) (0, 63)] else []
      first ++ middle ++ last

/-- The codes that are written with a given number of bytes behind the first. -/
def codesByLength : List (Nat × List (Nat × Nat)) :=
  [(0, [(0, 0x7f)]), (1, [(0x80, 0x7ff)]),
   (2, [(0x800, firstSurrogate - 1), (lastSurrogate + 1, 0xffff)]), (3, [(0x10000, maxCode)])]

def clip (range bounds : Nat × Nat) : Ranges :=
  let low := max range.1 bounds.1
  let high := min range.2 bounds.2
  if low ≤ high then [(low, high)] else []

def commonLength : List (Nat × Nat) → List (Nat × Nat) → Nat
  | a :: as, b :: bs => if a = b then 1 + commonLength as bs else 0
  | _, _ => 0

/-- The states for sequences of byte ranges in order. Sequences share the states of what they start with in
common. -/
def states : List (Nat × Nat) → List (List (Nat × Nat)) → Nat
  | _, [] => 0
  | previous, sequence :: rest =>
    (sequence.length - commonLength previous sequence) + states sequence rest

/-- The number of bytes that a code is written with. -/
def byteCount (code : Nat) : Nat :=
  if code < 0x80 then 1 else if code < 0x800 then 2 else if code < 0x10000 then 3 else 4

/-- The room for a given character. -/
def ofCode (code : Nat) : Nat := state * byteCount code

/-- The one character out of the ranges, if there is no other. -/
def single? : Ranges → Option Nat
  | [(low, high)] => if low = high then some low else none
  | _ => none

/-- The room for one character out of some ranges. Where there is only one it is read as itself. -/
def ofRanges (ranges : Ranges) : Nat :=
  if let some code := single? ranges then ofCode code
  else if ranges.all fun range => range.2 < 0x80 then 2 * state + rangeStep * ranges.length
  else
    let sequences := codesByLength.map fun (count, bounds) =>
      (ranges.flatMap fun range => bounds.flatMap (clip range)).flatMap fun range =>
        digitRanges count range.1 range.2
    2 * state + way * (sequences.map List.length).foldl (· + ·) 0
      + state * (sequences.map (states [])).foldl (· + ·) 0

/-- The room for a fork with the given number of ways on. -/
def fork (ways : Nat) : Nat := state + way * ways

/-- The room for a repetition of something that takes `size`. If it is not `solid`, the empty text may match it, and
then not to start at all takes a fork of its own. -/
def repeated (size : Nat) (solid : Bool) (least : Nat) (most : Option Nat) : Nat :=
  match most with
  | none =>
    if least = 0 && !solid then size + 2 * fork 2 + state
    else max least 1 * size + fork 2
  | some most =>
    if most = least then max (least * size) state
    else
      let start := if least = 0 && 1 < most then state else least * size
      start + (most - least) * (size + fork 2) + state

/-- What every pattern takes, whatever it is. -/
def base : Nat := 200

/-- No pattern may take more. -/
def limit : Nat := 10 * 1024 * 1024

end Size

end ContentAssist.Pattern
