/-! Sets of code points as increasing lists of ranges. Both ends of a range belong to it. -/
namespace ContentAssist.Unicode

/-- Ranges of code points in increasing order, none touching the next. -/
abbrev Ranges := List (Nat × Nat)

/-- Membership. The search stops at the first range that starts beyond the code point, so the answer is right
only for ranges in increasing order. -/
def Ranges.contains : Ranges → Nat → Bool
  | [], _ => false
  | (low, high) :: rest, code => low ≤ code && (code ≤ high || Ranges.contains rest code)

/-- The value of a lower-case hexadecimal digit; other characters count as zero. -/
def hexDigit (c : Char) : Nat :=
  if '0' ≤ c && c ≤ '9' then c.toNat - '0'.toNat
  else if 'a' ≤ c && c ≤ 'f' then c.toNat - 'a'.toNat + 10
  else 0

def hexValue (digits : List Char) : Nat :=
  digits.foldl (fun value c => value * 16 + hexDigit c) 0

/-- The words of a text, which the characters in `marks` divide. Empty words are dropped. -/
def words (marks : List Char) (text : List Char) : List (List Char) :=
  (text.foldr (fun c words =>
    if marks.contains c then [] :: words
    else match words with
      | [] => [[c]]
      | word :: rest => (c :: word) :: rest) []).filter (· ≠ [])

/-- Read a table of ranges divided by blanks or line ends: `a-b` for a range, `a` for a single code point,
both in lower-case hexadecimal. -/
def Ranges.ofText (text : String) : Ranges :=
  (words [' ', '\n'] text.toList).map fun word =>
    match words ['-'] word with
    | [low, high] => (hexValue low, hexValue high)
    | _ => (hexValue word, hexValue word)

end ContentAssist.Unicode
