import ContentAssist.Unicode.BinaryProperty
import ContentAssist.Unicode.Category

/-! Quoting text for messages, so that every character of it can be told apart by eye: what cannot be seen,
or would join the character before it, is written by its code. -/
namespace ContentAssist.Text

open ContentAssist.Unicode

/-- The general categories of characters that leave a mark on the page. -/
def visibleCategories : List String :=
  ["Lu", "Ll", "Lt", "Lm", "Lo", "Mn", "Mc", "Me", "Nd", "Nl", "No", "Pc", "Pd", "Ps", "Pe", "Pi", "Pf", "Po",
   "Sm", "Sc", "Sk", "So"]

def inTable (tables : List (String × String)) (name : String) (c : Char) : Bool :=
  ((tables.lookup name).map fun text => (Ranges.ofText text).contains c.toNat).getD false

/-- A blank or a character of a visible category. -/
def isVisible (c : Char) : Bool :=
  c = ' ' || visibleCategories.any fun name => inTable categoryTables name c

/-- A character that is drawn onto the one before it. -/
def joinsPrevious (c : Char) : Bool :=
  inTable binaryPropertyTables "Grapheme_Extend" c

def escapeCode (c : Char) : List Char :=
  '\\' :: 'u' :: '{' :: Nat.toDigits 16 c.toNat ++ ['}']

def quoteChar (c : Char) : List Char :=
  match c with
  | '"' => ['\\', '"']
  | '\\' => ['\\', '\\']
  | '\n' => ['\\', 'n']
  | '\r' => ['\\', 'r']
  | '\t' => ['\\', 't']
  | '\x00' => ['\\', '0']
  | c =>
    if 0x20 ≤ c.toNat && c.toNat < 0x7f then [c]
    else if joinsPrevious c || !isVisible c then escapeCode c
    else [c]

/-- The text between double quotes. -/
def quote (text : String) : String :=
  String.ofList ('"' :: text.toList.flatMap quoteChar ++ ['"'])

end ContentAssist.Text
