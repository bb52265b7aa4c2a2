import ContentAssist.Unicode.Age
import ContentAssist.Unicode.BinaryProperty
import ContentAssist.Unicode.Category
import ContentAssist.Unicode.Script
import ContentAssist.Unicode.Segmentation
import ContentAssist.Unicode.WhiteSpace

/-! Sets of characters by the names of their properties. Names are compared loosely: case, blanks, hyphens
and underscores do not count, nor does a leading `is`. -/
namespace ContentAssist.Unicode

/-- The form of a name that is compared. Characters outside ASCII are dropped. The name `isc` keeps its
`is`: it abbreviates a property of its own. -/
def looseName (name : List Char) : String :=
  let squeeze (chars : List Char) : List Char :=
    (chars.filter fun c => c.toNat < 0x80 && c ≠ ' ' && c ≠ '_' && c ≠ '-').map Char.toLower
  match name with
  | i :: s :: rest =>
    if i.toLower = 'i' && s.toLower = 's' then
      match squeeze rest with
      | ['c'] => "isc"
      | squeezed => String.ofList squeezed
    else String.ofList (squeeze name)
  | _ => String.ofList (squeeze name)

/-- The points of some ranges, or all other points. -/
structure PropertySet where
  tables : List Ranges
  complement : Bool

def PropertySet.contains (set : PropertySet) (code : Nat) : Bool :=
  (set.tables.any fun ranges => ranges.contains code) != set.complement

/-- The table with the name, given in full or abbreviated. -/
def findTable? (tables abbreviations : List (String × String)) (name : String) : Option Ranges :=
  let named := tables.find? fun entry => looseName entry.1.toList = name
  let abbreviated := (abbreviations.find? fun entry => looseName entry.1.toList = name).bind fun entry =>
    tables.find? fun table => table.1 = entry.2
  (named <|> abbreviated).map fun entry => .ofText entry.2

/-- The tables of the general categories whose abbreviation is in the list. -/
def categoryRanges (abbreviations : List String) : List Ranges :=
  (categoryTables.filter fun entry => abbreviations.contains entry.1).map fun entry => .ofText entry.2

def letters : List String := ["Lu", "Ll", "Lt", "Lm", "Lo"]
def marks : List String := ["Mn", "Mc", "Me"]
def numbers : List String := ["Nd", "Nl", "No"]
def punctuation : List String := ["Pc", "Pd", "Ps", "Pe", "Pi", "Pf", "Po"]
def symbols : List String := ["Sm", "Sc", "Sk", "So"]
def separators : List String := ["Zs", "Zl", "Zp"]
def controls : List String := ["Cc", "Cf", "Co"]

/-- The names of the general categories, each with the categories that it takes in. -/
def categoryNames : List (List String × List String) :=
  [(["l", "letter"], letters), (["lc", "casedletter"], ["Lu", "Ll", "Lt"]),
   (["m", "mark", "combiningmark"], marks), (["n", "number"], numbers),
   (["p", "punctuation", "punct"], punctuation), (["s", "symbol"], symbols),
   (["z", "separator"], separators),
   (["lu", "uppercaseletter"], ["Lu"]), (["ll", "lowercaseletter"], ["Ll"]),
   (["lt", "titlecaseletter"], ["Lt"]), (["lm", "modifierletter"], ["Lm"]), (["lo", "otherletter"], ["Lo"]),
   (["mn", "nonspacingmark"], ["Mn"]), (["mc", "spacingmark"], ["Mc"]), (["me", "enclosingmark"], ["Me"]),
   (["nd", "decimalnumber", "digit"], ["Nd"]), (["nl", "letternumber"], ["Nl"]),
   (["no", "othernumber"], ["No"]), (["pc", "connectorpunctuation"], ["Pc"]),
   (["pd", "dashpunctuation"], ["Pd"]), (["ps", "openpunctuation"], ["Ps"]),
   (["pe", "closepunctuation"], ["Pe"]), (["pi", "initialpunctuation"], ["Pi"]),
   (["pf", "finalpunctuation"], ["Pf"]), (["po", "otherpunctuation"], ["Po"]),
   (["sm", "mathsymbol"], ["Sm"]), (["sc", "currencysymbol"], ["Sc"]), (["sk", "modifiersymbol"], ["Sk"]),
   (["so", "othersymbol"], ["So"]), (["zs", "spaceseparator"], ["Zs"]), (["zl", "lineseparator"], ["Zl"]),
   (["zp", "paragraphseparator"], ["Zp"]), (["cc", "control", "cntrl"], ["Cc"]), (["cf", "format"], ["Cf"]),
   (["co", "privateuse"], ["Co"])]

def assigned : List String :=
  letters ++ marks ++ numbers ++ punctuation ++ symbols ++ separators ++ controls

/-- A general category, or one of the sets `any`, `assigned` and `ascii`. -/
def category? (name : String) : Option PropertySet :=
  match name with
  | "any" => some ⟨[], true⟩
  | "assigned" => some ⟨categoryRanges assigned, false⟩
  | "ascii" => some ⟨[[(0, 0x7f)]], false⟩
  | "cn" | "unassigned" => some ⟨categoryRanges assigned, true⟩
  | "c" | "other" =>
    some ⟨categoryRanges (letters ++ marks ++ numbers ++ punctuation ++ symbols ++ separators), true⟩
  | _ => (categoryNames.find? fun entry => entry.1.contains name).map fun entry =>
    ⟨categoryRanges entry.2, false⟩

def ofRanges? (ranges : Option Ranges) : Option PropertySet :=
  ranges.map fun ranges => ⟨[ranges], false⟩

def script? (name : String) : Option PropertySet :=
  ofRanges? (findTable? scriptTables scriptAbbreviations name)

/-- The characters used with a script. -/
def scriptExtensions? (name : String) : Option PropertySet :=
  let full := ((scriptAbbreviations.find? fun entry => looseName entry.1.toList = name).map Prod.snd).getD name
  ofRanges? (findTable? scriptExtensionTables [] (looseName full.toList)
    <|> findTable? scriptTables scriptAbbreviations name)

/-- The characters assigned in a version of the standard or before, as in `6.0` and `v60`. -/
def age? (name : String) : Option PropertySet :=
  let named (entry : String × String) : Bool :=
    entry.1 = name || String.ofList ('v' :: entry.1.toList.filter (· ≠ '.')) = name
  match ageTables.findIdx? named with
  | some index => some ⟨(ageTables.take (index + 1)).map fun entry => .ofText entry.2, false⟩
  | none => none

def binaryProperty? (name : String) : Option PropertySet :=
  ofRanges? (findTable? binaryPropertyTables binaryPropertyAbbreviations name)

/-- A set by a single name: a property that a character has or has not, a general category, or a script. The
names `cf`, `sc` and `lc` are always those of categories. -/
def property? (name : List Char) : Option PropertySet :=
  let name := looseName name
  if name = "cf" || name = "sc" || name = "lc" then category? name
  else binaryProperty? name <|> category? name <|> script? name

/-- A set by the name of a property and of one of its values. -/
def propertyValue? (property value : List Char) : Option PropertySet :=
  let value := looseName value
  match looseName property with
  | "gc" | "generalcategory" => category? value
  | "sc" | "script" => script? value
  | "scx" | "scriptextensions" => scriptExtensions? value
  | "age" => age? value
  | "gcb" | "graphemeclusterbreak" =>
    ofRanges? (findTable? graphemeBreakTables graphemeBreakAbbreviations value)
  | "wb" | "wordbreak" => ofRanges? (findTable? wordBreakTables wordBreakAbbreviations value)
  | "sb" | "sentencebreak" => ofRanges? (findTable? sentenceBreakTables sentenceBreakAbbreviations value)
  | _ => none

end ContentAssist.Unicode
