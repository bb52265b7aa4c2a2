import ContentAssist.Markup.Reader

/-! The grammar of complete texts:

    document  := prolog? misc element misc
    prolog    := `<?xml` (blank* attribute)* blank* `?>`
    misc      := blanks? ((comment | instruction) blanks?)*
    element   := `<` name (blank+ attribute)* blank* (`/>` | `>` content `</` name blank* `>`)
    attribute := name blank* `=` blank* quoted
    content   := chardata? ((element | reference | section | instruction | comment) chardata?)*

Each type has the derivations of one production, and the side conditions of the production are fields of it. A
derivation is written out as its `text`, and it stands for a concrete tree once it is known at which offset the
text begins. -/
namespace ContentAssist.Markup.Grammar

/-- What the characters of a text span if the first of them is at the offset. Nothing spans one character. -/
def extent (offset : Nat) (text : List Char) : Span :=
  ⟨offset, offset + max text.length 1 - 1⟩

def lexeme (kind : TokenKind) (text : List Char) (offset : Nat) : Token :=
  .ofImage kind (String.ofList text) offset

/-- Any number of blanks. -/
structure Blanks where
  text : List Char
  blank : ∀ c ∈ text, Unicode.isWhiteSpace c = true

structure Name where
  first : Char
  others : List Char
  starts : Lexeme.isNameStart first = true
  continues : ∀ c ∈ others, Lexeme.isNameChar c = true

def Name.text (name : Name) : List Char :=
  name.first :: name.others

/-- A value in either kind of quotes. -/
structure Quoted where
  quote : Char
  body : List Char
  isQuote : quote = '"' ∨ quote = '\''
  closed : ∀ c ∈ body, c ≠ quote ∧ c ≠ '<'

def Quoted.text (quoted : Quoted) : List Char :=
  quoted.quote :: (quoted.body ++ [quoted.quote])

structure Attribute where
  name : Name
  beforeEquals : Blanks
  afterEquals : Blanks
  value : Quoted

namespace Attribute

def text (attr : Attribute) : List Char :=
  attr.name.text ++ (attr.beforeEquals.text ++ '=' :: (attr.afterEquals.text ++ attr.value.text))

def tree (attr : Attribute) (offset : Nat) : Markup.Attribute :=
  let equals := offset + attr.name.text.length + attr.beforeEquals.text.length
  let value := equals + 1 + attr.afterEquals.text.length
  { name := some (lexeme .name attr.name.text offset)
    equals := some (lexeme .equals ['='] equals)
    string := some (lexeme .string attr.value.text value)
    span := extent offset attr.text }

end Attribute

/-- Attributes, each with the blanks in front of it. -/
abbrev Attributes := List (Blanks × Attribute)

namespace Attributes

def text (attributes : Attributes) : List Char :=
  attributes.flatMap fun entry => entry.1.text ++ entry.2.text

def trees (offset : Nat) : Attributes → List Markup.Attribute
  | [] => []
  | (blanks, attr) :: rest =>
    attr.tree (offset + blanks.text.length)
      :: trees (offset + blanks.text.length + attr.text.length) rest

end Attributes

/-- An opening tag up to its `>` or `/>`. -/
structure Tag where
  name : Name
  attributes : Attributes
  gap : Blanks
  spaced : ∀ entry ∈ attributes, entry.1.text ≠ []

def Tag.text (tag : Tag) : List Char :=
  '<' :: (tag.name.text ++ (tag.attributes.text ++ tag.gap.text))

/-- A run of text. -/
structure Chardata where
  text : List Char
  nonempty : text ≠ []
  plain : ∀ c ∈ text, c ≠ '<' ∧ c ≠ '&'

namespace Chardata

def part (run : Chardata) (offset : Nat) : ContentPart :=
  let kind := if run.text.all Unicode.isWhiteSpace then .seaWhitespace else .text
  .text ⟨[lexeme kind run.text offset], extent offset run.text⟩

/-- The text of a run that may be missing. -/
def optionalText (run : Option Chardata) : List Char :=
  (run.map text).getD []

def optionalParts (run : Option Chardata) (offset : Nat) : List ContentPart :=
  (run.map fun run => run.part offset).toList

end Chardata

/-- `&letters;` or `&#letters;` -/
structure Reference where
  isCharacter : Bool
  letters : List Char
  nonempty : letters ≠ []
  alphanumeric : ∀ c ∈ letters, Lexeme.isAlphanumeric c = true

def Reference.text (reference : Reference) : List Char :=
  '&' :: ((if reference.isCharacter then ['#'] else []) ++ (reference.letters ++ [';']))

/-- `<![CDATA[` body `]]>` -/
structure Section where
  body : List Char
  unclosed : ¬ [']', ']', '>'] <:+: body

def Section.text (part : Section) : List Char :=
  ['<', '!', '[', 'C', 'D', 'A', 'T', 'A', '['] ++ (part.body ++ [']', ']', '>'])

/-- `<?` body `?>` -/
structure Instruction where
  body : List Char
  unclosed : ¬ ['?', '>'] <:+: body

def Instruction.text (part : Instruction) : List Char :=
  ['<', '?'] ++ (part.body ++ ['?', '>'])

/-- `<!--` body `-->`. The body must not complete a `-->` together with the dashes in front of it. -/
structure Comment where
  body : List Char
  unclosed : ¬ ['-', '-', '>'] <:+: body
  notAngle : ¬ ['>'] <+: body
  notDashAngle : ¬ ['-', '>'] <+: body

def Comment.text (part : Comment) : List Char :=
  ['<', '!', '-', '-'] ++ (part.body ++ ['-', '-', '>'])

/-- A part of content that is neither an element nor a run of text. -/
inductive Leaf where
  | reference (part : Reference)
  | cdata (part : Section)
  | instruction (part : Instruction)
  | comment (part : Comment)

namespace Leaf

def text : Leaf → List Char
  | .reference part => part.text
  | .cdata part => part.text
  | .instruction part => part.text
  | .comment part => part.text

def part (offset : Nat) : Leaf → ContentPart
  | .reference part =>
    let kind := if part.isCharacter then .characterReference else .entityReference
    .reference ⟨lexeme kind part.text offset, extent offset part.text⟩
  | .cdata part => .cdata (lexeme .cdata part.text offset)
  | .instruction part => .processingInstruction (lexeme .processingInstruction part.text offset)
  | .comment part => .comment (lexeme .comment part.text offset)

end Leaf

mutual

inductive Element where
  | empty (tag : Tag)
  | full (tag : Tag) (lead : Option Chardata) (content : Content) (endName : Name) (gap : Blanks)

/-- Elements and leaves, each with the run of text that may follow it. -/
inductive Content where
  | nil
  | element (child : Element) (run : Option Chardata) (rest : Content)
  | leaf (leaf : Leaf) (run : Option Chardata) (rest : Content)

end

mutual

def Element.text : Element → List Char
  | .empty tag => tag.text ++ ['/', '>']
  | .full tag lead content endName gap =>
    tag.text ++ '>' :: (Chardata.optionalText lead ++ (content.text
      ++ (['<', '/'] ++ (endName.text ++ (gap.text ++ ['>'])))))

def Content.text : Content → List Char
  | .nil => []
  | .element child run rest => child.text ++ (Chardata.optionalText run ++ rest.text)
  | .leaf leaf run rest => leaf.text ++ (Chardata.optionalText run ++ rest.text)

end

mutual

def Element.tree (offset : Nat) : Element → Markup.Element
  | .empty tag =>
    { openAngle := some (lexeme .openAngle ['<'] offset)
      name := some (lexeme .name tag.name.text (offset + 1))
      attributes := tag.attributes.trees (offset + 1 + tag.name.text.length)
      startClose := none
      content := none
      slashOpen := none
      endName := none
      close := none
      slashClose := some (lexeme .slashClose ['/', '>'] (offset + tag.text.length))
      span := extent offset (Element.empty tag).text }
  | .full tag lead content endName gap =>
    let inner := offset + tag.text.length + 1
    let afterLead := inner + (Chardata.optionalText lead).length
    let closing := afterLead + content.text.length
    { openAngle := some (lexeme .openAngle ['<'] offset)
      name := some (lexeme .name tag.name.text (offset + 1))
      attributes := tag.attributes.trees (offset + 1 + tag.name.text.length)
      startClose := some (lexeme .startClose ['>'] (offset + tag.text.length))
      content := some ⟨Chardata.optionalParts lead inner ++ content.parts afterLead,
        extent inner (Chardata.optionalText lead ++ content.text)⟩
      slashOpen := some (lexeme .slashOpen ['<', '/'] closing)
      endName := some (lexeme .name endName.text (closing + 2))
      close := some (lexeme .close ['>'] (closing + 2 + endName.text.length + gap.text.length))
      slashClose := none
      span := extent offset (Element.full tag lead content endName gap).text }

def Content.parts (offset : Nat) : Content → List ContentPart
  | .nil => []
  | .element child run rest =>
    let afterChild := offset + child.text.length
    .element (child.tree offset) :: (Chardata.optionalParts run afterChild
      ++ rest.parts (afterChild + (Chardata.optionalText run).length))
  | .leaf leaf run rest =>
    let afterLeaf := offset + leaf.text.length
    leaf.part offset :: (Chardata.optionalParts run afterLeaf
      ++ rest.parts (afterLeaf + (Chardata.optionalText run).length))

end

/-- What can stand outside the root element, blanks apart. -/
inductive Aside where
  | comment (part : Comment)
  | instruction (part : Instruction)

namespace Aside

def text : Aside → List Char
  | .comment part => part.text
  | .instruction part => part.text

def kind : Aside → TokenKind
  | .comment _ => .comment
  | .instruction _ => .processingInstruction

end Aside

/-- Comments and instructions outside the root element. Blanks may stand in front of them and behind each. -/
structure Misc where
  lead : Blanks
  asides : List (Aside × Blanks)

namespace Misc

/-- A run of blanks is one construct; no blanks are none. -/
def ofBlanks (blanks : Blanks) (offset : Nat) : List Markup.Misc :=
  if blanks.text = [] then [] else [⟨lexeme .seaWhitespace blanks.text offset⟩]

def asidesText (asides : List (Aside × Blanks)) : List Char :=
  asides.flatMap fun entry => entry.1.text ++ entry.2.text

def ofAsides (offset : Nat) : List (Aside × Blanks) → List Markup.Misc
  | [] => []
  | (aside, blanks) :: rest =>
    let afterAside := offset + aside.text.length
    ⟨lexeme aside.kind aside.text offset⟩
      :: (ofBlanks blanks afterAside ++ ofAsides (afterAside + blanks.text.length) rest)

def text (misc : Misc) : List Char :=
  misc.lead.text ++ asidesText misc.asides

def trees (misc : Misc) (offset : Nat) : List Markup.Misc :=
  ofBlanks misc.lead offset ++ ofAsides (offset + misc.lead.text.length) misc.asides

end Misc

/-- The declaration at the head of a document. -/
structure Prolog where
  attributes : Attributes
  gap : Blanks

namespace Prolog

def text (prolog : Prolog) : List Char :=
  ['<', '?', 'x', 'm', 'l'] ++ (prolog.attributes.text ++ (prolog.gap.text ++ ['?', '>']))

def tree (prolog : Prolog) : Markup.Prolog :=
  { declarationOpen := some (lexeme .declarationOpen ['<', '?', 'x', 'm', 'l'] 0)
    attributes := prolog.attributes.trees 5
    specialClose := some (lexeme .specialClose ['?', '>']
      (5 + prolog.attributes.text.length + prolog.gap.text.length))
    span := extent 0 prolog.text }

end Prolog

/-- A document. Without a declaration it must not look as if it had one. -/
structure Document where
  prolog : Option Prolog
  before : Misc
  root : Element
  after : Misc
  undeclared : prolog = none → ¬ ['<', '?', 'x', 'm', 'l'] <+: before.text ++ (root.text ++ after.text)

namespace Document

def prologText (document : Document) : List Char :=
  (document.prolog.map Prolog.text).getD []

def text (document : Document) : List Char :=
  document.prologText ++ (document.before.text ++ (document.root.text ++ document.after.text))

def tree (document : Document) : Markup.Tree :=
  let afterProlog := document.prologText.length
  let atRoot := afterProlog + document.before.text.length
  let afterRoot := atRoot + document.root.text.length
  { prolog := document.prolog.map Prolog.tree
    misc := document.before.trees afterProlog ++ document.after.trees afterRoot
    element := some (document.root.tree atRoot)
    span := extent 0 document.text }

end Document

end ContentAssist.Markup.Grammar
