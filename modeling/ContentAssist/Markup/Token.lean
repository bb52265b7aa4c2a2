import ContentAssist.Span

/-! Tokens of a markup text. -/
namespace ContentAssist.Markup

/-- What a token is. -/
inductive TokenKind where
  /-- `<` -/
  | openAngle
  /-- `</` -/
  | slashOpen
  /-- `>` at the end of an opening tag -/
  | startClose
  /-- `/>` -/
  | slashClose
  /-- `>` at the end of a closing tag -/
  | close
  /-- `=` -/
  | equals
  /-- The name of an element or attribute -/
  | name
  /-- An attribute value with its quotes -/
  | string
  /-- Character data that is not all blank -/
  | text
  /-- Blank character data -/
  | seaWhitespace
  /-- `<!-- ... -->` -/
  | comment
  /-- `<![CDATA[ ... ]]>` -/
  | cdata
  /-- `<? ... ?>` other than the declaration -/
  | processingInstruction
  /-- `&name;` -/
  | entityReference
  /-- `&#number;` -/
  | characterReference
  /-- `<?xml` -/
  | declarationOpen
  /-- `?>` at the end of the declaration -/
  | specialClose
deriving DecidableEq, Repr, Inhabited

/-- The kinds in their order of declaration. -/
def TokenKind.all : List TokenKind :=
  [.openAngle, .slashOpen, .startClose, .slashClose, .close, .equals, .name, .string, .text, .seaWhitespace,
   .comment, .cdata, .processingInstruction, .entityReference, .characterReference, .declarationOpen,
   .specialClose]

theorem TokenKind.mem_all (kind : TokenKind) : kind ∈ TokenKind.all := by
  cases kind <;> simp [TokenKind.all]

/-- A token with the text it stands for. A recovered token was supplied to mend a broken text and does not
occur in it; what looks for the token of a slot passes it over. -/
structure Token where
  kind : TokenKind
  image : String
  span : Span
  recovered : Bool
deriving DecidableEq, Repr, Inhabited

namespace Token

/-- The token that `image` forms from offset `start` on. An empty image still covers one character. -/
def ofImage (kind : TokenKind) (image : String) (start : Nat) : Token :=
  ⟨kind, image, ⟨start, start + max image.length 1 - 1⟩, false⟩

/-- A token supplied where the text has none. -/
def supplied (kind : TokenKind) : Token :=
  ⟨kind, "", ⟨0, 0⟩, true⟩

/-- Whether the token occurs in the text. -/
def isPresent (token : Token) : Bool :=
  !token.recovered

end Token

/-- The token of a slot, if the text has it. -/
def present (slot : Option Token) : Option Token :=
  slot.filter Token.isPresent

theorem present_eq_some_iff (slot : Option Token) (token : Token) :
    present slot = some token ↔ slot = some token ∧ token.recovered = false := by
  simp [present, Token.isPresent, Option.filter_eq_some_iff]

end ContentAssist.Markup
