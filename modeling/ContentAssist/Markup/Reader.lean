import ContentAssist.Markup.Lexeme
import ContentAssist.Markup.Tree

/-! Reading a text into its concrete tree. Every text has one: what is missing stays missing, and characters
that fit nowhere inside a tag are passed over. Nothing is supplied that the text does not have.

The loops carry a budget of steps. Each step consumes a character, so a budget of one more than the number of
characters left is never used up. -/
namespace ContentAssist.Markup

/-- The text that is left, and how many characters came before it. -/
structure Input where
  offset : Nat
  rest : List Char

namespace Input

def startsWith (word : String) (input : Input) : Bool :=
  Lexeme.startsWith word input.rest

def skip (count : Nat) (input : Input) : Input :=
  ⟨input.offset + count, input.rest.drop count⟩

def skipBlanks (input : Input) : Input :=
  input.skip (Lexeme.blankLength input.rest)

/-- Take the next `count` characters as a token. -/
def token (kind : TokenKind) (count : Nat) (input : Input) : Token × Input :=
  (.ofImage kind (String.ofList (input.rest.take count)) input.offset, input.skip count)

/-- Take `word` as a token if it comes next. -/
def word? (kind : TokenKind) (word : String) (input : Input) : Option Token × Input :=
  if input.startsWith word then
    let (token, next) := input.token kind word.length
    (some token, next)
  else (none, input)

/-- Take a name if one comes next. -/
def name? (input : Input) : Option Token × Input :=
  match Lexeme.nameLength? input.rest with
  | some length =>
    let (token, next) := input.token .name length
    (some token, next)
  | none => (none, input)

end Input

namespace Reader

/-- A quoted value, if it is closed. The quote of a value that is not is passed over. -/
def value? (input : Input) : Option Token × Input :=
  match Lexeme.quotedLength? input.rest with
  | some length =>
    let (token, next) := input.token .string length
    (some token, next)
  | none =>
    if input.startsWith "\"" || input.startsWith "'" then (none, input.skip 1) else (none, input)

/-- The least span that includes the first span and those of the tokens that are there. -/
def coverTokens (span : Span) (slots : List (Option Token)) : Span :=
  slots.foldl (fun span slot => match slot with
    | some token => span.cover token.span
    | none => span) span

/-- An attribute, where a name comes next. -/
def singleAttribute (input : Input) : Attribute × Input :=
  let start : Span := ⟨input.offset, input.offset⟩
  let (name, afterName) := input.name?
  let (equals, afterEquals) := afterName.skipBlanks.word? .equals "="
  let (string, next) := match equals with
    | some _ => value? afterEquals.skipBlanks
    | none => (none, afterEquals)
  (⟨name, equals, string, coverTokens start [name, equals, string]⟩, next)

/-- The attributes of a tag, up to its end. Characters that start no attribute are passed over. -/
def attributes (atEnd : List Char → Bool) : Nat → Input → List Attribute × Input
  | 0, input => ([], input)
  | budget + 1, input =>
    let input := input.skipBlanks
    match input.rest with
    | [] => ([], input)
    | c :: _ =>
      if atEnd input.rest then ([], input)
      else if Lexeme.isNameStart c then
        let (first, next) := singleAttribute input
        let (others, last) := attributes atEnd budget next
        (first :: others, last)
      else attributes atEnd budget (input.skip 1)

/-- The end of an opening tag: `<` of whatever follows, `/>` or `>`. -/
def atTagEnd (text : List Char) : Bool :=
  Lexeme.startsWith "<" text || Lexeme.startsWith "/>" text || Lexeme.startsWith ">" text

/-- The end of a declaration: `<` of whatever follows, or `?>`. -/
def atDeclarationEnd (text : List Char) : Bool :=
  Lexeme.startsWith "<" text || Lexeme.startsWith "?>" text

/-- An opening tag, as far as it was written. -/
structure StartTag where
  openAngle : Token
  name : Option Token
  attributes : List Attribute
  startClose : Option Token
  slashClose : Option Token

/-- A closing tag, as far as it was written. -/
structure EndTag where
  slashOpen : Option Token
  name : Option Token
  close : Option Token

/-- An opening tag, where `<` comes next. -/
def startTag (input : Input) : StartTag × Input :=
  let (openAngle, afterOpen) := input.token .openAngle 1
  let (name, afterName) := afterOpen.name?
  let (attributes, atEnd) := attributes atTagEnd (afterName.rest.length + 1) afterName
  let (slashClose, afterSlash) := atEnd.word? .slashClose "/>"
  let (startClose, next) := afterSlash.word? .startClose ">"
  match slashClose with
  | some _ => (⟨openAngle, name, attributes, none, slashClose⟩, afterSlash)
  | none => (⟨openAngle, name, attributes, startClose, none⟩, next)

/-- A closing tag, if `</` comes next. -/
def endTag (input : Input) : EndTag × Input :=
  let (slashOpen, afterOpen) := input.word? .slashOpen "</"
  match slashOpen with
  | none => (⟨none, none, none⟩, input)
  | some _ =>
    let (name, afterName) := afterOpen.skipBlanks.name?
    let (close, next) := afterName.skipBlanks.word? .close ">"
    (⟨slashOpen, name, close⟩, next)

/-- The last thing that the element has. -/
def lastSpan (start : StartTag) (content : Option Content) (finish : EndTag) : Span :=
  let ofToken (slot : Option Token) := slot.map Token.span
  let ofContent := (content.filter fun content => !content.parts.isEmpty).map Content.span
  let ofAttributes := start.attributes.getLast?.map Attribute.span
  ofToken finish.close <|> ofToken finish.name <|> ofToken finish.slashOpen <|> ofContent
    <|> ofToken start.startClose <|> ofToken start.slashClose <|> ofAttributes <|> ofToken start.name
    |>.getD start.openAngle.span

/-- The element that the tags and the content make up, from its `<` to the last thing that it has. -/
def assemble (start : StartTag) (content : Option Content) (finish : EndTag) : Element where
  openAngle := some start.openAngle
  name := start.name
  attributes := start.attributes
  startClose := start.startClose
  content := content
  slashOpen := finish.slashOpen
  endName := finish.name
  close := finish.close
  slashClose := start.slashClose
  span := ⟨start.openAngle.span.startOffset, (lastSpan start content finish).endOffset⟩

/-- Content covers its parts; content without any stands where the first would. -/
def contentOf (start : Nat) (parts : List ContentPart) : Content :=
  match parts.head?, parts.getLast? with
  | some first, some last => ⟨parts, first.span.cover last.span⟩
  | _, _ => ⟨parts, ⟨start, start⟩⟩

/-- A comment, section or instruction. -/
def delimited (kind : TokenKind) (terminator : String) (input : Input) : Token × Input :=
  input.token kind (Lexeme.delimitedLength terminator input.rest)

/-- A run of text, as one token. -/
def text (input : Input) : CharacterData × Input :=
  let count := Lexeme.textLength input.rest
  let kind := if (input.rest.take count).all Unicode.isWhiteSpace then .seaWhitespace else .text
  let (token, next) := input.token kind count
  (⟨[token], token.span⟩, next)

/-- A part of content other than an element. -/
def leaf (input : Input) : ContentPart × Input :=
  if input.startsWith "<!--" then
    let (token, next) := delimited .comment "-->" input
    (.comment token, next)
  else if input.startsWith "<![CDATA[" then
    let (token, next) := delimited .cdata "]]>" input
    (.cdata token, next)
  else if input.startsWith "<?" then
    let (token, next) := delimited .processingInstruction "?>" input
    (.processingInstruction token, next)
  else match Lexeme.referenceLength? input.rest with
    | some (isCharacter, length) =>
      let kind := if isCharacter then .characterReference else .entityReference
      let (token, next) := input.token kind length
      (.reference ⟨token, token.span⟩, next)
    | none =>
      let (run, next) := text input
      (.text run, next)

/-- An element comes next: `<` that opens no comment, section or instruction. -/
def atElement (input : Input) : Bool :=
  input.startsWith "<" && !input.startsWith "<!--" && !input.startsWith "<![CDATA["
    && !input.startsWith "<?"

mutual

/-- An element, where `<` comes next. -/
def element : Nat → Input → Element × Input
  | 0, input => (default, input)
  | budget + 1, input =>
    let (start, afterStart) := startTag input
    match start.startClose with
    | none => (assemble start none ⟨none, none, none⟩, afterStart)
    | some _ =>
      let (found, afterContent) := parts budget afterStart
      let (finish, next) := endTag afterContent
      (assemble start (some (contentOf afterStart.offset found)) finish, next)

/-- The parts of content, up to `</` or the end of the text. -/
def parts : Nat → Input → List ContentPart × Input
  | 0, input => ([], input)
  | budget + 1, input =>
    if input.rest.isEmpty || input.startsWith "</" then ([], input)
    else
      let (first, next) :=
        if atElement input then
          let (child, next) := element budget input
          (.element child, next)
        else leaf input
      let (others, last) := parts budget next
      (first :: others, last)

end

/-- Comments, instructions and blanks outside the root element. -/
def misc : Nat → Input → List Misc × Input
  | 0, input => ([], input)
  | budget + 1, input =>
    let found : Option (Token × Input) :=
      if input.startsWith "<!--" then some (delimited .comment "-->" input)
      else if input.startsWith "<?" then some (delimited .processingInstruction "?>" input)
      else
        let blanks := Lexeme.blankLength input.rest
        if blanks = 0 then none else some (input.token .seaWhitespace blanks)
    match found with
    | none => ([], input)
    | some (token, next) =>
      let (others, last) := misc budget next
      (⟨token⟩ :: others, last)

/-- The declaration, where `<?xml` comes next. -/
def prolog (input : Input) : Prolog × Input :=
  let (opening, afterOpen) := input.token .declarationOpen 5
  let (attributes, atEnd) := attributes atDeclarationEnd (afterOpen.rest.length + 1) afterOpen
  let (close, next) := atEnd.word? .specialClose "?>"
  let span := attributes.foldl (fun span attr => span.cover attr.span) opening.span
  (⟨some opening, attributes, close, coverTokens span [close]⟩, next)

/-- The declaration, if the text starts with one. -/
def prolog? (input : Input) : Option Prolog × Input :=
  if input.startsWith "<?xml" then
    let (prolog, next) := prolog input
    (some prolog, next)
  else (none, input)

/-- The root element, if one comes next. -/
def root? (budget : Nat) (input : Input) : Option Element × Input :=
  if input.startsWith "<" && !input.startsWith "</" then
    let (element, next) := element budget input
    (some element, next)
  else (none, input)

/-- A whole text, and what is left of it: what follows the root element and is neither a comment, an
instruction nor a blank stays unread. -/
def document (input : Input) : Tree × Input :=
  let budget := input.rest.length + 1
  let (prolog, afterProlog) := prolog? input
  let (before, atRoot) := misc budget afterProlog
  let (root, afterRoot) := root? budget atRoot
  let (after, last) := misc budget afterRoot
  (⟨prolog, before ++ after, root, ⟨0, input.rest.length - 1⟩⟩, last)

end Reader

/-- Read a whole text. -/
def Tree.read (source : String) : Tree :=
  (Reader.document ⟨0, source.toList⟩).1

end ContentAssist.Markup
