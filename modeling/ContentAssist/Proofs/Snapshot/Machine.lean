import ContentAssist.Proofs.Markup.Passage
import ContentAssist.Snapshot

/-! Reading a text step by step. A machine moves through the text from place to place and puts elements into a document
as it meets them: an element goes in when its opening tag has been read, the runs of text follow one by one, and its
places are filled in at its end. Whatever could go wrong on the way is a fault: a place or a slice outside the text, a
round of a loop that does not move on, a loop or nesting without end, a missing name, and a change that the document
refuses. -/
namespace ContentAssist.Machine

open Markup (Input Token TokenKind)

/-- What can stop the machine. -/
inductive Fault where
  /-- The place is behind the end of the text. -/
  | pastEnd (position : Nat)
  /-- The slice does not lie in the text. -/
  | outside (start stop : Nat)
  /-- A round of a loop stayed at its place or went back. -/
  | stalled (position : Nat)
  /-- A loop took more rounds than there are characters, or elements were nested more deeply. -/
  | endless
  /-- An attribute has no name. -/
  | nameless (position : Nat)
  /-- The document does not have the element that is to be changed, or has a root already. -/
  | refused (error : Document.ChangeError)
deriving DecidableEq, Repr

structure State where
  position : Nat
  document : Document

/-- A step of the machine, which knows the whole text. -/
abbrev Step := ReaderT (List Char) (StateT State (Except Fault))

section Places

def position : Step Nat :=
  return (← get).position

/-- The text from the place on. -/
def rest : Step (List Char) :=
  return (← read).drop (← position)

def atEnd : Step Bool :=
  return (← read).length ≤ (← position)

def starts (word : String) : Step Bool :=
  return Markup.Lexeme.startsWith word (← rest)

def startsName : Step Bool :=
  return (← rest).head?.any Markup.Lexeme.isNameStart

def advance (count : Nat) : Step Unit := do
  let next := (← position) + count
  if next ≤ (← read).length then modify fun state => { state with position := next }
  else throw (.pastEnd next)

/-- The text from `start` up to the place. -/
def slice (start : Nat) : Step String := do
  let stop ← position
  if start ≤ stop && stop ≤ (← read).length then return String.ofList (((← read).take stop).drop start)
  else throw (.outside start stop)

def tokenFrom (kind : TokenKind) (start : Nat) : Step Token :=
  return .ofImage kind (← slice start) start

def token (kind : TokenKind) (count : Nat) : Step Token := do
  let start ← position
  advance count
  tokenFrom kind start

end Places

section Loops

/-- How a round of a loop ends: the loop is over, or it goes on and may have found something. -/
inductive Round (Item Last : Type) where
  | last (value : Last)
  | next (item : Option Item)

variable {Item Last : Type}

/-- The rounds of a loop, up to the last. Each of the others has to move forward. -/
def rounds (round : Step (Round Item Last)) : Nat → Step (List Item × Last)
  | 0 => throw .endless
  | budget + 1 => do
    let start ← position
    match ← round with
    | .last value => return ([], value)
    | .next item =>
      if (← position) ≤ start then throw (.stalled start)
      let others ← rounds round budget
      return (item.toList ++ others.1, others.2)

def loop (round : Step (Round Item Last)) : Step (List Item × Last) := do
  rounds round ((← read).length + 1)

-- A loop that finds nothing and stays where it is does not go on for ever: it is a fault.
example : ((loop (pure (.next none) : Step (Round Unit Unit))).run ['a']).run ⟨0, .empty ⟨0, 0⟩⟩ =
    .error (.stalled 0) :=
  rfl

/-- Move on by one character, unless the text is at its end or the condition fails. -/
def scanRound (condition : List Char → Bool) : Step (Round Unit Unit) := do
  if (← atEnd) || !condition (← rest) then return .last ()
  else
    advance 1
    return .next none

def scan (condition : List Char → Bool) : Step Unit := do
  let _ ← loop (scanRound condition)

def skipBlanks : Step Unit :=
  scan fun text => text.head?.any Unicode.isWhiteSpace

end Loops

section Tags

def word? (kind : TokenKind) (word : String) : Step (Option Token) := do
  if ← starts word then return some (← token kind word.length)
  else return none

def name? : Step (Option Token) := do
  if ← startsName then
    let start ← position
    scan fun text => text.head?.any Markup.Lexeme.isNameChar
    return some (← tokenFrom .name start)
  else return none

/-- A quoted value, if it is closed. The quote of a value that is not is passed over. -/
def string? : Step (Option Token) := do
  match Markup.Lexeme.quotedLength? (← rest) with
  | some length => return some (← token .string length)
  | none =>
    if (← starts "\"") || (← starts "'") then advance 1
    return none

/-- What follows the name of an attribute: `=` and behind it a value. -/
def valueOf (name : Token) : Step Markup.Attribute := do
  skipBlanks
  match ← word? .equals "=" with
  | some equals =>
    skipBlanks
    let string ← string?
    return ⟨some name, some equals, string, Markup.Reader.coverTokens name.span [some equals, string]⟩
  | none => return ⟨some name, none, none, name.span⟩

def singleAttribute : Step Markup.Attribute := do
  match ← name? with
  | some name => valueOf name
  | none => throw (.nameless (← position))

/-- Look for the end of a tag, and behind it if there is one; else pass an attribute or a character that starts
none. -/
def attributeRound {Last : Type} (close : Step (Option Last)) : Step (Round Markup.Attribute Last) := do
  skipBlanks
  match ← close with
  | some last => return .last last
  | none =>
    if ← startsName then return .next (some (← singleAttribute))
    else
      advance 1
      return .next none

/-- The end of an opening tag: `>` or `/>`, or neither where `<` or the end of the text comes first. -/
def tagClose : Step (Option (Option Token × Option Token)) := do
  if (← atEnd) || (← starts "<") then return some (none, none)
  else match ← word? .slashClose "/>" with
    | some slashClose => return some (none, some slashClose)
    | none => return (← word? .startClose ">").map fun startClose => (some startClose, none)

def declarationClose : Step (Option (Option Token)) := do
  if (← atEnd) || (← starts "<") then return some none
  else return (← word? .specialClose "?>").map some

def prolog : Step Markup.Prolog := do
  let opening ← token .declarationOpen 5
  let found ← loop (attributeRound declarationClose)
  let span := found.1.foldl (fun span attr => span.cover attr.span) opening.span
  return ⟨some opening, found.1, found.2, Markup.Reader.coverTokens span [found.2]⟩

def startTag : Step Markup.Reader.StartTag := do
  let opening ← token .openAngle 1
  let name ← name?
  let found ← loop (attributeRound tagClose)
  return ⟨opening, name, found.1, found.2.1, found.2.2⟩

def endTag : Step Markup.Reader.EndTag := do
  match ← word? .slashOpen "</" with
  | some slashOpen =>
    skipBlanks
    let name ← name?
    skipBlanks
    return ⟨some slashOpen, name, ← word? .close ">"⟩
  | none => return ⟨none, none, none⟩

end Tags

section Contents

def delimited (kind : TokenKind) (terminator : String) : Step Token := do
  let start ← position
  advance 2
  scan fun text => !Markup.Lexeme.startsWith terminator text
  unless ← atEnd do advance terminator.length
  tokenFrom kind start

/-- A run of text takes at least one character, whatever that is. -/
def text : Step Markup.CharacterData := do
  let start ← position
  advance 1
  scan fun text => !Markup.Lexeme.startsWith "<" text && (Markup.Lexeme.referenceLength? text).isNone
  let image ← slice start
  let kind := if image.toList.all Unicode.isWhiteSpace then .seaWhitespace else .text
  let token := Token.ofImage kind image start
  return ⟨[token], token.span⟩

def miscRound : Step (Round Markup.Misc Unit) := do
  if ← starts "<!--" then return .next (some ⟨← delimited .comment "-->"⟩)
  else if ← starts "<?" then return .next (some ⟨← delimited .processingInstruction "?>"⟩)
  else if (← rest).head?.any Unicode.isWhiteSpace then
    let start ← position
    skipBlanks
    return .next (some ⟨← tokenFrom .seaWhitespace start⟩)
  else return .last ()

/-- Carry a change of the document out, unless the document refuses it. -/
def change {Result : Type} (update : Document → Except Document.ChangeError (Result × Document)) : Step Result := do
  match update (← get).document with
  | .ok changed =>
    modify fun state => { state with document := changed.2 }
    return changed.1
  | .error error => throw (.refused error)

def changeElement (id : Nat) (update : Document.Element → Document.Element) : Step Unit :=
  change fun document => do return ((), ← document.modify id update)

/-- The next part of the content of the element with the identifier. -/
def partRound (child : Step Markup.Element) (id : Nat) : Step (Round Markup.ContentPart Unit) := do
  if (← atEnd) || (← starts "</") then return .last ()
  else if ← starts "<!--" then return .next (some (.comment (← delimited .comment "-->")))
  else if ← starts "<![CDATA[" then return .next (some (.cdata (← delimited .cdata "]]>")))
  else if ← starts "<?" then
    return .next (some (.processingInstruction (← delimited .processingInstruction "?>")))
  else if ← starts "<" then return .next (some (.element (← child)))
  else match Markup.Lexeme.referenceLength? (← rest) with
    | some reference =>
      let found ← token (if reference.1 then .characterReference else .entityReference) reference.2
      return .next (some (.reference ⟨found, found.span⟩))
    | none =>
      let run ← text
      changeElement id fun element => { element with texts := element.texts ++ [.ofMarkup run] }
      return .next (some (.text run))

/-- The element as it goes into the document: its opening tag only. -/
def elementOf (start : Markup.Reader.StartTag) : Document.Element where
  id := 0
  name := start.name.map Token.image
  attributes := start.attributes.map .ofMarkup
  subElements := []
  texts := []
  span := start.openAngle.span
  parent := none
  places := ⟨none, none, none⟩

/-- Fill in what is known at the end of the element. -/
def fillIn (markup : Markup.Element) (element : Document.Element) : Document.Element :=
  { element with span := markup.span, places := (Document.Element.ofMarkup markup).places }

/-- An element, under the parent. -/
def element : Nat → Option Nat → Step Markup.Element
  | 0, _ => throw .endless
  | depth + 1, parent => do
    let start ← startTag
    let id ← change fun document => document.insert parent (elementOf start)
    if start.startClose.isSome then
      let first ← position
      let found ← loop (partRound (element depth (some id)) id)
      let finish ← endTag
      let markup := Markup.Reader.assemble start (some (Markup.Reader.contentOf first found.1)) finish
      changeElement id (fillIn markup)
      return markup
    else
      let markup := Markup.Reader.assemble start none ⟨none, none, none⟩
      changeElement id (fillIn markup)
      return markup

def prolog? : Step (Option Markup.Prolog) := do
  if ← starts "<?xml" then return some (← prolog)
  else return none

def root? : Step (Option Markup.Element) := do
  if (← starts "<") && !(← starts "</") then return some (← element ((← read).length + 1) none)
  else return none

/-- The whole text. -/
def tree : Step Markup.Tree := do
  let prolog ← prolog?
  let before ← loop miscRound
  let root ← root?
  let after ← loop miscRound
  return ⟨prolog, before.1 ++ after.1, root, ⟨0, (← read).length - 1⟩⟩

end Contents

/-- Run the machine on a text, with an empty document to start with. -/
def run (source : String) : Except Fault Snapshot := do
  let text := source.toList
  let (tree, state) ← (tree.run text).run ⟨0, .empty ⟨0, text.length - 1⟩⟩
  return ⟨tree, state.document⟩

section Runs

variable {Value Result Item Last : Type} {source : List Char} {before middle after : State}
  {input between next : Input} {value : Value} {result : Result}

/-- The step takes the machine from one state to another and has the result, without a fault. -/
def Runs (source : List Char) (step : Step Result) (before : State) (result : Result) (after : State) : Prop :=
  (step.run source).run before = .ok (result, after)

/-- The step takes the machine from one place to another and has the result. The document stays as it is. -/
def Reads (source : List Char) (step : Step Result) (input : Input) (result : Result) (next : Input) : Prop :=
  ∀ document, Runs source step ⟨input.offset, document⟩ result ⟨next.offset, document⟩

theorem Runs.pure (result : Result) (state : State) : Runs source (pure result) state result state := rfl

theorem Runs.bind {first : Step Value} {second : Value → Step Result} (hFirst : Runs source first before value middle)
    (hSecond : Runs source (second value) middle result after) :
    Runs source (first >>= second) before result after := by
  unfold Runs at *
  rw [ReaderT.run_bind, StateT.run_bind, hFirst]
  exact hSecond

theorem Reads.pure (result : Result) (input : Input) : Reads source (pure result) input result input :=
  fun _ => Runs.pure _ _

theorem Reads.bind {first : Step Value} {second : Value → Step Result} (hFirst : Reads source first input value between)
    (hSecond : Reads source (second value) between result next) : Reads source (first >>= second) input result next :=
  fun document => (hFirst document).bind (hSecond document)

theorem position_runs (state : State) : Runs source position state state.position state := rfl

theorem read_runs (state : State) : Runs source read state source state := rfl

/-- The last round ends the loop. -/
theorem Runs.lastRound {round : Step (Round Item Last)} {last : Last} (budget : Nat)
    (hRound : Runs source round before (.last last) after) :
    Runs source (rounds round (budget + 1)) before ([], last) after :=
  (position_runs before).bind (hRound.bind (Runs.pure _ _))

/-- Any other round has to move forward. -/
theorem Runs.nextRound {round : Step (Round Item Last)} {item : Option Item} {items : List Item} {last : Last}
    {budget : Nat}
    (hRound : Runs source round before (.next item) middle) (hForward : before.position < middle.position)
    (hOthers : Runs source (rounds round budget) middle (items, last) after) :
    Runs source (rounds round (budget + 1)) before (item.toList ++ items, last) after := by
  refine (position_runs before).bind (hRound.bind ((position_runs middle).bind ?_))
  rw [if_neg (Nat.not_le_of_lt hForward)]
  exact hOthers.bind (Runs.pure _ _)

theorem Reads.lastRound {round : Step (Round Item Last)} {last : Last} (budget : Nat)
    (hRound : Reads source round input (.last last) next) :
    Reads source (rounds round (budget + 1)) input ([], last) next :=
  fun document => (hRound document).lastRound budget

theorem Reads.nextRound {round : Step (Round Item Last)} {item : Option Item} {items : List Item} {last : Last}
    {budget : Nat}
    (hRound : Reads source round input (.next item) between) (hForward : input.offset < between.offset)
    (hOthers : Reads source (rounds round budget) between (items, last) next) :
    Reads source (rounds round (budget + 1)) input (item.toList ++ items, last) next :=
  fun document => (hRound document).nextRound hForward (hOthers document)

/-- A loop that needs no more rounds than there are characters left. -/
theorem Runs.loop {round : Step (Round Item Last)} {found : List Item × Last}
    (hRounds : Runs source (rounds round (source.length + 1)) before found after) :
    Runs source (loop round) before found after :=
  (read_runs before).bind hRounds

theorem Reads.loop {round : Step (Round Item Last)} {found : List Item × Last}
    (hRounds : Reads source (rounds round (source.length + 1)) input found next) :
    Reads source (loop round) input found next :=
  fun document => (hRounds document).loop

end Runs

end ContentAssist.Machine
