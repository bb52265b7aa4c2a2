import ContentAssist.Proofs.Markup.Outline
import Mathlib.Order.Nat
import Mathlib.Data.List.Basic

/-! The tokens of a tree in the order of the text. Tokens are *laid out* in a text if each of them is a stretch
of it and no two share a character; characters between two tokens are allowed. Where the tokens of a whole tree
are laid out, the places of its elements, attributes and parts can be compared by comparing their tokens. -/
namespace ContentAssist.Markup

/-- The token stands in the text, at the place that it names. -/
structure Token.OccursIn (token : Token) (source : List Char) : Prop where
  notSupplied : token.recovered = false
  nonempty : 0 < token.image.length
  endOffset : token.span.endOffset + 1 = token.span.startOffset + token.image.length
  image : token.image.toList = (source.drop token.span.startOffset).take token.image.length

theorem Token.OccursIn.endOffset_lt {token : Token} {source : List Char} (h : token.OccursIn source) :
    token.span.endOffset < source.length := by
  have hLength := congrArg List.length h.image
  simp only [String.length_toList, List.length_take, List.length_drop] at hLength
  have hNonempty := h.nonempty
  have hEnd := h.endOffset
  omega

theorem Token.OccursIn.startOffset_le {token : Token} {source : List Char} (h : token.OccursIn source) :
    token.span.startOffset ≤ token.span.endOffset := by
  have hNonempty := h.nonempty
  have hEnd := h.endOffset
  omega

/-- The tokens stand in the text from `start` on and before `stop`, one behind the other. -/
def Laid (source : List Char) : Nat → List Token → Nat → Prop
  | start, [], stop => start ≤ stop
  | start, token :: rest, stop =>
    start ≤ token.span.startOffset ∧ token.OccursIn source ∧ Laid source (token.span.endOffset + 1) rest stop

namespace Laid

variable {source : List Char} {start middle stop : Nat} {tokens first second : List Token}

theorem le (h : Laid source start tokens stop) : start ≤ stop := by
  induction tokens generalizing start with
  | nil => exact h
  | cons token rest ih =>
      obtain ⟨hStart, hOccurs, hRest⟩ := h
      have hEnd := hOccurs.startOffset_le
      have hLe := ih hRest
      omega

theorem weaken {start' stop' : Nat} (h : Laid source start tokens stop) (hStart : start' ≤ start)
    (hStop : stop ≤ stop') : Laid source start' tokens stop' := by
  induction tokens generalizing start start' with
  | nil => exact hStart.trans (h.trans hStop)
  | cons token rest ih =>
      obtain ⟨hFirst, hOccurs, hRest⟩ := h
      exact ⟨hStart.trans hFirst, hOccurs, ih hRest le_rfl⟩

theorem append (hFirst : Laid source start first middle) (hSecond : Laid source middle second stop) :
    Laid source start (first ++ second) stop := by
  induction first generalizing start with
  | nil => exact hSecond.weaken hFirst le_rfl
  | cons token rest ih =>
      obtain ⟨hStart, hOccurs, hRest⟩ := hFirst
      exact ⟨hStart, hOccurs, ih hRest⟩

/-- Tokens laid out together can be divided anywhere. -/
theorem split (h : Laid source start (first ++ second) stop) :
    ∃ middle, Laid source start first middle ∧ Laid source middle second stop := by
  induction first generalizing start with
  | nil => exact ⟨start, le_rfl, h⟩
  | cons token rest ih =>
      obtain ⟨hStart, hOccurs, hRest⟩ := h
      obtain ⟨middle, hBefore, hAfter⟩ := ih hRest
      exact ⟨middle, ⟨hStart, hOccurs, hBefore⟩, hAfter⟩

theorem of_mem {token : Token} (h : Laid source start tokens stop) (hToken : token ∈ tokens) :
    token.OccursIn source ∧ start ≤ token.span.startOffset ∧ token.span.endOffset < stop := by
  induction tokens generalizing start with
  | nil => cases hToken
  | cons first rest ih =>
      obtain ⟨hStart, hOccurs, hRest⟩ := h
      have hEnd := hOccurs.startOffset_le
      rcases List.mem_cons.mp hToken with rfl | hLater
      · exact ⟨hOccurs, hStart, hRest.le⟩
      · obtain ⟨hFound, hFrom, hTo⟩ := ih hRest hLater
        exact ⟨hFound, by omega, hTo⟩

/-- Tokens of an earlier stretch end before those of a later one start. -/
theorem endOffset_lt_startOffset {before after : Token} (h : Laid source start (first ++ second) stop)
    (hBefore : before ∈ first) (hAfter : after ∈ second) : before.span.endOffset < after.span.startOffset := by
  obtain ⟨middle, hFirst, hSecond⟩ := h.split
  exact (hFirst.of_mem hBefore).2.2.trans_le (hSecond.of_mem hAfter).2.1

end Laid

/-- The span reaches from the start of the first token to the end of the last. -/
structure Covers (span : Span) (tokens : List Token) : Prop where
  first : ∃ token, tokens.head? = some token ∧ token.span.startOffset = span.startOffset
  last : ∃ token, tokens.getLast? = some token ∧ token.span.endOffset = span.endOffset

namespace Covers

variable {source : List Char} {start stop : Nat} {span : Span} {tokens : List Token}

theorem exists_start (h : Covers span tokens) :
    ∃ token ∈ tokens, token.span.startOffset = span.startOffset := by
  obtain ⟨token, hToken, hStart⟩ := h.first
  exact ⟨token, List.mem_of_head? hToken, hStart⟩

theorem exists_end (h : Covers span tokens) : ∃ token ∈ tokens, token.span.endOffset = span.endOffset := by
  obtain ⟨token, hToken, hEnd⟩ := h.last
  exact ⟨token, List.mem_of_getLast? hToken, hEnd⟩

/-- A span over tokens that are laid out includes each of them. -/
theorem of_mem {token : Token} (h : Covers span tokens) (hLaid : Laid source start tokens stop)
    (hToken : token ∈ tokens) :
    span.startOffset ≤ token.span.startOffset ∧ token.span.endOffset ≤ span.endOffset := by
  constructor
  · obtain ⟨first, hFirst, hStart⟩ := h.first
    cases tokens with
    | nil => cases hToken
    | cons head rest =>
        cases hFirst
        rcases List.mem_cons.mp hToken with rfl | hLater
        · exact hStart.ge
        · have hLater := (hLaid.2.2.of_mem hLater).2.1
          have hEnd := hLaid.2.1.startOffset_le
          omega
  · obtain ⟨last, hLast, hEnd⟩ := h.last
    obtain ⟨before, rfl⟩ := List.getLast?_eq_some_iff.mp hLast
    rcases List.mem_append.mp hToken with hEarlier | hHere
    · have hOrder := hLaid.endOffset_lt_startOffset hEarlier (List.mem_singleton.mpr rfl)
      have hLastEnd := (hLaid.of_mem (List.mem_of_getLast? hLast)).1.startOffset_le
      omega
    · rw [List.mem_singleton.mp hHere]
      exact hEnd.le

theorem singleton (token : Token) : Covers token.span [token] :=
  ⟨⟨token, rfl, rfl⟩, ⟨token, rfl, rfl⟩⟩

theorem ne_nil (h : Covers span tokens) : tokens ≠ [] := by
  obtain ⟨token, hToken, _⟩ := h.exists_start
  exact List.ne_nil_of_mem hToken

end Covers

def Attribute.tokens (attr : Attribute) : List Token :=
  attr.name.toList ++ attr.equals.toList ++ attr.string.toList

theorem Attribute.mem_tokens_of_name {attr : Attribute} {key : Token} (hKey : attr.name = some key) :
    key ∈ attr.tokens := by
  simp [tokens, hKey]

theorem Attribute.mem_tokens_of_string {attr : Attribute} {value : Token} (hString : attr.string = some value) :
    value ∈ attr.tokens := by
  simp [tokens, hString]

/-- An attribute as it is read: it has a name, its value has at least the two quotes, and it spans its tokens. -/
structure Attribute.LaidOut (attr : Attribute) : Prop where
  name : ∃ token, attr.name = some token
  string : ∀ token, attr.string = some token → 2 ≤ token.image.length
  span : Covers attr.span attr.tokens

def Prolog.tokens (prolog : Prolog) : List Token :=
  prolog.declarationOpen.toList ++ prolog.attributes.flatMap Attribute.tokens ++ prolog.specialClose.toList

mutual

/-- All tokens of an element, those of its content included. -/
def Element.tokens : Element → List Token
  | ⟨openAngle, name, attributes, startClose, content, slashOpen, endName, close, slashClose, _⟩ =>
    openAngle.toList ++ name.toList ++ attributes.flatMap Attribute.tokens ++ startClose.toList
      ++ (match content with
        | some content => Content.tokens content
        | none => [])
      ++ (slashOpen.toList ++ endName.toList ++ close.toList ++ slashClose.toList)

def Content.tokens : Content → List Token
  | ⟨parts, _⟩ => tokensOfParts parts

def tokensOfParts : List ContentPart → List Token
  | [] => []
  | part :: rest => ContentPart.tokens part ++ tokensOfParts rest

def ContentPart.tokens : ContentPart → List Token
  | .element child => Element.tokens child
  | .text run => run.tokens
  | .reference part => [part.token]
  | .cdata token | .processingInstruction token | .comment token => [token]

end

theorem tokensOfParts_eq (parts : List ContentPart) : tokensOfParts parts = parts.flatMap ContentPart.tokens := by
  induction parts with
  | nil => rfl
  | cons part rest ih => rw [tokensOfParts, ih, List.flatMap_cons]

namespace Element

/-- The tokens of the opening tag, its `/>` apart. -/
def openingTokens (element : Element) : List Token :=
  element.openAngle.toList ++ element.name.toList ++ element.attributes.flatMap Attribute.tokens
    ++ element.startClose.toList

/-- The tokens of the closing tag, or the `/>` that makes it superfluous. -/
def closingTokens (element : Element) : List Token :=
  element.slashOpen.toList ++ element.endName.toList ++ element.close.toList ++ element.slashClose.toList

theorem tokens_eq (element : Element) :
    element.tokens = element.openingTokens ++ element.parts.flatMap ContentPart.tokens
      ++ element.closingTokens := by
  obtain ⟨_, _, _, _, content, _, _, _, _, _⟩ := element
  cases content with
  | none => simp [tokens, openingTokens, closingTokens, parts]
  | some content =>
      obtain ⟨parts, _⟩ := content
      simp only [tokens, Content.tokens, tokensOfParts_eq]
      rfl

theorem mem_tokens_of_opening {element : Element} {token : Token} (h : token ∈ element.openingTokens) :
    token ∈ element.tokens := by
  rw [tokens_eq]
  exact List.mem_append_left _ (List.mem_append_left _ h)

theorem mem_tokens_of_part {element : Element} {part : ContentPart} {token : Token} (hPart : part ∈ element.parts)
    (hToken : token ∈ part.tokens) : token ∈ element.tokens := by
  rw [tokens_eq]
  exact List.mem_append_left _ (List.mem_append_right _ (List.mem_flatMap.mpr ⟨part, hPart, hToken⟩))

theorem mem_tokens_of_closing {element : Element} {token : Token} (h : token ∈ element.closingTokens) :
    token ∈ element.tokens := by
  rw [tokens_eq]
  exact List.mem_append_right _ h

theorem mem_openingTokens_of_attribute {element : Element} {attr : Attribute} {index : Nat} {token : Token}
    (hAttr : element.attributes[index]? = some attr) (hToken : token ∈ attr.tokens) :
    token ∈ element.openingTokens := by
  have hFlat := List.mem_flatMap.mpr ⟨attr, List.mem_of_getElem? hAttr, hToken⟩
  simp [openingTokens, hFlat]

end Element

end ContentAssist.Markup
