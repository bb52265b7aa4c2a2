import ContentAssist.Markup.Reader
import ContentAssist.Proofs.Markup.Tokens

/-! What the pieces of the reader do to the place in the text. Every piece moves forward, never past the end,
and the tokens that it returns are laid out between the place where it began and the place where it stopped. -/
namespace ContentAssist.Markup

namespace Lexeme

theorem length_le_of_startsWith {word : String} {text : List Char} (h : startsWith word text = true) :
    word.length ≤ text.length := by
  rw [← String.length_toList]
  exact (List.isPrefixOf_iff_prefix.mp h).length_le

theorem blankLength_le (text : List Char) : blankLength text ≤ text.length :=
  (List.takeWhile_prefix _).length_le

theorem nameLength?_bounds {text : List Char} {length : Nat} (h : nameLength? text = some length) :
    0 < length ∧ length ≤ text.length := by
  cases text with
  | nil => cases h
  | cons c rest =>
      simp only [nameLength?] at h
      split at h
      · rename_i hStart
        cases h
        refine ⟨?_, (List.takeWhile_prefix _).length_le⟩
        rw [List.takeWhile_cons, if_pos (isNameChar_of_isNameStart hStart)]
        exact Nat.succ_pos _
      · cases h

theorem closingQuote?_bounds {quote : Char} {text : List Char} {length : Nat}
    (h : closingQuote? quote text = some length) : 0 < length ∧ length ≤ text.length := by
  induction text generalizing length with
  | nil => cases h
  | cons c rest ih =>
      simp only [closingQuote?] at h
      split_ifs at h
      · cases h
        exact ⟨Nat.one_pos, Nat.succ_pos _⟩
      · obtain ⟨inner, hInner, rfl⟩ := Option.map_eq_some_iff.mp h
        exact ⟨Nat.succ_pos _, Nat.succ_le_succ (ih hInner).2⟩

theorem quotedLength?_bounds {text : List Char} {length : Nat} (h : quotedLength? text = some length) :
    2 ≤ length ∧ length ≤ text.length := by
  cases text with
  | nil => cases h
  | cons c rest =>
      simp only [quotedLength?] at h
      split at h
      · obtain ⟨inner, hInner, rfl⟩ := Option.map_eq_some_iff.mp h
        have hBounds := closingQuote?_bounds hInner
        exact ⟨Nat.succ_le_succ hBounds.1, Nat.succ_le_succ hBounds.2⟩
      · cases h

theorem referenceBody?_le {text : List Char} {length : Nat} (h : referenceBody? text = some length) :
    length ≤ text.length := by
  simp only [referenceBody?] at h
  split at h
  · rename_i hBody
    cases h
    rw [Bool.and_eq_true, decide_eq_true_iff, decide_eq_true_iff] at hBody
    have hDrop := List.length_pos_of_mem (List.mem_of_head? hBody.2)
    rw [List.length_drop] at hDrop
    omega
  · cases h

theorem referenceLength?_bounds {text : List Char} {isCharacter : Bool} {length : Nat}
    (h : referenceLength? text = some (isCharacter, length)) : 0 < length ∧ length ≤ text.length := by
  unfold referenceLength? at h
  split at h
  · obtain ⟨inner, hInner, hEq⟩ := Option.map_eq_some_iff.mp h
    cases hEq
    exact ⟨Nat.succ_pos _, Nat.add_le_add_right (referenceBody?_le hInner) 2⟩
  · obtain ⟨inner, hInner, hEq⟩ := Option.map_eq_some_iff.mp h
    cases hEq
    exact ⟨Nat.succ_pos _, Nat.succ_le_succ (referenceBody?_le hInner)⟩
  · cases h

theorem throughTerminator_le (terminator : String) (text : List Char) :
    throughTerminator terminator text ≤ text.length := by
  induction text with
  | nil => exact le_rfl
  | cons c rest ih =>
      simp only [throughTerminator]
      split
      · rename_i hHere
        exact length_le_of_startsWith hHere
      · exact Nat.succ_le_succ ih

theorem delimitedLength_bounds (terminator : String) {text : List Char} (h : 2 ≤ text.length) :
    0 < delimitedLength terminator text ∧ delimitedLength terminator text ≤ text.length := by
  have hLe := throughTerminator_le terminator (text.drop 2)
  rw [List.length_drop] at hLe
  unfold delimitedLength
  omega

theorem plainLength_le (text : List Char) : plainLength text ≤ text.length := by
  induction text with
  | nil => exact le_rfl
  | cons c rest ih =>
      simp only [plainLength]
      split
      · exact Nat.zero_le _
      · exact Nat.succ_le_succ ih

theorem textLength_bounds {text : List Char} (h : text ≠ []) :
    0 < textLength text ∧ textLength text ≤ text.length := by
  have hLe := plainLength_le (text.drop 1)
  have hPos := List.length_pos_iff.mpr h
  rw [List.length_drop] at hLe
  unfold textLength
  omega

end Lexeme

/-- What is left is the text from the offset on. -/
structure Input.Within (input : Input) (source : List Char) : Prop where
  rest : input.rest = source.drop input.offset
  offset : input.offset ≤ source.length

/-- The reader gets from one place to another, and the tokens are laid out in between. -/
structure Passes (source : List Char) (input : Input) (tokens : List Token) (next : Input) : Prop where
  within : next.Within source
  laid : Laid source input.offset tokens next.offset

variable {source : List Char} {input middle next : Input} {first second : List Token}

theorem Input.Within.length (h : input.Within source) : input.offset + input.rest.length = source.length := by
  have hOffset := h.offset
  rw [h.rest, List.length_drop]
  omega

namespace Passes

theorem refl (h : input.Within source) : Passes source input [] input :=
  ⟨h, le_rfl⟩

theorem trans (hFirst : Passes source input first middle) (hSecond : Passes source middle second next) :
    Passes source input (first ++ second) next :=
  ⟨hSecond.within, hFirst.laid.append hSecond.laid⟩

/-- Going on without a token. -/
theorem andSkip (hFirst : Passes source input first middle) (hSecond : Passes source middle [] next) :
    Passes source input first next := by
  simpa using hFirst.trans hSecond

/-- Taking tokens shortens what is left. -/
theorem rest_lt (h : Passes source input first next) (hInput : input.Within source) (hTokens : first ≠ []) :
    next.rest.length < input.rest.length := by
  obtain ⟨token, hToken⟩ := List.exists_mem_of_ne_nil first hTokens
  obtain ⟨hOccurs, hFrom, hTo⟩ := h.laid.of_mem hToken
  have hBefore := hInput.length
  have hAfter := h.within.length
  have hEnd := hOccurs.endOffset
  have hNonempty := hOccurs.nonempty
  omega

end Passes

namespace Input

theorem skip_passes (h : input.Within source) (count : Nat) (hCount : count ≤ input.rest.length) :
    Passes source input [] (input.skip count) := by
  have hLength := h.length
  refine ⟨⟨?_, ?_⟩, Nat.le_add_right _ _⟩
  · simp only [skip, h.rest, List.drop_drop]
  · simp only [skip]
    omega

theorem skipBlanks_passes (h : input.Within source) : Passes source input [] input.skipBlanks :=
  skip_passes h _ (Lexeme.blankLength_le _)

/-- A token of at least one character that is there. -/
theorem token_passes (h : input.Within source) (kind : TokenKind) (count : Nat) (hPos : 0 < count)
    (hCount : count ≤ input.rest.length) :
    Passes source input [(input.token kind count).1] (input.token kind count).2 := by
  have hSkip := skip_passes h count hCount
  have hImage : (String.ofList (input.rest.take count)).length = count := by
    rw [String.length_ofList, List.length_take, Nat.min_eq_left hCount]
  refine ⟨hSkip.within, le_rfl, ⟨rfl, ?_, ?_, ?_⟩, ?_⟩
  · exact hImage.symm ▸ hPos
  · simp only [token, Token.ofImage, hImage]
    omega
  · simp only [token, Token.ofImage, hImage, String.toList_ofList]
    rw [h.rest]
  · simp only [token, Token.ofImage, hImage, Laid, skip]
    omega

/-- A token starts where it is taken, and the reader goes on directly behind it. -/
theorem token_bounds (kind : TokenKind) {count : Nat} (hPos : 0 < count) (hCount : count ≤ input.rest.length) :
    (input.token kind count).1.span.startOffset = input.offset ∧
      (input.token kind count).1.span.endOffset + 1 = (input.token kind count).2.offset := by
  refine ⟨rfl, ?_⟩
  simp only [token, Token.ofImage, skip, String.length_ofList, List.length_take, Nat.min_eq_left hCount]
  omega

theorem word?_bounds {kind : TokenKind} {word : String} {token : Token} (hWord : 0 < word.length)
    (hRead : input.word? kind word = (some token, next)) :
    token.span.startOffset = input.offset ∧ token.span.endOffset + 1 = next.offset := by
  unfold word? at hRead
  split at hRead
  · rename_i hStarts
    cases hRead
    exact token_bounds kind hWord (Lexeme.length_le_of_startsWith hStarts)
  · cases hRead

theorem word?_passes {kind : TokenKind} {word : String} {slot : Option Token} (h : input.Within source)
    (hWord : 0 < word.length) (hRead : input.word? kind word = (slot, next)) :
    Passes source input slot.toList next := by
  unfold word? at hRead
  split at hRead
  · rename_i hStarts
    cases hRead
    exact token_passes h kind _ hWord (Lexeme.length_le_of_startsWith hStarts)
  · cases hRead
    exact Passes.refl h

theorem name?_passes {slot : Option Token} (h : input.Within source) (hRead : input.name? = (slot, next)) :
    Passes source input slot.toList next := by
  unfold name? at hRead
  split at hRead
  · rename_i hName
    cases hRead
    exact token_passes h .name _ (Lexeme.nameLength?_bounds hName).1 (Lexeme.nameLength?_bounds hName).2
  · cases hRead
    exact Passes.refl h

/-- Where a name starts, a name is read. -/
theorem name?_isSome {c : Char} {rest : List Char} {slot : Option Token} (hRest : input.rest = c :: rest)
    (hStart : Lexeme.isNameStart c = true) (hRead : input.name? = (slot, next)) :
    ∃ token, slot = some token ∧ token.span.startOffset = input.offset := by
  simp only [name?, hRest, Lexeme.nameLength?, hStart, if_true, Prod.mk.injEq] at hRead
  exact ⟨_, hRead.1.symm, rfl⟩

end Input

namespace Reader

theorem value?_passes {slot : Option Token} (h : input.Within source) (hRead : value? input = (slot, next)) :
    Passes source input slot.toList next := by
  unfold value? at hRead
  split at hRead
  · rename_i hQuoted
    cases hRead
    have hBounds := Lexeme.quotedLength?_bounds hQuoted
    exact Input.token_passes h .string _ (by omega) hBounds.2
  · split at hRead
    · rename_i hStray
      cases hRead
      refine Input.skip_passes h 1 ?_
      rcases Bool.or_eq_true_iff.mp hStray with hQuote | hQuote
      all_goals exact Lexeme.length_le_of_startsWith hQuote
    · cases hRead
      exact Passes.refl h

theorem value?_length {slot : Option Token} {token : Token} (hRead : value? input = (slot, next))
    (hToken : slot = some token) : 2 ≤ token.image.length := by
  unfold value? at hRead
  split at hRead
  · rename_i hQuoted
    have hBounds := Lexeme.quotedLength?_bounds hQuoted
    cases hRead
    cases hToken
    simp only [Token.ofImage, String.length_ofList, List.length_take]
    omega
  · split at hRead <;> cases hRead <;> cases hToken

/-- Covering one more token that stands behind the others. -/
theorem cover_covers {span : Span} {tokens : List Token} {token : Token} {start stop : Nat}
    (h : Covers span tokens) (hLaid : Laid source start (tokens ++ [token]) stop) :
    Covers (span.cover token.span) (tokens ++ [token]) := by
  obtain ⟨first, hFirst, hStart⟩ := h.first
  obtain ⟨last, hLast, hEnd⟩ := h.exists_end
  have hAfterFirst := hLaid.endOffset_lt_startOffset (List.mem_of_head? hFirst) (List.mem_singleton.mpr rfl)
  have hAfterLast := hLaid.endOffset_lt_startOffset hLast (List.mem_singleton.mpr rfl)
  have hFirstLe := (hLaid.of_mem (List.mem_append_left _ (List.mem_of_head? hFirst))).1.startOffset_le
  have hTokenLe := (hLaid.of_mem (List.mem_append_right _ (List.mem_singleton.mpr rfl))).1.startOffset_le
  refine ⟨⟨first, ?_, ?_⟩, ⟨token, List.getLast?_concat, ?_⟩⟩
  · rw [List.head?_append, hFirst, Option.some_or]
  · simp only [Span.cover]
    omega
  · simp only [Span.cover]
    omega

theorem coverTokens_some (span : Span) (token : Token) (slots : List (Option Token)) :
    coverTokens span (some token :: slots) = coverTokens (span.cover token.span) slots := rfl

theorem coverTokens_covers {span : Span} {tokens : List Token} {slots : List (Option Token)} {start stop : Nat}
    (h : Covers span tokens) (hLaid : Laid source start (tokens ++ slots.flatMap Option.toList) stop) :
    Covers (coverTokens span slots) (tokens ++ slots.flatMap Option.toList) := by
  induction slots generalizing span tokens with
  | nil => simpa [coverTokens] using h
  | cons slot slots ih =>
      cases slot with
      | none => exact ih h hLaid
      | some token =>
          have hSplit : tokens ++ (some token :: slots).flatMap Option.toList =
              tokens ++ [token] ++ slots.flatMap Option.toList := by
            simp
          rw [hSplit] at hLaid ⊢
          obtain ⟨_, hBefore, _⟩ := hLaid.split
          exact ih (cover_covers h hBefore) hLaid

/-- How an attribute is read: a name, the sign behind it, and behind the sign a value. -/
theorem singleAttribute_steps {attr : Attribute} (hRead : singleAttribute input = (attr, next)) :
    ∃ afterName afterEquals, input.name? = (attr.name, afterName) ∧
      afterName.skipBlanks.word? .equals "=" = (attr.equals, afterEquals) ∧
      (attr.equals.isSome = true ∧ value? afterEquals.skipBlanks = (attr.string, next) ∨
        attr.equals = none ∧ attr.string = none ∧ next = afterEquals) ∧
      attr.span = coverTokens ⟨input.offset, input.offset⟩ [attr.name, attr.equals, attr.string] := by
  unfold singleAttribute at hRead
  rcases hName : input.name? with ⟨name, afterName⟩
  rcases hEquals : afterName.skipBlanks.word? .equals "=" with ⟨equals, afterEquals⟩
  simp only [hName, hEquals] at hRead
  cases equals with
  | none =>
      cases hRead
      exact ⟨afterName, _, rfl, hEquals, Or.inr ⟨rfl, rfl, rfl⟩, rfl⟩
  | some sign =>
      cases hRead
      exact ⟨afterName, afterEquals, rfl, hEquals, Or.inl ⟨rfl, rfl⟩, rfl⟩

theorem singleAttribute_passes {attr : Attribute} (h : input.Within source)
    (hRead : singleAttribute input = (attr, next)) : Passes source input attr.tokens next := by
  obtain ⟨afterName, afterEquals, hName, hEquals, hValue, _⟩ := singleAttribute_steps hRead
  have hNamed := Input.name?_passes h hName
  have hBlanks := hNamed.andSkip (Input.skipBlanks_passes hNamed.within)
  have hSigned := hBlanks.trans (Input.word?_passes hBlanks.within (by decide) hEquals)
  rcases hValue with ⟨_, hString⟩ | ⟨_, hString, rfl⟩
  · have hSkip := hSigned.andSkip (Input.skipBlanks_passes hSigned.within)
    exact hSkip.trans (value?_passes hSkip.within hString)
  · simpa [Attribute.tokens, hString] using hSigned

theorem singleAttribute_laidOut {c : Char} {rest : List Char} {attr : Attribute} (h : input.Within source)
    (hRest : input.rest = c :: rest) (hStart : Lexeme.isNameStart c = true)
    (hRead : singleAttribute input = (attr, next)) : attr.LaidOut := by
  have hLaid := (singleAttribute_passes h hRead).laid
  obtain ⟨_, _, hName, _, hValue, hSpan⟩ := singleAttribute_steps hRead
  obtain ⟨name, hIs, hOffset⟩ := Input.name?_isSome hRest hStart hName
  have hTokens : attr.tokens = [name] ++ [attr.equals, attr.string].flatMap Option.toList := by
    simp [Attribute.tokens, hIs]
  refine ⟨⟨name, hIs⟩, ?_, ?_⟩
  · intro token hToken
    rcases hValue with ⟨_, hString⟩ | ⟨_, hNone, _⟩
    · exact value?_length hString hToken
    · rw [hNone] at hToken
      cases hToken
  · rw [hTokens] at hLaid ⊢
    have hLe := (hLaid.of_mem (List.mem_append_left _ (List.mem_singleton.mpr rfl))).1.startOffset_le
    have hCover : Span.cover ⟨input.offset, input.offset⟩ name.span = name.span := by
      rw [← hOffset, Span.cover, Nat.min_self, Nat.max_eq_right hLe]
    have hFromName : attr.span = coverTokens name.span [attr.equals, attr.string] := by
      rw [hSpan, hIs, coverTokens_some, hCover]
    rw [hFromName]
    exact coverTokens_covers (Covers.singleton name) hLaid

theorem attributes_passes (atEnd : List Char → Bool) (budget : Nat) (h : input.Within source) :
    Passes source input ((attributes atEnd budget input).1.flatMap Attribute.tokens)
      (attributes atEnd budget input).2 := by
  induction budget generalizing input with
  | zero => exact Passes.refl h
  | succ budget ih =>
      have hBlanks := Input.skipBlanks_passes h
      simp only [attributes]
      split
      · exact hBlanks
      · rename_i c rest hRest
        split
        · exact hBlanks
        · split
          · rcases hSingle : singleAttribute input.skipBlanks with ⟨first, next⟩
            have hFirst := singleAttribute_passes hBlanks.within hSingle
            have hOthers := ih hFirst.within
            rw [List.flatMap_cons]
            simpa using hBlanks.trans (hFirst.trans hOthers)
          · have hSkip := Input.skip_passes hBlanks.within 1 (by simp [hRest])
            simpa using (hBlanks.andSkip hSkip).trans (ih hSkip.within)

/-- Every attribute of a tag was read where a name starts. -/
theorem attributes_forall {P : Attribute → Prop} (atEnd : List Char → Bool) (budget : Nat)
    (h : input.Within source)
    (hSingle : ∀ (input next : Input) (c : Char) (rest : List Char) (attr : Attribute), input.Within source →
      input.rest = c :: rest → Lexeme.isNameStart c = true → singleAttribute input = (attr, next) → P attr) :
    ∀ attr ∈ (attributes atEnd budget input).1, P attr := by
  induction budget generalizing input with
  | zero => simp [attributes]
  | succ budget ih =>
      have hBlanks := Input.skipBlanks_passes h
      simp only [attributes]
      split
      · simp
      · rename_i c rest hRest
        split
        · simp
        · split
          · rename_i hStart
            rcases hFirst : singleAttribute input.skipBlanks with ⟨first, next⟩
            intro attr hAttr
            rcases List.mem_cons.mp hAttr with rfl | hLater
            · exact hSingle _ _ c rest attr hBlanks.within hRest hStart hFirst
            · exact ih (singleAttribute_passes hBlanks.within hFirst).within attr hLater
          · exact ih (Input.skip_passes hBlanks.within 1 (by simp [hRest])).within

theorem attributes_laidOut (atEnd : List Char → Bool) (budget : Nat) (h : input.Within source) :
    ∀ attr ∈ (attributes atEnd budget input).1, attr.LaidOut :=
  attributes_forall atEnd budget h fun _ _ _ _ _ hWithin hRest hStart hRead =>
    singleAttribute_laidOut hWithin hRest hStart hRead

/-- The tokens of an opening tag. It never has both `>` and `/>`. -/
def StartTag.tokens (start : StartTag) : List Token :=
  start.openAngle :: (start.name.toList ++ start.attributes.flatMap Attribute.tokens ++ start.startClose.toList
    ++ start.slashClose.toList)

def EndTag.tokens (finish : EndTag) : List Token :=
  finish.slashOpen.toList ++ finish.name.toList ++ finish.close.toList

/-- How an opening tag is read. -/
theorem startTag_steps {start : StartTag} (hRead : startTag input = (start, next)) :
    ∃ afterName atEnd afterSlash slashClose startClose,
      start.openAngle = (input.token .openAngle 1).1 ∧
      (input.token .openAngle 1).2.name? = (start.name, afterName) ∧
      attributes atTagEnd (afterName.rest.length + 1) afterName = (start.attributes, atEnd) ∧
      atEnd.word? .slashClose "/>" = (slashClose, afterSlash) ∧
      start.slashClose = slashClose ∧
      (slashClose.isSome = true ∧ start.startClose = none ∧ next = afterSlash ∨
        slashClose = none ∧ start.startClose = startClose ∧
          afterSlash.word? .startClose ">" = (startClose, next)) := by
  unfold startTag at hRead
  rcases hOpen : input.token .openAngle 1 with ⟨openAngle, afterOpen⟩
  rcases hName : afterOpen.name? with ⟨name, afterName⟩
  rcases hAttributes : attributes atTagEnd (afterName.rest.length + 1) afterName with ⟨attrs, atEnd⟩
  rcases hSlash : atEnd.word? .slashClose "/>" with ⟨slashClose, afterSlash⟩
  rcases hStart : afterSlash.word? .startClose ">" with ⟨startClose, afterStart⟩
  simp only [hOpen, hName, hAttributes, hSlash, hStart] at hRead
  cases slashClose with
  | none =>
      cases hRead
      exact ⟨afterName, atEnd, _, _, _, rfl, rfl, hAttributes, hSlash, rfl, Or.inr ⟨rfl, rfl, hStart⟩⟩
  | some slash =>
      cases hRead
      exact ⟨afterName, atEnd, _, _, startClose, rfl, rfl, hAttributes, hSlash, rfl, Or.inl ⟨rfl, rfl, rfl⟩⟩

theorem startTag_passes {start : StartTag} (h : input.Within source) (hRest : input.rest ≠ [])
    (hRead : startTag input = (start, next)) : Passes source input start.tokens next := by
  obtain ⟨afterName, atEnd, afterSlash, slashClose, startClose, hOpen, hName, hAttributes, hSlash, hSlot, hEnd⟩ :=
    startTag_steps hRead
  have hOpened := Input.token_passes h .openAngle 1 Nat.one_pos (List.length_pos_iff.mpr hRest)
  have hNamed := hOpened.trans (Input.name?_passes hOpened.within hName)
  have hListed := attributes_passes atTagEnd (afterName.rest.length + 1) hNamed.within
  rw [hAttributes] at hListed
  have hSlashed := (hNamed.trans hListed).trans (Input.word?_passes hListed.within (by decide) hSlash)
  rcases hEnd with ⟨_, hNone, rfl⟩ | ⟨hNone, hClose, hStart⟩
  · simpa [StartTag.tokens, hOpen, hSlot, hNone] using hSlashed
  · have hClosed := hSlashed.trans (Input.word?_passes hSlashed.within (by decide) hStart)
    simpa [StartTag.tokens, hOpen, hSlot, hNone, hClose] using hClosed

theorem startTag_laidOut {start : StartTag} (h : input.Within source) (hRest : input.rest ≠ [])
    (hRead : startTag input = (start, next)) : ∀ attr ∈ start.attributes, attr.LaidOut := by
  obtain ⟨afterName, atEnd, _, _, _, _, hName, hAttributes, _⟩ := startTag_steps hRead
  have hOpened := Input.token_passes h .openAngle 1 Nat.one_pos (List.length_pos_iff.mpr hRest)
  have hNamed := Input.name?_passes hOpened.within hName
  have hEach := attributes_laidOut atTagEnd (afterName.rest.length + 1) hNamed.within
  rwa [hAttributes] at hEach

/-- The `<` of an opening tag is one character. -/
theorem startTag_openAngle {start : StartTag} (hRest : input.rest ≠ []) (hRead : startTag input = (start, next)) :
    start.openAngle.span.endOffset = start.openAngle.span.startOffset := by
  obtain ⟨_, _, _, _, _, hOpen, _⟩ := startTag_steps hRead
  have hPos := List.length_pos_iff.mpr hRest
  rw [hOpen]
  simp only [Input.token, Token.ofImage, String.length_ofList, List.length_take]
  omega

theorem startTag_slashClose {start : StartTag} (hRead : startTag input = (start, next))
    (hClose : start.startClose.isSome = true) : start.slashClose = none := by
  obtain ⟨_, _, _, _, _, _, _, _, _, hSlot, hEnd⟩ := startTag_steps hRead
  rcases hEnd with ⟨_, hNone, _⟩ | ⟨hNone, _, _⟩
  · simp [hNone] at hClose
  · rw [hSlot, hNone]

/-- How a closing tag is read. -/
theorem endTag_steps {finish : EndTag} (hRead : endTag input = (finish, next)) :
    (input.word? .slashOpen "</" = (none, input) ∧ finish = ⟨none, none, none⟩ ∧ next = input) ∨
    ∃ slashOpen afterOpen afterName, input.word? .slashOpen "</" = (some slashOpen, afterOpen) ∧
      finish.slashOpen = some slashOpen ∧ afterOpen.skipBlanks.name? = (finish.name, afterName) ∧
      afterName.skipBlanks.word? .close ">" = (finish.close, next) := by
  unfold endTag at hRead
  rcases hOpen : input.word? .slashOpen "</" with ⟨slashOpen, afterOpen⟩
  cases slashOpen with
  | none =>
      have hStay : afterOpen = input := by
        unfold Input.word? at hOpen
        split at hOpen <;> cases hOpen
        rfl
      simp only [hOpen] at hRead
      cases hRead
      exact Or.inl ⟨by rw [hStay], rfl, rfl⟩
  | some slashOpen =>
      rcases hName : afterOpen.skipBlanks.name? with ⟨name, afterName⟩
      rcases hClose : afterName.skipBlanks.word? .close ">" with ⟨close, last⟩
      simp only [hOpen, hName, hClose] at hRead
      cases hRead
      exact Or.inr ⟨slashOpen, afterOpen, afterName, rfl, rfl, hName, hClose⟩

theorem endTag_passes {finish : EndTag} (h : input.Within source) (hRead : endTag input = (finish, next)) :
    Passes source input finish.tokens next := by
  rcases endTag_steps hRead with ⟨_, rfl, rfl⟩ | ⟨slashOpen, afterOpen, afterName, hOpen, hIs, hName, hClose⟩
  · exact Passes.refl h
  · have hOpened := Input.word?_passes h (by decide) hOpen
    have hAtName := hOpened.andSkip (Input.skipBlanks_passes hOpened.within)
    have hNamed := hAtName.trans (Input.name?_passes hAtName.within hName)
    have hAtClose := hNamed.andSkip (Input.skipBlanks_passes hNamed.within)
    have hClosed := hAtClose.trans (Input.word?_passes hAtClose.within (by decide) hClose)
    simpa [EndTag.tokens, hIs] using hClosed

theorem delimited_passes (kind : TokenKind) (terminator : String) (h : input.Within source)
    (hRest : 2 ≤ input.rest.length) :
    Passes source input [(delimited kind terminator input).1] (delimited kind terminator input).2 :=
  Input.token_passes h kind _ (Lexeme.delimitedLength_bounds terminator hRest).1
    (Lexeme.delimitedLength_bounds terminator hRest).2

/-- How a part of content other than an element is read: as one token. Text goes on up to `<` or a reference, and
does not start with a reference. -/
theorem leaf_steps {part : ContentPart} (hRest : input.rest ≠ []) (hRead : leaf input = (part, next)) :
    ∃ kind count, 0 < count ∧ count ≤ input.rest.length ∧ part.tokens = [(input.token kind count).1] ∧
      part.span = (input.token kind count).1.span ∧ part.element? = none ∧ next = (input.token kind count).2 ∧
      (part.isText = true → count = Lexeme.textLength input.rest ∧ Lexeme.referenceLength? input.rest = none ∧
        input.startsWith "<!--" = false ∧ input.startsWith "<![CDATA[" = false ∧
        input.startsWith "<?" = false) := by
  have hDelimited {word : String} (terminator : String) (hWord : 2 ≤ word.length)
      (hStarts : input.startsWith word = true) :
      0 < Lexeme.delimitedLength terminator input.rest ∧
        Lexeme.delimitedLength terminator input.rest ≤ input.rest.length :=
    Lexeme.delimitedLength_bounds terminator (hWord.trans (Lexeme.length_le_of_startsWith hStarts))
  unfold leaf at hRead
  split_ifs at hRead with hComment hSection hInstruction
  · cases hRead
    have hBounds := hDelimited "-->" (by decide) hComment
    exact ⟨_, _, hBounds.1, hBounds.2, rfl, rfl, rfl, rfl, fun hText => nomatch hText⟩
  · cases hRead
    have hBounds := hDelimited "]]>" (by decide) hSection
    exact ⟨_, _, hBounds.1, hBounds.2, rfl, rfl, rfl, rfl, fun hText => nomatch hText⟩
  · cases hRead
    have hBounds := hDelimited "?>" (by decide) hInstruction
    exact ⟨_, _, hBounds.1, hBounds.2, rfl, rfl, rfl, rfl, fun hText => nomatch hText⟩
  · split at hRead
    · rename_i hReference
      cases hRead
      have hBounds := Lexeme.referenceLength?_bounds hReference
      exact ⟨_, _, hBounds.1, hBounds.2, rfl, rfl, rfl, rfl, fun hText => nomatch hText⟩
    · rename_i hReference
      cases hRead
      have hBounds := Lexeme.textLength_bounds hRest
      rw [Bool.not_eq_true] at hComment hSection hInstruction
      exact ⟨_, _, hBounds.1, hBounds.2, rfl, rfl, rfl, rfl,
        fun _ => ⟨rfl, hReference, hComment, hSection, hInstruction⟩⟩

/-- A part of content other than an element is one token. -/
theorem leaf_passes {part : ContentPart} (h : input.Within source) (hRest : input.rest ≠ [])
    (hRead : leaf input = (part, next)) :
    ∃ token, part.tokens = [token] ∧ part.span = token.span ∧ part.element? = none ∧
      Passes source input [token] next := by
  obtain ⟨kind, count, hPos, hCount, hTokens, hSpan, hNone, rfl, _⟩ := leaf_steps hRest hRead
  exact ⟨_, hTokens, hSpan, hNone, Input.token_passes h kind count hPos hCount⟩

theorem misc_passes (budget : Nat) (h : input.Within source) :
    Passes source input ((misc budget input).1.map Misc.token) (misc budget input).2 := by
  induction budget generalizing input with
  | zero => exact Passes.refl h
  | succ budget ih =>
      have hLength {word : String} (hWord : 2 ≤ word.length) (hStarts : input.startsWith word = true) :
          2 ≤ input.rest.length :=
        hWord.trans (Lexeme.length_le_of_startsWith hStarts)
      simp only [misc]
      split
      · exact Passes.refl h
      · rename_i token next hFound
        have hToken : Passes source input [token] next := by
          split_ifs at hFound with hComment hInstruction hBlank
          · cases hFound
            exact delimited_passes _ _ h (hLength (by decide) hComment)
          · cases hFound
            exact delimited_passes _ _ h (hLength (by decide) hInstruction)
          · cases hFound
            exact Input.token_passes h _ _ (Nat.pos_of_ne_zero hBlank) (Lexeme.blankLength_le _)
        exact hToken.trans (ih hToken.within)

theorem prolog_passes (h : input.Within source) (hStarts : input.startsWith "<?xml" = true) :
    Passes source input (prolog input).1.tokens (prolog input).2 := by
  have hOpened := Input.token_passes h .declarationOpen 5 (by decide) (Lexeme.length_le_of_startsWith hStarts)
  generalize hFrom : (input.token .declarationOpen 5).2 = afterOpen at hOpened
  have hListed := attributes_passes atDeclarationEnd (afterOpen.rest.length + 1) hOpened.within
  rcases hAttributes : attributes atDeclarationEnd (afterOpen.rest.length + 1) afterOpen with ⟨attrs, atEnd⟩
  rw [hAttributes] at hListed
  rcases hClose : atEnd.word? .specialClose "?>" with ⟨close, next⟩
  have hClosed := (hOpened.trans hListed).trans (Input.word?_passes hListed.within (by decide) hClose)
  have hRead : (prolog input).1.tokens = [(input.token .declarationOpen 5).1]
      ++ attrs.flatMap Attribute.tokens ++ close.toList ∧ (prolog input).2 = next := by
    simp [prolog, hFrom, hAttributes, hClose, Prolog.tokens]
  rw [hRead.1, hRead.2]
  exact hClosed

end Reader

end ContentAssist.Markup
