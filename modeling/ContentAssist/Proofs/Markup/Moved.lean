import ContentAssist.Proofs.Markup.Nesting

/-! Reading does not depend on how many characters came before. If the text that is left is the same but stands
further to the right, the same tree is read, with all its places moved by the distance. -/
namespace ContentAssist

def Span.moved (distance : Nat) (span : Span) : Span :=
  ⟨span.startOffset + distance, span.endOffset + distance⟩

theorem Span.cover_moved (distance : Nat) (a b : Span) :
    (a.moved distance).cover (b.moved distance) = (a.cover b).moved distance := by
  simp only [cover, moved, Nat.add_min_add_right, Nat.add_max_add_right]

theorem Span.contains_moved (distance : Nat) (span : Span) (offset : Nat) :
    (span.moved distance).contains (offset + distance) = span.contains offset := by
  simp only [contains, moved, Nat.add_le_add_iff_right]

namespace Markup

def Token.moved (distance : Nat) (token : Token) : Token :=
  { token with span := token.span.moved distance }

def Attribute.moved (distance : Nat) (attr : Attribute) : Attribute :=
  ⟨attr.name.map (Token.moved distance), attr.equals.map (Token.moved distance),
    attr.string.map (Token.moved distance), attr.span.moved distance⟩

def CharacterData.moved (distance : Nat) (run : CharacterData) : CharacterData :=
  ⟨run.tokens.map (Token.moved distance), run.span.moved distance⟩

def Reference.moved (distance : Nat) (part : Reference) : Reference :=
  ⟨part.token.moved distance, part.span.moved distance⟩

mutual

/-- The element with all places inside it moved to the right. -/
def Element.moved (distance : Nat) : Element → Element
  | ⟨openAngle, name, attributes, startClose, content, slashOpen, endName, close, slashClose, span⟩ =>
    ⟨openAngle.map (Token.moved distance), name.map (Token.moved distance),
      attributes.map (Attribute.moved distance), startClose.map (Token.moved distance),
      match content with
        | some content => some (Content.moved distance content)
        | none => none,
      slashOpen.map (Token.moved distance), endName.map (Token.moved distance), close.map (Token.moved distance),
      slashClose.map (Token.moved distance), span.moved distance⟩

def Content.moved (distance : Nat) : Content → Content
  | ⟨parts, span⟩ => ⟨movedParts distance parts, span.moved distance⟩

def movedParts (distance : Nat) : List ContentPart → List ContentPart
  | [] => []
  | part :: rest => ContentPart.moved distance part :: movedParts distance rest

def ContentPart.moved (distance : Nat) : ContentPart → ContentPart
  | .element child => .element (Element.moved distance child)
  | .text run => .text (run.moved distance)
  | .reference part => .reference (part.moved distance)
  | .cdata token => .cdata (token.moved distance)
  | .processingInstruction token => .processingInstruction (token.moved distance)
  | .comment token => .comment (token.moved distance)

end

variable (distance : Nat)

theorem movedParts_eq (parts : List ContentPart) :
    movedParts distance parts = parts.map (ContentPart.moved distance) := by
  induction parts with
  | nil => rfl
  | cons part rest ih => rw [movedParts, ih, List.map_cons]

theorem ContentPart.span_moved (part : ContentPart) : (part.moved distance).span = part.span.moved distance := by
  cases part with
  | element child =>
      obtain ⟨_, _, _, _, _, _, _, _, _, _⟩ := child
      rfl
  | _ => rfl

theorem ContentPart.isText_moved (part : ContentPart) : (part.moved distance).isText = part.isText := by
  cases part <;> rfl

theorem ContentPart.element?_moved (part : ContentPart) :
    (part.moved distance).element? = part.element?.map (Element.moved distance) := by
  cases part <;> rfl

theorem Content.span_moved (content : Content) : (content.moved distance).span = content.span.moved distance := by
  obtain ⟨_, _⟩ := content
  rfl

/-- The text that is left, with more characters before it. -/
def Input.moved (input : Input) : Input :=
  ⟨input.offset + distance, input.rest⟩

namespace Input

theorem rest_moved (input : Input) : (input.moved distance).rest = input.rest := rfl

theorem startsWith_moved (word : String) (input : Input) :
    (input.moved distance).startsWith word = input.startsWith word := rfl

theorem skip_moved (count : Nat) (input : Input) :
    (input.moved distance).skip count = (input.skip count).moved distance := by
  simp only [skip, moved, Nat.add_right_comm]

theorem skipBlanks_moved (input : Input) : (input.moved distance).skipBlanks = input.skipBlanks.moved distance :=
  skip_moved ..

theorem token_moved (kind : TokenKind) (count : Nat) (input : Input) :
    (input.moved distance).token kind count =
      ((input.token kind count).1.moved distance, (input.token kind count).2.moved distance) := by
  have hImage : ∀ image : String,
      Token.ofImage kind image (input.offset + distance) = (Token.ofImage kind image input.offset).moved distance := by
    intro image
    simp only [Token.ofImage, Token.moved, Span.moved, Token.mk.injEq, Span.mk.injEq, true_and, and_true]
    omega
  simp only [token, skip_moved]
  exact congrArg (fun token => (token, (input.skip count).moved distance)) (hImage _)

theorem word?_moved (kind : TokenKind) (word : String) (input : Input) :
    (input.moved distance).word? kind word =
      ((input.word? kind word).1.map (Token.moved distance), (input.word? kind word).2.moved distance) := by
  simp only [word?, startsWith_moved, token_moved]
  split <;> rfl

theorem name?_moved (input : Input) :
    (input.moved distance).name? = (input.name?.1.map (Token.moved distance), input.name?.2.moved distance) := by
  simp only [name?, rest_moved, token_moved]
  split <;> rfl

end Input

namespace Reader

theorem value?_moved (input : Input) :
    value? (input.moved distance) =
      ((value? input).1.map (Token.moved distance), (value? input).2.moved distance) := by
  simp only [value?, Input.rest_moved, Input.startsWith_moved, Input.token_moved, Input.skip_moved]
  split
  · rfl
  · split <;> rfl

theorem coverTokens_moved (span : Span) (slots : List (Option Token)) :
    coverTokens (span.moved distance) (slots.map (Option.map (Token.moved distance))) =
      (coverTokens span slots).moved distance := by
  induction slots generalizing span with
  | nil => rfl
  | cons slot rest ih =>
      cases slot with
      | none => exact ih span
      | some token =>
          have hCover := Span.cover_moved distance span token.span
          simp only [coverTokens, List.map_cons, List.foldl_cons, Option.map_some, Token.moved] at ih ⊢
          rw [hCover]
          exact ih _

theorem singleAttribute_moved (input : Input) :
    singleAttribute (input.moved distance) =
      ((singleAttribute input).1.moved distance, (singleAttribute input).2.moved distance) := by
  have hSpan : (⟨(input.moved distance).offset, (input.moved distance).offset⟩ : Span) =
      Span.moved distance ⟨input.offset, input.offset⟩ := rfl
  simp only [singleAttribute, hSpan, Input.name?_moved, Input.skipBlanks_moved, Input.word?_moved]
  rcases input.name? with ⟨name, afterName⟩
  rcases afterName.skipBlanks.word? .equals "=" with ⟨equals, afterEquals⟩
  cases equals with
  | none =>
      have hCover := coverTokens_moved distance ⟨input.offset, input.offset⟩ [name, none, none]
      simp only [List.map_cons, List.map_nil, Option.map_none] at hCover
      simp only [Option.map_none, hCover, Attribute.moved]
  | some token =>
      rcases hValue : value? afterEquals.skipBlanks with ⟨string, next⟩
      have hCover := coverTokens_moved distance ⟨input.offset, input.offset⟩ [name, some token, string]
      simp only [List.map_cons, List.map_nil, Option.map_some] at hCover
      simp only [Option.map_some, value?_moved, hValue, hCover, Attribute.moved]

theorem attributes_moved (atEnd : List Char → Bool) (budget : Nat) (input : Input) :
    attributes atEnd budget (input.moved distance) =
      ((attributes atEnd budget input).1.map (Attribute.moved distance),
        (attributes atEnd budget input).2.moved distance) := by
  induction budget generalizing input with
  | zero => rfl
  | succ budget ih =>
      simp only [attributes, Input.skipBlanks_moved, Input.rest_moved]
      split
      · rfl
      · split
        · rfl
        · split
          · simp only [singleAttribute_moved, ih, List.map_cons]
          · rw [Input.skip_moved, ih]

def StartTag.moved (start : StartTag) : StartTag :=
  ⟨start.openAngle.moved distance, start.name.map (Token.moved distance),
    start.attributes.map (Attribute.moved distance), start.startClose.map (Token.moved distance),
    start.slashClose.map (Token.moved distance)⟩

def EndTag.moved (finish : EndTag) : EndTag :=
  ⟨finish.slashOpen.map (Token.moved distance), finish.name.map (Token.moved distance),
    finish.close.map (Token.moved distance)⟩

theorem startTag_moved (input : Input) :
    startTag (input.moved distance) = ((startTag input).1.moved distance, (startTag input).2.moved distance) := by
  simp only [startTag, Input.token_moved, Input.name?_moved, Input.rest_moved, attributes_moved, Input.word?_moved]
  rcases (attributes atTagEnd _ _).2.word? .slashClose "/>" with ⟨_ | slash, afterSlash⟩ <;> rfl

theorem endTag_moved (input : Input) :
    endTag (input.moved distance) = ((endTag input).1.moved distance, (endTag input).2.moved distance) := by
  simp only [endTag, Input.word?_moved]
  rcases input.word? .slashOpen "</" with ⟨_ | opening, afterOpen⟩
  · rfl
  · simp only [Option.map_some, Input.skipBlanks_moved, Input.name?_moved, Input.word?_moved]
    rfl

theorem leaf_moved (input : Input) :
    leaf (input.moved distance) = ((leaf input).1.moved distance, (leaf input).2.moved distance) := by
  simp only [leaf, delimited, text, Input.rest_moved, Input.startsWith_moved, Input.token_moved]
  -- The kind of part depends on the text that is left alone.
  split
  · rfl
  · split
    · rfl
    · split
      · rfl
      · split <;> rfl

theorem contentOf_moved (start : Nat) (found : List ContentPart) :
    contentOf (start + distance) (found.map (ContentPart.moved distance)) =
      (contentOf start found).moved distance := by
  unfold contentOf
  rw [List.head?_map, List.getLast?_map]
  cases found.head? <;> cases found.getLast? <;>
    simp only [Option.map_none, Option.map_some, Content.moved, movedParts_eq, ContentPart.span_moved,
      Span.cover_moved] <;> rfl

/-- The last thing that an element has remains the last. -/
theorem lastSpan_endOffset_moved (start : StartTag) (content : Option Content) (finish : EndTag) :
    (lastSpan (start.moved distance) (content.map (Content.moved distance)) (finish.moved distance)).endOffset =
      (lastSpan start content finish).endOffset + distance := by
  have hFilled : (content.map (Content.moved distance)).filter (fun content => !content.parts.isEmpty) =
      (content.filter fun content => !content.parts.isEmpty).map (Content.moved distance) := by
    cases content with
    | none => rfl
    | some content =>
        obtain ⟨parts, span⟩ := content
        cases parts <;> rfl
  have hLast := congrArg (Option.map (· + distance)) (lastSpan_endOffset start content finish)
  apply Option.some.inj
  rw [lastSpan_endOffset, hFilled]
  refine Eq.trans ?_ hLast.symm
  simp only [Option.map_or, Option.map_map, List.getLast?_map, Option.map_some, Function.comp_def, StartTag.moved,
    EndTag.moved, Token.moved, Attribute.moved, Span.moved, Content.span_moved]

theorem assemble_moved (start : StartTag) (content : Option Content) (finish : EndTag) :
    assemble (start.moved distance) (content.map (Content.moved distance)) (finish.moved distance) =
      (assemble start content finish).moved distance := by
  rw [assemble, lastSpan_endOffset_moved]
  cases content <;> rfl

mutual

/-- What is read from a place further to the right is the same, moved as far. -/
theorem ElementRead.moved {input next : Input} {element : Element} :
    ElementRead input element next →
      ElementRead (input.moved distance) (element.moved distance) (next.moved distance)
  | .bare hStart hOpen => by
      rw [← assemble_moved]
      exact .bare (by rw [startTag_moved, hStart]) (by rw [StartTag.moved, hOpen]; rfl)
  | .enclosing hStart hOpen body hFinish => by
      rw [← assemble_moved, Option.map_some, ← contentOf_moved]
      exact .enclosing (by rw [startTag_moved, hStart]) (by simpa [StartTag.moved] using hOpen) body.moved
        (by rw [endTag_moved, hFinish])

theorem PartsRead.moved {input last : Input} {found : List ContentPart} :
    PartsRead input found last →
      PartsRead (input.moved distance) (found.map (ContentPart.moved distance)) (last.moved distance)
  | .done hEnd => .done hEnd
  | .child hEnd hAt first rest => .child hEnd hAt first.moved rest.moved
  | .leaf hEnd hAt hLeaf rest => .leaf hEnd hAt (by rw [leaf_moved, hLeaf]) rest.moved

end

end Reader

namespace Element

variable {element found : Element} {position : Nat} {path : List Nat}

theorem moved_eq (element : Element) : element.moved distance =
    ⟨element.openAngle.map (Token.moved distance), element.name.map (Token.moved distance),
      element.attributes.map (Attribute.moved distance), element.startClose.map (Token.moved distance),
      element.content.map (Content.moved distance), element.slashOpen.map (Token.moved distance),
      element.endName.map (Token.moved distance), element.close.map (Token.moved distance),
      element.slashClose.map (Token.moved distance), element.span.moved distance⟩ := by
  obtain ⟨_, _, _, _, content, _, _, _, _, _⟩ := element
  cases content <;> rfl

theorem parts_moved (element : Element) :
    (element.moved distance).parts = element.parts.map (ContentPart.moved distance) := by
  have hParts : ∀ content : Content,
      (content.moved distance).parts = content.parts.map (ContentPart.moved distance) := by
    rintro ⟨parts, span⟩
    exact movedParts_eq distance parts
  rw [parts, parts, moved_eq]
  cases element.content with
  | none => rfl
  | some content => exact hParts content

theorem children_moved (element : Element) :
    (element.moved distance).children = element.children.map (Element.moved distance) := by
  rw [children, parts_moved, List.filterMap_map, children, List.map_filterMap]
  congr 1
  funext part
  exact part.element?_moved distance

theorem runs_moved (element : Element) :
    (element.moved distance).runs = element.runs.map (CharacterData.moved distance) := by
  rw [runs, parts_moved, List.filterMap_map, runs, List.map_filterMap]
  congr 1
  funext part
  cases part <;> rfl

theorem at?_moved (path : List Nat) (element : Element) :
    (element.moved distance).at? path = (element.at? path).map (Element.moved distance) := by
  induction path generalizing element with
  | nil => rfl
  | cons index path ih =>
      rw [at?, at?, children_moved, List.getElem?_map]
      cases element.children[index]? with
      | none => rfl
      | some child => exact ih child

theorem outline_moved (path : List Nat) (element : Element) :
    (element.moved distance).outline path =
      (element.outline path).map fun entry => (entry.1, entry.2.moved distance) := by
  induction element using inductionOnChildren generalizing path with
  | step element ih =>
      have hSiblings : ∀ siblings : List Element, (∀ child ∈ siblings, child ∈ element.children) → ∀ index,
          outlines path index (siblings.map (Element.moved distance)) =
            (outlines path index siblings).map fun entry => (entry.1, entry.2.moved distance) := by
        intro siblings hSiblings
        induction siblings with
        | nil => exact fun _ => rfl
        | cons first rest ihRest =>
            intro index
            rw [List.map_cons, outlines, outlines, List.map_append, ih first (hSiblings first (List.mem_cons_self ..)),
              ihRest fun child hChild => hSiblings child (List.mem_cons_of_mem _ hChild)]
      rw [outline_eq, outline_eq, children_moved, List.map_cons, hSiblings _ (fun _ => id)]

theorem size_moved (element : Element) : (element.moved distance).size = element.size := by
  rw [size, outline_moved, List.length_map, size]

theorem sizeBefore_moved (siblings : List Element) (index : Nat) :
    sizeBefore (siblings.map (Element.moved distance)) index = sizeBefore siblings index := by
  induction siblings generalizing index with
  | nil => rfl
  | cons first rest ih =>
      cases index with
      | zero => rfl
      | succ index => rw [List.map_cons, sizeBefore, sizeBefore, size_moved, ih]

theorem number_moved (path : List Nat) (element : Element) :
    (element.moved distance).number path = element.number path := by
  induction path generalizing element with
  | nil => rfl
  | cons index path ih =>
      rw [number, number, children_moved, List.getElem?_map, sizeBefore_moved]
      cases element.children[index]? with
      | none => rfl
      | some child => simp only [Option.map_some, ih child]

theorem span_moved (element : Element) : (element.moved distance).span = element.span.moved distance := by
  rw [moved_eq]

theorem Innermost.moved (h : element.Innermost position path found) :
    (element.moved distance).Innermost (position + distance) path (found.moved distance) where
  reached := by rw [at?_moved, h.reached, Option.map_some]
  contains := by rw [span_moved, Span.contains_moved, h.contains]
  deepest := by
    intro other around hAround hContains
    rw [at?_moved] at hAround
    obtain ⟨before, hBefore, rfl⟩ := Option.map_eq_some_iff.mp hAround
    rw [span_moved, Span.contains_moved] at hContains
    exact h.deepest other before hBefore hContains

end Element

end Markup

end ContentAssist
