import ContentAssist.Proofs.Markup.Nesting

/-! Names in a tag are whole: a name is read as far as it goes, so the character behind it belongs to no name. Two
names of one tag therefore never touch, and where no name follows the `<` of a tag no attribute does either. -/
namespace ContentAssist.Markup

/-- The token is a whole name of the text. -/
structure Token.IsWholeName (token : Token) (source : List Char) : Prop where
  first : ∃ c, source[token.span.startOffset]? = some c ∧ Lexeme.isNameStart c = true
  behind : ∀ c, source[token.span.endOffset + 1]? = some c → Lexeme.isNameChar c = false

variable {source : List Char} {input next : Input}

/-- Between two whole names there is at least one character. -/
theorem Token.IsWholeName.apart {before after : Token} (hBefore : before.IsWholeName source)
    (hAfter : after.IsWholeName source) (hOrder : before.span.endOffset < after.span.startOffset) :
    before.span.endOffset + 1 < after.span.startOffset := by
  refine lt_of_le_of_ne hOrder fun hTouch => ?_
  obtain ⟨c, hFirst, hStart⟩ := hAfter.first
  rw [← hTouch] at hFirst
  have hChar := Lexeme.isNameChar_of_isNameStart hStart
  rw [hBefore.behind c hFirst] at hChar
  cases hChar

/-- What comes next in the input is what stands in the text. -/
theorem Input.Within.getElem?_rest (h : input.Within source) (place : Nat) :
    input.rest[place]? = source[input.offset + place]? := by
  rw [h.rest, List.getElem?_drop]

/-- The character behind the longest stretch of characters with a property does not have the property. -/
theorem Lexeme.not_of_getElem?_takeWhile {property : Char → Bool} {text : List Char} {c : Char}
    (hBehind : text[(text.takeWhile property).length]? = some c) : property c = false := by
  induction text with
  | nil => cases hBehind
  | cons first rest ih =>
      by_cases hFirst : property first = true
      · rw [List.takeWhile_cons, if_pos hFirst] at hBehind
        exact ih hBehind
      · rw [List.takeWhile_cons, if_neg hFirst] at hBehind
        cases hBehind
        exact Bool.eq_false_iff.mpr hFirst

/-- A name starts with a character that may start one, and goes as far as it can. -/
theorem Lexeme.nameLength?_whole {text : List Char} {length : Nat} (hName : nameLength? text = some length) :
    (∃ c, text[0]? = some c ∧ isNameStart c = true) ∧ ∀ c, text[length]? = some c → isNameChar c = false := by
  cases text with
  | nil => cases hName
  | cons first rest =>
      rw [nameLength?] at hName
      split at hName
      · rename_i hStart
        cases hName
        exact ⟨⟨first, rfl, hStart⟩, fun c => not_of_getElem?_takeWhile⟩
      · cases hName

theorem Input.name?_isWholeName {token : Token} (h : input.Within source)
    (hRead : input.name? = (some token, next)) : token.IsWholeName source := by
  unfold name? at hRead
  split at hRead
  · rename_i length hName
    have hBounds := Lexeme.nameLength?_bounds hName
    have hEnds := @Input.token_bounds input .name length hBounds.1 hBounds.2
    obtain ⟨hFirst, hBehind⟩ := Lexeme.nameLength?_whole hName
    simp only [h.getElem?_rest] at hFirst hBehind
    have hToken : (input.token .name length).1 = token := Option.some.inj (Prod.mk.inj hRead).1
    rw [← hToken]
    refine ⟨?_, ?_⟩
    · rw [hEnds.1]
      exact hFirst
    · rw [hEnds.2]
      exact hBehind
  · cases hRead

/-- Where no name is read, no name starts. -/
theorem Input.name?_eq_none {c : Char} (h : input.Within source) (hRead : input.name? = (none, next))
    (hHere : source[input.offset]? = some c) : Lexeme.isNameStart c = false := by
  rw [← Nat.add_zero input.offset, ← h.getElem?_rest] at hHere
  unfold name? at hRead
  split at hRead
  · cases hRead
  · rename_i hName
    cases hRest : input.rest with
    | nil =>
        rw [hRest] at hHere
        cases hHere
    | cons first rest =>
        rw [hRest] at hHere hName
        cases hHere
        by_contra hStart
        rw [Bool.not_eq_false] at hStart
        simp [Lexeme.nameLength?, hStart] at hName

/-- The names in the opening tag are whole, and where the element has no name, none starts behind its `<`. -/
structure Element.NamesWhole (source : List Char) (element : Element) : Prop where
  name : ∀ token, element.name = some token → token.IsWholeName source
  keys : ∀ attr ∈ element.attributes, ∀ token, attr.name = some token → token.IsWholeName source
  noName : element.name = none → ∀ opening c, element.openAngle = some opening →
    source[opening.span.endOffset + 1]? = some c → Lexeme.isNameStart c = false

namespace Reader

theorem attributes_keys (atEnd : List Char → Bool) (budget : Nat) (h : input.Within source) :
    ∀ attr ∈ (attributes atEnd budget input).1, ∀ token, attr.name = some token → token.IsWholeName source := by
  refine attributes_forall atEnd budget h ?_
  intro here after c rest attr hWithin _ _ hRead token hToken
  obtain ⟨afterName, _, hName, _⟩ := singleAttribute_steps hRead
  rw [hToken] at hName
  exact Input.name?_isWholeName hWithin hName

theorem startTag_namesWhole {start : StartTag} (h : input.Within source) (hRest : input.rest ≠ [])
    (hRead : startTag input = (start, next)) (content : Option Content) (finish : EndTag) :
    (assemble start content finish).NamesWhole source := by
  obtain ⟨afterName, atEnd, _, _, _, hOpen, hName, hAttributes, _⟩ := startTag_steps hRead
  have hOpened := Input.token_passes h .openAngle 1 Nat.one_pos (List.length_pos_iff.mpr hRest)
  have hBounds := @Input.token_bounds input .openAngle 1 Nat.one_pos (List.length_pos_iff.mpr hRest)
  refine ⟨?_, ?_, ?_⟩
  · intro token hToken
    rw [show start.name = some token from hToken] at hName
    exact Input.name?_isWholeName hOpened.within hName
  · have hKeys := attributes_keys atTagEnd (afterName.rest.length + 1) (Input.name?_passes hOpened.within hName).within
    rwa [hAttributes] at hKeys
  · intro hNone opening c hOpening hBehind
    rw [show start.name = none from hNone] at hName
    have hIs : opening = (input.token .openAngle 1).1 := by
      rw [← hOpen]
      exact (Option.some.inj hOpening).symm
    rw [hIs, hBounds.2] at hBehind
    exact Input.name?_eq_none hOpened.within hName hBehind

theorem IsRead.namesWhole {element : Element} (h : IsRead source element) : element.NamesWhole source := by
  obtain ⟨input, next, hInput, hRest, hRead⟩ := h
  cases hRead with
  | bare hStart _ => exact startTag_namesWhole hInput hRest hStart ..
  | enclosing hStart _ _ _ => exact startTag_namesWhole hInput hRest hStart ..

end Reader

end ContentAssist.Markup
