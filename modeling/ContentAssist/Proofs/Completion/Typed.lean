import ContentAssist.Proofs.Completion.Innermost

/-! What has been typed is the text that ends at the cursor. Each rule takes it from another place, the image of a
token or a text of the document, and each time it is the stretch of the source from the start of that token on.
-/
namespace ContentAssist

namespace Completion

open Markup (Token present present_eq_some_iff)

/-- The text ends at the cursor: it is what stands in the source from `start` up to the cursor. -/
structure EndsAt (source : List Char) (offset start : Nat) (typed : String) : Prop where
  length : start + typed.length = offset
  cursor : offset ≤ source.length
  text : typed.toList = (source.take offset).drop start

theorem EndsAt.of_toList {source : List Char} {offset start : Nat} {typed : String} (hStart : start ≤ offset)
    (hCursor : offset ≤ source.length) (hText : typed.toList = (source.take offset).drop start) :
    EndsAt source offset start typed := by
  refine ⟨?_, hCursor, hText⟩
  have hLength := congrArg List.length hText
  simp only [String.length_toList, List.length_drop, List.length_take] at hLength
  omega

/-- Where the text being typed can start: with the name of the element, with the key or behind the opening quote
of an attribute, or with a run of text. The attribute and the run are those of the context. -/
inductive StartsAt (markup : Markup.Element) (context : Context) : Nat → Prop
  | name (token : Token) (kind : context.kind = .elementName) (slot : markup.name = some token) :
      StartsAt markup context token.span.startOffset
  | key (index : Nat) (attr : Markup.Attribute) (token : Token) (kind : context.kind = .attributeName)
      (here : markup.attributes[index]? = some attr) (given : context.attr.isSome = true)
      (partner : context.attr = context.element.attributes[index]?) (slot : attr.name = some token) :
      StartsAt markup context token.span.startOffset
  | value (index : Nat) (attr : Markup.Attribute) (token : Token) (kind : context.kind = .attributeValue)
      (here : markup.attributes[index]? = some attr) (given : context.attr.isSome = true)
      (partner : context.attr = context.element.attributes[index]?) (slot : attr.string = some token) :
      StartsAt markup context (token.span.startOffset + 1)
  | run (index : Nat) (run : Markup.CharacterData) (token : Token) (kind : context.kind = .elementContent)
      (here : markup.runs[index]? = some run) (given : context.text.isSome = true)
      (partner : context.text = context.element.texts[index]?) (tokens : run.tokens = [token]) :
      StartsAt markup context token.span.startOffset

section Text

variable {source : List Char} {token : Token} {offset : Nat}

theorem firstChars_endsAt (h : token.OccursIn source) (hStart : token.span.startOffset ≤ offset)
    (hEnd : offset ≤ token.span.endOffset + 1) :
    EndsAt source offset token.span.startOffset
      (firstChars token.image (offset - token.span.startOffset)) := by
  have hBound := h.endOffset_lt
  refine EndsAt.of_toList hStart (by omega) ?_
  have hWidth : offset - token.span.startOffset ≤ token.image.length := by
    have hSize := h.endOffset
    omega
  rw [firstChars, String.toList_ofList, h.image, List.take_take, Nat.min_eq_left hWidth, List.drop_take]

theorem firstQuoted_endsAt (h : token.OccursIn source) (hStart : token.span.startOffset < offset)
    (hEnd : offset ≤ token.span.endOffset + 1) :
    EndsAt source offset (token.span.startOffset + 1)
      (firstQuoted token.image (offset - token.span.startOffset)) := by
  have hChars := firstChars_endsAt h hStart.le hEnd
  refine EndsAt.of_toList hStart hChars.cursor ?_
  have hText := hChars.text
  rw [firstChars, String.toList_ofList] at hText
  rw [firstQuoted, String.toList_ofList, hText, List.drop_drop]

theorem of_nonEmpty_eq_some {text typed : String} (h : nonEmpty text = some typed) : text = typed ∧ typed ≠ "" := by
  rw [nonEmpty] at h
  split at h
  · cases h
  · rename_i hFull
    cases h
    exact ⟨rfl, by simpa using hFull⟩

theorem EndsAt.ne_empty {start : Nat} {typed : String} (h : EndsAt source offset start typed)
    (hStart : start < offset) : typed ≠ "" := by
  rintro rfl
  have hLength := h.length
  simp only [String.length_empty] at hLength
  omega

end Text

section Rules

variable {source : List Char} {markup : Markup.Element} {element : Document.Element} {offset : Nat}
  {context : Context} {typed : String}

theorem inName_typed (h : markup.LaidOut source) (hAnswer : inName markup element offset = some context)
    (hTyped : context.typed = some typed) :
    ∃ start, StartsAt markup context start ∧ EndsAt source offset start typed ∧ typed ≠ "" := by
  obtain ⟨name, hName, hStart, hEnd, rfl⟩ := inName_eq_some_iff.mp hAnswer
  rw [present_eq_some_iff] at hName
  cases hTyped
  have hMem : name ∈ markup.openingTokens := by simp [Markup.Element.openingTokens, hName.1]
  have hOccurs := (h.tokens.of_mem (Markup.Element.mem_tokens_of_opening hMem)).1
  have hText := firstChars_endsAt hOccurs hStart.le hEnd
  exact ⟨_, .name name rfl hName.1, hText, hText.ne_empty hStart⟩

theorem inAttributes_typed (h : markup.LaidOut source) (hAnswer : inAttributes markup element offset = some context)
    (hTyped : context.typed = some typed) :
    ∃ start, StartsAt markup context start ∧ EndsAt source offset start typed ∧ typed ≠ "" := by
  obtain ⟨index, attr, partner, hAttr, hPartner, hRule⟩ := exists_of_inAttributes_eq_some hAnswer
  have hOccurs : ∀ token ∈ attr.tokens, token.OccursIn source := fun token hToken =>
    (h.tokens.of_mem
      (Markup.Element.mem_tokens_of_opening (Markup.Element.mem_openingTokens_of_attribute hAttr hToken))).1
  rcases hRule with hValue | hKey
  · obtain ⟨value, hString, hStart, hEnd, rfl⟩ := inValue_eq_some_iff.mp hValue
    rw [present_eq_some_iff] at hString
    obtain ⟨rfl, hFull⟩ := of_nonEmpty_eq_some hTyped
    have hToken := hOccurs value (Markup.Attribute.mem_tokens_of_string hString.1)
    exact ⟨_, .value index attr value rfl hAttr rfl hPartner.symm hString.1,
      firstQuoted_endsAt hToken hStart (by omega), hFull⟩
  · obtain ⟨key, hName, hStart, hEnd, rfl⟩ := onKey_eq_some_iff.mp hKey
    rw [present_eq_some_iff] at hName
    obtain ⟨rfl, hFull⟩ := of_nonEmpty_eq_some hTyped
    have hToken := hOccurs key (Markup.Attribute.mem_tokens_of_name hName.1)
    exact ⟨_, .key index attr key rfl hAttr rfl hPartner.symm hName.1, firstChars_endsAt hToken hStart hEnd, hFull⟩

/-- The run that a cursor continues, and the one token of the run. -/
theorem exists_run_of_locate (h : markup.LaidOut source) {position index : Nat}
    (hLocate : locate markup.parts position = some (.text index)) :
    ∃ run token, markup.runs[index]? = some run ∧ run.tokens = [token] ∧ run.span = token.span ∧
      token ∈ markup.tokens ∧ run.span.contains position = true := by
  obtain ⟨before, part, after, hParts, hContains, hHit⟩ := exists_of_locateFrom_eq_some hLocate
  have hPart : part ∈ markup.parts := by simp [hParts]
  cases part with
  | text run =>
      obtain ⟨token, hTokens, hSpan⟩ := h.leaves _ hPart rfl
      have hIndex : index = (before.filterMap Markup.ContentPart.text?).length := by
        simpa [Markup.ContentPart.isText] using hHit
      refine ⟨run, token, ?_, hTokens, hSpan, ?_, hContains⟩
      · rw [Markup.Element.runs, hParts, hIndex]
        simp [Markup.ContentPart.text?]
      · refine Markup.Element.mem_tokens_of_part hPart ?_
        rw [hTokens]
        exact List.mem_singleton.mpr rfl
  | _ => cases hHit

/-- The text of a run, up to a cursor behind one of its characters, ends at the cursor. -/
theorem run_endsAt (h : markup.LaidOut source)
    (hTexts : List.Forall₂ Document.Text.Repeats markup.runs element.texts) {index : Nat} {text : Document.Text}
    (hPos : 0 < offset) (hLocate : locate markup.parts (offset - 1) = some (.text index))
    (hText : element.texts[index]? = some text) :
    ∃ run token, markup.runs[index]? = some run ∧ run.tokens = [token] ∧ text.span = run.span ∧
      run.span = token.span ∧ token.span.startOffset < offset ∧
      EndsAt source offset token.span.startOffset (firstChars text.text (offset - text.span.startOffset)) := by
  obtain ⟨run, token, hRun, hTokens, hSpan, hMem, hContains⟩ := exists_run_of_locate h hLocate
  have hRepeats : Document.Text.Repeats run text := by
    obtain ⟨hRunLt, rfl⟩ := List.getElem?_eq_some_iff.mp hRun
    obtain ⟨hTextLt, rfl⟩ := List.getElem?_eq_some_iff.mp hText
    exact hTexts.get hRunLt hTextLt
  have hImage : text.text = token.image := by
    rw [hRepeats.text, hTokens]
    simp
  rw [hSpan, Span.contains_iff] at hContains
  refine ⟨run, token, hRun, hTokens, hRepeats.span, hSpan, by omega, ?_⟩
  rw [hImage, hRepeats.span, hSpan]
  exact firstChars_endsAt (h.tokens.of_mem hMem).1 (by omega) (by omega)

theorem inContent_typed (h : markup.LaidOut source)
    (hTexts : List.Forall₂ Document.Text.Repeats markup.runs element.texts)
    (hAnswer : inContent markup element offset = some context) (hTyped : context.typed = some typed) :
    ∃ start, StartsAt markup context start ∧ EndsAt source offset start typed ∧ typed ≠ "" := by
  obtain ⟨opening, closing, _, _, hStart, _, ⟨_, rfl⟩ | ⟨index, text, hLocate, hText, rfl⟩⟩ :=
    inContent_cases hAnswer
  · cases hTyped
  · cases hTyped
    obtain ⟨run, token, hRun, hTokens, _, _, hLt, hEnds⟩ := run_endsAt h hTexts (by omega) hLocate hText
    exact ⟨_, .run index run token rfl hRun rfl hText.symm hTokens, hEnds, hEnds.ne_empty hLt⟩

/-- What an element says was typed ends at the cursor and starts with one of the element's tokens. -/
theorem ownAnswer_typed (h : markup.LaidOut source)
    (hTexts : List.Forall₂ Document.Text.Repeats markup.runs element.texts)
    (hAnswer : ownAnswer markup element offset = some context) (hTyped : context.typed = some typed) :
    ∃ start, StartsAt markup context start ∧ EndsAt source offset start typed ∧ typed ≠ "" := by
  rcases ownAnswer_cases hAnswer with hRule | hRule | hRule | hRule | hRule
  · obtain ⟨_, _, _, rfl⟩ := afterOpen_eq_some_iff.mp hRule
    cases hTyped
  · exact inName_typed h hRule hTyped
  · exact inAttributes_typed h hRule hTyped
  · obtain ⟨_, _, _, _, _, _, _, rfl⟩ := newAttribute_eq_some_iff.mp hRule
    cases hTyped
  · exact inContent_typed h hTexts hRule hTyped

/-- An element answers for itself. -/
theorem ownAnswer_element (hAnswer : ownAnswer markup element offset = some context) :
    context.element = element := by
  rcases ownAnswer_cases hAnswer with hRule | hRule | hRule | hRule | hRule
  · obtain ⟨_, _, _, rfl⟩ := afterOpen_eq_some_iff.mp hRule
    rfl
  · obtain ⟨_, _, _, _, rfl⟩ := inName_eq_some_iff.mp hRule
    rfl
  · obtain ⟨_, _, _, _, _, hValue | hKey⟩ := exists_of_inAttributes_eq_some hRule
    · obtain ⟨_, _, _, _, rfl⟩ := inValue_eq_some_iff.mp hValue
      rfl
    · obtain ⟨_, _, _, _, rfl⟩ := onKey_eq_some_iff.mp hKey
      rfl
  · obtain ⟨_, _, _, _, _, _, _, rfl⟩ := newAttribute_eq_some_iff.mp hRule
    rfl
  · obtain ⟨_, _, _, _, _, _, ⟨_, rfl⟩ | ⟨_, _, _, _, rfl⟩⟩ := inContent_cases hRule
    · rfl
    · rfl

end Rules

end Completion

/-- What a completion says was typed is not empty and is the text that ends at the cursor. It starts with the
name, the key or the run of text that is being completed, or right behind the opening quote of the value. -/
theorem Snapshot.typed_eq_text_before_cursor (source : String) :
    ∃ snapshot, ofText source = .ok snapshot ∧ ∀ (offset : Nat) (context : Completion.Context) (typed : String),
      snapshot.complete offset = some context → context.typed = some typed →
        typed.length ≤ offset ∧ offset ≤ source.length ∧
        (source.toList.take offset).drop (offset - typed.length) = typed.toList ∧ typed ≠ "" ∧
        ∃ path markup, snapshot.Pairs path markup context.element ∧
          Completion.StartsAt markup context (offset - typed.length) := by
  obtain ⟨snapshot, hSnapshot⟩ : ∃ snapshot, ofText source = .ok snapshot := ⟨_, ofText_eq source⟩
  refine ⟨snapshot, hSnapshot, ?_⟩
  intro offset context typed hComplete hTyped
  obtain ⟨path, markup, element, hPair, hAnswer⟩ := exists_ownAnswer_of_complete hSnapshot hComplete
  have hLaid := (Completion.isRead_of_pairs hSnapshot hPair).laidOut
  have hTexts := ((aligned_of_ofText hSnapshot).repeats hPair).texts
  obtain ⟨start, hStarts, hEnds, hFull⟩ := Completion.ownAnswer_typed hLaid hTexts hAnswer hTyped
  have hStart : offset - typed.length = start := Nat.sub_eq_of_eq_add hEnds.length.symm
  have hCursor := hEnds.cursor
  rw [String.length_toList] at hCursor
  rw [hStart, Completion.ownAnswer_element hAnswer]
  exact ⟨hEnds.length ▸ Nat.le_add_left _ _, hCursor, hEnds.text.symm, hFull, path, markup, hPair, hStarts⟩

end ContentAssist
