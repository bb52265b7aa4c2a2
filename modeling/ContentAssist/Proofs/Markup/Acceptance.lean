import ContentAssist.Proofs.Document.Alignment
import ContentAssist.Proofs.Markup.Recognition

/-! The reader accepts the grammar: it reads the text of every derivation to its end and returns the tree of the
derivation. For each production there is one lemma that reads its text in front of any other text, as long as that
does not go on with what has just been read. -/
namespace ContentAssist.Markup

open Unicode (isWhiteSpace)

namespace Grammar

open Reader (delimited leaf atElement atContentEnd ElementRead PartsRead)

variable (offset : Nat) (rest : List Char)

theorem Comment.read (part : Comment) :
    delimited .comment "-->" ⟨offset, part.text ++ rest⟩ =
      (lexeme .comment part.text offset, ⟨offset + part.text.length, rest⟩) := by
  rw [delimited, Lexeme.delimitedLength_comment, Input.token_append]

theorem Instruction.read (part : Instruction) :
    delimited .processingInstruction "?>" ⟨offset, part.text ++ rest⟩ =
      (lexeme .processingInstruction part.text offset, ⟨offset + part.text.length, rest⟩) := by
  rw [delimited, Lexeme.delimitedLength_instruction, Input.token_append]

theorem Section.read (part : Section) :
    delimited .cdata "]]>" ⟨offset, part.text ++ rest⟩ =
      (lexeme .cdata part.text offset, ⟨offset + part.text.length, rest⟩) := by
  rw [delimited, Lexeme.delimitedLength_section, Input.token_append]

namespace Leaf

theorem read (form : Leaf) :
    Reader.leaf ⟨offset, form.text ++ rest⟩ = (form.part offset, ⟨offset + form.text.length, rest⟩) := by
  cases form with
  | comment part =>
      have hStarts : (⟨offset, part.text ++ rest⟩ : Input).startsWith "<!--" = true := rfl
      simp only [text, Leaf.part, leaf, hStarts, if_true, part.read]
  | cdata part =>
      have hComment : (⟨offset, part.text ++ rest⟩ : Input).startsWith "<!--" = false := rfl
      have hStarts : (⟨offset, part.text ++ rest⟩ : Input).startsWith "<![CDATA[" = true := rfl
      simp [text, Leaf.part, leaf, hComment, hStarts, part.read]
  | instruction part =>
      have hComment : (⟨offset, part.text ++ rest⟩ : Input).startsWith "<!--" = false := rfl
      have hSection : (⟨offset, part.text ++ rest⟩ : Input).startsWith "<![CDATA[" = false := rfl
      have hStarts : (⟨offset, part.text ++ rest⟩ : Input).startsWith "<?" = true := rfl
      simp [text, Leaf.part, leaf, hComment, hSection, hStarts, part.read]
  | reference part =>
      have hComment : (⟨offset, part.text ++ rest⟩ : Input).startsWith "<!--" = false := rfl
      have hSection : (⟨offset, part.text ++ rest⟩ : Input).startsWith "<![CDATA[" = false := rfl
      have hInstruction : (⟨offset, part.text ++ rest⟩ : Input).startsWith "<?" = false := rfl
      simp [text, Leaf.part, leaf, hComment, hSection, hInstruction, Lexeme.referenceLength?_append,
        Input.token_append, lexeme_span]

theorem not_atContentEnd (form : Leaf) : atContentEnd ⟨offset, form.text ++ rest⟩ = false := by
  cases form <;> rfl

theorem not_atElement (form : Leaf) : atElement ⟨offset, form.text ++ rest⟩ = false := by
  cases form <;> rfl

/-- A leaf ends the run of text in front of it. -/
theorem plainLength_eq_zero (form : Leaf) : Lexeme.plainLength (form.text ++ rest) = 0 := by
  cases form with
  | reference part =>
      have hReference := Lexeme.referenceLength?_append part rest
      simp only [text, Reference.text, List.cons_append] at hReference ⊢
      rw [Lexeme.plainLength, hReference]
      simp
  | _ => rfl

end Leaf

namespace Chardata

variable (run : Chardata)

theorem not_startsWith {word : String} (hWord : word.toList.head? = some '<') :
    (⟨offset, run.text ++ rest⟩ : Input).startsWith word = false := by
  obtain ⟨c, others, hText⟩ := List.exists_cons_of_ne_nil run.nonempty
  rw [hText]
  exact Lexeme.startsWith_eq_false hWord (run.plain c (by simp [hText])).1

theorem not_atContentEnd : atContentEnd ⟨offset, run.text ++ rest⟩ = false := by
  simp [atContentEnd, run.nonempty, run.not_startsWith offset rest (show "</".toList.head? = some '<' from rfl)]

theorem not_atElement : atElement ⟨offset, run.text ++ rest⟩ = false := by
  simp [atElement, run.not_startsWith offset rest (show "<".toList.head? = some '<' from rfl)]

theorem read {rest : List Char} (hRest : Lexeme.plainLength rest = 0) :
    Reader.leaf ⟨offset, run.text ++ rest⟩ = (run.part offset, ⟨offset + run.text.length, rest⟩) := by
  have hComment := run.not_startsWith offset rest (show "<!--".toList.head? = some '<' from rfl)
  have hSection := run.not_startsWith offset rest (show "<![CDATA[".toList.head? = some '<' from rfl)
  have hInstruction := run.not_startsWith offset rest (show "<?".toList.head? = some '<' from rfl)
  have hReference : Lexeme.referenceLength? (run.text ++ rest) = none := by
    obtain ⟨c, others, hText⟩ := List.exists_cons_of_ne_nil run.nonempty
    rw [hText]
    exact Lexeme.referenceLength?_eq_none (run.plain c (by simp [hText])).2 _
  have hText : Reader.text ⟨offset, run.text ++ rest⟩ =
      (⟨[lexeme (if run.text.all isWhiteSpace then .seaWhitespace else .text) run.text offset],
        extent offset run.text⟩, ⟨offset + run.text.length, rest⟩) := by
    simp only [Reader.text, Lexeme.textLength_append run hRest, List.take_left', Input.token_append, lexeme_span]
  simp [leaf, hComment, hSection, hInstruction, hReference, hText, part]

/-- A run that may be missing is read in front of parts that do not go on with text. -/
theorem optional_read (run : Option Chardata) {rest : List Char} {parts : List ContentPart} {last : Input}
    (hRest : Lexeme.plainLength rest = 0)
    (hParts : PartsRead ⟨offset + (optionalText run).length, rest⟩ parts last) :
    PartsRead ⟨offset, optionalText run ++ rest⟩ (optionalParts run offset ++ parts) last := by
  cases run with
  | none => exact hParts
  | some run =>
      exact .leaf (run.not_atContentEnd offset rest) (run.not_atElement offset rest) (run.read offset hRest) hParts

end Chardata

/-- The parts stand one directly behind the other, from `start` up to `stop`. -/
def Tiled : Nat → List ContentPart → Nat → Prop
  | start, [], stop => start = stop
  | start, part :: rest, stop =>
    part.span.startOffset = start ∧ start ≤ part.span.endOffset ∧ Tiled (part.span.endOffset + 1) rest stop

namespace Tiled

variable {start stop : Nat}

theorem cons_of_extent {part : ContentPart} {text : List Char} {parts : List ContentPart}
    (hSpan : part.span = extent start text) (hText : text ≠ [])
    (hParts : Tiled (start + text.length) parts stop) : Tiled start (part :: parts) stop := by
  have hLength := List.length_pos_iff.mpr hText
  have hEnd : start + max text.length 1 - 1 + 1 = start + text.length := by omega
  refine ⟨by rw [hSpan]; rfl, by rw [hSpan]; simp only [extent]; omega, ?_⟩
  rw [hSpan]
  simp only [extent, hEnd]
  exact hParts

theorem getLast {parts : List ContentPart} {last : ContentPart} (h : Tiled start parts stop)
    (hLast : parts.getLast? = some last) : start ≤ last.span.startOffset ∧ last.span.endOffset + 1 = stop := by
  induction parts generalizing start with
  | nil => cases hLast
  | cons part rest ih =>
      obtain ⟨hStart, hEnd, hRest⟩ := h
      cases rest with
      | nil =>
          cases hLast
          exact ⟨hStart.ge, hRest⟩
      | cons next others =>
          have hLater := ih hRest (by rwa [List.getLast?_cons_cons] at hLast)
          exact ⟨by omega, hLater.2⟩

theorem le {parts : List ContentPart} (h : Tiled start parts stop) : start ≤ stop := by
  induction parts generalizing start with
  | nil => exact h.le
  | cons part rest ih =>
      have hRest := ih h.2.2
      have hEnd := h.2.1
      omega

end Tiled

/-- Content that begins where its parts begin spans what they span. -/
theorem contentOf_tiled {start : Nat} {text : List Char} {parts : List ContentPart}
    (h : Tiled start parts (start + text.length)) :
    Reader.contentOf start parts = ⟨parts, extent start text⟩ := by
  cases parts with
  | nil =>
      have hEmpty : start = start + text.length := h
      have hSpan : extent start text = ⟨start, start⟩ := by
        simp only [extent, Span.mk.injEq, true_and]
        omega
      rw [hSpan]
      rfl
  | cons first rest =>
      obtain ⟨last, hLast⟩ := Option.isSome_iff_exists.mp (List.getLast?_isSome.mpr (List.cons_ne_nil first rest))
      obtain ⟨hLastStart, hLastEnd⟩ := h.getLast hLast
      obtain ⟨hStart, hEnd, hRest⟩ := h
      have hLe := hRest.le
      have hSpan : first.span.cover last.span = extent start text := by
        simp only [Span.cover, extent, Span.mk.injEq]
        omega
      simp only [Reader.contentOf, List.head?_cons, hLast, hSpan]

theorem Leaf.span (form : Leaf) : (form.part offset).span = extent offset form.text := by
  cases form with
  | reference part => rfl
  | _ => exact lexeme_span _ _ _

theorem Leaf.text_ne_nil (form : Leaf) : form.text ≠ [] := by
  cases form <;> exact List.cons_ne_nil _ _

theorem Chardata.optional_tiled (run : Option Chardata) {parts : List ContentPart} {stop : Nat}
    (hParts : Tiled (offset + (optionalText run).length) parts stop) :
    Tiled offset (optionalParts run offset ++ parts) stop := by
  cases run with
  | none => exact hParts
  | some run => exact Tiled.cons_of_extent rfl run.nonempty hParts

theorem Element.exists_text (form : Element) :
    ∃ c others, form.text = '<' :: c :: others ∧ Lexeme.isNameStart c = true := by
  cases form with
  | empty tag => exact ⟨_, _, rfl, tag.name.starts⟩
  | full tag _ _ _ _ => exact ⟨_, _, rfl, tag.name.starts⟩

theorem Element.span (form : Element) : (form.tree offset).span = extent offset form.text := by
  cases form <;> rfl

theorem Element.not_atContentEnd (form : Element) : atContentEnd ⟨offset, form.text ++ rest⟩ = false := by
  obtain ⟨c, others, hText, hName⟩ := form.exists_text
  have hSlash : c ≠ '/' := Lexeme.ne_of_isNameStart hName (by decide)
  simp [atContentEnd, hText, Input.startsWith, Lexeme.startsWith, List.isPrefixOf, hSlash.symm]

theorem Element.atElement_text (form : Element) : atElement ⟨offset, form.text ++ rest⟩ = true := by
  obtain ⟨c, others, hText, hName⟩ := form.exists_text
  have hBang : c ≠ '!' := Lexeme.ne_of_isNameStart hName (by decide)
  have hQuestion : c ≠ '?' := Lexeme.ne_of_isNameStart hName (by decide)
  simp [atElement, hText, Input.startsWith, Lexeme.startsWith, List.isPrefixOf, hBang.symm, hQuestion.symm]

/-- Content never starts with a run of text, which would belong to what comes before. -/
theorem Content.plainLength_eq_zero (form : Content) (tail : List Char) :
    Lexeme.plainLength (form.text ++ '<' :: tail) = 0 := by
  cases form with
  | nil => rfl
  | element child run rest =>
      obtain ⟨c, others, hText, _⟩ := child.exists_text
      simp only [Content.text, hText]
      rfl
  | leaf item run rest =>
      rw [Content.text, List.append_assoc]
      exact item.plainLength_eq_zero _

theorem Content.tiled : ∀ (form : Content) (offset : Nat),
    Tiled offset (form.parts offset) (offset + form.text.length)
  | .nil, _ => rfl
  | .element child run rest, offset => by
      obtain ⟨c, others, hText, _⟩ := child.exists_text
      have hRest := rest.tiled (offset + child.text.length + (Chardata.optionalText run).length)
      rw [Content.text, List.length_append, List.length_append, ← Nat.add_assoc, ← Nat.add_assoc]
      exact Tiled.cons_of_extent (child.span offset) (by simp [hText]) (Chardata.optional_tiled _ run hRest)
  | .leaf item run rest, offset => by
      have hRest := rest.tiled (offset + item.text.length + (Chardata.optionalText run).length)
      rw [Content.text, List.length_append, List.length_append, ← Nat.add_assoc, ← Nat.add_assoc]
      exact Tiled.cons_of_extent (item.span offset) item.text_ne_nil (Chardata.optional_tiled _ run hRest)

theorem assemble_empty (tag : Tag) (offset : Nat) :
    Reader.assemble ⟨lexeme .openAngle ['<'] offset, some (lexeme .name tag.name.text (offset + 1)),
      tag.attributes.trees (offset + 1 + tag.name.text.length), none,
      some (lexeme .slashClose ['/', '>'] (offset + tag.text.length))⟩ none ⟨none, none, none⟩ =
        (Element.empty tag).tree offset := by
  have hSpan : (⟨offset, (extent (offset + tag.text.length) ['/', '>']).endOffset⟩ : Span) =
      extent offset (Element.empty tag).text := by
    simp only [extent, Element.text, List.length_append, List.length_cons, List.length_nil, Span.mk.injEq, true_and]
    omega
  rw [Element.tree, ← hSpan, ← lexeme_span .slashClose]
  rfl

theorem assemble_full (tag : Tag) (lead : Option Chardata) (content : Content) (endName : Name) (gap : Blanks)
    (offset : Nat) {inner afterLead closing : Nat} (hInner : inner = offset + tag.text.length + 1)
    (hLead : afterLead = inner + (Chardata.optionalText lead).length)
    (hClosing : closing = afterLead + content.text.length) :
    Reader.assemble ⟨lexeme .openAngle ['<'] offset, some (lexeme .name tag.name.text (offset + 1)),
      tag.attributes.trees (offset + 1 + tag.name.text.length),
      some (lexeme .startClose ['>'] (offset + tag.text.length)), none⟩
      (some (Reader.contentOf inner (Chardata.optionalParts lead inner ++ content.parts afterLead)))
      ⟨some (lexeme .slashOpen ['<', '/'] closing), some (lexeme .name endName.text (closing + 2)),
        some (lexeme .close ['>'] (closing + 2 + endName.text.length + gap.text.length))⟩ =
          (Element.full tag lead content endName gap).tree offset := by
  subst hInner hLead hClosing
  have hTiled := Chardata.optional_tiled _ lead
    (content.tiled (offset + tag.text.length + 1 + (Chardata.optionalText lead).length))
  rw [Nat.add_assoc _ _ content.text.length, ← List.length_append] at hTiled
  have hSpan : (⟨offset, (extent (offset + tag.text.length + 1 + (Chardata.optionalText lead).length
      + content.text.length + 2 + endName.text.length + gap.text.length) ['>']).endOffset⟩ : Span) =
      extent offset (Element.full tag lead content endName gap).text := by
    simp only [extent, Element.text, List.length_append, List.length_cons, List.length_nil, Span.mk.injEq, true_and]
    omega
  rw [Element.tree, ← contentOf_tiled hTiled, ← hSpan, ← lexeme_span .close]
  rfl

mutual

/-- An element of the grammar is read whole, whatever follows it. -/
theorem Element.read : ∀ (form : Element) (offset : Nat) (rest : List Char),
    ElementRead ⟨offset, form.text ++ rest⟩ (form.tree offset) ⟨offset + form.text.length, rest⟩
  | .empty tag, offset, rest => by
      have hRead := ElementRead.bare (Reader.startTag_empty offset tag rest) rfl
      rw [assemble_empty] at hRead
      simp only [Element.text, List.append_assoc, List.length_append]
      exact hRead
  | .full tag lead content endName gap, offset, rest => by
      have hStart := Reader.startTag_full offset tag (Chardata.optionalText lead ++ (content.text
        ++ '<' :: '/' :: (endName.text ++ (gap.text ++ '>' :: rest))))
      have hContent := content.read (offset + tag.text.length + 1 + (Chardata.optionalText lead).length)
        (endName.text ++ (gap.text ++ '>' :: rest))
      have hBody := Chardata.optional_read _ lead (content.plainLength_eq_zero _) hContent
      have hFinish := Reader.endTag_append (offset + tag.text.length + 1 + (Chardata.optionalText lead).length
        + content.text.length) endName gap rest
      have hRead := ElementRead.enclosing hStart rfl hBody hFinish
      rw [assemble_full tag lead content endName gap offset rfl rfl rfl] at hRead
      have hText : (Element.full tag lead content endName gap).text ++ rest =
          tag.text ++ '>' :: (Chardata.optionalText lead ++ (content.text
            ++ '<' :: '/' :: (endName.text ++ (gap.text ++ '>' :: rest)))) := by
        simp [Element.text]
      have hLength : offset + (Element.full tag lead content endName gap).text.length =
          offset + tag.text.length + 1 + (Chardata.optionalText lead).length + content.text.length + 2
            + endName.text.length + gap.text.length + 1 := by
        simp only [Element.text, List.length_append, List.length_cons, List.length_nil]
        omega
      rw [hText, hLength]
      exact hRead

theorem Content.read : ∀ (form : Content) (offset : Nat) (tail : List Char),
    PartsRead ⟨offset, form.text ++ '<' :: '/' :: tail⟩ (form.parts offset)
      ⟨offset + form.text.length, '<' :: '/' :: tail⟩
  | .nil, _, _ => .done rfl
  | .element child run rest, offset, tail => by
      have hRest := rest.read (offset + child.text.length + (Chardata.optionalText run).length) tail
      have hRun := Chardata.optional_read _ run (rest.plainLength_eq_zero ('/' :: tail)) hRest
      have hChild := child.read offset (Chardata.optionalText run ++ (rest.text ++ '<' :: '/' :: tail))
      have hParts := PartsRead.child (child.not_atContentEnd offset _) (child.atElement_text offset _) hChild hRun
      simp only [Content.text, List.append_assoc, List.length_append, ← Nat.add_assoc]
      exact hParts
  | .leaf item run rest, offset, tail => by
      have hRest := rest.read (offset + item.text.length + (Chardata.optionalText run).length) tail
      have hRun := Chardata.optional_read _ run (rest.plainLength_eq_zero ('/' :: tail)) hRest
      have hParts := PartsRead.leaf (item.not_atContentEnd offset _) (item.not_atElement offset _)
        (item.read offset _) hRun
      simp only [Content.text, List.append_assoc, List.length_append, ← Nat.add_assoc]
      exact hParts

end

namespace Aside

theorem read (form : Aside) {budget : Nat} {others : List Markup.Misc} {last : Input}
    (hOthers : Reader.misc budget ⟨offset + form.text.length, rest⟩ = (others, last)) :
    Reader.misc (budget + 1) ⟨offset, form.text ++ rest⟩ =
      (⟨lexeme form.kind form.text offset⟩ :: others, last) := by
  cases form with
  | comment part =>
      have hStarts : (⟨offset, part.text ++ rest⟩ : Input).startsWith "<!--" = true := rfl
      simp only [text] at hOthers
      simp [Reader.misc, text, kind, hStarts, part.read, hOthers]
  | instruction part =>
      have hComment : (⟨offset, part.text ++ rest⟩ : Input).startsWith "<!--" = false := rfl
      have hStarts : (⟨offset, part.text ++ rest⟩ : Input).startsWith "<?" = true := rfl
      simp only [text] at hOthers
      simp [Reader.misc, text, kind, hComment, hStarts, part.read, hOthers]

theorem text_ne_nil (form : Aside) : form.text ≠ [] := by
  cases form <;> exact List.cons_ne_nil _ _

theorem takeWhile_isWhiteSpace (form : Aside) : (form.text ++ rest).takeWhile isWhiteSpace = [] := by
  cases form <;> exact List.takeWhile_cons_of_neg (by decide)

end Aside

namespace Misc

/-- No comment, instruction or blank comes next. -/
structure Over (rest : List Char) : Prop where
  comment : Lexeme.startsWith "<!--" rest = false
  instruction : Lexeme.startsWith "<?" rest = false
  blank : rest.takeWhile isWhiteSpace = []

theorem read_over {rest : List Char} (hRest : Over rest) (budget : Nat) :
    Reader.misc (budget + 1) ⟨offset, rest⟩ = ([], ⟨offset, rest⟩) := by
  simp [Reader.misc, Input.startsWith, hRest.comment, hRest.instruction, Lexeme.blankLength, hRest.blank]

/-- Blanks, if there are any, take one step of the budget. -/
theorem read_blanks (blanks : Blanks) {rest : List Char} (hRest : rest.takeWhile isWhiteSpace = []) (budget : Nat)
    (hBudget : blanks.text.length + rest.length < budget) {others : List Markup.Misc} {last : Input}
    (hOthers : ∀ budget, rest.length < budget →
      Reader.misc budget ⟨offset + blanks.text.length, rest⟩ = (others, last)) :
    Reader.misc budget ⟨offset, blanks.text ++ rest⟩ = (ofBlanks blanks offset ++ others, last) := by
  obtain ⟨budget, rfl⟩ := Nat.exists_eq_succ_of_ne_zero (Nat.ne_zero_of_lt hBudget)
  cases hText : blanks.text with
  | nil =>
      have hLater := hOthers (budget + 1) (by omega)
      simpa [ofBlanks, hText] using hLater
  | cons c text =>
      have hBlank : isWhiteSpace c = true := blanks.blank c (by simp [hText])
      have hNe : c ≠ '<' := by
        rintro rfl
        exact absurd hBlank (by decide)
      have hComment : (⟨offset, blanks.text ++ rest⟩ : Input).startsWith "<!--" = false := by
        rw [hText]
        exact Lexeme.startsWith_eq_false (show "<!--".toList.head? = some '<' from rfl) hNe
      have hInstruction : (⟨offset, blanks.text ++ rest⟩ : Input).startsWith "<?" = false := by
        rw [hText]
        exact Lexeme.startsWith_eq_false (show "<?".toList.head? = some '<' from rfl) hNe
      have hLength : Lexeme.blankLength (blanks.text ++ rest) = blanks.text.length := by
        rw [Lexeme.blankLength, Lexeme.takeWhile_append_of_all blanks.blank hRest]
      have hNonempty : blanks.text ≠ [] := by simp [hText]
      have hPos := List.length_pos_iff.mpr hNonempty
      have hLater := hOthers budget (by omega)
      rw [← hText]
      simp [Reader.misc, hComment, hInstruction, hLength, Input.token_append, hLater, ofBlanks, hNonempty]

theorem asides_takeWhile_isWhiteSpace {rest : List Char} (hRest : Over rest) (asides : List (Aside × Blanks)) :
    (asidesText asides ++ rest).takeWhile isWhiteSpace = [] := by
  cases asides with
  | nil => exact hRest.blank
  | cons entry asides =>
      rw [asidesText, List.flatMap_cons, List.append_assoc, List.append_assoc]
      exact entry.1.takeWhile_isWhiteSpace _

theorem read_asides {rest : List Char} (hRest : Over rest) (asides : List (Aside × Blanks)) {budget : Nat}
    (hBudget : (asidesText asides).length + rest.length < budget) :
    Reader.misc budget ⟨offset, asidesText asides ++ rest⟩ =
      (ofAsides offset asides, ⟨offset + (asidesText asides).length, rest⟩) := by
  obtain ⟨budget, rfl⟩ := Nat.exists_eq_succ_of_ne_zero (Nat.ne_zero_of_lt hBudget)
  induction asides generalizing offset budget with
  | nil => exact read_over offset hRest budget
  | cons entry asides ih =>
      obtain ⟨aside, blanks⟩ := entry
      have hText : asidesText ((aside, blanks) :: asides) = aside.text ++ (blanks.text ++ asidesText asides) := by
        simp [asidesText]
      have hPos := List.length_pos_iff.mpr aside.text_ne_nil
      rw [hText, List.length_append, List.length_append] at hBudget
      have hBlanks := read_blanks (offset + aside.text.length) blanks
        (asides_takeWhile_isWhiteSpace hRest asides) budget
        (by rw [List.length_append]; omega)
        (fun budget hBudget => by
          obtain ⟨budget, rfl⟩ := Nat.exists_eq_succ_of_ne_zero (Nat.ne_zero_of_lt hBudget)
          exact ih _ _ (by rwa [List.length_append] at hBudget))
      rw [hText, List.append_assoc, List.append_assoc, aside.read offset _ hBlanks]
      simp [ofAsides, Nat.add_assoc]

theorem read (form : Misc) {rest : List Char} (hRest : Over rest) {budget : Nat}
    (hBudget : form.text.length + rest.length < budget) :
    Reader.misc budget ⟨offset, form.text ++ rest⟩ =
      (form.trees offset, ⟨offset + form.text.length, rest⟩) := by
  have hRead := read_blanks offset form.lead (asides_takeWhile_isWhiteSpace hRest form.asides) budget
    (by rw [text, List.length_append] at hBudget; rw [List.length_append]; omega)
    (fun budget hBudget => read_asides _ hRest form.asides (by rwa [List.length_append] at hBudget))
  rw [text, List.append_assoc, hRead, List.length_append, ← Nat.add_assoc]
  rfl

end Misc

/-- Covering attributes that all stand between the start of a span and another place keeps the span there. -/
theorem Attributes.foldl_cover (entries : Attributes) (offset stop : Nat) (span : Span)
    (hStart : span.startOffset ≤ offset) (hEnd : span.endOffset < stop)
    (hStop : offset + entries.text.length ≤ stop) :
    ((entries.trees offset).foldl (fun span attr => span.cover attr.span) span).startOffset = span.startOffset ∧
      ((entries.trees offset).foldl (fun span attr => span.cover attr.span) span).endOffset < stop := by
  induction entries generalizing offset span with
  | nil => exact ⟨rfl, hEnd⟩
  | cons entry entries ih =>
      obtain ⟨blanks, attr⟩ := entry
      have hPos : 0 < attr.text.length := by simp [Attribute.text, Name.text]
      simp only [Attributes.text, List.flatMap_cons, List.length_append] at hStop
      have hFirst : (span.cover (attr.tree (offset + blanks.text.length)).span).startOffset = span.startOffset := by
        simp only [Span.cover, Attribute.tree, extent]
        omega
      have hRest := ih (offset + blanks.text.length + attr.text.length)
        (span.cover (attr.tree (offset + blanks.text.length)).span)
        (by rw [hFirst]; omega) (by simp only [Span.cover, Attribute.tree, extent]; omega)
        (by simp only [Attributes.text]; omega)
      rw [hFirst] at hRest
      exact hRest

theorem Prolog.read (prolog : Prolog) (rest : List Char) :
    Reader.prolog ⟨0, prolog.text ++ rest⟩ = (prolog.tree, ⟨prolog.text.length, rest⟩) := by
  have hText : prolog.text ++ rest = ['<', '?', 'x', 'm', 'l'] ++ (prolog.attributes.text ++ (prolog.gap.text
      ++ '?' :: '>' :: rest)) := by
    simp [Prolog.text]
  have hLength : prolog.text.length = 5 + prolog.attributes.text.length + prolog.gap.text.length + 2 := by
    simp only [Prolog.text, List.length_append, List.length_cons, List.length_nil]
    omega
  have hOpening := Input.token_append 0 .declarationOpen ['<', '?', 'x', 'm', 'l']
    (prolog.attributes.text ++ (prolog.gap.text ++ '?' :: '>' :: rest))
  have hBudget : prolog.attributes.length <
      (prolog.attributes.text ++ (prolog.gap.text ++ '?' :: '>' :: rest)).length + 1 := by
    have hCount := Reader.length_le_length_text prolog.attributes
    rw [List.length_append]
    omega
  have hAttributes := Reader.attributes_append 5 Reader.atDeclarationEnd_of_isNameStart prolog.gap
    (show '?' :: '>' :: rest ≠ [] from List.cons_ne_nil _ _) rfl (List.takeWhile_cons_of_neg (by decide))
    prolog.attributes hBudget
  have hClose := Input.word?_append (5 + prolog.attributes.text.length + prolog.gap.text.length) .specialClose "?>"
    (show "?>".toList = ['?', '>'] from rfl) rest
  have hOpeningEnd : (extent 0 ['<', '?', 'x', 'm', 'l']).endOffset <
      5 + prolog.attributes.text.length + prolog.gap.text.length := by
    simp only [extent, List.length_cons, List.length_nil]
    omega
  obtain ⟨hStart, hEnd⟩ := prolog.attributes.foldl_cover 5 _ _ (Nat.zero_le _) hOpeningEnd (by omega)
  have hSpan : ((prolog.attributes.trees 5).foldl (fun span attr => span.cover attr.span)
      (extent 0 ['<', '?', 'x', 'm', 'l'])).cover
        (extent (5 + prolog.attributes.text.length + prolog.gap.text.length) ['?', '>']) =
          extent 0 prolog.text := by
    simp only [Span.cover, extent, List.length_cons, List.length_nil, hLength, Span.mk.injEq] at hStart hEnd ⊢
    omega
  rw [hText, hLength]
  simp only [List.length_cons, List.length_nil, Nat.zero_add, Nat.reduceAdd] at hOpening
  simp only [List.cons_append, List.nil_append, List.length_cons, List.length_nil, Nat.zero_add,
    Nat.reduceAdd] at hClose
  simp only [Reader.prolog, hOpening, hAttributes, hClose, Reader.coverTokens, List.foldl_cons, List.foldl_nil,
    lexeme_span, hSpan]
  rfl

namespace Document

variable (document : Document)

/-- Neither a comment nor an instruction nor a blank: the root element comes next. -/
theorem over_root : Misc.Over (document.root.text ++ document.after.text) := by
  obtain ⟨c, others, hText, hName⟩ := document.root.exists_text
  have hBang : c ≠ '!' := Lexeme.ne_of_isNameStart hName (by decide)
  have hQuestion : c ≠ '?' := Lexeme.ne_of_isNameStart hName (by decide)
  rw [hText]
  refine ⟨?_, ?_, List.takeWhile_cons_of_neg (by decide)⟩
  · simp [Lexeme.startsWith, List.isPrefixOf, hBang.symm]
  · simp [Lexeme.startsWith, List.isPrefixOf, hQuestion.symm]

theorem read_prolog : Reader.prolog? ⟨0, document.text⟩ = (document.prolog.map Prolog.tree,
    ⟨document.prologText.length, document.before.text ++ (document.root.text ++ document.after.text)⟩) := by
  cases hProlog : document.prolog with
  | none =>
      have hStarts : Lexeme.startsWith "<?xml"
          (document.before.text ++ (document.root.text ++ document.after.text)) = false := by
        rw [Lexeme.startsWith, Bool.eq_false_iff, ne_eq, List.isPrefixOf_iff_prefix]
        exact document.undeclared hProlog
      simp [Reader.prolog?, text, prologText, hProlog, Input.startsWith, hStarts]
  | some prolog =>
      have hStarts : (⟨0, prolog.text ++ (document.before.text ++ (document.root.text
          ++ document.after.text))⟩ : Input).startsWith "<?xml" = true := rfl
      simp [Reader.prolog?, text, prologText, hProlog, hStarts, prolog.read]

theorem read_root {budget : Nat} (hBudget : document.text.length < budget) :
    Reader.root? budget ⟨document.prologText.length + document.before.text.length,
        document.root.text ++ document.after.text⟩ =
      (some (document.root.tree (document.prologText.length + document.before.text.length)),
        ⟨document.prologText.length + document.before.text.length + document.root.text.length,
          document.after.text⟩) := by
  obtain ⟨c, others, hText, hName⟩ := document.root.exists_text
  have hSlash : c ≠ '/' := Lexeme.ne_of_isNameStart hName (by decide)
  have hWithin : (⟨document.prologText.length + document.before.text.length,
      document.root.text ++ document.after.text⟩ : Input).Within document.text := by
    constructor
    · simp [text]
    · simp [text]
  have hRead := (document.root.read (document.prologText.length + document.before.text.length)
    document.after.text).element_eq hWithin (by simp [hText]) (show _ ≤ budget by
      simp only [text, List.length_append] at hBudget ⊢
      omega)
  have hOpen : Lexeme.startsWith "<" (document.root.text ++ document.after.text) = true := by
    rw [hText]
    rfl
  have hNotEnd : Lexeme.startsWith "</" (document.root.text ++ document.after.text) = false := by
    simp [hText, Lexeme.startsWith, List.isPrefixOf, hSlash.symm]
  simp [Reader.root?, Input.startsWith, hOpen, hNotEnd, hRead]

/-- The text of a document is read to its end, and what is read is the tree of the document. -/
theorem read : Reader.document ⟨0, document.text⟩ = (document.tree, ⟨document.text.length, []⟩) := by
  have hBefore := document.before.read document.prologText.length document.over_root
    (show _ < document.text.length + 1 by simp only [text, List.length_append]; omega)
  have hRoot := document.read_root (Nat.lt_succ_self document.text.length)
  have hAfter := document.after.read
    (document.prologText.length + document.before.text.length + document.root.text.length)
    (⟨rfl, rfl, rfl⟩ : Misc.Over [])
    (show _ < document.text.length + 1 by simp only [text, List.length_append, List.length_nil]; omega)
  have hLength : document.text.length = document.prologText.length + document.before.text.length
      + document.root.text.length + document.after.text.length := by
    simp only [text, List.length_append]
    omega
  have hSpan : extent 0 document.text = ⟨0, document.text.length - 1⟩ := by
    simp only [extent, Span.mk.injEq, true_and]
    omega
  rw [List.append_nil, ← hLength] at hAfter
  simp only [Reader.document, read_prolog, hBefore, hRoot, hAfter, tree, hSpan]

/-- The text of every document is accepted: it gives a snapshot with the tree of the document, and no character
of it is left unread. -/
theorem accepted : ∃ snapshot, Snapshot.ofText (String.ofList document.text) = .ok snapshot ∧
    snapshot.tree = document.tree ∧
    (Reader.document ⟨0, document.text⟩).2 = ⟨document.text.length, []⟩ := by
  refine ⟨_, Snapshot.ofText_eq _, ?_, ?_⟩
  · simp only [Tree.read, String.toList_ofList, document.read]
  · rw [document.read]

end Document

end Grammar

end ContentAssist.Markup
