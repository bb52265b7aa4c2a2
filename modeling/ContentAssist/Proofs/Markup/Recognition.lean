import ContentAssist.Proofs.Markup.Grammar
import Mathlib.Data.List.TakeWhile
import Mathlib.Data.List.Infix

/-! Each lexeme of the grammar is recognised where it is written, and no further than it goes. A name or a run of
blanks goes on as long as the characters fit, so what follows must not start with such a character; the others
end with a character of their own. -/
namespace ContentAssist

namespace Unicode

theorem Ranges.exists_of_contains {ranges : Ranges} {code : Nat} (h : ranges.contains code = true) :
    ∃ range ∈ ranges, range.1 ≤ code ∧ code ≤ range.2 := by
  induction ranges with
  | nil => cases h
  | cons range rest ih =>
      obtain ⟨low, high⟩ := range
      simp only [Ranges.contains, Bool.and_eq_true, Bool.or_eq_true, decide_eq_true_eq] at h
      obtain ⟨hLow, hHigh | hRest⟩ := h
      · exact ⟨(low, high), List.mem_cons_self .., hLow, hHigh⟩
      · obtain ⟨found, hFound, hBounds⟩ := ih hRest
        exact ⟨found, List.mem_cons_of_mem _ hFound, hBounds⟩

/-- No range of the one set meets a range of the other. -/
def Ranges.apart (ranges others : Ranges) : Bool :=
  ranges.all fun range => others.all fun other => range.2 < other.1 || other.2 < range.1

theorem Ranges.not_contains_of_apart {ranges others : Ranges} {code : Nat} (hApart : ranges.apart others = true)
    (h : ranges.contains code = true) : others.contains code = false := by
  rw [Bool.eq_false_iff]
  intro hOther
  obtain ⟨range, hRange, hLow, hHigh⟩ := exists_of_contains h
  obtain ⟨other, hMem, hFrom, hTo⟩ := exists_of_contains hOther
  have hDisjoint := List.all_eq_true.mp (List.all_eq_true.mp hApart range hRange) other hMem
  simp only [Bool.or_eq_true, decide_eq_true_eq] at hDisjoint
  omega

/-- No blank is a letter or a number. -/
theorem not_isAlphanumeric_of_isWhiteSpace {c : Char} (h : isWhiteSpace c = true) :
    Markup.Lexeme.isAlphanumeric c = false := by
  have hAlphabetic : whiteSpace.apart alphabetic = true := by decide +kernel
  have hNumeric : whiteSpace.apart numeric = true := by decide +kernel
  rw [Markup.Lexeme.isAlphanumeric, Bool.or_eq_false_iff]
  exact ⟨Ranges.not_contains_of_apart hAlphabetic h, Ranges.not_contains_of_apart hNumeric h⟩

end Unicode

namespace Markup

open Unicode (isWhiteSpace)

namespace Lexeme

theorem not_isNameChar_of_isWhiteSpace {c : Char} (h : isWhiteSpace c = true) : isNameChar c = false := by
  have hMarks : ['_', ':', '-', '.'].all (fun mark => !isWhiteSpace mark) = true := by decide
  have hNe : ∀ mark ∈ ['_', ':', '-', '.'], c ≠ mark := by
    rintro mark hMark rfl
    exact absurd (List.all_eq_true.mp hMarks c hMark) (by simp [h])
  simp only [List.mem_cons, List.not_mem_nil, or_false, forall_eq_or_imp, forall_eq] at hNe
  simp [isNameChar, Unicode.not_isAlphanumeric_of_isWhiteSpace h, hNe]

theorem not_isWhiteSpace_of_isNameStart {c : Char} (h : isNameStart c = true) : isWhiteSpace c = false := by
  rw [Bool.eq_false_iff]
  intro hBlank
  exact absurd (isNameChar_of_isNameStart h) (by simp [not_isNameChar_of_isWhiteSpace hBlank])

/-- The characters with a meaning of their own do not start a name. -/
theorem ne_of_isNameStart {c mark : Char} (h : isNameStart c = true)
    (hMark : mark ∈ ['<', '>', '/', '?', '!', '=', '&']) : c ≠ mark := by
  have hMarks : ['<', '>', '/', '?', '!', '=', '&'].all (fun mark => !isNameStart mark) = true := by decide
  rintro rfl
  exact absurd (List.all_eq_true.mp hMarks c hMark) (by simp [h])

theorem takeWhile_append_of_all {p : Char → Bool} {text rest : List Char} (hAll : ∀ c ∈ text, p c = true)
    (hRest : rest.takeWhile p = []) : (text ++ rest).takeWhile p = text := by
  rw [List.takeWhile_append_of_pos hAll, hRest, List.append_nil]

theorem startsWith_append (word : String) (rest : List Char) : startsWith word (word.toList ++ rest) = true := by
  rw [startsWith, List.isPrefixOf_iff_prefix]
  exact List.prefix_append _ _

theorem startsWith_eq_false {word : String} {first c : Char} {text : List Char}
    (hWord : word.toList.head? = some first) (hNe : c ≠ first) : startsWith word (c :: text) = false := by
  rw [startsWith, Bool.eq_false_iff, ne_eq, List.isPrefixOf_iff_prefix]
  obtain ⟨others, hChars⟩ := List.head?_eq_some_iff.mp hWord
  rw [hChars, List.cons_prefix_cons]
  exact fun hStarts => hNe hStarts.1.symm

theorem referenceLength?_eq_none {c : Char} (hNe : c ≠ '&') (text : List Char) :
    referenceLength? (c :: text) = none := by
  unfold referenceLength?
  split <;> simp_all

theorem closingQuote?_append {quote : Char} {body : List Char} (hBody : ∀ c ∈ body, c ≠ quote ∧ c ≠ '<')
    (rest : List Char) : closingQuote? quote (body ++ quote :: rest) = some (body.length + 1) := by
  induction body with
  | nil => simp [closingQuote?]
  | cons c body ih =>
      obtain ⟨hQuote, hAngle⟩ := hBody c (List.mem_cons_self ..)
      have hLater := ih fun d hd => hBody d (List.mem_cons_of_mem _ hd)
      simp [closingQuote?, hQuote, hAngle, hLater]

theorem referenceBody?_append {letters : List Char} (hNonempty : letters ≠ [])
    (hLetters : ∀ c ∈ letters, isAlphanumeric c = true) (rest : List Char) :
    referenceBody? (letters ++ ';' :: rest) = some (letters.length + 1) := by
  have hStop : (';' :: rest).takeWhile isAlphanumeric = [] := List.takeWhile_cons_of_neg (by decide)
  have hPos := List.length_pos_iff.mpr hNonempty
  simp [referenceBody?, takeWhile_append_of_all hLetters hStop, hPos]

theorem referenceLength?_append (reference : Grammar.Reference) (rest : List Char) :
    referenceLength? (reference.text ++ rest) = some (reference.isCharacter, reference.text.length) := by
  have hBody := referenceBody?_append reference.nonempty reference.alphanumeric rest
  cases hKind : reference.isCharacter with
  | true => simp [Grammar.Reference.text, hKind, referenceLength?, hBody]
  | false =>
      -- A letter or number comes behind `&`, and `#` is neither.
      obtain ⟨letter, letters, hLetters⟩ := List.exists_cons_of_ne_nil reference.nonempty
      have hLetter : letter ≠ '#' := by
        rintro rfl
        have hAlphanumeric := reference.alphanumeric '#' (by simp [hLetters])
        exact absurd hAlphanumeric (by decide)
      have hRest : referenceLength? ('&' :: letter :: (letters ++ ';' :: rest)) =
          (referenceBody? (letter :: (letters ++ ';' :: rest))).map fun n => (false, n + 1) := by
        rw [referenceLength?]
        simpa using hLetter
      rw [hLetters] at hBody
      simp only [List.cons_append] at hBody
      simp [Grammar.Reference.text, hKind, hLetters, hRest, hBody]

/-- A word whose last character occurs in it only once does not overlap itself: behind a text without the word, it
is not found before it is written. -/
theorem not_prefix_append {core : List Char} {last : Char} (hLast : last ∉ core) {body : List Char}
    (hNonempty : body ≠ []) (hBody : ¬ core ++ [last] <:+: body) (rest : List Char) :
    ¬ core ++ [last] <+: body ++ (core ++ [last] ++ rest) := by
  rintro ⟨after, hEq⟩
  rcases List.append_eq_append_iff.mp hEq with ⟨inside, hInside, _⟩ | ⟨shared, hSplit, hFollows⟩
  · exact hBody ⟨[], inside, hInside.symm⟩
  · -- The end of the word would be a start of it as well, and shorter than the word.
    have hSharedNe : shared ≠ [] := by
      rintro rfl
      rw [List.append_nil] at hSplit
      exact hBody (hSplit ▸ List.infix_refl _)
    have hSharedLast : shared.getLast? = some last := by
      have hEnds := congrArg List.getLast? hSplit
      rw [List.getLast?_append_of_ne_nil _ hSharedNe, List.getLast?_concat] at hEnds
      exact hEnds.symm
    have hShort : shared.length ≤ core.length := by
      have hLength := congrArg List.length hSplit
      have hPos := List.length_pos_iff.mpr hNonempty
      simp only [List.length_append, List.length_cons, List.length_nil] at hLength
      omega
    have hSharedPrefix : shared <+: core ++ [last] ++ rest := ⟨after, hFollows.symm⟩
    have hCorePrefix : core <+: core ++ [last] ++ rest := ⟨last :: rest, by simp⟩
    have hInCore := List.prefix_of_prefix_length_le hSharedPrefix hCorePrefix hShort
    exact hLast (hInCore.subset (List.mem_of_getLast? hSharedLast))

/-- The terminator is found where it is written if it does not occur before. -/
theorem throughTerminator_append {terminator : String} {core : List Char} {last : Char}
    (hTerminator : terminator.toList = core ++ [last]) (hLast : last ∉ core) {body : List Char}
    (hBody : ¬ core ++ [last] <:+: body) (rest : List Char) :
    throughTerminator terminator (body ++ (core ++ [last] ++ rest)) = body.length + terminator.length := by
  induction body with
  | nil =>
      have hStarts := startsWith_append terminator rest
      rw [hTerminator] at hStarts
      obtain ⟨c, others, hChars⟩ := List.exists_cons_of_ne_nil (show core ++ [last] ++ rest ≠ [] by simp)
      rw [List.nil_append, hChars, throughTerminator, ← hChars, hStarts]
      simp
  | cons c body ih =>
      have hStarts : startsWith terminator (c :: (body ++ (core ++ [last] ++ rest))) = false := by
        rw [startsWith, hTerminator, Bool.eq_false_iff, ne_eq, List.isPrefixOf_iff_prefix]
        exact not_prefix_append hLast (List.cons_ne_nil c body) hBody rest
      have hLater := ih fun hInfix => hBody (hInfix.trans (List.suffix_cons c body).isInfix)
      rw [List.cons_append, throughTerminator, hStarts, hLater]
      simp only [Bool.false_eq_true, if_false, List.length_cons]
      omega

theorem delimitedLength_append (terminator : String) (core : List Char) (last : Char)
    (hTerminator : terminator.toList = core ++ [last]) (hLast : last ∉ core) {body : List Char}
    (hBody : ¬ core ++ [last] <:+: body) (first second : Char) (rest : List Char) :
    delimitedLength terminator (first :: second :: (body ++ (core ++ [last] ++ rest))) =
      (first :: second :: (body ++ (core ++ [last]))).length := by
  rw [delimitedLength, List.drop_succ_cons, List.drop_succ_cons, List.drop_zero,
    throughTerminator_append hTerminator hLast hBody, ← hTerminator]
  simp only [List.length_cons, List.length_append, String.length_toList]

/-- A word that starts with another character is not found any earlier. -/
theorem not_infix_append {first : Char} {word before body : List Char} (hBefore : first ∉ before)
    (hBody : ¬ first :: word <:+: body) : ¬ first :: word <:+: before ++ body := by
  induction before with
  | nil => exact hBody
  | cons c before ih =>
      rw [List.cons_append, List.infix_cons_iff, List.cons_prefix_cons]
      rintro (⟨rfl, _⟩ | hLater)
      · exact hBefore (List.mem_cons_self ..)
      · exact ih (fun hMem => hBefore (List.mem_cons_of_mem _ hMem)) hLater

theorem delimitedLength_instruction (part : Grammar.Instruction) (rest : List Char) :
    delimitedLength "?>" (part.text ++ rest) = part.text.length := by
  have hLength := delimitedLength_append "?>" ['?'] '>' rfl (by decide) part.unclosed '<' '?' rest
  simpa [Grammar.Instruction.text] using hLength

theorem delimitedLength_section (part : Grammar.Section) (rest : List Char) :
    delimitedLength "]]>" (part.text ++ rest) = part.text.length := by
  have hBody : ¬ [']', ']', '>'] <:+: ['[', 'C', 'D', 'A', 'T', 'A', '['] ++ part.body :=
    not_infix_append (by decide) part.unclosed
  have hLength := delimitedLength_append "]]>" [']', ']'] '>' rfl (by decide) hBody '<' '!' rest
  simpa [Grammar.Section.text] using hLength

theorem delimitedLength_comment (part : Grammar.Comment) (rest : List Char) :
    delimitedLength "-->" (part.text ++ rest) = part.text.length := by
  have hBody : ¬ ['-', '-', '>'] <:+: '-' :: '-' :: part.body := by
    rw [List.infix_cons_iff, List.infix_cons_iff, List.cons_prefix_cons, List.cons_prefix_cons,
      List.cons_prefix_cons]
    rintro (⟨_, _, hAngle⟩ | ⟨_, hDashAngle⟩ | hInside)
    · exact part.notAngle hAngle
    · exact part.notDashAngle hDashAngle
    · exact part.unclosed hInside
  have hLength := delimitedLength_append "-->" ['-', '-'] '>' rfl (by decide) hBody '<' '!' rest
  simpa [Grammar.Comment.text] using hLength

/-- Text goes on over all its characters, and then as far as what follows is text. -/
theorem plainLength_append {text : List Char} (hPlain : ∀ c ∈ text, c ≠ '<' ∧ c ≠ '&') (rest : List Char) :
    plainLength (text ++ rest) = text.length + plainLength rest := by
  induction text with
  | nil => simp
  | cons c text ih =>
      obtain ⟨hAngle, hAmpersand⟩ := hPlain c (List.mem_cons_self ..)
      have hLater := ih fun d hd => hPlain d (List.mem_cons_of_mem _ hd)
      rw [List.cons_append, plainLength, referenceLength?_eq_none hAmpersand, hLater, if_neg (by simp [hAngle]),
        List.length_cons]
      omega

theorem textLength_append (run : Grammar.Chardata) {rest : List Char} (hRest : plainLength rest = 0) :
    textLength (run.text ++ rest) = run.text.length := by
  obtain ⟨c, others, hText⟩ := List.exists_cons_of_ne_nil run.nonempty
  have hPlain : ∀ d ∈ others, d ≠ '<' ∧ d ≠ '&' := fun d hd => run.plain d (by simp [hText, hd])
  rw [hText, List.cons_append, textLength, List.drop_succ_cons, List.drop_zero, plainLength_append hPlain, hRest]
  rfl

theorem nameLength?_append (name : Grammar.Name) {rest : List Char} (hRest : rest.takeWhile isNameChar = []) :
    nameLength? (name.text ++ rest) = some name.text.length := by
  have hAll : ∀ c ∈ name.text, isNameChar c = true := by
    rw [Grammar.Name.text, List.forall_mem_cons]
    exact ⟨isNameChar_of_isNameStart name.starts, name.continues⟩
  have hTake := takeWhile_append_of_all hAll hRest
  simp only [Grammar.Name.text, List.cons_append] at hTake ⊢
  simp [nameLength?, name.starts, hTake]

theorem quotedLength?_append (quoted : Grammar.Quoted) (rest : List Char) :
    quotedLength? (quoted.text ++ rest) = some quoted.text.length := by
  have hQuote : (quoted.quote = '"' || quoted.quote = '\'') = true := by
    simpa using quoted.isQuote
  simp only [Grammar.Quoted.text, List.cons_append, List.append_assoc, List.nil_append]
  simp [quotedLength?, hQuote, closingQuote?_append quoted.closed rest]

end Lexeme

namespace Input

variable {rest : List Char} (offset : Nat)

theorem token_append (kind : TokenKind) (text rest : List Char) :
    token kind text.length ⟨offset, text ++ rest⟩ =
      (Grammar.lexeme kind text offset, ⟨offset + text.length, rest⟩) := by
  simp [token, skip, Grammar.lexeme]

theorem skipBlanks_append (blanks : Grammar.Blanks) (hRest : rest.takeWhile isWhiteSpace = []) :
    skipBlanks ⟨offset, blanks.text ++ rest⟩ = ⟨offset + blanks.text.length, rest⟩ := by
  simp [skipBlanks, skip, Lexeme.blankLength, Lexeme.takeWhile_append_of_all blanks.blank hRest]

theorem skipBlanks_eq_self (hRest : rest.takeWhile isWhiteSpace = []) :
    skipBlanks ⟨offset, rest⟩ = ⟨offset, rest⟩ := by
  simp [skipBlanks, skip, Lexeme.blankLength, hRest]

theorem word?_append (kind : TokenKind) (word : String) {text : List Char} (hWord : word.toList = text)
    (rest : List Char) :
    word? kind word ⟨offset, text ++ rest⟩ =
      (some (Grammar.lexeme kind text offset), ⟨offset + text.length, rest⟩) := by
  subst hWord
  have hStarts : (⟨offset, word.toList ++ rest⟩ : Input).startsWith word = true :=
    Lexeme.startsWith_append word rest
  rw [word?, hStarts, ← String.length_toList, token_append]
  rfl

theorem name?_append (name : Grammar.Name) (hRest : rest.takeWhile Lexeme.isNameChar = []) :
    name? ⟨offset, name.text ++ rest⟩ =
      (some (Grammar.lexeme .name name.text offset), ⟨offset + name.text.length, rest⟩) := by
  simp only [name?, Lexeme.nameLength?_append name hRest, token_append]

end Input

theorem Reader.value?_append (quoted : Grammar.Quoted) (offset : Nat) (rest : List Char) :
    value? ⟨offset, quoted.text ++ rest⟩ =
      (some (Grammar.lexeme .string quoted.text offset), ⟨offset + quoted.text.length, rest⟩) := by
  simp only [value?, Lexeme.quotedLength?_append quoted rest, Input.token_append]

namespace Grammar

theorem lexeme_span (kind : TokenKind) (text : List Char) (offset : Nat) :
    (lexeme kind text offset).span = extent offset text := by
  simp [lexeme, Token.ofImage, extent]

theorem Blanks.takeWhile_isNameChar (blanks : Blanks) {rest : List Char}
    (hRest : rest.takeWhile Lexeme.isNameChar = []) :
    (blanks.text ++ rest).takeWhile Lexeme.isNameChar = [] := by
  obtain ⟨text, hBlank⟩ := blanks
  cases text with
  | nil => exact hRest
  | cons c text =>
      have hFirst := Lexeme.not_isNameChar_of_isWhiteSpace (hBlank c (List.mem_cons_self ..))
      exact List.takeWhile_cons_of_neg (by simp [hFirst])

theorem Quoted.takeWhile_isWhiteSpace (quoted : Quoted) (rest : List Char) :
    (quoted.text ++ rest).takeWhile isWhiteSpace = [] := by
  have hFirst : isWhiteSpace quoted.quote = false := by
    rcases quoted.isQuote with hQuote | hQuote <;> rw [hQuote] <;> decide
  exact List.takeWhile_cons_of_neg (by simp [hFirst])

theorem Name.takeWhile_isWhiteSpace (name : Name) (rest : List Char) :
    (name.text ++ rest).takeWhile isWhiteSpace = [] :=
  List.takeWhile_cons_of_neg (by simp [Lexeme.not_isWhiteSpace_of_isNameStart name.starts])

end Grammar

namespace Reader

variable {rest : List Char} (offset : Nat)

/-- An attribute ends with its closing quote, so anything may follow it. -/
theorem singleAttribute_append (attr : Grammar.Attribute) (rest : List Char) :
    singleAttribute ⟨offset, attr.text ++ rest⟩ = (attr.tree offset, ⟨offset + attr.text.length, rest⟩) := by
  have hText : attr.text ++ rest = attr.name.text ++ (attr.beforeEquals.text
      ++ (['='] ++ (attr.afterEquals.text ++ (attr.value.text ++ rest)))) := by
    simp [Grammar.Attribute.text]
  have hName : (attr.beforeEquals.text ++ (['='] ++ (attr.afterEquals.text
      ++ (attr.value.text ++ rest)))).takeWhile Lexeme.isNameChar = [] :=
    attr.beforeEquals.takeWhile_isNameChar (List.takeWhile_cons_of_neg (by decide))
  have hEquals : (['='] ++ (attr.afterEquals.text ++ (attr.value.text ++ rest))).takeWhile isWhiteSpace = [] :=
    List.takeWhile_cons_of_neg (by decide)
  have hSpan : coverTokens ⟨offset, offset⟩ [(attr.tree offset).name, (attr.tree offset).equals,
      (attr.tree offset).string] = Grammar.extent offset attr.text := by
    simp only [coverTokens, Grammar.Attribute.tree, List.foldl_cons, List.foldl_nil, Grammar.lexeme_span,
      Grammar.extent, Span.cover, Grammar.Attribute.text, Grammar.Name.text, Grammar.Quoted.text,
      List.length_append, List.length_cons, List.length_nil, Span.mk.injEq]
    omega
  have hTree : attr.tree offset = ⟨(attr.tree offset).name, (attr.tree offset).equals, (attr.tree offset).string,
      coverTokens ⟨offset, offset⟩ [(attr.tree offset).name, (attr.tree offset).equals,
        (attr.tree offset).string]⟩ := by
    rw [hSpan]
    rfl
  have hLength : attr.text.length = attr.name.text.length + attr.beforeEquals.text.length + 1
      + attr.afterEquals.text.length + attr.value.text.length := by
    simp only [Grammar.Attribute.text, List.length_append, List.length_cons]
    omega
  rw [hText]
  simp only [singleAttribute, Input.name?_append _ _ hName, Input.skipBlanks_append _ _ hEquals,
    Input.word?_append _ .equals "=" (show "=".toList = ['='] from rfl),
    Input.skipBlanks_append _ _ (attr.value.takeWhile_isWhiteSpace rest), value?_append]
  rw [hTree, hLength]
  simp only [Grammar.Attribute.tree, List.length_cons, List.length_nil, Nat.add_assoc, Nat.zero_add]

theorem attributes_stop {atEnd : List Char → Bool} {input : Input} {budget : Nat}
    (hSkip : input.skipBlanks = ⟨offset, rest⟩) (hRest : rest ≠ []) (hEnd : atEnd rest = true) :
    attributes atEnd (budget + 1) input = ([], ⟨offset, rest⟩) := by
  obtain ⟨c, others, rfl⟩ := List.exists_cons_of_ne_nil hRest
  simp [attributes, hSkip, hEnd]

theorem attributes_step {atEnd : List Char → Bool}
    (hNames : ∀ c text, Lexeme.isNameStart c = true → atEnd (c :: text) = false) (blanks : Grammar.Blanks)
    (attr : Grammar.Attribute) (later : List Char) {budget : Nat} {others : List Attribute} {last : Input}
    (hOthers : attributes atEnd budget ⟨offset + blanks.text.length + attr.text.length, later⟩ = (others, last)) :
    attributes atEnd (budget + 1) ⟨offset, blanks.text ++ (attr.text ++ later)⟩ =
      (attr.tree (offset + blanks.text.length) :: others, last) := by
  have hFirst := singleAttribute_append (offset + blanks.text.length) attr later
  have hText : attr.text ++ later = attr.name.first :: (attr.name.others ++ (attr.beforeEquals.text
      ++ '=' :: (attr.afterEquals.text ++ (attr.value.text ++ later)))) := by
    simp [Grammar.Attribute.text, Grammar.Name.text]
  rw [hText] at hFirst ⊢
  have hBlank := Lexeme.not_isWhiteSpace_of_isNameStart attr.name.starts
  have hSkip := Input.skipBlanks_append offset blanks
    (List.takeWhile_cons_of_neg (by simp [hBlank]) : (attr.name.first :: (attr.name.others
      ++ (attr.beforeEquals.text ++ '=' :: (attr.afterEquals.text ++ (attr.value.text ++ later))))).takeWhile
        isWhiteSpace = [])
  simp [attributes, hSkip, hNames _ _ attr.name.starts, attr.name.starts, hFirst, hOthers]

/-- All attributes are read, and the blanks behind them, up to the end of the tag. -/
theorem attributes_append {atEnd : List Char → Bool}
    (hNames : ∀ c text, Lexeme.isNameStart c = true → atEnd (c :: text) = false) (gap : Grammar.Blanks)
    (hRest : rest ≠ []) (hEnd : atEnd rest = true) (hBlank : rest.takeWhile isWhiteSpace = [])
    (entries : Grammar.Attributes) {budget : Nat} (hBudget : entries.length < budget) :
    attributes atEnd budget ⟨offset, entries.text ++ (gap.text ++ rest)⟩ =
      (entries.trees offset, ⟨offset + entries.text.length + gap.text.length, rest⟩) := by
  induction entries generalizing offset budget with
  | nil =>
      obtain ⟨budget, rfl⟩ := Nat.exists_eq_succ_of_ne_zero (Nat.ne_zero_of_lt hBudget)
      exact attributes_stop _ (Input.skipBlanks_append offset gap hBlank) hRest hEnd
  | cons entry entries ih =>
      obtain ⟨blanks, attr⟩ := entry
      obtain ⟨budget, rfl⟩ := Nat.exists_eq_succ_of_ne_zero (Nat.ne_zero_of_lt hBudget)
      have hOthers := ih (offset + blanks.text.length + attr.text.length) (Nat.lt_of_succ_lt_succ hBudget)
      have hStep := attributes_step offset hNames blanks attr _ hOthers
      simp only [Grammar.Attributes.text, Grammar.Attributes.trees, List.flatMap_cons, List.append_assoc,
        List.length_append, Nat.add_assoc] at hStep ⊢
      exact hStep

theorem length_le_length_text (entries : Grammar.Attributes) : entries.length ≤ entries.text.length := by
  induction entries with
  | nil => exact Nat.zero_le _
  | cons entry entries ih =>
      simp only [Grammar.Attributes.text, List.flatMap_cons, List.length_append, List.length_cons,
        Grammar.Attribute.text, Grammar.Name.text] at ih ⊢
      omega

theorem atTagEnd_of_isNameStart (c : Char) (text : List Char) (h : Lexeme.isNameStart c = true) :
    atTagEnd (c :: text) = false := by
  have hOpen : c ≠ '<' := Lexeme.ne_of_isNameStart h (by decide)
  have hSlash : c ≠ '/' := Lexeme.ne_of_isNameStart h (by decide)
  have hClose : c ≠ '>' := Lexeme.ne_of_isNameStart h (by decide)
  simp [atTagEnd, Lexeme.startsWith, List.isPrefixOf, hOpen.symm, hSlash.symm, hClose.symm]

theorem atDeclarationEnd_of_isNameStart (c : Char) (text : List Char) (h : Lexeme.isNameStart c = true) :
    atDeclarationEnd (c :: text) = false := by
  have hOpen : c ≠ '<' := Lexeme.ne_of_isNameStart h (by decide)
  have hQuestion : c ≠ '?' := Lexeme.ne_of_isNameStart h (by decide)
  simp [atDeclarationEnd, Lexeme.startsWith, List.isPrefixOf, hOpen.symm, hQuestion.symm]

/-- Behind the name of a tag comes a blank or the end of the tag. -/
theorem takeWhile_isNameChar_of_spaced {entries : Grammar.Attributes}
    (hSpaced : ∀ entry ∈ entries, entry.1.text ≠ []) (hRest : rest.takeWhile Lexeme.isNameChar = []) :
    (entries.text ++ rest).takeWhile Lexeme.isNameChar = [] := by
  cases entries with
  | nil => exact hRest
  | cons entry entries =>
      obtain ⟨c, others, hText⟩ := List.exists_cons_of_ne_nil (hSpaced entry (List.mem_cons_self ..))
      have hBlank : isWhiteSpace c = true := entry.1.blank c (by simp [hText])
      simp [Grammar.Attributes.text, hText, Lexeme.not_isNameChar_of_isWhiteSpace hBlank]

/-- A tag is read up to the `>` or `/>` that ends it. -/
theorem startTag_append (tag : Grammar.Tag) (hRest : rest ≠ []) (hEnd : atTagEnd rest = true)
    (hName : rest.takeWhile Lexeme.isNameChar = []) (hBlank : rest.takeWhile isWhiteSpace = [])
    {slashClose startClose : Option Token} {afterSlash next : Input}
    (hSlash : Input.word? .slashClose "/>" ⟨offset + tag.text.length, rest⟩ = (slashClose, afterSlash))
    (hClose : afterSlash.word? .startClose ">" = (startClose, next)) :
    startTag ⟨offset, tag.text ++ rest⟩ =
      (⟨Grammar.lexeme .openAngle ['<'] offset, some (Grammar.lexeme .name tag.name.text (offset + 1)),
        tag.attributes.trees (offset + 1 + tag.name.text.length),
        if slashClose.isSome then none else startClose, slashClose⟩,
        if slashClose.isSome then afterSlash else next) := by
  have hText : tag.text ++ rest = ['<'] ++ (tag.name.text ++ (tag.attributes.text ++ (tag.gap.text ++ rest))) := by
    simp [Grammar.Tag.text]
  have hOpening := Input.token_append offset .openAngle ['<']
    (tag.name.text ++ (tag.attributes.text ++ (tag.gap.text ++ rest)))
  have hNamed := Input.name?_append (offset + 1) tag.name
    (takeWhile_isNameChar_of_spaced tag.spaced (tag.gap.takeWhile_isNameChar hName))
  have hBudget : tag.attributes.length < (tag.attributes.text ++ (tag.gap.text ++ rest)).length + 1 := by
    have hLength := length_le_length_text tag.attributes
    simp only [List.length_append]
    omega
  have hAttributes := attributes_append (offset + 1 + tag.name.text.length) atTagEnd_of_isNameStart tag.gap hRest
    hEnd hBlank tag.attributes hBudget
  have hPlace : offset + 1 + tag.name.text.length + tag.attributes.text.length + tag.gap.text.length =
      offset + tag.text.length := by
    simp only [Grammar.Tag.text, List.length_cons, List.length_append]
    omega
  rw [hPlace] at hAttributes
  rw [hText]
  simp only [List.length_cons, List.length_nil, Nat.zero_add] at hOpening
  simp only [startTag, hOpening, hNamed, hAttributes, hSlash, hClose]
  cases slashClose <;> rfl

theorem startTag_empty (tag : Grammar.Tag) (rest : List Char) :
    startTag ⟨offset, tag.text ++ ('/' :: '>' :: rest)⟩ =
      (⟨Grammar.lexeme .openAngle ['<'] offset, some (Grammar.lexeme .name tag.name.text (offset + 1)),
        tag.attributes.trees (offset + 1 + tag.name.text.length), none,
        some (Grammar.lexeme .slashClose ['/', '>'] (offset + tag.text.length))⟩,
        ⟨offset + tag.text.length + 2, rest⟩) :=
  startTag_append offset tag (List.cons_ne_nil _ _) rfl (List.takeWhile_cons_of_neg (by decide))
    (List.takeWhile_cons_of_neg (by decide))
    (Input.word?_append (offset + tag.text.length) .slashClose "/>" rfl rest) rfl

theorem startTag_full (tag : Grammar.Tag) (rest : List Char) :
    startTag ⟨offset, tag.text ++ ('>' :: rest)⟩ =
      (⟨Grammar.lexeme .openAngle ['<'] offset, some (Grammar.lexeme .name tag.name.text (offset + 1)),
        tag.attributes.trees (offset + 1 + tag.name.text.length),
        some (Grammar.lexeme .startClose ['>'] (offset + tag.text.length)), none⟩,
        ⟨offset + tag.text.length + 1, rest⟩) :=
  startTag_append offset tag (List.cons_ne_nil _ _) rfl (List.takeWhile_cons_of_neg (by decide))
    (List.takeWhile_cons_of_neg (by decide)) rfl
    (Input.word?_append (offset + tag.text.length) .startClose ">" rfl rest)

theorem endTag_append (name : Grammar.Name) (gap : Grammar.Blanks) (rest : List Char) :
    endTag ⟨offset, '<' :: '/' :: (name.text ++ (gap.text ++ ('>' :: rest)))⟩ =
      (⟨some (Grammar.lexeme .slashOpen ['<', '/'] offset), some (Grammar.lexeme .name name.text (offset + 2)),
        some (Grammar.lexeme .close ['>'] (offset + 2 + name.text.length + gap.text.length))⟩,
        ⟨offset + 2 + name.text.length + gap.text.length + 1, rest⟩) := by
  have hOpening := Input.word?_append offset .slashOpen "</" (show "</".toList = ['<', '/'] from rfl)
    (name.text ++ (gap.text ++ ('>' :: rest)))
  have hSkip := Input.skipBlanks_eq_self (offset + 2)
    (name.takeWhile_isWhiteSpace (gap.text ++ ('>' :: rest)))
  have hNamed := Input.name?_append (offset + 2) name
    (gap.takeWhile_isNameChar (List.takeWhile_cons_of_neg (by decide) :
      ('>' :: rest).takeWhile Lexeme.isNameChar = []))
  have hGap := Input.skipBlanks_append (offset + 2 + name.text.length) gap
    (List.takeWhile_cons_of_neg (by decide) : ('>' :: rest).takeWhile isWhiteSpace = [])
  have hClose := Input.word?_append (offset + 2 + name.text.length + gap.text.length) .close ">"
    (show ">".toList = ['>'] from rfl) rest
  simp only [List.cons_append, List.nil_append, List.length_cons, List.length_nil, Nat.zero_add,
    Nat.reduceAdd] at hOpening hClose
  simp only [endTag, hOpening, hSkip, hNamed, hGap, hClose]

end Reader

end Markup

end ContentAssist
