import ContentAssist.Proofs.Markup.Trail
import ContentAssist.Proofs.Snapshot.Machine

/-! The steps of the machine that do not change the document. None of them faults where the reader comes to it: each
ends where the reader ends, has what the reader has, and its loops take no more rounds than there are characters. -/
namespace ContentAssist.Machine

open Markup (Input Token TokenKind)
open Markup.Reader (StartTag EndTag AttributesRead)

variable {source : List Char} {input next : Input}

section Places

theorem position_reads : Reads source position input input.offset input :=
  fun _ => position_runs _

theorem rest_reads (h : input.Within source) : Reads source rest input input.rest input := by
  intro document
  rw [h.rest]
  rfl

theorem atEnd_reads (h : input.Within source) : Reads source atEnd input input.rest.isEmpty input := by
  have hLength := h.length
  have hEmpty : input.rest.isEmpty = decide (source.length ≤ input.offset) := by
    rw [Bool.eq_iff_iff, List.isEmpty_iff_length_eq_zero, decide_eq_true_iff]
    omega
  rw [hEmpty]
  exact fun _ => rfl

theorem starts_reads (h : input.Within source) (word : String) :
    Reads source (starts word) input (input.startsWith word) input :=
  (rest_reads h).bind (Reads.pure _ _)

theorem startsName_reads (h : input.Within source) :
    Reads source startsName input (input.rest.head?.any Markup.Lexeme.isNameStart) input :=
  (rest_reads h).bind (Reads.pure _ _)

theorem advance_reads (h : input.Within source) {count : Nat} (hCount : count ≤ input.rest.length) :
    Reads source (advance count) input () (input.skip count) := by
  intro document
  have hLength := h.length
  have hInside : input.offset + count ≤ source.length := by omega
  refine (position_reads document).bind ((read_runs _).bind ?_)
  rw [if_pos hInside]
  rfl

/-- The text from a place up to another that is not before it. -/
theorem slice_reads (h : input.Within source) {count : Nat} (hCount : count ≤ input.rest.length) :
    Reads source (slice input.offset) (input.skip count) (String.ofList (input.rest.take count))
      (input.skip count) := by
  intro document
  have hLength := h.length
  have hInside : (input.offset ≤ (input.skip count).offset && (input.skip count).offset ≤ source.length) = true := by
    rw [Bool.and_eq_true, decide_eq_true_iff, decide_eq_true_iff]
    simp only [Input.skip]
    omega
  have hSlice : (source.take (input.skip count).offset).drop input.offset = input.rest.take count := by
    rw [List.drop_take, Input.skip, Nat.add_sub_cancel_left, h.rest]
  refine (position_reads document).bind ((read_runs _).bind ?_)
  rw [if_pos hInside, ← hSlice]
  rfl

theorem tokenFrom_reads (h : input.Within source) (kind : TokenKind) {count : Nat}
    (hCount : count ≤ input.rest.length) :
    Reads source (tokenFrom kind input.offset) (input.skip count) (input.token kind count).1 (input.skip count) :=
  (slice_reads h hCount).bind (Reads.pure _ _)

theorem token_reads (h : input.Within source) (kind : TokenKind) {count : Nat} (hCount : count ≤ input.rest.length) :
    Reads source (token kind count) input (input.token kind count).1 (input.token kind count).2 :=
  position_reads.bind ((advance_reads h hCount).bind (tokenFrom_reads h kind hCount))

/-- How far the condition holds. -/
def scanLength (condition : List Char → Bool) : List Char → Nat
  | [] => 0
  | c :: rest => if condition (c :: rest) then scanLength condition rest + 1 else 0

theorem scanLength_le (condition : List Char → Bool) (text : List Char) : scanLength condition text ≤ text.length := by
  induction text with
  | nil => exact le_rfl
  | cons c rest ih =>
      simp only [scanLength]
      split
      · exact Nat.succ_le_succ ih
      · exact Nat.zero_le _

theorem skip_skip (input : Input) (first second : Nat) :
    (input.skip first).skip second = input.skip (first + second) := by
  simp [Input.skip, Nat.add_assoc]

theorem scanRound_reads_last {condition : List Char → Bool} (h : input.Within source)
    (hStop : (input.rest.isEmpty || !condition input.rest) = true) :
    Reads source (scanRound condition) input (.last ()) input := by
  refine (atEnd_reads h).bind ((rest_reads h).bind ?_)
  rw [if_pos hStop]
  exact Reads.pure _ _

theorem scanRound_reads_next {condition : List Char → Bool} {c : Char} {rest : List Char} (h : input.Within source)
    (hRest : input.rest = c :: rest) (hHolds : condition (c :: rest) = true) :
    Reads source (scanRound condition) input (.next none) (input.skip 1) := by
  refine (atEnd_reads h).bind ((rest_reads h).bind ?_)
  rw [hRest, hHolds, if_neg (by simp)]
  exact (advance_reads h (by simp [hRest])).bind (Reads.pure _ _)

theorem rounds_scanRound_reads (condition : List Char → Bool) {budget : Nat} (h : input.Within source)
    (hBudget : input.rest.length < budget) :
    Reads source (rounds (scanRound condition) budget) input ([], ())
      (input.skip (scanLength condition input.rest)) := by
  induction budget generalizing input with
  | zero => exact absurd hBudget (Nat.not_lt_zero _)
  | succ budget ih =>
      cases hRest : input.rest with
      | nil => exact Reads.lastRound budget (scanRound_reads_last h (by simp [hRest]))
      | cons c rest =>
          by_cases hHolds : condition (c :: rest) = true
          · have hRound := scanRound_reads_next h hRest hHolds
            have hAfter : (input.skip 1).rest = rest := by simp [Input.skip, hRest]
            have hMoved := Input.skip_passes h 1 (by simp [hRest])
            have hOthers := ih hMoved.within (by simp only [hAfter, hRest, List.length_cons] at *; omega)
            have hSame : (input.skip 1).skip (scanLength condition rest) =
                input.skip (scanLength condition (c :: rest)) := by
              rw [scanLength, if_pos hHolds, Nat.add_comm, skip_skip]
            rw [hAfter, hSame] at hOthers
            exact hRound.nextRound (Nat.lt_succ_self _) hOthers
          · rw [scanLength, if_neg hHolds]
            exact Reads.lastRound budget (scanRound_reads_last h (by simp [hRest, hHolds]))

/-- Scanning passes over as much text as the condition holds for. -/
theorem scan_reads (condition : List Char → Bool) (h : input.Within source) :
    Reads source (scan condition) input () (input.skip (scanLength condition input.rest)) := by
  have hLength := h.length
  have hRounds := rounds_scanRound_reads condition h (show input.rest.length < source.length + 1 by omega)
  exact hRounds.loop.bind (Reads.pure _ _)

theorem scanLength_head? (p : Char → Bool) (text : List Char) :
    scanLength (fun text => text.head?.any p) text = (text.takeWhile p).length := by
  induction text with
  | nil => rfl
  | cons c rest ih =>
      simp only [scanLength, List.takeWhile_cons, List.head?_cons, Option.any_some, ih]
      split <;> rfl

theorem skipBlanks_reads (h : input.Within source) : Reads source skipBlanks input () input.skipBlanks := by
  have hScan := scan_reads (fun text => text.head?.any Unicode.isWhiteSpace) h
  rwa [scanLength_head?] at hScan

end Places

theorem offset_lt_of_rest_lt (h : input.Within source) (hNext : next.Within source)
    (hShorter : next.rest.length < input.rest.length) : input.offset < next.offset := by
  have hLength := h.length
  have hNextLength := hNext.length
  omega

section Tags

theorem name?_reads {slot : Option Token} (h : input.Within source) (hRead : input.name? = (slot, next)) :
    Reads source name? input slot next := by
  have hScan := scan_reads (fun text => text.head?.any Markup.Lexeme.isNameChar) h
  rw [scanLength_head?] at hScan
  refine (startsName_reads h).bind ?_
  unfold Input.name? Markup.Lexeme.nameLength? at hRead
  cases hRest : input.rest with
  | nil =>
      simp only [hRest] at hRead
      cases hRead
      exact Reads.pure _ _
  | cons c rest =>
      by_cases hStart : Markup.Lexeme.isNameStart c = true
      · simp only [hRest, hStart, if_true] at hRead
        cases hRead
        rw [List.head?_cons, Option.any_some, if_pos hStart]
        rw [← hRest]
        have hToken := tokenFrom_reads h .name (List.takeWhile_prefix Markup.Lexeme.isNameChar).length_le
        exact position_reads.bind (hScan.bind (hToken.bind (Reads.pure _ _)))
      · simp only [hRest, hStart] at hRead
        cases hRead
        rw [List.head?_cons, Option.any_some, if_neg hStart]
        exact Reads.pure _ _

theorem word?_reads {kind : TokenKind} {word : String} {slot : Option Token} (h : input.Within source)
    (hRead : input.word? kind word = (slot, next)) : Reads source (word? kind word) input slot next := by
  refine (starts_reads h word).bind ?_
  unfold Input.word? at hRead
  split at hRead
  · rename_i hStarts
    cases hRead
    rw [if_pos hStarts]
    exact (token_reads h kind (Markup.Lexeme.length_le_of_startsWith hStarts)).bind (Reads.pure _ _)
  · rename_i hStarts
    cases hRead
    rw [if_neg hStarts]
    exact Reads.pure _ _

theorem string?_reads {slot : Option Token} (h : input.Within source)
    (hRead : Markup.Reader.value? input = (slot, next)) : Reads source string? input slot next := by
  unfold Markup.Reader.value? at hRead
  refine (rest_reads h).bind ?_
  cases hLength : Markup.Lexeme.quotedLength? input.rest with
  | some length =>
      simp only [hLength] at hRead
      cases hRead
      exact (token_reads h .string (Markup.Lexeme.quotedLength?_bounds hLength).2).bind (Reads.pure _ _)
  | none =>
      simp only [hLength] at hRead
      refine (starts_reads h "\"").bind ((starts_reads h "'").bind ?_)
      by_cases hStray : (input.startsWith "\"" || input.startsWith "'") = true
      · rw [if_pos hStray] at hRead
        cases hRead
        have hOne : 1 ≤ input.rest.length := by
          rcases Bool.or_eq_true_iff.mp hStray with hQuote | hQuote
          all_goals exact Markup.Lexeme.length_le_of_startsWith hQuote
        rw [if_pos hStray]
        exact (advance_reads h hOne).bind (Reads.pure _ _)
      · rw [if_neg hStray] at hRead
        cases hRead
        rw [if_neg hStray]
        exact Reads.pure _ _

/-- Where a name starts, an attribute is read. -/
theorem singleAttribute_reads {c : Char} {rest : List Char} {attr : Markup.Attribute} (h : input.Within source)
    (hRest : input.rest = c :: rest) (hStart : Markup.Lexeme.isNameStart c = true)
    (hRead : Markup.Reader.singleAttribute input = (attr, next)) : Reads source singleAttribute input attr next := by
  obtain ⟨afterName, afterEquals, hName, hEquals, hValue, hSpan⟩ := Markup.Reader.singleAttribute_steps hRead
  obtain ⟨slot, equals, string, span⟩ := attr
  simp only at hName hEquals hValue hSpan
  obtain ⟨name, rfl, hOffset⟩ := Input.name?_isSome hRest hStart hName
  have hNamed := Input.name?_passes h hName
  have hOrder := (hNamed.laid.of_mem (List.mem_singleton.mpr rfl)).1.startOffset_le
  have hCover : Span.cover ⟨input.offset, input.offset⟩ name.span = name.span := by
    rw [← hOffset, Span.cover, Nat.min_self, Nat.max_eq_right hOrder]
  rw [Markup.Reader.coverTokens_some, hCover] at hSpan
  have hBlanks := Input.skipBlanks_passes hNamed.within
  have hSigned := Input.word?_passes hBlanks.within (by decide) hEquals
  refine (name?_reads h hName).bind ?_
  refine (skipBlanks_reads hNamed.within).bind ((word?_reads hBlanks.within hEquals).bind ?_)
  rcases hValue with ⟨hSome, hString⟩ | ⟨rfl, rfl, rfl⟩
  · obtain ⟨sign, rfl⟩ := Option.isSome_iff_exists.mp hSome
    have hAtValue := Input.skipBlanks_passes hSigned.within
    refine (skipBlanks_reads hSigned.within).bind ((string?_reads hAtValue.within hString).bind ?_)
    rw [hSpan]
    exact Reads.pure _ _
  · rw [hSpan]
    exact Reads.pure _ _

/-- The step looks for the end of a tag: it takes what closes the tag where the attributes end, and stays where it is
elsewhere. -/
structure Closes {Last : Type} (source : List Char) (close : Step (Option Last)) (ends : List Char → Bool)
    (closing : Input → Last × Input) : Prop where
  takes : ∀ input, input.Within source → input.rest = [] ∨ ends input.rest = true →
    Reads source close input (some (closing input).1) (closing input).2
  stays : ∀ input, input.Within source → input.rest ≠ [] → ends input.rest = false →
    Reads source close input none input

variable {Last : Type} {close : Step (Option Last)} {ends : List Char → Bool} {closing : Input → Last × Input}

theorem rounds_attributeRound_reads (hClose : Closes source close ends closing) {attrs : List Markup.Attribute}
    {last : Input} {budget : Nat} (hRead : AttributesRead ends input attrs last) (h : input.Within source)
    (hBudget : input.rest.length < budget) :
    Reads source (rounds (attributeRound close) budget) input (attrs, (closing last).1) (closing last).2 := by
  induction hRead generalizing budget with
  | @done input hEnd =>
      obtain ⟨budget, rfl⟩ := Nat.exists_eq_succ_of_ne_zero (Nat.ne_of_gt ((Nat.zero_le _).trans_lt hBudget))
      have hBlanks := Input.skipBlanks_passes h
      refine Reads.lastRound budget ((skipBlanks_reads h).bind ?_)
      exact (hClose.takes _ hBlanks.within hEnd).bind (Reads.pure _ _)
  | @attr input next last c rest first others hRest hEnd hName hFirst hOthers ih =>
      obtain ⟨budget, rfl⟩ := Nat.exists_eq_succ_of_ne_zero (Nat.ne_of_gt ((Nat.zero_le _).trans_lt hBudget))
      have hBlanks := Input.skipBlanks_passes h
      have hAfterBlanks := Markup.Reader.skipBlanks_rest_le h
      have hPasses := Markup.Reader.singleAttribute_passes hBlanks.within hFirst
      have hShorter := Markup.Reader.singleAttribute_rest_lt hBlanks.within hRest hName hFirst
      have hForward := offset_lt_of_rest_lt h hPasses.within (hShorter.trans_le hAfterBlanks)
      have hRound : Reads source (attributeRound close) input (.next (some first)) next := by
        refine (skipBlanks_reads h).bind ((hClose.stays _ hBlanks.within (by simp [hRest]) (by rwa [hRest])).bind ?_)
        refine (startsName_reads hBlanks.within).bind ?_
        rw [hRest, List.head?_cons, Option.any_some, if_pos hName]
        exact (singleAttribute_reads hBlanks.within hRest hName hFirst).bind (Reads.pure _ _)
      exact hRound.nextRound hForward (ih hPasses.within (by omega))
  | @pass input last c rest others hRest hEnd hName hOthers ih =>
      obtain ⟨budget, rfl⟩ := Nat.exists_eq_succ_of_ne_zero (Nat.ne_of_gt ((Nat.zero_le _).trans_lt hBudget))
      have hBlanks := Input.skipBlanks_passes h
      have hAfterBlanks := Markup.Reader.skipBlanks_rest_le h
      have hOne : 1 ≤ input.skipBlanks.rest.length := by simp [hRest]
      have hPasses := Input.skip_passes hBlanks.within 1 hOne
      have hShorter : (input.skipBlanks.skip 1).rest.length < input.skipBlanks.rest.length := by
        simp [Input.skip, hRest]
      have hForward := offset_lt_of_rest_lt h hPasses.within (hShorter.trans_le hAfterBlanks)
      have hRound : Reads source (attributeRound close) input (.next none) (input.skipBlanks.skip 1) := by
        refine (skipBlanks_reads h).bind ((hClose.stays _ hBlanks.within (by simp [hRest]) (by rwa [hRest])).bind ?_)
        refine (startsName_reads hBlanks.within).bind ?_
        rw [hRest, List.head?_cons, Option.any_some, if_neg (by simp [hName])]
        exact (advance_reads hBlanks.within hOne).bind (Reads.pure _ _)
      exact hRound.nextRound hForward (ih hPasses.within (by omega))

theorem loop_attributeRound_reads (hClose : Closes source close ends closing) {attrs : List Markup.Attribute}
    {last : Input} (hRead : AttributesRead ends input attrs last) (h : input.Within source) :
    Reads source (loop (attributeRound close)) input (attrs, (closing last).1) (closing last).2 := by
  have hLength := h.length
  exact (rounds_attributeRound_reads hClose hRead h (by omega)).loop

/-- At the end of the text or at `<`, no word comes next that starts otherwise. -/
theorem word?_of_stop (kind : TokenKind) (word : String) {first : Char} (hWord : word.toList.head? = some first)
    (hNe : '<' ≠ first) (hStop : (input.rest.isEmpty || input.startsWith "<") = true) :
    input.word? kind word = (none, input) := by
  have hStarts : input.startsWith word = false := by
    unfold Input.startsWith at *
    cases hRest : input.rest with
    | nil =>
        obtain ⟨others, hChars⟩ := List.head?_eq_some_iff.mp hWord
        rw [Markup.Lexeme.startsWith, hChars]
        rfl
    | cons c rest =>
        have hAngle : '<' = c := by simpa [hRest, Markup.Lexeme.startsWith, List.isPrefixOf] using hStop
        exact Markup.Lexeme.startsWith_eq_false hWord (hAngle ▸ hNe)
  rw [Input.word?, hStarts]
  rfl

theorem word?_eq_none_iff {kind : TokenKind} {word : String} :
    input.word? kind word = (none, next) ↔ input.startsWith word = false ∧ next = input := by
  by_cases hStarts : input.startsWith word = true
  · simp [Input.word?, hStarts]
  · simp [Input.word?, hStarts, eq_comm]

/-- What closes an opening tag: `>` or `/>`. -/
def tagClosing (input : Input) : (Option Token × Option Token) × Input :=
  let slash := input.word? .slashClose "/>"
  let start := slash.2.word? .startClose ">"
  match slash.1 with
  | some slashClose => ((none, some slashClose), slash.2)
  | none => ((start.1, none), start.2)

theorem closes_tagClose : Closes source tagClose Markup.Reader.atTagEnd tagClosing where
  takes input h hEnds := by
    refine (atEnd_reads h).bind ((starts_reads h "<").bind ?_)
    by_cases hStop : (input.rest.isEmpty || input.startsWith "<") = true
    · have hSlash := word?_of_stop .slashClose "/>" rfl (by decide) hStop
      have hStart := word?_of_stop .startClose ">" rfl (by decide) hStop
      rw [if_pos hStop]
      simp only [tagClosing, hSlash, hStart]
      exact Reads.pure _ _
    · rw [if_neg hStop]
      rcases hSlash : input.word? .slashClose "/>" with ⟨slash, afterSlash⟩
      refine (word?_reads h hSlash).bind ?_
      cases slash with
      | some slashClose =>
          simp only [tagClosing, hSlash]
          exact Reads.pure _ _
      | none =>
          obtain ⟨hNoSlash, rfl⟩ := word?_eq_none_iff.mp hSlash
          rcases hStart : afterSlash.word? .startClose ">" with ⟨start, last⟩
          refine (word?_reads h hStart).bind ?_
          cases start with
          | some startClose =>
              simp only [tagClosing, hSlash, hStart]
              exact Reads.pure _ _
          | none =>
              obtain ⟨hNoStart, rfl⟩ := word?_eq_none_iff.mp hStart
              unfold Input.startsWith at *
              simp_all [Markup.Reader.atTagEnd]
  stays input h hRest hEnds := by
    simp only [Markup.Reader.atTagEnd, Bool.or_eq_false_iff] at hEnds
    obtain ⟨⟨hAngle, hSlash⟩, hStart⟩ := hEnds
    have hStop : ¬(input.rest.isEmpty || input.startsWith "<") = true := by
      simp [Input.startsWith, hAngle, hRest]
    refine (atEnd_reads h).bind ((starts_reads h "<").bind ?_)
    rw [if_neg hStop]
    refine (word?_reads h (word?_eq_none_iff.mpr ⟨hSlash, rfl⟩)).bind ?_
    exact (word?_reads h (word?_eq_none_iff.mpr ⟨hStart, rfl⟩)).bind (Reads.pure _ _)

def declarationClosing (input : Input) : Option Token × Input :=
  input.word? .specialClose "?>"

theorem closes_declarationClose :
    Closes source declarationClose Markup.Reader.atDeclarationEnd declarationClosing where
  takes input h hEnds := by
    refine (atEnd_reads h).bind ((starts_reads h "<").bind ?_)
    by_cases hStop : (input.rest.isEmpty || input.startsWith "<") = true
    · rw [if_pos hStop, declarationClosing, word?_of_stop .specialClose "?>" rfl (by decide) hStop]
      exact Reads.pure _ _
    · rw [if_neg hStop]
      rcases hClose : input.word? .specialClose "?>" with ⟨close, last⟩
      refine (word?_reads h hClose).bind ?_
      cases close with
      | some close =>
          simp only [declarationClosing, hClose]
          exact Reads.pure _ _
      | none =>
          obtain ⟨hNoClose, rfl⟩ := word?_eq_none_iff.mp hClose
          unfold Input.startsWith at *
          simp_all [Markup.Reader.atDeclarationEnd]
  stays input h hRest hEnds := by
    simp only [Markup.Reader.atDeclarationEnd, Bool.or_eq_false_iff] at hEnds
    have hStop : ¬(input.rest.isEmpty || input.startsWith "<") = true := by
      simp [Input.startsWith, hEnds.1, hRest]
    refine (atEnd_reads h).bind ((starts_reads h "<").bind ?_)
    rw [if_neg hStop]
    exact (word?_reads h (word?_eq_none_iff.mpr ⟨hEnds.2, rfl⟩)).bind (Reads.pure _ _)

theorem startTag_reads {start : StartTag} (h : input.Within source) (hRest : input.rest ≠ [])
    (hRead : Markup.Reader.startTag input = (start, next)) : Reads source startTag input start next := by
  have hOne : 1 ≤ input.rest.length := List.length_pos_iff.mpr hRest
  obtain ⟨afterName, atEnd, afterSlash, slashClose, startClose, hOpen, hName, hAttributes, hSlash, hSlot, hEnd⟩ :=
    Markup.Reader.startTag_steps hRead
  have hOpened := Input.token_passes h .openAngle 1 Nat.one_pos hOne
  have hNamed := Input.name?_passes hOpened.within hName
  have hList := Markup.Reader.attributesRead_of_budget Markup.Reader.atTagEnd hNamed.within (Nat.lt_succ_self _)
  rw [hAttributes] at hList
  have hClosing : tagClosing atEnd = ((start.startClose, start.slashClose), next) := by
    rcases hEnd with ⟨hSome, hNone, rfl⟩ | ⟨rfl, hStart, hWord⟩
    · obtain ⟨slash, rfl⟩ := Option.isSome_iff_exists.mp hSome
      simp only [tagClosing, hSlash, hNone, hSlot]
    · simp only [tagClosing, hSlash, hWord, hStart, hSlot]
  have hLoop := loop_attributeRound_reads closes_tagClose hList hNamed.within
  rw [hClosing] at hLoop
  refine (token_reads h .openAngle hOne).bind ((name?_reads hOpened.within hName).bind (hLoop.bind ?_))
  rw [← hOpen]
  exact Reads.pure _ _

theorem endTag_reads {finish : EndTag} (h : input.Within source)
    (hRead : Markup.Reader.endTag input = (finish, next)) : Reads source endTag input finish next := by
  rcases Markup.Reader.endTag_steps hRead with
    ⟨hOpen, rfl, rfl⟩ | ⟨slashOpen, afterOpen, afterName, hOpen, hIs, hName, hClose⟩
  · exact (word?_reads h hOpen).bind (Reads.pure _ _)
  · have hOpened := Input.word?_passes h (by decide) hOpen
    have hAtName := Input.skipBlanks_passes hOpened.within
    have hNamed := Input.name?_passes hAtName.within hName
    have hAtClose := Input.skipBlanks_passes hNamed.within
    refine (word?_reads h hOpen).bind ((skipBlanks_reads hOpened.within).bind ?_)
    refine (name?_reads hAtName.within hName).bind ((skipBlanks_reads hNamed.within).bind ?_)
    refine (word?_reads hAtClose.within hClose).bind ?_
    rw [← hIs]
    exact Reads.pure _ _

theorem prolog_reads (h : input.Within source) (hStarts : input.startsWith "<?xml" = true) :
    Reads source prolog input (Markup.Reader.prolog input).1 (Markup.Reader.prolog input).2 := by
  have hLength : 5 ≤ input.rest.length := Markup.Lexeme.length_le_of_startsWith hStarts
  have hOpened := Input.token_passes h .declarationOpen 5 (by decide) hLength
  have hList := Markup.Reader.attributesRead_of_budget Markup.Reader.atDeclarationEnd hOpened.within
    (Nat.lt_succ_self _)
  refine (token_reads h .declarationOpen hLength).bind ?_
  refine (loop_attributeRound_reads closes_declarationClose hList hOpened.within).bind ?_
  exact Reads.pure _ _

theorem prolog?_reads (h : input.Within source) :
    Reads source prolog? input (Markup.Reader.prolog? input).1 (Markup.Reader.prolog? input).2 := by
  refine (starts_reads h "<?xml").bind ?_
  unfold Markup.Reader.prolog?
  by_cases hStarts : input.startsWith "<?xml" = true
  · rw [if_pos hStarts, if_pos hStarts]
    exact (prolog_reads h hStarts).bind (Reads.pure _ _)
  · rw [if_neg hStarts, if_neg hStarts]
    exact Reads.pure _ _

end Tags

section Contents

/-- Whoever scans up to the terminator and takes it, if the text has it, goes through it. -/
theorem throughTerminator_eq (terminator : String) (text : List Char) {scanned : Nat}
    (hScanned : scanLength (fun text => !Markup.Lexeme.startsWith terminator text) text = scanned) :
    Markup.Lexeme.throughTerminator terminator text =
      scanned + if (text.drop scanned).isEmpty then 0 else terminator.length := by
  induction text generalizing scanned with
  | nil => simp [Markup.Lexeme.throughTerminator, ← hScanned, scanLength]
  | cons c rest ih =>
      by_cases hHere : Markup.Lexeme.startsWith terminator (c :: rest) = true
      · simp [Markup.Lexeme.throughTerminator, ← hScanned, scanLength, hHere]
      · simp only [scanLength, hHere, Bool.not_false, if_true] at hScanned
        subst hScanned
        rw [Markup.Lexeme.throughTerminator, if_neg hHere, ih rfl, List.drop_succ_cons]
        omega

theorem delimited_reads (kind : TokenKind) (terminator : String) (h : input.Within source)
    (hLength : 2 ≤ input.rest.length) :
    Reads source (delimited kind terminator) input (Markup.Reader.delimited kind terminator input).1
      (Markup.Reader.delimited kind terminator input).2 := by
  have hOpened := Input.skip_passes h 2 hLength
  have hScan := scan_reads (fun text => !Markup.Lexeme.startsWith terminator text) hOpened.within
  have hScanned := scanLength_le (fun text => !Markup.Lexeme.startsWith terminator text) (input.skip 2).rest
  generalize hCount : scanLength (fun text => !Markup.Lexeme.startsWith terminator text) (input.skip 2).rest = scanned
    at hScan hScanned
  have hThrough := throughTerminator_eq terminator _ hCount
  simp only [Input.skip, List.length_drop, List.drop_drop] at hScanned hThrough
  have hWithin := (Input.skip_passes h (2 + scanned) (by omega)).within
  have hBound := (Markup.Lexeme.delimitedLength_bounds terminator hLength).2
  have hToken := tokenFrom_reads h kind hBound
  have hTotal : Markup.Lexeme.delimitedLength terminator input.rest =
      2 + scanned + if (input.skip (2 + scanned)).rest.isEmpty then 0 else terminator.length := by
    rw [Markup.Lexeme.delimitedLength, hThrough, Nat.add_comm, Nat.add_assoc]
    rfl
  rw [skip_skip] at hScan
  refine position_reads.bind ((advance_reads h hLength).bind (hScan.bind ((atEnd_reads hWithin).bind ?_)))
  rw [Markup.Reader.delimited]
  by_cases hEnd : (input.skip (2 + scanned)).rest.isEmpty = true
  · rw [if_pos hEnd, Nat.add_zero] at hTotal
    rw [hTotal] at hToken ⊢
    simp only [if_pos hEnd]
    exact hToken
  · rw [if_neg hEnd] at hTotal
    rw [hTotal] at hToken hBound ⊢
    have hRoom : terminator.length ≤ (input.skip (2 + scanned)).rest.length := by
      simp only [Input.skip, List.length_drop]
      omega
    have hTerminator := advance_reads hWithin hRoom
    rw [skip_skip] at hTerminator
    simp only [if_neg hEnd]
    exact hTerminator.bind hToken

theorem plainLength_eq (text : List Char) : Markup.Lexeme.plainLength text =
    scanLength (fun text => !Markup.Lexeme.startsWith "<" text && (Markup.Lexeme.referenceLength? text).isNone)
      text := by
  induction text with
  | nil => rfl
  | cons c rest ih =>
      by_cases hAngle : c = '<'
      · subst hAngle
        rfl
      · have hStarts : Markup.Lexeme.startsWith "<" (c :: rest) = false := Markup.Lexeme.startsWith_eq_false rfl hAngle
        cases hReference : Markup.Lexeme.referenceLength? (c :: rest) with
        | none => simp [Markup.Lexeme.plainLength, scanLength, hStarts, hAngle, hReference, ih]
        | some reference => simp [Markup.Lexeme.plainLength, scanLength, hReference]

theorem text_reads (h : input.Within source) (hRest : input.rest ≠ []) :
    Reads source text input (Markup.Reader.text input).1 (Markup.Reader.text input).2 := by
  have hOne : 1 ≤ input.rest.length := List.length_pos_iff.mpr hRest
  have hBound := (Markup.Lexeme.textLength_bounds hRest).2
  have hScan := scan_reads (fun text => !Markup.Lexeme.startsWith "<" text &&
    (Markup.Lexeme.referenceLength? text).isNone) (Input.skip_passes h 1 hOne).within
  rw [← plainLength_eq, skip_skip] at hScan
  have hTotal : 1 + Markup.Lexeme.plainLength (input.skip 1).rest = Markup.Lexeme.textLength input.rest :=
    Nat.add_comm ..
  rw [hTotal] at hScan
  refine position_reads.bind ((advance_reads h hOne).bind (hScan.bind ((slice_reads h hBound).bind ?_)))
  rw [String.toList_ofList]
  exact Reads.pure _ _

theorem blankLength_eq_zero_iff (text : List Char) :
    Markup.Lexeme.blankLength text = 0 ↔ text.head?.any Unicode.isWhiteSpace = false := by
  cases text with
  | nil => simp [Markup.Lexeme.blankLength]
  | cons c rest =>
      rw [Markup.Lexeme.blankLength, List.takeWhile_cons, List.head?_cons, Option.any_some]
      cases Unicode.isWhiteSpace c <;> simp

theorem miscRound_reads_next {token : Token} (h : input.Within source)
    (hItem : Markup.Reader.item? input = some (token, next)) :
    Reads source miscRound input (.next (some ⟨token⟩)) next := by
  unfold Markup.Reader.item? at hItem
  refine (starts_reads h "<!--").bind ?_
  by_cases hComment : input.startsWith "<!--" = true
  · have hLength : 4 ≤ input.rest.length := Markup.Lexeme.length_le_of_startsWith hComment
    rw [if_pos hComment] at hItem ⊢
    cases hItem
    exact (delimited_reads .comment "-->" h (by omega)).bind (Reads.pure _ _)
  rw [if_neg hComment] at hItem ⊢
  refine (starts_reads h "<?").bind ?_
  by_cases hInstruction : input.startsWith "<?" = true
  · have hLength : 2 ≤ input.rest.length := Markup.Lexeme.length_le_of_startsWith hInstruction
    rw [if_pos hInstruction] at hItem ⊢
    cases hItem
    exact (delimited_reads .processingInstruction "?>" h hLength).bind (Reads.pure _ _)
  rw [if_neg hInstruction] at hItem ⊢
  refine (rest_reads h).bind ?_
  by_cases hBlank : Markup.Lexeme.blankLength input.rest = 0
  · rw [if_pos hBlank] at hItem
    cases hItem
  · rw [if_neg hBlank] at hItem
    cases hItem
    rw [blankLength_eq_zero_iff, Bool.not_eq_false] at hBlank
    rw [if_pos hBlank]
    have hToken := tokenFrom_reads h .seaWhitespace (Markup.Lexeme.blankLength_le input.rest)
    exact position_reads.bind ((skipBlanks_reads h).bind (hToken.bind (Reads.pure _ _)))

theorem miscRound_reads_last (h : input.Within source) (hItem : Markup.Reader.item? input = none) :
    Reads source miscRound input (.last ()) input := by
  unfold Markup.Reader.item? at hItem
  split_ifs at hItem with hComment hInstruction hBlank
  rw [blankLength_eq_zero_iff] at hBlank
  refine (starts_reads h "<!--").bind ?_
  rw [if_neg hComment]
  refine (starts_reads h "<?").bind ?_
  rw [if_neg hInstruction]
  refine (rest_reads h).bind ?_
  rw [hBlank]
  exact Reads.pure _ _

theorem rounds_miscRound_reads {budget rounds : Nat} (h : input.Within source) (hBudget : input.rest.length < budget)
    (hRounds : input.rest.length < rounds) :
    Reads source (Machine.rounds miscRound rounds) input ((Markup.Reader.misc budget input).1, ())
      (Markup.Reader.misc budget input).2 := by
  induction budget generalizing input rounds with
  | zero => exact absurd hBudget (Nat.not_lt_zero _)
  | succ budget ih =>
      obtain ⟨rounds, rfl⟩ := Nat.exists_eq_succ_of_ne_zero (Nat.ne_of_gt ((Nat.zero_le _).trans_lt hRounds))
      cases hItem : Markup.Reader.item? input with
      | none =>
          rw [Markup.Reader.misc_of_none budget hItem]
          exact Reads.lastRound rounds (miscRound_reads_last h hItem)
      | some item =>
          obtain ⟨token, next⟩ := item
          have hPasses := Markup.Reader.item?_passes h hItem
          have hShorter := hPasses.rest_lt h (List.cons_ne_nil _ _)
          have hForward := offset_lt_of_rest_lt h hPasses.within hShorter
          rw [Markup.Reader.misc_of_some budget hItem]
          exact (miscRound_reads_next h hItem).nextRound hForward (ih hPasses.within (by omega) (by omega))

theorem loop_miscRound_reads (h : input.Within source) :
    Reads source (loop miscRound) input ((Markup.Reader.misc (source.length + 1) input).1, ())
      (Markup.Reader.misc (source.length + 1) input).2 := by
  have hLength := h.length
  exact (rounds_miscRound_reads h (by omega) (by omega)).loop

end Contents

end ContentAssist.Machine
