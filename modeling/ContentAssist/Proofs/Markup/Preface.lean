import ContentAssist.Proofs.Markup.Acceptance
import ContentAssist.Proofs.Markup.Trail

/-! What stands before the root element, by the rules of XML: comments without `--`, instructions with a target that is
not `xml`, and blanks. The reader has rules of its own. The end of a comment may share the dashes of its opening, and
whatever starts with `<?xml` is a declaration. The constructs are read one by one exactly where these rules agree with
those of XML. -/
namespace ContentAssist.Markup

open Unicode (isWhiteSpace)
open Grammar (Blanks lexeme)

namespace Preface

/-- `<!--` body `-->`. The body has no two dashes in a row, and none before the end. -/
structure Comment where
  body : List Char
  noDashes : ¬ ['-', '-'] <:+: body
  noDashLast : body.getLast? ≠ some '-'

def Comment.text (part : Comment) : List Char :=
  ['<', '!', '-', '-'] ++ (part.body ++ ['-', '-', '>'])

/-- `<?` target body `?>`. The target can be any word without a `?`, so any name; a blank ends it, or the `?>`. -/
structure Instruction where
  target : List Char
  body : List Char
  nonempty : target ≠ []
  isWord : ∀ c ∈ target, isWhiteSpace c = false ∧ c ≠ '?'
  notXml : target ≠ ['x', 'm', 'l']
  separated : ∀ c ∈ body.head?, isWhiteSpace c = true
  unclosed : ¬ ['?', '>'] <:+: body

def Instruction.text (part : Instruction) : List Char :=
  ['<', '?'] ++ (part.target ++ (part.body ++ ['?', '>']))

inductive Construct where
  | blanks (run : Blanks) (nonempty : run.text ≠ [])
  | comment (part : Comment)
  | instruction (part : Instruction)

namespace Construct

def kind : Construct → TokenKind
  | .blanks _ _ => .seaWhitespace
  | .comment _ => .comment
  | .instruction _ => .processingInstruction

def text : Construct → List Char
  | .blanks run _ => run.text
  | .comment part => part.text
  | .instruction part => part.text

def isBlanks : Construct → Bool
  | .blanks _ _ => true
  | _ => false

end Construct

def textOf (constructs : List Construct) : List Char :=
  constructs.flatMap Construct.text

/-- Two runs of blanks in a row would be one. -/
def Apart (constructs : List Construct) : Prop :=
  constructs.IsChain fun first second => ¬ (first.isBlanks = true ∧ second.isBlanks = true)

/-- `<r/>` -/
def root : Grammar.Element :=
  .empty ⟨⟨'r', [], by decide, fun _ hMem => absurd hMem List.not_mem_nil⟩, [],
    ⟨[], fun _ hMem => absurd hMem List.not_mem_nil⟩, fun _ hMem => absurd hMem List.not_mem_nil⟩

end Preface

/-- Constructs in front of a root element. -/
structure Preface where
  constructs : List Preface.Construct
  apart : Preface.Apart constructs

namespace Preface

/-- The constructs, and `<r/>` behind them. -/
def text (preface : Preface) : List Char :=
  textOf preface.constructs ++ root.text

/-- Each construct was read as one of its kind, with its whole text, and nothing else was read but `<r/>`. -/
structure ReadAs (preface : Preface) (snapshot : Snapshot) : Prop where
  noProlog : snapshot.tree.prolog = none
  misc : snapshot.tree.misc.map (fun item => (item.token.kind, item.token.image)) =
    preface.constructs.map fun construct => (construct.kind, String.ofList construct.text)
  markupRoot : (snapshot.tree.element.bind Element.name).map Token.image = some "r"
  documentRoot : snapshot.document.rootElement?.bind Document.Element.name = some "r"

/-- The reader finds the end of the construct where it was written. -/
def Construct.EndsAsWritten : Construct → Prop
  | .comment part => ¬ ['>'] <+: part.body ∧ ¬ ['-', '>'] <+: part.body
  | _ => True

namespace Comment

variable (part : Comment) (offset : Nat) (rest : List Char)

theorem read (hAngle : ¬ ['>'] <+: part.body) (hDashAngle : ¬ ['-', '>'] <+: part.body) :
    Reader.delimited .comment "-->" ⟨offset, part.text ++ rest⟩ =
      (lexeme .comment part.text offset, ⟨offset + part.text.length, rest⟩) := by
  have hUnclosed : ¬ ['-', '-', '>'] <:+: part.body :=
    fun hInfix => part.noDashes (List.IsInfix.trans (by decide) hInfix)
  exact Grammar.Comment.read offset rest ⟨part.body, hUnclosed, hAngle, hDashAngle⟩

/-- A body that completes the dashes of the opening to `-->` ends the comment before its last three characters. -/
theorem delimitedLength_lt (hEarly : ¬ (¬ ['>'] <+: part.body ∧ ¬ ['-', '>'] <+: part.body)) :
    Lexeme.delimitedLength "-->" (part.text ++ rest) < part.text.length := by
  rw [not_and_or, not_not, not_not] at hEarly
  rcases hEarly with ⟨others, hBody⟩ | ⟨others, hBody⟩
  · have hLength : Lexeme.delimitedLength "-->" (part.text ++ rest) = 5 := by
      rw [text, ← hBody]
      rfl
    rw [hLength, text, ← hBody]
    simp
  · have hLength : Lexeme.delimitedLength "-->" (part.text ++ rest) = 6 := by
      rw [text, ← hBody]
      rfl
    rw [hLength, text, ← hBody]
    simp

end Comment

theorem Instruction.read (part : Instruction) (offset : Nat) (rest : List Char) :
    Reader.delimited .processingInstruction "?>" ⟨offset, part.text ++ rest⟩ =
      (lexeme .processingInstruction part.text offset, ⟨offset + part.text.length, rest⟩) := by
  have hTarget : '?' ∉ part.target := fun hMem => (part.isWord '?' hMem).2 rfl
  have hUnclosed := Lexeme.not_infix_append hTarget part.unclosed
  have hText : (⟨part.target ++ part.body, hUnclosed⟩ : Grammar.Instruction).text = part.text := by
    simp [Grammar.Instruction.text, text]
  rw [← hText]
  exact Grammar.Instruction.read offset rest _

namespace Construct

variable {construct : Construct} {offset : Nat} {rest : List Char}

theorem takeWhile_isWhiteSpace (hBlanks : construct.isBlanks = false) (rest : List Char) :
    (construct.text ++ rest).takeWhile isWhiteSpace = [] := by
  cases construct with
  | blanks run hNonempty => cases hBlanks
  | comment part => exact List.takeWhile_cons_of_neg (by decide)
  | instruction part => exact List.takeWhile_cons_of_neg (by decide)

/-- A construct whose end is found is read whole. -/
theorem item?_eq (hEnds : construct.EndsAsWritten)
    (hRest : construct.isBlanks = true → rest.takeWhile isWhiteSpace = []) :
    Reader.item? ⟨offset, construct.text ++ rest⟩ =
      some (lexeme construct.kind construct.text offset, ⟨offset + construct.text.length, rest⟩) := by
  cases construct with
  | comment part =>
      have hStarts : (⟨offset, part.text ++ rest⟩ : Input).startsWith "<!--" = true := rfl
      rw [text, Reader.item?, if_pos hStarts, part.read offset rest hEnds.1 hEnds.2]
      rfl
  | instruction part =>
      have hComment : (⟨offset, part.text ++ rest⟩ : Input).startsWith "<!--" = false := rfl
      have hStarts : (⟨offset, part.text ++ rest⟩ : Input).startsWith "<?" = true := rfl
      rw [text, Reader.item?, hComment, if_neg Bool.false_ne_true, if_pos hStarts, part.read]
      rfl
  | blanks run hNonempty =>
      have hLength : Lexeme.blankLength (run.text ++ rest) = run.text.length := by
        rw [Lexeme.blankLength, Lexeme.takeWhile_append_of_all run.blank (hRest rfl)]
      have hOpening : ∀ word : String, word.toList.head? = some '<' →
          (⟨offset, run.text ++ rest⟩ : Input).startsWith word = false := by
        intro word hWord
        obtain ⟨c, others, hText⟩ := List.exists_cons_of_ne_nil hNonempty
        rw [hText]
        refine Lexeme.startsWith_eq_false hWord ?_
        rintro rfl
        exact absurd (run.blank '<' (by simp [hText])) (by decide)
      rw [text, Reader.item?, hOpening "<!--" rfl, hOpening "<?" rfl, if_neg Bool.false_ne_true,
        if_neg Bool.false_ne_true, hLength, if_neg (List.length_pos_iff.mpr hNonempty).ne', Input.token_append]
      rfl

/-- A construct whose end is not found is not read whole. -/
theorem exists_item?_of_not_endsAsWritten (hEnds : ¬ construct.EndsAsWritten) :
    ∃ token next, Reader.item? ⟨offset, construct.text ++ rest⟩ = some (token, next) ∧
      token.image ≠ String.ofList construct.text := by
  cases construct with
  | blanks run hNonempty => exact absurd trivial hEnds
  | instruction part => exact absurd trivial hEnds
  | comment part =>
      have hStarts : (⟨offset, part.text ++ rest⟩ : Input).startsWith "<!--" = true := rfl
      refine ⟨_, _, by rw [text, Reader.item?, if_pos hStarts], ?_⟩
      intro hImage
      have hTake : (part.text ++ rest).take (Lexeme.delimitedLength "-->" (part.text ++ rest)) = part.text :=
        String.ofList_injective hImage
      have hLength := congrArg List.length hTake
      have hLt := part.delimitedLength_lt rest hEnds
      rw [List.length_take] at hLength
      omega

end Construct

section Run

variable {constructs : List Construct} {construct : Construct}

/-- Blanks come to their end, for no blank comes behind them. -/
theorem takeWhile_textOf (hApart : Apart (construct :: constructs)) (hBlanks : construct.isBlanks = true) :
    (textOf constructs ++ root.text).takeWhile isWhiteSpace = [] := by
  cases constructs with
  | nil => exact List.takeWhile_cons_of_neg (by decide)
  | cons next constructs =>
      have hNext : next.isBlanks = false := by
        rw [← Bool.not_eq_true]
        exact fun hNext => (List.isChain_cons_cons.mp hApart).1 ⟨hBlanks, hNext⟩
      rw [textOf, List.flatMap_cons, List.append_assoc]
      exact Construct.takeWhile_isWhiteSpace hNext _

theorem misc_cons (hApart : Apart (construct :: constructs)) (hEnds : construct.EndsAsWritten) (offset budget : Nat) :
    Reader.misc (budget + 1) ⟨offset, textOf (construct :: constructs) ++ root.text⟩ =
      (⟨lexeme construct.kind construct.text offset⟩ ::
        (Reader.misc budget ⟨offset + construct.text.length, textOf constructs ++ root.text⟩).1,
        (Reader.misc budget ⟨offset + construct.text.length, textOf constructs ++ root.text⟩).2) := by
  rw [textOf, List.flatMap_cons, List.append_assoc]
  exact Reader.misc_of_some budget (Construct.item?_eq hEnds (takeWhile_textOf hApart))

/-- If every end is found, then the constructs are read one by one up to the root element. -/
theorem misc_of_endsAsWritten (hApart : Apart constructs) (hEnds : ∀ construct ∈ constructs, construct.EndsAsWritten)
    (offset : Nat) {budget : Nat} (hBudget : constructs.length < budget) :
    ∃ found, Reader.misc budget ⟨offset, textOf constructs ++ root.text⟩ =
        (found, ⟨offset + (textOf constructs).length, root.text⟩) ∧
      found.map (fun item => (item.token.kind, item.token.image)) =
        constructs.map fun construct => (construct.kind, String.ofList construct.text) := by
  obtain ⟨budget, rfl⟩ := Nat.exists_eq_succ_of_ne_zero (Nat.ne_zero_of_lt hBudget)
  induction constructs generalizing offset budget with
  | nil => exact ⟨[], Reader.misc_of_none budget rfl, rfl⟩
  | cons construct constructs ih =>
      rw [List.forall_mem_cons] at hEnds
      rw [List.length_cons] at hBudget
      obtain ⟨budget, rfl⟩ := Nat.exists_eq_succ_of_ne_zero (show budget ≠ 0 by omega)
      obtain ⟨found, hRead, hFound⟩ :=
        ih hApart.of_cons hEnds.2 (offset + construct.text.length) budget (Nat.lt_of_succ_lt_succ hBudget)
      refine ⟨⟨lexeme construct.kind construct.text offset⟩ :: found, ?_, ?_⟩
      · rw [misc_cons hApart hEnds.1, hRead, textOf, textOf, List.flatMap_cons, List.length_append, Nat.add_assoc]
      · rw [List.map_cons, hFound]
        rfl

/-- What was read shows each construct only if every end is found. Anything may come behind: a construct that is not
read whole shows at its own place. -/
theorem endsAsWritten_of_misc (hApart : Apart constructs) (offset : Nat) {budget : Nat}
    (hBudget : constructs.length < budget) {others : List (TokenKind × String)}
    (hSame : (Reader.misc budget ⟨offset, textOf constructs ++ root.text⟩).1.map
        (fun item => (item.token.kind, item.token.image)) ++ others =
      constructs.map fun construct => (construct.kind, String.ofList construct.text)) :
    ∀ construct ∈ constructs, construct.EndsAsWritten := by
  obtain ⟨budget, rfl⟩ := Nat.exists_eq_succ_of_ne_zero (Nat.ne_zero_of_lt hBudget)
  induction constructs generalizing offset budget with
  | nil => exact fun _ hMem => absurd hMem List.not_mem_nil
  | cons construct constructs ih =>
      rw [List.length_cons] at hBudget
      obtain ⟨budget, rfl⟩ := Nat.exists_eq_succ_of_ne_zero (show budget ≠ 0 by omega)
      -- A construct that was read whole is passed over; at the first that was not, the two lists differ.
      by_cases hEnds : construct.EndsAsWritten
      · rw [misc_cons hApart hEnds, List.map_cons, List.map_cons, List.cons_append, List.cons.injEq] at hSame
        exact List.forall_mem_cons.mpr ⟨hEnds, ih hApart.of_cons (offset + construct.text.length) budget
          (Nat.lt_of_succ_lt_succ hBudget) hSame.2⟩
      · obtain ⟨token, next, hItem, hImage⟩ := Construct.exists_item?_of_not_endsAsWritten hEnds
        rw [textOf, List.flatMap_cons, List.append_assoc, Reader.misc_of_some _ hItem, List.map_cons, List.map_cons,
          List.cons_append, List.cons.injEq, Prod.mk.injEq] at hSame
        exact absurd hSame.1.2 hImage

end Run

/-- A word is no longer than the text up to a character that does not occur in it. -/
theorem prefix_append_cons_iff {word : List Char} {next : Char} (hNext : next ∉ word) (target rest : List Char) :
    word <+: target ++ next :: rest ↔ word <+: target := by
  induction target generalizing word with
  | nil =>
      cases word with
      | nil => simp
      | cons c word =>
          rw [List.nil_append, List.cons_prefix_cons, List.prefix_nil]
          constructor
          · rintro ⟨rfl, _⟩
            exact absurd (List.mem_cons_self ..) hNext
          · intro hNil
            cases hNil
  | cons c target ih =>
      cases word with
      | nil => simp
      | cons d word =>
          rw [List.cons_append, List.cons_prefix_cons, List.cons_prefix_cons,
            ih fun hMem => hNext (List.mem_cons_of_mem _ hMem)]

/-- An instruction looks like a declaration if its target starts with `xml`. -/
theorem Instruction.declaration_prefix_iff (part : Instruction) (rest : List Char) :
    ['<', '?', 'x', 'm', 'l'] <+: part.text ++ rest ↔ ['x', 'm', 'l'] <+: part.target := by
  have hText : part.text ++ rest = '<' :: '?' :: (part.target ++ (part.body ++ '?' :: '>' :: rest)) := by
    simp [text]
  -- Behind the target comes a blank or the `?>`, and so nothing that would complete a shorter target to `xml`.
  have hNext : ∃ next after, part.body ++ '?' :: '>' :: rest = next :: after ∧ next ∉ ['x', 'm', 'l'] := by
    cases hBody : part.body with
    | nil => exact ⟨'?', '>' :: rest, rfl, by decide⟩
    | cons c body =>
        have hBlank : isWhiteSpace c = true := part.separated c (by rw [hBody]; rfl)
        have hLetters : ['x', 'm', 'l'].all (fun letter => !isWhiteSpace letter) = true := by decide
        refine ⟨c, _, rfl, fun hMem => ?_⟩
        have hLetter := List.all_eq_true.mp hLetters c hMem
        rw [hBlank] at hLetter
        cases hLetter
  obtain ⟨next, after, hAfter, hLetter⟩ := hNext
  rw [hText, List.cons_prefix_cons, List.cons_prefix_cons, hAfter, prefix_append_cons_iff hLetter]
  simp

section Text

variable (preface : Preface)

/-- The text starts like a declaration only if it starts with an instruction that does. -/
theorem startsWith_declaration_iff : Lexeme.startsWith "<?xml" preface.text = true ↔
    ∃ part, preface.constructs.head? = some (.instruction part) ∧ ['x', 'm', 'l'] <+: part.target := by
  rw [Lexeme.startsWith, List.isPrefixOf_iff_prefix, show "<?xml".toList = ['<', '?', 'x', 'm', 'l'] from rfl, text]
  cases preface.constructs with
  | nil =>
      refine iff_of_false (by decide) ?_
      rintro ⟨part, hHead, _⟩
      cases hHead
  | cons construct constructs =>
      rw [textOf, List.flatMap_cons, List.append_assoc, List.head?_cons]
      cases construct with
      | instruction part =>
          rw [Construct.text, part.declaration_prefix_iff]
          constructor
          · exact fun hTarget => ⟨part, rfl, hTarget⟩
          · rintro ⟨other, hSame, hTarget⟩
            cases hSame
            exact hTarget
      | comment part =>
          refine iff_of_false ?_ ?_
          · intro hStarts
            have hSecond := (List.cons_prefix_cons.mp (List.cons_prefix_cons.mp hStarts).2).1
            exact absurd hSecond (by decide)
          · rintro ⟨other, hSame, _⟩
            cases hSame
      | blanks run hNonempty =>
          refine iff_of_false ?_ ?_
          · obtain ⟨c, others, hText⟩ := List.exists_cons_of_ne_nil hNonempty
            rw [Construct.text, hText, List.cons_append, List.cons_prefix_cons]
            rintro ⟨rfl, _⟩
            exact absurd (run.blank '<' (by simp [hText])) (by decide)
          · rintro ⟨other, hSame, _⟩
            cases hSame

theorem length_le_length_textOf (constructs : List Construct) : constructs.length ≤ (textOf constructs).length := by
  induction constructs with
  | nil => exact Nat.le_refl _
  | cons construct constructs ih =>
      have hPos : 0 < construct.text.length := by
        cases construct with
        | blanks run hNonempty => exact List.length_pos_iff.mpr hNonempty
        | comment part => exact Nat.succ_pos _
        | instruction part => exact Nat.succ_pos _
      rw [textOf, List.flatMap_cons, List.length_append, List.length_cons]
      rw [textOf] at ih
      omega

theorem length_lt_budget : preface.constructs.length < preface.text.length + 1 := by
  have hLength := length_le_length_textOf preface.constructs
  rw [text, List.length_append]
  omega

/-- `<r/>` is read at the end of the text. -/
theorem root?_eq {budget : Nat} (hBudget : preface.text.length ≤ budget) :
    Reader.root? budget ⟨(textOf preface.constructs).length, root.text⟩ =
      (some (root.tree (textOf preface.constructs).length), ⟨preface.text.length, []⟩) := by
  have hWithin : (⟨(textOf preface.constructs).length, root.text⟩ : Input).Within preface.text := by
    constructor
    · simp [text]
    · simp [text]
  have hRead := root.read (textOf preface.constructs).length []
  rw [List.append_nil] at hRead
  have hElement := hRead.element_eq hWithin (List.cons_ne_nil _ _) (show root.text.length ≤ budget by
    rw [text, List.length_append] at hBudget
    omega)
  have hStarts : ((⟨(textOf preface.constructs).length, root.text⟩ : Input).startsWith "<"
      && !(⟨(textOf preface.constructs).length, root.text⟩ : Input).startsWith "</") = true := rfl
  rw [Reader.root?, if_pos hStarts, hElement, text, List.length_append]

theorem prolog?_of_undeclared (hDeclared : Lexeme.startsWith "<?xml" preface.text = false) :
    Reader.prolog? ⟨0, preface.text⟩ = (none, ⟨0, preface.text⟩) := by
  rw [Reader.prolog?, Input.startsWith, hDeclared]
  rfl

theorem document_of_misc {found : List Misc} (hDeclared : Lexeme.startsWith "<?xml" preface.text = false)
    (hMisc : Reader.misc (preface.text.length + 1) ⟨0, preface.text⟩ =
      (found, ⟨(textOf preface.constructs).length, root.text⟩)) :
    Reader.document ⟨0, preface.text⟩ =
      (⟨none, found, some (root.tree (textOf preface.constructs).length), ⟨0, preface.text.length - 1⟩⟩,
        ⟨preface.text.length, []⟩) := by
  have hAfter : Reader.misc (preface.text.length + 1) ⟨preface.text.length, []⟩ = ([], ⟨preface.text.length, []⟩) :=
    Reader.misc_of_none preface.text.length rfl
  simp only [Reader.document, preface.prolog?_of_undeclared hDeclared, hMisc, preface.root?_eq (Nat.le_succ _), hAfter,
    List.append_nil]

variable {snapshot : Snapshot}

/-- Where every end is found and no declaration seems to come, the text is read as it was meant. -/
theorem readAs_of_endsAsWritten (hSnapshot : Snapshot.ofText (String.ofList preface.text) = .ok snapshot)
    (hEnds : ∀ construct ∈ preface.constructs, construct.EndsAsWritten)
    (hDeclared : Lexeme.startsWith "<?xml" preface.text = false) : preface.ReadAs snapshot := by
  obtain ⟨found, hMisc, hFound⟩ := misc_of_endsAsWritten preface.apart hEnds 0 preface.length_lt_budget
  rw [Nat.zero_add] at hMisc
  have hTree := Snapshot.tree_eq_of_ofText hSnapshot
    (by rw [String.toList_ofList, preface.document_of_misc hDeclared hMisc])
  have hRoot : snapshot.tree.element = some (root.tree (textOf preface.constructs).length) := by rw [hTree]
  have hFirst : snapshot.document.root = some 0 := by
    rw [(Snapshot.aligned_of_ofText hSnapshot).root, hRoot, Option.map_some]
  refine ⟨by rw [hTree], by rw [hTree]; exact hFound, by rw [hRoot]; rfl, ?_⟩
  rw [Document.rootElement?, hFirst, Option.bind_some, Document.element?, Snapshot.elements_eq_rows hSnapshot hRoot,
    Document.rows_eq]
  rfl

theorem endsAsWritten_of_readAs (hSnapshot : Snapshot.ofText (String.ofList preface.text) = .ok snapshot)
    (hRead : preface.ReadAs snapshot) :
    (∀ construct ∈ preface.constructs, construct.EndsAsWritten) ∧ Lexeme.startsWith "<?xml" preface.text = false := by
  have hTree := Snapshot.tree_eq_of_ofText hSnapshot (by rw [String.toList_ofList])
  have hProlog := hRead.noProlog
  have hMisc := hRead.misc
  simp only [hTree, Reader.document] at hProlog hMisc
  have hDeclared : Lexeme.startsWith "<?xml" preface.text = false := by
    by_contra hDeclared
    rw [Bool.not_eq_false] at hDeclared
    simp [Reader.prolog?, Input.startsWith, hDeclared] at hProlog
  rw [preface.prolog?_of_undeclared hDeclared, List.map_append] at hMisc
  exact ⟨endsAsWritten_of_misc preface.apart 0 preface.length_lt_budget hMisc, hDeclared⟩

end Text

/-- Comments, instructions and blanks in front of `<r/>` are read one by one, each with its kind and its whole text,
exactly if no comment starts with `>` or `->` behind its opening and the first construct is not an instruction whose
target starts with `xml`. -/
theorem exists_readAs_iff (preface : Preface) :
    (∃ snapshot, Snapshot.ofText (String.ofList preface.text) = .ok snapshot ∧ preface.ReadAs snapshot) ↔
      (∀ part, .comment part ∈ preface.constructs → ¬ ['>'] <+: part.body ∧ ¬ ['-', '>'] <+: part.body) ∧
      ∀ part, preface.constructs.head? = some (.instruction part) → ¬ ['x', 'm', 'l'] <+: part.target := by
  have hEnds : (∀ construct ∈ preface.constructs, construct.EndsAsWritten) ↔
      ∀ part, .comment part ∈ preface.constructs → ¬ ['>'] <+: part.body ∧ ¬ ['-', '>'] <+: part.body := by
    refine ⟨fun hEnds part hMem => hEnds _ hMem, fun hEnds construct hMem => ?_⟩
    cases construct with
    | comment part => exact hEnds part hMem
    | blanks _ _ => trivial
    | instruction _ => trivial
  have hDeclared : Lexeme.startsWith "<?xml" preface.text = false ↔
      ∀ part, preface.constructs.head? = some (.instruction part) → ¬ ['x', 'm', 'l'] <+: part.target := by
    rw [← Bool.not_eq_true, startsWith_declaration_iff, not_exists]
    exact forall_congr' fun part => not_and
  rw [← hEnds, ← hDeclared]
  constructor
  · rintro ⟨snapshot, hSnapshot, hRead⟩
    exact preface.endsAsWritten_of_readAs hSnapshot hRead
  · rintro ⟨hEnds, hDeclared⟩
    obtain ⟨snapshot, hSnapshot⟩ : ∃ snapshot, Snapshot.ofText (String.ofList preface.text) = .ok snapshot :=
      ⟨_, Snapshot.ofText_eq _⟩
    exact ⟨snapshot, hSnapshot, preface.readAs_of_endsAsWritten hSnapshot hEnds hDeclared⟩

/-- `<!-->-->` is a comment with the body `>`, but it is read as the comment `<!-->` and something else. An instruction
for `xml-stylesheet` at the head of the text is read as a declaration. -/
theorem not_readAs_comment_stylesheet :
    (∃ comment : Preface, String.ofList comment.text = "<!-->--><r/>" ∧
      ¬ ∃ snapshot, Snapshot.ofText "<!-->--><r/>" = .ok snapshot ∧ comment.ReadAs snapshot) ∧
    ∃ stylesheet : Preface, String.ofList stylesheet.text = "<?xml-stylesheet href=\"a.css\"?><r/>" ∧
      ¬ ∃ snapshot, Snapshot.ofText "<?xml-stylesheet href=\"a.css\"?><r/>" = .ok snapshot ∧
        stylesheet.ReadAs snapshot := by
  constructor
  · let comment : Preface := ⟨[.comment ⟨['>'], by decide, by decide⟩], .singleton _⟩
    have hText : String.ofList comment.text = "<!-->--><r/>" := by decide
    refine ⟨comment, hText, ?_⟩
    rintro ⟨snapshot, hSnapshot, hRead⟩
    rw [← hText] at hSnapshot
    have hEnds := (comment.endsAsWritten_of_readAs hSnapshot hRead).1 _ (List.mem_cons_self ..)
    exact hEnds.1 (List.prefix_refl _)
  · let part : Instruction :=
      { target := "xml-stylesheet".toList
        body := ' ' :: "href=\"a.css\"".toList
        nonempty := by decide
        isWord := by
          have hWord : "xml-stylesheet".toList.all (fun c => !isWhiteSpace c && c != '?') = true := by decide
          intro c hMem
          simpa using List.all_eq_true.mp hWord c hMem
        notXml := by decide
        separated := by rintro c ⟨⟩; decide
        unclosed := by decide }
    let stylesheet : Preface := ⟨[.instruction part], .singleton _⟩
    have hText : String.ofList stylesheet.text = "<?xml-stylesheet href=\"a.css\"?><r/>" := by decide
    refine ⟨stylesheet, hText, ?_⟩
    rintro ⟨snapshot, hSnapshot, hRead⟩
    rw [← hText] at hSnapshot
    exact absurd (stylesheet.endsAsWritten_of_readAs hSnapshot hRead).2 (by decide)

end Preface

end ContentAssist.Markup
