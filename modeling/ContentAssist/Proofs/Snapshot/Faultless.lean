import ContentAssist.Proofs.Document.Alignment
import ContentAssist.Proofs.Snapshot.Steps

/-! No text makes the machine fault. An element is inserted before it is changed, and at its end the document has the
rows of the element; each round of its content takes at least one character. So the machine leaves the tree of the text
and the document of the tree. -/
namespace ContentAssist.Machine

open Markup (Input ContentPart)
open Markup.Reader (StartTag EndTag ElementRead PartsRead startTag_passes startTag_rest_lt contentOf assemble_parts)
open Document (rows siblingRows siblingNumbers)

variable {source : List Char} {input next : Input} {document attached changed : Document} {place : Nat}
  {child : Step Markup.Element} {part : ContentPart}

theorem change_runs {Result : Type} {result : Result}
    {update : Document → Except Document.ChangeError (Result × Document)} (position : Nat)
    (hUpdate : update document = .ok (result, changed)) :
    Runs source (change update) ⟨position, document⟩ result ⟨position, changed⟩ := by
  refine (show Runs source get _ (⟨position, document⟩ : State) _ from rfl).bind ?_
  simp only [hUpdate]
  rfl

/-- An element that the document has can be changed. -/
theorem changeElement_runs (position : Nat) (update : Document.Element → Document.Element)
    (hPlace : place < document.elements.length) :
    Runs source (changeElement place update) ⟨position, document⟩ ()
      ⟨position, { document with elements := document.elements.modify place update }⟩ := by
  apply change_runs
  rw [Document.modify, if_pos hPlace]
  rfl

/-- The element with more sub-elements and more texts behind those that it has. -/
def gather (numbers : List Nat) (texts : List Document.Text) (element : Document.Element) : Document.Element :=
  { element with subElements := element.subElements ++ numbers, texts := element.texts ++ texts }

theorem gather_nil : gather [] [] = id := by
  funext element
  simp [gather]

theorem gather_comp (first second : List Nat) (before after : List Document.Text) :
    gather second after ∘ gather first before = gather (first ++ second) (before ++ after) := by
  funext element
  simp [gather]

/-- The document after the parts of content have been read into the element at the place. -/
def withParts (document : Document) (place : Nat) (parts : List ContentPart) : Document :=
  { document with
    elements := document.elements.modify place
        (gather (siblingNumbers document.elements.length (parts.filterMap ContentPart.element?))
          ((parts.filterMap ContentPart.text?).map .ofMarkup))
      ++ siblingRows document.elements.length place (parts.filterMap ContentPart.element?) }

theorem withParts_nil (document : Document) (place : Nat) : withParts document place [] = document := by
  simp only [withParts, List.filterMap_nil, List.map_nil, siblingNumbers, siblingRows, gather_nil, List.modify_id,
    List.append_nil]

/-- Text goes to the texts of the element. -/
theorem withParts_text (document : Document) (place : Nat) (run : Markup.CharacterData) :
    withParts document place [.text run] = { document with
      elements := document.elements.modify place fun element =>
        { element with texts := element.texts ++ [.ofMarkup run] } } := by
  have hGather : gather [] [.ofMarkup run] =
      fun element => { element with texts := element.texts ++ [.ofMarkup run] } := by
    funext element
    simp [gather]
  rw [← hGather]
  simp only [withParts, List.filterMap_cons, List.filterMap_nil, ContentPart.element?, ContentPart.text?,
    siblingNumbers, siblingRows, List.map_cons, List.map_nil, List.append_nil]

/-- A child is added behind the elements that are there, and the element refers to it. -/
theorem withParts_child (child : Markup.Element) (hPlace : place < document.elements.length) :
    ∃ attached, document.attach (some place) = .ok attached ∧
      withParts document place [.element child] = { attached with
        elements := attached.elements ++ rows document.elements.length (some place) child } := by
  refine ⟨_, Document.attach_some hPlace, ?_⟩
  have hGather : gather [document.elements.length] [] = Document.Element.addSubElements [document.elements.length] := by
    funext element
    simp [gather, Document.Element.addSubElements]
  rw [← hGather]
  simp only [withParts, List.filterMap_cons, List.filterMap_nil, ContentPart.element?, ContentPart.text?,
    siblingNumbers, siblingRows, List.map_nil, List.append_nil]

theorem lt_length_withParts (parts : List ContentPart) (hPlace : place < document.elements.length) :
    place < (withParts document place parts).elements.length := by
  simp only [withParts, List.length_append, List.length_modify]
  omega

theorem withParts_cons (part : ContentPart) (others : List ContentPart) (hPlace : place < document.elements.length) :
    withParts (withParts document place [part]) place others = withParts document place (part :: others) := by
  cases hChild : part.element? with
  | none =>
      simp only [withParts, List.filterMap_cons_none hChild, List.filterMap_nil, siblingNumbers, siblingRows,
        List.append_nil, List.length_modify, List.modify_modify_eq, gather_comp, List.nil_append, ← List.map_append,
        ← List.filterMap_append, List.singleton_append]
  | some child =>
      have hLonger : place < (document.elements.modify place
          (gather [document.elements.length] (([part].filterMap ContentPart.text?).map .ofMarkup))).length := by
        rwa [List.length_modify]
      simp only [withParts, List.filterMap_cons_some hChild, List.filterMap_nil, siblingNumbers, siblingRows,
        List.append_nil, List.length_append, List.length_modify, Document.length_rows,
        Document.modify_append_of_lt _ _ _ hLonger, List.modify_modify_eq, gather_comp, List.append_assoc,
        ← List.map_append, ← List.filterMap_append, List.singleton_append]

theorem partRound_reads_last (h : input.Within source) (hEnd : Markup.Reader.atContentEnd input = true) :
    Reads source (partRound child place) input (.last ()) input := by
  refine (atEnd_reads h).bind ((starts_reads h "</").bind ?_)
  rw [Markup.Reader.atContentEnd] at hEnd
  rw [if_pos hEnd]
  exact Reads.pure _ _

theorem partRound_runs_child {markup : Markup.Element} {after : State} (h : input.Within source)
    (hEnd : Markup.Reader.atContentEnd input = false) (hAt : Markup.Reader.atElement input = true)
    (hChild : Runs source child ⟨input.offset, document⟩ markup after) :
    Runs source (partRound child place) ⟨input.offset, document⟩ (.next (some (.element markup))) after := by
  rw [Markup.Reader.atContentEnd] at hEnd
  simp only [Markup.Reader.atElement, Bool.and_eq_true, Bool.not_eq_true'] at hAt
  obtain ⟨⟨⟨hAngle, hComment⟩, hSection⟩, hInstruction⟩ := hAt
  refine (atEnd_reads h document).bind ((starts_reads h "</" document).bind ?_)
  rw [hEnd]
  refine (starts_reads h "<!--" document).bind ?_
  rw [hComment]
  refine (starts_reads h "<![CDATA[" document).bind ?_
  rw [hSection]
  refine (starts_reads h "<?" document).bind ?_
  rw [hInstruction]
  refine (starts_reads h "<" document).bind ?_
  rw [hAngle]
  exact hChild.bind (Runs.pure _ _)

/-- A part that is neither an element nor text leaves the document as it is. -/
theorem Reads.withParts {step : Step (Round ContentPart Unit)} (document : Document) (place : Nat)
    (hReads : Reads source step input (.next (some part)) next) (hElement : part.element? = none)
    (hText : part.text? = none) :
    Runs source step ⟨input.offset, document⟩ (.next (some part)) ⟨next.offset, withParts document place [part]⟩ := by
  have hSame : Machine.withParts document place [part] = Machine.withParts document place [] := by
    simp only [Machine.withParts, List.filterMap_cons_none hElement, List.filterMap_cons_none hText]
  rw [hSame, withParts_nil]
  exact hReads document

theorem partRound_runs_leaf (h : input.Within source) (hEnd : Markup.Reader.atContentEnd input = false)
    (hAt : Markup.Reader.atElement input = false) (hLeaf : Markup.Reader.leaf input = (part, next))
    (hPlace : place < document.elements.length) :
    Runs source (partRound child place) ⟨input.offset, document⟩ (.next (some part))
      ⟨next.offset, withParts document place [part]⟩ := by
  have hRest := Markup.Reader.rest_ne_nil_of_atContentEnd hEnd
  rw [Markup.Reader.atContentEnd] at hEnd
  unfold Markup.Reader.leaf at hLeaf
  refine (atEnd_reads h document).bind ((starts_reads h "</" document).bind ?_)
  rw [hEnd]
  refine (starts_reads h "<!--" document).bind ?_
  by_cases hComment : input.startsWith "<!--" = true
  · have hLength : 4 ≤ input.rest.length := Markup.Lexeme.length_le_of_startsWith hComment
    rw [if_pos hComment] at hLeaf ⊢
    cases hLeaf
    refine Reads.withParts document place ?_ rfl rfl
    exact (delimited_reads .comment "-->" h (by omega)).bind (Reads.pure _ _)
  rw [if_neg hComment] at hLeaf ⊢
  refine (starts_reads h "<![CDATA[" document).bind ?_
  by_cases hSection : input.startsWith "<![CDATA[" = true
  · have hLength : 9 ≤ input.rest.length := Markup.Lexeme.length_le_of_startsWith hSection
    rw [if_pos hSection] at hLeaf ⊢
    cases hLeaf
    refine Reads.withParts document place ?_ rfl rfl
    exact (delimited_reads .cdata "]]>" h (by omega)).bind (Reads.pure _ _)
  rw [if_neg hSection] at hLeaf ⊢
  refine (starts_reads h "<?" document).bind ?_
  by_cases hInstruction : input.startsWith "<?" = true
  · have hLength : 2 ≤ input.rest.length := Markup.Lexeme.length_le_of_startsWith hInstruction
    rw [if_pos hInstruction] at hLeaf ⊢
    cases hLeaf
    refine Reads.withParts document place ?_ rfl rfl
    exact (delimited_reads .processingInstruction "?>" h hLength).bind (Reads.pure _ _)
  rw [if_neg hInstruction] at hLeaf ⊢
  have hAngle : ¬input.startsWith "<" = true := by
    simp_all [Markup.Reader.atElement]
  refine (starts_reads h "<" document).bind ?_
  rw [if_neg hAngle]
  refine (rest_reads h document).bind ?_
  cases hReference : Markup.Lexeme.referenceLength? input.rest with
  | some reference =>
      obtain ⟨isCharacter, length⟩ := reference
      simp only [hReference] at hLeaf
      cases hLeaf
      have hBound := (Markup.Lexeme.referenceLength?_bounds hReference).2
      refine Reads.withParts document place ?_ rfl rfl
      exact (token_reads h _ hBound).bind (Reads.pure _ _)
  | none =>
      simp only [hReference] at hLeaf
      cases hLeaf
      rw [withParts_text]
      exact (text_reads h hRest document).bind ((changeElement_runs _ _ hPlace).bind (Runs.pure _ _))

/-- Reading a part and then the others. -/
theorem rounds_partRound_cons {others : List ContentPart} {middle last : Input} {budget : Nat}
    (hPlace : place < document.elements.length) (hForward : input.offset < middle.offset)
    (hRound : Runs source (partRound child place) ⟨input.offset, document⟩ (.next (some part))
      ⟨middle.offset, withParts document place [part]⟩)
    (hOthers : ∀ grown : Document, place < grown.elements.length →
      Runs source (rounds (partRound child place) budget) ⟨middle.offset, grown⟩ (others, ())
        ⟨last.offset, withParts grown place others⟩) :
    Runs source (rounds (partRound child place) (budget + 1)) ⟨input.offset, document⟩ (part :: others, ())
      ⟨last.offset, withParts document place (part :: others)⟩ := by
  have hLater := hOthers (withParts document place [part]) (lt_length_withParts [part] hPlace)
  rw [withParts_cons part others hPlace] at hLater
  exact hRound.nextRound hForward hLater

/-- The element with its opening tag only, as it stands in the document. -/
def placed (id : Nat) (parent : Option Nat) (start : StartTag) : Document.Element :=
  { elementOf start with
    id := id
    parent := parent
    attributes := (elementOf start).attributes.map fun attr => { attr with owner := id } }

theorem insert_elementOf {parent : Option Nat} (start : StartTag) (hAttach : document.attach parent = .ok attached) :
    document.insert parent (elementOf start) = .ok (document.elements.length,
      { attached with elements := attached.elements ++ [placed document.elements.length parent start] }) := by
  rw [Document.insert, hAttach]
  rfl

/-- An element is the first of its rows, when its parts were gathered and its places filled in. -/
theorem rows_assemble (id : Nat) (parent : Option Nat) (start : StartTag) (content : Option Markup.Content)
    (finish : EndTag) :
    let markup := Markup.Reader.assemble start content finish
    rows id parent markup =
      fillIn markup (gather (siblingNumbers (id + 1) markup.children) (markup.runs.map .ofMarkup)
        (placed id parent start)) :: siblingRows (id + 1) id markup.children := by
  intro markup
  have hTexts := Document.row_texts id parent markup [] markup
  have hNumbers := Document.siblingNumbers_eq id markup
  rw [Document.rows_eq, ← hTexts, hNumbers]
  rfl

/-- At its end the element has become the rows of what was read. -/
theorem changeElement_fillIn_runs {id : Nat} (position : Nat) (parent : Option Nat) (start : StartTag)
    (content : Option Markup.Content) (finish : EndTag) (hLength : attached.elements.length = id) :
    let markup := Markup.Reader.assemble start content finish
    let inserted : Document := { attached with elements := attached.elements ++ [placed id parent start] }
    Runs source (changeElement id (fillIn markup)) ⟨position, withParts inserted id markup.parts⟩ ()
      ⟨position, { attached with elements := attached.elements ++ rows id parent markup }⟩ := by
  intro markup inserted
  have hInserted : id < inserted.elements.length := by
    simp [inserted, hLength]
  have hChanged : Runs source _ _ _ _ :=
    changeElement_runs position (fillIn markup) (lt_length_withParts markup.parts hInserted)
  have hGathered : (withParts inserted id markup.parts).elements = attached.elements ++
      [gather (siblingNumbers (id + 1) markup.children) (markup.runs.map .ofMarkup) (placed id parent start)] ++
      siblingRows (id + 1) id markup.children := by
    simp only [withParts, inserted, List.length_append, List.length_singleton, hLength]
    rw [← hLength, Document.modify_append_singleton]
    rfl
  have hFilled : (withParts inserted id markup.parts).elements.modify id (fillIn markup) =
      attached.elements ++ rows id parent markup := by
    rw [hGathered, Document.modify_append_of_lt _ _ _ (by simp [hLength]), rows_assemble, ← hLength,
      Document.modify_append_singleton, List.append_assoc, List.singleton_append]
  rw [hFilled] at hChanged
  exact hChanged

-- The induction is over the reading. What it carries is the document: an element turns the document that is ready to
-- refer to it into the one with its rows, and parts turn it into the one with the parts.
mutual

/-- An element is read into the document without a fault. -/
theorem element_runs {depth : Nat} {input next : Input} {markup : Markup.Element} {document attached : Document}
    {parent : Option Nat} (h : input.Within source) (hRest : input.rest ≠ []) (hDepth : input.rest.length ≤ depth)
    (hAttach : document.attach parent = .ok attached) : ElementRead input markup next →
    Runs source (element depth parent) ⟨input.offset, document⟩ markup ⟨next.offset, { attached with
      elements := attached.elements ++ rows document.elements.length parent markup }⟩
  | @ElementRead.bare _ _ start hStart hOpen => by
      obtain ⟨depth, rfl⟩ := Nat.exists_eq_succ_of_ne_zero
        (Nat.ne_of_gt ((List.length_pos_iff.mpr hRest).trans_le hDepth))
      have hFilled : Runs source _ _ _ _ :=
        changeElement_fillIn_runs next.offset parent start none ⟨none, none, none⟩ (Document.attach_length hAttach)
      have hNoParts : (Markup.Reader.assemble start none ⟨none, none, none⟩).parts = [] := rfl
      rw [hNoParts, withParts_nil] at hFilled
      refine (startTag_reads h hRest hStart document).bind ((change_runs _ (insert_elementOf start hAttach)).bind ?_)
      rw [hOpen]
      exact hFilled.bind (Runs.pure _ _)
  | @ElementRead.enclosing _ afterStart afterContent _ start found finish hStart hOpen body hFinish => by
      obtain ⟨depth, rfl⟩ := Nat.exists_eq_succ_of_ne_zero
        (Nat.ne_of_gt ((List.length_pos_iff.mpr hRest).trans_le hDepth))
      -- `<` and `>` are two characters, so the depth that is left is enough for whatever lies between the tags.
      have hStarted := startTag_passes h hRest hStart
      have hShorter := startTag_rest_lt h hRest hStart hOpen
      have hLength := hStarted.within.length
      have hBody := body.passes hStarted.within
      have hFilled : Runs source _ _ _ _ :=
        changeElement_fillIn_runs next.offset parent start (some (contentOf afterStart.offset found)) finish
          (Document.attach_length hAttach)
      rw [assemble_parts] at hFilled
      refine (startTag_reads h hRest hStart document).bind ((change_runs _ (insert_elementOf start hAttach)).bind ?_)
      rw [if_pos hOpen]
      refine (position_reads _).bind ?_
      refine (parts_runs hStarted.within (by omega) (by omega) ?_ body).loop.bind ?_
      · rw [List.length_append, Document.attach_length hAttach]
        exact Nat.lt_succ_self _
      exact (endTag_reads hBody.within hFinish _).bind (hFilled.bind (Runs.pure _ _))

/-- So are the parts of its content, under an element that the document has. -/
theorem parts_runs {depth budget place : Nat} {input last : Input} {found : List ContentPart} {document : Document}
    (h : input.Within source) (hDepth : input.rest.length ≤ depth) (hBudget : input.rest.length < budget)
    (hPlace : place < document.elements.length) : PartsRead input found last →
    Runs source (rounds (partRound (element depth (some place)) place) budget) ⟨input.offset, document⟩ (found, ())
      ⟨last.offset, withParts document place found⟩
  | .done hEnd => by
      obtain ⟨budget, rfl⟩ := Nat.exists_eq_succ_of_ne_zero (Nat.ne_of_gt ((Nat.zero_le _).trans_lt hBudget))
      rw [withParts_nil]
      exact (partRound_reads_last h hEnd document).lastRound budget
  | .child hEnd hAt first rest => by
      obtain ⟨budget, rfl⟩ := Nat.exists_eq_succ_of_ne_zero (Nat.ne_of_gt ((Nat.zero_le _).trans_lt hBudget))
      have hRest := Markup.Reader.rest_ne_nil_of_atContentEnd hEnd
      have hPasses := first.passes h hRest
      have hShorter := hPasses.rest_lt h (first.covers h hRest).ne_nil
      obtain ⟨attached, hAttach, hDocument⟩ := withParts_child _ hPlace
      have hChild := element_runs h hRest hDepth hAttach first
      rw [← hDocument] at hChild
      refine rounds_partRound_cons hPlace (offset_lt_of_rest_lt h hPasses.within hShorter)
        (partRound_runs_child h hEnd hAt hChild) ?_
      exact fun grown hGrown => parts_runs hPasses.within (by omega) (by omega) hGrown rest
  | .leaf hEnd hAt hLeaf rest => by
      obtain ⟨budget, rfl⟩ := Nat.exists_eq_succ_of_ne_zero (Nat.ne_of_gt ((Nat.zero_le _).trans_lt hBudget))
      obtain ⟨token, _, _, _, hPasses⟩ :=
        Markup.Reader.leaf_passes h (Markup.Reader.rest_ne_nil_of_atContentEnd hEnd) hLeaf
      have hShorter := hPasses.rest_lt h (List.cons_ne_nil _ _)
      refine rounds_partRound_cons hPlace (offset_lt_of_rest_lt h hPasses.within hShorter)
        (partRound_runs_leaf h hEnd hAt hLeaf hPlace) ?_
      exact fun grown hGrown => parts_runs hPasses.within (by omega) (by omega) hGrown rest

end

/-- The root element is inserted into the empty document. -/
theorem root?_runs {budget : Nat} {tree : Markup.Tree} (h : input.Within source) (hBudget : input.rest.length ≤ budget)
    (hRead : Markup.Reader.root? budget input = (tree.element, next)) :
    Runs source root? ⟨input.offset, .empty tree.span⟩ tree.element ⟨next.offset, .ofOutline tree⟩ := by
  have hDocument := Document.ofTree_eq tree
  unfold Document.ofTree at hDocument
  refine (starts_reads h "<" _).bind ((starts_reads h "</" _).bind ?_)
  unfold Markup.Reader.root? at hRead
  by_cases hAt : (input.startsWith "<" && !input.startsWith "</") = true
  · rw [if_pos hAt] at hRead ⊢
    have hRest : input.rest ≠ [] :=
      List.length_pos_iff.mp (Markup.Lexeme.length_le_of_startsWith (Bool.and_eq_true_iff.mp hAt).1)
    have hElement := (Markup.Reader.reads_of_budget budget).1 input h hRest hBudget
    rcases hRoot : Markup.Reader.element budget input with ⟨root, behind⟩
    rw [hRoot] at hElement hRead
    obtain ⟨hIs, rfl⟩ := Prod.mk.injEq .. ▸ hRead
    rw [← hIs] at hDocument ⊢
    have hAttach : (Document.empty tree.span).attach none = .ok _ := rfl
    have hLength := h.length
    have hInserted := (Document.insertMarkup_ok root _ _ none hAttach).symm.trans hDocument
    rw [← Except.ok.inj hInserted]
    exact (read_runs _).bind ((element_runs h hRest (by omega) hAttach hElement).bind (Runs.pure _ _))
  · rw [if_neg hAt] at hRead ⊢
    obtain ⟨hIs, rfl⟩ := Prod.mk.injEq .. ▸ hRead
    rw [← hIs] at hDocument ⊢
    rw [← Except.ok.inj hDocument]
    exact Runs.pure _ _

/-- The machine reads the tree of the text and leaves the document of the tree. -/
theorem tree_runs {markup : Markup.Tree} {last : Input} (hRead : Markup.Reader.document ⟨0, source⟩ = (markup, last)) :
    Runs source tree ⟨0, .empty ⟨0, source.length - 1⟩⟩ markup ⟨last.offset, .ofOutline markup⟩ := by
  obtain ⟨before, after, afterProlog, atRoot, afterRoot, hProlog, hBefore, hRoot, hAfter, hMisc⟩ :=
    Markup.Reader.document_steps hRead
  have hSpan : markup.span = ⟨0, source.length - 1⟩ := by
    simp only [Markup.Reader.document, hProlog, hBefore, hRoot, hAfter, Prod.mk.injEq] at hRead
    rw [← hRead.1]
  have hStart : (⟨0, source⟩ : Input).Within source := ⟨rfl, Nat.zero_le _⟩
  have hDeclared := prolog?_reads hStart
  have hAtMisc := (Markup.Reader.prolog?_passes hStart).within
  rw [hProlog] at hDeclared hAtMisc
  have hLeading := loop_miscRound_reads hAtMisc
  have hAtRoot := (Markup.Reader.misc_passes (source.length + 1) hAtMisc).within
  rw [hBefore] at hLeading hAtRoot
  have hLength : atRoot.offset + atRoot.rest.length = source.length := hAtRoot.length
  have hElement := root?_runs hAtRoot (by simp only; omega) hRoot
  have hBehind := (Markup.Reader.root?_passes hAtRoot (show atRoot.rest.length ≤ source.length + 1 by omega)).within
  rw [hRoot] at hBehind
  have hTrailing := loop_miscRound_reads hBehind
  rw [hAfter] at hTrailing
  rw [hSpan] at hElement
  refine (hDeclared _).bind ((hLeading _).bind (hElement.bind ((hTrailing _).bind ((read_runs _).bind ?_))))
  rw [← hMisc, ← hSpan]
  exact Runs.pure _ _

/-- No text makes the machine fault, and what it leaves is the tree of the text with its document. -/
theorem run_without_fault (source : String) :
    ∃ snapshot, run source = .ok snapshot ∧ Snapshot.ofText source = .ok snapshot := by
  refine ⟨_, ?_, Snapshot.ofText_eq source⟩
  have hTree := tree_runs (rfl : Markup.Reader.document ⟨0, source.toList⟩ = (_, _))
  unfold Runs at hTree
  rw [run, hTree]
  rfl

end ContentAssist.Machine
