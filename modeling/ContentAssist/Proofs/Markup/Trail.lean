import ContentAssist.Proofs.Markup.Locality
import ContentAssist.Proofs.Markup.TokenOrder

/-! Where the reader stands when it comes to an element: which parts it has passed over in each of the elements
around it. This trail gives both the path of the element in the tree and its number in document order, and it is
fixed by the text before the element. So an element keeps its place and its number if the text from its `<` on is
replaced by another that opens a tag. -/
namespace ContentAssist.Markup

/-- The parts that were passed over in each of the elements around a place, from the outermost in. -/
abbrev Trail := List (List ContentPart)

namespace Trail

/-- In each element, the next child is the one whose number is that of the children passed over. -/
def path (trail : Trail) : List Nat :=
  trail.map fun passed => (passed.filterMap ContentPart.element?).length

/-- The elements around the place, and all that were passed over. -/
def number : Trail → Nat
  | [] => 0
  | passed :: trail =>
    let children := passed.filterMap ContentPart.element?
    1 + Element.sizeBefore children children.length + number trail

/-- The number of the innermost element around the place. -/
def parent? (trail : Trail) : Option Nat :=
  if trail = [] then none else some (number trail.dropLast)

@[simp] theorem path_append (outer inner : Trail) : path (outer ++ inner) = path outer ++ path inner :=
  List.map_append

@[simp] theorem parent?_concat (outer : Trail) (passed : List ContentPart) :
    parent? (outer ++ [passed]) = some (number outer) := by
  simp [parent?]

end Trail

theorem Element.sizeBefore_append (before after : List Element) :
    sizeBefore (before ++ after) before.length = sizeBefore before before.length := by
  induction before with
  | nil => exact sizeBefore_zero after
  | cons first rest ih => rw [List.cons_append, List.length_cons, sizeBefore, ih, sizeBefore]

/-- What was passed before the cut ends before it. -/
theorem Passes.endBefore {source : List Char} {input next : Input} {tokens : List Token} {stop : Nat}
    (h : Passes source input tokens next) (hStop : next.offset ≤ stop) : EndBefore stop tokens :=
  fun _ hToken => (h.laid.of_mem hToken).2.2.trans_le hStop

/-- A child stands behind as many children as its number says. -/
theorem exists_split_of_getElem?_filterMap {parts : List ContentPart} {index : Nat} {child : Element}
    (hChild : (parts.filterMap ContentPart.element?)[index]? = some child) :
    ∃ passed others, parts = passed ++ .element child :: others ∧
      (passed.filterMap ContentPart.element?).length = index := by
  induction parts generalizing index with
  | nil => cases hChild
  | cons part parts ih =>
      cases hPart : part.element? with
      | none =>
          rw [List.filterMap_cons_none hPart] at hChild
          obtain ⟨passed, others, rfl, hLength⟩ := ih hChild
          exact ⟨part :: passed, others, rfl, by rw [List.filterMap_cons_none hPart, hLength]⟩
      | some first =>
          rw [List.filterMap_cons_some hPart] at hChild
          cases index with
          | zero =>
              cases hChild
              cases part <;> cases hPart
              exact ⟨[], parts, rfl, rfl⟩
          | succ index =>
              obtain ⟨passed, others, rfl, hLength⟩ := ih hChild
              exact ⟨part :: passed, others, rfl, by rw [List.filterMap_cons_some hPart, List.length_cons, hLength]⟩

namespace Reader

variable {source tail : List Char} {stop : Nat} {input here next after : Input} {root found : Element} {trail : Trail}

/-- A barrier that is not empty opens an element. -/
theorem atElement_barrier (hTail : Barrier tail) (hNonempty : tail ≠ []) (offset : Nat) :
    atContentEnd ⟨offset, tail⟩ = false ∧ atElement ⟨offset, tail⟩ = true := by
  rcases hTail with rfl | ⟨c, rest, rfl, hName⟩
  · exact absurd rfl hNonempty
  · have hSlash : c ≠ '/' := Lexeme.ne_of_isNameStart hName (by decide)
    have hBang : c ≠ '!' := Lexeme.ne_of_isNameStart hName (by decide)
    have hQuestion : c ≠ '?' := Lexeme.ne_of_isNameStart hName (by decide)
    simp [atContentEnd, atElement, Input.startsWith, Lexeme.startsWith, List.isPrefixOf, hSlash.symm, hBang.symm,
      hQuestion.symm]

theorem atElement_cut_of_le (hTail : Barrier tail) (hNonempty : tail ≠ []) (hEnd : atContentEnd input = false)
    (hAt : atElement input = true) (hStop : input.offset ≤ stop) :
    atContentEnd (input.cut stop tail) = false ∧ atElement (input.cut stop tail) = true := by
  rcases Nat.lt_or_eq_of_le hStop with hLt | rfl
  · exact atElement_cut_of_lt hTail hEnd hAt hLt
  · rw [Input.cut_of_le le_rfl]
    exact atElement_barrier hTail hNonempty _

/-- The reader comes from the start of one element to the start of another that is the same or inside it. -/
inductive Reaches : Input → Trail → Input → Prop
  | here {input : Input} : Reaches input [] input
  | inside {input afterStart middle here : Input} {start : StartTag} {passed : List ContentPart} {trail : Trail}
      (hStart : startTag input = (start, afterStart)) (hOpen : start.startClose.isSome = true)
      (hPassed : PartsTo afterStart passed middle) (hEnd : atContentEnd middle = false)
      (hAt : atElement middle = true) (deeper : Reaches middle trail here) :
      Reaches input (passed :: trail) here

namespace Reaches

theorem trans {inner : Trail} {last : Input} (hReach : Reaches input trail here) (hInner : Reaches here inner last) :
    Reaches input (trail ++ inner) last := by
  induction hReach with
  | here => exact hInner
  | inside hStart hOpen hPassed hEnd hAt _ ih => exact .inside hStart hOpen hPassed hEnd hAt (ih hInner)

/-- On the way to an element the reader comes to all elements around it. -/
theorem split {outer inner : Trail} (hReach : Reaches input (outer ++ inner) here) :
    ∃ middle, Reaches input outer middle ∧ Reaches middle inner here := by
  induction outer generalizing input with
  | nil => exact ⟨input, .here, hReach⟩
  | cons passed outer ih =>
      cases hReach with
      | inside hStart hOpen hPassed hEnd hAt deeper =>
          obtain ⟨middle, hOuter, hInner⟩ := ih deeper
          exact ⟨middle, .inside hStart hOpen hPassed hEnd hAt hOuter, hInner⟩

/-- The way to the inner element leads forward. -/
theorem forward (hReach : Reaches input trail here) (h : input.Within source) (hRest : input.rest ≠ []) :
    here.Within source ∧ here.rest ≠ [] ∧ input.offset ≤ here.offset := by
  induction hReach with
  | here => exact ⟨h, hRest, le_rfl⟩
  | inside hStart _ hPassed hEnd _ _ ih =>
      have hStarted := startTag_passes h hRest hStart
      have hParts := hPassed.passes hStarted.within
      obtain ⟨hWithin, hGoesOn, hLater⟩ := ih hParts.within (rest_ne_nil_of_atContentEnd hEnd)
      exact ⟨hWithin, hGoesOn, (hStarted.laid.le.trans hParts.laid.le).trans hLater⟩

/-- Every element starts with `<`. -/
theorem angle (hReach : Reaches input trail here) (hInput : input.startsWith "<" = true) :
    here.startsWith "<" = true := by
  induction hReach with
  | here => exact hInput
  | inside _ _ _ _ hAt _ ih =>
      simp only [atElement, Bool.and_eq_true] at hAt
      exact ih hAt.1.1.1

/-- The element at the end of a trail is the one at the end of its path, and its number is that of the trail. -/
theorem at? (hReach : Reaches input trail here) (h : input.Within source) (hRest : input.rest ≠ [])
    (hRoot : ElementRead input root next) (hFound : ElementRead here found after) :
    root.at? trail.path = some found ∧ root.number trail.path = trail.number := by
  induction hReach generalizing root next with
  | here =>
      obtain ⟨rfl, _⟩ := hRoot.unique h hRest hFound
      exact ⟨rfl, rfl⟩
  | @inside input afterStart middle here start passed trail hStart hOpen hPassed hEnd hAt deeper ih =>
      cases hRoot with
      | bare hOther hNone =>
          rw [hStart, Prod.mk.injEq] at hOther
          rw [hOther.1, hNone] at hOpen
          cases hOpen
      | @enclosing _ _ _ _ _ parts finish hOther _ body _ =>
          rw [hStart, Prod.mk.injEq] at hOther
          obtain ⟨rfl, rfl⟩ := hOther
          have hStarted := startTag_passes h hRest hStart
          obtain ⟨others, rfl, hOthers⟩ := hPassed.initial hStarted.within body
          cases hOthers with
          | done hOther =>
              rw [hEnd] at hOther
              cases hOther
          | leaf _ hOther _ _ =>
              rw [hAt] at hOther
              cases hOther
          | @child _ _ _ child others _ _ first _ =>
              obtain ⟨hDown, hNumber⟩ := ih (hPassed.passes hStarted.within).within
                (rest_ne_nil_of_atContentEnd hEnd) first hFound
              have hChildren : (assemble start (some (contentOf afterStart.offset
                  (passed ++ .element child :: others))) finish).children =
                  passed.filterMap ContentPart.element? ++ child :: others.filterMap ContentPart.element? := by
                simp [Element.children, assemble_parts, ContentPart.element?]
              have hHere : (passed.filterMap ContentPart.element? ++ child :: others.filterMap ContentPart.element?)[
                  (passed.filterMap ContentPart.element?).length]? = some child := by
                simp
              simp only [Trail.path] at hDown hNumber
              simp only [Trail.path, Trail.number, List.map_cons, Element.at?, Element.number, hChildren, hHere,
                Element.sizeBefore_append, hDown, hNumber, Option.bind_some, and_self]

/-- To every element of a tree there is a trail. -/
theorem exists_of_at? {path : List Nat} (h : input.Within source) (hRest : input.rest ≠ [])
    (hRoot : ElementRead input root next) (hAt : root.at? path = some found) :
    ∃ trail here after, Reaches input trail here ∧ trail.path = path ∧ ElementRead here found after := by
  induction path generalizing input root next with
  | nil =>
      cases hAt
      exact ⟨[], input, next, .here, rfl, hRoot⟩
  | cons index path ih =>
      obtain ⟨child, hChild, hDown⟩ := Option.bind_eq_some_iff.mp hAt
      cases hRoot with
      | bare _ _ => cases hChild
      | @enclosing _ afterStart _ _ _ parts _ hStart hOpen body _ =>
          have hStarted := startTag_passes h hRest hStart
          rw [Element.children, assemble_parts] at hChild
          obtain ⟨passed, others, rfl, hIndex⟩ := exists_split_of_getElem?_filterMap hChild
          obtain ⟨middle, hPassed, hOthers⟩ := body.partsTo.1.split
          cases hOthers with
          | leaf hEnd _ hLeaf _ =>
              obtain ⟨_, _, _, _, _, _, hNone, _⟩ := leaf_steps (rest_ne_nil_of_atContentEnd hEnd) hLeaf
              cases hNone
          | child hEnd hAt first _ =>
              obtain ⟨trail, here, after, hReach, hPath, hRead⟩ := ih (hPassed.passes hStarted.within).within
                (rest_ne_nil_of_atContentEnd hEnd) first hDown
              refine ⟨passed :: trail, here, after, .inside hStart hOpen hPassed hEnd hAt hReach, ?_, hRead⟩
              rw [← hPath, ← hIndex]
              rfl

/-- The way to an element before the cut or at the cut is the same as before. -/
theorem cut (hTail : Barrier tail) (hNonempty : tail ≠ []) (hReach : Reaches input trail here)
    (h : input.Within source) (hRest : input.rest ≠ []) (hStop : here.offset ≤ stop) :
    Reaches (input.cut stop tail) trail (here.cut stop tail) := by
  induction hReach with
  | here => exact .here
  | @inside input afterStart middle here start passed trail hStart hOpen hPassed hEnd hAt deeper ih =>
      have hMiddle := rest_ne_nil_of_atContentEnd hEnd
      have hStarted := startTag_passes h hRest hStart
      have hParts := hPassed.passes hStarted.within
      obtain ⟨_, _, hLater⟩ := deeper.forward hParts.within hMiddle
      have hBound : middle.offset ≤ stop := hLater.trans hStop
      have hPassedCut := hPassed.cut_of_rest hTail hStarted.within hMiddle (hParts.endBefore hBound)
        (by simp [referenceLength?_of_atElement hAt])
      have hStartCut := startTag_cut hTail h hRest hStart (hStarted.endBefore (hParts.laid.le.trans hBound))
      obtain ⟨hEndCut, hAtCut⟩ := atElement_cut_of_le hTail hNonempty hEnd hAt hBound
      exact .inside hStartCut hOpen hPassedCut hEndCut hAtCut (ih hParts.within hMiddle hStop)

end Reaches

/-- The next comment, instruction or run of blanks outside the root element. -/
def item? (input : Input) : Option (Token × Input) :=
  if input.startsWith "<!--" then some (delimited .comment "-->" input)
  else if input.startsWith "<?" then some (delimited .processingInstruction "?>" input)
  else if Lexeme.blankLength input.rest = 0 then none
  else some (input.token .seaWhitespace (Lexeme.blankLength input.rest))

theorem misc_of_none (budget : Nat) (hItem : item? input = none) : misc (budget + 1) input = ([], input) := by
  rw [item?] at hItem
  simp only [misc, hItem]

theorem misc_of_some {token : Token} (budget : Nat) (hItem : item? input = some (token, next)) :
    misc (budget + 1) input = (⟨token⟩ :: (misc budget next).1, (misc budget next).2) := by
  rw [item?] at hItem
  simp only [misc, hItem]

theorem item?_passes {token : Token} (h : input.Within source) (hItem : item? input = some (token, next)) :
    Passes source input [token] next := by
  have hLength {word : String} (hWord : 2 ≤ word.length) (hStarts : input.startsWith word = true) :
      2 ≤ input.rest.length :=
    hWord.trans (Lexeme.length_le_of_startsWith hStarts)
  unfold item? at hItem
  split_ifs at hItem with hComment hInstruction hBlank
  · cases hItem
    exact delimited_passes _ _ h (hLength (by decide) hComment)
  · cases hItem
    exact delimited_passes _ _ h (hLength (by decide) hInstruction)
  · cases hItem
    exact Input.token_passes h _ _ (Nat.pos_of_ne_zero hBlank) (Lexeme.blankLength_le _)

theorem item?_cut_none (hTail : Barrier tail) (hItem : item? input = none) : item? (input.cut stop tail) = none := by
  have hBlanks : Lexeme.blankLength (input.cut stop tail).rest = _ := Lexeme.blankLength_cut hTail _ _
  unfold item? at hItem ⊢
  split_ifs at hItem with hComment hInstruction hBlank
  rw [Bool.not_eq_true] at hComment hInstruction
  rw [not_opening_cut hTail (by decide) hComment, not_opening_cut hTail (by decide) hInstruction, hBlanks, hBlank,
    Nat.min_zero]
  simp

theorem item?_cut {token : Token} (hTail : Barrier tail) (hItem : item? input = some (token, next))
    (hNext : next.rest ≠ []) (hStop : next.offset ≤ stop) :
    item? (input.cut stop tail) = some (token, next.cut stop tail) := by
  have hBlanks : Lexeme.blankLength (input.cut stop tail).rest = _ := Lexeme.blankLength_cut hTail _ _
  unfold item? at hItem ⊢
  split_ifs at hItem with hComment hInstruction hBlank
  · cases hItem
    have hLength : 3 + 2 ≤ _ := Lexeme.length_le_delimitedLength hNext
    have hEnd : input.offset + Lexeme.delimitedLength "-->" input.rest ≤ stop := hStop
    have hCut : (input.cut stop tail).startsWith "<!--" = _ := startsWith_opening_cut hTail (by decide) fun _ =>
      (Nat.add_le_add_left (show 4 ≤ _ by omega) _).trans hEnd
    rw [hCut, if_pos hComment, delimited_cut hTail (by decide) (by decide) hNext hStop]
    rfl
  · cases hItem
    have hLength : 2 ≤ Lexeme.delimitedLength "?>" input.rest := Nat.le_add_left _ _
    have hCut : (input.cut stop tail).startsWith "<?" = _ := startsWith_opening_cut hTail (by decide) fun _ =>
      (Nat.add_le_add_left hLength _).trans hStop
    rw [not_opening_cut hTail (by decide) (Bool.eq_false_iff.mpr hComment), hCut, if_pos hInstruction,
      delimited_cut hTail (by decide) (by decide) hNext hStop]
    rfl
  · cases hItem
    have hKept : min (stop - input.offset) (Lexeme.blankLength input.rest) = Lexeme.blankLength input.rest :=
      Nat.min_eq_right (Nat.le_sub_of_add_le' hStop)
    rw [not_opening_cut hTail (by decide) (Bool.eq_false_iff.mpr hComment),
      not_opening_cut hTail (by decide) (Bool.eq_false_iff.mpr hInstruction), hBlanks, hKept, if_neg hBlank,
      Input.token_cut tail .seaWhitespace (Lexeme.blankLength_le _) hStop]
    rfl

/-- What comes before the root element is read as before. -/
theorem misc_cut {found : List Misc} {last : Input} (hTail : Barrier tail) (budget : Nat) (other : Nat)
    (h : input.Within source) (hBudget : input.rest.length < budget)
    (hOther : (input.cut stop tail).rest.length < other) (hRead : misc budget input = (found, last))
    (hLast : last.rest ≠ []) (hStop : last.offset ≤ stop) :
    misc other (input.cut stop tail) = (found, last.cut stop tail) := by
  induction budget generalizing other input found with
  | zero => exact absurd hBudget (Nat.not_lt_zero _)
  | succ budget ih =>
      obtain ⟨other, rfl⟩ := Nat.exists_eq_succ_of_ne_zero (Nat.ne_of_gt ((Nat.zero_le _).trans_lt hOther))
      cases hItem : item? input with
      | none =>
          rw [misc_of_none budget hItem, Prod.mk.injEq] at hRead
          rw [misc_of_none other (item?_cut_none hTail hItem), ← hRead.1, ← hRead.2]
      | some item =>
          obtain ⟨token, next⟩ := item
          have hPasses := item?_passes h hItem
          have hRest := hPasses.rest_lt h (List.cons_ne_nil _ _)
          rcases hLater : misc budget next with ⟨others, behind⟩
          rw [misc_of_some budget hItem, hLater, Prod.mk.injEq] at hRead
          obtain ⟨rfl, hBehind⟩ := hRead
          simp only at hBehind
          subst hBehind
          have hOthers := misc_passes budget hPasses.within
          rw [hLater] at hOthers
          have hCut := item?_cut hTail hItem (hOthers.rest_ne_nil hPasses.within hLast) (hOthers.laid.le.trans hStop)
          obtain ⟨_, hWithin⟩ := (input.cut stop tail).exists_within
          have hRestCut := (item?_passes hWithin hCut).rest_lt hWithin (List.cons_ne_nil _ _)
          rw [misc_of_some other hCut, ih other hPasses.within (by omega) (by omega) hLater]

theorem prolog_cut (hTail : Barrier tail) (h : input.Within source) (hStarts : input.startsWith "<?xml" = true)
    (hStop : (prolog input).2.offset ≤ stop) :
    input.offset + "<?xml".length ≤ stop ∧
      prolog (input.cut stop tail) = ((prolog input).1, (prolog input).2.cut stop tail) := by
  have hLength : 5 ≤ input.rest.length := Lexeme.length_le_of_startsWith hStarts
  have hOpened := Input.token_passes h .declarationOpen 5 (by decide) hLength
  rcases hOpen : input.token .declarationOpen 5 with ⟨opening, afterOpen⟩
  rw [hOpen] at hOpened
  rcases hAttributes : attributes atDeclarationEnd (afterOpen.rest.length + 1) afterOpen with ⟨attrs, atEnd⟩
  have hList := attributesRead_of_budget atDeclarationEnd hOpened.within (Nat.lt_succ_self _)
  rw [hAttributes] at hList
  have hListed := hList.passes hOpened.within
  rcases hClose : atEnd.word? .specialClose "?>" with ⟨close, last⟩
  have hClosed := Input.word?_passes hListed.within (by decide) hClose
  simp only [prolog, hOpen, hAttributes, hClose] at hStop ⊢
  have hOpenStop : input.offset + 5 ≤ stop := by
    have hAfter : afterOpen.offset = input.offset + 5 := congrArg (fun read => read.2.offset) hOpen.symm
    rw [← hAfter]
    exact (hListed.laid.le.trans hClosed.laid.le).trans hStop
  have hOpenCut := Input.token_cut tail .declarationOpen hLength hOpenStop
  have hCloseCut := Input.word?_cut hTail (by decide) (by decide) hClose (hClosed.endBefore hStop)
  have hEndCut : atEnd.offset < stop → _ := endsTag_atDeclarationEnd.cut hTail hList.ends (by
    intro word hWord hStarts
    rw [List.mem_singleton.mp hWord] at hStarts ⊢
    exact Input.word?_fits (by decide) hClose (hClosed.endBefore hStop) hStarts)
  obtain ⟨_, hWithin⟩ := (afterOpen.cut stop tail).exists_within
  have hListCut := (hList.cut endsTag_atDeclarationEnd hTail hOpened.within
    (hListed.endBefore (hClosed.laid.le.trans hStop)) hEndCut).attributes_eq hWithin (Nat.lt_succ_self _)
  rw [hOpen] at hOpenCut
  refine ⟨hOpenStop, ?_⟩
  simp only [hOpenCut, hListCut, hCloseCut]

theorem prolog?_cut {slot : Option Prolog} (hTail : Barrier tail) (h : input.Within source)
    (hRead : prolog? input = (slot, next)) (hStop : next.offset ≤ stop) :
    prolog? (input.cut stop tail) = (slot, next.cut stop tail) := by
  have hCut : (input.cut stop tail).startsWith "<?xml" = _ :=
    Input.startsWith_cut hTail (by decide) (by decide) input stop
  unfold prolog? at hRead ⊢
  split at hRead
  · rename_i hStarts
    cases hRead
    obtain ⟨hFits, hProlog⟩ := prolog_cut hTail h hStarts hStop
    rw [hStarts, decide_eq_true hFits, Bool.and_true] at hCut
    rw [if_pos hCut, hProlog]
    rfl
  · rename_i hStarts
    cases hRead
    rw [Bool.eq_false_iff.mpr hStarts, Bool.false_and] at hCut
    rw [if_neg (by simp [hCut])]

/-- Whether a root element comes next. -/
def atRootElement (input : Input) : Bool :=
  input.startsWith "<" && !input.startsWith "</"

/-- The reader of a whole text comes to the start of an element. -/
structure Comes (source : List Char) (trail : Trail) (here : Input) : Prop where
  intro ::
  steps : ∃ prolog before afterProlog atRoot, prolog? ⟨0, source⟩ = (prolog, afterProlog) ∧
    misc (source.length + 1) afterProlog = (before, atRoot) ∧ atRootElement atRoot = true ∧ Reaches atRoot trail here

/-- The root element comes where misc ends. -/
theorem root_within {prolog : Option Prolog} {before : List Misc} {afterProlog atRoot : Input}
    (hProlog : prolog? ⟨0, source⟩ = (prolog, afterProlog))
    (hBefore : misc (source.length + 1) afterProlog = (before, atRoot)) :
    afterProlog.Within source ∧ atRoot.Within source ∧ afterProlog.offset ≤ atRoot.offset := by
  have hDeclared := prolog?_passes (⟨rfl, Nat.zero_le _⟩ : (⟨0, source⟩ : Input).Within source)
  rw [hProlog] at hDeclared
  have hLeading := misc_passes (source.length + 1) hDeclared.within
  rw [hBefore] at hLeading
  exact ⟨hDeclared.within, hLeading.within, hLeading.laid.le⟩

theorem rest_ne_nil_of_atRootElement (hAt : atRootElement input = true) : input.rest ≠ [] := by
  rintro hEmpty
  simp [atRootElement, Input.startsWith, Lexeme.startsWith, hEmpty] at hAt

/-- An element that comes next could be a root element. -/
theorem atRootElement_of_atElement (hEnd : atContentEnd input = false) (hAt : atElement input = true) :
    atRootElement input = true := by
  simp only [atElement, atContentEnd, Bool.and_eq_true, Bool.or_eq_false_iff] at hAt hEnd
  simp only [atRootElement, hAt.1.1.1, hEnd.2, Bool.not_false, Bool.and_self]

theorem root?_of_atRootElement (budget : Nat) (hAt : atRootElement input = true) :
    root? budget input = (some (element budget input).1, (element budget input).2) :=
  if_pos hAt

theorem atRootElement_cut_of_lt (hTail : Barrier tail) (hAt : atRootElement input = true)
    (hStop : input.offset < stop) : atRootElement (input.cut stop tail) = true := by
  have hRest := rest_ne_nil_of_atRootElement hAt
  have hSlash : (input.cut stop tail).startsWith "</" = _ :=
    Input.startsWith_cut hTail (by decide) (by decide) input stop
  simp only [atRootElement, Bool.and_eq_true, Bool.not_eq_true'] at hAt ⊢
  rw [hAt.2, Bool.false_and] at hSlash
  refine ⟨?_, hSlash⟩
  rw [← hAt.1]
  exact Lexeme.startsWith_angle_cut hRest (Nat.sub_pos_of_lt hStop) tail

theorem atRootElement_cut (hTail : Barrier tail) (hNonempty : tail ≠ []) (hAt : atRootElement input = true)
    (hStop : input.offset ≤ stop) : atRootElement (input.cut stop tail) = true := by
  rcases Nat.lt_or_eq_of_le hStop with hLt | rfl
  · exact atRootElement_cut_of_lt hTail hAt hLt
  · obtain ⟨hEnd, hOpens⟩ := atElement_barrier hTail hNonempty input.offset
    rw [Input.cut_of_le le_rfl]
    exact atRootElement_of_atElement hEnd hOpens

/-- To every element of a tree that was read there is a trail. -/
theorem comes_of_at? {tree : Tree} {last : Input} {path : List Nat} (hRead : document ⟨0, source⟩ = (tree, last))
    (hAt : tree.at? path = some found) :
    ∃ trail here after, Comes source trail here ∧ trail.path = path ∧ ElementRead here found after := by
  obtain ⟨before, _, afterProlog, atRoot, afterRoot, hProlog, hBefore, hRoot, _, _⟩ := document_steps hRead
  obtain ⟨_, hWithin, _⟩ := root_within hProlog hBefore
  obtain ⟨root, hElement, hPath⟩ := Option.bind_eq_some_iff.mp hAt
  have hLength := hWithin.length
  rw [hElement] at hRoot
  by_cases hAtRoot : atRootElement atRoot = true
  · have hRest := rest_ne_nil_of_atRootElement hAtRoot
    have hReads := (reads_of_budget (source.length + 1)).1 atRoot hWithin hRest (by omega)
    rw [root?_of_atRootElement _ hAtRoot, Prod.mk.injEq, Option.some.injEq] at hRoot
    rw [hRoot.1] at hReads
    obtain ⟨trail, here, after, hReach, hTrail, hFound⟩ := Reaches.exists_of_at? hWithin hRest hReads hPath
    exact ⟨trail, here, after, ⟨_, _, _, _, hProlog, hBefore, hAtRoot, hReach⟩, hTrail, hFound⟩
  · rw [show root? _ atRoot = (none, atRoot) from if_neg hAtRoot] at hRoot
    cases hRoot

namespace Comes

theorem within (hComes : Comes source trail here) : here.Within source ∧ here.rest ≠ [] := by
  obtain ⟨_, _, _, _, hProlog, hBefore, hAtRoot, hReach⟩ := hComes.steps
  obtain ⟨_, hWithin, _⟩ := root_within hProlog hBefore
  obtain ⟨hHere, hRest, _⟩ := hReach.forward hWithin (rest_ne_nil_of_atRootElement hAtRoot)
  exact ⟨hHere, hRest⟩

theorem trans {inner : Trail} {last : Input} (hComes : Comes source trail here) (hInner : Reaches here inner last) :
    Comes source (trail ++ inner) last := by
  obtain ⟨prolog, before, afterProlog, atRoot, hProlog, hBefore, hAtRoot, hReach⟩ := hComes.steps
  exact ⟨prolog, before, afterProlog, atRoot, hProlog, hBefore, hAtRoot, hReach.trans hInner⟩

theorem split {outer inner : Trail} (hComes : Comes source (outer ++ inner) here) :
    ∃ middle, Comes source outer middle := by
  obtain ⟨prolog, before, afterProlog, atRoot, hProlog, hBefore, hAtRoot, hReach⟩ := hComes.steps
  obtain ⟨middle, hOuter, _⟩ := hReach.split
  exact ⟨middle, prolog, before, afterProlog, atRoot, hProlog, hBefore, hAtRoot, hOuter⟩

/-- Every element starts with `<`. -/
theorem angle (hComes : Comes source trail here) : here.startsWith "<" = true := by
  obtain ⟨_, _, _, _, _, _, hAtRoot, hReach⟩ := hComes.steps
  exact hReach.angle (Bool.and_eq_true_iff.mp hAtRoot).1

/-- The element at the end of a trail is the one at the end of its path, and its number is that of the trail. -/
theorem at? {tree : Tree} {last : Input} (hComes : Comes source trail here)
    (hRead : document ⟨0, source⟩ = (tree, last)) (hFound : ElementRead here found after) :
    tree.at? trail.path = some found ∧ tree.number trail.path = trail.number := by
  obtain ⟨_, _, _, atRoot, hProlog, hBefore, hAtRoot, hReach⟩ := hComes.steps
  obtain ⟨_, hWithin, _⟩ := root_within hProlog hBefore
  have hRest := rest_ne_nil_of_atRootElement hAtRoot
  have hLength := hWithin.length
  obtain ⟨_, _, _, _, _, hOther, hMisc, hRoot, _, _⟩ := document_steps hRead
  rw [hProlog, Prod.mk.injEq] at hOther
  obtain ⟨_, rfl⟩ := hOther
  rw [hBefore, Prod.mk.injEq] at hMisc
  obtain ⟨_, rfl⟩ := hMisc
  have hReads := (reads_of_budget (source.length + 1)).1 atRoot hWithin hRest (by omega)
  rw [root?_of_atRootElement _ hAtRoot, Prod.mk.injEq] at hRoot
  obtain ⟨hAt, hNumber⟩ := hReach.at? hWithin hRest hReads hFound
  simp only [Tree.at?, Tree.number, ← hRoot.1, Option.bind_some]
  exact ⟨hAt, hNumber⟩

/-- Where the reader comes to an element, there is one. -/
theorem exists_element {tree : Tree} {last : Input} (hComes : Comes source trail here)
    (hRead : document ⟨0, source⟩ = (tree, last)) :
    ∃ found after, ElementRead here found after ∧ tree.at? trail.path = some found ∧
      tree.number trail.path = trail.number := by
  obtain ⟨hHere, hRest⟩ := hComes.within
  have hReads := (reads_of_budget here.rest.length).1 here hHere hRest le_rfl
  exact ⟨_, _, hReads, hComes.at? hRead hReads⟩

/-- The way to an element before the cut or at the cut is the same as before. -/
theorem cut (hTail : Barrier tail) (hNonempty : tail ≠ []) (hComes : Comes source trail here)
    (hStop : here.offset ≤ stop) (hLength : stop ≤ source.length) :
    Comes (source.take stop ++ tail) trail (here.cut stop tail) := by
  obtain ⟨prolog, before, afterProlog, atRoot, hProlog, hBefore, hAtRoot, hReach⟩ := hComes.steps
  obtain ⟨hAfterProlog, hWithin, hForward⟩ := root_within hProlog hBefore
  have hRest := rest_ne_nil_of_atRootElement hAtRoot
  obtain ⟨_, _, hLater⟩ := hReach.forward hWithin hRest
  have hStart : (⟨0, source⟩ : Input).Within source := ⟨rfl, Nat.zero_le _⟩
  have hStartCut : (⟨0, source⟩ : Input).cut stop tail = ⟨0, source.take stop ++ tail⟩ := by
    simp [Input.cut]
  have hRootStop : atRoot.offset ≤ stop := hLater.trans hStop
  have hPrologCut := prolog?_cut hTail hStart hProlog (hForward.trans hRootStop)
  have hBudget := hAfterProlog.length
  have hBudgetCut := (hAfterProlog.cut tail hLength).length
  have hMiscCut := misc_cut hTail (source.length + 1) ((source.take stop ++ tail).length + 1) hAfterProlog
    (by omega) (by omega) hBefore hRest hRootStop
  rw [hStartCut] at hPrologCut
  exact ⟨_, _, _, _, hPrologCut, hMiscCut, atRootElement_cut hTail hNonempty hAtRoot hRootStop,
    hReach.cut hTail hNonempty hWithin hRest hStop⟩

end Comes

end Reader

end ContentAssist.Markup
