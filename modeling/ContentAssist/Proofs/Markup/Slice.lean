import ContentAssist.Proofs.Markup.Adjacency
import ContentAssist.Proofs.Markup.Moved
import ContentAssist.Proofs.Markup.Trail

/-! An element that has its end can be read alone. The text from its `<` to its end is a document with this element
as its root and nothing before or behind it, and the root has in it all that the element has. -/
namespace ContentAssist.Markup

namespace Reader

variable {source : List Char} {input here next last : Input} {element : Element} {trail : Trail}

/-- Where misc ends, no more of it comes next. -/
theorem item?_eq_none_of_misc {found : List Misc} (budget : Nat) (h : input.Within source)
    (hBudget : input.rest.length < budget) (hRead : misc budget input = (found, last)) : item? last = none := by
  induction budget generalizing input found with
  | zero => exact absurd hBudget (Nat.not_lt_zero _)
  | succ budget ih =>
      cases hItem : item? input with
      | none =>
          rw [misc_of_none budget hItem, Prod.mk.injEq] at hRead
          rw [← hRead.2, hItem]
      | some item =>
          obtain ⟨token, next⟩ := item
          have hPasses := item?_passes h hItem
          have hRest := hPasses.rest_lt h (List.cons_ne_nil _ _)
          rw [misc_of_some budget hItem, Prod.mk.injEq] at hRead
          exact ih hPasses.within (by omega) (Prod.ext rfl hRead.2)

theorem item?_eq_none_of_atElement (hAt : atElement input = true) : item? input = none := by
  have hOpening := not_opening_of_atElement hAt
  simp only [atElement, Bool.and_eq_true] at hAt
  obtain ⟨rest, hRest⟩ := List.isPrefixOf_iff_prefix.mp hAt.1.1.1
  have hBlank : Lexeme.blankLength input.rest = 0 := by
    rw [← hRest]
    rfl
  rw [item?, hOpening _ (by decide), hOpening _ (by decide), hBlank]
  rfl

/-- An element is nothing that stands outside of the root element. -/
theorem Reaches.opens (hReach : Reaches input trail here) (hAt : atRootElement input = true)
    (hItem : item? input = none) : atRootElement here = true ∧ item? here = none := by
  induction hReach with
  | here => exact ⟨hAt, hItem⟩
  | inside _ _ _ hEnd hOpens _ ih =>
      exact ih (atRootElement_of_atElement hEnd hOpens) (item?_eq_none_of_atElement hOpens)

theorem Comes.opens (hComes : Comes source trail here) : atRootElement here = true ∧ item? here = none := by
  obtain ⟨_, _, afterProlog, atRoot, hProlog, hBefore, hAtRoot, hReach⟩ := hComes.steps
  obtain ⟨hWithin, _, _⟩ := root_within hProlog hBefore
  have hLength := hWithin.length
  exact hReach.opens hAtRoot (item?_eq_none_of_misc _ hWithin (by omega) hBefore)

theorem item?_moved (distance : Nat) (hItem : item? (input.moved distance) = none) : item? input = none := by
  rw [item?, Input.startsWith_moved, Input.startsWith_moved, Input.rest_moved] at hItem
  rw [item?]
  split_ifs at hItem ⊢
  rfl

/-- A text that starts with a root element is a document of this element and of what follows it. -/
theorem document_of_root (hAt : atRootElement input = true) (hItem : item? input = none)
    (hRead : Reader.element (input.rest.length + 1) input = (element, next)) (hNext : item? next = none) :
    document input = (⟨none, [], some element, ⟨0, input.rest.length - 1⟩⟩, next) := by
  have hProlog : input.startsWith "<?xml" = false := by
    by_contra hDeclared
    rw [Bool.not_eq_false] at hDeclared
    have hLonger : "<?".toList <+: input.rest :=
      List.IsPrefix.trans (by decide) (List.isPrefixOf_iff_prefix.mp hDeclared)
    have hInstruction : input.startsWith "<?" = true := List.isPrefixOf_iff_prefix.mpr hLonger
    rw [item?] at hItem
    split_ifs at hItem
  simp only [document, prolog?, hProlog, Bool.false_eq_true, if_false, misc_of_none _ hItem,
    root?_of_atRootElement _ hAt, hRead, misc_of_none _ hNext, List.append_nil]

/-- An element with a `close` or `slashClose` token has the whole of its content closed. -/
theorem ElementRead.slashOpen_of_closed (h : input.Within source) (hRest : input.rest ≠ [])
    (hRead : ElementRead input element next) (hClosed : element.close.isSome = true ∨ element.slashClose.isSome = true)
    (hOpen : element.startClose.isSome = true) : element.slashOpen.isSome = true := by
  rw [(IsRead.laidOut ⟨input, next, h, hRest, hRead⟩).slashClose hOpen] at hClosed
  cases hRead with
  | bare _ _ => simp [assemble] at hClosed
  | enclosing _ _ _ hFinish =>
      rcases endTag_steps hFinish with ⟨_, rfl, _⟩ | ⟨slashOpen, _, _, _, hIs, _⟩
      · simp [assemble] at hClosed
      · exact Option.isSome_iff_exists.mpr ⟨slashOpen, hIs⟩

/-- The text of an element that has its end is a document with this element alone. -/
theorem document_slice (hComes : Comes source trail here) (hRead : ElementRead here element next)
    (hClosed : element.close.isSome = true ∨ element.slashClose.isSome = true) :
    ∃ alone tree last,
      document ⟨0, (source.drop element.span.startOffset).take
        (element.span.endOffset + 1 - element.span.startOffset)⟩ = (tree, last) ∧
      tree.prolog = none ∧ tree.misc = [] ∧ tree.element = some alone ∧
      alone.moved element.span.startOffset = element ∧ tree.span.moved element.span.startOffset = element.span := by
  obtain ⟨hHere, hRest⟩ := hComes.within
  obtain ⟨hOpens, hItem⟩ := hComes.opens
  have hPasses := hRead.passes hHere hRest
  have hStart := hRead.startOffset
  have hEnd : next.offset = element.span.endOffset + 1 := by
    refine hRead.endOffset ?_
    rcases hClosed with hClose | hSlash
    · simp [ContentPart.isUnclosed, Option.isNone_eq_false_iff.mpr hClose]
    · simp [ContentPart.isUnclosed, Option.isNone_eq_false_iff.mpr hSlash]
  have hLt : here.offset < element.span.endOffset + 1 := by
    have hShorter := hPasses.rest_lt hHere (hRead.covers hHere hRest).ne_nil
    have hBefore := hHere.length
    have hAfter := hPasses.within.length
    omega
  have hBarrier : Barrier [] := Or.inl rfl
  have hKept := keeps_of_endBefore hBarrier source element (hPasses.endBefore hEnd.le)
    (hRead.slashOpen_of_closed hHere hRest hClosed) here next hHere hRest hRead
  -- The text that is cut off behind the element is the slice, further to the right.
  generalize hSlice : (source.drop element.span.startOffset).take
    (element.span.endOffset + 1 - element.span.startOffset) = slice
  have hCut : here.cut (element.span.endOffset + 1) [] = (⟨0, slice⟩ : Input).moved element.span.startOffset := by
    rw [Input.cut, Input.moved, hHere.rest, ← hStart, ← hSlice, Nat.min_eq_left (by omega), List.append_nil,
      Nat.zero_add]
  have hAtSlice : atRootElement ⟨0, slice⟩ = true := by
    have hAtCut := atRootElement_cut_of_lt hBarrier hOpens hLt
    rwa [hCut] at hAtCut
  have hItemSlice : item? ⟨0, slice⟩ = none := by
    have hItemCut : item? (here.cut (element.span.endOffset + 1) []) = none := item?_cut_none hBarrier hItem
    rw [hCut] at hItemCut
    exact item?_moved _ hItemCut
  have hWithin : (⟨0, slice⟩ : Input).Within slice := ⟨rfl, Nat.zero_le _⟩
  have hNonempty := rest_ne_nil_of_atRootElement hAtSlice
  rcases hAlone : Reader.element (slice.length + 1) ⟨0, slice⟩ with ⟨alone, last⟩
  have hReads := (reads_of_budget (slice.length + 1)).1 ⟨0, slice⟩ hWithin hNonempty (Nat.le_succ _)
  rw [hAlone] at hReads
  rw [hCut, Input.cut_of_le hEnd.ge] at hKept
  obtain ⟨outer, hOuter⟩ := ((⟨0, slice⟩ : Input).moved element.span.startOffset).exists_within
  obtain ⟨hSame, hLast⟩ := (hReads.moved element.span.startOffset).unique hOuter hNonempty hKept
  have hNothing : item? last = none := by
    have hEmpty : last.rest = [] := congrArg Input.rest hLast
    simp [item?, Input.startsWith, Lexeme.startsWith, Lexeme.blankLength, hEmpty]
  refine ⟨alone, _, last, document_of_root hAtSlice hItemSlice hAlone hNothing, rfl, rfl, rfl, hSame, ?_⟩
  have hLength : slice.length - 1 + element.span.startOffset = element.span.endOffset := by
    have hBehind : next.offset ≤ source.length := hPasses.within.offset
    rw [← hSlice, List.length_take, List.length_drop]
    omega
  simp only [Span.moved, Nat.zero_add, hLength]

end Reader

end ContentAssist.Markup
