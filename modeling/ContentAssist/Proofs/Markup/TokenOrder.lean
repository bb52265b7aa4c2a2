import ContentAssist.Proofs.Markup.Nesting

/-! All tokens of a document in the order of the text. Misc before and behind the root element share one list in
the tree, so it has to be divided at the root first. What the reader returns is then laid out from the first
character of the text on: every token is a stretch of the text and no character belongs to two of them. Characters
that belong to no token remain possible. -/
namespace ContentAssist.Markup

namespace Tree

/-- Misc that starts before the root element; without a root element this is all misc. -/
def leadingMisc (tree : Tree) : List Misc :=
  match tree.element with
  | some root => tree.misc.takeWhile fun item => item.token.span.startOffset < root.span.startOffset
  | none => tree.misc

/-- Misc behind the root element. -/
def trailingMisc (tree : Tree) : List Misc :=
  match tree.element with
  | some root => tree.misc.dropWhile fun item => item.token.span.startOffset < root.span.startOffset
  | none => []

/-- The tokens of the whole tree in document order. -/
def tokens (tree : Tree) : List Token :=
  (tree.prolog.map Prolog.tokens).getD [] ++ tree.leadingMisc.map Misc.token
    ++ (tree.element.map Element.tokens).getD [] ++ tree.trailingMisc.map Misc.token

theorem leadingMisc_append_trailingMisc (tree : Tree) : tree.leadingMisc ++ tree.trailingMisc = tree.misc := by
  unfold leadingMisc trailingMisc
  cases tree.element with
  | none => exact List.append_nil _
  | some root => exact List.takeWhile_append_dropWhile

/-- Misc is divided at the root wherever the one half comes before the root and the other does not. -/
theorem misc_divided {tree : Tree} {root : Element} {before after : List Misc} (hRoot : tree.element = some root)
    (hMisc : tree.misc = before ++ after)
    (hBefore : ∀ item ∈ before, item.token.span.startOffset < root.span.startOffset)
    (hAfter : ∀ item ∈ after, root.span.startOffset ≤ item.token.span.startOffset) :
    tree.leadingMisc = before ∧ tree.trailingMisc = after := by
  have hLeading : ∀ item ∈ before,
      decide (item.token.span.startOffset < root.span.startOffset) = true :=
    fun item hItem => decide_eq_true (hBefore item hItem)
  simp only [leadingMisc, trailingMisc, hRoot, hMisc, List.takeWhile_append_of_pos hLeading,
    List.dropWhile_append_of_pos hLeading]
  cases after with
  | nil => simp
  | cons item rest =>
      have hLater := hAfter item (List.mem_cons_self ..)
      simp [Nat.not_lt.mpr hLater]

end Tree

namespace Reader

variable {source : List Char} {input : Input}

theorem root?_passes {budget : Nat} (h : input.Within source) (hBudget : input.rest.length ≤ budget) :
    Passes source input (((root? budget input).1.map Element.tokens).getD []) (root? budget input).2 := by
  rcases root?_cases h hBudget with hNone | ⟨_, _, hSome, hRest, hRead⟩
  · rw [hNone]
    exact Passes.refl h
  · rw [hSome]
    exact hRead.passes h hRest

/-- How a document is read: the declaration, misc, the root element and misc again. -/
theorem document_steps {tree : Tree} {last : Input} (hRead : document input = (tree, last)) :
    ∃ before after afterProlog atRoot afterRoot,
      prolog? input = (tree.prolog, afterProlog) ∧
      misc (input.rest.length + 1) afterProlog = (before, atRoot) ∧
      root? (input.rest.length + 1) atRoot = (tree.element, afterRoot) ∧
      misc (input.rest.length + 1) afterRoot = (after, last) ∧ tree.misc = before ++ after := by
  unfold document at hRead
  rcases hProlog : prolog? input with ⟨prolog, afterProlog⟩
  rcases hBefore : misc (input.rest.length + 1) afterProlog with ⟨before, atRoot⟩
  rcases hRoot : root? (input.rest.length + 1) atRoot with ⟨root, afterRoot⟩
  rcases hAfter : misc (input.rest.length + 1) afterRoot with ⟨after, atEnd⟩
  simp only [hProlog, hBefore, hRoot, hAfter] at hRead
  cases hRead
  exact ⟨before, after, afterProlog, atRoot, afterRoot, rfl, hBefore, hRoot, hAfter, rfl⟩

/-- Reading a document passes over its tokens. -/
theorem document_passes {tree : Tree} {last : Input} (h : input.Within source)
    (hRead : document input = (tree, last)) :
    ∃ before after, tree.misc = before ++ after ∧
      Passes source input (((tree.prolog.map Prolog.tokens).getD [] ++ before.map Misc.token)
        ++ ((tree.element.map Element.tokens).getD [] ++ after.map Misc.token)) last := by
  obtain ⟨before, after, afterProlog, atRoot, afterRoot, hProlog, hBefore, hRoot, hAfter, hMisc⟩ :=
    document_steps hRead
  have hDeclared := prolog?_passes h
  rw [hProlog] at hDeclared
  have hLeading := misc_passes (input.rest.length + 1) hDeclared.within
  rw [hBefore] at hLeading
  have hShorter : atRoot.rest.length ≤ input.rest.length + 1 := by
    have hFrom := h.length
    have hTo : atRoot.offset + atRoot.rest.length = source.length := hLeading.within.length
    have hForward : input.offset ≤ atRoot.offset := (hDeclared.trans hLeading).laid.le
    omega
  have hElement := root?_passes hLeading.within hShorter
  rw [hRoot] at hElement
  have hTrailing := misc_passes (input.rest.length + 1) hElement.within
  rw [hAfter] at hTrailing
  exact ⟨before, after, hMisc, (hDeclared.trans hLeading).trans (hElement.trans hTrailing)⟩

/-- The tokens of a document are laid out in its text. -/
theorem document_laid {tree : Tree} {last : Input} (hRead : document ⟨0, source⟩ = (tree, last)) :
    Laid source 0 tree.tokens source.length := by
  obtain ⟨before, after, hMisc, hPasses⟩ := document_passes ⟨rfl, Nat.zero_le _⟩ hRead
  have hLaid := hPasses.laid.weaken le_rfl hPasses.within.offset
  rw [Tree.tokens, List.append_assoc]
  cases hRoot : tree.element with
  | none =>
      simp only [Tree.leadingMisc, Tree.trailingMisc, hRoot, hMisc]
      simpa [hRoot] using hLaid
  | some root =>
      rw [hRoot] at hLaid
      have hIsRead : IsRead source root := document_isRead (by rw [hRead]; exact hRoot)
      obtain ⟨opening, hOpening, hFirst⟩ := hIsRead.laidOut.span.exists_start
      have hBefore : ∀ item ∈ before, item.token.span.startOffset < root.span.startOffset := by
        intro item hItem
        have hToken : item.token ∈ before.map Misc.token := List.mem_map_of_mem hItem
        have hOrder := hLaid.endOffset_lt_startOffset (List.mem_append_right _ hToken)
          (List.mem_append_left _ hOpening)
        have hWidth := (hLaid.of_mem (List.mem_append_left _ (List.mem_append_right _ hToken))).1.startOffset_le
        omega
      have hAfter : ∀ item ∈ after, root.span.startOffset ≤ item.token.span.startOffset := by
        intro item hItem
        obtain ⟨_, _, hLater⟩ := hLaid.split
        have hOrder := hLater.endOffset_lt_startOffset hOpening (List.mem_map_of_mem hItem)
        have hWidth := (hLater.of_mem (List.mem_append_left _ hOpening)).1.startOffset_le
        omega
      obtain ⟨hLeading, hTrailing⟩ := Tree.misc_divided hRoot hMisc hBefore hAfter
      rw [hLeading, hTrailing]
      exact hLaid

end Reader

/-- Tokens that are laid out follow one another. -/
theorem Laid.pairwise {source : List Char} {tokens : List Token} {start stop : Nat}
    (h : Laid source start tokens stop) :
    tokens.Pairwise fun before after => before.span.endOffset < after.span.startOffset := by
  rw [← List.flatMap_singleton' tokens] at h
  exact h.pairwise_span fun token _ => Covers.singleton token

/-- Every token of a tree that was read stands in the text where it says, is not empty and was not supplied. In
document order the tokens follow one another, so no character belongs to two of them. -/
theorem Tree.tokens_faithful (source : String) :
    (∀ token ∈ (Tree.read source).tokens, token.OccursIn source.toList ∧
      token.span.startOffset ≤ token.span.endOffset ∧ token.span.endOffset < source.length) ∧
    (Tree.read source).leadingMisc ++ (Tree.read source).trailingMisc = (Tree.read source).misc ∧
    ((Tree.read source).tokens.Pairwise fun before after => before.span.endOffset < after.span.startOffset) ∧
    ∀ (position first second : Nat) (one other : Token), (Tree.read source).tokens[first]? = some one →
      (Tree.read source).tokens[second]? = some other → one.span.contains position = true →
        other.span.contains position = true → first = second := by
  rcases hRead : Reader.document ⟨0, source.toList⟩ with ⟨tree, last⟩
  have hLaid := Reader.document_laid hRead
  have hTree : Tree.read source = tree := by rw [Tree.read, hRead]
  rw [hTree]
  refine ⟨?_, leadingMisc_append_trailingMisc tree, hLaid.pairwise, ?_⟩
  · intro token hToken
    have hOccurs := (hLaid.of_mem hToken).1
    have hInside := hOccurs.endOffset_lt
    rw [String.length_toList] at hInside
    exact ⟨hOccurs, hOccurs.startOffset_le, hInside⟩
  · intro position first second one other hFirst hSecond hOne hOther
    exact index_unique hLaid.pairwise hFirst hSecond hOne hOther

end ContentAssist.Markup
