import ContentAssist.Completion.Resolve
import ContentAssist.Proofs.Completion.Rules
import ContentAssist.Proofs.Document.Alignment

/-! The walk over a snapshot finds the answer of one element: the innermost around the character before the
cursor. The element asks its children before its own body, but at most one of them has the character inside, and
if one has then the element itself is silent. -/
namespace ContentAssist

/-- The tree has one of these elements at the end of the path, and the document has the other at the place that
belongs to the path. -/
structure Snapshot.Pairs (snapshot : Snapshot) (path : List Nat) (markup : Markup.Element)
    (element : Document.Element) : Prop where
  markup : snapshot.tree.at? path = some markup
  element : snapshot.document.elements[snapshot.tree.number path]? = some element

namespace Snapshot.Aligned

variable {snapshot : Snapshot} {path : List Nat} {markup child : Markup.Element} {element : Document.Element}

theorem repeats (h : snapshot.Aligned) (hPair : snapshot.Pairs path markup element) :
    element.Repeats snapshot.tree.outline (snapshot.tree.number path) path markup :=
  h.elements _ path markup element ((Markup.Tree.getElem?_outline_iff ..).mpr ⟨hPair.markup, rfl⟩) hPair.element

/-- Every element of the tree has a partner. -/
theorem exists_element (h : snapshot.Aligned) (hAt : snapshot.tree.at? path = some markup) :
    ∃ element, snapshot.Pairs path markup element := by
  have hEntry := (Markup.Tree.getElem?_outline_iff ..).mpr ⟨hAt, rfl⟩
  have hLt := (List.getElem?_eq_some_iff.mp hEntry).1
  rw [← h.count] at hLt
  exact ⟨_, hAt, List.getElem?_eq_getElem hLt⟩

/-- Every element of the document has a partner. -/
theorem exists_markup (h : snapshot.Aligned) (hElement : element ∈ snapshot.document.elements) :
    ∃ path markup, snapshot.Pairs path markup element := by
  obtain ⟨place, hPlace⟩ := List.getElem?_of_mem hElement
  have hLt := (List.getElem?_eq_some_iff.mp hPlace).1
  rw [h.count] at hLt
  obtain ⟨hAt, hNumber⟩ := (Markup.Tree.getElem?_outline_iff ..).mp (List.getElem?_eq_getElem hLt)
  exact ⟨_, _, hAt, by rw [hNumber, hPlace]⟩

/-- The partner of a child is the sub-element with the same number. -/
theorem exists_subElement (h : snapshot.Aligned) (hPair : snapshot.Pairs path markup element) {index : Nat}
    (hChild : markup.children[index]? = some child) :
    ∃ partner, snapshot.document.subElement? element index = some partner ∧
      snapshot.Pairs (path ++ [index]) child partner := by
  obtain ⟨sub, hSub, hEntry⟩ := (h.repeats hPair).subElements index child hChild
  obtain ⟨hAt, hNumber⟩ := (Markup.Tree.getElem?_outline_iff ..).mp hEntry
  obtain ⟨partner, hPartner⟩ := h.exists_element hAt
  refine ⟨partner, ?_, hPartner⟩
  rw [Document.subElement?, hSub, Option.bind_some, ← hNumber]
  exact hPartner.element

end Snapshot.Aligned

namespace Completion

section Walk

variable (document : Document) (offset : Nat) (element : Document.Element)

/-- The answers of sibling elements, the first of which has the number `index`. -/
def resolveChildren (index : Nat) : List Markup.Element → Option Context
  | [] => none
  | child :: rest =>
    ((document.subElement? element index).bind (resolveElement document offset child)).or
      (resolveChildren (index + 1) rest)

theorem resolveParts_eq (index : Nat) (parts : List Markup.ContentPart) :
    resolveParts document offset element index parts =
      resolveChildren document offset element index (parts.filterMap Markup.ContentPart.element?) := by
  induction parts generalizing index with
  | nil => rw [resolveParts, List.filterMap_nil, resolveChildren]
  | cons part rest ih =>
      rw [resolveParts, ih]
      cases part with
      | element child =>
          rw [List.filterMap_cons, Markup.ContentPart.element?, resolveChildren]
          cases document.subElement? element index <;> simp [resolvePart]
      | _ => simp [resolvePart, Markup.ContentPart.element?, List.filterMap_cons]

theorem resolveElement_eq (markup : Markup.Element) :
    resolveElement document offset markup element =
      (ownTag markup element offset).or
        ((resolveChildren document offset element 0 markup.children).or (ownBody markup element offset)) := by
  obtain ⟨_, _, _, _, content, _, _, _, _, _⟩ := markup
  cases content with
  | none => rw [resolveElement]; rfl
  | some content =>
      obtain ⟨parts, _⟩ := content
      simp only [resolveElement, resolveContent, resolveParts_eq]
      rfl

variable {document offset element}

theorem resolveChildren_eq_none {index : Nat} {siblings : List Markup.Element}
    (hNone : ∀ number child partner, siblings[number]? = some child →
      document.subElement? element (index + number) = some partner →
      resolveElement document offset child partner = none) :
    resolveChildren document offset element index siblings = none := by
  induction siblings generalizing index with
  | nil => rfl
  | cons first rest ih =>
      have hFirst : (document.subElement? element index).bind (resolveElement document offset first) = none := by
        cases hPartner : document.subElement? element index with
        | none => rfl
        | some partner => exact hNone 0 first partner rfl hPartner
      rw [resolveChildren, hFirst, Option.none_or]
      refine ih fun number child partner hChild hPartner => hNone (number + 1) child partner hChild ?_
      rwa [Nat.add_comm number, ← Nat.add_assoc]

/-- If all siblings but one are silent, that one has the say. -/
theorem resolveChildren_eq_of_others {index number : Nat} {siblings : List Markup.Element}
    {child : Markup.Element} {partner : Document.Element} (hChild : siblings[number]? = some child)
    (hPartner : document.subElement? element (index + number) = some partner)
    (hOthers : ∀ other sibling partner, siblings[other]? = some sibling →
      document.subElement? element (index + other) = some partner → other ≠ number →
      resolveElement document offset sibling partner = none) :
    resolveChildren document offset element index siblings = resolveElement document offset child partner := by
  induction siblings generalizing index number with
  | nil => cases hChild
  | cons first rest ih =>
      rw [resolveChildren]
      cases number with
      | zero =>
          cases hChild
          have hRest : resolveChildren document offset element (index + 1) rest = none := by
            refine resolveChildren_eq_none fun other sibling partner hSibling hFound => ?_
            refine hOthers (other + 1) sibling partner hSibling ?_ (Nat.succ_ne_zero other)
            rwa [Nat.add_comm other, ← Nat.add_assoc]
          rw [hRest, Option.or_none, show document.subElement? element index = some partner from hPartner,
            Option.bind_some]
      | succ number =>
          have hFirst : (document.subElement? element index).bind (resolveElement document offset first) = none := by
            cases hFound : document.subElement? element index with
            | none => rfl
            | some partner => exact hOthers 0 first partner rfl hFound (Nat.succ_ne_zero number).symm
          rw [hFirst, Option.none_or]
          refine ih hChild (by rwa [Nat.add_assoc, Nat.add_comm 1]) fun other sibling partner hSibling hFound hNe => ?_
          refine hOthers (other + 1) sibling partner hSibling ?_ (by omega)
          rwa [Nat.add_comm other, ← Nat.add_assoc]

end Walk

section Reading

variable {source : String} {snapshot : Snapshot} {path : List Nat} {markup : Markup.Element}
  {element : Document.Element} {offset : Nat}

theorem isRead_of_pairs (hSnapshot : Snapshot.ofText source = .ok snapshot)
    (hPair : snapshot.Pairs path markup element) : Markup.Reader.IsRead source.toList markup := by
  have hAt := hPair.markup
  rw [Snapshot.ofText_eq, Except.ok.injEq] at hSnapshot
  rw [← hSnapshot] at hAt
  exact Markup.Tree.at?_isRead hAt

theorem ownAnswer_eq_none (hSnapshot : Snapshot.ofText source = .ok snapshot)
    (hPair : snapshot.Pairs path markup element) (hOwns : ¬ Owns markup offset) :
    ownAnswer markup element offset = none := by
  cases hAnswer : ownAnswer markup element offset with
  | none => rfl
  | some context => exact absurd (owns_of_ownAnswer (isRead_of_pairs hSnapshot hPair).laidOut hAnswer) hOwns

/-- An element that does not have the character before the cursor inside is silent, and so are all elements
inside it. -/
theorem resolveElement_eq_none (hSnapshot : Snapshot.ofText source = .ok snapshot)
    (hPair : snapshot.Pairs path markup element)
    (hAway : 0 < offset → markup.span.contains (offset - 1) = false) :
    resolveElement snapshot.document offset markup element = none := by
  induction markup using Markup.Element.inductionOnChildren generalizing path element with
  | step markup ih =>
      have hAligned := Snapshot.aligned_of_ofText hSnapshot
      have hLaid := (isRead_of_pairs hSnapshot hPair).laidOut
      have hOwn : ownAnswer markup element offset = none := by
        refine ownAnswer_eq_none hSnapshot hPair fun hOwns => ?_
        exact absurd hOwns.contains (by simp [hAway hOwns.pos])
      have hChildren : resolveChildren snapshot.document offset element 0 markup.children = none := by
        refine resolveChildren_eq_none fun index child partner hChild hPartner => ?_
        obtain ⟨found, hFound, hChildPair⟩ := hAligned.exists_subElement hPair hChild
        rw [Nat.zero_add, hFound] at hPartner
        cases hPartner
        refine ih child (List.mem_of_getElem? hChild) hChildPair fun hPos => ?_
        rw [Bool.eq_false_iff]
        intro hContains
        exact absurd (hLaid.contains_of_child (List.mem_of_getElem? hChild) hContains) (by simp [hAway hPos])
      rw [ownAnswer_eq, Option.or_eq_none_iff] at hOwn
      rw [resolveElement_eq, hOwn.1, hChildren, hOwn.2]
      rfl

/-- The walk gives the answer of the innermost element alone. -/
theorem resolveElement_eq_ownAnswer (hSnapshot : Snapshot.ofText source = .ok snapshot)
    (hPair : snapshot.Pairs path markup element) {inner : List Nat} {found : Markup.Element}
    {partner : Document.Element} (hInner : markup.Innermost (offset - 1) inner found)
    (hFound : snapshot.Pairs (path ++ inner) found partner) :
    resolveElement snapshot.document offset markup element = ownAnswer found partner offset := by
  have hAligned := Snapshot.aligned_of_ofText hSnapshot
  induction inner generalizing path markup element with
  | nil =>
      -- The element is the innermost itself, so that its children are silent.
      obtain rfl : markup = found := Option.some.inj hInner.reached
      rw [List.append_nil] at hFound
      have hPartner := Option.some.inj (hPair.element.symm.trans hFound.element)
      subst hPartner
      have hChildren : resolveChildren snapshot.document offset element 0 markup.children = none := by
        refine resolveChildren_eq_none fun index child partner hChild hPartner => ?_
        obtain ⟨sub, hSub, hChildPair⟩ := hAligned.exists_subElement hPair hChild
        rw [Nat.zero_add, hSub] at hPartner
        cases hPartner
        exact resolveElement_eq_none hSnapshot hChildPair fun _ => hInner.not_child (List.mem_of_getElem? hChild)
      rw [resolveElement_eq, hChildren, Option.none_or, ownAnswer_eq]
  | cons index inner ih =>
      have hRead := isRead_of_pairs hSnapshot hPair
      obtain ⟨child, hChild, hRest⟩ := Option.bind_eq_some_iff.mp hInner.reached
      have hChildMem := List.mem_of_getElem? hChild
      have hContains := (hRead.of_mem_children hChildMem).contains_of_at hRest hInner.contains
      obtain ⟨sub, hSub, hChildPair⟩ := hAligned.exists_subElement hPair hChild
      have hAnswer : resolveElement snapshot.document offset child sub = ownAnswer found partner offset :=
        ih hChildPair (hInner.to_child hChild) (by rwa [List.append_assoc])
      -- The element is silent because the child has the character inside, and the other children do not have it.
      have hOwn : ownAnswer markup element offset = none :=
        ownAnswer_eq_none hSnapshot hPair fun hOwns =>
          absurd hContains (by simp [hOwns.notChild child hChildMem])
      have hChildren : resolveChildren snapshot.document offset element 0 markup.children =
          resolveElement snapshot.document offset child sub := by
        refine resolveChildren_eq_of_others hChild (by rwa [Nat.zero_add]) ?_
        intro other sibling partner hSibling hPartner hNe
        obtain ⟨otherSub, hOtherSub, hSiblingPair⟩ := hAligned.exists_subElement hPair hSibling
        rw [Nat.zero_add, hOtherSub] at hPartner
        cases hPartner
        refine resolveElement_eq_none hSnapshot hSiblingPair fun _ => ?_
        rw [Bool.eq_false_iff]
        intro hInside
        exact hNe (hRead.laidOut.child_unique hSibling hChild hInside hContains)
      rw [ownAnswer_eq, Option.or_eq_none_iff] at hOwn
      rw [resolveElement_eq, hOwn.1, hOwn.2, hChildren, hAnswer, Option.or_none, Option.none_or]

/-- An element other than the innermost does not own the character: it does not have it inside, or a child of it
has. -/
theorem not_owns_of_innermost {root found around : Markup.Element} {inner other : List Nat}
    (hRead : Markup.Reader.IsRead source.toList root) (hInner : root.Innermost (offset - 1) inner found)
    (hAround : root.at? other = some around) (hNe : other ≠ inner) : ¬ Owns around offset := by
  intro hOwns
  obtain ⟨rest, rfl⟩ := hInner.deepest other around hAround hOwns.contains
  have hRest : around.at? rest = some found := by
    have hReached := hInner.reached
    rwa [Markup.Element.at?_append, hAround] at hReached
  cases rest with
  | nil => exact hNe (List.append_nil other).symm
  | cons index rest =>
      obtain ⟨child, hChild, hInside⟩ := Option.bind_eq_some_iff.mp hRest
      have hMem := List.mem_of_getElem? hChild
      have hContains := ((hRead.at hAround).of_mem_children hMem).contains_of_at hInside hInner.contains
      exact absurd hContains (by simp [hOwns.notChild child hMem])

end Reading

end Completion

namespace Snapshot

variable {snapshot : Snapshot} {offset : Nat}

theorem complete_eq_of_root {root : Markup.Element} {element : Document.Element} (h : snapshot.Aligned)
    (hRoot : snapshot.tree.element = some root) (hPair : snapshot.Pairs [] root element) :
    snapshot.complete offset = Completion.resolveElement snapshot.document offset root element := by
  have hElement : snapshot.document.rootElement? = some element := by
    have hFirst := hPair.element
    rw [Markup.Tree.number, hRoot] at hFirst
    rw [Document.rootElement?, h.root, hRoot]
    exact hFirst
  rw [complete, Completion.resolve, hRoot, hElement]
  rfl

theorem at?_eq_of_root {root : Markup.Element} (hRoot : snapshot.tree.element = some root) (path : List Nat) :
    snapshot.tree.at? path = root.at? path := by
  rw [Markup.Tree.at?, hRoot, Option.bind_some]

theorem number_eq_of_root {root : Markup.Element} (hRoot : snapshot.tree.element = some root) (path : List Nat) :
    snapshot.tree.number path = root.number path := by
  rw [Markup.Tree.number, hRoot]

theorem complete_eq_none_of_away {source : String} (hSnapshot : ofText source = .ok snapshot)
    (hAway : offset = 0 ∨ ∀ element ∈ snapshot.document.elements, element.span.contains (offset - 1) = false) :
    snapshot.complete offset = none := by
  have hAligned := aligned_of_ofText hSnapshot
  cases hRoot : snapshot.tree.element with
  | none =>
      rw [complete, Completion.resolve, hRoot]
      rfl
  | some root =>
      obtain ⟨element, hPair⟩ := hAligned.exists_element ((at?_eq_of_root hRoot []).trans rfl)
      rw [complete_eq_of_root hAligned hRoot hPair]
      refine Completion.resolveElement_eq_none hSnapshot hPair fun hPos => ?_
      rw [← (hAligned.repeats hPair).span]
      rcases hAway with hZero | hAway
      · omega
      · exact hAway element (List.mem_of_getElem? hPair.element)

/-- Where a character is inside an element, there is an innermost element around it. -/
theorem exists_innermost_of_contains {source : String} {position : Nat} (hSnapshot : ofText source = .ok snapshot)
    (hContains : ∃ element ∈ snapshot.document.elements, element.span.contains position = true) :
    ∃ root path markup element, snapshot.tree.element = some root ∧
      Markup.Reader.IsRead source.toList root ∧ root.Innermost position path markup ∧
      snapshot.Pairs path markup element := by
  have hAligned := aligned_of_ofText hSnapshot
  obtain ⟨around, hAround, hContains⟩ := hContains
  obtain ⟨place, outer, hOuter⟩ := hAligned.exists_markup hAround
  obtain ⟨root, hRoot, hPlace⟩ := Option.bind_eq_some_iff.mp hOuter.markup
  obtain ⟨rootElement, hRootPair⟩ := hAligned.exists_element ((at?_eq_of_root hRoot []).trans rfl)
  have hRead := Completion.isRead_of_pairs hSnapshot hRootPair
  have hInside : root.span.contains position = true := by
    refine hRead.contains_of_at hPlace ?_
    rwa [← (hAligned.repeats hOuter).span]
  obtain ⟨path, markup, hInner⟩ := Markup.Element.exists_innermost hRead hInside
  obtain ⟨element, hPair⟩ := hAligned.exists_element ((at?_eq_of_root hRoot path).trans hInner.reached)
  exact ⟨root, path, markup, element, hRoot, hRead, hInner, hPair⟩

theorem complete_eq_of_innermost {source : String} {root markup : Markup.Element} {path : List Nat}
    {element : Document.Element} (hSnapshot : ofText source = .ok snapshot)
    (hRoot : snapshot.tree.element = some root) (hInner : root.Innermost (offset - 1) path markup)
    (hPair : snapshot.Pairs path markup element) :
    snapshot.complete offset = Completion.ownAnswer markup element offset := by
  have hAligned := aligned_of_ofText hSnapshot
  obtain ⟨rootElement, hRootPair⟩ := hAligned.exists_element ((at?_eq_of_root hRoot []).trans rfl)
  rw [complete_eq_of_root hAligned hRoot hRootPair]
  exact Completion.resolveElement_eq_ownAnswer hSnapshot hRootPair hInner hPair

/-- The element that has the character before the cursor for itself answers alone. -/
theorem complete_eq_of_owns {source : String} {path : List Nat} {markup : Markup.Element}
    {element : Document.Element} (hSnapshot : ofText source = .ok snapshot)
    (hPair : snapshot.Pairs path markup element) (hOwns : Completion.Owns markup offset) :
    snapshot.complete offset = Completion.ownAnswer markup element offset := by
  have hSpan := ((aligned_of_ofText hSnapshot).repeats hPair).span
  obtain ⟨root, inner, found, partner, hRoot, hRead, hInner, hFound⟩ := exists_innermost_of_contains hSnapshot
    ⟨element, List.mem_of_getElem? hPair.element, by rw [hSpan]; exact hOwns.contains⟩
  have hAt := (at?_eq_of_root hRoot path).symm.trans hPair.markup
  have hSame : path = inner := by
    by_contra hNe
    exact Completion.not_owns_of_innermost hRead hInner hAt hNe hOwns
  subst hSame
  obtain rfl : markup = found := Option.some.inj (hAt.symm.trans hInner.reached)
  exact complete_eq_of_innermost hSnapshot hRoot hInner hPair

/-- Every completion is the answer of one element. -/
theorem exists_ownAnswer_of_complete {source : String} {context : Completion.Context}
    (hSnapshot : ofText source = .ok snapshot) (hComplete : snapshot.complete offset = some context) :
    ∃ path markup element, snapshot.Pairs path markup element ∧
      Completion.ownAnswer markup element offset = some context := by
  have hInside : ∃ element ∈ snapshot.document.elements, element.span.contains (offset - 1) = true := by
    by_contra hAway
    simp only [not_exists, not_and, Bool.not_eq_true] at hAway
    rw [complete_eq_none_of_away hSnapshot (Or.inr hAway)] at hComplete
    cases hComplete
  obtain ⟨root, path, markup, element, hRoot, _, hInner, hPair⟩ := exists_innermost_of_contains hSnapshot hInside
  refine ⟨path, markup, element, hPair, ?_⟩
  rw [← complete_eq_of_innermost hSnapshot hRoot hInner hPair, hComplete]

/-- Among the elements with the character before the cursor inside there is one that all others stand around.
The completion is what this element answers alone, and no other element has an answer. Where no element has the
character inside, there is no completion. -/
theorem complete_eq_ownAnswer_innermost (source : String) :
    ∃ snapshot, ofText source = .ok snapshot ∧ ∀ offset : Nat,
      ((offset = 0 ∨ ∀ element ∈ snapshot.document.elements, element.span.contains (offset - 1) = false) →
        snapshot.complete offset = none) ∧
      (0 < offset → (∃ element ∈ snapshot.document.elements, element.span.contains (offset - 1) = true) →
        ∃ path markup element, snapshot.Pairs path markup element ∧
          element.span.contains (offset - 1) = true ∧
          snapshot.complete offset = Completion.ownAnswer markup element offset ∧
          ∀ other otherMarkup otherElement, snapshot.Pairs other otherMarkup otherElement → other ≠ path →
            (otherElement.span.contains (offset - 1) = true → other <+: path ∧ other.length < path.length) ∧
            Completion.ownAnswer otherMarkup otherElement offset = none) := by
  obtain ⟨snapshot, hSnapshot⟩ : ∃ snapshot, ofText source = .ok snapshot := ⟨_, ofText_eq source⟩
  have hAligned := aligned_of_ofText hSnapshot
  refine ⟨snapshot, hSnapshot, fun offset => ⟨complete_eq_none_of_away hSnapshot, ?_⟩⟩
  intro _ hContains
  obtain ⟨root, path, markup, element, hRoot, hRead, hInner, hPair⟩ :=
    exists_innermost_of_contains hSnapshot hContains
  refine ⟨path, markup, element, hPair, ?_, complete_eq_of_innermost hSnapshot hRoot hInner hPair, ?_⟩
  · rw [(hAligned.repeats hPair).span]
    exact hInner.contains
  · intro other otherMarkup otherElement hOther hNe
    have hAt := (at?_eq_of_root hRoot other).symm.trans hOther.markup
    constructor
    · intro hOtherContains
      rw [(hAligned.repeats hOther).span] at hOtherContains
      have hPrefix := hInner.deepest other otherMarkup hAt hOtherContains
      refine ⟨hPrefix, lt_of_le_of_ne hPrefix.length_le fun hLength => ?_⟩
      exact hNe (hPrefix.eq_of_length hLength)
    · exact Completion.ownAnswer_eq_none hSnapshot hOther
        (Completion.not_owns_of_innermost hRead hInner hAt hNe)

end Snapshot

end ContentAssist
