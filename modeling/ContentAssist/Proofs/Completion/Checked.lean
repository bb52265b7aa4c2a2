import ContentAssist.Proofs.Completion.Innermost
import ContentAssist.Proofs.Markup.TokenOrder

/-! The walk to a completion, calculated with offsets of 64 bits. A sum that does not fit and a difference below zero
are faults, and so is going on without end. What was typed is cut off at the end of an image, and a place inside a run
of text is never negative; everything else could fail. It does not, as long as no token reaches to the last offset that
there is: the calculation then gives the completion, whatever the tree and the document are otherwise. -/
namespace ContentAssist.Completion.Checked

open Markup (Token present present_eq_some_iff)

/-- What can stop a calculation. -/
inductive Fault where
  /-- A sum of more than 64 bits -/
  | overflow
  /-- A difference below zero -/
  | underflow
  /-- More calls inside one another than were allowed -/
  | exhausted
deriving DecidableEq, Repr

/-- A calculation stops with a fault, or ends with or without a result. -/
abbrev Calculation := OptionT (Except Fault)

section

variable {Result : Type}

def stop (fault : Fault) : Calculation Result :=
  OptionT.mk (.error fault)

/-- The value in a slot, which may be open. -/
def given (slot : Option Result) : Calculation Result :=
  OptionT.mk (.ok slot)

end

/-- The offset behind the given one. -/
def next (offset : Nat) : Calculation Nat :=
  if offset + 1 < UInt64.size then pure (offset + 1) else stop .overflow

def minus (first second : Nat) : Calculation Nat :=
  if second ≤ first then pure (first - second) else stop .underflow

section Rules

variable (markup : Markup.Element) (element : Document.Element) (offset : Nat)

def afterOpen : Calculation Context := do
  let opening ← given (present markup.openAngle)
  let behind ← next opening.span.endOffset
  guard (behind = offset)
  return ⟨.elementName, element, none, none, none⟩

def inName : Calculation Context := do
  let name ← given (present markup.name)
  guard (name.span.startOffset < offset)
  let behind ← next name.span.endOffset
  guard (offset ≤ behind)
  let count ← minus offset name.span.startOffset
  return ⟨.elementName, element, none, none, some (firstChars name.image count)⟩

def inValue (markup : Markup.Attribute) (attr : Document.Attribute) : Calculation Context := do
  let value ← given (present markup.string)
  guard (value.span.startOffset < offset && offset ≤ value.span.endOffset)
  let count ← minus offset value.span.startOffset
  return ⟨.attributeValue, element, some attr, none, nonEmpty (firstQuoted value.image count)⟩

def onKey (markup : Markup.Attribute) (attr : Document.Attribute) : Calculation Context := do
  let key ← given (present markup.name)
  guard (key.span.startOffset ≤ offset)
  let behind ← next key.span.endOffset
  guard (offset ≤ behind)
  let count ← minus offset key.span.startOffset
  return ⟨.attributeName, element, some attr, none, nonEmpty (firstChars key.image count)⟩

def inAttributes : Calculation Context :=
  (markup.attributes.zip element.attributes).firstM fun pair =>
    inValue element offset pair.1 pair.2 <|> onKey element offset pair.1 pair.2

def newAttribute : Calculation Context := do
  let name ← given (present markup.name)
  let close ← given ((present markup.startClose).or (present markup.slashClose))
  let start ← next name.span.endOffset
  guard (start ≤ offset && offset ≤ close.span.startOffset)
  guard (!element.attributes.any fun attr => attr.span.contains offset)
  return ⟨.attributeName, element, none, none, none⟩

/-- The place in a run of text is cut off at zero, so it needs no check. -/
def inContent : Calculation Context := do
  let opening ← given (present markup.startClose)
  let closing ← given ((present markup.slashOpen).or (present markup.slashClose))
  let start ← next opening.span.endOffset
  guard (start ≤ offset && offset ≤ closing.span.startOffset)
  let before ← minus offset 1
  match locate markup.parts before with
  | none => return ⟨.elementContent, element, none, none, none⟩
  | some (.text index) =>
    let text ← given element.texts[index]?
    return ⟨.elementContent, element, none, some text,
      some (firstChars text.text (offset - text.span.startOffset))⟩
  | some .other => failure

end Rules

/-- Ask an element and its children. The calls inside one another are limited by the budget alone. -/
def visit (document : Document) (offset : Nat) : Nat → Markup.Element → Document.Element → Calculation Context
  | 0, _, _ => stop .exhausted
  | budget + 1, markup, element =>
    afterOpen markup element offset <|> inName markup element offset <|> inAttributes markup element offset
      <|> (markup.children.zipIdx.firstM fun entry => do
        let partner ← given (document.subElement? element entry.2)
        visit document offset budget entry.1 partner)
      <|> newAttribute markup element offset <|> inContent markup element offset

def resolve (budget : Nat) (tree : Markup.Tree) (document : Document) (offset : Nat) : Calculation Context := do
  let markup ← given tree.element
  let root ← given document.rootElement?
  visit document offset budget markup root

/-- The calculation ends without a fault, and this is its result. -/
def Gives {Result : Type} (calculation : Calculation Result) (result : Option Result) : Prop :=
  calculation.run = .ok result

namespace Gives

variable {First Result : Type} {first : Calculation First} {second : First → Calculation Result}
  {calculation other : Calculation Result} {slot : Option First} {result last : Option Result}

theorem given (slot : Option Result) : Gives (Checked.given slot) slot := rfl

theorem pure (value : Result) : Gives (Pure.pure value : Calculation Result) (some value) := rfl

theorem bind {search : First → Option Result} (hFirst : Gives first slot)
    (hSecond : ∀ value, slot = some value → Gives (second value) (search value)) :
    Gives (first >>= second) (slot >>= search) := by
  obtain rfl : first = OptionT.mk (.ok slot) := hFirst
  cases slot with
  | none => rfl
  | some value => exact hSecond value rfl

theorem orElse (hFirst : Gives calculation result) (hSecond : Gives other last) :
    Gives (calculation <|> other) (result.or last) := by
  obtain rfl : calculation = OptionT.mk (.ok result) := hFirst
  cases result with
  | none => exact hSecond
  | some value => rfl

theorem firstM {search : First → Option Result} {items : List First}
    (hEach : ∀ item ∈ items, Gives (second item) (search item)) :
    Gives (items.firstM second) (items.findSome? search) := by
  induction items with
  | nil => rfl
  | cons item rest ih =>
      rw [List.forall_mem_cons] at hEach
      have hBoth := hEach.1.orElse (ih hEach.2)
      rw [List.findSome?_cons]
      cases hItem : search item with
      | none =>
          rw [hItem] at hBoth
          exact hBoth
      | some value =>
          rw [hItem] at hBoth
          exact hBoth

theorem guarded (condition : Prop) [Decidable condition] :
    Gives (guard condition : Calculation Unit) (guard condition) := by
  by_cases hCondition : condition
  · simp only [guard, if_pos hCondition]
    rfl
  · simp only [guard, if_neg hCondition]
    rfl

/-- Two conditions, the second of which is calculated only if the first holds. -/
theorem guardAnd {first second : Prop} [Decidable first] [Decidable second] {search : Unit → Option Result}
    (hSecond : first → Gives calculation (guard second >>= search)) :
    Gives (guard first >>= fun _ => calculation) (guard ((decide first && decide second) = true) >>= search) := by
  by_cases hFirst : first
  · simp only [guard, hFirst, decide_true, Bool.true_and, decide_eq_true_iff]
    exact hSecond hFirst
  · simp only [guard, hFirst, decide_false, Bool.false_and, Bool.false_eq_true, if_false]
    rfl

/-- Behind an offset that is not the last there is another. -/
theorem next {offset : Nat} {second : Nat → Calculation Result} (hOffset : offset ≤ UInt64.size - 2)
    (hSecond : Gives (second (offset + 1)) result) : Gives (Checked.next offset >>= second) result := by
  have hFits : offset + 1 < UInt64.size := by
    unfold UInt64.size at hOffset ⊢
    omega
  rw [Checked.next, if_pos hFits, pure_bind]
  exact hSecond

theorem minus {larger smaller : Nat} {second : Nat → Calculation Result} (hOrder : smaller ≤ larger)
    (hSecond : Gives (second (larger - smaller)) result) : Gives (Checked.minus larger smaller >>= second) result := by
  rw [Checked.minus, if_pos hOrder, pure_bind]
  exact hSecond

end Gives

/-- The tokens do not reach to the last offset that there is. -/
def LeaveRoom (tokens : List Token) : Prop :=
  ∀ token ∈ tokens, token.span.endOffset ≤ UInt64.size - 2

section Rules

variable {markup : Markup.Element} {element : Document.Element} {offset : Nat}

theorem afterOpen_gives (hRoom : LeaveRoom markup.openingTokens) :
    Gives (afterOpen markup element offset) (Completion.afterOpen markup element offset) := by
  refine (Gives.given _).bind fun opening hOpening => ?_
  have hEnd := hRoom opening (by simp [Markup.Element.openingTokens, ((present_eq_some_iff ..).mp hOpening).1])
  exact Gives.next hEnd ((Gives.guarded _).bind fun _ _ => Gives.pure _)

theorem inName_gives (hRoom : LeaveRoom markup.openingTokens) :
    Gives (inName markup element offset) (Completion.inName markup element offset) := by
  refine (Gives.given _).bind fun name hName => Gives.guardAnd fun hStart => ?_
  have hEnd := hRoom name (by simp [Markup.Element.openingTokens, ((present_eq_some_iff ..).mp hName).1])
  refine Gives.next hEnd ((Gives.guarded _).bind fun _ _ => Gives.minus ?_ (Gives.pure _))
  exact hStart.le

theorem inValue_gives (attr : Markup.Attribute) (partner : Document.Attribute) :
    Gives (inValue element offset attr partner) (Completion.inValue element offset attr partner) := by
  refine (Gives.given _).bind fun value _ => (Gives.guarded _).bind fun _ hInside => ?_
  rw [Option.guard_eq_some', Bool.and_eq_true, decide_eq_true_iff] at hInside
  exact Gives.minus hInside.1.le (Gives.pure _)

theorem onKey_gives {attr : Markup.Attribute} (partner : Document.Attribute)
    (hRoom : LeaveRoom attr.tokens) :
    Gives (onKey element offset attr partner) (Completion.onKey element offset attr partner) := by
  refine (Gives.given _).bind fun key hKey => Gives.guardAnd fun hStart => ?_
  have hEnd := hRoom key (Markup.Attribute.mem_tokens_of_name ((present_eq_some_iff ..).mp hKey).1)
  exact Gives.next hEnd ((Gives.guarded _).bind fun _ _ => Gives.minus hStart (Gives.pure _))

theorem inAttributes_gives (hRoom : LeaveRoom markup.openingTokens) :
    Gives (inAttributes markup element offset) (Completion.inAttributes markup element offset) := by
  refine Gives.firstM fun pair hPair => (inValue_gives pair.1 pair.2).orElse (onKey_gives pair.2 fun token hToken => ?_)
  obtain ⟨index, hIndex⟩ := List.getElem?_of_mem (List.of_mem_zip hPair).1
  exact hRoom token (Markup.Element.mem_openingTokens_of_attribute hIndex hToken)

theorem newAttribute_gives (hRoom : LeaveRoom markup.openingTokens) :
    Gives (newAttribute markup element offset) (Completion.newAttribute markup element offset) := by
  refine (Gives.given _).bind fun name hName => (Gives.given _).bind fun close _ => ?_
  have hEnd := hRoom name (by simp [Markup.Element.openingTokens, ((present_eq_some_iff ..).mp hName).1])
  exact Gives.next hEnd ((Gives.guarded _).bind fun _ _ => (Gives.guarded _).bind fun _ _ => Gives.pure _)

theorem inContent_gives (hRoom : LeaveRoom markup.openingTokens) :
    Gives (inContent markup element offset) (Completion.inContent markup element offset) := by
  refine (Gives.given _).bind fun opening hOpening => (Gives.given _).bind fun closing _ => ?_
  have hEnd := hRoom opening (by simp [Markup.Element.openingTokens, ((present_eq_some_iff ..).mp hOpening).1])
  refine Gives.next hEnd ((Gives.guarded _).bind fun _ hInside => ?_)
  rw [Option.guard_eq_some', Bool.and_eq_true, decide_eq_true_iff] at hInside
  -- The cursor is behind the `>` of the tag, so there is a character before it.
  refine Gives.minus ((Nat.le_add_left 1 _).trans hInside.1) ?_
  rw [show (markup.content.map Markup.Content.parts).getD [] = markup.parts from rfl]
  cases locate markup.parts (offset - 1) with
  | none => exact Gives.pure _
  | some hit =>
      cases hit with
      | text index => exact (Gives.given _).bind fun text _ => Gives.pure _
      | other => rfl

end Rules

section Walk

variable {document : Document} {offset : Nat}

/-- The answers of sibling elements as a search through the siblings with their numbers. -/
theorem resolveChildren_eq_zipIdx (element : Document.Element) (index : Nat) (siblings : List Markup.Element) :
    resolveChildren document offset element index siblings = (siblings.zipIdx index).findSome? fun entry =>
      document.subElement? element entry.2 >>= resolveElement document offset entry.1 := by
  induction siblings generalizing index with
  | nil => rfl
  | cons child rest ih =>
      rw [resolveChildren, ih, List.zipIdx_cons, List.findSome?_cons]
      cases hFirst : (document.subElement? element index).bind (resolveElement document offset child) <;>
        simp [hFirst]

theorem size_le_length_outlines {child : Markup.Element} {siblings : List Markup.Element} (path : List Nat)
    (index : Nat) (hChild : child ∈ siblings) :
    child.size ≤ (Markup.Element.outlines path index siblings).length := by
  induction siblings generalizing index with
  | nil => cases hChild
  | cons first rest ih =>
      rw [Markup.Element.outlines, List.length_append, Markup.Element.length_outline]
      rcases List.mem_cons.mp hChild with rfl | hLater
      · exact Nat.le_add_right _ _
      · exact (ih (index + 1) hLater).trans (Nat.le_add_left _ _)

/-- The calculation at an element needs no more calls inside one another than there are elements in the tree. -/
theorem visit_gives {budget : Nat} {markup : Markup.Element} {element : Document.Element}
    (hRoom : LeaveRoom markup.tokens) (hBudget : markup.size ≤ budget) :
    Gives (visit document offset budget markup element) (resolveElement document offset markup element) := by
  induction budget generalizing markup element with
  | zero =>
      rw [Markup.Element.size, Markup.Element.outline_eq] at hBudget
      cases hBudget
  | succ budget ih =>
      have hOpening : LeaveRoom markup.openingTokens := fun token hToken =>
        hRoom token (Markup.Element.mem_tokens_of_opening hToken)
      have hChildren : Gives
          (markup.children.zipIdx.firstM fun entry => do
            let partner ← Checked.given (document.subElement? element entry.2)
            visit document offset budget entry.1 partner)
          (resolveChildren document offset element 0 markup.children) := by
        rw [resolveChildren_eq_zipIdx]
        refine Gives.firstM fun entry hEntry => (Gives.given _).bind fun partner _ => ?_
        have hChild : entry.1 ∈ markup.children := List.fst_mem_of_mem_zipIdx hEntry
        refine ih (fun token hToken => hRoom token ?_) ?_
        · exact Markup.Element.mem_tokens_of_part ((Markup.Element.mem_children_iff ..).mp hChild) hToken
        · have hSmaller := size_le_length_outlines [] 0 hChild
          rw [Markup.Element.size, Markup.Element.outline_eq, List.length_cons] at hBudget
          omega
      rw [resolveElement_eq, ownTag, ownBody, Option.or_assoc, Option.or_assoc]
      exact (afterOpen_gives hOpening).orElse ((inName_gives hOpening).orElse ((inAttributes_gives hOpening).orElse
        (hChildren.orElse ((newAttribute_gives hOpening).orElse (inContent_gives hOpening)))))

end Walk

/-- Where no token of the tree reaches to the last offset of 64 bits, no sum and no difference fails on the way to a
completion, whatever the cursor, the document and the places of the tokens are. The walk ends after no more calls
inside one another than the tree has elements, also where the document goes round in circles, and its result is the
completion. -/
theorem resolve_without_fault (tree : Markup.Tree) (document : Document) (offset extra : Nat)
    (hRoom : LeaveRoom tree.tokens) :
    (resolve (tree.outline.length + extra) tree document offset).run =
      .ok (Completion.resolve tree document offset) := by
  refine (Gives.given tree.element).bind fun markup hMarkup => (Gives.given document.rootElement?).bind fun root _ => ?_
  refine visit_gives (fun token hToken => hRoom token ?_) ?_
  · simp [Markup.Tree.tokens, hMarkup, hToken]
  · rw [Markup.Tree.outline, hMarkup]
    exact Nat.le_add_right _ _

/-- A child whose `<` ends at the last offset but one and starts behind its end, beside an element that is its own
sub-element. The cursor is at the last offset. -/
theorem resolve_without_fault_at_last :
    let opening : Token := ⟨.openAngle, "", ⟨UInt64.size - 1, UInt64.size - 2⟩, false⟩
    let name : Token := ⟨.name, "a", ⟨7, 3⟩, false⟩
    let child : Markup.Element := ⟨some opening, some name, [], none, none, none, none, none, some name, ⟨9, 0⟩⟩
    let root : Markup.Element :=
      ⟨some name, some name, [], some name, some ⟨[.element child], ⟨5, 2⟩⟩, none, none, none, none, ⟨0, 0⟩⟩
    let element : Document.Element := ⟨8, none, [], [0], [], ⟨3, 1⟩, none, ⟨none, none, none⟩⟩
    let tree : Markup.Tree := ⟨none, [], some root, ⟨0, 0⟩⟩
    let document : Document := ⟨some 0, [element], ⟨0, 0⟩⟩
    LeaveRoom tree.tokens ∧ Completion.resolve tree document (UInt64.size - 1) =
        some ⟨.elementName, element, none, none, none⟩ ∧
      (resolve (tree.outline.length + 0) tree document (UInt64.size - 1)).run =
        .ok (Completion.resolve tree document (UInt64.size - 1)) := by
  intro opening name child root element tree document
  have hRoom : LeaveRoom tree.tokens := by
    unfold LeaveRoom
    decide +kernel
  exact ⟨hRoom, by decide +kernel, resolve_without_fault tree document _ 0 hRoom⟩

/-- A token that reaches to the last offset does cause a fault. -/
example :
    let opening : Token := ⟨.openAngle, "<", ⟨0, UInt64.size - 1⟩, false⟩
    let root : Markup.Element := ⟨some opening, none, [], none, none, none, none, none, none, ⟨0, 0⟩⟩
    let element : Document.Element := ⟨0, none, [], [], [], ⟨0, 0⟩, none, ⟨none, none, none⟩⟩
    (resolve 1 ⟨none, [], some root, ⟨0, 0⟩⟩ ⟨some 0, [element], ⟨0, 0⟩⟩ 5).run = .error .overflow := by
  rfl

end ContentAssist.Completion.Checked
