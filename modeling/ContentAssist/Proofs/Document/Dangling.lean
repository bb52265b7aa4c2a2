import ContentAssist.Document.Basic
import Mathlib.Data.Fintype.Card
import Mathlib.Data.Fintype.EquivFin
import Mathlib.Data.List.Basic
import Mathlib.Data.List.Pairwise
import Mathlib.Logic.Relation

/-! Walks through documents whose references may lead nowhere. A recursive walk through the sub-elements passes over
a reference that leads nowhere and goes on behind it; the walk with a stack ends there. As long as the references from
the root on do not go round in circles, both walks end, and the one with a stack gives the start of the other. -/
namespace ContentAssist.Document

/-- The element with the first identifier refers to the second identifier. -/
def Refers (document : Document) (above below : Nat) : Prop :=
  ∃ element, document.element? above = some element ∧ below ∈ element.subElements

/-- Nothing that the root leads to leads back to itself. -/
def Acyclic (document : Document) : Prop :=
  ∀ root, document.root = some root → ∀ id, Relation.ReflTransGen document.Refers root id →
    ¬ Relation.TransGen document.Refers id id

/-- A recursive walk from the first elements on comes to the second ones: to each element, then to all that its
sub-elements lead to, and then to the others. -/
inductive Descends (document : Document) : List Element → List Element → Prop
  | nil : Descends document [] []
  | cons {element : Element} {others below rest : List Element}
      (hBelow : Descends document (document.subElements element) below) (hOthers : Descends document others rest) :
      Descends document (element :: others) (element :: (below ++ rest))

/-- The references that a recursive walk meets, from the first ones on. Behind a reference that leads nowhere the walk
goes on with the others. -/
inductive Meets (document : Document) : List Nat → List Nat → Prop
  | nil : Meets document [] []
  | lost {id : Nat} {others rest : List Nat} (hLost : document.element? id = none)
      (hOthers : Meets document others rest) : Meets document (id :: others) (id :: rest)
  | found {id : Nat} {element : Element} {others below rest : List Nat}
      (hElement : document.element? id = some element) (hBelow : Meets document element.subElements below)
      (hOthers : Meets document others rest) : Meets document (id :: others) (id :: (below ++ rest))

/-- The walk with a stack ends by itself, and these are all its elements. -/
def Collects (document : Document) (collected : List Element) : Prop :=
  ∃ limit, ∀ extra, document.iterate (limit + extra) = collected

/-- The reference leads to an element. -/
def leads (document : Document) (id : Nat) : Bool :=
  (document.element? id).isSome

variable {document : Document} {ids first second references others : List Nat}

theorem Descends.unique {elements walked other : List Element} (h : Descends document elements walked)
    (hOther : Descends document elements other) : walked = other := by
  induction h generalizing other with
  | nil =>
      cases hOther
      rfl
  | cons _ _ ihBelow ihOthers =>
      cases hOther with
      | cons hBelow hOthers => rw [ihBelow hBelow, ihOthers hOthers]

theorem Meets.append (hFirst : Meets document first references) (hSecond : Meets document second others) :
    Meets document (first ++ second) (references ++ others) := by
  induction hFirst with
  | nil => exact hSecond
  | lost hLost _ ih => exact .lost hLost ih
  | found hElement hBelow _ _ ih =>
      rw [List.cons_append, List.cons_append, List.append_assoc]
      exact .found hElement hBelow ih

/-- The elements of a recursive walk are those that its references lead to. -/
theorem Meets.descends (h : Meets document ids references) :
    Descends document (ids.filterMap document.element?) (references.filterMap document.element?) := by
  induction h with
  | nil => exact .nil
  | lost hLost _ ih =>
      rw [List.filterMap_cons_none hLost, List.filterMap_cons_none hLost]
      exact ih
  | found hElement _ _ ihBelow ihOthers =>
      rw [List.filterMap_cons_some hElement, List.filterMap_cons_some hElement, List.filterMap_append]
      exact .cons ihBelow ihOthers

/-- The walk with a stack goes as far as the references lead to elements. -/
theorem Meets.walk_eq (h : Meets document ids references) (limit : Nat) :
    document.walk limit ids =
      ((references.takeWhile document.leads).filterMap document.element?).take limit := by
  induction limit generalizing ids references with
  | zero => rfl
  | succ limit ih =>
      cases h with
      | nil => rfl
      | lost hLost _ =>
          rw [List.takeWhile_cons_of_neg (by simp [leads, hLost])]
          simp [walk, step?, hLost]
      | @found id element others below rest hElement hBelow hOthers =>
          have hStep : document.step? (id :: others) = some (element, element.subElements ++ others) := by
            simp [step?, hElement]
          -- The sub-elements come on top of the stack, so that what is left to meet stays in order.
          rw [walk, hStep, List.takeWhile_cons_of_pos (by simp [leads, hElement]),
            List.filterMap_cons_some hElement, List.take_succ_cons, ← ih (hBelow.append hOthers)]

/-- One reference after the other can be followed, if each that leads to an element can. -/
theorem exists_meets_of_forall
    (hEach : ∀ id ∈ ids, id < document.elements.length → ∃ references, Meets document [id] references) :
    ∃ references, Meets document ids references := by
  induction ids with
  | nil => exact ⟨[], .nil⟩
  | cons id others ih =>
      rw [List.forall_mem_cons] at hEach
      obtain ⟨rest, hOthers⟩ := ih hEach.2
      by_cases hKnown : id < document.elements.length
      · obtain ⟨found, hFound⟩ := hEach.1 hKnown
        exact ⟨found ++ rest, hFound.append hOthers⟩
      · exact ⟨id :: rest, .lost (List.getElem?_eq_none (Nat.not_lt.mp hKnown)) hOthers⟩

/-- The first element is a sub-element of the second, and the root leads to both. -/
def IsBelowReached (document : Document) (root : Nat) (below above : Fin document.elements.length) : Prop :=
  Relation.ReflTransGen document.Refers root above ∧ document.Refers above below

theorem wellFounded_isBelowReached {root : Nat} (h : document.Acyclic) (hRoot : document.root = some root) :
    WellFounded (document.IsBelowReached root) := by
  have hIrrefl : Std.Irrefl (Relation.TransGen (document.IsBelowReached root)) := by
    refine ⟨fun place hCircle => ?_⟩
    have hReached : Relation.ReflTransGen document.Refers root place := by
      cases hCircle with
      | single hStep => exact hStep.1
      | tail _ hStep => exact hStep.1
    have hSwapped : Relation.TransGen (Function.swap document.Refers) place.val place.val :=
      hCircle.lift Fin.val fun _ _ hStep => hStep.2
    exact h root hRoot place hReached (Relation.transGen_swap.mp hSwapped)
  exact Subrelation.wf Relation.TransGen.single (Finite.wellFounded_of_trans_of_irrefl _)

/-- Without circles a recursive walk from the root on ends. -/
theorem exists_meets (h : document.Acyclic) : ∃ references, Meets document document.root.toList references := by
  refine exists_meets_of_forall fun root hRoot hKnown => ?_
  rw [Option.mem_toList] at hRoot
  have hEach : ∀ place : Fin document.elements.length, Relation.ReflTransGen document.Refers root place →
      ∃ references, Meets document [place.val] references := by
    intro place
    induction place using (wellFounded_isBelowReached h hRoot).induction with
    | _ place ih =>
      intro hReached
      have hElement : document.element? place = some document.elements[place] := List.getElem?_eq_getElem place.isLt
      obtain ⟨below, hBelow⟩ : ∃ below, Meets document document.elements[place].subElements below := by
        refine exists_meets_of_forall fun sub hSub hLt => ?_
        have hRefers : document.Refers place sub := ⟨_, hElement, hSub⟩
        exact ih ⟨sub, hLt⟩ ⟨hReached, hRefers⟩ (hReached.tail hRefers)
      exact ⟨_, .found hElement hBelow .nil⟩
  exact hEach ⟨root, hKnown⟩ .refl

/-- What comes up to the first failure is all there is, exactly if nothing comes behind a failure. -/
theorem filterMap_takeWhile_eq_iff {Item Result : Type} (search : Item → Option Result) (items : List Item) :
    (items.takeWhile fun item => (search item).isSome).filterMap search = items.filterMap search ↔
      items.Pairwise fun earlier later => search earlier = none → search later = none := by
  induction items with
  | nil => simp
  | cons item rest ih =>
      cases hItem : search item with
      | none =>
          rw [List.takeWhile_cons_of_neg (by simp [hItem]), List.filterMap_nil, List.filterMap_cons_none hItem,
            eq_comm, List.filterMap_eq_nil_iff, List.pairwise_cons]
          refine ⟨fun hNone => ⟨fun later hLater _ => hNone later hLater, ?_⟩, fun hNone later hLater => ?_⟩
          · exact List.pairwise_iff_forall_sublist.mpr fun hPair _ => hNone _ (hPair.subset (by simp))
          · exact hNone.1 later hLater hItem
      | some result =>
          rw [List.takeWhile_cons_of_pos (by simp [hItem]), List.filterMap_cons_some hItem,
            List.filterMap_cons_some hItem, List.cons.injEq, List.pairwise_cons, ih]
          simp [hItem]

/-- Both walks follow the same references. The one with a stack collects what comes before the first that leads
nowhere, and nothing else. -/
theorem Meets.collects_iff (h : Meets document document.root.toList references) (collected : List Element) :
    document.Collects collected ↔
      collected = (references.takeWhile document.leads).filterMap document.element? := by
  have hWalk : ∀ limit, document.iterate limit =
      ((references.takeWhile document.leads).filterMap document.element?).take limit := h.walk_eq
  constructor
  · rintro ⟨limit, hEnd⟩
    have hLong := hEnd ((references.takeWhile document.leads).filterMap document.element?).length
    rw [hWalk, List.take_of_length_le (Nat.le_add_left _ _)] at hLong
    exact hLong.symm
  · rintro rfl
    refine ⟨((references.takeWhile document.leads).filterMap document.element?).length, fun extra => ?_⟩
    rw [hWalk, List.take_of_length_le (Nat.le_add_right _ _)]

/-- The recursive walk comes to every element that a reference leads to. -/
theorem Meets.descends_iff (h : Meets document document.root.toList references) (walked : List Element) :
    Descends document document.rootElement?.toList walked ↔ walked = references.filterMap document.element? := by
  have hRoot : document.root.toList.filterMap document.element? = document.rootElement?.toList := by
    rw [rootElement?]
    cases document.root with
    | none => rfl
    | some root => cases hElement : document.element? root <;> simp [hElement]
  have hDescends := h.descends
  rw [hRoot] at hDescends
  refine ⟨fun hWalked => hWalked.unique hDescends, ?_⟩
  rintro rfl
  exact hDescends

/-- How the two walks compare, by the references that they meet. -/
structure ComparesWalks (document : Document) (references : List Nat) : Prop where
  meets : Meets document document.root.toList references
  /-- The walk with a stack comes to what the references before the first failing one lead to. -/
  collects : ∀ collected, document.Collects collected ↔
    collected = (references.takeWhile document.leads).filterMap document.element?
  /-- The recursive walk comes to all that the references lead to. -/
  descends : ∀ walked, Descends document document.rootElement?.toList walked ↔
    walked = references.filterMap document.element?
  agrees : (∃ elements, document.Collects elements ∧ Descends document document.rootElement?.toList elements) ↔
    references.Pairwise fun earlier later => document.element? earlier = none → document.element? later = none

/-- Where the references from the root on do not go round in circles, both walks end, and they meet the same
references in the same order. The recursive walk passes over those that lead nowhere; the walk with a stack ends at the
first of them. So the two agree exactly if behind a reference that leads nowhere no other one leads anywhere. -/
theorem exists_comparesWalks (document : Document) (hAcyclic : document.Acyclic) :
    ∃ references, document.ComparesWalks references := by
  obtain ⟨references, hMeets⟩ := exists_meets hAcyclic
  refine ⟨references, hMeets, hMeets.collects_iff, hMeets.descends_iff, ?_⟩
  rw [← filterMap_takeWhile_eq_iff]
  constructor
  · rintro ⟨elements, hCollects, hDescends⟩
    exact ((hMeets.collects_iff elements).mp hCollects).symm.trans ((hMeets.descends_iff elements).mp hDescends)
  · intro hSame
    exact ⟨_, (hMeets.collects_iff _).mpr rfl, (hMeets.descends_iff _).mpr hSame⟩

/-- References that only lead forward do not go round in circles. -/
theorem acyclic_of_forward (h : ∀ above below, document.Refers above below → above < below) : document.Acyclic := by
  intro root _ id _ hCircle
  have hForward : ∀ {first last}, Relation.TransGen document.Refers first last → first < last := by
    intro first last hPath
    induction hPath with
    | single hStep => exact h _ _ hStep
    | tail _ hStep ih => exact ih.trans (h _ _ hStep)
  exact Nat.lt_irrefl id (hForward hCircle)

/-- A root with a reference that leads nowhere in front of one to its child, and with that child twice. -/
def lostInFront : Document :=
  ⟨some 0, [⟨0, some "a", [], [7, 1, 1], [], ⟨0, 7⟩, none, ⟨none, none, none⟩⟩,
    ⟨1, some "b", [], [], [], ⟨3, 6⟩, some 0, ⟨none, none, none⟩⟩], ⟨0, 7⟩⟩

theorem acyclic_lostInFront : lostInFront.Acyclic := by
  refine acyclic_of_forward fun above below hRefers => ?_
  obtain ⟨element, hElement, hBelow⟩ := hRefers
  match above with
  | 0 =>
      cases hElement
      simp at hBelow
      omega
  | 1 =>
      cases hElement
      cases hBelow
  | above + 2 => cases hElement

theorem exists_comparesWalks_lostInFront :
    lostInFront.Acyclic ∧ ∃ references, lostInFront.ComparesWalks references :=
  ⟨acyclic_lostInFront, exists_comparesWalks lostInFront acyclic_lostInFront⟩

/-- The walk with a stack ends before the child; the recursive walk comes to it both times. -/
theorem walks_differ_lostInFront :
    lostInFront.Acyclic ∧ ∃ collected walked, lostInFront.Collects collected ∧
      Descends lostInFront lostInFront.rootElement?.toList walked ∧
      collected.map Element.name = [some "a"] ∧ walked.map Element.name = [some "a", some "b", some "b"] := by
  have hEnd : ∀ extra, lostInFront.iterate (1 + extra) = lostInFront.elements.take 1 := by
    intro extra
    rw [Nat.add_comm]
    cases extra <;> rfl
  exact ⟨acyclic_lostInFront, _, _, ⟨1, hEnd⟩, .cons (.cons .nil (.cons .nil .nil)) .nil, rfl, rfl⟩

end ContentAssist.Document
