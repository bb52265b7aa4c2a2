import ContentAssist.Proofs.Document.Order
import ContentAssist.Proofs.Markup.Nesting
import ContentAssist.Proofs.Schema.Violations

/-! The check of a document as one pass over its elements. The check goes down the schema and the document at once;
here the declaration of an element is found from below, by going up to the root and coming down again through the
schema, and the issues are those of each element after the other in the order of the walk. The two agree wherever
the elements form a tree. -/
namespace ContentAssist.Schema

/-- The element that an issue is about, or whose attribute it is about. -/
def Subject.ownerIn? (document : Document) : Subject → Option Document.Element
  | .element found => some found
  | .attr found => document.ownerOf? found

namespace Element

variable {P : Type}

/-- The declaration of an element, for which at most so many elements are looked at on the way up. -/
def declarationWithin? (schema : Element P) (document : Document) : Nat → Document.Element → Option (Element P)
  | 0, _ => none
  | steps + 1, element => match element.parent with
    | none => if element.name = some schema.name then some schema else none
    | some up => do
      let around ← document.element? up
      let outer ← schema.declarationWithin? document steps around
      element.name.bind outer.element?

/-- The declaration of an element: the schema itself for the root if it has the name, and otherwise what the
declaration of the parent declares first under the name. -/
def declaration? (schema : Element P) (document : Document) (element : Document.Element) : Option (Element P) :=
  schema.declarationWithin? document document.elements.length element

section Declarations

variable {document : Document} {place up : Nat} {element around : Document.Element}

/-- The way up is not longer than the place of the element. -/
theorem declarationWithin?_eq_of_lt (schema : Element P) (h : document.IsTree)
    (hElement : document.elements[place]? = some element) {steps other : Nat} (hSteps : place < steps)
    (hOther : place < other) :
    schema.declarationWithin? document steps element = schema.declarationWithin? document other element := by
  induction steps generalizing place element other with
  | zero => cases hSteps
  | succ steps ih =>
      cases other with
      | zero => cases hOther
      | succ other =>
          rw [declarationWithin?, declarationWithin?]
          cases hParent : element.parent with
          | none => rfl
          | some up =>
              obtain ⟨hUp, around, hAround, _⟩ := (h.elements place element hElement).parent up hParent
              have hSame := ih hAround (by omega) (show up < other by omega)
              simp only [Document.element?, hAround, Option.bind_eq_bind, Option.bind_some, hSame]

theorem declaration?_eq (schema : Element P) (h : document.IsTree)
    (hElement : document.elements[place]? = some element) :
    schema.declaration? document element =
      schema.declarationWithin? document (document.elements.length + 1) element := by
  have hPlace := (List.getElem?_eq_some_iff.mp hElement).1
  exact schema.declarationWithin?_eq_of_lt h hElement hPlace (by omega)

theorem declaration?_of_root (schema : Element P) (h : document.IsTree)
    (hElement : document.elements[place]? = some element) (hParent : element.parent = none) :
    schema.declaration? document element = if element.name = some schema.name then some schema else none := by
  rw [declaration?_eq schema h hElement, declarationWithin?, hParent]

theorem declaration?_of_parent (schema : Element P) (h : document.IsTree)
    (hElement : document.elements[place]? = some element) (hParent : element.parent = some up)
    (hAround : document.elements[up]? = some around) :
    schema.declaration? document element =
      (schema.declaration? document around).bind fun outer => element.name.bind outer.element? := by
  rw [declaration?_eq schema h hElement, declarationWithin?, hParent]
  simp only [Document.element?, hAround, Option.bind_eq_bind, Option.bind_some]
  rfl

end Declarations

variable [PatternLanguage P]

/-- What is wrong with the value of the attribute under the first declaration of its key. -/
def rejection? (declaration : Element P) (attr : Document.Attribute) : Option (Issue P) := do
  let declared ← declaration.attributes.find? fun candidate => candidate.key = attr.key
  let constraint ← declared.value
  let actual ← attr.value
  if constraint.accepts actual then none else some ⟨.rejectedValue constraint actual, .attr attr⟩

/-- The block of an element under its declaration: first the required attributes that are missing and then the
required sub-elements, each in the order of the declarations, and last the rejected values in the order of the
attributes. -/
def block (document : Document) (declaration : Element P) (element : Document.Element) : List (Issue P) :=
  (declaration.attributes.filter fun declared =>
      declared.required ∧ ∀ attr ∈ element.attributes, attr.key ≠ declared.key).map
    (fun declared => ⟨.missingAttribute declared.key, .element element⟩)
  ++ (declaration.elements.filter fun declared =>
      declared.required ∧ ∀ sub ∈ document.subElements element, sub.name ≠ some declared.name).map
    (fun declared => ⟨.missingSubElement declared.name, .element element⟩)
  ++ element.attributes.filterMap declaration.rejection?

/-- The block of an element of the document. An element without a declaration has none. -/
def blockOf (schema : Element P) (document : Document) (element : Document.Element) : List (Issue P) :=
  (schema.declaration? document element).elim [] fun declaration => declaration.block document element

/-- The issues of the document come in one block for each element, in the order of the walk. -/
structure InBlocks (schema : Element P) (document : Document) : Prop where
  rootDeclaration : ∀ element ∈ document.elements, element.parent = none →
    schema.declaration? document element = if element.name = some schema.name then some schema else none
  subDeclaration : ∀ element ∈ document.elements, element.parent ≠ none →
    ∃ around ∈ document.elements, document.parentOf? element = some around ∧
      schema.declaration? document element =
        (schema.declaration? document around).bind fun outer => element.name.bind outer.element?
  /-- No walk gives more elements than there are. -/
  walk : ∀ extra, document.iterate (document.elements.length + extra) = document.iterate document.elements.length
  issues : schema.documentIssues document =
    (document.iterate document.elements.length).flatMap (schema.blockOf document)
  contiguous : ∀ element ∈ document.elements, ∃ before own after,
    schema.documentIssues document = before ++ own ++ after ∧
      (∀ issue ∈ own, issue.subject.ownerIn? document = some element) ∧
      ∀ issue ∈ before ++ after, issue.subject.ownerIn? document ≠ some element

/-- The block lists what the element is reported for, in the same order. -/
theorem ownIssues_eq_block (document : Document) (declaration : Element P) (element : Document.Element) :
    declaration.ownIssues document element = declaration.block document element := by
  have hValues : declaration.valueIssues element = element.attributes.filterMap declaration.rejection? := by
    rw [valueIssues, List.filterMap_eq_flatMap_toList]
    refine List.flatMap_congr fun attr _ => ?_
    rw [rejection?, attribute?]
    cases declaration.attributes.find? fun candidate => candidate.key = attr.key with
    | none => rfl
    | some declared =>
        cases hConstraint : declared.value with
        | none => simp [Attribute.valueIssues, hConstraint]
        | some constraint =>
            cases hActual : attr.value with
            | none => simp [Attribute.valueIssues, hConstraint, hActual]
            | some actual =>
                by_cases hAccepts : constraint.accepts actual <;>
                  simp [Attribute.valueIssues, hConstraint, hActual, hAccepts]
  rw [ownIssues, attributeIssues_eq, subElementIssues_eq, hValues, block]

/-- Below a declaration, an element is checked under the declaration that is found for it from below. -/
theorem issuesAmong_eq_elim (document : Document) (outer : Element P) (element : Document.Element) :
    issuesAmong document outer.elements element =
      (element.name.bind outer.element?).elim [] fun declaration => declaration.issues document element := by
  rw [issuesAmong_eq]
  cases hName : element.name with
  | none =>
      have hFind : outer.elements.find? (fun candidate => (none : Option String) = some candidate.name) = none := by
        simp
      rw [hFind]
      rfl
  | some name =>
      simp only [Option.bind_some, element?, Option.some.injEq, @eq_comm _ name]
      cases outer.elements.find? fun candidate => candidate.name = name <;> rfl

/-- The walk from an element on meets the issues of the element and all that is below it. -/
theorem flatMap_blockOf_order (schema : Element P) {document : Document} (h : document.IsTree) {place : Nat}
    {element : Document.Element} (hElement : document.elements[place]? = some element) :
    ((document.order place).filterMap document.element?).flatMap (schema.blockOf document) =
      (schema.declaration? document element).elim [] fun declaration => declaration.issues document element := by
  induction place, element, hElement using h.inductionOnSubElements with
  | step place element hElement ih =>
      have hBelow : ∀ sub ∈ element.subElements,
          ((document.order sub).filterMap document.element?).flatMap (schema.blockOf document) =
            (document.element? sub).toList.flatMap fun child =>
              ((schema.declaration? document element).bind fun outer => child.name.bind outer.element?).elim []
                fun declaration => declaration.issues document child := by
        intro sub hSub
        obtain ⟨child, hChild, hParent⟩ := (h.elements place element hElement).subElements sub hSub
        rw [ih sub hSub child hChild, declaration?_of_parent schema h hChild hParent hElement, Document.element?,
          hChild, Option.toList_some, List.flatMap_singleton]
      have hFound : document.element? place = some element := hElement
      rw [h.order_eq hElement, List.filterMap_cons_some hFound, List.flatMap_cons, List.filterMap_flatMap,
        List.flatMap_assoc, List.flatMap_congr hBelow, ← List.flatMap_assoc, ← List.filterMap_eq_flatMap_toList,
        ← Document.subElements, blockOf]
      cases schema.declaration? document element with
      | none => simp
      | some declaration =>
          simp only [Option.elim_some, Option.bind_some, ← issuesAmong_eq_elim, ← ownIssues_eq_block]
          rw [issues_eq]

/-- The check of a tree goes over the blocks of its elements in the order of the walk. -/
theorem documentIssues_eq_flatMap_blockOf (schema : Element P) {document : Document} (h : document.IsTree) :
    schema.documentIssues document =
      (document.iterate document.elements.length).flatMap (schema.blockOf document) := by
  rw [← Nat.add_zero document.elements.length, h.iterate_eq]
  cases hElements : document.elements with
  | nil =>
      have hOrder : document.order 0 = [] := by rw [Document.order, hElements]; rfl
      rw [hOrder, documentIssues, Document.rootElement?, h.noRoot hElements]
      rfl
  | cons root rest =>
      have hRoot : document.elements[0]? = some root := by rw [hElements]; rfl
      have hParent := (h.elements 0 root hRoot).root.mpr rfl
      have hFound : document.rootElement? = some root := by
        rw [Document.rootElement?, h.root (by simp [hElements])]
        exact hRoot
      rw [flatMap_blockOf_order schema h hRoot, declaration?_of_root schema h hRoot hParent, documentIssues, hFound]
      by_cases hName : root.name = some schema.name <;> simp [hName]

theorem subject_of_rejection? {declaration : Element P} {attr : Document.Attribute} {issue : Issue P}
    (hIssue : declaration.rejection? attr = some issue) : issue.subject = .attr attr := by
  simp only [rejection?, Option.bind_eq_bind, Option.bind_eq_some_iff] at hIssue
  obtain ⟨declared, _, constraint, _, actual, _, hRejected⟩ := hIssue
  split at hRejected
  · cases hRejected
  · rw [← Option.some.inj hRejected]

/-- The issues in the block of an element are about it or its attributes. -/
theorem ownerIn?_of_mem_blockOf {schema : Element P} {document : Document} (h : document.IsTree)
    {element : Document.Element} (hElement : element ∈ document.elements) {issue : Issue P}
    (hIssue : issue ∈ schema.blockOf document element) : issue.subject.ownerIn? document = some element := by
  obtain ⟨place, hPlace⟩ := List.getElem?_of_mem hElement
  rw [blockOf] at hIssue
  cases hDeclaration : schema.declaration? document element with
  | none =>
      rw [hDeclaration] at hIssue
      cases hIssue
  | some declaration =>
      rw [hDeclaration, Option.elim_some, block, List.mem_append, List.mem_append] at hIssue
      rcases hIssue with (hMissing | hMissing) | hRejected
      · obtain ⟨_, _, rfl⟩ := List.mem_map.mp hMissing
        rfl
      · obtain ⟨_, _, rfl⟩ := List.mem_map.mp hMissing
        rfl
      · obtain ⟨attr, hAttr, hIssue⟩ := List.mem_filterMap.mp hRejected
        rw [subject_of_rejection? hIssue, Subject.ownerIn?, Document.ownerOf?,
          (h.elements place element hPlace).attributes attr hAttr]
        exact hPlace

/-- The block of an element stands in the issues of the document without a gap, and the others are not about the
element. -/
theorem exists_split_at_block (schema : Element P) {document : Document} (h : document.IsTree)
    {element : Document.Element} (hElement : element ∈ document.elements) :
    ∃ before after, schema.documentIssues document = before ++ schema.blockOf document element ++ after ∧
      ∀ issue ∈ before ++ after, issue.subject.ownerIn? document ≠ some element := by
  obtain ⟨before, after, hWalk⟩ := List.append_of_mem ((h.mem_iterate_iff 0).mpr hElement)
  have hNodup := h.nodup_iterate 0
  rw [hWalk, List.nodup_append, List.nodup_cons] at hNodup
  obtain ⟨_, ⟨hAfter, _⟩, hBefore⟩ := hNodup
  refine ⟨before.flatMap (schema.blockOf document), after.flatMap (schema.blockOf document), ?_, ?_⟩
  · rw [documentIssues_eq_flatMap_blockOf schema h]
    rw [Nat.add_zero] at hWalk
    rw [hWalk, List.flatMap_append, List.flatMap_cons, List.append_assoc]
  · intro issue hIssue hOwner
    rw [← List.flatMap_append] at hIssue
    obtain ⟨other, hOther, hMem⟩ := List.mem_flatMap.mp hIssue
    have hListed : other ∈ document.elements := by
      rw [← h.mem_iterate_iff 0, hWalk]
      simp only [List.mem_append, List.mem_cons] at hOther ⊢
      exact hOther.imp_right Or.inr
    rw [ownerIn?_of_mem_blockOf h hListed hMem, Option.some.injEq] at hOwner
    rw [hOwner] at hOther
    rcases List.mem_append.mp hOther with hMem | hMem
    · exact hBefore element hMem element List.mem_cons_self rfl
    · exact hAfter hMem

theorem inBlocks (schema : Element P) {document : Document} (h : document.IsTree) : schema.InBlocks document where
  rootDeclaration := by
    intro element hElement hParent
    obtain ⟨place, hPlace⟩ := List.getElem?_of_mem hElement
    exact declaration?_of_root schema h hPlace hParent
  subDeclaration := by
    intro element hElement hParent
    obtain ⟨place, hPlace⟩ := List.getElem?_of_mem hElement
    obtain ⟨up, hUp⟩ := Option.ne_none_iff_exists'.mp hParent
    obtain ⟨_, around, hAround, _⟩ := (h.elements place element hPlace).parent up hUp
    refine ⟨around, List.mem_of_getElem? hAround, ?_, declaration?_of_parent schema h hPlace hUp hAround⟩
    rw [Document.parentOf?, hUp]
    exact hAround
  walk := fun extra => (h.iterate_eq extra).trans (h.iterate_eq 0).symm
  issues := documentIssues_eq_flatMap_blockOf schema h
  contiguous := by
    intro element hElement
    obtain ⟨before, after, hIssues, hOthers⟩ := exists_split_at_block schema h hElement
    exact ⟨before, schema.blockOf document element, after, hIssues,
      fun issue => ownerIn?_of_mem_blockOf h hElement, hOthers⟩

/-- The check of a document reports one block of issues for each element, in the order of a walk through the
document and under the declaration that is found by going up to the root. This holds of every document that was
built by insertions, whether or not all of them succeeded, and of the document of every text. In a text the elements
that the issues are about come in the order of their places. -/
theorem documentIssues_in_blocks (schema : Element P) :
    (∀ (span : Span) (requests : List Document.Insertion),
      schema.InBlocks (Document.Insertion.afterAll requests (Document.empty span))) ∧
    ∀ source, ∃ snapshot, Snapshot.ofText source = .ok snapshot ∧ schema.InBlocks snapshot.document ∧
      ∃ owners : List Document.Element,
        (schema.documentIssues snapshot.document).map (fun issue => issue.subject.ownerIn? snapshot.document) =
          owners.map some ∧
        owners.Pairwise fun first second => first.span.startOffset ≤ second.span.startOffset := by
  refine ⟨fun span requests => inBlocks schema (Document.Insertion.isTree_afterAll requests (.empty span)), ?_⟩
  intro source
  obtain ⟨snapshot, hSnapshot⟩ : ∃ snapshot, Snapshot.ofText source = .ok snapshot := ⟨_, Snapshot.ofText_eq source⟩
  have hTree := Snapshot.isTree_of_ofText hSnapshot
  refine ⟨snapshot, hSnapshot, inBlocks schema hTree, snapshot.document.elements.flatMap fun element =>
    (schema.blockOf snapshot.document element).map fun _ => element, ?_, ?_⟩
  · have hWalk := Snapshot.iterate_eq_elements hSnapshot 0
    rw [Nat.add_zero] at hWalk
    rw [documentIssues_eq_flatMap_blockOf schema hTree, hWalk, List.map_flatMap, List.map_flatMap]
    refine List.flatMap_congr fun element hElement => ?_
    rw [List.map_map]
    exact List.map_congr_left fun issue hIssue => ownerIn?_of_mem_blockOf hTree hElement hIssue
  · rw [List.pairwise_flatMap]
    refine ⟨fun element _ => ?_, (Snapshot.starts_increasing hSnapshot).imp fun hLt first hFirst second hSecond => ?_⟩
    · rw [List.pairwise_map]
      exact List.pairwise_of_forall fun _ _ => le_rfl
    · obtain ⟨_, _, rfl⟩ := List.mem_map.mp hFirst
      obtain ⟨_, _, rfl⟩ := List.mem_map.mp hSecond
      exact hLt.le

end Element

end ContentAssist.Schema
