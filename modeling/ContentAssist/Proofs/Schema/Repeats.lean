import ContentAssist.Proofs.Schema.Blocks

/-! Declarations that come again: an attribute declared with a key, or a sub-element with a name, that an earlier
declaration in the same list has already. Values and sub-elements are checked under the first declaration of their
name, so there a repeat is never looked at. What is required is read from the whole list instead: a repeat that is
required is reported like any other declaration. The check therefore gives what it would give without the repeats
exactly if no element misses anything that is required by a repeat. -/
namespace ContentAssist.Schema

section Lists

variable {Item : Type} (key : Item → String)

/-- The items without those whose key was seen before, in `seen` or on an earlier item. -/
def firstsFrom (seen : List String) : List Item → List Item
  | [] => []
  | item :: rest =>
    if key item ∈ seen then firstsFrom seen rest else item :: firstsFrom (key item :: seen) rest

/-- The items that are the first with their key. -/
def firsts (items : List Item) : List Item :=
  firstsFrom key [] items

/-- One of the items, behind another one with the same key. -/
def IsRepeat (items : List Item) (item : Item) : Prop :=
  ∃ before after, items = before ++ item :: after ∧ ∃ earlier ∈ before, key earlier = key item

/-- The repeats among items that others came before. -/
def IsRepeatFrom (seen : List String) (items : List Item) (item : Item) : Prop :=
  ∃ before after, items = before ++ item :: after ∧ (key item ∈ seen ∨ ∃ earlier ∈ before, key earlier = key item)

variable {key}

theorem isRepeatFrom_nil {items : List Item} {item : Item} :
    IsRepeatFrom key [] items item ↔ IsRepeat key items item := by
  simp [IsRepeatFrom, IsRepeat]

theorem isRepeatFrom_cons {seen : List String} {first item : Item} {rest : List Item} :
    IsRepeatFrom key seen (first :: rest) item ↔
      (item = first ∧ key first ∈ seen) ∨ IsRepeatFrom key (key first :: seen) rest item := by
  constructor
  · rintro ⟨before, after, hItems, hSeen⟩
    cases before with
    | nil =>
        rw [List.nil_append, List.cons.injEq] at hItems
        rw [← hItems.1] at hSeen ⊢
        exact Or.inl ⟨rfl, by simpa using hSeen⟩
    | cons head before =>
        rw [List.cons_append, List.cons.injEq] at hItems
        rw [← hItems.1, List.exists_mem_cons_iff] at hSeen
        refine Or.inr ⟨before, after, hItems.2, ?_⟩
        rw [List.mem_cons]
        rcases hSeen with hSeen | hSame | hEarlier
        · exact Or.inl (Or.inr hSeen)
        · exact Or.inl (Or.inl hSame.symm)
        · exact Or.inr hEarlier
  · rintro (⟨rfl, hSeen⟩ | ⟨before, after, hItems, hSeen⟩)
    · exact ⟨[], rest, rfl, Or.inl hSeen⟩
    · refine ⟨first :: before, after, by rw [hItems, List.cons_append], ?_⟩
      rw [List.exists_mem_cons_iff]
      rw [List.mem_cons] at hSeen
      rcases hSeen with (hSame | hSeen) | hEarlier
      · exact Or.inr (Or.inl hSame.symm)
      · exact Or.inl hSeen
      · exact Or.inr (Or.inr hEarlier)

/-- A key that was seen already makes no new repeats. -/
theorem isRepeatFrom_cons_seen {seen : List String} {again : String} {items : List Item} {item : Item}
    (hAgain : again ∈ seen) : IsRepeatFrom key (again :: seen) items item ↔ IsRepeatFrom key seen items item := by
  have hSame : key item ∈ again :: seen ↔ key item ∈ seen := by
    rw [List.mem_cons, or_iff_right_of_imp]
    rintro rfl
    exact hAgain
  simp only [IsRepeatFrom, hSame]

theorem firstsFrom_sublist (seen : List String) (items : List Item) : (firstsFrom key seen items).Sublist items := by
  induction items generalizing seen with
  | nil => exact List.Sublist.refl _
  | cons item rest ih =>
      rw [firstsFrom]
      split
      · exact (ih seen).cons item
      · exact (ih (key item :: seen)).cons_cons item

theorem firstsFrom_map {change : Item → Item} (hKey : ∀ item, key (change item) = key item) (seen : List String)
    (items : List Item) : firstsFrom key seen (items.map change) = (firstsFrom key seen items).map change := by
  induction items generalizing seen with
  | nil => rfl
  | cons item rest ih =>
      rw [List.map_cons, firstsFrom, firstsFrom, hKey, ih, ih]
      split <;> rfl

/-- What is looked up by its key is never a repeat. -/
theorem find?_firstsFrom {asked : String → Bool} {seen : List String} (hSeen : ∀ name ∈ seen, asked name = false)
    (items : List Item) :
    (firstsFrom key seen items).find? (fun item => asked (key item)) = items.find? fun item => asked (key item) := by
  induction items generalizing seen with
  | nil => rfl
  | cons item rest ih =>
      rw [firstsFrom, List.find?_cons]
      cases hAsked : asked (key item) with
      | true =>
          rw [if_neg (fun hMem => by rw [hSeen _ hMem] at hAsked; cases hAsked), List.find?_cons, hAsked]
      | false =>
          split
          · exact ih hSeen
          · rw [List.find?_cons, hAsked]
            exact ih (List.forall_mem_cons.mpr ⟨hAsked, hSeen⟩)

theorem find?_firsts (asked : String → Bool) (items : List Item) :
    (firsts key items).find? (fun item => asked (key item)) = items.find? fun item => asked (key item) :=
  find?_firstsFrom (fun _ hMem => absurd hMem List.not_mem_nil) items

theorem filter_firstsFrom_eq_iff {keeps : Item → Bool} (seen : List String) (items : List Item) :
    (firstsFrom key seen items).filter keeps = items.filter keeps ↔
      ∀ item, IsRepeatFrom key seen items item → keeps item = false := by
  induction items generalizing seen with
  | nil => simp [firstsFrom, IsRepeatFrom]
  | cons first rest ih =>
      simp only [isRepeatFrom_cons, or_imp, forall_and, and_imp, forall_eq]
      rw [firstsFrom]
      by_cases hSeen : key first ∈ seen
      · rw [if_pos hSeen]
        simp only [isRepeatFrom_cons_seen hSeen, ← ih seen, hSeen, forall_true_left]
        cases hKeeps : keeps first with
        | false => simp [hKeeps]
        | true =>
            -- Without the item the first list is no longer than the second, so with it the two differ.
            have hShorter : ((firstsFrom key seen rest).filter keeps).length ≤ (rest.filter keeps).length :=
              ((firstsFrom_sublist seen rest).filter keeps).length_le
            rw [List.filter_cons_of_pos hKeeps]
            constructor
            · intro hSame
              rw [hSame, List.length_cons] at hShorter
              omega
            · rintro ⟨hFalse, _⟩
              cases hFalse
      · rw [if_neg hSeen]
        simp only [hSeen, false_imp_iff, true_and, ← ih (key first :: seen)]
        cases hKeeps : keeps first <;> simp [hKeeps]

/-- Among the items that are kept nothing is lost without the repeats exactly if no repeat is kept. -/
theorem filter_firsts_eq_iff {keeps : Item → Bool} (items : List Item) :
    (firsts key items).filter keeps = items.filter keeps ↔ ∀ item, IsRepeat key items item → keeps item = false := by
  rw [firsts, filter_firstsFrom_eq_iff]
  simp only [isRepeatFrom_nil]

/-- Two lists with parts of two others are these others only if each is. -/
theorem append_eq_append_iff_of_sublist {first second wholeFirst wholeSecond : List Item}
    (hFirst : first.Sublist wholeFirst) (hSecond : second.Sublist wholeSecond) :
    first ++ second = wholeFirst ++ wholeSecond ↔ first = wholeFirst ∧ second = wholeSecond := by
  constructor
  · intro hSame
    have hLength := congrArg List.length hSame
    have hLeft := hFirst.length_le
    have hRight := hSecond.length_le
    rw [List.length_append, List.length_append] at hLength
    exact ⟨hFirst.eq_of_length (by omega), hSecond.eq_of_length (by omega)⟩
  · rintro ⟨rfl, rfl⟩
    rfl

theorem flatMap_sublist_flatMap {Result : Type} {items : List Item} {part whole : Item → List Result}
    (hEach : ∀ item ∈ items, (part item).Sublist (whole item)) :
    (items.flatMap part).Sublist (items.flatMap whole) := by
  induction items with
  | nil => exact List.Sublist.refl _
  | cons item rest ih =>
      rw [List.forall_mem_cons] at hEach
      exact hEach.1.append (ih hEach.2)

theorem flatMap_eq_flatMap_iff_of_sublist {Result : Type} {items : List Item} {part whole : Item → List Result}
    (hEach : ∀ item ∈ items, (part item).Sublist (whole item)) :
    items.flatMap part = items.flatMap whole ↔ ∀ item ∈ items, part item = whole item := by
  induction items with
  | nil => simp
  | cons item rest ih =>
      rw [List.forall_mem_cons] at hEach
      rw [List.flatMap_cons, List.flatMap_cons,
        append_eq_append_iff_of_sublist hEach.1 (flatMap_sublist_flatMap hEach.2), ih hEach.2, List.forall_mem_cons]

end Lists

namespace Element

variable {P : Type}

mutual

/-- The declaration with the first declaration of each key and of each name alone, inside its sub-elements too. -/
def firstDeclarations : Element P → Element P
  | ⟨name, required, attributes, elements⟩ =>
    ⟨name, required, firsts Attribute.key attributes, firsts Element.name (firstDeclarationsAmong elements)⟩

def firstDeclarationsAmong : List (Element P) → List (Element P)
  | [] => []
  | first :: rest => first.firstDeclarations :: firstDeclarationsAmong rest

end

theorem firstDeclarationsAmong_eq (elements : List (Element P)) :
    firstDeclarationsAmong elements = elements.map firstDeclarations := by
  induction elements with
  | nil => rfl
  | cons first rest ih => rw [firstDeclarationsAmong, ih, List.map_cons]

@[simp] theorem name_firstDeclarations (declaration : Element P) :
    declaration.firstDeclarations.name = declaration.name := by
  obtain ⟨_, _, _, _⟩ := declaration
  rfl

@[simp] theorem required_firstDeclarations (declaration : Element P) :
    declaration.firstDeclarations.required = declaration.required := by
  obtain ⟨_, _, _, _⟩ := declaration
  rfl

@[simp] theorem attributes_firstDeclarations (declaration : Element P) :
    declaration.firstDeclarations.attributes = firsts Attribute.key declaration.attributes := by
  obtain ⟨_, _, _, _⟩ := declaration
  rfl

@[simp] theorem elements_firstDeclarations (declaration : Element P) :
    declaration.firstDeclarations.elements =
      (firsts Element.name declaration.elements).map firstDeclarations := by
  obtain ⟨_, _, _, elements⟩ := declaration
  rw [firstDeclarations, firstDeclarationsAmong_eq]
  exact firstsFrom_map name_firstDeclarations [] elements

/-- The element misses an attribute or a sub-element that a repeated declaration requires. -/
inductive MissesRepeat (document : Document) (declaration : Element P) (element : Document.Element) : Prop
  | attr {declared : Attribute P} (hRepeat : IsRepeat Attribute.key declaration.attributes declared)
      (hRequired : declared.required = true) (hMissing : ∀ attr ∈ element.attributes, attr.key ≠ declared.key)
  | subElement {declared : Element P} (hRepeat : IsRepeat Element.name declaration.elements declared)
      (hRequired : declared.required = true)
      (hMissing : ∀ sub ∈ document.subElements element, sub.name ≠ some declared.name)

section Own

variable (document : Document) (declaration : Element P) (element : Document.Element)

theorem attributeIssues_firstDeclarations :
    declaration.firstDeclarations.attributeIssues element = ((firsts Attribute.key declaration.attributes).filter
      fun declared => declared.required ∧ ∀ attr ∈ element.attributes, attr.key ≠ declared.key).map
        fun declared => ⟨.missingAttribute declared.key, .element element⟩ := by
  rw [attributeIssues_eq, attributes_firstDeclarations]

theorem subElementIssues_firstDeclarations :
    declaration.firstDeclarations.subElementIssues document element =
      ((firsts Element.name declaration.elements).filter fun declared =>
        declared.required ∧ ∀ sub ∈ document.subElements element, sub.name ≠ some declared.name).map
          fun declared => ⟨.missingSubElement declared.name, .element element⟩ := by
  rw [subElementIssues_eq, elements_firstDeclarations, List.filter_map, List.map_map]
  simp only [Function.comp_def, name_firstDeclarations, required_firstDeclarations]

theorem attributeIssues_firstDeclarations_sublist :
    (declaration.firstDeclarations.attributeIssues element).Sublist (declaration.attributeIssues element) := by
  rw [attributeIssues_firstDeclarations, attributeIssues_eq]
  exact ((firstsFrom_sublist [] _).filter _).map _

theorem subElementIssues_firstDeclarations_sublist :
    (declaration.firstDeclarations.subElementIssues document element).Sublist
      (declaration.subElementIssues document element) := by
  rw [subElementIssues_firstDeclarations, subElementIssues_eq]
  exact ((firstsFrom_sublist [] _).filter _).map _

/-- Issues that are made for the items that are kept stay the same exactly if the items do. -/
theorem map_filter_firsts_eq_iff {Item : Type} {key : Item → String} {keeps : Item → Bool} {issue : Item → Issue P}
    (items : List Item) :
    ((firsts key items).filter keeps).map issue = (items.filter keeps).map issue ↔
      ∀ item, IsRepeat key items item → keeps item = false := by
  rw [← filter_firsts_eq_iff]
  constructor
  · intro hSame
    have hLength := congrArg List.length hSame
    rw [List.length_map, List.length_map] at hLength
    exact ((firstsFrom_sublist [] items).filter keeps).eq_of_length hLength
  · intro hSame
    rw [hSame]

variable [PatternLanguage P]

/-- Values are checked under the first declaration in any case. -/
theorem valueIssues_firstDeclarations :
    declaration.firstDeclarations.valueIssues element = declaration.valueIssues element := by
  have hFound : ∀ key, declaration.firstDeclarations.attribute? key = declaration.attribute? key := by
    intro key
    rw [attribute?, attribute?, attributes_firstDeclarations]
    exact find?_firsts (fun name => decide (name = key)) declaration.attributes
  simp only [valueIssues, hFound]

theorem ownIssues_firstDeclarations_sublist :
    (declaration.firstDeclarations.ownIssues document element).Sublist (declaration.ownIssues document element) := by
  rw [ownIssues, ownIssues, valueIssues_firstDeclarations]
  exact ((declaration.attributeIssues_firstDeclarations_sublist element).append
    (declaration.subElementIssues_firstDeclarations_sublist document element)).append (List.Sublist.refl _)

/-- An element is reported for the same with and without the repeats, unless a repeat requires what it misses. -/
theorem ownIssues_firstDeclarations_eq_iff :
    declaration.firstDeclarations.ownIssues document element = declaration.ownIssues document element ↔
      ¬ declaration.MissesRepeat document element := by
  have hAttributes := declaration.attributeIssues_firstDeclarations_sublist element
  have hSubElements := declaration.subElementIssues_firstDeclarations_sublist document element
  rw [ownIssues, ownIssues, valueIssues_firstDeclarations,
    append_eq_append_iff_of_sublist (hAttributes.append hSubElements) (List.Sublist.refl _),
    append_eq_append_iff_of_sublist hAttributes hSubElements, attributeIssues_firstDeclarations, attributeIssues_eq,
    subElementIssues_firstDeclarations, subElementIssues_eq, map_filter_firsts_eq_iff, map_filter_firsts_eq_iff]
  simp only [decide_eq_false_iff_not, and_true]
  constructor
  · rintro ⟨hAttribute, hSubElement⟩ hMisses
    cases hMisses with
    | attr hRepeat hRequired hMissing => exact hAttribute _ hRepeat ⟨hRequired, hMissing⟩
    | subElement hRepeat hRequired hMissing => exact hSubElement _ hRepeat ⟨hRequired, hMissing⟩
  · intro hNone
    exact ⟨fun _ hRepeat hKept => hNone (.attr hRepeat hKept.1 hKept.2),
      fun _ hRepeat hKept => hNone (.subElement hRepeat hKept.1 hKept.2)⟩

/-- Sub-elements are checked under the first declaration of their name in any case. -/
theorem issuesAmong_firstDeclarations :
    issuesAmong document declaration.firstDeclarations.elements element =
      match declaration.elements.find? fun candidate => element.name = some candidate.name with
      | some inner => inner.firstDeclarations.issues document element
      | none => [] := by
  rw [issuesAmong_eq, elements_firstDeclarations, List.find?_map]
  simp only [Function.comp_def, name_firstDeclarations]
  rw [find?_firsts (fun name => decide (element.name = some name)) declaration.elements]
  cases declaration.elements.find? fun candidate => element.name = some candidate.name <;> rfl

end Own

variable [PatternLanguage P] {schema : Element P} {document : Document}

/-- Without the repeats nothing is reported that is not reported with them. -/
theorem issues_firstDeclarations_sublist (declaration : Element P) (element : Document.Element) :
    (declaration.firstDeclarations.issues document element).Sublist (declaration.issues document element) := by
  induction hHeight : declaration.height using Nat.strong_induction_on generalizing declaration element with
  | h height ih =>
      rw [issues_eq, issues_eq]
      refine (declaration.ownIssues_firstDeclarations_sublist document element).append
        (flatMap_sublist_flatMap fun sub _ => ?_)
      rw [issuesAmong_firstDeclarations, issuesAmong_eq]
      cases hFind : declaration.elements.find? fun candidate => sub.name = some candidate.name with
      | none => exact List.Sublist.refl _
      | some inner =>
          have hLower := height_lt_of_mem (List.mem_of_find?_eq_some hFind)
          exact ih inner.height (hHeight ▸ hLower) inner sub rfl

/-- The issues of an element are the same with and without the repeats exactly if its own are, and those of each of
its sub-elements under the first declaration of its name. -/
theorem issues_firstDeclarations_eq_iff (declaration : Element P) (element : Document.Element) :
    declaration.firstDeclarations.issues document element = declaration.issues document element ↔
      ¬ declaration.MissesRepeat document element ∧ ∀ sub ∈ document.subElements element, ∀ inner,
        IsFirst declaration.elements (fun candidate => sub.name = some candidate.name) inner →
          inner.firstDeclarations.issues document sub = inner.issues document sub := by
  have hEach : ∀ sub, issuesAmong document declaration.firstDeclarations.elements sub =
      issuesAmong document declaration.elements sub ↔ ∀ inner,
        IsFirst declaration.elements (fun candidate => sub.name = some candidate.name) inner →
          inner.firstDeclarations.issues document sub = inner.issues document sub := by
    intro sub
    rw [issuesAmong_firstDeclarations, issuesAmong_eq]
    simp only [← find?_eq_some_iff_isFirst]
    cases declaration.elements.find? fun candidate => sub.name = some candidate.name <;> simp
  have hSublist : ∀ sub ∈ document.subElements element,
      (issuesAmong document declaration.firstDeclarations.elements sub).Sublist
        (issuesAmong document declaration.elements sub) := by
    intro sub _
    rw [issuesAmong_firstDeclarations, issuesAmong_eq]
    cases declaration.elements.find? fun candidate => sub.name = some candidate.name with
    | none => exact List.Sublist.refl _
    | some inner => exact issues_firstDeclarations_sublist inner sub
  rw [issues_eq, issues_eq, append_eq_append_iff_of_sublist
    (declaration.ownIssues_firstDeclarations_sublist document element) (flatMap_sublist_flatMap hSublist),
    ownIssues_firstDeclarations_eq_iff, flatMap_eq_flatMap_iff_of_sublist hSublist]
  simp only [hEach]

/-- The check gives the same with and without the repeats exactly if no element that it comes to misses anything that
a repeat requires. -/
theorem documentIssues_firstDeclarations_eq_iff (schema : Element P) (document : Document) :
    schema.firstDeclarations.documentIssues document = schema.documentIssues document ↔
      ∀ steps element declaration, Governs schema document steps element declaration →
        ¬ declaration.MissesRepeat document element := by
  constructor
  · intro hSame steps element declaration hGoverns
    have hIssues : declaration.firstDeclarations.issues document element = declaration.issues document element := by
      induction hGoverns with
      | root hRoot hName => simpa [documentIssues, hRoot, hName] using hSame
      | sub _ hSub hFirst ih => exact ((issues_firstDeclarations_eq_iff _ _).mp ih).2 _ hSub _ hFirst
    exact ((issues_firstDeclarations_eq_iff _ _).mp hIssues).1
  · intro hNone
    have hIssues : ∀ steps element declaration, Governs schema document steps element declaration →
        declaration.firstDeclarations.issues document element = declaration.issues document element := by
      intro steps element declaration hGoverns
      induction hHeight : declaration.height using Nat.strong_induction_on
        generalizing steps element declaration with
      | h height ih =>
          refine (issues_firstDeclarations_eq_iff _ _).mpr ⟨hNone steps element declaration hGoverns, ?_⟩
          intro sub hSub inner hFirst
          have hLower := height_lt_of_mem hFirst.mem
          exact ih inner.height (hHeight ▸ hLower) _ sub inner (.sub hGoverns hSub hFirst) rfl
    unfold documentIssues
    rw [name_firstDeclarations]
    cases hRoot : document.rootElement? with
    | none => rfl
    | some root =>
        by_cases hName : root.name = some schema.name
        · simp only [hName, if_true]
          exact hIssues 0 root schema (.root hRoot hName)
        · simp only [hName, if_false]

variable [DecidableEq P]

section Counts

/-- The issues that are about an element itself are all in its block. -/
theorem count_documentIssues (schema : Element P) (h : document.IsTree) {element : Document.Element}
    (hElement : element ∈ document.elements) (finding : Finding P) :
    (schema.documentIssues document).count ⟨finding, .element element⟩ =
      (schema.blockOf document element).count ⟨finding, .element element⟩ := by
  obtain ⟨before, after, hIssues, hOthers⟩ := exists_split_at_block schema h hElement
  have hNone : ∀ others : List (Issue P), (∀ issue ∈ others, issue.subject.ownerIn? document ≠ some element) →
      others.count ⟨finding, .element element⟩ = 0 := by
    intro others hApart
    exact List.count_eq_zero.mpr fun hMem => hApart _ hMem rfl
  rw [List.forall_mem_append] at hOthers
  rw [hIssues, List.count_append, List.count_append, hNone before hOthers.1, hNone after hOthers.2, Nat.zero_add,
    Nat.add_zero]

/-- What is missing is reported once for every declaration that requires it. -/
theorem count_missing {Item Report : Type} [DecidableEq Report] (items : List Item) {key : Item → String}
    {required : Item → Bool} (missing : String → Prop) [DecidablePred missing] {report : String → Report}
    (hReport : report.Injective) (name : String) :
    ((items.filter fun item => required item ∧ missing (key item)).map fun item => report (key item)).count
        (report name) =
      if missing name then items.countP fun item => required item ∧ key item = name else 0 := by
  rw [List.count_eq_countP, List.countP_map, List.countP_filter]
  split
  · rename_i hMissing
    refine List.countP_congr fun item _ => ?_
    simp only [Function.comp_apply, Bool.and_eq_true, beq_iff_eq, hReport.eq_iff, decide_eq_true_eq]
    constructor
    · rintro ⟨hName, hRequired, _⟩
      exact ⟨hRequired, hName⟩
    · rintro ⟨hRequired, hName⟩
      exact ⟨hName, hRequired, hName ▸ hMissing⟩
  · rename_i hThere
    rw [List.countP_eq_zero]
    intro item _ hKept
    simp only [Function.comp_apply, Bool.and_eq_true, beq_iff_eq, hReport.eq_iff, decide_eq_true_eq] at hKept
    exact hThere (hKept.1 ▸ hKept.2.2)

variable (document) (declaration : Element P) (element : Document.Element)

/-- No rejected value is an issue about the element itself. -/
theorem count_rejections (finding : Finding P) :
    (element.attributes.filterMap declaration.rejection?).count ⟨finding, .element element⟩ = 0 := by
  rw [List.count_eq_zero, List.mem_filterMap]
  rintro ⟨attr, _, hIssue⟩
  cases subject_of_rejection? hIssue

theorem count_missingAttribute (key : String) :
    (declaration.block document element).count ⟨.missingAttribute key, .element element⟩ =
      if ∀ attr ∈ element.attributes, attr.key ≠ key then
        declaration.attributes.countP fun declared => declared.required ∧ declared.key = key
      else 0 := by
  have hIssue : Function.Injective fun key => (⟨.missingAttribute key, .element element⟩ : Issue P) := by
    intro first second hSame
    simpa using hSame
  have hSubElements : ((declaration.elements.filter fun declared =>
      declared.required ∧ ∀ sub ∈ document.subElements element, sub.name ≠ some declared.name).map
        fun declared => (⟨.missingSubElement declared.name, .element element⟩ : Issue P)).count
          ⟨.missingAttribute key, .element element⟩ = 0 := by
    simp [List.count_eq_zero]
  rw [block, List.count_append, List.count_append, hSubElements, count_rejections, Nat.add_zero]
  exact count_missing declaration.attributes (fun key => ∀ attr ∈ element.attributes, attr.key ≠ key) hIssue key

theorem count_missingSubElement (name : String) :
    (declaration.block document element).count ⟨.missingSubElement name, .element element⟩ =
      if ∀ sub ∈ document.subElements element, sub.name ≠ some name then
        declaration.elements.countP fun declared => declared.required ∧ declared.name = name
      else 0 := by
  have hIssue : Function.Injective fun name => (⟨.missingSubElement name, .element element⟩ : Issue P) := by
    intro first second hSame
    simpa using hSame
  have hAttributes : ((declaration.attributes.filter fun declared =>
      declared.required ∧ ∀ attr ∈ element.attributes, attr.key ≠ declared.key).map
        fun declared => (⟨.missingAttribute declared.key, .element element⟩ : Issue P)).count
          ⟨.missingSubElement name, .element element⟩ = 0 := by
    simp [List.count_eq_zero]
  rw [block, List.count_append, List.count_append, hAttributes, count_rejections, Nat.zero_add, Nat.add_zero]
  exact count_missing declaration.elements (fun name => ∀ sub ∈ document.subElements element, sub.name ≠ some name)
    hIssue name

end Counts

theorem ite_zero_le_one_iff {missing : Prop} [Decidable missing] {count : Nat} :
    (if missing then count else 0) ≤ 1 ↔ (missing → count ≤ 1) := by
  by_cases hMissing : missing <;> simp [hMissing]

/-- An element is reported no more than once for the same missing attribute or sub-element, exactly if no two
declarations require it. -/
structure ReportsPerRequirement (schema : Element P) (document : Document) : Prop where
  attributes : ∀ element ∈ document.elements, ∀ key,
    (schema.documentIssues document).count ⟨.missingAttribute key, .element element⟩ ≤ 1 ↔
      ∀ declaration, schema.declaration? document element = some declaration →
        (∀ attr ∈ element.attributes, attr.key ≠ key) →
          (declaration.attributes.countP fun declared => declared.required ∧ declared.key = key) ≤ 1
  subElements : ∀ element ∈ document.elements, ∀ name,
    (schema.documentIssues document).count ⟨.missingSubElement name, .element element⟩ ≤ 1 ↔
      ∀ declaration, schema.declaration? document element = some declaration →
        (∀ sub ∈ document.subElements element, sub.name ≠ some name) →
          (declaration.elements.countP fun declared => declared.required ∧ declared.name = name) ≤ 1

theorem reportsPerRequirement (schema : Element P) {document : Document} (h : document.IsTree) :
    schema.ReportsPerRequirement document where
  attributes := by
    intro element hElement key
    rw [schema.count_documentIssues h hElement, blockOf]
    cases schema.declaration? document element with
    | none => simp
    | some declaration => simp [count_missingAttribute, ite_zero_le_one_iff]
  subElements := by
    intro element hElement name
    rw [schema.count_documentIssues h hElement, blockOf]
    cases schema.declaration? document element with
    | none => simp
    | some declaration => simp [count_missingSubElement, ite_zero_le_one_iff]

/-- The check of a document takes the first declaration of a name for all of them, exactly as far as no element that
it comes to misses anything that a repeated declaration requires. In a document that is a tree, an element is reported
more than once for the same missing attribute or sub-element only if more than one declaration requires it. -/
theorem documentIssues_without_repeats (schema : Element P) :
    (∀ document, schema.firstDeclarations.documentIssues document = schema.documentIssues document ↔
      ∀ steps element declaration, Governs schema document steps element declaration →
        ¬ declaration.MissesRepeat document element) ∧
    ∀ document : Document, document.IsTree → schema.ReportsPerRequirement document :=
  ⟨schema.documentIssues_firstDeclarations_eq_iff, fun _ hTree => schema.reportsPerRequirement hTree⟩

/-- A key that is declared twice: where only the second declaration requires it, the first does not win, and where
both do, it is reported twice. -/
theorem documentIssues_repeated_key :
    let document : Document := ⟨some 0, [⟨0, some "a", [], [], [], ⟨0, 3⟩, none, ⟨none, none, none⟩⟩], ⟨0, 3⟩⟩
    let second : Element := ⟨"a", false, [⟨"x", false, none⟩, ⟨"x", true, none⟩], []⟩
    let both : Element := ⟨"a", false, [⟨"x", true, none⟩, ⟨"x", true, none⟩], []⟩
    second.firstDeclarations.documentIssues document ≠ second.documentIssues document ∧
      ∃ element ∈ document.elements,
        (both.documentIssues document).count ⟨.missingAttribute "x", .element element⟩ = 2 := by
  decide +kernel

end Element

end ContentAssist.Schema
