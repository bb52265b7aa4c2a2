import ContentAssist.Schema.Validation
import Mathlib.Order.Nat

/-! What the check of a document reports. The walk through the document is set against a description without a
walk: a chain of sub-elements leads from the root to an element, each of them under the first declaration of its
name, and at its end a rule is broken. The document may be any, with references that lead nowhere or in circles;
chains are short because every step goes one level down in the schema. The patterns may be any too: all that is asked
of one is whether it occurs in a value. -/
namespace ContentAssist.Schema

/-- The first of the items with the property. -/
def IsFirst {Item : Type} (items : List Item) (property : Item → Prop) (item : Item) : Prop :=
  ∃ before after, items = before ++ item :: after ∧ property item ∧ ∀ other ∈ before, ¬ property other

theorem find?_eq_some_iff_isFirst {Item : Type} {items : List Item} {property : Item → Prop}
    [DecidablePred property] {item : Item} :
    items.find? (fun candidate => decide (property candidate)) = some item ↔ IsFirst items property item := by
  rw [List.find?_eq_some_iff_append]
  simp only [decide_eq_true_eq, Bool.not_eq_true', decide_eq_false_iff_not]
  constructor
  · rintro ⟨hItem, before, after, hItems, hBefore⟩
    exact ⟨before, after, hItems, hItem, hBefore⟩
  · rintro ⟨before, after, hItems, hItem, hBefore⟩
    exact ⟨hItem, before, after, hItems, hBefore⟩

theorem IsFirst.mem {Item : Type} {items : List Item} {property : Item → Prop} {item : Item}
    (h : IsFirst items property item) : item ∈ items := by
  obtain ⟨before, after, rfl, _⟩ := h
  simp

variable {P : Type}

/-- A chain of sub-elements from the root to an element, with the declaration that each of them falls under. The
number is how many steps below the root the element is. -/
inductive Governs (schema : Element P) (document : Document) : Nat → Document.Element → Element P → Prop
  | root {found : Document.Element} (hRoot : document.rootElement? = some found)
      (hName : found.name = some schema.name) : Governs schema document 0 found schema
  | sub {steps : Nat} {around found : Document.Element} {declaration inner : Element P}
      (outer : Governs schema document steps around declaration) (hSub : found ∈ document.subElements around)
      (hFirst : IsFirst declaration.elements (fun candidate => found.name = some candidate.name) inner) :
      Governs schema document (steps + 1) found inner

section Rules

variable [PatternLanguage P]

/-- A value that does not meet a constraint, and what is said about it. -/
inductive Refuses : Constraint P → String → String → Prop
  | exact {value actual : String} (hValue : actual ≠ value) :
      Refuses (.exact value) actual ("Expecting Value <" ++ value ++ "> but found <" ++ actual ++ ">")
  | matching {pattern : P} {actual : String} (hPattern : PatternLanguage.occursIn pattern actual = false) :
      Refuses (.matching pattern) actual
        ("Expecting Value matching </" ++ PatternLanguage.source pattern ++ "/> but found <" ++ actual ++ ">")
  | oneOf {values : List String} {actual : String} (hValues : actual ∉ values) :
      Refuses (.oneOf values) actual
        ("Expecting one of <" ++ ",".intercalate values ++ "> but found <" ++ actual ++ ">")

/-- A rule that an element breaks under its declaration: what is said, and about which node. -/
inductive Violates (document : Document) (declaration : Element P) (element : Document.Element) :
    String → Subject → Prop
  | missingAttribute {declared : Attribute P} (hDeclared : declared ∈ declaration.attributes)
      (hRequired : declared.required = true) (hMissing : ∀ attr ∈ element.attributes, attr.key ≠ declared.key) :
      Violates document declaration element ("Missing Required Attribute: <" ++ declared.key ++ ">")
        (.element element)
  | missingSubElement {declared : Element P} (hDeclared : declared ∈ declaration.elements)
      (hRequired : declared.required = true)
      (hMissing : ∀ sub ∈ document.subElements element, sub.name ≠ some declared.name) :
      Violates document declaration element ("Missing Required Sub-Element: <" ++ declared.name ++ ">")
        (.element element)
  | refusedValue {attr : Document.Attribute} {declared : Attribute P} {constraint : Constraint P}
      {actual message : String} (hAttr : attr ∈ element.attributes)
      (hFirst : IsFirst declaration.attributes (fun candidate => candidate.key = attr.key) declared)
      (hConstraint : declared.value = some constraint) (hActual : attr.value = some actual)
      (hRefuses : Refuses constraint actual message) :
      Violates document declaration element message (.attr attr)

/-- The issues say this about the node. -/
def Reports (issues : List (Issue P)) (message : String) (subject : Subject) : Prop :=
  ∃ issue ∈ issues, issue.message = message ∧ issue.subject = subject

theorem reports_append {first second : List (Issue P)} {message : String} {subject : Subject} :
    Reports (first ++ second) message subject ↔ Reports first message subject ∨ Reports second message subject := by
  simp only [Reports, List.mem_append, or_and_right, exists_or]

theorem reports_flatMap {Item : Type} {items : List Item} {issues : Item → List (Issue P)} {message : String}
    {subject : Subject} :
    Reports (items.flatMap issues) message subject ↔ ∃ item ∈ items, Reports (issues item) message subject := by
  constructor
  · rintro ⟨issue, hIssue, hSays⟩
    obtain ⟨item, hItem, hMem⟩ := List.mem_flatMap.mp hIssue
    exact ⟨item, hItem, issue, hMem, hSays⟩
  · rintro ⟨item, hItem, issue, hMem, hSays⟩
    exact ⟨issue, List.mem_flatMap.mpr ⟨item, hItem, hMem⟩, hSays⟩

/-- Issues are made for the items that are kept. -/
theorem reports_map_filter {Item : Type} {items : List Item} {keeps : Item → Bool} {issue : Item → Issue P}
    {message : String} {subject : Subject} :
    Reports ((items.filter keeps).map issue) message subject ↔
      ∃ item ∈ items, keeps item = true ∧ (issue item).message = message ∧ (issue item).subject = subject := by
  constructor
  · rintro ⟨_, hIssue, hMessage, hSubject⟩
    obtain ⟨item, hKept, rfl⟩ := List.mem_map.mp hIssue
    obtain ⟨hItem, hKeeps⟩ := List.mem_filter.mp hKept
    exact ⟨item, hItem, hKeeps, hMessage, hSubject⟩
  · rintro ⟨item, hItem, hKeeps, hMessage, hSubject⟩
    exact ⟨_, List.mem_map_of_mem (List.mem_filter.mpr ⟨hItem, hKeeps⟩), hMessage, hSubject⟩

theorem message_matching (pattern : P) (actual : String) :
    (Finding.rejectedValue (.matching pattern) actual).message =
      "Expecting Value matching </" ++ PatternLanguage.source pattern ++ "/> but found <" ++ actual ++ ">" := by
  have hOpen : "Expecting Value matching </" = "Expecting Value matching <" ++ "/" := by decide
  have hClose : "/> but found <" = "/" ++ "> but found <" := by decide
  unfold Finding.message Constraint.text
  rw [hOpen, hClose]
  simp only [String.append_assoc]

/-- A value is refused exactly if the constraint does not accept it, with the message of the finding. -/
theorem refuses_iff (constraint : Constraint P) (actual message : String) :
    Refuses constraint actual message ↔
      constraint.accepts actual = false ∧ (Finding.rejectedValue constraint actual).message = message := by
  constructor
  · intro hRefuses
    cases hRefuses with
    | exact hValue => exact ⟨decide_eq_false hValue, rfl⟩
    | matching hPattern => exact ⟨hPattern, message_matching ..⟩
    | oneOf hValues =>
        refine ⟨?_, rfl⟩
        rw [Constraint.accepts, List.contains_eq_mem, decide_eq_false hValues]
  · rintro ⟨hAccepts, rfl⟩
    cases constraint with
    | exact value => exact .exact (of_decide_eq_false hAccepts)
    | matching pattern =>
        rw [message_matching]
        exact .matching hAccepts
    | oneOf values =>
        rw [Constraint.accepts, List.contains_eq_mem] at hAccepts
        exact .oneOf (of_decide_eq_false hAccepts)

end Rules

namespace Element

mutual

/-- How many levels of declarations there are. -/
def height : Element P → Nat
  | ⟨_, _, _, elements⟩ => heightAmong elements + 1

def heightAmong : List (Element P) → Nat
  | [] => 0
  | first :: rest => max first.height (heightAmong rest)

end

theorem height_le_heightAmong {elements : List (Element P)} {inner : Element P} (hInner : inner ∈ elements) :
    inner.height ≤ heightAmong elements := by
  induction elements with
  | nil => cases hInner
  | cons first rest ih =>
      rw [heightAmong]
      rcases List.mem_cons.mp hInner with rfl | hLater
      · exact le_max_left _ _
      · exact (ih hLater).trans (le_max_right _ _)

theorem height_lt_of_mem {declaration inner : Element P} (hInner : inner ∈ declaration.elements) :
    inner.height < declaration.height := by
  obtain ⟨_, _, _, elements⟩ := declaration
  rw [height]
  exact Nat.lt_succ_of_le (height_le_heightAmong hInner)

theorem height_pos (declaration : Element P) : 0 < declaration.height := by
  obtain ⟨_, _, _, _⟩ := declaration
  rw [height]
  exact Nat.succ_pos _

theorem attributeIssues_eq (declaration : Element P) (element : Document.Element) :
    declaration.attributeIssues element = (declaration.attributes.filter fun declared =>
      declared.required ∧ ∀ attr ∈ element.attributes, attr.key ≠ declared.key).map
        fun declared => ⟨.missingAttribute declared.key, .element element⟩ := by
  refine congrArg (List.map _) (List.filter_congr fun declared _ => ?_)
  rw [Bool.eq_iff_iff]
  simp [Document.Element.attribute?]

theorem subElementIssues_eq (document : Document) (declaration : Element P) (element : Document.Element) :
    declaration.subElementIssues document element = (declaration.elements.filter fun declared =>
      declared.required ∧ ∀ sub ∈ document.subElements element, sub.name ≠ some declared.name).map
        fun declared => ⟨.missingSubElement declared.name, .element element⟩ := by
  refine congrArg (List.map _) (List.filter_congr fun declared _ => ?_)
  rw [Bool.eq_iff_iff]
  simp

variable [PatternLanguage P]

theorem issuesAmong_eq (document : Document) (elements : List (Element P)) (element : Document.Element) :
    issuesAmong document elements element =
      match elements.find? fun candidate => element.name = some candidate.name with
      | some declaration => declaration.issues document element
      | none => [] := by
  induction elements with
  | nil => rfl
  | cons first rest ih =>
      rw [issuesAmong, List.find?_cons]
      by_cases hName : element.name = some first.name
      · simp [hName]
      · simp [hName, ih]

/-- The issues of an element are its own and those of its sub-elements, each under the first declaration of its
name. -/
theorem issues_eq (document : Document) (declaration : Element P) (element : Document.Element) :
    declaration.issues document element = declaration.ownIssues document element
      ++ (document.subElements element).flatMap fun sub => issuesAmong document declaration.elements sub := by
  obtain ⟨_, _, _, _⟩ := declaration
  rw [issues]

/-- Each required attribute that is on no attribute of the element is reported on the element. -/
theorem reports_attributeIssues_iff (declaration : Element P) (element : Document.Element) (message : String)
    (subject : Subject) :
    Reports (declaration.attributeIssues element) message subject ↔
      ∃ declared ∈ declaration.attributes, declared.required = true ∧
        (∀ attr ∈ element.attributes, attr.key ≠ declared.key) ∧
        "Missing Required Attribute: <" ++ declared.key ++ ">" = message ∧ .element element = subject := by
  simp only [attributeIssues_eq, reports_map_filter, decide_eq_true_eq, and_assoc]
  rfl

/-- Each required sub-element whose name no sub-element has is reported on the element. -/
theorem reports_subElementIssues_iff (document : Document) (declaration : Element P) (element : Document.Element)
    (message : String) (subject : Subject) :
    Reports (declaration.subElementIssues document element) message subject ↔
      ∃ declared ∈ declaration.elements, declared.required = true ∧
        (∀ sub ∈ document.subElements element, sub.name ≠ some declared.name) ∧
        "Missing Required Sub-Element: <" ++ declared.name ++ ">" = message ∧ .element element = subject := by
  simp only [subElementIssues_eq, reports_map_filter, decide_eq_true_eq, and_assoc]
  rfl

end Element

/-- A value is reported on its attribute exactly if the constraint refuses it. -/
theorem Attribute.reports_valueIssues_iff [PatternLanguage P] (declared : Attribute P) (attr : Document.Attribute)
    (message : String) (subject : Subject) :
    Reports (declared.valueIssues attr) message subject ↔
      ∃ constraint actual, declared.value = some constraint ∧ attr.value = some actual ∧
        Refuses constraint actual message ∧ .attr attr = subject := by
  unfold valueIssues
  cases declared.value with
  | none => simp [Reports]
  | some constraint =>
      cases attr.value with
      | none => simp [Reports]
      | some actual =>
          simp only [refuses_iff]
          by_cases hAccepts : constraint.accepts actual = true
          · simp [Reports, hAccepts]
          · simp [Reports, hAccepts, Issue.message]

namespace Element

variable [PatternLanguage P]

theorem reports_valueIssues_iff (declaration : Element P) (element : Document.Element) (message : String)
    (subject : Subject) :
    Reports (declaration.valueIssues element) message subject ↔
      ∃ attr ∈ element.attributes, ∃ declared,
        IsFirst declaration.attributes (fun candidate => candidate.key = attr.key) declared ∧
        ∃ constraint actual, declared.value = some constraint ∧ attr.value = some actual ∧
          Refuses constraint actual message ∧ .attr attr = subject := by
  simp only [valueIssues, reports_flatMap, ← find?_eq_some_iff_isFirst, ← Attribute.reports_valueIssues_iff]
  refine exists_congr fun attr => and_congr_right fun _ => ?_
  rw [attribute?]
  cases declaration.attributes.find? fun candidate => candidate.key = attr.key with
  | none => simp [Reports]
  | some declared => simp

/-- An element is reported for exactly the rules that it breaks. -/
theorem reports_ownIssues_iff (document : Document) (declaration : Element P) (element : Document.Element)
    (message : String) (subject : Subject) :
    Reports (declaration.ownIssues document element) message subject ↔
      Violates document declaration element message subject := by
  rw [ownIssues, reports_append, reports_append, reports_attributeIssues_iff, reports_subElementIssues_iff,
    reports_valueIssues_iff]
  constructor
  · rintro ((⟨_, hDeclared, hRequired, hMissing, rfl, rfl⟩ | ⟨_, hDeclared, hRequired, hMissing, rfl, rfl⟩)
      | ⟨_, hAttr, _, hFirst, _, _, hConstraint, hActual, hRefuses, rfl⟩)
    · exact .missingAttribute hDeclared hRequired hMissing
    · exact .missingSubElement hDeclared hRequired hMissing
    · exact .refusedValue hAttr hFirst hConstraint hActual hRefuses
  · intro hViolates
    cases hViolates with
    | missingAttribute hDeclared hRequired hMissing =>
        exact Or.inl (Or.inl ⟨_, hDeclared, hRequired, hMissing, rfl, rfl⟩)
    | missingSubElement hDeclared hRequired hMissing =>
        exact Or.inl (Or.inr ⟨_, hDeclared, hRequired, hMissing, rfl, rfl⟩)
    | refusedValue hAttr hFirst hConstraint hActual hRefuses =>
        exact Or.inr ⟨_, hAttr, _, hFirst, _, _, hConstraint, hActual, hRefuses, rfl⟩

end Element

namespace Governs

variable {schema declaration : Element P} {document : Document} {steps : Nat} {element : Document.Element}

/-- Every step down the document is a step down the schema. -/
theorem steps_add_height_le (h : Governs schema document steps element declaration) :
    steps + declaration.height ≤ schema.height := by
  induction h with
  | root hRoot hName => exact (Nat.zero_add _).le
  | sub outer hSub hFirst ih =>
      have hLower := Element.height_lt_of_mem hFirst.mem
      omega

/-- Elements have the names of their declarations. -/
theorem name_eq (h : Governs schema document steps element declaration) :
    element.name = some declaration.name := by
  cases h with
  | root hRoot hName => exact hName
  | sub outer hSub hFirst =>
      obtain ⟨_, _, _, hName, _⟩ := hFirst
      exact hName

variable [PatternLanguage P]

/-- The walk comes to every element at the end of a chain. -/
theorem issues_subset (h : Governs schema document steps element declaration) :
    declaration.issues document element ⊆ schema.documentIssues document := by
  induction h with
  | root hRoot hName =>
      simp only [Element.documentIssues, hRoot, hName, if_true]
      exact List.Subset.refl _
  | @sub steps around found declaration inner outer hSub hFirst ih =>
      refine List.Subset.trans ?_ ih
      intro issue hIssue
      rw [Element.issues_eq]
      refine List.mem_append_right _ (List.mem_flatMap.mpr ⟨found, hSub, ?_⟩)
      rw [Element.issuesAmong_eq, find?_eq_some_iff_isFirst.mpr hFirst]
      exact hIssue

/-- What is reported below the end of a chain is a violation at the end of a longer one. -/
theorem exists_violation (h : Governs schema document steps element declaration) {message : String}
    {subject : Subject} (hReports : Reports (declaration.issues document element) message subject) :
    ∃ steps element declaration, Governs schema document steps element declaration ∧
      Violates document declaration element message subject := by
  induction hHeight : declaration.height using Nat.strong_induction_on generalizing steps element declaration with
  | h height ih =>
      rw [Element.issues_eq, reports_append, Element.reports_ownIssues_iff, reports_flatMap] at hReports
      rcases hReports with hOwn | ⟨sub, hSub, hBelow⟩
      · exact ⟨steps, element, declaration, h, hOwn⟩
      · rw [Element.issuesAmong_eq] at hBelow
        split at hBelow
        · rename_i inner hFind
          have hFirst := find?_eq_some_iff_isFirst.mp hFind
          have hLower := Element.height_lt_of_mem hFirst.mem
          exact ih inner.height (hHeight ▸ hLower) (.sub h hSub hFirst) hBelow rfl
        · obtain ⟨_, hNone, _⟩ := hBelow
          cases hNone

end Governs

namespace Element

variable [PatternLanguage P]

theorem reports_documentIssues_iff (schema : Element P) (document : Document) (message : String)
    (subject : Subject) :
    Reports (schema.documentIssues document) message subject ↔
      ∃ steps element declaration, Governs schema document steps element declaration ∧
        Violates document declaration element message subject := by
  constructor
  · intro hReports
    unfold documentIssues at hReports
    split at hReports
    · rename_i root hRoot
      split at hReports
      · rename_i hName
        exact (Governs.root hRoot hName).exists_violation hReports
      · obtain ⟨_, hNone, _⟩ := hReports
        cases hNone
    · obtain ⟨_, hNone, _⟩ := hReports
      cases hNone
  · rintro ⟨steps, element, declaration, hGoverns, hViolates⟩
    obtain ⟨issue, hIssue, hSays⟩ := (reports_ownIssues_iff ..).mpr hViolates
    refine ⟨issue, hGoverns.issues_subset ?_, hSays⟩
    rw [issues_eq]
    exact List.mem_append_left _ hIssue

theorem documentIssues_eq_nil_iff (schema : Element P) (document : Document) :
    schema.documentIssues document = [] ↔
      ∀ steps element declaration message subject, Governs schema document steps element declaration →
        ¬ Violates document declaration element message subject := by
  constructor
  · intro hNil steps element declaration message subject hGoverns hViolates
    obtain ⟨_, hIssue, _⟩ :=
      (reports_documentIssues_iff ..).mpr ⟨steps, element, declaration, hGoverns, hViolates⟩
    rw [hNil] at hIssue
    cases hIssue
  · intro hNone
    rw [List.eq_nil_iff_forall_not_mem]
    intro issue hIssue
    obtain ⟨steps, element, declaration, hGoverns, hViolates⟩ :=
      (reports_documentIssues_iff ..).mp ⟨issue, hIssue, rfl, rfl⟩
    exact hNone steps element declaration _ _ hGoverns hViolates

theorem report_hasErrors_iff (schema : Element P) (document : Document) :
    (schema.report document).hasErrors = false ↔ schema.documentIssues document = [] := by
  cases hIssues : schema.documentIssues document <;> simp [report, hIssues, Issue.isError, Issue.severity]

theorem report_issueCount_iff (schema : Element P) (document : Document) :
    (schema.report document).issueCount = 0 ↔ schema.documentIssues document = [] :=
  List.length_eq_zero_iff

/-- The check of a document reports exactly the violations at the ends of chains of declared sub-elements, each with
its message and on its node. The chains are shorter than the schema is high, whatever the document refers to. A
report has no errors, and counts no issues, exactly if there is no violation. -/
theorem documentIssues_iff_violation (schema : Element P) (document : Document) :
    (∀ message subject, Reports (schema.documentIssues document) message subject ↔
      ∃ steps element declaration, Governs schema document steps element declaration ∧
        Violates document declaration element message subject) ∧
    (∀ steps element declaration, Governs schema document steps element declaration →
      steps < schema.height ∧ element.name = some declaration.name) ∧
    ((schema.report document).hasErrors = false ↔
      ∀ steps element declaration message subject, Governs schema document steps element declaration →
        ¬ Violates document declaration element message subject) ∧
    ((schema.report document).issueCount = 0 ↔
      ∀ steps element declaration message subject, Governs schema document steps element declaration →
        ¬ Violates document declaration element message subject) := by
  refine ⟨reports_documentIssues_iff schema document, ?_, ?_, ?_⟩
  · intro steps element declaration hGoverns
    have hHeight := hGoverns.steps_add_height_le
    have hPos := height_pos declaration
    exact ⟨by omega, hGoverns.name_eq⟩
  · rw [report_hasErrors_iff, documentIssues_eq_nil_iff]
  · rw [report_issueCount_iff, documentIssues_eq_nil_iff]

end Element

end ContentAssist.Schema
