import ContentAssist.Proofs.Completion.Innermost
import ContentAssist.Proofs.Markup.Adjacency
import ContentAssist.Proofs.Markup.Names

/-! What is completed in an opening tag, place by place. The places of a tag touch each other, and several rules may
look at one cursor; that the first of them with an answer is the right one comes down to the names of a tag being
whole, so that no cursor is on two of them. -/
namespace ContentAssist

/-- What is completed in the opening tag of an element. -/
structure Snapshot.CompletesTag (snapshot : Snapshot) (markup : Markup.Element) (element : Document.Element) :
    Prop where
  /-- Behind `<` a name is started. -/
  opening : ∃ opening, markup.openAngle = some opening ∧
    snapshot.complete (opening.span.endOffset + 1) = some ⟨.elementName, element, none, none, none⟩
  /-- In the name, and right behind it, the name is continued. -/
  name : ∀ name, markup.name = some name → ∀ count, 1 ≤ count → count ≤ name.image.length →
    snapshot.complete (name.span.startOffset + count) =
      some ⟨.elementName, element, none, none, some (String.ofList (name.image.toList.take count))⟩
  /-- On a key, from its first character to right behind its last, the key is continued. -/
  key : ∀ (index : Nat) (attr : Markup.Attribute), markup.attributes[index]? = some attr →
    ∃ key partner, attr.name = some key ∧ element.attributes[index]? = some partner ∧
      ∀ count ≤ key.image.length, snapshot.complete (key.span.startOffset + count) =
        some ⟨.attributeName, element, some partner, none,
          if count = 0 then none else some (String.ofList (key.image.toList.take count))⟩
  /-- Between the quotes the value is continued. -/
  value : ∀ (index : Nat) (attr : Markup.Attribute) (value : Markup.Token),
    markup.attributes[index]? = some attr → attr.string = some value →
    ∃ partner, element.attributes[index]? = some partner ∧
      ∀ count, 1 ≤ count → count ≤ value.span.endOffset - value.span.startOffset →
        snapshot.complete (value.span.startOffset + count) =
          some ⟨.attributeValue, element, some partner, none,
            if count = 1 then none else some (String.ofList ((value.image.toList.drop 1).take (count - 1)))⟩
  /-- Everywhere else before the end of the tag a new attribute is started, but not inside another one. -/
  between : ∀ (name close : Markup.Token) (offset : Nat), markup.name = some name →
    (markup.startClose = some close ∨ markup.slashClose = some close) →
    name.span.endOffset + 1 < offset → offset ≤ close.span.startOffset →
    (∀ attr ∈ markup.attributes,
      (∀ key, attr.name = some key →
        ¬ (key.span.startOffset ≤ offset ∧ offset ≤ key.span.startOffset + key.image.length)) ∧
      ∀ value, attr.string = some value → ¬ (value.span.startOffset < offset ∧ offset ≤ value.span.endOffset)) →
    snapshot.complete offset = if element.attributes.any fun attr => attr.span.contains offset then none
      else some ⟨.attributeName, element, none, none, none⟩

namespace Markup.Element.LaidOut

variable {source : List Char} {element : Element} {attr earlier : Attribute} {index number : Nat} {token before : Token}

theorem attributes_laid (h : element.LaidOut source) :
    ∃ start stop, Laid source start (element.attributes.flatMap Attribute.tokens) stop := by
  obtain ⟨_, hOpening, _⟩ := h.opening_laid.split
  obtain ⟨_, hBefore, _⟩ := hOpening.split
  obtain ⟨_, _, hAttributes⟩ := hBefore.split
  exact ⟨_, _, hAttributes⟩

/-- The tokens of an attribute come behind those of the attributes before it. -/
theorem attribute_lt (h : element.LaidOut source) (hEarlier : element.attributes[number]? = some earlier)
    (hAttr : element.attributes[index]? = some attr) (hLt : number < index) (hBefore : before ∈ earlier.tokens)
    (hToken : token ∈ attr.tokens) : before.span.endOffset < token.span.startOffset := by
  obtain ⟨start, stop, hLaid⟩ := h.attributes_laid
  rw [← List.take_append_drop index element.attributes, List.flatMap_append] at hLaid
  refine hLaid.endOffset_lt_startOffset (List.mem_flatMap.mpr ⟨earlier, ?_, hBefore⟩)
    (List.mem_flatMap.mpr ⟨attr, ?_, hToken⟩)
  · refine List.mem_of_getElem? (i := number) ?_
    rw [List.getElem?_take, if_pos hLt, hEarlier]
  · refine List.mem_of_getElem? (i := 0) ?_
    rw [List.getElem?_drop, Nat.add_zero, hAttr]

theorem name_lt_attribute (h : element.LaidOut source) {name : Token} (hName : element.name = some name)
    (hAttr : element.attributes[index]? = some attr) (hToken : token ∈ attr.tokens) :
    name.span.endOffset < token.span.startOffset := by
  obtain ⟨_, hOpening, _⟩ := h.opening_laid.split
  obtain ⟨_, hBefore, _⟩ := hOpening.split
  exact hBefore.endOffset_lt_startOffset (List.mem_append_right _ (by simp [hName]))
    (List.mem_flatMap.mpr ⟨attr, List.mem_of_getElem? hAttr, hToken⟩)

theorem opening_lt_name (h : element.LaidOut source) {name : Token} (hName : element.name = some name) :
    element.span.startOffset < name.span.startOffset := by
  obtain ⟨opening, hOpening, hWidth, hStart⟩ := h.startOffset
  obtain ⟨_, hOpeningLaid, _⟩ := h.opening_laid.split
  obtain ⟨_, hBefore, _⟩ := hOpeningLaid.split
  obtain ⟨_, hNames, _⟩ := hBefore.split
  have hFirst : opening ∈ element.openAngle.toList := by simp [hOpening]
  have hSecond : name ∈ element.name.toList := by simp [hName]
  have hOrder := hNames.endOffset_lt_startOffset hFirst hSecond
  omega

theorem occursIn_attribute (h : element.LaidOut source) (hAttr : element.attributes[index]? = some attr)
    (hToken : token ∈ attr.tokens) : token.OccursIn source :=
  (h.tokens.of_mem (mem_tokens_of_opening (mem_openingTokens_of_attribute hAttr hToken))).1

/-- The value of an attribute comes behind its key. -/
theorem key_lt_value (h : element.LaidOut source) (hAttr : element.attributes[index]? = some attr) {key value : Token}
    (hKey : attr.name = some key) (hString : attr.string = some value) :
    key.span.endOffset < value.span.startOffset := by
  obtain ⟨_, _, hAttributes⟩ := h.attributes_laid
  obtain ⟨_, _, hLaid⟩ := hAttributes.of_mem_flatMap (List.mem_of_getElem? hAttr)
  exact hLaid.endOffset_lt_startOffset (by simp [hKey]) (by simp [hString])

end Markup.Element.LaidOut

namespace Completion

open Markup (Token present present_eq_some_iff)

section Attributes

variable {source : List Char} {markup : Markup.Element} {element : Document.Element} {offset index : Nat}
  {attr : Markup.Attribute} {partner : Document.Attribute} {key : Token}

/-- No key stands directly behind `<`. -/
theorem opening_apart_key (h : markup.LaidOut source) (hNames : markup.NamesWhole source)
    (hAttr : markup.attributes[index]? = some attr) (hKey : attr.name = some key) :
    markup.span.startOffset + 1 < key.span.startOffset := by
  have hBehind := startOffset_lt_attribute h hAttr (Markup.Attribute.mem_tokens_of_name hKey)
  cases hName : markup.name with
  | some name =>
      have hFirst := h.opening_lt_name hName
      have hOrder := h.name_lt_attribute hName hAttr (Markup.Attribute.mem_tokens_of_name hKey)
      have hMem : name ∈ markup.openingTokens := by simp [Markup.Element.openingTokens, hName]
      have hWidth := h.token_span (Markup.Element.mem_tokens_of_opening hMem)
      omega
  | none =>
      -- A key there would have been the name of the element.
      refine lt_of_le_of_ne hBehind fun hTouch => ?_
      obtain ⟨opening, hOpening, hWidth, hStart⟩ := h.startOffset
      obtain ⟨c, hFirst, hNameStart⟩ := (hNames.keys attr (List.mem_of_getElem? hAttr) key hKey).first
      have hHere : opening.span.endOffset + 1 = key.span.startOffset := by omega
      rw [← hHere] at hFirst
      rw [hNames.noName hName opening c hOpening hFirst] at hNameStart
      cases hNameStart

/-- From the key of an attribute on, no place before the attribute has the cursor. -/
theorem ownAnswer_eq_of_attribute {context : Context} (h : markup.LaidOut source) (hNames : markup.NamesWhole source)
    (hAttr : markup.attributes[index]? = some attr) (hPartner : element.attributes[index]? = some partner)
    (hKey : attr.name = some key) (hOffset : key.span.startOffset ≤ offset)
    (hAnswer : (inValue element offset attr partner).or (onKey element offset attr partner) = some context) :
    Owns markup offset ∧ ownAnswer markup element offset = some context := by
  have hWhole := hNames.keys attr (List.mem_of_getElem? hAttr) key hKey
  have hToken := Markup.Attribute.mem_tokens_of_name hKey
  have hNotOpen : afterOpen markup element offset = none :=
    afterOpen_eq_none h ((opening_apart_key h hNames hAttr hKey).trans_le hOffset)
  have hNotName : inName markup element offset = none := by
    refine inName_eq_none fun name hName => ?_
    have hOrder := h.name_lt_attribute hName hAttr hToken
    exact ((hNames.name name hName).apart hWhole hOrder).trans_le hOffset
  have hAttributes : inAttributes markup element offset = some context := by
    refine inAttributes_eq_some hAttr hPartner ?_ hAnswer
    intro number earlier other hLt hEarlier
    refine ⟨inValue_eq_none fun value hString => ?_, onKey_eq_none fun name hName => ?_⟩
    · have hOrder := h.attribute_lt hEarlier hAttr hLt (Markup.Attribute.mem_tokens_of_string hString) hToken
      omega
    · have hOrder := h.attribute_lt hEarlier hAttr hLt (Markup.Attribute.mem_tokens_of_name hName) hToken
      have hApart := (hNames.keys earlier (List.mem_of_getElem? hEarlier) name hName).apart hWhole hOrder
      omega
  refine ⟨owns_of_inAttributes h hAttributes, ?_⟩
  simp only [ownAnswer, List.findSome?_cons, hNotOpen, hNotName, hAttributes]

end Attributes

theorem nonEmpty_ofList (chars : List Char) : nonEmpty (String.ofList chars) =
    if chars = [] then none else some (String.ofList chars) := by
  cases chars with
  | nil => rfl
  | cons first rest => simp [nonEmpty]

end Completion

namespace Snapshot

open Completion

variable {source : String} {snapshot : Snapshot} {path : List Nat} {markup : Markup.Element}
  {element : Document.Element}

theorem complete_behind_opening (hSnapshot : ofText source = .ok snapshot)
    (hPair : snapshot.Pairs path markup element) :
    ∃ opening, markup.openAngle = some opening ∧
      snapshot.complete (opening.span.endOffset + 1) = some ⟨.elementName, element, none, none, none⟩ := by
  have hLaid := (isRead_of_pairs hSnapshot hPair).laidOut
  obtain ⟨opening, hOpening, _⟩ := hLaid.startOffset
  have hPresent : Markup.present markup.openAngle = some opening :=
    present_of_mem hLaid hOpening
      (Markup.Element.mem_tokens_of_opening (by simp [Markup.Element.openingTokens, hOpening]))
  have hAnswer : afterOpen markup element (opening.span.endOffset + 1) =
      some ⟨.elementName, element, none, none, none⟩ :=
    afterOpen_eq_some_iff.mpr ⟨opening, hPresent, rfl, rfl⟩
  refine ⟨opening, hOpening, ?_⟩
  rw [complete_eq_of_owns hSnapshot hPair (owns_of_afterOpen hLaid hAnswer)]
  simp only [ownAnswer, List.findSome?_cons, hAnswer]

theorem complete_in_name (hSnapshot : ofText source = .ok snapshot) (hPair : snapshot.Pairs path markup element)
    {name : Markup.Token} (hName : markup.name = some name) {count : Nat} (hPos : 1 ≤ count)
    (hCount : count ≤ name.image.length) :
    snapshot.complete (name.span.startOffset + count) =
      some ⟨.elementName, element, none, none, some (String.ofList (name.image.toList.take count))⟩ := by
  have hLaid := (isRead_of_pairs hSnapshot hPair).laidOut
  have hMem : name ∈ markup.tokens :=
    Markup.Element.mem_tokens_of_opening (by simp [Markup.Element.openingTokens, hName])
  have hOccurs := (hLaid.tokens.of_mem hMem).1
  have hAnswer : inName markup element (name.span.startOffset + count) =
      some ⟨.elementName, element, none, none, some (String.ofList (name.image.toList.take count))⟩ := by
    have hEnd := hOccurs.endOffset
    refine inName_eq_some_iff.mpr
      ⟨name, (Markup.present_eq_some_iff ..).mpr ⟨hName, hOccurs.notSupplied⟩, by omega, by omega, ?_⟩
    rw [Nat.add_sub_cancel_left, firstChars]
  have hBehind := hLaid.opening_lt_name hName
  have hNotOpen : afterOpen markup element (name.span.startOffset + count) = none :=
    afterOpen_eq_none hLaid (by omega)
  rw [complete_eq_of_owns hSnapshot hPair (owns_of_inName hLaid hAnswer)]
  simp only [ownAnswer, List.findSome?_cons, hNotOpen, hAnswer]

section Attributes

variable {index : Nat} {attr : Markup.Attribute}

/-- What an attribute answers from its key on is the completion. -/
theorem complete_eq_of_attribute (hSnapshot : ofText source = .ok snapshot)
    (hPair : snapshot.Pairs path markup element) (hAttr : markup.attributes[index]? = some attr)
    {partner : Document.Attribute} (hPartner : element.attributes[index]? = some partner) {key : Markup.Token}
    (hKey : attr.name = some key) {offset : Nat} (hOffset : key.span.startOffset ≤ offset) {context : Context}
    (hAnswer : (inValue element offset attr partner).or (onKey element offset attr partner) = some context) :
    snapshot.complete offset = some context := by
  have hRead := isRead_of_pairs hSnapshot hPair
  obtain ⟨hOwns, hOwn⟩ :=
    ownAnswer_eq_of_attribute hRead.laidOut hRead.namesWhole hAttr hPartner hKey hOffset hAnswer
  rw [complete_eq_of_owns hSnapshot hPair hOwns, hOwn]

theorem exists_partner (hSnapshot : ofText source = .ok snapshot) (hPair : snapshot.Pairs path markup element)
    (hAttr : markup.attributes[index]? = some attr) : ∃ partner, element.attributes[index]? = some partner := by
  have hLength := ((aligned_of_ofText hSnapshot).repeats hPair).attributes.length_eq
  have hLt := (List.getElem?_eq_some_iff.mp hAttr).1
  rw [hLength] at hLt
  exact ⟨_, List.getElem?_eq_getElem hLt⟩

theorem complete_on_key (hSnapshot : ofText source = .ok snapshot) (hPair : snapshot.Pairs path markup element)
    (hAttr : markup.attributes[index]? = some attr) :
    ∃ key partner, attr.name = some key ∧ element.attributes[index]? = some partner ∧
      ∀ count ≤ key.image.length, snapshot.complete (key.span.startOffset + count) =
        some ⟨.attributeName, element, some partner, none,
          if count = 0 then none else some (String.ofList (key.image.toList.take count))⟩ := by
  have hLaid := (isRead_of_pairs hSnapshot hPair).laidOut
  obtain ⟨partner, hPartner⟩ := exists_partner hSnapshot hPair hAttr
  obtain ⟨key, hKey⟩ := (hLaid.attributes attr (List.mem_of_getElem? hAttr)).name
  refine ⟨key, partner, hKey, hPartner, fun count hCount => ?_⟩
  have hOccurs := hLaid.occursIn_attribute hAttr (Markup.Attribute.mem_tokens_of_name hKey)
  have hEnd := hOccurs.endOffset
  have hNotValue : inValue element (key.span.startOffset + count) attr partner = none := by
    refine inValue_eq_none fun value hString => ?_
    have hOrder := hLaid.key_lt_value hAttr hKey hString
    omega
  refine complete_eq_of_attribute hSnapshot hPair hAttr hPartner hKey (Nat.le_add_right _ _) ?_
  rw [hNotValue, Option.none_or]
  refine onKey_eq_some_iff.mpr
    ⟨key, (Markup.present_eq_some_iff ..).mpr ⟨hKey, hOccurs.notSupplied⟩, by omega, by omega, ?_⟩
  have hEmpty : key.image.toList.take count = [] ↔ count = 0 := by
    rw [List.take_eq_nil_iff, ← List.length_eq_zero_iff, String.length_toList]
    have hNonempty := hOccurs.nonempty
    omega
  rw [Nat.add_sub_cancel_left, firstChars, nonEmpty_ofList]
  simp only [hEmpty]

theorem complete_in_value (hSnapshot : ofText source = .ok snapshot) (hPair : snapshot.Pairs path markup element)
    (hAttr : markup.attributes[index]? = some attr) {value : Markup.Token} (hString : attr.string = some value) :
    ∃ partner, element.attributes[index]? = some partner ∧
      ∀ count, 1 ≤ count → count ≤ value.span.endOffset - value.span.startOffset →
        snapshot.complete (value.span.startOffset + count) =
          some ⟨.attributeValue, element, some partner, none,
            if count = 1 then none else some (String.ofList ((value.image.toList.drop 1).take (count - 1)))⟩ := by
  have hLaid := (isRead_of_pairs hSnapshot hPair).laidOut
  obtain ⟨partner, hPartner⟩ := exists_partner hSnapshot hPair hAttr
  obtain ⟨key, hKey⟩ := (hLaid.attributes attr (List.mem_of_getElem? hAttr)).name
  refine ⟨partner, hPartner, fun count hPos hCount => ?_⟩
  have hOccurs := hLaid.occursIn_attribute hAttr (Markup.Attribute.mem_tokens_of_string hString)
  have hEnd := hOccurs.endOffset
  have hWidth := (hLaid.occursIn_attribute hAttr (Markup.Attribute.mem_tokens_of_name hKey)).startOffset_le
  have hOrder := hLaid.key_lt_value hAttr hKey hString
  refine complete_eq_of_attribute hSnapshot hPair hAttr hPartner hKey (by omega) (Option.or_eq_some_iff.mpr (.inl ?_))
  refine inValue_eq_some_iff.mpr
    ⟨value, (Markup.present_eq_some_iff ..).mpr ⟨hString, hOccurs.notSupplied⟩, by omega, by omega, ?_⟩
  have hEmpty : (value.image.toList.drop 1).take (count - 1) = [] ↔ count = 1 := by
    rw [List.take_eq_nil_iff, List.drop_eq_nil_iff, String.length_toList]
    omega
  rw [Nat.add_sub_cancel_left, firstQuoted, List.drop_take, nonEmpty_ofList]
  simp only [hEmpty]

end Attributes

theorem complete_between (hSnapshot : ofText source = .ok snapshot) (hPair : snapshot.Pairs path markup element)
    {name close : Markup.Token} {offset : Nat} (hName : markup.name = some name)
    (hClose : markup.startClose = some close ∨ markup.slashClose = some close)
    (hStart : name.span.endOffset + 1 < offset) (hEnd : offset ≤ close.span.startOffset)
    (hElsewhere : ∀ attr ∈ markup.attributes,
      (∀ key, attr.name = some key →
        ¬ (key.span.startOffset ≤ offset ∧ offset ≤ key.span.startOffset + key.image.length)) ∧
      ∀ value, attr.string = some value → ¬ (value.span.startOffset < offset ∧ offset ≤ value.span.endOffset)) :
    snapshot.complete offset = if element.attributes.any fun attr => attr.span.contains offset then none
      else some ⟨.attributeName, element, none, none, none⟩ := by
  have hLaid := (isRead_of_pairs hSnapshot hPair).laidOut
  have hBehind := hLaid.opening_lt_name hName
  have hMem : name ∈ markup.openingTokens := by simp [Markup.Element.openingTokens, hName]
  have hWidth := hLaid.token_span (Markup.Element.mem_tokens_of_opening hMem)
  have hNotOpen : afterOpen markup element offset = none := afterOpen_eq_none hLaid (by omega)
  have hNotName : inName markup element offset = none := by
    refine inName_eq_none fun other hOther => ?_
    rw [hName, Option.some.injEq] at hOther
    rwa [← hOther]
  have hNotAttributes : inAttributes markup element offset = none := by
    refine inAttributes_eq_none fun index attr partner hAttr => ?_
    obtain ⟨hKeys, hValues⟩ := hElsewhere attr (List.mem_of_getElem? hAttr)
    refine ⟨inValue_eq_none hValues, onKey_eq_none fun key hKey => ?_⟩
    rw [(hLaid.occursIn_attribute hAttr (Markup.Attribute.mem_tokens_of_name hKey)).endOffset]
    exact hKeys key hKey
  have hNotContent : inContent markup element offset = none := inContent_eq_none_of_tag hLaid hClose hEnd
  rw [complete_eq_of_owns hSnapshot hPair (Owns.of_tag hLaid hClose (by omega) hEnd)]
  rw [← newAttribute_eq hLaid hName hClose hStart.le hEnd]
  simp only [ownAnswer, List.findSome?_cons, List.findSome?_nil, hNotOpen, hNotName, hNotAttributes, hNotContent]
  cases newAttribute markup element offset <;> rfl

/-- What is completed in an opening tag, for every element of every text: behind `<` and in the name, on a key,
between the quotes of a value and between the attributes. -/
theorem complete_in_tag (source : String) :
    ∃ snapshot, ofText source = .ok snapshot ∧ ∀ path markup, snapshot.tree.at? path = some markup →
      ∃ element, snapshot.Pairs path markup element ∧ snapshot.CompletesTag markup element := by
  obtain ⟨snapshot, hSnapshot⟩ : ∃ snapshot, ofText source = .ok snapshot := ⟨_, ofText_eq source⟩
  refine ⟨snapshot, hSnapshot, fun path markup hAt => ?_⟩
  obtain ⟨element, hPair⟩ := (aligned_of_ofText hSnapshot).exists_element hAt
  refine ⟨element, hPair, ?_⟩
  exact {
    opening := complete_behind_opening hSnapshot hPair
    name := fun _ hName _ => complete_in_name hSnapshot hPair hName
    key := fun _ _ => complete_on_key hSnapshot hPair
    value := fun _ _ _ hAttr hString => complete_in_value hSnapshot hPair hAttr hString
    between := fun _ _ _ => complete_between hSnapshot hPair }

end Snapshot

end ContentAssist
