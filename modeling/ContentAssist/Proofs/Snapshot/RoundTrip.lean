import ContentAssist.Proofs.Json.Records
import ContentAssist.Proofs.Json.RoundTrip
import ContentAssist.Proofs.Markup.Outline
import ContentAssist.Snapshot

/-! A snapshot is read back from its JSON text, compact or indented. There is one lemma for each kind of record, in
the order in which the records contain one another; an element goes by induction on the elements inside it. -/
namespace ContentAssist

open Json (ReadsBack Fits fits_ofMembers isSound_ofMembers slots?_ofMembers readsBack_count readsBack_string
  readsBack_bool readsBack_option readsBack_list)

theorem Span.readsBack (span : Span) : ReadsBack Span.ofJson? Span.toJson span := by
  intro levels hFits
  obtain ⟨below, rfl, hMembers⟩ := fits_ofMembers.mp hFits
  simp only [List.forall_mem_cons] at hMembers
  obtain ⟨hStart, hEnd, -⟩ := hMembers
  replace hStart := readsBack_count _ _ hStart
  replace hEnd := readsBack_count _ _ hEnd
  constructor
  · simp [Span.toJson, isSound_ofMembers, hStart, hEnd]
  · simp [Span.ofJson?, Span.toJson, slots?_ofMembers, hStart, hEnd]

namespace Markup

theorem TokenKind.readsBack (whole : Bool) (kind : TokenKind) :
    ReadsBack (TokenKind.ofJson? whole) TokenKind.toJson kind :=
  fun _ _ => ⟨rfl, TokenKind.ofLabel?_label kind⟩

theorem Token.readsBack (whole : Bool) (token : Token) : ReadsBack (Token.ofJson? whole) Token.toJson token := by
  intro levels hFits
  obtain ⟨below, rfl, hMembers⟩ := fits_ofMembers.mp hFits
  simp only [Token.members, List.forall_mem_cons] at hMembers
  obtain ⟨hKind, hImage, hStart, hEnd, hRecovered, -⟩ := hMembers
  replace hKind := TokenKind.readsBack whole _ _ hKind
  replace hImage := readsBack_string _ _ hImage
  replace hStart := readsBack_count _ _ hStart
  replace hEnd := readsBack_count _ _ hEnd
  replace hRecovered := readsBack_bool _ _ hRecovered
  constructor
  · simp [Token.toJson, Token.members, isSound_ofMembers, hKind, hImage, hStart, hEnd, hRecovered]
  · simp [Token.ofJson?, Token.toJson, Token.members, slots?_ofMembers, hKind, hImage, hStart, hEnd, hRecovered]

theorem slot_readsBack (whole : Bool) (slot : Option Token) :
    ReadsBack (fun levels => Json.option? (Token.ofJson? whole levels)) slotToJson slot :=
  readsBack_option (fun token _ => Token.readsBack whole token) fun _ => nofun

theorem Attribute.readsBack (whole : Bool) (attr : Attribute) :
    ReadsBack (Attribute.ofJson? whole) Attribute.toJson attr := by
  intro levels hFits
  obtain ⟨below, rfl, hMembers⟩ := fits_ofMembers.mp hFits
  simp only [List.forall_mem_cons] at hMembers
  obtain ⟨hName, hEquals, hString, hSpan, -⟩ := hMembers
  replace hName := slot_readsBack whole _ _ hName
  replace hEquals := slot_readsBack whole _ _ hEquals
  replace hString := slot_readsBack whole _ _ hString
  replace hSpan := Span.readsBack _ _ hSpan
  constructor
  · simp [Attribute.toJson, isSound_ofMembers, hName, hEquals, hString, hSpan]
  · simp [Attribute.ofJson?, Attribute.toJson, slots?_ofMembers, slotOfJson?, hName, hEquals, hString, hSpan]

theorem CharacterData.readsBack (whole : Bool) (run : CharacterData) :
    ReadsBack (CharacterData.ofJson? whole) CharacterData.toJson run := by
  intro levels hFits
  obtain ⟨below, rfl, hMembers⟩ := fits_ofMembers.mp hFits
  simp only [CharacterData.members, List.forall_mem_cons] at hMembers
  obtain ⟨hTokens, hSpan, -⟩ := hMembers
  replace hTokens := readsBack_list (fun token _ => Token.readsBack whole token) _ hTokens
  replace hSpan := Span.readsBack _ _ hSpan
  constructor
  · simp [CharacterData.toJson, CharacterData.members, isSound_ofMembers, hTokens, hSpan]
  · simp [CharacterData.ofJson?, CharacterData.toJson, CharacterData.members, slots?_ofMembers, hTokens, hSpan]

theorem Reference.readsBack (whole : Bool) (part : Reference) :
    ReadsBack (Reference.ofJson? whole) Reference.toJson part := by
  intro levels hFits
  obtain ⟨below, rfl, hMembers⟩ := fits_ofMembers.mp hFits
  simp only [Reference.members, List.forall_mem_cons] at hMembers
  obtain ⟨hToken, hSpan, -⟩ := hMembers
  replace hToken := Token.readsBack whole _ _ hToken
  replace hSpan := Span.readsBack _ _ hSpan
  constructor
  · simp [Reference.toJson, Reference.members, isSound_ofMembers, hToken, hSpan]
  · simp [Reference.ofJson?, Reference.toJson, Reference.members, slots?_ofMembers, hToken, hSpan]

/-! ### Elements and content -/

theorem PartKind.ofJson?_label (whole : Bool) (kind : PartKind) :
    PartKind.ofJson? whole (.ofString kind.label) = some kind := by
  cases kind <;> rfl

theorem partsToJson_eq (parts : List ContentPart) : partsToJson parts = parts.map ContentPart.toJson := by
  induction parts with
  | nil => rfl
  | cons part rest ih => rw [partsToJson, ih, List.map_cons]

/-- The kind of a part is taken out of its object if no other member has the same name. -/
theorem splitPart?_cons {kind : Json} {members : List (Option String × Json)}
    (hOther : ∀ member ∈ members, member.1 ≠ some "part") :
    splitPart? (.object ((some "part", kind) :: members)) = some (kind, .object members) := by
  have hNone : members.filter (fun member => member.1 = some "part") = [] := by
    rw [List.filter_eq_nil_iff]
    exact fun member hMember => by simpa using hOther member hMember
  have hAll : members.filter (fun member => member.1 ≠ some "part") = members := by
    rw [List.filter_eq_self]
    exact fun member hMember => by simpa using hOther member hMember
  simp only [splitPart?]
  rw [List.filter_cons_of_pos (by simp), List.filter_cons_of_neg (by simp), hNone, hAll]

theorem splitPart?_ofMembers {kind : Json} {members : List (String × Json)} (h : "part" ∉ members.map Prod.fst) :
    splitPart? (.ofMembers (("part", kind) :: members)) = some (kind, .ofMembers members) := by
  refine splitPart?_cons fun member hMember => ?_
  obtain ⟨named, hNamed, rfl⟩ := List.mem_map.mp hMember
  intro hSame
  exact h (List.mem_map.mpr ⟨named, hNamed, by simpa using hSame⟩)

/-- Read the fields of a part whose kind is known. -/
def PartKind.read? (levels : Nat) (readElement : Json → Option Element) (fields : Json) :
    PartKind → Option ContentPart
  | .element => (readElement fields).map .element
  | .text => (CharacterData.ofJson? true levels fields).map .text
  | .reference => (Reference.ofJson? true levels fields).map .reference
  | .cdata => (Token.ofJson? true levels fields).map .cdata
  | .processingInstruction => (Token.ofJson? true levels fields).map .processingInstruction
  | .comment => (Token.ofJson? true levels fields).map .comment

/-- A part is read back if its fields are. Its kind is one more member beside them, so the same levels are left. -/
theorem part_readsBack {whole : Bool} {levels : Nat} {readElement : Json → Option Element} {part : ContentPart}
    (kind : PartKind) {members : List (String × Json)}
    (hFits : Fits levels (.ofMembers (("part", .ofString kind.label) :: members)))
    (hNames : "part" ∉ members.map Prod.fst)
    (hFields : Fits levels (.ofMembers members) → (Json.ofMembers members).isSound = true ∧
      kind.read? levels readElement (.ofMembers members) = some part) :
    (Json.ofMembers (("part", .ofString kind.label) :: members)).isSound = true ∧
      ContentPart.read? whole levels readElement (.ofMembers (("part", .ofString kind.label) :: members)) =
        some part := by
  obtain ⟨hSound, hRead⟩ := hFields <| by
    obtain ⟨below, rfl, hMembers⟩ := fits_ofMembers.mp hFits
    exact fits_ofMembers.mpr ⟨below, rfl, (List.forall_mem_cons.mp hMembers).2⟩
  have hWhole : (Json.ofMembers (("part", .ofString kind.label) :: members)).isSound = true := by
    rw [isSound_ofMembers] at hSound ⊢
    rw [List.all_cons, hSound]
    rfl
  have hWithin : (Json.ofMembers (("part", .ofString kind.label) :: members)).within levels = true := by
    simp [Json.within, hFits.nesting, hWhole]
  refine ⟨hWhole, ?_⟩
  rw [← hRead]
  simp only [ContentPart.read?, hWithin, Bool.not_true, Bool.false_eq_true, if_false, splitPart?_ofMembers hNames,
    Option.bind_eq_bind, Option.bind_some, PartKind.ofJson?_label]
  cases kind <;> rfl

theorem Element.members_eq (element : Element) : element.members =
    [("open", slotToJson element.openAngle), ("name", slotToJson element.name),
     ("attributes", .ofList Attribute.toJson element.attributes), ("startClose", slotToJson element.startClose),
     ("content", .ofOption Content.toJson element.content), ("slashOpen", slotToJson element.slashOpen),
     ("endName", slotToJson element.endName), ("close", slotToJson element.close),
     ("slashClose", slotToJson element.slashClose), ("location", element.span.toJson)] := by
  obtain ⟨_, _, _, _, content, _, _, _, _, _⟩ := element
  cases content <;> rfl

theorem ContentPart.readsBack {whole : Bool} {part : ContentPart}
    (hChild : ∀ child, part = .element child → ReadsBack (Element.ofJson? true) Element.toJson child) :
    ReadsBack (fun levels => ContentPart.read? whole levels (Element.ofJson? true levels)) ContentPart.toJson
      part := by
  intro levels hFits
  cases part with
  | element child =>
      refine part_readsBack .element hFits (by simp [Element.members_eq]) fun hFields => ?_
      obtain ⟨hSound, hRead⟩ := hChild child rfl levels hFields
      exact ⟨hSound, congrArg (Option.map ContentPart.element) hRead⟩
  | text run =>
      refine part_readsBack .text hFits (by simp [CharacterData.members]) fun hFields => ?_
      obtain ⟨hSound, hRead⟩ := CharacterData.readsBack true run levels hFields
      exact ⟨hSound, congrArg (Option.map ContentPart.text) hRead⟩
  | reference part =>
      refine part_readsBack .reference hFits (by simp [Reference.members]) fun hFields => ?_
      obtain ⟨hSound, hRead⟩ := Reference.readsBack true part levels hFields
      exact ⟨hSound, congrArg (Option.map ContentPart.reference) hRead⟩
  | cdata token =>
      refine part_readsBack .cdata hFits (by simp [Token.members]) fun hFields => ?_
      obtain ⟨hSound, hRead⟩ := Token.readsBack true token levels hFields
      exact ⟨hSound, congrArg (Option.map ContentPart.cdata) hRead⟩
  | processingInstruction token =>
      refine part_readsBack .processingInstruction hFits (by simp [Token.members]) fun hFields => ?_
      obtain ⟨hSound, hRead⟩ := Token.readsBack true token levels hFields
      exact ⟨hSound, congrArg (Option.map ContentPart.processingInstruction) hRead⟩
  | comment token =>
      refine part_readsBack .comment hFits (by simp [Token.members]) fun hFields => ?_
      obtain ⟨hSound, hRead⟩ := Token.readsBack true token levels hFields
      exact ⟨hSound, congrArg (Option.map ContentPart.comment) hRead⟩

theorem partsOfJson?_eq (whole : Bool) : partsOfJson? whole =
    Json.list? fun levels => ContentPart.read? whole levels (Element.ofJson? true levels) := by
  funext levels value
  cases levels with
  | zero => rfl
  | succ levels => cases value <;> rfl

theorem Content.readsBack (whole : Bool) {content : Content}
    (hChildren : ∀ child, ContentPart.element child ∈ content.parts →
      ReadsBack (Element.ofJson? true) Element.toJson child) :
    ReadsBack (Content.ofJson? whole) Content.toJson content := by
  intro levels hFits
  obtain ⟨parts, span⟩ := content
  have hEach : ∀ part ∈ parts, ReadsBack
      (fun levels => ContentPart.read? whole levels (Element.ofJson? true levels)) ContentPart.toJson part :=
    fun part hPart => ContentPart.readsBack fun child hChild => hChildren child (hChild ▸ hPart)
  have hWritten : Content.toJson ⟨parts, span⟩ =
      .ofMembers [("parts", .ofList ContentPart.toJson parts), ("location", span.toJson)] := by
    rw [Content.toJson, partsToJson_eq, Json.ofList]
  rw [hWritten] at hFits ⊢
  obtain ⟨below, rfl, hMembers⟩ := fits_ofMembers.mp hFits
  simp only [List.forall_mem_cons] at hMembers
  obtain ⟨hItems, hSpan, -⟩ := hMembers
  replace hItems := readsBack_list hEach _ hItems
  replace hSpan := Span.readsBack _ _ hSpan
  constructor
  · simp [isSound_ofMembers, hItems, hSpan]
  · simp [Content.ofJson?, slots?_ofMembers, partsOfJson?_eq, hItems, hSpan]

theorem Element.readsBack (whole : Bool) (element : Element) :
    ReadsBack (Element.ofJson? whole) Element.toJson element := by
  induction element using Element.inductionOnChildren generalizing whole with
  | step element ih =>
      intro levels hFits
      have hInside : ∀ content, element.content = some content →
          ReadsBack (Content.ofJson? whole) Content.toJson content := by
        intro content hContent
        apply Content.readsBack whole
        intro child hChild
        have hParts : element.parts = content.parts := by simp [Element.parts, hContent]
        exact ih child ((Element.mem_children_iff element child).mpr (hParts ▸ hChild)) true
      rw [Element.toJson, Element.members_eq] at hFits ⊢
      obtain ⟨below, rfl, hMembers⟩ := fits_ofMembers.mp hFits
      simp only [List.forall_mem_cons] at hMembers
      obtain ⟨hOpen, hName, hAttributes, hStartClose, hContent, hSlashOpen, hEndName, hClose, hSlashClose, hSpan, -⟩ :=
        hMembers
      replace hOpen := slot_readsBack whole _ _ hOpen
      replace hName := slot_readsBack whole _ _ hName
      replace hAttributes := readsBack_list (fun attr _ => Attribute.readsBack whole attr) _ hAttributes
      replace hStartClose := slot_readsBack whole _ _ hStartClose
      replace hContent := readsBack_option hInside (fun ⟨_, _⟩ => nofun) _ hContent
      replace hSlashOpen := slot_readsBack whole _ _ hSlashOpen
      replace hEndName := slot_readsBack whole _ _ hEndName
      replace hClose := slot_readsBack whole _ _ hClose
      replace hSlashClose := slot_readsBack whole _ _ hSlashClose
      replace hSpan := Span.readsBack _ _ hSpan
      constructor
      · simp [isSound_ofMembers, hOpen, hName, hAttributes, hStartClose, hContent, hSlashOpen, hEndName, hClose,
          hSlashClose, hSpan]
      · simp [Element.ofJson?, slots?_ofMembers, slotOfJson?, hOpen, hName, hAttributes, hStartClose, hContent,
          hSlashOpen, hEndName, hClose, hSlashClose, hSpan]
        cases element
        rfl

theorem Prolog.readsBack (prolog : Prolog) : ReadsBack Prolog.ofJson? Prolog.toJson prolog := by
  intro levels hFits
  obtain ⟨below, rfl, hMembers⟩ := fits_ofMembers.mp hFits
  simp only [List.forall_mem_cons] at hMembers
  obtain ⟨hOpen, hAttributes, hClose, hSpan, -⟩ := hMembers
  replace hOpen := slot_readsBack false _ _ hOpen
  replace hAttributes := readsBack_list (fun attr _ => Attribute.readsBack false attr) _ hAttributes
  replace hClose := slot_readsBack false _ _ hClose
  replace hSpan := Span.readsBack _ _ hSpan
  constructor
  · simp [Prolog.toJson, isSound_ofMembers, hOpen, hAttributes, hClose, hSpan]
  · simp [Prolog.ofJson?, Prolog.toJson, slots?_ofMembers, slotOfJson?, hOpen, hAttributes, hClose, hSpan]

theorem Misc.readsBack (misc : Misc) : ReadsBack Misc.ofJson? Misc.toJson misc := by
  intro levels hFits
  obtain ⟨below, rfl, hMembers⟩ := fits_ofMembers.mp hFits
  have hToken := Token.readsBack false misc.token below (hMembers _ (List.mem_singleton_self _))
  constructor
  · simp [Misc.toJson, isSound_ofMembers, hToken]
  · simp [Misc.ofJson?, Misc.toJson, slots?_ofMembers, hToken]

theorem Tree.readsBack (tree : Tree) : ReadsBack Tree.ofJson? Tree.toJson tree := by
  intro levels hFits
  obtain ⟨below, rfl, hMembers⟩ := fits_ofMembers.mp hFits
  simp only [List.forall_mem_cons] at hMembers
  obtain ⟨hProlog, hMisc, hElement, hSpan, -⟩ := hMembers
  replace hProlog := readsBack_option (fun prolog _ => Prolog.readsBack prolog) (fun _ => nofun) _ hProlog
  replace hMisc := readsBack_list (fun misc _ => Misc.readsBack misc) _ hMisc
  replace hElement := readsBack_option (fun element _ => Element.readsBack false element) (fun _ => nofun) _ hElement
  replace hSpan := Span.readsBack _ _ hSpan
  constructor
  · simp [Tree.toJson, isSound_ofMembers, hProlog, hMisc, hElement, hSpan]
  · simp [Tree.ofJson?, Tree.toJson, slots?_ofMembers, hProlog, hMisc, hElement, hSpan]

end Markup

theorem Excerpt.readsBack (excerpt : Excerpt) : ReadsBack Excerpt.ofJson? Excerpt.toJson excerpt := by
  intro levels hFits
  obtain ⟨below, rfl, hMembers⟩ := fits_ofMembers.mp hFits
  simp only [List.forall_mem_cons] at hMembers
  obtain ⟨hImage, hStart, hEnd, -⟩ := hMembers
  replace hImage := readsBack_string _ _ hImage
  replace hStart := readsBack_count _ _ hStart
  replace hEnd := readsBack_count _ _ hEnd
  constructor
  · simp [Excerpt.toJson, isSound_ofMembers, hImage, hStart, hEnd]
  · simp [Excerpt.ofJson?, Excerpt.toJson, slots?_ofMembers, hImage, hStart, hEnd]

theorem Excerpt.option_readsBack (excerpt : Option Excerpt) :
    ReadsBack (fun levels => Json.option? (Excerpt.ofJson? levels)) (Json.ofOption Excerpt.toJson) excerpt :=
  readsBack_option (fun excerpt _ => Excerpt.readsBack excerpt) fun _ => nofun

namespace Document

theorem TagPlaces.readsBack (places : TagPlaces) : ReadsBack TagPlaces.ofJson? TagPlaces.toJson places := by
  intro levels hFits
  obtain ⟨below, rfl, hMembers⟩ := fits_ofMembers.mp hFits
  simp only [List.forall_mem_cons] at hMembers
  obtain ⟨hOpenName, hOpenBody, hCloseName, -⟩ := hMembers
  replace hOpenName := Excerpt.option_readsBack _ _ hOpenName
  replace hOpenBody := readsBack_option (fun span _ => Span.readsBack span) (fun _ => nofun) _ hOpenBody
  replace hCloseName := Excerpt.option_readsBack _ _ hCloseName
  constructor
  · simp [TagPlaces.toJson, isSound_ofMembers, hOpenName, hOpenBody, hCloseName]
  · simp [TagPlaces.ofJson?, TagPlaces.toJson, slots?_ofMembers, hOpenName, hOpenBody, hCloseName]

theorem AttributePlaces.readsBack (places : AttributePlaces) :
    ReadsBack AttributePlaces.ofJson? AttributePlaces.toJson places := by
  intro levels hFits
  obtain ⟨below, rfl, hMembers⟩ := fits_ofMembers.mp hFits
  simp only [List.forall_mem_cons] at hMembers
  obtain ⟨hKey, hValue, -⟩ := hMembers
  replace hKey := Excerpt.option_readsBack _ _ hKey
  replace hValue := Excerpt.option_readsBack _ _ hValue
  constructor
  · simp [AttributePlaces.toJson, isSound_ofMembers, hKey, hValue]
  · simp [AttributePlaces.ofJson?, AttributePlaces.toJson, slots?_ofMembers, hKey, hValue]

theorem Text.readsBack (text : Text) : ReadsBack Text.ofJson? Text.toJson text := by
  intro levels hFits
  obtain ⟨below, rfl, hMembers⟩ := fits_ofMembers.mp hFits
  simp only [List.forall_mem_cons] at hMembers
  obtain ⟨hText, hSpan, -⟩ := hMembers
  replace hText := readsBack_string _ _ hText
  replace hSpan := Span.readsBack _ _ hSpan
  constructor
  · simp [Text.toJson, isSound_ofMembers, hText, hSpan]
  · simp [Text.ofJson?, Text.toJson, slots?_ofMembers, hText, hSpan]

theorem Attribute.readsBack (attr : Attribute) : ReadsBack Attribute.ofJson? Attribute.toJson attr := by
  intro levels hFits
  obtain ⟨below, rfl, hMembers⟩ := fits_ofMembers.mp hFits
  simp only [List.forall_mem_cons] at hMembers
  obtain ⟨hKey, hValue, hSpan, hOwner, hPlaces, -⟩ := hMembers
  replace hKey := readsBack_string _ _ hKey
  replace hValue := readsBack_option (fun text _ => readsBack_string text) (fun _ => nofun) _ hValue
  replace hSpan := Span.readsBack _ _ hSpan
  replace hOwner := readsBack_count _ _ hOwner
  replace hPlaces := AttributePlaces.readsBack _ _ hPlaces
  constructor
  · simp [Attribute.toJson, isSound_ofMembers, hKey, hValue, hSpan, hOwner, hPlaces]
  · simp [Attribute.ofJson?, Attribute.toJson, slots?_ofMembers, hKey, hValue, hSpan, hOwner, hPlaces]

theorem Element.readsBack (element : Element) : ReadsBack Element.ofJson? Element.toJson element := by
  intro levels hFits
  obtain ⟨below, rfl, hMembers⟩ := fits_ofMembers.mp hFits
  simp only [List.forall_mem_cons] at hMembers
  obtain ⟨hId, hName, hAttributes, hSubElements, hTexts, hSpan, hParent, hPlaces, -⟩ := hMembers
  replace hId := readsBack_count _ _ hId
  replace hName := readsBack_option (fun text _ => readsBack_string text) (fun _ => nofun) _ hName
  replace hAttributes := readsBack_list (fun attr _ => Attribute.readsBack attr) _ hAttributes
  replace hSubElements := readsBack_list (fun id _ => readsBack_count id) _ hSubElements
  replace hTexts := readsBack_list (fun text _ => Text.readsBack text) _ hTexts
  replace hSpan := Span.readsBack _ _ hSpan
  replace hParent := readsBack_option (fun id _ => readsBack_count id) (fun _ => nofun) _ hParent
  replace hPlaces := TagPlaces.readsBack _ _ hPlaces
  constructor
  · simp [Element.toJson, isSound_ofMembers, hId, hName, hAttributes, hSubElements, hTexts, hSpan, hParent, hPlaces]
  · simp [Element.ofJson?, Element.toJson, slots?_ofMembers, hId, hName, hAttributes, hSubElements, hTexts, hSpan,
      hParent, hPlaces]

theorem readsBack (document : Document) : ReadsBack Document.ofJson? Document.toJson document := by
  intro levels hFits
  obtain ⟨below, rfl, hMembers⟩ := fits_ofMembers.mp hFits
  simp only [List.forall_mem_cons] at hMembers
  obtain ⟨hRoot, hElements, hSpan, -⟩ := hMembers
  replace hRoot := readsBack_option (fun id _ => readsBack_count id) (fun _ => nofun) _ hRoot
  replace hElements := readsBack_list (fun element _ => Element.readsBack element) _ hElements
  replace hSpan := Span.readsBack _ _ hSpan
  constructor
  · simp [Document.toJson, isSound_ofMembers, hRoot, hElements, hSpan]
  · simp [Document.ofJson?, Document.toJson, slots?_ofMembers, hRoot, hElements, hSpan]

end Document

namespace Snapshot

theorem readsBack (snapshot : Snapshot) : ReadsBack Snapshot.ofJson? Snapshot.toJson snapshot := by
  intro levels hFits
  obtain ⟨below, rfl, hMembers⟩ := fits_ofMembers.mp hFits
  simp only [List.forall_mem_cons] at hMembers
  obtain ⟨hTree, hDocument, -⟩ := hMembers
  replace hTree := Markup.Tree.readsBack _ _ hTree
  replace hDocument := Document.readsBack _ _ hDocument
  constructor
  · simp [Snapshot.toJson, isSound_ofMembers, hTree, hDocument]
  · simp [Snapshot.ofJson?, Snapshot.toJson, slots?_ofMembers, hTree, hDocument]

/-- Every snapshot whose JSON form is not too deep and has only counts of 64 bits is read back from its text, the
compact one as well as the indented one. -/
theorem parse?_written (snapshot : Snapshot) (hNesting : snapshot.toJson.nesting ≤ Json.maxLevels)
    (hCounts : snapshot.toJson.countsFit = true) :
    parse? snapshot.toJson.compact = some snapshot ∧ parse? snapshot.toJson.pretty = some snapshot := by
  obtain ⟨_, hRead⟩ := readsBack snapshot Json.maxLevels ⟨hNesting, hCounts⟩
  simp only [parse?, Json.parse?_compact, Json.parse?_pretty, Option.bind_some, hRead, and_self]

/-- A snapshot with a supplied token and a part of every kind, whose halves do not belong together. -/
def patched : Snapshot :=
  let token := Markup.Token.ofImage .text "\"<é\u0001\\" (UInt64.size - 6)
  let child : Markup.Element :=
    ⟨some (.supplied .openAngle), none, [⟨some token, none, some (.supplied .string), ⟨0, 9⟩⟩], none, none, none, none,
      none, none, ⟨3, 2⟩⟩
  let parts : List Markup.ContentPart :=
    [.text ⟨[token, token], token.span⟩, .element child, .reference ⟨token, token.span⟩, .cdata token,
      .processingInstruction token, .comment (.supplied .comment)]
  let root : Markup.Element :=
    ⟨none, some token, [], some token, some ⟨parts, token.span⟩, none, none, none, some token, ⟨0, 0⟩⟩
  ⟨⟨some ⟨some token, [⟨none, none, none, ⟨1, 1⟩⟩], none, ⟨0, 1⟩⟩, [⟨token⟩], some root, ⟨0, 0⟩⟩,
    ⟨some 7, [⟨5, some "a", [⟨"k", none, ⟨0, 1⟩, 4, ⟨some ⟨"k", ⟨0, 0⟩⟩, none⟩⟩], [2, 3], [⟨"t", ⟨1, 2⟩⟩], ⟨0, 3⟩,
      none, ⟨none, some ⟨0, 1⟩, none⟩⟩], ⟨0, 4⟩⟩⟩

theorem parse?_written_patched : patched.toJson.nesting ≤ Json.maxLevels ∧ patched.toJson.countsFit = true ∧
    parse? patched.toJson.compact = some patched ∧ parse? patched.toJson.pretty = some patched :=
  ⟨by decide, by decide, parse?_written patched (by decide) (by decide)⟩

end Snapshot

end ContentAssist
