import ContentAssist.Proofs.Completion.Innermost
import ContentAssist.Proofs.Document.Moved
import ContentAssist.Proofs.Markup.Slice

/-! An element that has its end can be taken out of its text. Alone it has the same tree and the same document as
inside the text, and the completion at a cursor in it is the same, up to the distance in the text and to the numbers
of the elements. The elements around it have no say: the rules of an element look only at its own tokens, and they are
asked only if no element inside has the character before the cursor. -/
namespace ContentAssist

open Markup (Token present)

namespace Completion

/-- The same completion further to the right in the text, in a document where the former root has the number `first`
and the parent `above`. -/
def Context.moved (distance first : Nat) (above : Option Nat) (context : Context) : Context where
  kind := context.kind
  element := context.element.moved distance first above
  attr := context.attr.map (Document.Attribute.moved distance first)
  text := context.text.map (Document.Text.moved distance)
  typed := context.typed

section Rules

variable (distance first : Nat) (above : Option Nat) (markup : Markup.Element) (element : Document.Element)
  (offset : Nat)

theorem present_moved (slot : Option Token) :
    present (slot.map (Token.moved distance)) = (present slot).map (Token.moved distance) := by
  rcases slot with _ | ⟨kind, image, span, recovered⟩
  · rfl
  · cases recovered <;> rfl

theorem afterOpen_moved :
    afterOpen (markup.moved distance) (element.moved distance first above) (offset + distance) =
      (afterOpen markup element offset).map (Context.moved distance first above) := by
  simp only [afterOpen, Markup.Element.moved_eq, present_moved, Option.bind_eq_bind, Option.bind_map, Option.map_bind,
    Function.comp_def, Token.moved, Span.moved, Nat.add_right_comm _ distance 1, Nat.add_right_cancel_iff]
  rfl

theorem inName_moved :
    inName (markup.moved distance) (element.moved distance first above) (offset + distance) =
      (inName markup element offset).map (Context.moved distance first above) := by
  simp only [inName, Markup.Element.moved_eq, present_moved, Option.bind_eq_bind, Option.bind_map, Option.map_bind,
    Function.comp_def, Token.moved, Span.moved, Nat.add_right_comm _ distance 1, Nat.add_lt_add_iff_right,
    Nat.add_le_add_iff_right, Nat.add_sub_add_right]
  rfl

theorem inValue_moved (attr : Markup.Attribute) (partner : Document.Attribute) :
    inValue (element.moved distance first above) (offset + distance) (attr.moved distance)
        (partner.moved distance first) =
      (inValue element offset attr partner).map (Context.moved distance first above) := by
  simp only [inValue, Markup.Attribute.moved, present_moved, Option.bind_eq_bind, Option.bind_map, Option.map_bind,
    Function.comp_def, Token.moved, Span.moved, Nat.add_lt_add_iff_right, Nat.add_le_add_iff_right,
    Nat.add_sub_add_right]
  rfl

theorem onKey_moved (attr : Markup.Attribute) (partner : Document.Attribute) :
    onKey (element.moved distance first above) (offset + distance) (attr.moved distance)
        (partner.moved distance first) =
      (onKey element offset attr partner).map (Context.moved distance first above) := by
  simp only [onKey, touches, Markup.Attribute.moved, present_moved, Option.bind_eq_bind, Option.bind_map,
    Option.map_bind, Function.comp_def, Token.moved, Span.moved, Nat.add_right_comm _ distance 1,
    Nat.add_le_add_iff_right, Nat.add_sub_add_right]
  rfl

theorem inAttributes_moved :
    inAttributes (markup.moved distance) (element.moved distance first above) (offset + distance) =
      (inAttributes markup element offset).map (Context.moved distance first above) := by
  have hZip : (markup.moved distance).attributes.zip (element.moved distance first above).attributes =
      (markup.attributes.zip element.attributes).map
        (Prod.map (Markup.Attribute.moved distance) (Document.Attribute.moved distance first)) := by
    rw [Markup.Element.moved_eq]
    exact List.zip_map ..
  rw [inAttributes, inAttributes, hZip, List.findSome?_map, List.map_findSome?]
  congr 1
  funext pair
  simp only [Function.comp_def, Prod.map, inValue_moved, onKey_moved, Option.map_or]

theorem newAttribute_moved :
    newAttribute (markup.moved distance) (element.moved distance first above) (offset + distance) =
      (newAttribute markup element offset).map (Context.moved distance first above) := by
  have hFree : (element.moved distance first above).attributes.any
      (fun attr => attr.span.contains (offset + distance)) =
      element.attributes.any fun attr => attr.span.contains offset := by
    simp only [Document.Element.moved, List.any_map, Function.comp_def, Document.Attribute.moved, Span.contains_moved]
  simp only [newAttribute, hFree, Markup.Element.moved_eq, present_moved, ← Option.map_or, Option.bind_eq_bind,
    Option.bind_map, Option.map_bind, Function.comp_def, Token.moved, Span.moved, Nat.add_right_comm _ distance 1,
    Nat.add_le_add_iff_right]
  rfl

theorem locateFrom_moved (seen : Nat) (parts : List Markup.ContentPart) (position : Nat) :
    locateFrom seen (parts.map (Markup.ContentPart.moved distance)) (position + distance) =
      locateFrom seen parts position := by
  induction parts generalizing seen with
  | nil => rfl
  | cons part rest ih =>
      simp only [List.map_cons, locateFrom, Markup.ContentPart.span_moved, Span.contains_moved,
        Markup.ContentPart.isText_moved, ih]

theorem inContent_moved (hPos : 0 < offset) :
    inContent (markup.moved distance) (element.moved distance first above) (offset + distance) =
      (inContent markup element offset).map (Context.moved distance first above) := by
  have hLocate : locate (markup.moved distance).parts (offset + distance - 1) = locate markup.parts (offset - 1) := by
    rw [Markup.Element.parts_moved, Nat.sub_add_comm hPos]
    exact locateFrom_moved distance 0 markup.parts (offset - 1)
  have hParts : ∀ markup : Markup.Element, (markup.content.map Markup.Content.parts).getD [] = markup.parts :=
    fun _ => rfl
  simp only [inContent, hParts, hLocate]
  simp only [Markup.Element.moved_eq, present_moved, ← Option.map_or, Option.bind_eq_bind, Option.bind_map,
    Option.map_bind, Function.comp_def, Token.moved, Span.moved, Nat.add_right_comm _ distance 1,
    Nat.add_le_add_iff_right]
  congr 1
  funext opening
  congr 1
  funext closing
  congr 1
  funext _
  -- The same part is before the cursor; if it is a run of text, the document has the run at the same place.
  split
  · rfl
  · simp only [Document.Element.moved, List.getElem?_map, Option.bind_map, Option.map_bind, Function.comp_def,
      Document.Text.moved, Span.moved, Nat.add_sub_add_right]
    rfl
  · rfl

/-- Further to the right in the text an element answers in the same way. -/
theorem ownAnswer_moved (hPos : 0 < offset) :
    ownAnswer (markup.moved distance) (element.moved distance first above) (offset + distance) =
      (ownAnswer markup element offset).map (Context.moved distance first above) := by
  simp only [ownAnswer_eq, ownTag, ownBody, Option.map_or, afterOpen_moved, inName_moved, inAttributes_moved,
    newAttribute_moved, inContent_moved distance first above markup element offset hPos]

end Rules

end Completion

/-- The characters of the text inside the span. -/
def Span.textIn (source : String) (span : Span) : String :=
  String.ofList ((source.toList.drop span.startOffset).take (span.endOffset + 1 - span.startOffset))

namespace Snapshot

variable {source : String} {whole part : Snapshot} {path : List Nat} {markup alone : Markup.Element}
  {element : Document.Element} {distance : Nat}

/-- What is left of a snapshot if the text has only one of its elements: the element is the root of the tree and
of the document, and it is completed as before. -/
structure IsPart (part whole : Snapshot) (markup : Markup.Element) (element : Document.Element) : Prop where
  prolog : part.tree.prolog = none
  misc : part.tree.misc = []
  root : part.tree.element.map (Markup.Element.moved markup.span.startOffset) = some markup
  documentRoot : part.document.root = some 0
  rootParent : part.document.rootElement?.map Document.Element.parent = some none
  documentSpan : part.document.span.moved markup.span.startOffset = markup.span
  elements : part.document.elements.map
      (Document.Element.moved markup.span.startOffset element.id element.parent) =
    (whole.document.elements.drop element.id).take markup.size
  complete : ∀ offset, markup.span.startOffset < offset → offset ≤ markup.span.endOffset + 1 →
    whole.complete offset = (part.complete (offset - markup.span.startOffset)).map
      (Completion.Context.moved markup.span.startOffset element.id element.parent)

/-- The elements inside an element stand together in the document. -/
theorem exists_elements_split (hWhole : ofText source = .ok whole) (hPair : whole.Pairs path markup element) :
    ∃ before after, before.length = element.id ∧
      whole.document.elements = before ++ Document.rows element.id element.parent markup ++ after := by
  obtain ⟨root, hRoot, hAt⟩ := Option.bind_eq_some_iff.mp hPair.markup
  obtain ⟨before, after, parent, hLength, hRows⟩ := Document.exists_rows_split hAt 0 none
  have hElements := elements_eq_rows hWhole hRoot
  have hIs : element = Document.row (root.number path) parent markup [] markup := by
    have hFirst := hPair.element
    rw [hElements, hRows, number_eq_of_root hRoot, ← hLength, Document.rows_eq, List.append_assoc,
      List.getElem?_append_right le_rfl, Nat.sub_self] at hFirst
    rw [← Option.some.inj hFirst, hLength, Nat.zero_add]
  have hId : element.id = root.number path := by rw [hIs]; rfl
  have hParent : element.parent = parent := by rw [hIs]; rfl
  exact ⟨before, after, by rw [hLength, hId], by rw [hElements, hRows, hId, hParent, Nat.zero_add]⟩

/-- Every element inside an element has a partner that is the moved partner of the element alone. -/
theorem pairs_of_alone {text : String} {inner : List Nat} {found : Markup.Element} {partner : Document.Element}
    (hWhole : ofText source = .ok whole) (hPair : whole.Pairs path (alone.moved distance) element)
    (hPart : ofText text = .ok part) (hRoot : part.tree.element = some alone)
    (hInner : part.Pairs inner found partner) :
    whole.Pairs (path ++ inner) (found.moved distance) (partner.moved distance element.id element.parent) where
  markup := by
    obtain ⟨top, hTop, hAt⟩ := Option.bind_eq_some_iff.mp hPair.markup
    have hFound := (at?_eq_of_root hRoot inner).symm.trans hInner.markup
    rw [at?_eq_of_root hTop, Markup.Element.at?_append, hAt, Option.bind_some, Markup.Element.at?_moved, hFound,
      Option.map_some]
  element := by
    obtain ⟨top, hTop, hAt⟩ := Option.bind_eq_some_iff.mp hPair.markup
    obtain ⟨before, after, hLength, hElements⟩ := exists_elements_split hWhole hPair
    have hId : element.id = top.number path := by
      rw [((aligned_of_ofText hWhole).repeats hPair).id, number_eq_of_root hTop]
    have hNumber : whole.tree.number (path ++ inner) = before.length + alone.number inner := by
      rw [number_eq_of_root hTop, hLength, hId, Markup.Element.number_append hAt, Markup.Element.number_moved]
    have hFound := hInner.element
    rw [elements_eq_rows hPart hRoot, number_eq_of_root hRoot] at hFound
    have hRows := congrArg (Option.map (Document.Element.moved distance element.id element.parent)) hFound
    rw [← List.getElem?_map, ← Document.rows_moved, Option.map_some] at hRows
    have hLt := (List.getElem?_eq_some_iff.mp hRows).1
    rw [hElements, hNumber, List.append_assoc, List.getElem?_append_right (Nat.le_add_right _ _),
      Nat.add_sub_cancel_left, List.getElem?_append_left hLt, hRows]

/-- Inside the element the completion is the same as in the element alone. -/
theorem complete_eq_of_alone {text : String} {offset : Nat} (hWhole : ofText source = .ok whole)
    (hPair : whole.Pairs path (alone.moved distance) element) (hPart : ofText text = .ok part)
    (hRoot : part.tree.element = some alone) (hPos : 0 < offset)
    (hContains : alone.span.contains (offset - 1) = true) :
    whole.complete (offset + distance) =
      (part.complete offset).map (Completion.Context.moved distance element.id element.parent) := by
  have hAligned := aligned_of_ofText hPart
  obtain ⟨rootElement, hRootPair⟩ := hAligned.exists_element ((at?_eq_of_root hRoot []).trans rfl)
  obtain ⟨inner, found, hInner⟩ :=
    Markup.Element.exists_innermost (Completion.isRead_of_pairs hPart hRootPair) hContains
  obtain ⟨partner, hFound⟩ := hAligned.exists_element ((at?_eq_of_root hRoot inner).trans hInner.reached)
  -- The innermost element of the element alone is the innermost element of the whole tree.
  obtain ⟨top, hTop, hAt⟩ := Option.bind_eq_some_iff.mp hPair.markup
  obtain ⟨topElement, hTopPair⟩ :=
    (aligned_of_ofText hWhole).exists_element ((at?_eq_of_root hTop []).trans rfl)
  have hMoved : top.Innermost (offset + distance - 1) (path ++ inner) (found.moved distance) := by
    rw [Nat.sub_add_comm hPos]
    exact (hInner.moved distance).of_at (Completion.isRead_of_pairs hWhole hTopPair) hAt
  rw [complete_eq_of_innermost hWhole hTop hMoved (pairs_of_alone hWhole hPair hPart hRoot hFound),
    complete_eq_of_innermost hPart hRoot hInner hFound]
  exact Completion.ownAnswer_moved distance element.id element.parent found partner offset hPos

/-- An element that has its end is read and completed in the same way if the rest of the text is taken away. -/
theorem isPart_of_closed (source : String) :
    ∃ whole, ofText source = .ok whole ∧
      ∀ (path : List Nat) (markup : Markup.Element) (element : Document.Element), whole.Pairs path markup element →
        (markup.close.isSome = true ∨ markup.slashClose.isSome = true) →
        ∃ part, ofText (markup.span.textIn source) = .ok part ∧ part.IsPart whole markup element := by
  obtain ⟨whole, hWhole⟩ : ∃ whole, ofText source = .ok whole := ⟨_, ofText_eq source⟩
  refine ⟨whole, hWhole, ?_⟩
  intro path markup element hPair hClosed
  obtain ⟨part, hPart⟩ : ∃ part, ofText (markup.span.textIn source) = .ok part := ⟨_, ofText_eq _⟩
  refine ⟨part, hPart, ?_⟩
  rcases hRead : Markup.Reader.document ⟨0, source.toList⟩ with ⟨tree, last⟩
  have hAt := hPair.markup
  rw [tree_eq_of_ofText hWhole hRead] at hAt
  obtain ⟨_, _, _, hComes, _, hElement⟩ := Markup.Reader.comes_of_at? hRead hAt
  obtain ⟨alone, slice, atEnd, hSlice, hProlog, hMisc, hRoot, hMoved, hSpan⟩ :=
    Markup.Reader.document_slice hComes hElement hClosed
  have hTree : part.tree = slice := by
    have hText : Markup.Reader.document ⟨0, (markup.span.textIn source).toList⟩ = (slice, atEnd) := by
      rw [Span.textIn, String.toList_ofList, hSlice]
    exact tree_eq_of_ofText hPart hText
  rw [← hTree] at hProlog hMisc hRoot hSpan
  have hAligned := aligned_of_ofText hPart
  have hFirst : part.document.root = some 0 := by rw [hAligned.root, hRoot, Option.map_some]
  refine ⟨hProlog, hMisc, by rw [hRoot, Option.map_some, hMoved], hFirst, ?_, by rw [hAligned.span, hSpan], ?_, ?_⟩
  · rw [Document.rootElement?, hFirst, Option.bind_some, Document.element?, elements_eq_rows hPart hRoot,
      Document.rows_eq]
    rfl
  · obtain ⟨before, after, hLength, hElements⟩ := exists_elements_split hWhole hPair
    rw [elements_eq_rows hPart hRoot, ← Document.rows_moved, hMoved, hElements, List.append_assoc,
      List.drop_left' hLength, List.take_left' (Document.length_rows ..)]
  · intro offset hStart hEnd
    obtain ⟨cursor, rfl⟩ := Nat.exists_eq_add_of_lt hStart
    have hContains : alone.span.contains cursor = true := by
      rw [← Span.contains_moved markup.span.startOffset, ← Markup.Element.span_moved, hMoved, Span.contains_iff]
      omega
    have hShift : markup.span.startOffset + cursor + 1 = cursor + 1 + markup.span.startOffset := by omega
    have hPairMoved := hPair
    rw [← hMoved] at hPairMoved
    rw [hShift, Nat.add_sub_cancel]
    exact complete_eq_of_alone hWhole hPairMoved hPart hRoot (Nat.succ_pos cursor) hContains

theorem isPart_of_closed_child : ∃ whole markup element part,
    ofText "<!----><a>t<b k='v'/></a>" = .ok whole ∧ whole.Pairs [0] markup element ∧
      markup.slashClose.isSome = true ∧ ofText "<b k='v'/>" = .ok part ∧ part.IsPart whole markup element := by
  obtain ⟨whole, hWhole, hParts⟩ := isPart_of_closed "<!----><a>t<b k='v'/></a>"
  have hRead : ((ofText "<!----><a>t<b k='v'/></a>").toOption.bind (·.tree.at? [0])).map
      (fun markup => (markup.slashClose.isSome, markup.span)) = some (true, ⟨11, 20⟩) := by
    decide +kernel
  have hText : Span.textIn "<!----><a>t<b k='v'/></a>" ⟨11, 20⟩ = "<b k='v'/>" := by decide +kernel
  rw [hWhole] at hRead
  obtain ⟨markup, hAt, hMarkup⟩ := Option.map_eq_some_iff.mp hRead
  rw [Prod.mk.injEq] at hMarkup
  obtain ⟨element, hPair⟩ := (aligned_of_ofText hWhole).exists_element hAt
  obtain ⟨part, hPart, hIsPart⟩ := hParts [0] markup element hPair (Or.inr hMarkup.1)
  rw [hMarkup.2, hText] at hPart
  exact ⟨whole, markup, element, part, hWhole, hPair, hMarkup.1, hPart, hIsPart⟩

end Snapshot

end ContentAssist
