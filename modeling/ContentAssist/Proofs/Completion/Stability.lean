import ContentAssist.Proofs.Completion.Innermost
import ContentAssist.Proofs.Markup.Insertion

/-! While the name of an element is being typed, the completion does not depend on what follows the cursor. The trail
to the `<` of the name gives the number of the element and of the one around it, and the text up to the cursor fixes
the trail. A tag that is begun in the content of an element is completed as the name of a child. -/
namespace ContentAssist

open Markup (Token Trail Barrier)
open Markup.Reader (ElementRead Comes)

namespace Markup

/-- The first characters of a name are a name. -/
theorem Lexeme.exists_name {text : List Char} {length count : Nat} (hName : nameLength? text = some length)
    (hPos : 0 < count) (hCount : count ≤ length) : ∃ name : Grammar.Name, name.text = text.take count := by
  cases text with
  | nil => cases hName
  | cons c rest =>
      obtain ⟨count, rfl⟩ := Nat.exists_eq_succ_of_ne_zero (Nat.ne_of_gt hPos)
      simp only [nameLength?] at hName
      split at hName
      · rename_i hStart
        cases hName
        refine ⟨⟨c, rest.take count, hStart, ?_⟩, rfl⟩
        intro d hd
        have hTaken : (c :: rest).take (count + 1) = ((c :: rest).takeWhile isNameChar).take (count + 1) := by
          rw [List.prefix_iff_eq_take.mp (List.takeWhile_prefix isNameChar), List.take_take, Nat.min_eq_left hCount]
        have hMem : d ∈ (c :: rest).take (count + 1) := List.mem_cons_of_mem _ hd
        rw [hTaken] at hMem
        exact List.mem_takeWhile_imp (List.mem_of_mem_take hMem)
      · cases hName

/-- A text that starts with a name starts with a name that is at least as long. -/
theorem Lexeme.nameLength?_of_name (name : Grammar.Name) (rest : List Char) :
    ∃ length, nameLength? (name.text ++ rest) = some length ∧ name.text.length ≤ length := by
  have hAll : ∀ c ∈ name.text, isNameChar c = true := by
    rw [Grammar.Name.text, List.forall_mem_cons]
    exact ⟨isNameChar_of_isNameStart name.starts, name.continues⟩
  refine ⟨((name.text ++ rest).takeWhile isNameChar).length, if_pos name.starts, ?_⟩
  rw [List.takeWhile_append_of_pos hAll, List.length_append]
  exact Nat.le_add_right _ _

/-- The name of an element stands directly behind its `<`. -/
theorem Reader.startTag_name {input next : Input} {start : StartTag} (hRead : startTag input = (start, next)) :
    start.name = (Lexeme.nameLength? (input.rest.drop 1)).map fun length =>
      Token.ofImage .name (String.ofList ((input.rest.drop 1).take length)) (input.offset + 1) := by
  obtain ⟨afterName, _, _, _, _, _, hName, _⟩ := startTag_steps hRead
  have hSlot : start.name = _ := (congrArg Prod.fst hName).symm
  rw [hSlot, Input.name?]
  simp only [Input.token, Input.skip]
  cases Lexeme.nameLength? (input.rest.drop 1) <;> rfl

theorem Reader.ElementRead.name {input next : Input} {element : Element} (hRead : ElementRead input element next) :
    element.name = (Lexeme.nameLength? (input.rest.drop 1)).map fun length =>
      Token.ofImage .name (String.ofList ((input.rest.drop 1).take length)) (input.offset + 1) := by
  cases hRead with
  | bare hStart _ => exact startTag_name hStart
  | enclosing hStart _ _ _ => exact startTag_name hStart

end Markup

namespace Completion

/-- Behind the first characters of its name, an element is asked for a name that starts with them. -/
theorem ownAnswer_of_name {source rest : List Char} {here next : Markup.Input} {markup : Markup.Element}
    (h : here.Within source) (hRead : ElementRead here markup next) (name : Markup.Grammar.Name)
    (hRest : here.rest = '<' :: (name.text ++ rest)) (element : Document.Element) :
    Owns markup (here.offset + 1 + name.text.length) ∧
      ownAnswer markup element (here.offset + 1 + name.text.length) =
        some ⟨.elementName, element, none, none, some (String.ofList name.text)⟩ := by
  have hNonempty : here.rest ≠ [] := by simp [hRest]
  have hLaid := (Markup.Reader.IsRead.laidOut ⟨here, next, h, hNonempty, hRead⟩)
  obtain ⟨opening, hOpening, hWidth, hStart⟩ := hLaid.startOffset
  obtain ⟨length, hLength, hLe⟩ := Markup.Lexeme.nameLength?_of_name name rest
  have hName := hRead.name
  rw [hRest, List.drop_succ_cons, List.drop_zero, hLength, Option.map_some] at hName
  have hPos : 0 < name.text.length := Nat.succ_pos _
  have hInName : inName markup element (here.offset + 1 + name.text.length) =
      some ⟨.elementName, element, none, none, some (String.ofList name.text)⟩ := by
    rw [inName_eq_some_iff]
    have hBound := (Markup.Lexeme.nameLength?_bounds hLength).2
    refine ⟨_, (Markup.present_eq_some_iff ..).mpr ⟨hName, rfl⟩, ?_, ?_, ?_⟩
    · simp only [Token.ofImage]
      omega
    · simp only [Token.ofImage, String.length_ofList, List.length_take, Nat.min_eq_left hBound]
      omega
    · simp only [Token.ofImage, firstChars, String.toList_ofList, List.take_take, Nat.add_sub_cancel_left,
        Nat.min_eq_left hLe, List.take_left]
  have hNotAfterOpen : afterOpen markup element (here.offset + 1 + name.text.length) = none := by
    cases hAnswer : afterOpen markup element (here.offset + 1 + name.text.length) with
    | none => rfl
    | some context =>
        obtain ⟨first, hFirst, hEnd, _⟩ := afterOpen_eq_some_iff.mp hAnswer
        rw [Markup.present_eq_some_iff, hOpening, Option.some.injEq] at hFirst
        have hFrom := hRead.startOffset
        obtain ⟨rfl, _⟩ := hFirst
        omega
  refine ⟨owns_of_inName hLaid hInName, ?_⟩
  simp only [ownAnswer, List.findSome?_cons, hNotAfterOpen, hInName]

/-- An element name of which something is typed is the name of the element that answers. -/
theorem inName_of_ownAnswer {markup : Markup.Element} {element : Document.Element} {offset : Nat} {context : Context}
    {typed : String} (hAnswer : ownAnswer markup element offset = some context) (hKind : context.kind = .elementName)
    (hTyped : context.typed = some typed) : inName markup element offset = some context := by
  rcases ownAnswer_cases hAnswer with hRule | hRule | hRule | hRule | hRule
  · obtain ⟨_, _, _, rfl⟩ := afterOpen_eq_some_iff.mp hRule
    cases hTyped
  · exact hRule
  · obtain ⟨_, _, _, _, _, hValue | hKey⟩ := exists_of_inAttributes_eq_some hRule
    · obtain ⟨_, _, _, _, rfl⟩ := inValue_eq_some_iff.mp hValue
      cases hKind
    · obtain ⟨_, _, _, _, rfl⟩ := onKey_eq_some_iff.mp hKey
      cases hKind
  · obtain ⟨_, _, _, _, _, _, _, rfl⟩ := newAttribute_eq_some_iff.mp hRule
    cases hKind
  · obtain ⟨_, _, _, _, _, _, ⟨_, rfl⟩ | ⟨_, _, _, _, rfl⟩⟩ := inContent_cases hRule
    all_goals cases hKind

end Completion

namespace Snapshot

variable {source : String} {snapshot : Snapshot} {trail : Trail} {here : Markup.Input} {offset : Nat}

/-- The trail to an element gives its number and that of the element around it. -/
theorem exists_pair_of_comes (hSnapshot : ofText source = .ok snapshot) (hComes : Comes source.toList trail here) :
    ∃ markup element after, ElementRead here markup after ∧ snapshot.Pairs trail.path markup element ∧
      element.id = trail.number ∧ element.parent = trail.parent? := by
  have hAligned := aligned_of_ofText hSnapshot
  rcases hRead : Markup.Reader.document ⟨0, source.toList⟩ with ⟨tree, last⟩
  have hTree := tree_eq_of_ofText hSnapshot hRead
  obtain ⟨markup, after, hElement, hAt, hNumber⟩ := hComes.exists_element hRead
  rw [← hTree] at hAt hNumber
  obtain ⟨element, hPair⟩ := hAligned.exists_element hAt
  have hRepeats := hAligned.repeats hPair
  refine ⟨markup, element, after, hElement, hPair, hRepeats.id.trans hNumber, ?_⟩
  rcases List.eq_nil_or_concat' trail with rfl | ⟨outer, passed, rfl⟩
  · exact hRepeats.rootParent rfl
  · obtain ⟨up, around, hParent, hEntry⟩ := hRepeats.parent (Trail.path outer) _ (Trail.path_append outer [passed])
    obtain ⟨middle, hOuter⟩ := hComes.split
    obtain ⟨_, _, _, _, hUp⟩ := hOuter.exists_element hRead
    rw [← hTree] at hUp
    rw [hParent, Trail.parent?_concat, ← hUp, ((Markup.Tree.getElem?_outline_iff ..).mp hEntry).2]

/-- Where the reader comes to an element that starts with a name, this name is being completed behind it. -/
theorem complete_of_comes {rest : List Char} (hSnapshot : ofText source = .ok snapshot)
    (hComes : Comes source.toList trail here) (name : Markup.Grammar.Name)
    (hRest : here.rest = '<' :: (name.text ++ rest)) :
    ∃ element, snapshot.complete (here.offset + 1 + name.text.length) =
        some ⟨.elementName, element, none, none, some (String.ofList name.text)⟩ ∧
      element.id = trail.number ∧ element.parent = trail.parent? := by
  obtain ⟨markup, element, after, hRead, hPair, hId, hParent⟩ := exists_pair_of_comes hSnapshot hComes
  obtain ⟨hOwns, hAnswer⟩ := Completion.ownAnswer_of_name hComes.within.1 hRead name hRest element
  exact ⟨element, (complete_eq_of_owns hSnapshot hPair hOwns).trans hAnswer, hId, hParent⟩

/-- Where an element name is being completed, the reader comes to an element that starts with it. -/
theorem exists_comes_of_complete {context : Completion.Context} {typed : String}
    (hSnapshot : ofText source = .ok snapshot) (hComplete : snapshot.complete offset = some context)
    (hKind : context.kind = .elementName) (hTyped : context.typed = some typed) :
    ∃ (trail : Trail) (here : Markup.Input) (name : Markup.Grammar.Name) (rest : List Char),
      Comes source.toList trail here ∧ here.rest = '<' :: (name.text ++ rest) ∧
        offset = here.offset + 1 + name.text.length := by
  obtain ⟨path, markup, element, hPair, hAnswer⟩ := exists_ownAnswer_of_complete hSnapshot hComplete
  have hInName := Completion.inName_of_ownAnswer hAnswer hKind hTyped
  obtain ⟨token, hToken, hFrom, hTo, _⟩ := Completion.inName_eq_some_iff.mp hInName
  rcases hRead : Markup.Reader.document ⟨0, source.toList⟩ with ⟨tree, last⟩
  have hAt := hPair.markup
  rw [tree_eq_of_ofText hSnapshot hRead] at hAt
  obtain ⟨trail, here, after, hComes, _, hElement⟩ := Markup.Reader.comes_of_at? hRead hAt
  obtain ⟨body, hBody⟩ : ∃ body, here.rest = '<' :: body := by
    obtain ⟨body, hBody⟩ := List.isPrefixOf_iff_prefix.mp hComes.angle
    exact ⟨body, hBody.symm⟩
  have hName := hElement.name
  rw [((Markup.present_eq_some_iff ..).mp hToken).1, hBody, List.drop_succ_cons, List.drop_zero] at hName
  obtain ⟨length, hLength, rfl⟩ := Option.map_eq_some_iff.mp hName.symm
  obtain ⟨hPos, hBound⟩ := Markup.Lexeme.nameLength?_bounds hLength
  simp only [Token.ofImage, String.length_ofList, List.length_take, Nat.min_eq_left hBound] at hFrom hTo
  have hSome : 0 < offset - (here.offset + 1) := by omega
  obtain ⟨name, hText⟩ := Markup.Lexeme.exists_name hLength hSome (by omega)
  refine ⟨trail, here, name, body.drop (offset - (here.offset + 1)), hComes, ?_, ?_⟩
  · rw [hText, List.take_append_drop, hBody]
  · rw [hText, List.length_take]
    omega

theorem barrier_of_name (name : Markup.Grammar.Name) (rest : List Char) : Barrier ('<' :: (name.text ++ rest)) :=
  Or.inr ⟨name.first, name.others ++ rest, rfl, name.starts⟩

/-- While the name of an element is being typed, what follows the cursor has no influence: whatever it is, the same
name is being completed, of the element with the same number inside the element with the same number. -/
theorem elementName_eq_of_text_before (before first second : String) :
    ∃ one other, ofText (before ++ first) = .ok one ∧ ofText (before ++ second) = .ok other ∧
      ∀ (context : Completion.Context) (typed : String), one.complete before.length = some context →
        context.kind = .elementName → context.typed = some typed →
        ∃ found, other.complete before.length = some found ∧ found.kind = .elementName ∧
          found.typed = some typed ∧ found.element.id = context.element.id ∧
          found.element.parent = context.element.parent := by
  obtain ⟨one, hOne⟩ : ∃ one, ofText (before ++ first) = .ok one := ⟨_, ofText_eq _⟩
  obtain ⟨other, hOther⟩ : ∃ other, ofText (before ++ second) = .ok other := ⟨_, ofText_eq _⟩
  refine ⟨one, other, hOne, hOther, ?_⟩
  intro context typed hComplete hKind hTyped
  obtain ⟨trail, here, name, rest, hComes, hRest, hCursor⟩ := exists_comes_of_complete hOne hComplete hKind hTyped
  obtain ⟨element, hFirst, hId, hParent⟩ := complete_of_comes hOne hComes name hRest
  -- The other text is the first one up to the `<`, and goes on with the same name.
  have hSplit : (before ++ second).toList =
      (before ++ first).toList.take here.offset ++ '<' :: (name.text ++ second.toList) := by
    have hBefore : before.toList = (before ++ first).toList.take (here.offset + (name.text.length + 1)) := by
      rw [String.toList_append, ← Nat.add_assoc, Nat.add_right_comm, ← hCursor, ← String.length_toList,
        List.take_left]
    rw [List.take_add, ← hComes.within.1.rest, hRest, List.take_succ_cons, List.take_left] at hBefore
    rw [String.toList_append, hBefore, List.append_assoc, List.cons_append]
  have hCut := hComes.cut (barrier_of_name name second.toList) (List.cons_ne_nil _ _) le_rfl hComes.within.1.offset
  rw [← hSplit, Markup.Input.cut_of_le le_rfl] at hCut
  obtain ⟨found, hSecond, hFoundId, hFoundParent⟩ := complete_of_comes hOther hCut name rfl
  rw [← hCursor, hComplete, Option.some.injEq] at hFirst
  subst hFirst
  refine ⟨⟨.elementName, found, none, none, some (String.ofList name.text)⟩, ?_, rfl, hTyped, ?_, ?_⟩
  · rw [hCursor]
    exact hSecond
  · exact hFoundId.trans hId.symm
  · exact hFoundParent.trans hParent.symm

theorem elementName_eq_of_text_before_end : ∃ other found, ofText "<a><pe" = .ok other ∧
    other.complete 6 = some found ∧ found.kind = .elementName ∧ found.typed = some "pe" ∧ found.element.id = 1 ∧
      found.element.parent = some 0 := by
  obtain ⟨one, other, hOne, hOther, hSame⟩ := elementName_eq_of_text_before "<a><pe" "r/></a>" ""
  have hFirst : ((ofText ("<a><pe" ++ "r/></a>")).toOption.bind (·.complete 6)).map
      (fun context => (context.kind, context.typed, context.element.id, context.element.parent)) =
        some (.elementName, some "pe", 1, some 0) := by
    decide +kernel
  rw [hOne] at hFirst
  obtain ⟨context, hComplete, hContext⟩ := Option.map_eq_some_iff.mp hFirst
  simp only [Prod.mk.injEq] at hContext
  obtain ⟨hKind, hTyped, hId, hParent⟩ := hContext
  obtain ⟨found, hFound, hFoundKind, hFoundTyped, hFoundId, hFoundParent⟩ :=
    hSame context "pe" hComplete hKind hTyped
  exact ⟨other, found, hOther, hFound, hFoundKind, hFoundTyped, hFoundId.trans hId, hFoundParent.trans hParent⟩

/-- A tag that is begun in the content of an element, between two parts or inside a run of text, is completed as the
name of a child of this element. The element is the deepest with the place between its tags; a comment, section or
instruction directly before the place must have its end. -/
theorem complete_begun_tag (before after : String) (name : Markup.Grammar.Name) :
    ∃ old new, ofText (before ++ after) = .ok old ∧
      ofText (before ++ "<" ++ String.ofList name.text ++ after) = .ok new ∧
      ∀ (path : List Nat) (markup : Markup.Element) (element : Document.Element), old.Pairs path markup element →
        markup.HasInBody (before ++ after).length before.length →
        (∀ other around, old.tree.at? other = some around →
          around.HasInBody (before ++ after).length before.length → other.length ≤ path.length) →
        markup.IsBetweenParts before.length →
        ((∃ part ∈ markup.parts, part.isDelimited = true ∧ part.span.endOffset + 1 = before.length) → after ≠ "") →
        ∃ child, new.complete (before.length + 1 + name.text.length) =
            some ⟨.elementName, child, none, none, some (String.ofList name.text)⟩ ∧
          child.parent = some element.id := by
  obtain ⟨old, hOld⟩ : ∃ old, ofText (before ++ after) = .ok old := ⟨_, ofText_eq _⟩
  obtain ⟨new, hNew⟩ : ∃ new, ofText (before ++ "<" ++ String.ofList name.text ++ after) = .ok new := ⟨_, ofText_eq _⟩
  refine ⟨old, new, hOld, hNew, ?_⟩
  intro path markup element hPair hBody hDeepest hBetween hTerminated
  rcases hRead : Markup.Reader.document ⟨0, (before ++ after).toList⟩ with ⟨tree, last⟩
  have hAt := hPair.markup
  rw [tree_eq_of_ofText hOld hRead] at hAt
  obtain ⟨trail, here, next, hComes, rfl, hElement⟩ := Markup.Reader.comes_of_at? hRead hAt
  have hId : element.id = trail.number := by
    rw [((aligned_of_ofText hOld).repeats hPair).id, tree_eq_of_ofText hOld hRead]
    exact (hComes.at? hRead hElement).2
  have hChildren : ∀ child ∈ markup.children, ¬ child.HasInBody (before ++ after).toList.length before.length := by
    intro child hChild hInBody
    obtain ⟨index, hIndex⟩ := List.getElem?_of_mem hChild
    obtain ⟨_, _, hDown⟩ := (aligned_of_ofText hOld).exists_subElement hPair hIndex
    rw [String.length_toList] at hInBody
    have hLe := hDeepest _ child hDown.markup hInBody
    rw [List.length_append] at hLe
    exact absurd hLe (Nat.not_succ_le_self _)
  have hEnded : ∀ part ∈ markup.parts, part.isDelimited = true → part.span.endOffset + 1 = before.length →
      before.length < (before ++ after).toList.length := by
    intro part hPart hDelimited hEnd
    have hAfter := hTerminated ⟨part, hPart, hDelimited, hEnd⟩
    have hPos : 0 < after.length := Nat.pos_of_ne_zero fun hZero => hAfter (String.length_eq_zero_iff.mp hZero)
    rw [String.length_toList, String.length_append]
    omega
  obtain ⟨passed, hInserted⟩ := hComes.insert (barrier_of_name name after.toList) (List.cons_ne_nil _ _) hElement
    (by rwa [String.length_toList]) hBetween hEnded hChildren
  have hSplit : (before ++ "<" ++ String.ofList name.text ++ after).toList =
      (before ++ after).toList.take before.length ++ '<' :: (name.text ++ after.toList) := by
    simp [← String.length_toList]
  rw [← hSplit] at hInserted
  obtain ⟨child, hComplete, _, hParent⟩ := complete_of_comes hNew hInserted name rfl
  exact ⟨child, hComplete, by rw [hParent, Trail.parent?_concat, hId]⟩

theorem complete_begun_tag_in_text : ∃ new child, ofText "<a>x<by</a>" = .ok new ∧
    new.complete 6 = some ⟨.elementName, child, none, none, some "b"⟩ ∧ child.parent = some 0 := by
  obtain ⟨old, new, hOld, hNew, hBegun⟩ :=
    complete_begun_tag "<a>x" "y</a>" ⟨'b', [], by decide +kernel, by simp⟩
  have hRead : ((ofText ("<a>x" ++ "y</a>")).toOption.bind (·.tree.at? [])).map
      (fun markup => (markup.startClose.map (·.span.endOffset), markup.slashOpen.map (·.span.startOffset),
        markup.parts.all (·.isText), markup.children.length)) = some (some 2, some 5, true, 0) := by
    decide +kernel
  rw [hOld] at hRead
  obtain ⟨markup, hAt, hMarkup⟩ := Option.map_eq_some_iff.mp hRead
  simp only [Prod.mk.injEq, List.all_eq_true] at hMarkup
  obtain ⟨hOpen, hClose, hTexts, hChildren⟩ := hMarkup
  obtain ⟨element, hPair⟩ := (aligned_of_ofText hOld).exists_element hAt
  obtain ⟨root, hRoot, hSame⟩ := Option.bind_eq_some_iff.mp hPair.markup
  rw [Option.some.inj hSame] at hRoot
  have hId : element.id = 0 := by
    rw [((aligned_of_ofText hOld).repeats hPair).id, number_eq_of_root hRoot, Markup.Element.number_nil]
  have hBody : markup.HasInBody ("<a>x" ++ "y</a>").length "<a>x".length := by
    obtain ⟨close, hStart, hEnd⟩ := Option.map_eq_some_iff.mp hOpen
    exact ⟨⟨close, hStart, by rw [hEnd]; decide⟩, by rw [hClose]; decide⟩
  have hDeepest : ∀ other around, old.tree.at? other = some around →
      around.HasInBody ("<a>x" ++ "y</a>").length "<a>x".length → other.length ≤ 0 := by
    intro other around hOther _
    cases other with
    | nil => exact le_rfl
    | cons index rest =>
        rw [at?_eq_of_root hRoot, Markup.Element.at?, List.length_eq_zero_iff.mp hChildren] at hOther
        cases hOther
  have hBetween : markup.IsBetweenParts "<a>x".length := by
    intro part hPart hNot
    rw [hTexts part hPart] at hNot
    cases hNot
  obtain ⟨child, hComplete, hParent⟩ :=
    hBegun [] markup element hPair hBody hDeepest hBetween fun _ => by decide
  exact ⟨new, child, hNew, hComplete, hParent.trans (congrArg some hId)⟩

end Snapshot

end ContentAssist
