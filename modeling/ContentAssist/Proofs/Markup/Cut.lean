import ContentAssist.Proofs.Markup.Barrier
import ContentAssist.Proofs.Markup.Reading

/-! Reading a text whose end was replaced by a barrier. Whatever consists of tokens that end before the barrier is
read as before: attributes, tags and the parts of content. The place behind it may have moved back to the barrier,
if only characters that belong to no token came in between. -/
namespace ContentAssist.Markup

/-- The same place in the text whose end, from `stop` on, was replaced by `tail`. A place behind `stop` becomes
`stop`. -/
def Input.cut (stop : Nat) (tail : List Char) (input : Input) : Input :=
  ⟨min input.offset stop, input.rest.take (stop - input.offset) ++ tail⟩

/-- All tokens end before the place. -/
def EndBefore (stop : Nat) (tokens : List Token) : Prop :=
  ∀ token ∈ tokens, token.span.endOffset < stop

variable {source tail : List Char} {stop : Nat} {input next : Input}

theorem endBefore_append {first second : List Token} :
    EndBefore stop (first ++ second) ↔ EndBefore stop first ∧ EndBefore stop second :=
  List.forall_mem_append

namespace Input

theorem cut_of_le (h : stop ≤ input.offset) : input.cut stop tail = ⟨stop, tail⟩ := by
  simp [cut, Nat.min_eq_right h, Nat.sub_eq_zero_of_le h]

theorem cut_rest_cons {c : Char} {rest : List Char} (hRest : input.rest = c :: rest) (hStop : input.offset < stop)
    (tail : List Char) :
    (input.cut stop tail).rest = c :: (rest.take (stop - input.offset - 1) ++ tail) := by
  obtain ⟨kept, hKept⟩ := Nat.exists_eq_succ_of_ne_zero (Nat.sub_ne_zero_of_lt hStop)
  simp [Input.cut, hRest, hKept]

theorem Within.cut (h : input.Within source) (tail : List Char) (hStop : stop ≤ source.length) :
    (input.cut stop tail).Within (source.take stop ++ tail) := by
  constructor
  · simp only [Input.cut, h.rest]
    by_cases hLe : input.offset ≤ stop
    · rw [Nat.min_eq_left hLe, List.drop_append_of_le_length (by rw [List.length_take]; omega), List.drop_take]
    · rw [Nat.min_eq_right (by omega), List.drop_append_of_le_length (by rw [List.length_take]; omega), List.drop_take,
        Nat.sub_eq_zero_of_le (by omega : stop ≤ input.offset), Nat.sub_self, List.take_zero, List.take_zero]
  · simp only [Input.cut, List.length_append, List.length_take]
    omega

/-- Every place is a place in some text. -/
theorem exists_within (input : Input) : ∃ source, input.Within source := by
  refine ⟨List.replicate input.offset ' ' ++ input.rest, ?_, ?_⟩
  · rw [List.drop_left' List.length_replicate]
  · simp

/-- Skipping stops at the cut. -/
theorem skip_cut (stop : Nat) (tail : List Char) {count : Nat} (hCount : count ≤ input.rest.length) :
    (input.cut stop tail).skip (min (stop - input.offset) count) = (input.skip count).cut stop tail := by
  simp only [Input.cut, skip, Input.mk.injEq]
  refine ⟨by omega, ?_⟩
  rw [List.drop_append_of_le_length (by rw [List.length_take]; omega), List.drop_take]
  by_cases hLe : count ≤ stop - input.offset
  · rw [Nat.min_eq_right hLe, Nat.sub_sub]
  · rw [Nat.min_eq_left (by omega), Nat.sub_self, show stop - (input.offset + count) = 0 by omega, List.take_zero,
      List.take_zero]

theorem token_cut (tail : List Char) (kind : TokenKind) {count : Nat} (hCount : count ≤ input.rest.length)
    (hStop : input.offset + count ≤ stop) :
    (input.cut stop tail).token kind count =
      ((input.token kind count).1, (input.token kind count).2.cut stop tail) := by
  have hSkip := skip_cut stop tail hCount
  rw [Nat.min_eq_right (by omega)] at hSkip
  have hTake : (input.cut stop tail).rest.take count = input.rest.take count := by
    simp only [Input.cut]
    rw [List.take_append_of_le_length (by rw [List.length_take]; omega), List.take_take, Nat.min_eq_left (by omega)]
  have hOffset : (input.cut stop tail).offset = input.offset := Nat.min_eq_left (by omega)
  simp only [token, hSkip, hTake, hOffset]

/-- A token that ends before the cut lies before it. -/
theorem offset_add_le {kind : TokenKind} {count : Nat} (hPos : 0 < count) (hCount : count ≤ input.rest.length)
    (hBefore : EndBefore stop [(input.token kind count).1]) : input.offset + count ≤ stop := by
  have hEnd := hBefore _ (List.mem_singleton_self _)
  have hTo : _ = input.offset + count := (token_bounds kind hPos hCount).2
  omega

theorem skipBlanks_cut (hTail : Barrier tail) :
    (input.cut stop tail).skipBlanks = input.skipBlanks.cut stop tail := by
  rw [skipBlanks, skipBlanks, ← skip_cut _ _ (Lexeme.blankLength_le _)]
  simp only [Input.cut, Lexeme.blankLength_cut hTail]

theorem startsWith_cut {word : String} (hTail : Barrier tail) (hWord : barred word = true) (hNonempty : 0 < word.length)
    (input : Input) (stop : Nat) : (input.cut stop tail).startsWith word =
      (input.startsWith word && input.offset + word.length ≤ stop) := by
  have hCut : (input.cut stop tail).startsWith word = _ := Lexeme.startsWith_cut hTail hWord _ _
  rw [hCut]
  congr 1
  rw [decide_eq_decide]
  omega

theorem word?_cut {kind : TokenKind} {word : String} {slot : Option Token} (hTail : Barrier tail)
    (hWord : barred word = true) (hNonempty : 0 < word.length) (hRead : input.word? kind word = (slot, next))
    (hBefore : EndBefore stop slot.toList) : (input.cut stop tail).word? kind word = (slot, next.cut stop tail) := by
  unfold word? at hRead ⊢
  split at hRead
  · rename_i hStarts
    cases hRead
    have hCount := Lexeme.length_le_of_startsWith hStarts
    have hStop := offset_add_le hNonempty hCount hBefore
    have hCut := startsWith_cut hTail hWord hNonempty input stop
    rw [hStarts, decide_eq_true hStop, Bool.and_true] at hCut
    rw [if_pos hCut, token_cut tail kind hCount hStop]
    rfl
  · rename_i hStarts
    cases hRead
    have hCut := startsWith_cut hTail hWord hNonempty input stop
    rw [Bool.eq_false_iff.mpr hStarts, Bool.false_and] at hCut
    rw [if_neg (by simp [hCut])]

/-- A word that comes next is taken, so it ends before the cut if its token does. -/
theorem word?_fits {kind : TokenKind} {word : String} {slot : Option Token} (hNonempty : 0 < word.length)
    (hRead : input.word? kind word = (slot, next)) (hBefore : EndBefore stop slot.toList)
    (hStarts : input.startsWith word = true) : input.offset + word.length ≤ stop := by
  rw [word?, if_pos hStarts, Prod.mk.injEq] at hRead
  rw [← hRead.1] at hBefore
  exact offset_add_le hNonempty (Lexeme.length_le_of_startsWith hStarts) hBefore

theorem name?_cut {slot : Option Token} (hTail : Barrier tail) (hRead : input.name? = (slot, next))
    (hBefore : EndBefore stop slot.toList) : (input.cut stop tail).name? = (slot, next.cut stop tail) := by
  unfold name? at hRead ⊢
  split at hRead
  · rename_i length hName
    cases hRead
    have hBounds := Lexeme.nameLength?_bounds hName
    have hStop := offset_add_le hBounds.1 hBounds.2 hBefore
    have hCut : Lexeme.nameLength? (input.cut stop tail).rest = some length :=
      Lexeme.nameLength?_cut_some hTail hName (by omega)
    simp only [hCut, token_cut tail .name hBounds.2 hStop]
    rfl
  · rename_i hName
    cases hRead
    have hCut : Lexeme.nameLength? (input.cut stop tail).rest = none := Lexeme.nameLength?_cut_none hTail hName _
    simp only [hCut]

end Input

namespace Reader

theorem value?_cut {slot : Option Token} (hTail : Barrier tail) (hRead : value? input = (slot, next))
    (hBefore : EndBefore stop slot.toList) :
    value? (input.cut stop tail) = (slot, next.cut stop tail) := by
  have hCut : Lexeme.quotedLength? (input.cut stop tail).rest = _ := Lexeme.quotedLength?_cut hTail _ _
  unfold value? at hRead ⊢
  split at hRead
  · rename_i length hQuoted
    cases hRead
    have hBounds := Lexeme.quotedLength?_bounds hQuoted
    have hStop := Input.offset_add_le (by omega) hBounds.2 hBefore
    rw [hQuoted, Option.filter_some, if_pos (decide_eq_true (by omega))] at hCut
    simp only [hCut, Input.token_cut tail .string hBounds.2 hStop]
    rfl
  · rename_i hQuoted
    rw [hQuoted, Option.filter_none] at hCut
    simp only [hCut]
    have hDouble : (input.cut stop tail).startsWith "\"" = (input.startsWith "\"" && input.offset + 1 ≤ stop) :=
      Input.startsWith_cut hTail (by decide) (by decide) input stop
    have hSingle : (input.cut stop tail).startsWith "'" = (input.startsWith "'" && input.offset + 1 ≤ stop) :=
      Input.startsWith_cut hTail (by decide) (by decide) input stop
    rw [hDouble, hSingle, ← Bool.and_or_distrib_right]
    split at hRead
    · rename_i hQuote
      cases hRead
      rw [hQuote, Bool.true_and]
      split
      · rename_i hStop
        have hRest : 1 ≤ input.rest.length := by
          rcases Bool.or_eq_true_iff.mp hQuote with hWord | hWord
          all_goals exact Lexeme.length_le_of_startsWith hWord
        have hSkip := Input.skip_cut stop tail hRest
        rw [Nat.min_eq_right (Nat.le_sub_of_add_le' (of_decide_eq_true hStop))] at hSkip
        rw [hSkip]
      · rename_i hStop
        have hPast : stop ≤ input.offset := by
          simp only [decide_eq_true_eq] at hStop
          omega
        rw [Input.cut_of_le hPast, Input.cut_of_le (hPast.trans (Nat.le_add_right _ _))]
    · rename_i hQuote
      cases hRead
      rw [Bool.eq_false_iff.mpr hQuote, Bool.false_and]
      rfl

/-- An attribute that ends before the cut is read as before. -/
theorem singleAttribute_cut {attr : Attribute} (hTail : Barrier tail) (hRead : singleAttribute input = (attr, next))
    (hBefore : EndBefore stop attr.tokens) (hOffset : input.offset ≤ stop) :
    singleAttribute (input.cut stop tail) = (attr, next.cut stop tail) := by
  obtain ⟨afterName, afterEquals, hName, hEquals, hValue, hSpan⟩ := singleAttribute_steps hRead
  rw [Attribute.tokens, endBefore_append, endBefore_append] at hBefore
  obtain ⟨⟨hNameBefore, hEqualsBefore⟩, hStringBefore⟩ := hBefore
  have hNamed := Input.name?_cut hTail hName hNameBefore
  have hSigned := Input.word?_cut hTail (by decide) (by decide) hEquals hEqualsBefore
  have hStart : (input.cut stop tail).offset = input.offset := Nat.min_eq_left hOffset
  obtain ⟨name, equals, string, span⟩ := attr
  simp only at hEquals hValue hSpan hNamed hSigned hStringBefore
  rcases hValue with ⟨hSome, hString⟩ | ⟨rfl, rfl, rfl⟩
  · obtain ⟨sign, rfl⟩ := Option.isSome_iff_exists.mp hSome
    have hQuoted := value?_cut hTail hString hStringBefore
    simp only [singleAttribute, hNamed, Input.skipBlanks_cut hTail, hSigned, hQuoted, hStart, hSpan]
  · simp only [singleAttribute, hNamed, Input.skipBlanks_cut hTail, hSigned, hStart, hSpan]

/-- Reading the attributes of a tag, without a budget of steps. -/
inductive AttributesRead (atEnd : List Char → Bool) : Input → List Attribute → Input → Prop
  | done {input : Input} (hEnd : input.skipBlanks.rest = [] ∨ atEnd input.skipBlanks.rest = true) :
      AttributesRead atEnd input [] input.skipBlanks
  | attr {input next last : Input} {c : Char} {rest : List Char} {first : Attribute} {others : List Attribute}
      (hRest : input.skipBlanks.rest = c :: rest) (hEnd : atEnd (c :: rest) = false)
      (hName : Lexeme.isNameStart c = true) (hFirst : singleAttribute input.skipBlanks = (first, next))
      (hOthers : AttributesRead atEnd next others last) : AttributesRead atEnd input (first :: others) last
  /-- A character that starts no attribute is passed over. -/
  | pass {input last : Input} {c : Char} {rest : List Char} {others : List Attribute}
      (hRest : input.skipBlanks.rest = c :: rest) (hEnd : atEnd (c :: rest) = false)
      (hName : Lexeme.isNameStart c = false) (hOthers : AttributesRead atEnd (input.skipBlanks.skip 1) others last) :
      AttributesRead atEnd input others last

theorem skipBlanks_rest_le (h : input.Within source) : input.skipBlanks.rest.length ≤ input.rest.length := by
  have hBlanks := Input.skipBlanks_passes h
  have hFrom := h.length
  have hTo := hBlanks.within.length
  have hForward := hBlanks.laid.le
  omega

/-- An attribute takes at least its name. -/
theorem singleAttribute_rest_lt {c : Char} {rest : List Char} {attr : Attribute} (h : input.Within source)
    (hRest : input.rest = c :: rest) (hName : Lexeme.isNameStart c = true)
    (hRead : singleAttribute input = (attr, next)) : next.rest.length < input.rest.length :=
  (singleAttribute_passes h hRead).rest_lt h (singleAttribute_laidOut h hRest hName hRead).span.ne_nil

/-- A budget of more steps than there are characters suffices. -/
theorem attributesRead_of_budget (atEnd : List Char → Bool) {budget : Nat} (h : input.Within source)
    (hBudget : input.rest.length < budget) :
    AttributesRead atEnd input (attributes atEnd budget input).1 (attributes atEnd budget input).2 := by
  induction budget generalizing input with
  | zero => exact absurd hBudget (Nat.not_lt_zero _)
  | succ budget ih =>
      have hBlanks := Input.skipBlanks_passes h
      have hShorter := skipBlanks_rest_le h
      simp only [attributes]
      split
      · rename_i hRest
        exact .done (Or.inl hRest)
      · rename_i c rest hRest
        split
        · rename_i hEnd
          exact .done (Or.inr hEnd)
        · rename_i hEnd
          rw [hRest, Bool.not_eq_true] at hEnd
          split
          · rename_i hName
            have hLess := singleAttribute_rest_lt hBlanks.within hRest hName rfl
            have hFirst := singleAttribute_passes hBlanks.within rfl
            exact .attr hRest hEnd hName rfl (ih hFirst.within (by omega))
          · rename_i hName
            have hSkip := Input.skip_passes hBlanks.within 1 (by simp [hRest])
            have hLess : (input.skipBlanks.skip 1).rest.length < input.skipBlanks.rest.length := by
              simp [Input.skip, hRest]
            exact .pass hRest hEnd (Bool.eq_false_iff.mpr hName) (ih hSkip.within (by omega))

theorem AttributesRead.attributes_eq {atEnd : List Char → Bool} {budget : Nat} {attrs : List Attribute} {last : Input}
    (hRead : AttributesRead atEnd input attrs last) (h : input.Within source) (hBudget : input.rest.length < budget) :
    attributes atEnd budget input = (attrs, last) := by
  induction hRead generalizing budget with
  | @done input hEnd =>
      obtain ⟨budget, rfl⟩ := Nat.exists_eq_succ_of_ne_zero (Nat.ne_of_gt ((Nat.zero_le _).trans_lt hBudget))
      simp only [attributes]
      split
      · rfl
      · rename_i c rest hRest
        rw [hRest] at hEnd ⊢
        simp only [reduceCtorEq, false_or] at hEnd
        rw [if_pos hEnd]
  | @attr input next last c rest first others hRest hEnd hName hFirst hOthers ih =>
      obtain ⟨budget, rfl⟩ := Nat.exists_eq_succ_of_ne_zero (Nat.ne_of_gt ((Nat.zero_le _).trans_lt hBudget))
      have hBlanks := Input.skipBlanks_passes h
      have hShorter := skipBlanks_rest_le h
      have hLess := singleAttribute_rest_lt hBlanks.within hRest hName hFirst
      have hLater := ih (singleAttribute_passes hBlanks.within hFirst).within (show next.rest.length < budget by omega)
      simp [attributes, hRest, hEnd, hName, hFirst, hLater]
  | @pass input last c rest others hRest hEnd hName hOthers ih =>
      obtain ⟨budget, rfl⟩ := Nat.exists_eq_succ_of_ne_zero (Nat.ne_of_gt ((Nat.zero_le _).trans_lt hBudget))
      have hBlanks := Input.skipBlanks_passes h
      have hShorter := skipBlanks_rest_le h
      have hSkip := Input.skip_passes hBlanks.within 1 (by simp [hRest])
      have hLess : (input.skipBlanks.skip 1).rest.length < input.skipBlanks.rest.length := by
        simp [Input.skip, hRest]
      have hLater := ih hSkip.within (show (input.skipBlanks.skip 1).rest.length < budget by omega)
      simp [attributes, hRest, hEnd, hName, hLater]

theorem AttributesRead.passes {atEnd : List Char → Bool} {attrs : List Attribute} {last : Input}
    (hRead : AttributesRead atEnd input attrs last) (h : input.Within source) :
    Passes source input (attrs.flatMap Attribute.tokens) last := by
  have hPasses := attributes_passes atEnd (input.rest.length + 1) h
  rwa [hRead.attributes_eq h (Nat.lt_succ_self _)] at hPasses

theorem AttributesRead.laidOut {atEnd : List Char → Bool} {attrs : List Attribute} {last : Input}
    (hRead : AttributesRead atEnd input attrs last) (h : input.Within source) : ∀ attr ∈ attrs, attr.LaidOut := by
  have hEach := attributes_laidOut atEnd (input.rest.length + 1) h
  rwa [hRead.attributes_eq h (Nat.lt_succ_self _)] at hEach

/-- A tag ends at `<` or at what closes it, and no attribute starts so. -/
structure EndsTag (atEnd : List Char → Bool) (closings : List String) : Prop where
  ends : ∀ text, atEnd text = (Lexeme.startsWith "<" text || closings.any (Lexeme.startsWith · text))
  barred : ∀ word ∈ closings, barred word = true
  name : ∀ c text, Lexeme.isNameStart c = true → atEnd (c :: text) = false

theorem endsTag_atTagEnd : EndsTag atTagEnd ["/>", ">"] where
  ends := by simp [atTagEnd, Bool.or_assoc]
  barred := by decide
  name := atTagEnd_of_isNameStart

theorem endsTag_atDeclarationEnd : EndsTag atDeclarationEnd ["?>"] where
  ends := by simp [atDeclarationEnd]
  barred := by decide
  name := atDeclarationEnd_of_isNameStart

namespace EndsTag

variable {atEnd : List Char → Bool} {closings : List String} {text : List Char} {count : Nat}

/-- Where the text ends or the barrier follows, a tag ends. -/
theorem barrier (h : EndsTag atEnd closings) (hTail : Barrier tail) : tail = [] ∨ atEnd tail = true := by
  rcases hTail with rfl | ⟨c, rest, rfl, _⟩
  · exact Or.inl rfl
  · rw [h.ends]
    exact Or.inr rfl

/-- In the text with the new end, a tag ends here exactly if it did before and what closes it is kept. -/
theorem cut_iff (h : EndsTag atEnd closings) (hTail : Barrier tail) (hText : text ≠ []) (hPos : 0 < count) :
    atEnd (text.take count ++ tail) = true ↔ Lexeme.startsWith "<" text = true ∨
      ∃ word ∈ closings, Lexeme.startsWith word text = true ∧ word.length ≤ count := by
  rw [h.ends, Lexeme.startsWith_angle_cut hText hPos, Bool.or_eq_true, List.any_eq_true]
  refine or_congr_right (exists_congr fun word => and_congr_right fun hWord => ?_)
  rw [Lexeme.startsWith_cut hTail (h.barred word hWord), Bool.and_eq_true, decide_eq_true_iff]

/-- A barrier does not complete the end of a tag. -/
theorem of_cut (h : EndsTag atEnd closings) (hTail : Barrier tail) (hText : text ≠ []) (hPos : 0 < count)
    (hEnd : atEnd (text.take count ++ tail) = true) : atEnd text = true := by
  rw [h.ends, Bool.or_eq_true, List.any_eq_true]
  exact ((h.cut_iff hTail hText hPos).mp hEnd).imp_right fun ⟨word, hWord, hStarts, _⟩ => ⟨word, hWord, hStarts⟩

/-- A tag that ended before the cut still does, if what closes it is kept. -/
theorem cut (h : EndsTag atEnd closings) (hTail : Barrier tail) (hEnd : input.rest = [] ∨ atEnd input.rest = true)
    (hFits : ∀ word ∈ closings, input.startsWith word = true → input.offset + word.length ≤ stop)
    (hStop : input.offset < stop) :
    (input.cut stop tail).rest = [] ∨ atEnd (input.cut stop tail).rest = true := by
  by_cases hEmpty : input.rest = []
  · simp only [Input.cut, hEmpty, List.take_nil, List.nil_append]
    exact h.barrier hTail
  · have hEnded := hEnd.resolve_left hEmpty
    rw [h.ends, Bool.or_eq_true, List.any_eq_true] at hEnded
    refine Or.inr ((h.cut_iff hTail hEmpty (Nat.sub_pos_of_lt hStop)).mpr (hEnded.imp_right ?_))
    rintro ⟨word, hWord, hStarts⟩
    exact ⟨word, hWord, hStarts, Nat.le_sub_of_add_le' (hFits word hWord hStarts)⟩

end EndsTag

/-- The attributes that end before the cut are read as before, if the tag does not end across the cut. -/
theorem AttributesRead.cut {atEnd : List Char → Bool} {closings : List String} (hAtEnd : EndsTag atEnd closings)
    {attrs : List Attribute} {last : Input} (hTail : Barrier tail) (hRead : AttributesRead atEnd input attrs last)
    (h : input.Within source)
    (hBefore : EndBefore stop (attrs.flatMap Attribute.tokens))
    (hLast : last.offset < stop → (last.cut stop tail).rest = [] ∨ atEnd (last.cut stop tail).rest = true) :
    AttributesRead atEnd (input.cut stop tail) attrs (last.cut stop tail) := by
  -- Behind the cut the barrier ends the tag.
  have hStopped : ∀ input : Input, stop ≤ input.offset →
      (input.cut stop tail).rest = [] ∨ atEnd (input.cut stop tail).rest = true := by
    intro input hPast
    rw [Input.cut_of_le hPast]
    exact hAtEnd.barrier hTail
  induction hRead with
  | @done input hEnd =>
      rw [← Input.skipBlanks_cut hTail] at hLast ⊢
      refine .done ?_
      by_cases hStop : input.skipBlanks.offset < stop
      · exact hLast hStop
      · rw [Input.skipBlanks_cut hTail]
        exact hStopped _ (Nat.not_lt.mp hStop)
  | @attr input next last c rest first others hRest hEnd hName hFirst hOthers ih =>
      have hBlanks := Input.skipBlanks_passes h
      have hPasses := singleAttribute_passes hBlanks.within hFirst
      rw [List.flatMap_cons, endBefore_append] at hBefore
      have hStop : input.skipBlanks.offset < stop := by
        obtain ⟨token, hToken, _⟩ := (singleAttribute_laidOut hBlanks.within hRest hName hFirst).span.exists_start
        obtain ⟨hOccurs, hFrom, _⟩ := hPasses.laid.of_mem hToken
        have hOrder := hOccurs.startOffset_le
        have hEarly := hBefore.1 token hToken
        omega
      have hCut := Input.cut_rest_cons hRest hStop tail
      have hFirstCut := singleAttribute_cut hTail hFirst hBefore.1 (Nat.le_of_lt hStop)
      rw [← Input.skipBlanks_cut hTail] at hCut hFirstCut
      exact .attr hCut (hAtEnd.name _ _ hName) hName hFirstCut (ih hPasses.within hBefore.2 hLast)
  | @pass input last c rest others hRest hEnd hName hOthers ih =>
      have hBlanks := Input.skipBlanks_passes h
      have hSkip := Input.skip_passes hBlanks.within 1 (by simp [hRest])
      by_cases hStop : input.skipBlanks.offset < stop
      · have hCut := Input.cut_rest_cons hRest hStop tail
        have hEndCut : atEnd (c :: (rest.take (stop - input.skipBlanks.offset - 1) ++ tail)) = false := by
          rw [Bool.eq_false_iff]
          intro hEnded
          rw [← List.cons_append, ← List.take_succ_cons] at hEnded
          rw [hAtEnd.of_cut hTail (List.cons_ne_nil _ _) (Nat.succ_pos _) hEnded] at hEnd
          cases hEnd
        have hSkipCut := Input.skip_cut stop tail (show 1 ≤ input.skipBlanks.rest.length by simp [hRest])
        rw [Nat.min_eq_right (by omega)] at hSkipCut
        rw [← Input.skipBlanks_cut hTail] at hCut hSkipCut
        refine .pass hCut hEndCut hName ?_
        rw [hSkipCut]
        exact ih hSkip.within hBefore hLast
      · -- The tag went on behind the cut, but without any further attribute.
        have hPasses := AttributesRead.passes hOthers hSkip.within
        have hFrom : input.skipBlanks.offset + 1 ≤ last.offset := hPasses.laid.le
        have hNone : others = [] := by
          rw [List.eq_nil_iff_forall_not_mem]
          intro attr hAttr
          obtain ⟨token, hToken, _⟩ := (hOthers.laidOut hSkip.within attr hAttr).span.exists_start
          have hMem := List.mem_flatMap.mpr ⟨attr, hAttr, hToken⟩
          obtain ⟨hOccurs, hStart, _⟩ := hPasses.laid.of_mem hMem
          have hOrder := hOccurs.startOffset_le
          have hEarly := hBefore token hMem
          simp only [Input.skip] at hStart
          omega
        have hSame : last.cut stop tail = (input.cut stop tail).skipBlanks := by
          rw [Input.skipBlanks_cut hTail, Input.cut_of_le (by omega), Input.cut_of_le (by omega)]
        rw [hNone, hSame]
        refine .done ?_
        rw [Input.skipBlanks_cut hTail]
        exact hStopped _ (Nat.not_lt.mp hStop)

/-- Attributes are read up to the end of the tag or of the text. -/
theorem AttributesRead.ends {atEnd : List Char → Bool} {attrs : List Attribute} {last : Input}
    (hRead : AttributesRead atEnd input attrs last) : last.rest = [] ∨ atEnd last.rest = true := by
  induction hRead with
  | done hEnd => exact hEnd
  | attr _ _ _ _ _ ih => exact ih
  | pass _ _ _ _ ih => exact ih

/-- An opening tag whose tokens end before the cut is read as before. -/
theorem startTag_cut {start : StartTag} (hTail : Barrier tail) (h : input.Within source) (hRest : input.rest ≠ [])
    (hRead : startTag input = (start, next)) (hBefore : EndBefore stop start.tokens) :
    startTag (input.cut stop tail) = (start, next.cut stop tail) := by
  obtain ⟨afterName, atEnd, afterSlash, slashClose, startClose, hOpen, hName, hAttributes, hSlash, hSlot, hEnd⟩ :=
    startTag_steps hRead
  have hTokens : start.tokens = [start.openAngle] ++ start.name.toList
      ++ start.attributes.flatMap Attribute.tokens ++ start.startClose.toList ++ start.slashClose.toList := by
    simp [StartTag.tokens]
  simp only [hTokens, endBefore_append] at hBefore
  obtain ⟨⟨⟨⟨hOpenBefore, hNameBefore⟩, hAttributesBefore⟩, hStartBefore⟩, hSlashBefore⟩ := hBefore
  rw [hSlot] at hSlashBefore
  have hLength : 1 ≤ input.rest.length := List.length_pos_iff.mpr hRest
  have hOpened := Input.token_passes h .openAngle 1 Nat.one_pos hLength
  have hNamed := Input.name?_passes hOpened.within hName
  have hOpenCut := Input.token_cut tail .openAngle hLength
    (Input.offset_add_le Nat.one_pos hLength (hOpen ▸ hOpenBefore))
  have hNameCut := Input.name?_cut hTail hName hNameBefore
  have hSlashCut := Input.word?_cut hTail (by decide) (by decide) hSlash hSlashBefore
  have hList := attributesRead_of_budget atTagEnd hNamed.within (Nat.lt_succ_self _)
  rw [hAttributes] at hList
  have hEndCut : atEnd.offset < stop → _ := fun hStop => endsTag_atTagEnd.cut hTail hList.ends (by
    intro word hWord hStarts
    rcases List.mem_pair.mp hWord with rfl | rfl
    · exact Input.word?_fits (by decide) hSlash hSlashBefore hStarts
    · exact hStop) hStop
  obtain ⟨other, hOther⟩ := (afterName.cut stop tail).exists_within
  have hListCut := (hList.cut endsTag_atTagEnd hTail hNamed.within hAttributesBefore hEndCut).attributes_eq hOther
    (Nat.lt_succ_self _)
  simp only [startTag, hOpenCut, hNameCut, hListCut, hSlashCut]
  rcases hEnd with ⟨hSome, hNone, rfl⟩ | ⟨hNone, hClose, hStart⟩
  · obtain ⟨slash, rfl⟩ := Option.isSome_iff_exists.mp hSome
    simp only [← hOpen, ← hSlot, ← hNone]
  · subst hNone
    rw [hClose] at hStartBefore
    have hStartCut := Input.word?_cut hTail (by decide) (by decide) hStart hStartBefore
    simp only [hStartCut, ← hOpen, ← hClose, ← hSlot]

theorem endTag_cut {finish : EndTag} (hTail : Barrier tail) (hRead : endTag input = (finish, next))
    (hBefore : EndBefore stop finish.tokens) : endTag (input.cut stop tail) = (finish, next.cut stop tail) := by
  simp only [EndTag.tokens, endBefore_append] at hBefore
  obtain ⟨⟨hOpenBefore, hNameBefore⟩, hCloseBefore⟩ := hBefore
  rcases endTag_steps hRead with ⟨hOpen, rfl, rfl⟩ | ⟨slashOpen, afterOpen, afterName, hOpen, hIs, hName, hClose⟩
  · have hOpenCut := Input.word?_cut hTail (by decide) (by decide) hOpen hOpenBefore
    simp only [endTag, hOpenCut]
  · rw [hIs] at hOpenBefore
    have hOpenCut := Input.word?_cut hTail (by decide) (by decide) hOpen hOpenBefore
    have hNameCut := Input.name?_cut hTail hName hNameBefore
    have hCloseCut := Input.word?_cut hTail (by decide) (by decide) hClose hCloseBefore
    obtain ⟨_, name, close⟩ := finish
    simp only at hIs hNameCut hCloseCut
    simp only [endTag, hOpenCut, Input.skipBlanks_cut hTail, hNameCut, hCloseCut, hIs]

end Reader

/-- A comment, section or instruction. -/
def ContentPart.isDelimited : ContentPart → Bool
  | .comment _ | .cdata _ | .processingInstruction _ => true
  | _ => false

namespace Reader

/-- What tells the parts that are no elements from an element. -/
def openings : List String := ["<!--", "<![CDATA[", "<?"]

theorem atContentEnd_cut (hTail : Barrier tail) (hEnd : atContentEnd input = false) (hStop : input.offset < stop) :
    atContentEnd (input.cut stop tail) = false := by
  obtain ⟨c, rest, hRest⟩ := List.exists_cons_of_ne_nil (rest_ne_nil_of_atContentEnd hEnd)
  obtain ⟨_, hSlash⟩ := Bool.or_eq_false_iff.mp hEnd
  have hCut : (input.cut stop tail).startsWith "</" = _ :=
    Input.startsWith_cut hTail (by decide) (by decide) input stop
  rw [hSlash, Bool.false_and] at hCut
  rw [atContentEnd, hCut, Input.cut_rest_cons hRest hStop]
  rfl

theorem startsWith_opening_cut {word : String} (hTail : Barrier tail) (hWord : word ∈ openings)
    (hFits : input.startsWith word = true → input.offset + word.length ≤ stop) :
    (input.cut stop tail).startsWith word = input.startsWith word := by
  have hBarred : barred word = true ∧ 0 < word.length := by
    simp only [openings, List.mem_cons, List.not_mem_nil, or_false] at hWord
    rcases hWord with rfl | rfl | rfl <;> decide
  rw [Input.startsWith_cut hTail hBarred.1 hBarred.2]
  cases hStarts : input.startsWith word with
  | false => rfl
  | true => simpa using hFits hStarts

theorem not_opening_cut {word : String} (hTail : Barrier tail) (hWord : word ∈ openings)
    (hNot : input.startsWith word = false) : (input.cut stop tail).startsWith word = false := by
  rw [startsWith_opening_cut hTail hWord (by simp [hNot]), hNot]

theorem atElement_cut (hTail : Barrier tail) (hRest : input.rest ≠ []) (hStop : input.offset < stop)
    (hFits : ∀ word ∈ openings, input.startsWith word = true → input.offset + word.length ≤ stop) :
    atElement (input.cut stop tail) = atElement input := by
  have hAngle : (input.cut stop tail).startsWith "<" = input.startsWith "<" :=
    Lexeme.startsWith_angle_cut hRest (Nat.sub_pos_of_lt hStop) tail
  have hOpening := fun word hWord => startsWith_opening_cut hTail hWord (hFits word hWord)
  rw [atElement, atElement, hAngle, hOpening "<!--" (by decide), hOpening "<![CDATA[" (by decide),
    hOpening "<?" (by decide)]

theorem not_opening_of_atElement (hAt : atElement input = true) : ∀ word ∈ openings, input.startsWith word = false := by
  simp only [atElement, Bool.and_eq_true, Bool.not_eq_true'] at hAt
  obtain ⟨⟨⟨_, hComment⟩, hSection⟩, hInstruction⟩ := hAt
  simp [openings, hComment, hSection, hInstruction]

/-- Where an element comes next before the cut, one does in the text with the new end. -/
theorem atElement_cut_of_lt (hTail : Barrier tail) (hEnd : atContentEnd input = false) (hAt : atElement input = true)
    (hStop : input.offset < stop) :
    atContentEnd (input.cut stop tail) = false ∧ atElement (input.cut stop tail) = true := by
  refine ⟨atContentEnd_cut hTail hEnd hStop, ?_⟩
  rw [atElement_cut hTail (rest_ne_nil_of_atContentEnd hEnd) hStop fun word hWord hStarts => ?_, hAt]
  rw [not_opening_of_atElement hAt word hWord] at hStarts
  cases hStarts

theorem delimited_cut {kind : TokenKind} {terminator : String} (hTail : Barrier tail)
    (hWord : barred terminator = true) (hNonempty : 0 < terminator.length)
    (hEnd : (delimited kind terminator input).2.rest ≠ []) (hStop : (delimited kind terminator input).2.offset ≤ stop) :
    delimited kind terminator (input.cut stop tail) =
      ((delimited kind terminator input).1, (delimited kind terminator input).2.cut stop tail) := by
  have hShorter : Lexeme.delimitedLength terminator input.rest < input.rest.length := by
    have hPos := List.length_pos_iff.mpr hEnd
    simp only [delimited, Input.token, Input.skip, List.length_drop] at hPos
    omega
  have hCut : Lexeme.delimitedLength terminator (input.cut stop tail).rest = _ :=
    Lexeme.delimitedLength_cut hTail hWord hNonempty hShorter (Nat.le_sub_of_add_le' hStop)
  rw [delimited, hCut, Input.token_cut tail kind (Nat.le_of_lt hShorter) hStop]
  rfl

/-- A part that is terminated is at least as long as what opens it. -/
theorem opening_fits {part : ContentPart} (hRead : leaf input = (part, next)) (hStop : next.offset ≤ stop)
    (hTerminated : part.isDelimited = true → next.rest ≠ []) :
    ∀ word ∈ openings, input.startsWith word = true → input.offset + word.length ≤ stop := by
  have hOnly : input.startsWith "<!--" = true → input.startsWith "<![CDATA[" = false := by
    intro hStarts
    obtain ⟨rest, hRest⟩ := List.isPrefixOf_iff_prefix.mp hStarts
    simp [Input.startsWith, ← hRest, Lexeme.startsWith, List.isPrefixOf]
  unfold leaf at hRead
  simp only [openings, List.forall_mem_cons, List.not_mem_nil, false_imp_iff, implies_true, and_true]
  split_ifs at hRead with hComment hSection hInstruction
  · cases hRead
    have hLength : 3 + 2 ≤ _ := Lexeme.length_le_delimitedLength (hTerminated rfl)
    have hEnd : input.offset + Lexeme.delimitedLength "-->" input.rest ≤ stop := hStop
    have hSection := hOnly hComment
    refine ⟨fun _ => ?_, fun hStarts => ?_, fun _ => ?_⟩
    · exact (Nat.add_le_add_left (show 4 ≤ _ by omega) _).trans hEnd
    · rw [hSection] at hStarts
      cases hStarts
    · exact (Nat.add_le_add_left (show 2 ≤ _ by omega) _).trans hEnd
  · cases hRead
    have hLength := Lexeme.length_le_delimitedLength_section hSection
    have hEnd : input.offset + Lexeme.delimitedLength "]]>" input.rest ≤ stop := hStop
    refine ⟨fun hStarts => absurd hStarts hComment, fun _ => ?_, fun _ => ?_⟩
    · exact (Nat.add_le_add_left hLength _).trans hEnd
    · exact (Nat.add_le_add_left (show 2 ≤ _ by omega) _).trans hEnd
  · cases hRead
    refine ⟨fun hStarts => absurd hStarts hComment, fun hStarts => absurd hStarts hSection, fun _ => ?_⟩
    exact (Nat.add_le_add_left (show 2 ≤ Lexeme.delimitedLength "?>" input.rest from Nat.le_add_left _ _) _).trans hStop
  · exact ⟨fun hStarts => absurd hStarts hComment, fun hStarts => absurd hStarts hSection,
      fun hStarts => absurd hStarts hInstruction⟩

/-- Text goes as far as before or up to the cut, unless it stopped at a reference that is cut in two. -/
theorem text_cut (hTail : Barrier tail) (hInput : input.rest ≠ []) (hOffset : input.offset < stop)
    (hWhole : ∀ reference, Lexeme.referenceLength? (text input).2.rest = some reference →
      (text input).2.offset < stop → (text input).2.offset + reference.2 ≤ stop) :
    (text (input.cut stop tail)).2 = (text input).2.cut stop tail ∧
      ((text input).2.offset ≤ stop → (text (input.cut stop tail)).1 = (text input).1) := by
  have hCut : Lexeme.textLength (input.cut stop tail).rest = _ :=
    Lexeme.textLength_cut hTail hInput (Nat.sub_pos_of_lt hOffset) fun reference hFound hLt => by
      have hFits := hWhole reference hFound (Nat.add_lt_of_lt_sub' hLt)
      simp only [text, Input.token, Input.skip] at hFits
      omega
  have hLength := (Lexeme.textLength_bounds hInput).2
  constructor
  · simp only [text, Input.token, hCut, Input.skip_cut stop tail hLength]
  · intro hStop
    have hKept : min (stop - input.offset) (Lexeme.textLength input.rest) = Lexeme.textLength input.rest :=
      Nat.min_eq_right (Nat.le_sub_of_add_le' hStop)
    have hTake : (input.cut stop tail).rest.take (Lexeme.textLength input.rest) =
        input.rest.take (Lexeme.textLength input.rest) := by
      simp only [Input.cut]
      rw [List.take_append_of_le_length (by rw [List.length_take]; omega), List.take_take, Nat.min_comm, hKept]
    have hFrom : (input.cut stop tail).offset = input.offset := Nat.min_eq_left (Nat.le_of_lt hOffset)
    simp only [text, Input.token, hCut, hKept, hTake, hFrom]

/-- A part that ends before the cut is read as before. A comment, section or instruction must be terminated, and
text must not end at a reference that is cut in two. -/
theorem leaf_cut {part : ContentPart} (hTail : Barrier tail) (hInput : input.rest ≠ [])
    (hRead : leaf input = (part, next)) (hStop : next.offset ≤ stop)
    (hTerminated : part.isDelimited = true → next.rest ≠ [])
    (hWhole : ∀ reference, Lexeme.referenceLength? next.rest = some reference → next.offset < stop →
      next.offset + reference.2 ≤ stop) :
    leaf (input.cut stop tail) = (part, next.cut stop tail) := by
  have hFits := opening_fits hRead hStop hTerminated
  have hOpening := fun word hWord => startsWith_opening_cut hTail hWord (hFits word hWord)
  have hReferenceCut : Lexeme.referenceLength? (input.cut stop tail).rest = _ :=
    Lexeme.referenceLength?_cut hTail _ _
  unfold leaf at hRead ⊢
  rw [hOpening "<!--" (by decide), hOpening "<![CDATA[" (by decide), hOpening "<?" (by decide)]
  split_ifs at hRead ⊢ with hComment hSection hInstruction
  · cases hRead
    rw [delimited_cut hTail (by decide) (by decide) (hTerminated rfl) hStop]
    rfl
  · cases hRead
    rw [delimited_cut hTail (by decide) (by decide) (hTerminated rfl) hStop]
    rfl
  · cases hRead
    rw [delimited_cut hTail (by decide) (by decide) (hTerminated rfl) hStop]
    rfl
  · split at hRead
    · rename_i isCharacter length hReference
      cases hRead
      have hLength := (Lexeme.referenceLength?_bounds hReference).2
      rw [hReference, Option.filter_some, if_pos (decide_eq_true (Nat.le_sub_of_add_le' hStop))] at hReferenceCut
      simp only [hReferenceCut, Input.token_cut tail _ hLength hStop]
      rfl
    · rename_i hReference
      cases hRead
      rw [hReference, Option.filter_none] at hReferenceCut
      have hOffset : input.offset < stop :=
        (Nat.lt_add_of_pos_right (Lexeme.textLength_bounds hInput).1).trans_le hStop
      obtain ⟨hNext, hRun⟩ := text_cut hTail hInput hOffset hWhole
      simp only [hReferenceCut, hNext, hRun hStop]
      rfl

/-- Text that goes on over the cut stops there. -/
theorem leaf_cut_text {part : ContentPart} (hTail : Barrier tail) (hInput : input.rest ≠ [])
    (hRead : leaf input = (part, next)) (hText : part.isText = true) (hOffset : input.offset < stop)
    (hStop : stop ≤ next.offset) :
    atElement (input.cut stop tail) = atElement input ∧
      ∃ run, leaf (input.cut stop tail) = (.text run, next.cut stop tail) := by
  obtain ⟨_, _, _, _, _, _, _, rfl, hSteps⟩ := leaf_steps hInput hRead
  obtain ⟨rfl, hReference, hComment, hSection, hInstruction⟩ := hSteps hText
  constructor
  · refine atElement_cut hTail hInput hOffset ?_
    simp [openings, hComment, hSection, hInstruction]
  · have hReferenceCut : Lexeme.referenceLength? (input.cut stop tail).rest = _ :=
      Lexeme.referenceLength?_cut hTail _ _
    rw [hReference, Option.filter_none] at hReferenceCut
    have hNext := (text_cut hTail hInput hOffset fun _ _ hLt => absurd hLt (Nat.not_lt.mpr hStop)).1
    refine ⟨(text (input.cut stop tail)).1, ?_⟩
    rw [leaf, not_opening_cut hTail (by decide) hComment, not_opening_cut hTail (by decide) hSection,
      not_opening_cut hTail (by decide) hInstruction]
    simp only [Bool.false_eq_true, if_false, hReferenceCut, hNext]
    rfl

end Reader

end ContentAssist.Markup
