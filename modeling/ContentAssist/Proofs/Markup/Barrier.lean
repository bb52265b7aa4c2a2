import ContentAssist.Proofs.Markup.Passage
import ContentAssist.Proofs.Markup.Recognition

/-! How far lexemes reach in a text whose end was replaced by a barrier: by nothing, or by a text that opens a tag.
Lexemes look ahead for closing quotes, semicolons and terminators, so what follows a place can change how far one
that starts before it reaches. No lexeme goes on over a barrier, and one that ended before it ends there still. -/
namespace ContentAssist.Markup

open Unicode (isWhiteSpace)

/-- Nothing that was begun before goes on over this text: it is empty or opens a tag. -/
def Barrier (text : List Char) : Prop :=
  text = [] ∨ ∃ c rest, text = '<' :: c :: rest ∧ Lexeme.isNameStart c = true

/-- A word that a barrier cannot complete: `<` is at most its first character, and then no name follows. -/
def barred (word : String) : Bool :=
  (word.toList.drop 1).all (· ≠ '<') &&
    (word.toList.head? ≠ some '<' || (word.toList.drop 1).head?.any fun c => !Lexeme.isNameStart c)

namespace Lexeme

variable {text tail : List Char} {count length : Nat}

theorem takeWhile_barrier {p : Char → Bool} (hTail : Barrier tail) (hAngle : p '<' = false) :
    tail.takeWhile p = [] := by
  rcases hTail with rfl | ⟨c, rest, rfl, _⟩
  · rfl
  · exact List.takeWhile_cons_of_neg (by simp [hAngle])

theorem takeWhile_cut {p : Char → Bool} (hTail : Barrier tail) (hAngle : p '<' = false) (text : List Char)
    (count : Nat) : (text.take count ++ tail).takeWhile p = (text.takeWhile p).take count := by
  have hStop := takeWhile_barrier hTail hAngle
  induction text generalizing count with
  | nil => simpa using hStop
  | cons c text ih =>
      cases count with
      | zero => simpa using hStop
      | succ count =>
          by_cases hc : p c = true
          · simp [hc, ih]
          · simp [hc]

theorem blankLength_cut (hTail : Barrier tail) (text : List Char) (count : Nat) :
    blankLength (text.take count ++ tail) = min count (blankLength text) := by
  rw [blankLength, takeWhile_cut hTail (by decide), List.length_take, blankLength]

theorem nameLength?_cut_none (hTail : Barrier tail) (h : nameLength? text = none) (count : Nat) :
    nameLength? (text.take count ++ tail) = none := by
  have hAtTail : nameLength? tail = none := by
    rcases hTail with rfl | ⟨c, rest, rfl, _⟩ <;> rfl
  cases text with
  | nil => simpa using hAtTail
  | cons c text =>
      cases count with
      | zero => simpa using hAtTail
      | succ count =>
          simp only [nameLength?] at h
          split at h
          · cases h
          · rename_i hStart
            simp [nameLength?, hStart]

theorem nameLength?_cut_some (hTail : Barrier tail) (h : nameLength? text = some length) (hCount : length ≤ count) :
    nameLength? (text.take count ++ tail) = some length := by
  have hBounds := nameLength?_bounds h
  have hTake := takeWhile_cut hTail (p := isNameChar) (by decide) text count
  cases text with
  | nil => cases h
  | cons c text =>
      obtain ⟨count, rfl⟩ := Nat.exists_eq_succ_of_ne_zero (Nat.ne_of_gt (hBounds.1.trans_le hCount))
      simp only [nameLength?] at h
      split at h
      · rename_i hStart
        rw [List.take_succ_cons, List.cons_append] at hTake ⊢
        rw [nameLength?, if_pos hStart, hTake, List.length_take, Option.some.inj h, Nat.min_eq_right hCount]
      · cases h

/-- The start of the barrier cannot stand for the end of a barred word. -/
theorem eq_nil_of_barred {word taken shared after : List Char} {tail : List Char} (hTail : Barrier tail)
    (hFirst : (word.drop 1).all (· ≠ '<') = true)
    (hSecond : (word.head? ≠ some '<' || (word.drop 1).head?.any fun c => !isNameStart c) = true)
    (hSplit : word = taken ++ shared) (hShared : tail = shared ++ after) : shared = [] := by
  cases shared with
  | nil => rfl
  | cons d shared =>
      rcases hTail with rfl | ⟨c, rest, rfl, hName⟩
      · cases hShared
      · rw [List.cons_append, List.cons.injEq] at hShared
        obtain ⟨rfl, hRest⟩ := hShared
        subst hSplit
        cases taken with
        | nil =>
            cases shared with
            | nil => simp at hSecond
            | cons second shared =>
                rw [List.cons_append, List.cons.injEq] at hRest
                simp [← hRest.1, hName] at hSecond
        | cons e taken => simp at hFirst

/-- A barred word comes next after the cut if it did before and is kept as a whole. -/
theorem startsWith_cut {word : String} (hTail : Barrier tail) (hWord : barred word = true) (text : List Char)
    (count : Nat) : startsWith word (text.take count ++ tail) = (startsWith word text && word.length ≤ count) := by
  obtain ⟨hFirst, hSecond⟩ := Bool.and_eq_true_iff.mp hWord
  rw [Bool.eq_iff_iff, Bool.and_eq_true, decide_eq_true_iff, ← String.length_toList, startsWith, startsWith,
    List.isPrefixOf_iff_prefix, List.isPrefixOf_iff_prefix]
  constructor
  · rintro ⟨after, hEq⟩
    have hTaken : word.toList <+: text.take count := by
      rcases List.append_eq_append_iff.mp hEq with ⟨inside, hInside, _⟩ | ⟨shared, hSplit, hShared⟩
      · exact ⟨inside, hInside.symm⟩
      · rw [eq_nil_of_barred hTail hFirst hSecond hSplit hShared, List.append_nil] at hSplit
        rw [hSplit]
    exact List.prefix_take_iff.mp hTaken
  · intro hTaken
    exact (List.prefix_take_iff.mpr hTaken).trans (List.prefix_append _ _)

/-- The first character is kept. -/
theorem startsWith_angle_cut (hText : text ≠ []) (hPos : 0 < count) (tail : List Char) :
    startsWith "<" (text.take count ++ tail) = startsWith "<" text := by
  obtain ⟨c, rest, rfl⟩ := List.exists_cons_of_ne_nil hText
  obtain ⟨count, rfl⟩ := Nat.exists_eq_succ_of_ne_zero (Nat.ne_of_gt hPos)
  simp [startsWith, List.isPrefixOf]

/-- A quote is closed as before, if it is closed in what is kept. -/
theorem closingQuote?_cut (hTail : Barrier tail) {quote : Char} (hQuote : quote ≠ '<') (text : List Char)
    (count : Nat) : closingQuote? quote (text.take count ++ tail) =
      (closingQuote? quote text).filter fun length => length ≤ count := by
  have hAtTail : closingQuote? quote tail = none := by
    rcases hTail with rfl | ⟨c, rest, rfl, _⟩
    · rfl
    · simp [closingQuote?, hQuote.symm]
  induction text generalizing count with
  | nil => simpa [closingQuote?] using hAtTail
  | cons c text ih =>
      cases count with
      | zero =>
          rw [List.take_zero, List.nil_append, hAtTail, eq_comm, Option.filter_eq_none_iff]
          intro length hLength
          have hBounds := closingQuote?_bounds hLength
          simp only [Nat.le_zero, decide_eq_true_eq]
          omega
      | succ count =>
          rw [List.take_succ_cons, List.cons_append, closingQuote?, closingQuote?, ih]
          split_ifs with hClosed hAngle
          · simp [Option.filter]
          · rfl
          · cases closingQuote? quote text <;> simp [Option.filter]

theorem quotedLength?_cut (hTail : Barrier tail) (text : List Char) (count : Nat) :
    quotedLength? (text.take count ++ tail) = (quotedLength? text).filter fun length => length ≤ count := by
  have hAtTail : quotedLength? tail = none := by
    rcases hTail with rfl | ⟨c, rest, rfl, _⟩ <;> rfl
  cases text with
  | nil => simpa [quotedLength?] using hAtTail
  | cons c text =>
      cases count with
      | zero =>
          rw [List.take_zero, List.nil_append, hAtTail, eq_comm, Option.filter_eq_none_iff]
          intro length hLength
          have hBounds := quotedLength?_bounds hLength
          simp only [Nat.le_zero, decide_eq_true_eq]
          omega
      | succ count =>
          rw [List.take_succ_cons, List.cons_append, quotedLength?, quotedLength?]
          split_ifs with hQuote
          · have hAngle : c ≠ '<' := by
              rintro rfl
              simp at hQuote
            rw [closingQuote?_cut hTail hAngle]
            cases closingQuote? c text <;> simp [Option.filter]
          · rfl

/-- A reference is read as before, if it ends in what is kept. -/
theorem referenceBody?_cut (hTail : Barrier tail) (text : List Char) (count : Nat) :
    referenceBody? (text.take count ++ tail) =
      (referenceBody? text).filter fun length => length ≤ count := by
  have hTake := takeWhile_cut hTail (p := isAlphanumeric) (by decide) text count
  have hLe := (List.takeWhile_prefix isAlphanumeric (l := text)).length_le
  have hAtTail : tail.head? ≠ some ';' := by
    rcases hTail with rfl | ⟨c, rest, rfl, _⟩ <;> simp
  simp only [referenceBody?, hTake, List.length_take]
  generalize (text.takeWhile isAlphanumeric).length = letters at hLe
  by_cases hKept : letters < count
  · -- The character behind the letters is kept, unless the text ends there.
    have hHead : ((text.take count ++ tail).drop letters).head? = some ';' ↔
        (text.drop letters).head? = some ';' := by
      rw [List.drop_append_of_le_length (by rw [List.length_take]; omega), List.drop_take]
      cases hRest : text.drop letters with
      | nil => simp [hAtTail]
      | cons c rest =>
          obtain ⟨more, hMore⟩ := Nat.exists_eq_add_of_lt hKept
          rw [show count - letters = more + 1 by omega]
          simp
    simp only [Nat.min_eq_right (Nat.le_of_lt hKept), hHead]
    split_ifs
    · rw [Option.filter_some, if_pos (decide_eq_true (Nat.succ_le_of_lt hKept))]
    · rfl
  · have hRest : (text.take count ++ tail).drop (min count letters) = tail := by
      rw [Nat.min_eq_left (by omega), List.drop_append_of_le_length (by rw [List.length_take]; omega), List.drop_take]
      simp
    simp only [hRest, hAtTail, decide_false, Bool.and_false, Bool.false_eq_true, if_false]
    split_ifs
    · rw [Option.filter_some, if_neg fun hLe => hKept (Nat.lt_of_succ_le (of_decide_eq_true hLe))]
    · rfl

theorem referenceLength?_entity {rest : List Char} (h : rest.head? ≠ some '#') :
    referenceLength? ('&' :: rest) = (referenceBody? rest).map fun length => (false, length + 1) := by
  rw [referenceLength?]
  rintro others rfl
  exact h rfl

theorem referenceLength?_cut (hTail : Barrier tail) (text : List Char) (count : Nat) :
    referenceLength? (text.take count ++ tail) =
      (referenceLength? text).filter fun reference => reference.2 ≤ count := by
  have hAtTail : referenceLength? tail = none ∧ tail.head? ≠ some '#' := by
    rcases hTail with rfl | ⟨c, rest, rfl, _⟩
    · exact ⟨rfl, nofun⟩
    · exact ⟨rfl, by simp⟩
  cases text with
  | nil =>
      rw [List.take_nil, List.nil_append, hAtTail.1]
      rfl
  | cons first text =>
      cases count with
      | zero =>
          rw [List.take_zero, List.nil_append, hAtTail.1, eq_comm, Option.filter_eq_none_iff]
          intro reference hReference
          have hBounds := referenceLength?_bounds hReference
          simp only [Nat.le_zero, decide_eq_true_eq]
          omega
      | succ count =>
          rw [List.take_succ_cons, List.cons_append]
          by_cases hFirst : first = '&'
          · subst hFirst
            by_cases hHash : text.head? = some '#'
            · obtain ⟨rest, rfl⟩ := List.head?_eq_some_iff.mp hHash
              cases count with
              | zero =>
                  have hBody := referenceBody?_cut hTail [] 0
                  rw [List.take_nil, List.nil_append] at hBody
                  rw [List.take_zero, List.nil_append, referenceLength?_entity hAtTail.2, hBody, referenceLength?]
                  cases referenceBody? rest <;> simp [Option.filter, referenceBody?]
              | succ count =>
                  rw [List.take_succ_cons, List.cons_append, referenceLength?, referenceLength?,
                    referenceBody?_cut hTail]
                  cases referenceBody? rest <;> simp [Option.filter]
            · have hCut : (text.take count ++ tail).head? ≠ some '#' := by
                cases text with
                | nil => simpa using hAtTail.2
                | cons c text =>
                    cases count with
                    | zero => simpa using hAtTail.2
                    | succ count => simpa using hHash
              rw [referenceLength?_entity hCut, referenceLength?_entity hHash, referenceBody?_cut hTail]
              cases referenceBody? text <;> simp [Option.filter]
          · rw [referenceLength?_eq_none hFirst, referenceLength?_eq_none hFirst]
            rfl

/-- A terminator is found where it was, if the text goes on behind it. -/
theorem throughTerminator_cut {terminator : String} (hTail : Barrier tail) (hWord : barred terminator = true)
    (hNonempty : 0 < terminator.length) (hEnd : throughTerminator terminator text < text.length)
    (hCount : throughTerminator terminator text ≤ count) :
    throughTerminator terminator (text.take count ++ tail) = throughTerminator terminator text := by
  induction text generalizing count with
  | nil => exact absurd hEnd (Nat.not_lt_zero _)
  | cons c text ih =>
      rw [throughTerminator] at hEnd hCount ⊢
      split at hCount
      · rename_i hHere
        obtain ⟨count, rfl⟩ := Nat.exists_eq_succ_of_ne_zero (Nat.ne_of_gt (hNonempty.trans_le hCount))
        have hCut := startsWith_cut hTail hWord (c :: text) (count + 1)
        rw [hHere, decide_eq_true hCount, Bool.and_true, List.take_succ_cons, List.cons_append] at hCut
        rw [List.take_succ_cons, List.cons_append, throughTerminator, if_pos hCut, if_pos hHere]
      · rename_i hHere
        obtain ⟨count, rfl⟩ := Nat.exists_eq_succ_of_ne_zero (Nat.ne_of_gt ((Nat.succ_pos _).trans_le hCount))
        have hCut := startsWith_cut hTail hWord (c :: text) (count + 1)
        rw [Bool.eq_false_iff.mpr hHere, Bool.false_and, List.take_succ_cons, List.cons_append] at hCut
        rw [if_neg hHere, List.length_cons] at hEnd
        rw [List.take_succ_cons, List.cons_append, throughTerminator, hCut, if_neg (by simp), if_neg hHere,
          ih (by omega) (by omega)]

/-- Where the text goes on, there was a terminator. -/
theorem length_le_throughTerminator {terminator : String} (hEnd : throughTerminator terminator text < text.length) :
    terminator.length ≤ throughTerminator terminator text := by
  induction text with
  | nil => exact absurd hEnd (Nat.not_lt_zero _)
  | cons c text ih =>
      rw [throughTerminator] at hEnd ⊢
      split
      · exact le_rfl
      · rename_i hHere
        rw [if_neg hHere, List.length_cons] at hEnd
        exact (ih (by omega)).trans (Nat.le_succ _)

/-- What is terminated holds both the two characters that open it and the terminator. -/
theorem length_le_delimitedLength {terminator : String} (hEnd : text.drop (delimitedLength terminator text) ≠ []) :
    terminator.length + 2 ≤ delimitedLength terminator text := by
  have hPos := List.length_pos_iff.mpr hEnd
  rw [List.length_drop, delimitedLength] at hPos
  exact Nat.add_le_add_right (length_le_throughTerminator (by rw [List.length_drop]; omega)) 2

/-- A section is at least as long as its opening and its terminator. -/
theorem length_le_delimitedLength_section (hStarts : startsWith "<![CDATA[" text = true) :
    9 ≤ delimitedLength "]]>" text := by
  obtain ⟨rest, rfl⟩ := List.isPrefixOf_iff_prefix.mp hStarts
  simp [delimitedLength, throughTerminator, startsWith, List.isPrefixOf]

theorem delimitedLength_cut {terminator : String} (hTail : Barrier tail) (hWord : barred terminator = true)
    (hNonempty : 0 < terminator.length) (hEnd : delimitedLength terminator text < text.length)
    (hCount : delimitedLength terminator text ≤ count) :
    delimitedLength terminator (text.take count ++ tail) = delimitedLength terminator text := by
  unfold delimitedLength at hEnd hCount ⊢
  have hDrop : (text.take count ++ tail).drop 2 = (text.drop 2).take (count - 2) ++ tail := by
    rw [List.drop_append_of_le_length (by rw [List.length_take]; omega), List.drop_take]
  rw [hDrop, throughTerminator_cut hTail hWord hNonempty (by rw [List.length_drop]; omega) (by omega)]

/-- Plain text goes as far as before or up to the cut, unless it stopped at a reference that is cut in two. -/
theorem plainLength_cut (hTail : Barrier tail)
    (hWhole : ∀ reference, referenceLength? (text.drop (plainLength text)) = some reference →
      plainLength text < count → plainLength text + reference.2 ≤ count) :
    plainLength (text.take count ++ tail) = min count (plainLength text) := by
  have hAtTail : plainLength tail = 0 := by
    rcases hTail with rfl | ⟨c, rest, rfl, _⟩ <;> simp [plainLength]
  induction text generalizing count with
  | nil => simpa [plainLength] using hAtTail
  | cons c text ih =>
      cases count with
      | zero => simpa using hAtTail
      | succ count =>
          have hReference := referenceLength?_cut hTail (c :: text) (count + 1)
          rw [List.take_succ_cons, List.cons_append] at hReference ⊢
          by_cases hStop : (decide (c = '<') || (referenceLength? (c :: text)).isSome) = true
          · have hHere : plainLength (c :: text) = 0 := by rw [plainLength, if_pos hStop]
            have hCut : (decide (c = '<') || (referenceLength? (c :: (text.take count ++ tail))).isSome) = true := by
              rcases Bool.or_eq_true_iff.mp hStop with hAngle | hSome
              · rw [hAngle, Bool.true_or]
              · obtain ⟨reference, hFound⟩ := Option.isSome_iff_exists.mp hSome
                rw [hHere, List.drop_zero] at hWhole
                have hFits := hWhole reference hFound (Nat.succ_pos _)
                rw [hReference, hFound, Option.filter_some, if_pos (decide_eq_true (by omega)), Option.isSome_some,
                  Bool.or_true]
            rw [hHere, plainLength, if_pos hCut]
            rfl
          · have hHere : plainLength (c :: text) = plainLength text + 1 := by rw [plainLength, if_neg hStop]
            obtain ⟨hAngle, hNone⟩ := Bool.or_eq_false_iff.mp (Bool.eq_false_iff.mpr hStop)
            rw [Option.isSome_eq_false_iff, Option.isNone_iff_eq_none] at hNone
            rw [hNone, Option.filter_none] at hReference
            rw [hHere, List.drop_succ_cons] at hWhole
            have hLater := @ih count fun reference hFound hLt => by
              have hFits := hWhole reference hFound (by omega)
              omega
            rw [hHere, plainLength, hReference, hAngle, if_neg (by simp), hLater]
            omega

theorem textLength_cut (hTail : Barrier tail) (hText : text ≠ []) (hPos : 0 < count)
    (hWhole : ∀ reference, referenceLength? (text.drop (textLength text)) = some reference →
      textLength text < count → textLength text + reference.2 ≤ count) :
    textLength (text.take count ++ tail) = min count (textLength text) := by
  obtain ⟨c, rest, rfl⟩ := List.exists_cons_of_ne_nil hText
  obtain ⟨count, rfl⟩ := Nat.exists_eq_succ_of_ne_zero (Nat.ne_of_gt hPos)
  unfold textLength at hWhole ⊢
  rw [List.take_succ_cons, List.cons_append, List.drop_succ_cons, List.drop_zero]
  simp only [List.drop_succ_cons, List.drop_zero] at hWhole ⊢
  rw [plainLength_cut hTail fun reference hFound hLt => by
    have hFits := hWhole reference hFound (by omega)
    omega]
  omega

end Lexeme

end ContentAssist.Markup
