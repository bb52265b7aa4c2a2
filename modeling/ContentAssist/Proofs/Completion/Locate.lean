import ContentAssist.Proofs.Completion.Innermost

/-! Which part of its content an element finds at an offset. The search counts the runs of text that it passes, and
the count is set against the list of all runs, in which each run is marked with the place of its part: the spans may
overlap, be empty or stand in any order, and equal runs are still told apart. -/
namespace ContentAssist

namespace Markup

/-- The part at the place is the first of the parts with the offset in its span. -/
structure IsFirstAround (parts : List ContentPart) (offset place : Nat) (part : ContentPart) : Prop where
  atPlace : parts[place]? = some part
  contains : part.span.contains offset = true
  before : ∀ other ∈ parts.take place, other.span.contains offset = false

/-- The runs of text, each with the place of its part. The first part has the place `start`. -/
def textsFrom (start : Nat) (parts : List ContentPart) : List (CharacterData × Nat) :=
  (parts.zipIdx start).filterMap fun entry => entry.1.text?.map fun run => (run, entry.2)

/-- The runs of text among the parts of the content, each with the place of its part. -/
def Content.placedTexts (content : Content) : List (CharacterData × Nat) :=
  textsFrom 0 content.parts

theorem map_fst_textsFrom (start : Nat) (parts : List ContentPart) :
    (textsFrom start parts).map Prod.fst = parts.filterMap ContentPart.text? := by
  have hRun : (fun entry : ContentPart × Nat => (entry.1.text?.map fun run => (run, entry.2)).map Prod.fst) =
      ContentPart.text? ∘ Prod.fst := by
    funext entry
    simp [Function.comp_def]
  rw [textsFrom, List.map_filterMap, hRun, ← List.filterMap_map, List.zipIdx_map_fst]

theorem Content.map_fst_placedTexts (content : Content) : content.placedTexts.map Prod.fst = content.texts :=
  map_fst_textsFrom 0 content.parts

theorem bounds_of_mem_textsFrom {start place : Nat} {parts : List ContentPart} {run : CharacterData}
    (h : (run, place) ∈ textsFrom start parts) : start ≤ place ∧ place < start + parts.length := by
  obtain ⟨⟨part, number⟩, hEntry, hRun⟩ := List.mem_filterMap.mp h
  obtain ⟨_, _, hSame⟩ := Option.map_eq_some_iff.mp hRun
  obtain rfl : number = place := congrArg Prod.snd hSame
  obtain ⟨hStart, hEnd, _⟩ := List.mem_zipIdx hEntry
  exact ⟨hStart, hEnd⟩

theorem eq_append_of_getElem? {place : Nat} {parts : List ContentPart} {part : ContentPart}
    (h : parts[place]? = some part) : parts = parts.take place ++ part :: parts.drop (place + 1) := by
  obtain ⟨hLt, hPart⟩ := List.getElem?_eq_some_iff.mp h
  rw [← hPart, ← List.drop_eq_getElem_cons hLt, List.take_append_drop]

/-- Around the run at a place stand the runs of the parts before it and of the parts behind it. -/
theorem textsFrom_eq_append {place : Nat} {parts : List ContentPart} {run : CharacterData}
    (h : parts[place]? = some (.text run)) :
    textsFrom 0 parts = textsFrom 0 (parts.take place) ++ (run, place) ::
      textsFrom (place + 1) (parts.drop (place + 1)) := by
  have hLt := (List.getElem?_eq_some_iff.mp h).1
  conv_lhs => rw [eq_append_of_getElem? h]
  simp only [textsFrom, List.zipIdx_append, List.zipIdx_cons, List.filterMap_append, List.length_take,
    Nat.min_eq_left hLt.le, Nat.zero_add, List.filterMap_cons, ContentPart.text?, Option.map_some]

/-- A run has as many runs before it as there are among the parts before its own. -/
theorem Content.getElem?_placedTexts_iff {content : Content} {place : Nat} {run : CharacterData}
    (h : content.parts[place]? = some (.text run)) (index : Nat) :
    content.placedTexts[index]? = some (run, place) ↔
      index = ((content.parts.take place).filterMap ContentPart.text?).length := by
  have hCount : (textsFrom 0 (content.parts.take place)).length =
      ((content.parts.take place).filterMap ContentPart.text?).length := by
    rw [← map_fst_textsFrom 0, List.length_map]
  rw [placedTexts, textsFrom_eq_append h, ← hCount]
  constructor
  · intro hEntry
    -- An equal run elsewhere is no excuse: the places before are smaller than this one, and those behind are larger.
    rcases Nat.lt_trichotomy index (textsFrom 0 (content.parts.take place)).length with hLt | hEq | hGt
    · rw [List.getElem?_append_left hLt] at hEntry
      have hPlace := (bounds_of_mem_textsFrom (List.mem_of_getElem? hEntry)).2
      rw [List.length_take] at hPlace
      omega
    · exact hEq
    · rw [List.getElem?_append_right hGt.le, List.getElem?_cons, if_neg (by omega)] at hEntry
      have hPlace := (bounds_of_mem_textsFrom (List.mem_of_getElem? hEntry)).1
      omega
  · rintro rfl
    rw [List.getElem?_append_right (Nat.le_refl _), Nat.sub_self, List.getElem?_cons_zero]

end Markup

namespace Completion

open Markup (IsFirstAround)

variable {parts : List Markup.ContentPart} {part : Markup.ContentPart} {offset place : Nat}

/-- The search passes over parts that do not have the offset in their spans, and counts the runs among them. -/
theorem locateFrom_append {before rest : List Markup.ContentPart}
    (hBefore : ∀ other ∈ before, other.span.contains offset = false) (seen : Nat) :
    locateFrom seen (before ++ rest) offset =
      locateFrom (seen + (before.filterMap Markup.ContentPart.text?).length) rest offset := by
  induction before generalizing seen with
  | nil => rfl
  | cons first before ih =>
      obtain ⟨hFirst, hBefore⟩ := List.forall_mem_cons.mp hBefore
      rw [List.cons_append, locateFrom, hFirst, if_neg Bool.false_ne_true, ih hBefore]
      cases first <;>
        simp [Markup.ContentPart.isText, Markup.ContentPart.text?, List.filterMap_cons, Nat.add_right_comm,
          Nat.add_assoc]

/-- The first part around the offset is found, a run of text by the number of the runs before it. -/
theorem locate_eq_of_isFirstAround (h : IsFirstAround parts offset place part) :
    locate parts offset = some
      (if part.isText then .text ((parts.take place).filterMap Markup.ContentPart.text?).length else .other) := by
  rw [locate]
  conv_lhs => rw [Markup.eq_append_of_getElem? h.atPlace]
  rw [locateFrom_append h.before, locateFrom, h.contains, if_pos rfl, Nat.zero_add]

theorem locate_eq_text_iff {content : Markup.Content} (h : IsFirstAround content.parts offset place part)
    (index : Nat) : locate content.parts offset = some (.text index) ↔
      ∃ run, part = .text run ∧ content.placedTexts[index]? = some (run, place) := by
  rw [locate_eq_of_isFirstAround h]
  cases part with
  | text run =>
      have hPlaced := Markup.Content.getElem?_placedTexts_iff h.atPlace index
      simpa [Markup.ContentPart.isText, hPlaced] using eq_comm
  | _ => simp [Markup.ContentPart.isText]

theorem locate_eq_other_iff (h : IsFirstAround parts offset place part) :
    locate parts offset = some .other ↔ part.isText = false := by
  rw [locate_eq_of_isFirstAround h]
  cases part.isText <;> simp

theorem exists_isFirstAround {hit : Hit} (h : locate parts offset = some hit) :
    ∃ place part, IsFirstAround parts offset place part := by
  cases hFind : parts.find? fun part => part.span.contains offset with
  | none =>
      have hNone : locate parts offset = none :=
        locateFrom_eq_none_iff.mpr fun part hPart => by simpa using List.find?_eq_none.mp hFind part hPart
      rw [hNone] at h
      cases h
  | some part =>
      obtain ⟨hContains, before, after, rfl, hBefore⟩ := List.find?_eq_some_iff_append.mp hFind
      refine ⟨before.length, part, by simp, hContains, ?_⟩
      rw [List.take_left]
      exact fun other hOther => by simpa using hBefore other hOther

/-- In a document that repeats the tree, the number of a run is that of its text. -/
theorem exists_text_of_locate {content : Markup.Content} {texts : List Document.Text} {index : Nat}
    (hTexts : List.Forall₂ Document.Text.Repeats content.texts texts)
    (hLocate : locate content.parts offset = some (.text index)) :
    ∃ place run text, IsFirstAround content.parts offset place (.text run) ∧ texts[index]? = some text ∧
      text.Repeats run := by
  obtain ⟨place, part, hFirst⟩ := exists_isFirstAround hLocate
  obtain ⟨run, rfl, hPlaced⟩ := (locate_eq_text_iff hFirst index).mp hLocate
  have hRun : content.texts[index]? = some run := by
    rw [← content.map_fst_placedTexts, List.getElem?_map, hPlaced, Option.map_some]
  obtain ⟨hRunLt, rfl⟩ := List.getElem?_eq_some_iff.mp hRun
  have hTextLt : index < texts.length := hTexts.length_eq ▸ hRunLt
  exact ⟨place, _, _, hFirst, List.getElem?_eq_getElem hTextLt, hTexts.get hRunLt hTextLt⟩

/-- Nothing is found exactly if no part has the offset in its span. Otherwise the first part that has it decides: a
run of text is found by its number in the list of the runs, and anything else as something else. So in an aligned
snapshot the number leads to the text that the document has for this very run. -/
theorem locate_first_around (content : Markup.Content) (offset : Nat) :
    (locate content.parts offset = none ↔ ∀ part ∈ content.parts, part.span.contains offset = false) ∧
    (∀ place part, IsFirstAround content.parts offset place part →
      (∀ index, locate content.parts offset = some (.text index) ↔
        ∃ run, part = .text run ∧ content.placedTexts[index]? = some (run, place)) ∧
      (locate content.parts offset = some .other ↔ part.isText = false)) ∧
    content.placedTexts.map Prod.fst = content.texts ∧
    ∀ (snapshot : Snapshot) (path : List Nat) (markup : Markup.Element) (element : Document.Element),
      snapshot.Aligned → snapshot.Pairs path markup element → markup.content = some content →
      ∀ index, locate content.parts offset = some (.text index) →
        ∃ place run text, IsFirstAround content.parts offset place (.text run) ∧
          element.texts[index]? = some text ∧ text.Repeats run := by
  refine ⟨locateFrom_eq_none_iff, ?_, content.map_fst_placedTexts, ?_⟩
  · intro place part hFirst
    exact ⟨locate_eq_text_iff hFirst, locate_eq_other_iff hFirst⟩
  · intro snapshot path markup element hAligned hPair hContent index hLocate
    have hTexts := (hAligned.repeats hPair).texts
    simp only [Markup.Element.runs, Markup.Element.parts, hContent, Option.map_some, Option.getD_some] at hTexts
    exact exists_text_of_locate hTexts hLocate

/-- A span with its ends the wrong way round is around nothing, but its run counts. -/
example : locate [.text ⟨[], ⟨9, 3⟩⟩, .comment (.ofImage .comment "<!-- -->" 7), .text ⟨[], ⟨0, 20⟩⟩,
    .reference ⟨.ofImage .entityReference "&a;" 5, ⟨5, 7⟩⟩] 6 = some (.text 1) := by
  decide

end Completion

end ContentAssist
