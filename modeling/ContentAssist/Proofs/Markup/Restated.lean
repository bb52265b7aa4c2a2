import ContentAssist.Proofs.Json.Members
import ContentAssist.Proofs.Snapshot.RoundTrip
import Mathlib.Logic.Relation

/-! The JSON form of a tree may be written shorter and in another order. Members that hold their default may be left
out, and the members of every object may stand in any order, the kind of a part among them; it is still the form of
the same tree. One step leaves out one member or reorders one object, anywhere in the form. What a reader makes of a
value before a step it makes of the value behind it, and so through any number of steps. -/
namespace ContentAssist.Markup

open Json (Slot slots? option? list? count? bool? string? valuesOf)

/-! ### Steps -/

/-- The records that a tree consists of. -/
inductive RecordKind where
  | tree
  | prolog
  | misc
  | element
  | attribute
  | content
  | characterData
  | reference
  | token
  | span

/-- What a value in the JSON form of a tree stands for. -/
inductive Form where
  | record (kind : RecordKind)
  /-- A part of content, which is a record with one more member for its kind -/
  | part
  | list (item : Form)

/-- A member of the objects that stand for a record. -/
structure Member where
  name : String
  /-- What the value stands for, if it is more than a string, a number or a truth value -/
  form : Option Form
  /-- The value for which the member may be left out, if there is one -/
  fallback : Option Json

/-- A slot for a token, which may be left out if it is empty. -/
def Member.slot (name : String) : Member :=
  ⟨name, some (.record .token), some .null⟩

def Member.attributes : Member :=
  ⟨"attributes", some (.list (.record .attribute)), some (.array [])⟩

/-- The span of a record, which may be left out if it is the span at the start of the text. -/
def Member.location : Member :=
  ⟨"location", some (.record .span), some (default : Span).toJson⟩

def RecordKind.members : RecordKind → List Member
  | .tree =>
    [⟨"prolog", some (.record .prolog), some .null⟩, ⟨"misc", some (.list (.record .misc)), some (.array [])⟩,
     ⟨"element", some (.record .element), some .null⟩, .location]
  | .prolog => [.slot "xmlDeclOpen", .attributes, .slot "specialClose", .location]
  | .misc => [⟨"token", some (.record .token), none⟩]
  | .element =>
    [.slot "open", .slot "name", .attributes, .slot "startClose",
     ⟨"content", some (.record .content), some .null⟩, .slot "slashOpen", .slot "endName", .slot "close",
     .slot "slashClose", .location]
  | .attribute => [.slot "name", .slot "equals", .slot "string", .location]
  | .content => [⟨"parts", some (.list .part), some (.array [])⟩, .location]
  | .characterData => [⟨"tokens", some (.list (.record .token)), some (.array [])⟩, .location]
  | .reference => [⟨"token", some (.record .token), none⟩, ⟨"location", some (.record .span), none⟩]
  | .token =>
    [⟨"kind", none, none⟩, ⟨"image", none, none⟩, ⟨"startOffset", none, none⟩, ⟨"endOffset", none, none⟩,
     ⟨"recovered", none, some (.bool false)⟩]
  | .span => [⟨"startOffset", none, none⟩, ⟨"endOffset", none, none⟩]

def RecordKind.names (kind : RecordKind) : List String :=
  kind.members.map Member.name

/-- The record that a part consists of, apart from its kind. -/
def PartKind.record : PartKind → RecordKind
  | .element => .element
  | .text => .characterData
  | .reference => .reference
  | .cdata | .processingInstruction | .comment => .token

/-- One step, at the value itself or somewhere inside. -/
inductive Restates : Form → Json → Json → Prop
  /-- Leave out a member that holds its default. -/
  | leaveOut {kind : RecordKind} (member : Member) {value : Json} (before after : List (Option String × Json))
      (hMember : member ∈ kind.members) (hDefault : member.fallback = some value) :
      Restates (.record kind) (.object (before ++ (some member.name, value) :: after)) (.object (before ++ after))
  /-- Put the members in another order. -/
  | reorder {kind : RecordKind} {members members' : List (Option String × Json)} (hOrder : members.Perm members') :
      Restates (.record kind) (.object members) (.object members')
  /-- Restate the value of a member. -/
  | inMember {kind : RecordKind} (member : Member) {form : Form} {value value' : Json}
      (before after : List (Option String × Json)) (hMember : member ∈ kind.members)
      (hForm : member.form = some form) (hValue : Restates form value value') :
      Restates (.record kind) (.object (before ++ (some member.name, value) :: after))
        (.object (before ++ (some member.name, value') :: after))
  /-- Restate an item. -/
  | inItem {form : Form} {item item' : Json} (before after : List Json) (hItem : Restates form item item') :
      Restates (.list form) (.array (before ++ item :: after)) (.array (before ++ item' :: after))
  /-- Restate a part as the record that its kind names. The kind is one of the members and moves with them. -/
  | inPart (kind : PartKind) {members members' : List (Option String × Json)}
      (hKind : (some "part", .ofString kind.label) ∈ members)
      (hFields : Restates (.record kind.record) (.object members) (.object members')) :
      Restates .part (.object members) (.object members')

section Steps

variable {form : Form} {kind : RecordKind} {value value' : Json} {members members' : List (Option String × Json)}

/-- A step makes nothing deeper and keeps sound what was sound. -/
theorem Restates.within (h : Restates form value value') {levels : Nat}
    (hWithin : value.within levels = true) : value'.within levels = true := by
  induction h generalizing levels with
  | leaveOut _ before after _ _ =>
      obtain ⟨below, rfl, hMembers⟩ := Json.within_object_iff.mp hWithin
      refine Json.within_object_iff.mpr ⟨below, rfl, fun member hMember => hMembers member ?_⟩
      simp only [List.mem_append, List.mem_cons] at hMember ⊢
      exact hMember.imp_right Or.inr
  | reorder hOrder =>
      obtain ⟨below, rfl, hMembers⟩ := Json.within_object_iff.mp hWithin
      exact Json.within_object_iff.mpr ⟨below, rfl, fun member hMember => hMembers member (hOrder.mem_iff.mpr hMember)⟩
  | inMember _ before after _ _ _ ih =>
      obtain ⟨below, rfl, hMembers⟩ := Json.within_object_iff.mp hWithin
      refine Json.within_object_iff.mpr ⟨below, rfl, fun member hMember => ?_⟩
      simp only [List.mem_append, List.mem_cons] at hMember
      rcases hMember with hBefore | rfl | hAfter
      · exact hMembers member (by simp [hBefore])
      · exact ⟨rfl, ih (hMembers (_, _) (List.mem_append_right _ (List.mem_cons_self ..))).2⟩
      · exact hMembers member (by simp [hAfter])
  | inItem before after _ ih =>
      obtain ⟨below, rfl, hItems⟩ := Json.within_array_iff.mp hWithin
      refine Json.within_array_iff.mpr ⟨below, rfl, fun item hItem => ?_⟩
      simp only [List.mem_append, List.mem_cons] at hItem
      rcases hItem with hBefore | rfl | hAfter
      · exact hItems item (by simp [hBefore])
      · exact ih (hItems _ (by simp))
      · exact hItems item (by simp [hAfter])
  | inPart _ _ _ ih => exact ih hWithin

theorem Restates.ne_null (h : Restates form value value') : value ≠ .null ∧ value' ≠ .null := by
  cases h <;> exact ⟨nofun, nofun⟩

/-! ### What is found under the names of a record -/

theorem RecordKind.nodup_names (kind : RecordKind) : kind.names.Nodup := by
  cases kind <;> decide

theorem RecordKind.part_not_mem_names (kind : RecordKind) : "part" ∉ kind.names := by
  cases kind <;> decide

theorem RecordKind.eq_of_name_eq {member other : Member} (hMember : member ∈ kind.members)
    (hOther : other ∈ kind.members) (hName : other.name = member.name) : other = member :=
  List.inj_on_of_nodup_map kind.nodup_names hOther hMember hName

/-- What a step does to one of the fields of a record. -/
inductive RestatesField (member : Member) : Slot → Slot → Prop
  | same (slot : Slot) : RestatesField member slot slot
  | changed {form : Form} {value value' : Json} (hForm : member.form = some form)
      (hValue : Restates form value value') : RestatesField member (.given value) (.given value')
  | leftOut {value : Json} (hDefault : member.fallback = some value) : RestatesField member (.given value) .noMember

theorem Restates.field (h : Restates (.record kind) (.object members) (.object members')) {member : Member}
    (hMember : member ∈ kind.members) {slot : Slot} (hSlot : Slot.ofValues (valuesOf member.name members) = some slot) :
    ∃ slot', Slot.ofValues (valuesOf member.name members') = some slot' ∧ RestatesField member slot slot' := by
  cases h with
  | @leaveOut _ other value before after hOther hDefault =>
      by_cases hName : other.name = member.name
      · obtain rfl := RecordKind.eq_of_name_eq hMember hOther hName
        rw [Json.valuesOf_append, Json.valuesOf_cons_same] at hSlot
        obtain ⟨hBefore, hAfter, rfl⟩ := Slot.of_ofValues_append_cons hSlot
        rw [Json.valuesOf_append, hBefore, hAfter]
        exact ⟨.noMember, rfl, .leftOut hDefault⟩
      · rw [Json.valuesOf_append, Json.valuesOf_cons_other hName, ← Json.valuesOf_append] at hSlot
        exact ⟨slot, hSlot, .same slot⟩
  | reorder hOrder =>
      rw [Slot.ofValues_perm (Json.valuesOf_perm hOrder)] at hSlot
      exact ⟨slot, hSlot, .same slot⟩
  | @inMember _ other form value value' before after hOther hForm hValue =>
      by_cases hName : other.name = member.name
      · obtain rfl := RecordKind.eq_of_name_eq hMember hOther hName
        rw [Json.valuesOf_append, Json.valuesOf_cons_same] at hSlot
        obtain ⟨hBefore, hAfter, rfl⟩ := Slot.of_ofValues_append_cons hSlot
        rw [Json.valuesOf_append, Json.valuesOf_cons_same, hBefore, hAfter]
        exact ⟨.given value', rfl, .changed hForm hValue⟩
      · rw [Json.valuesOf_append, Json.valuesOf_cons_other hName, ← Json.valuesOf_append] at hSlot
        refine ⟨slot, ?_, .same slot⟩
        rw [Json.valuesOf_append, Json.valuesOf_cons_other hName, ← Json.valuesOf_append, hSlot]

theorem Restates.keys (h : Restates (.record kind) (.object members) (.object members'))
    (hKeys : (members.all fun member => member.1.isSome) = true) :
    (members'.all fun member => member.1.isSome) = true := by
  cases h with
  | leaveOut _ before after _ _ =>
      simp only [List.all_append, List.all_cons, Bool.and_eq_true] at hKeys ⊢
      exact ⟨hKeys.1, hKeys.2.2⟩
  | reorder hOrder => rwa [← hOrder.all_eq]
  | inMember _ before after _ _ _ =>
      simpa only [List.all_append, List.all_cons] using hKeys

/-- What a step does to the fields of a record, one by one. -/
inductive RestatesFields : List Member → List Slot → List Slot → Prop
  | nil : RestatesFields [] [] []
  | cons {member : Member} {slot slot' : Slot} {members : List Member} {slots slots' : List Slot}
      (first : RestatesField member slot slot') (rest : RestatesFields members slots slots') :
      RestatesFields (member :: members) (slot :: slots) (slot' :: slots')

theorem Restates.fieldsAmong (h : Restates (.record kind) (.object members) (.object members'))
    {declared : List Member} (hAmong : ∀ member ∈ declared, member ∈ kind.members) {slots : List Slot}
    (hFields : List.Forall₂ (fun member slot => Slot.ofValues (valuesOf member.name members) = some slot)
      declared slots) :
    ∃ slots', List.Forall₂ (fun member slot => Slot.ofValues (valuesOf member.name members') = some slot)
      declared slots' ∧ RestatesFields declared slots slots' := by
  induction hFields with
  | nil => exact ⟨[], .nil, .nil⟩
  | cons hSlot _ ih =>
      obtain ⟨hMember, hRest⟩ := List.forall_mem_cons.mp hAmong
      obtain ⟨slot', hSlot', hField⟩ := h.field hMember hSlot
      obtain ⟨slots', hSlots', hFields'⟩ := ih hRest
      exact ⟨slot' :: slots', .cons hSlot' hSlots', .cons hField hFields'⟩

/-- A record that could be taken apart can still be taken apart. -/
theorem Restates.fields (h : Restates (.record kind) value value') {slots : List Slot}
    (hSlots : slots? kind.names value = some slots) :
    ∃ slots', slots? kind.names value' = some slots' ∧ RestatesFields kind.members slots slots' := by
  obtain ⟨members, members', rfl, rfl⟩ : ∃ members members', value = .object members ∧ value' = .object members' := by
    cases h <;> exact ⟨_, _, rfl, rfl⟩
  obtain ⟨hKeys, hFields⟩ := Json.slots?_object_eq_some_iff.mp hSlots
  simp only [Json.slots?_object_eq_some_iff, h.keys hKeys, true_and, RecordKind.names,
    List.forall₂_map_left_iff] at hFields ⊢
  exact h.fieldsAmong (fun _ hMember => hMember) hFields

end Steps

/-! ### Readers that do not mind -/

/-- Whatever the first gives, the second gives too. -/
def Kept {α : Type} (first second : Option α) : Prop :=
  ∀ result, first = some result → second = some result

namespace Kept

variable {α β : Type} {first second : Option α}

theorem refl (first : Option α) : Kept first first :=
  fun _ h => h

theorem of_none : Kept none second :=
  nofun

theorem bind {next next' : α → Option β} (h : Kept first second) (hNext : ∀ result, Kept (next result) (next' result)) :
    Kept (first >>= next) (second >>= next') := by
  intro result hResult
  obtain ⟨middle, hFirst, hMiddle⟩ := Option.bind_eq_some_iff.mp hResult
  exact Option.bind_eq_some_iff.mpr ⟨middle, h middle hFirst, hNext middle result hMiddle⟩

theorem map (h : Kept first second) (f : α → β) : Kept (first.map f) (second.map f) := by
  intro result hResult
  obtain ⟨middle, hFirst, hMiddle⟩ := Option.map_eq_some_iff.mp hResult
  exact Option.map_eq_some_iff.mpr ⟨middle, h middle hFirst, hMiddle⟩

end Kept

/-- The reader gives the same for a value that is restated. -/
def Keeps {α : Type} (form : Form) (read : Json → Option α) : Prop :=
  ∀ value value', Restates form value value' → Kept (read value) (read value')

section Fields

variable {α : Type} {member : Member} {slot slot' : Slot} {read : Json → Option α}

/-- A member that has to be there and holds nothing that could be restated stays as it is. -/
theorem RestatesField.eq {name : String} (h : RestatesField ⟨name, none, none⟩ slot slot') : slot = slot' := by
  cases h with
  | same => rfl
  | changed hForm _ => cases hForm
  | leftOut hDefault => cases hDefault

theorem RestatesField.required (h : RestatesField member slot slot') (hDefault : member.fallback = none)
    (hForm : ∀ form, member.form = some form → Keeps form read) :
    Kept (slot.required read) (slot'.required read) := by
  cases h with
  | same => exact .refl _
  | changed hOf hValue => exact hForm _ hOf _ _ hValue
  | leftOut hFallback => rw [hDefault] at hFallback; cases hFallback

theorem RestatesField.orElse {fallback : α} (h : RestatesField member slot slot')
    (hDefault : ∀ value, member.fallback = some value → Kept (read value) (some fallback))
    (hForm : ∀ form, member.form = some form → Keeps form read) :
    Kept (slot.orElse fallback read) (slot'.orElse fallback read) := by
  cases h with
  | same => exact .refl _
  | changed hOf hValue => exact hForm _ hOf _ _ hValue
  | leftOut hFallback => exact hDefault _ hFallback

theorem Keeps.option {form : Form} (h : Keeps form read) : Keeps form (option? read) := by
  intro value value' hValue
  obtain ⟨hNull, hNull'⟩ := hValue.ne_null
  rw [Json.option?_of_ne_null hNull, Json.option?_of_ne_null hNull']
  exact (h value value' hValue).map some

theorem Keeps.list {form : Form} {read : Nat → Json → Option α} {levels : Nat}
    (h : ∀ below < levels, Keeps form (read below)) : Keeps (.list form) (list? read levels) := by
  intro value value' hValue
  cases levels with
  | zero => exact .of_none
  | succ levels =>
      cases hValue with
      | inItem before after hItem =>
          rw [list?, list?, List.mapM_append, List.mapM_append, List.mapM_cons, List.mapM_cons]
          have hRead := h levels (Nat.lt_succ_self _) _ _ hItem
          exact Kept.bind (.refl _) fun _ => Kept.bind (hRead.bind fun _ => .refl _) fun _ => .refl _

/-- A member for a value that may be missing. -/
theorem RestatesField.option {name : String} {form : Form}
    (h : RestatesField ⟨name, some form, some .null⟩ slot slot') (hRead : Keeps form read) :
    Kept (slot.orElse none (option? read)) (slot'.orElse none (option? read)) := by
  apply h.orElse
  · rintro _ ⟨⟩
    exact .refl _
  · rintro _ ⟨⟩
    exact hRead.option

/-- A member for a list. -/
theorem RestatesField.list {name : String} {form : Form} {read : Nat → Json → Option α} {levels : Nat}
    (h : RestatesField ⟨name, some (.list form), some (.array [])⟩ slot slot')
    (hRead : ∀ below < levels, Keeps form (read below)) :
    Kept (slot.orElse [] (list? read levels)) (slot'.orElse [] (list? read levels)) := by
  apply h.orElse
  · rintro _ ⟨⟩
    cases levels with
    | zero => exact .of_none
    | succ levels => exact .refl _
  · rintro _ ⟨⟩
    exact Keeps.list hRead

end Fields

/-! ### The readers of the records -/

theorem span_keeps (levels : Nat) : Keeps (.record .span) (Span.ofJson? levels) := by
  intro value value' hValue
  cases levels with
  | zero => exact .of_none
  | succ levels =>
      rw [Span.ofJson?, Span.ofJson?]
      cases hSlots : slots? ["startOffset", "endOffset"] value with
      | none => exact .of_none
      | some slots =>
          obtain ⟨slots', hSlots', _ | ⟨hStart, _ | ⟨hEnd, _ | _⟩⟩⟩ := hValue.fields hSlots
          rw [show slots? ["startOffset", "endOffset"] value' = _ from hSlots']
          obtain rfl := hStart.eq
          obtain rfl := hEnd.eq
          exact .refl _

theorem RestatesField.location {slot slot' : Slot} (h : RestatesField .location slot slot') (levels : Nat) :
    Kept (slot.orElse default (Span.ofJson? levels)) (slot'.orElse default (Span.ofJson? levels)) := by
  apply h.orElse
  · rintro _ ⟨⟩
    cases levels with
    | zero => exact .of_none
    | succ levels => exact .refl _
  · rintro _ ⟨⟩
    exact span_keeps levels

theorem Token.keeps (whole : Bool) (levels : Nat) : Keeps (.record .token) (Token.ofJson? whole levels) := by
  intro value value' hValue
  cases levels with
  | zero => exact .of_none
  | succ levels =>
      rw [Token.ofJson?, Token.ofJson?]
      cases hSlots : slots? ["kind", "image", "startOffset", "endOffset", "recovered"] value with
      | none => exact .of_none
      | some slots =>
          obtain ⟨slots', hSlots',
            _ | ⟨hKind, _ | ⟨hImage, _ | ⟨hStart, _ | ⟨hEnd, _ | ⟨hRecovered, _ | _⟩⟩⟩⟩⟩⟩ := hValue.fields hSlots
          rw [show slots? ["kind", "image", "startOffset", "endOffset", "recovered"] value' = _ from hSlots']
          obtain rfl := hKind.eq
          obtain rfl := hImage.eq
          obtain rfl := hStart.eq
          obtain rfl := hEnd.eq
          refine Kept.bind (.refl _) fun kind => Kept.bind (.refl _) fun image => Kept.bind (.refl _) fun startOffset =>
            Kept.bind (.refl _) fun endOffset => (hRecovered.orElse ?_ ?_).bind fun _ => .refl _
          · rintro _ ⟨⟩
            exact .refl _
          · rintro _ ⟨⟩

theorem RestatesField.slot {name : String} {slot slot' : Slot} (h : RestatesField (.slot name) slot slot')
    (whole : Bool) (levels : Nat) : Kept (slotOfJson? whole levels slot) (slotOfJson? whole levels slot') :=
  h.option (Token.keeps whole levels)

theorem Attribute.keeps (whole : Bool) (levels : Nat) :
    Keeps (.record .attribute) (Attribute.ofJson? whole levels) := by
  intro value value' hValue
  cases levels with
  | zero => exact .of_none
  | succ levels =>
      rw [Attribute.ofJson?, Attribute.ofJson?]
      cases hSlots : slots? ["name", "equals", "string", "location"] value with
      | none => exact .of_none
      | some slots =>
          obtain ⟨slots', hSlots', _ | ⟨hName, _ | ⟨hEquals, _ | ⟨hString, _ | ⟨hSpan, _ | _⟩⟩⟩⟩⟩ :=
            hValue.fields hSlots
          rw [show slots? ["name", "equals", "string", "location"] value' = _ from hSlots']
          apply (hName.slot whole levels).bind
          intro name
          apply (hEquals.slot whole levels).bind
          intro equals
          apply (hString.slot whole levels).bind
          intro string
          exact (hSpan.location levels).bind fun _ => .refl _

theorem CharacterData.keeps (whole : Bool) (levels : Nat) :
    Keeps (.record .characterData) (CharacterData.ofJson? whole levels) := by
  intro value value' hValue
  cases levels with
  | zero => exact .of_none
  | succ levels =>
      rw [CharacterData.ofJson?, CharacterData.ofJson?]
      cases hSlots : slots? ["tokens", "location"] value with
      | none => exact .of_none
      | some slots =>
          obtain ⟨slots', hSlots', _ | ⟨hTokens, _ | ⟨hSpan, _ | _⟩⟩⟩ := hValue.fields hSlots
          rw [show slots? ["tokens", "location"] value' = _ from hSlots']
          apply (hTokens.list fun below _ => Token.keeps whole below).bind
          intro tokens
          exact (hSpan.location levels).bind fun _ => .refl _

theorem Reference.keeps (whole : Bool) (levels : Nat) :
    Keeps (.record .reference) (Reference.ofJson? whole levels) := by
  intro value value' hValue
  cases levels with
  | zero => exact .of_none
  | succ levels =>
      rw [Reference.ofJson?, Reference.ofJson?]
      cases hSlots : slots? ["token", "location"] value with
      | none => exact .of_none
      | some slots =>
          obtain ⟨slots', hSlots', _ | ⟨hToken, _ | ⟨hSpan, _ | _⟩⟩⟩ := hValue.fields hSlots
          rw [show slots? ["token", "location"] value' = _ from hSlots']
          apply (hToken.required rfl _).bind
          · intro token
            apply (hSpan.required rfl _).bind fun _ => .refl _
            rintro _ ⟨⟩
            exact span_keeps levels
          · rintro _ ⟨⟩
            exact Token.keeps whole levels

/-! ### Parts, content and elements -/

theorem splitPart?_object_iff {members : List (Option String × Json)} {tag fields : Json} :
    splitPart? (.object members) = some (tag, fields) ↔ valuesOf "part" members = [tag] ∧
      fields = .object (members.filter fun member => member.1 ≠ some "part") := by
  rw [splitPart?, valuesOf]
  generalize members.filter (fun member => member.1 = some "part") = found
  rcases found with _ | ⟨⟨key, value⟩, _ | _⟩
  · simp
  · simp only [Option.some.injEq, Prod.mk.injEq, List.map_cons, List.map_nil, List.cons.injEq, and_true]
    exact and_congr_right fun _ => eq_comm
  · simp

/-- What is done to a part is done to its fields, since no field of a record is named like the kind of a part. -/
theorem Restates.withoutPart {kind : RecordKind} {members members' : List (Option String × Json)}
    (h : Restates (.record kind) (.object members) (.object members')) {tag : Json}
    (hTag : valuesOf "part" members = [tag]) :
    valuesOf "part" members' = [tag] ∧
      Restates (.record kind) (.object (members.filter fun member => member.1 ≠ some "part"))
        (.object (members'.filter fun member => member.1 ≠ some "part")) := by
  have hNames : ∀ member ∈ kind.members, member.name ≠ "part" := by
    intro member hMember hName
    exact kind.part_not_mem_names (hName ▸ List.mem_map_of_mem hMember)
  cases h with
  | leaveOut _ before after hMember hDefault =>
      have hName := hNames _ hMember
      rw [Json.valuesOf_append, Json.valuesOf_cons_other hName] at hTag
      rw [Json.valuesOf_append, List.filter_append, List.filter_append, List.filter_cons_of_pos (by simpa using hName)]
      exact ⟨hTag, .leaveOut _ _ _ hMember hDefault⟩
  | reorder hOrder =>
      have hPerm : (valuesOf "part" members).Perm (valuesOf "part" members') := Json.valuesOf_perm hOrder
      rw [hTag] at hPerm
      exact ⟨(List.singleton_perm.mp hPerm).symm, .reorder (hOrder.filter _)⟩
  | inMember _ before after hMember hForm hValue =>
      have hName := hNames _ hMember
      rw [Json.valuesOf_append, Json.valuesOf_cons_other hName] at hTag
      rw [Json.valuesOf_append, Json.valuesOf_cons_other hName, List.filter_append, List.filter_append,
        List.filter_cons_of_pos (by simpa using hName), List.filter_cons_of_pos (by simpa using hName)]
      exact ⟨hTag, .inMember _ _ _ hMember hForm hValue⟩

theorem PartKind.read?_keeps {readElement : Json → Option Element} (hElement : Keeps (.record .element) readElement)
    (levels : Nat) (kind : PartKind) :
    Keeps (.record kind.record) fun fields => kind.read? levels readElement fields := by
  intro value value' hValue
  cases kind with
  | element => exact (hElement value value' hValue).map ContentPart.element
  | text => exact (CharacterData.keeps true levels value value' hValue).map ContentPart.text
  | reference => exact (Reference.keeps true levels value value' hValue).map ContentPart.reference
  | cdata => exact (Token.keeps true levels value value' hValue).map ContentPart.cdata
  | processingInstruction => exact (Token.keeps true levels value value' hValue).map ContentPart.processingInstruction
  | comment => exact (Token.keeps true levels value value' hValue).map ContentPart.comment

theorem ContentPart.read?_eq {whole : Bool} {levels : Nat} {readElement : Json → Option Element}
    {value tag fields : Json} {kind : PartKind} (hWithin : value.within levels = true)
    (hSplit : splitPart? value = some (tag, fields)) (hKind : PartKind.ofJson? whole tag = some kind) :
    ContentPart.read? whole levels readElement value = kind.read? levels readElement fields := by
  simp only [ContentPart.read?, hWithin, Bool.not_true, Bool.false_eq_true, if_false, hSplit, Option.bind_eq_bind,
    Option.bind_some, hKind]
  cases kind <;> rfl

theorem ContentPart.keeps {readElement : Json → Option Element} (hElement : Keeps (.record .element) readElement)
    (whole : Bool) (levels : Nat) : Keeps .part (ContentPart.read? whole levels readElement) := by
  intro value value' hValue part hRead
  have hWithin : value.within levels = true := by
    by_contra hNot
    simp [ContentPart.read?, hNot] at hRead
  have hWithin' := hValue.within hWithin
  cases hValue with
  | @inPart kind members members' hKind hFields =>
      cases hSplit : splitPart? (.object members) with
      | none => simp [ContentPart.read?, hWithin, hSplit] at hRead
      | some split =>
          obtain ⟨tag, fields⟩ := split
          obtain ⟨hTag, rfl⟩ := splitPart?_object_iff.mp hSplit
          -- The object has one kind only, so the kind that is read is the one that the step goes by.
          obtain rfl : .ofString kind.label = tag := by
            have hMem : Json.ofString kind.label ∈ valuesOf "part" members :=
              List.mem_map.mpr ⟨_, List.mem_filter.mpr ⟨hKind, by simp⟩, rfl⟩
            rwa [hTag, List.mem_singleton] at hMem
          obtain ⟨hTag', hFields'⟩ := hFields.withoutPart hTag
          rw [ContentPart.read?_eq hWithin hSplit (PartKind.ofJson?_label whole kind)] at hRead
          rw [ContentPart.read?_eq hWithin' (splitPart?_object_iff.mpr ⟨hTag', rfl⟩)
            (PartKind.ofJson?_label whole kind)]
          exact kind.read?_keeps hElement levels _ _ hFields' part hRead

theorem Content.keeps (whole : Bool) {levels : Nat}
    (hElement : ∀ below < levels, Keeps (.record .element) (Element.ofJson? true below)) :
    Keeps (.record .content) (Content.ofJson? whole levels) := by
  intro value value' hValue
  cases levels with
  | zero => exact .of_none
  | succ levels =>
      rw [Content.ofJson?, Content.ofJson?, partsOfJson?_eq]
      cases hSlots : slots? ["parts", "location"] value with
      | none => exact .of_none
      | some slots =>
          obtain ⟨slots', hSlots', _ | ⟨hParts, _ | ⟨hSpan, _ | _⟩⟩⟩ := hValue.fields hSlots
          rw [show slots? ["parts", "location"] value' = _ from hSlots']
          apply (hParts.list _).bind
          · intro parts
            exact (hSpan.location levels).bind fun _ => .refl _
          · intro below hBelow
            exact ContentPart.keeps (hElement below (by omega)) whole below

theorem Element.keeps (whole : Bool) (levels : Nat) : Keeps (.record .element) (Element.ofJson? whole levels) := by
  -- The elements in the content are read with fewer levels, whatever the value is.
  induction levels using Nat.strong_induction_on generalizing whole with
  | _ levels ih =>
      intro value value' hValue
      cases levels with
      | zero => exact .of_none
      | succ levels =>
          rw [Element.ofJson?, Element.ofJson?]
          cases hSlots : slots? ["open", "name", "attributes", "startClose", "content", "slashOpen", "endName", "close",
            "slashClose", "location"] value with
          | none => exact .of_none
          | some slots =>
              obtain ⟨slots', hSlots', _ | ⟨hOpen, _ | ⟨hName, _ | ⟨hAttributes, _ | ⟨hStartClose, _ | ⟨hContent,
                _ | ⟨hSlashOpen, _ | ⟨hEndName, _ | ⟨hClose, _ | ⟨hSlashClose, _ | ⟨hSpan, _ | _⟩⟩⟩⟩⟩⟩⟩⟩⟩⟩⟩ :=
                hValue.fields hSlots
              rw [show slots? ["open", "name", "attributes", "startClose", "content", "slashOpen", "endName", "close",
                "slashClose", "location"] value' = _ from hSlots']
              apply (hOpen.slot whole levels).bind
              intro openAngle
              apply (hName.slot whole levels).bind
              intro name
              apply (hAttributes.list fun below _ => Attribute.keeps whole below).bind
              intro attributes
              apply (hStartClose.slot whole levels).bind
              intro startClose
              apply (hContent.option (Content.keeps whole fun below hBelow => ih below (by omega) true)).bind
              intro content
              apply (hSlashOpen.slot whole levels).bind
              intro slashOpen
              apply (hEndName.slot whole levels).bind
              intro endName
              apply (hClose.slot whole levels).bind
              intro close
              apply (hSlashClose.slot whole levels).bind
              intro slashClose
              exact (hSpan.location levels).bind fun _ => .refl _

theorem Prolog.keeps (levels : Nat) : Keeps (.record .prolog) (Prolog.ofJson? levels) := by
  intro value value' hValue
  cases levels with
  | zero => exact .of_none
  | succ levels =>
      rw [Prolog.ofJson?, Prolog.ofJson?]
      cases hSlots : slots? ["xmlDeclOpen", "attributes", "specialClose", "location"] value with
      | none => exact .of_none
      | some slots =>
          obtain ⟨slots', hSlots', _ | ⟨hOpen, _ | ⟨hAttributes, _ | ⟨hClose, _ | ⟨hSpan, _ | _⟩⟩⟩⟩⟩ :=
            hValue.fields hSlots
          rw [show slots? ["xmlDeclOpen", "attributes", "specialClose", "location"] value' = _ from hSlots']
          apply (hOpen.slot false levels).bind
          intro declarationOpen
          apply (hAttributes.list fun below _ => Attribute.keeps false below).bind
          intro attributes
          apply (hClose.slot false levels).bind
          intro specialClose
          exact (hSpan.location levels).bind fun _ => .refl _

theorem Misc.keeps (levels : Nat) : Keeps (.record .misc) (Misc.ofJson? levels) := by
  intro value value' hValue
  cases levels with
  | zero => exact .of_none
  | succ levels =>
      rw [Misc.ofJson?, Misc.ofJson?]
      cases hSlots : slots? ["token"] value with
      | none => exact .of_none
      | some slots =>
          obtain ⟨slots', hSlots', _ | ⟨hToken, _ | _⟩⟩ := hValue.fields hSlots
          rw [show slots? ["token"] value' = _ from hSlots']
          refine (hToken.required rfl ?_).map Misc.mk
          rintro _ ⟨⟩
          exact Token.keeps false levels

theorem Tree.keeps (levels : Nat) : Keeps (.record .tree) (Tree.ofJson? levels) := by
  intro value value' hValue
  cases levels with
  | zero => exact .of_none
  | succ levels =>
      rw [Tree.ofJson?, Tree.ofJson?]
      cases hSlots : slots? ["prolog", "misc", "element", "location"] value with
      | none => exact .of_none
      | some slots =>
          obtain ⟨slots', hSlots', _ | ⟨hProlog, _ | ⟨hMisc, _ | ⟨hElement, _ | ⟨hSpan, _ | _⟩⟩⟩⟩⟩ :=
            hValue.fields hSlots
          rw [show slots? ["prolog", "misc", "element", "location"] value' = _ from hSlots']
          apply (hProlog.option (Prolog.keeps levels)).bind
          intro prolog
          apply (hMisc.list fun below _ => Misc.keeps below).bind
          intro misc
          apply (hElement.option (Element.keeps false levels)).bind
          intro element
          exact (hSpan.location levels).bind fun _ => .refl _

/-! ### Trees -/

/-- Any number of steps, wherever they are. -/
abbrev RestatesAll (form : Form) : Json → Json → Prop :=
  Relation.ReflTransGen (Restates form)

theorem Keeps.all {α : Type} {form : Form} {read : Json → Option α} (h : Keeps form read) {value value' : Json}
    (hAll : RestatesAll form value value') : Kept (read value) (read value') := by
  induction hAll with
  | refl => exact .refl _
  | tail _ hLast ih =>
      intro result hResult
      exact h _ _ hLast result (ih result hResult)

/-- Every way to restate the JSON form of a tree, with members left out that hold their default and with the members
of the objects in another order, is read as the same tree. -/
theorem Tree.read_restated (tree : Tree) (value : Json) (hNesting : tree.toJson.nesting ≤ Json.maxLevels)
    (hCounts : tree.toJson.countsFit = true) (hRestated : RestatesAll (.record .tree) tree.toJson value) :
    (Json.parse? value.compact).bind (Tree.ofJson? Json.maxLevels) = some tree ∧
      (Json.parse? value.pretty).bind (Tree.ofJson? Json.maxLevels) = some tree := by
  have hWritten := (tree.readsBack Json.maxLevels ⟨hNesting, hCounts⟩).2
  have hRead := (Tree.keeps Json.maxLevels).all hRestated tree hWritten
  rw [Json.parse?_compact, Json.parse?_pretty]
  exact ⟨hRead, hRead⟩

/-- A tree with parts of two kinds, and with most of its slots empty. -/
def Tree.sparse : Tree :=
  let child : Element := ⟨some (.ofImage .openAngle "<" 4), none, [], none, none, none, none, none, none, ⟨4, 4⟩⟩
  let content : Content := ⟨[.element child, .comment (.ofImage .comment "<!---->" 5)], ⟨4, 11⟩⟩
  ⟨none, [], some ⟨none, none, [], none, some content, none, none, none, none, default⟩, default⟩

/-- The JSON form of the tree without the prolog that it does not have, and with the given parts. -/
def Tree.sparseAround (first second : Json) : Json :=
  .ofMembers
    [("misc", .array []),
     ("element", .ofMembers
       [("open", .null), ("name", .null), ("attributes", .array []), ("startClose", .null),
        ("content", .ofMembers [("parts", .array [first, second]), ("location", Span.toJson ⟨4, 11⟩)]),
        ("slashOpen", .null), ("endName", .null), ("close", .null), ("slashClose", .null),
        ("location", Span.toJson ⟨0, 0⟩)]),
     ("location", Span.toJson ⟨0, 0⟩)]

/-- The child without the attributes that it does not have, and with its kind behind all else. -/
def Tree.sparseChild : Json :=
  .ofMembers
    [("location", Span.toJson ⟨4, 4⟩), ("slashClose", .null), ("close", .null), ("endName", .null),
     ("slashOpen", .null), ("content", .null), ("startClose", .null), ("name", .null),
     ("open", (Token.ofImage .openAngle "<" 4).toJson), ("part", .ofString "element")]

/-- The comment, which does not say that it was written. -/
def Tree.sparseComment : Json :=
  .ofMembers
    [("part", .ofString "comment"), ("kind", .ofString "COMMENT"), ("image", .ofString "<!---->"),
     ("startOffset", .count 5), ("endOffset", .count 11)]

theorem Tree.restates_sparseAround {first second first' second' : Json}
    (h : Restates (.list .part) (.array [first, second]) (.array [first', second'])) :
    Restates (.record .tree) (sparseAround first second) (sparseAround first' second') := by
  refine .inMember ⟨"element", some (.record .element), some .null⟩ [_] [_] ?_ rfl
    (.inMember ⟨"content", some (.record .content), some .null⟩ [_, _, _, _] [_, _, _, _, _] ?_ rfl
      (.inMember ⟨"parts", some (.list .part), some (.array [])⟩ [] [_] ?_ rfl h))
  all_goals simp [RecordKind.members]

theorem Tree.restatesAll_sparse :
    RestatesAll (.record .tree) sparse.toJson (sparseAround sparseChild sparseComment) := by
  have hAttributes : Member.attributes ∈ RecordKind.element.members := by simp [RecordKind.members]
  have hRecovered : ⟨"recovered", none, some (.bool false)⟩ ∈ RecordKind.token.members := by simp [RecordKind.members]
  refine .head (.leaveOut ⟨"prolog", some (.record .prolog), some .null⟩ [] _ (List.mem_cons_self ..) rfl) ?_
  refine .head (restates_sparseAround (.inItem [] [_] (.inPart .element (List.mem_cons_self ..)
    (.leaveOut .attributes [_, _, _] [_, _, _, _, _, _, _] hAttributes rfl)))) ?_
  refine .head (restates_sparseAround (.inItem [] [_] (.inPart .element (List.mem_cons_self ..)
    (.reorder (List.reverse_perm _).symm)))) ?_
  exact .single (restates_sparseAround (.inItem [_] [] (.inPart .comment (List.mem_cons_self ..)
    (.leaveOut ⟨"recovered", none, some (.bool false)⟩ [_, _, _, _, _] [] hRecovered rfl))))

theorem Tree.read_restated_sparse : sparse.toJson.nesting ≤ Json.maxLevels ∧ sparse.toJson.countsFit = true ∧
    RestatesAll (.record .tree) sparse.toJson (sparseAround sparseChild sparseComment) ∧
    (Json.parse? (sparseAround sparseChild sparseComment).compact).bind (Tree.ofJson? Json.maxLevels) = some sparse ∧
    (Json.parse? (sparseAround sparseChild sparseComment).pretty).bind (Tree.ofJson? Json.maxLevels) = some sparse :=
  ⟨by decide, by decide, restatesAll_sparse, read_restated sparse _ (by decide) (by decide) restatesAll_sparse⟩

end ContentAssist.Markup
