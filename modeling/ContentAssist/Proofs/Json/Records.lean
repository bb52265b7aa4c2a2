import ContentAssist.Json.Record
import Mathlib.Data.List.Nodup

/-! Reading back what a record writer wrote. A written value fits a number of levels if it does not nest deeper
and each of its counts has 64 bits; nothing else can keep a reader from a value that its writer wrote. -/
namespace ContentAssist.Json

mutual

/-- Whether every count in the value is one of 64 bits. -/
def countsFit : Json → Bool
  | .count value => value < UInt64.size
  | .array items => countsFitInItems items
  | .object members => countsFitInMembers members
  | _ => true

def countsFitInItems : List Json → Bool
  | [] => true
  | item :: rest => countsFit item && countsFitInItems rest

def countsFitInMembers : List (Option String × Json) → Bool
  | [] => true
  | (_, value) :: rest => countsFit value && countsFitInMembers rest

end

/-- The value can be read where `levels` arrays and objects may still be opened. -/
structure Fits (levels : Nat) (value : Json) : Prop where
  nesting : value.nesting ≤ levels
  counts : value.countsFit = true

variable {α : Type} {read : Nat → Json → Option α} {write : α → Json} {levels : Nat}

theorem fits_iff {value : Json} : Fits levels value ↔ value.nesting ≤ levels ∧ value.countsFit = true :=
  ⟨fun h => ⟨h.nesting, h.counts⟩, fun h => ⟨h.1, h.2⟩⟩

@[simp]
theorem fits_count {value : Nat} : Fits levels (.count value) ↔ value < UInt64.size := by
  simp [fits_iff, nesting, countsFit]

/-- A record fits if there is a level for it and its members fit the levels below. -/
theorem fits_ofMembers {members : List (String × Json)} :
    Fits levels (ofMembers members) ↔
      ∃ below, levels = below + 1 ∧ ∀ member ∈ members, Fits below member.2 := by
  have hBelow : ∀ below, Fits (below + 1) (ofMembers members) ↔ ∀ member ∈ members, Fits below member.2 := by
    intro below
    simp only [fits_iff, ofMembers, nesting, countsFit, Nat.add_le_add_iff_right]
    induction members with
    | nil => simp [nestingOfMembers, countsFitInMembers]
    | cons member rest ih =>
        simp only [List.map_cons, nestingOfMembers, countsFitInMembers, Bool.and_eq_true, List.forall_mem_cons,
          ← ih, Nat.max_le]
        grind
  cases levels with
  | zero => simp [fits_iff, ofMembers, nesting]
  | succ below => simp [hBelow]

/-- A list fits if there is a level for it and its items fit the levels below. -/
theorem fits_ofList {items : List α} :
    Fits levels (ofList write items) ↔ ∃ below, levels = below + 1 ∧ ∀ item ∈ items, Fits below (write item) := by
  have hBelow : ∀ below, Fits (below + 1) (ofList write items) ↔ ∀ item ∈ items, Fits below (write item) := by
    intro below
    simp only [fits_iff, ofList, nesting, countsFit, Nat.add_le_add_iff_right]
    induction items with
    | nil => simp [nestingOfItems, countsFitInItems]
    | cons item rest ih =>
        simp only [List.map_cons, nestingOfItems, countsFitInItems, Bool.and_eq_true, List.forall_mem_cons,
          ← ih, Nat.max_le]
        grind
  cases levels with
  | zero => simp [fits_iff, ofList, nesting]
  | succ below => simp [hBelow]

theorem isSound_ofMembers {members : List (String × Json)} :
    (ofMembers members).isSound = members.all fun member => member.2.isSound := by
  rw [ofMembers, isSound]
  induction members with
  | nil => rfl
  | cons member rest ih => simp [membersSound, ih]

theorem isSound_ofList {items : List α} :
    (ofList write items).isSound = items.all fun item => (write item).isSound := by
  rw [ofList, isSound]
  induction items with
  | nil => rfl
  | cons item rest ih => simp [itemsSound, ih]

theorem mapM_eq_some_map {β : Type} {f : α → Option β} {g : α → β} {items : List α}
    (h : ∀ item ∈ items, f item = some (g item)) : items.mapM f = some (items.map g) := by
  induction items with
  | nil => rfl
  | cons item rest ih =>
      obtain ⟨hItem, hRest⟩ := List.forall_mem_cons.mp h
      simp [List.mapM_cons, hItem, ih hRest]

/-- Looking the name of a member up finds that member and no other. -/
theorem filter_name {members : List (String × Json)} {member : String × Json}
    (hNodup : (members.map Prod.fst).Nodup) (hMember : member ∈ members) :
    (members.map fun (key, value) => (some key, value)).filter (fun other => other.1 = some member.1) =
      [(some member.1, member.2)] := by
  induction members with
  | nil => simp at hMember
  | cons first rest ih =>
      simp only [List.map_cons, List.nodup_cons, List.mem_map] at hNodup
      rcases List.mem_cons.mp hMember with rfl | hRest
      · simp only [List.map_cons, decide_true, List.filter_cons_of_pos, List.cons.injEq, true_and]
        rw [List.filter_eq_nil_iff]
        simp only [List.mem_map]
        rintro _ ⟨other, hOther, rfl⟩ hSame
        exact hNodup.1 ⟨other, hOther, by simpa using hSame⟩
      · have hOther : first.1 ≠ member.1 := fun hSame => hNodup.1 ⟨member, hRest, hSame.symm⟩
        simpa [List.filter_cons, hOther] using ih hNodup.2 hRest

/-- A record that was written has every field in its place. -/
theorem slots?_ofMembers {names : List String} {members : List (String × Json)}
    (hNames : members.map Prod.fst = names) (hNodup : names.Nodup) :
    slots? names (ofMembers members) = some (members.map fun member => .given member.2) := by
  have hKeys : (members.map fun (key, value) => (some key, value)).all (fun member => member.1.isSome) = true := by
    simp
  subst hNames
  simp only [ofMembers, slots?, hKeys, if_true, List.mapM_map]
  apply mapM_eq_some_map
  intro member hMember
  simp only [Function.comp_apply, filter_name hNodup hMember]

@[simp]
theorem Slot.required_given (read : Json → Option α) (value : Json) : (given value).required read = read value :=
  rfl

@[simp]
theorem Slot.orElse_given (fallback : α) (read : Json → Option α) (value : Json) :
    (given value).orElse fallback read = read value :=
  rfl

@[simp]
theorem Slot.orElseMember_given (fallback : α) (read : Json → Option α) (value : Json) :
    (given value).orElseMember fallback read = read value :=
  rfl

/-- The value as it is written is sound, and it is read again wherever it fits. -/
def ReadsBack (read : Nat → Json → Option α) (write : α → Json) (value : α) : Prop :=
  ∀ levels, Fits levels (write value) →
    (write value).isSound = true ∧ read levels (write value) = some value

theorem readsBack_count (value : Nat) : ReadsBack (fun _ => count?) Json.count value := by
  intro levels hFits
  have hValue : value < UInt64.size := fits_count.mp hFits
  have hLimit : UInt64.size ≤ unrepresentable := by decide +kernel
  constructor
  · rw [isSound, decide_eq_true_eq]
    omega
  · simp [count?, hValue]

theorem readsBack_bool (value : Bool) : ReadsBack (fun _ => bool?) Json.bool value :=
  fun _ _ => ⟨rfl, rfl⟩

theorem readsBack_string (text : String) : ReadsBack (fun _ => string?) ofString text :=
  fun _ _ => ⟨rfl, rfl⟩

theorem option?_of_ne_null {read : Json → Option α} {value : Json} (h : value ≠ .null) :
    option? read value = (read value).map some := by
  cases value with
  | null => exact absurd rfl h
  | _ => rfl

/-- A value that may be missing. A written value must not look like a missing one. -/
theorem readsBack_option {value : Option α} (h : ∀ inner, value = some inner → ReadsBack read write inner)
    (hNull : ∀ inner, write inner ≠ .null) :
    ReadsBack (fun levels => option? (read levels)) (ofOption write) value := by
  intro levels hFits
  cases value with
  | none => exact ⟨rfl, rfl⟩
  | some inner =>
      obtain ⟨hSound, hRead⟩ := h inner rfl levels hFits
      refine ⟨hSound, ?_⟩
      change option? (read levels) (write inner) = some (some inner)
      rw [option?_of_ne_null (hNull inner), hRead]
      rfl

theorem readsBack_list {items : List α} (h : ∀ item ∈ items, ReadsBack read write item) :
    ReadsBack (list? read) (ofList write) items := by
  intro levels hFits
  obtain ⟨below, rfl, hItems⟩ := fits_ofList.mp hFits
  have hRead : ∀ item ∈ items, (read below ∘ write) item = some item :=
    fun item hItem => (h item hItem below (hItems item hItem)).2
  constructor
  · rw [isSound_ofList, List.all_eq_true]
    exact fun item hItem => (h item hItem below (hItems item hItem)).1
  · rw [ofList, list?, List.mapM_map, mapM_eq_some_map hRead, List.map_id']

end ContentAssist.Json
