import ContentAssist.Proofs.Json.Records
import Mathlib.Data.List.Forall2

/-! What the members of an object come to, apart from their order: how deep they nest, whether they are sound, and what
a record finds under each of its names. -/
namespace ContentAssist.Json

theorem nestingOfItems_le_iff {items : List Json} {levels : Nat} :
    nestingOfItems items ≤ levels ↔ ∀ item ∈ items, item.nesting ≤ levels := by
  induction items with
  | nil => simp [nestingOfItems]
  | cons item rest ih => rw [nestingOfItems, Nat.max_le, List.forall_mem_cons, ih]

theorem nestingOfMembers_le_iff {members : List (Option String × Json)} {levels : Nat} :
    nestingOfMembers members ≤ levels ↔ ∀ member ∈ members, member.2.nesting ≤ levels := by
  induction members with
  | nil => simp [nestingOfMembers]
  | cons member rest ih => rw [nestingOfMembers, Nat.max_le, List.forall_mem_cons, ih]

theorem itemsSound_iff {items : List Json} : itemsSound items = true ↔ ∀ item ∈ items, item.isSound = true := by
  induction items with
  | nil => simp [itemsSound]
  | cons item rest ih => rw [itemsSound, Bool.and_eq_true, List.forall_mem_cons, ih]

theorem membersSound_iff {members : List (Option String × Json)} :
    membersSound members = true ↔ ∀ member ∈ members, member.1.isSome = true ∧ member.2.isSound = true := by
  induction members with
  | nil => simp [membersSound]
  | cons member rest ih => rw [membersSound, Bool.and_eq_true, Bool.and_eq_true, List.forall_mem_cons, ih]

theorem within_iff {levels : Nat} {value : Json} :
    within levels value = true ↔ value.nesting ≤ levels ∧ value.isSound = true := by
  rw [within, Bool.and_eq_true, decide_eq_true_eq]

theorem within_array_iff {items : List Json} {levels : Nat} :
    within levels (.array items) = true ↔ ∃ below, levels = below + 1 ∧ ∀ item ∈ items, within below item = true := by
  simp only [within_iff, nesting, isSound, itemsSound_iff]
  cases levels with
  | zero => simp
  | succ below =>
      rw [Nat.add_le_add_iff_right, nestingOfItems_le_iff]
      grind

theorem within_object_iff {members : List (Option String × Json)} {levels : Nat} :
    within levels (.object members) = true ↔ ∃ below, levels = below + 1 ∧
      ∀ member ∈ members, member.1.isSome = true ∧ within below member.2 = true := by
  simp only [within_iff, nesting, isSound, membersSound_iff]
  cases levels with
  | zero => simp
  | succ below =>
      rw [Nat.add_le_add_iff_right, nestingOfMembers_le_iff]
      grind

/-! ### The values under a name -/

/-- The values of the members with the name. -/
def valuesOf (name : String) (members : List (Option String × Json)) : List Json :=
  (members.filter fun member => member.1 = some name).map Prod.snd

variable {name : String} {members members' : List (Option String × Json)}

@[simp]
theorem valuesOf_append : valuesOf name (members ++ members') = valuesOf name members ++ valuesOf name members' := by
  rw [valuesOf, List.filter_append, List.map_append]
  rfl

@[simp]
theorem valuesOf_cons_same {value : Json} :
    valuesOf name ((some name, value) :: members) = value :: valuesOf name members := by
  simp [valuesOf]

theorem valuesOf_cons_other {other : String} {value : Json} (h : other ≠ name) :
    valuesOf name ((some other, value) :: members) = valuesOf name members := by
  simp [valuesOf, h]

theorem valuesOf_perm (h : members.Perm members') : (valuesOf name members).Perm (valuesOf name members') :=
  (h.filter _).map _

/-- The field that the values of a name come to. There may be one value at most. -/
def Slot.ofValues : List Json → Option Slot
  | [] => some .noMember
  | [value] => some (.given value)
  | _ => none

theorem Slot.ofValues_perm {values values' : List Json} (h : values.Perm values') :
    ofValues values = ofValues values' := by
  match values, values', h.length_eq with
  | [], [], _ => rfl
  | [value], [value'], _ => rw [List.singleton_perm_singleton.mp h]
  | _ :: _ :: _, _ :: _ :: _, _ => rfl

theorem Slot.of_ofValues_append_cons {before after : List Json} {value : Json} {slot : Slot}
    (h : ofValues (before ++ value :: after) = some slot) : before = [] ∧ after = [] ∧ slot = .given value := by
  match before, after with
  | [], [] => exact ⟨rfl, rfl, (Option.some.inj h).symm⟩
  | [], _ :: _ => cases h
  | [_], _ => cases h
  | _ :: _ :: _, _ => cases h

theorem mapM_eq_some_iff_forall₂ {α β : Type} {f : α → Option β} {items : List α} {results : List β} :
    items.mapM f = some results ↔ List.Forall₂ (fun item result => f item = some result) items results := by
  induction items generalizing results with
  | nil => simp [eq_comm]
  | cons item rest ih =>
      simp only [List.mapM_cons, Option.bind_eq_bind, Option.bind_eq_some_iff, Option.pure_def, Option.some.injEq, ih,
        List.forall₂_cons_left_iff]
      grind

theorem slots?_object (names : List String) : slots? names (.object members) =
    if members.all fun member => member.1.isSome then
      names.mapM fun name => Slot.ofValues (valuesOf name members)
    else none := by
  rw [slots?]
  congr 2
  funext name
  rw [valuesOf]
  generalize members.filter (fun member => member.1 = some name) = found
  rcases found with _ | ⟨⟨_, _⟩, _ | _⟩ <;> rfl

theorem slots?_object_eq_some_iff {names : List String} {slots : List Slot} :
    slots? names (.object members) = some slots ↔ (members.all fun member => member.1.isSome) = true ∧
      List.Forall₂ (fun name slot => Slot.ofValues (valuesOf name members) = some slot) names slots := by
  rw [slots?_object, ← mapM_eq_some_iff_forall₂]
  cases members.all fun member => member.1.isSome <;> simp

end ContentAssist.Json
