import ContentAssist.Proofs.Json.Members
import ContentAssist.Proofs.Json.RoundTrip
import ContentAssist.Schema.File

/-! A schema is read back from its JSON text, and only too much depth can keep it from that. What a constraint is
shows in the value alone, so the three kinds have to be told apart by how they are written; an attribute without a
constraint is written without the member. Of patterns it matters only that each can be had from its text. -/
namespace ContentAssist

namespace Json

variable {α : Type} {read : Nat → Json → Option α} {write : α → Json}

/-- The value as it is written is read again exactly where there are levels enough for it. -/
def ReadsExactly (read : Nat → Json → Option α) (write : α → Json) (value : α) : Prop :=
  ∀ levels, read levels (write value) = if (write value).nesting ≤ levels then some value else none

@[simp]
theorem string?_ofString (text : String) : string? (ofString text) = some text :=
  rfl

@[simp]
theorem nesting_ofString (text : String) : (ofString text).nesting = 0 :=
  rfl

theorem nesting_ofMembers_le_iff {members : List (String × Json)} {levels : Nat} :
    (ofMembers members).nesting ≤ levels + 1 ↔ ∀ member ∈ members, member.2.nesting ≤ levels := by
  rw [ofMembers, nesting, Nat.add_le_add_iff_right, nestingOfMembers_le_iff, List.forall_mem_map]

theorem nesting_ofList_le_iff {items : List α} {levels : Nat} :
    (ofList write items).nesting ≤ levels + 1 ↔ ∀ item ∈ items, (write item).nesting ≤ levels := by
  rw [ofList, nesting, Nat.add_le_add_iff_right, nestingOfItems_le_iff, List.forall_mem_map]

theorem mapM_eq_none {β : Type} {f : α → Option β} {items : List α} {item : α} (hItem : item ∈ items)
    (hNone : f item = none) : items.mapM f = none := by
  induction items with
  | nil => cases hItem
  | cons first rest ih =>
      rw [List.mapM_cons]
      rcases List.mem_cons.mp hItem with rfl | hRest
      · rw [hNone]
        rfl
      · rw [ih hRest]
        cases f first <;> rfl

theorem readsExactly_list {items : List α} (h : ∀ item ∈ items, ReadsExactly read write item) :
    ReadsExactly (list? read) (ofList write) items := by
  intro levels
  cases levels with
  | zero => simp [ofList, list?, nesting]
  | succ levels =>
      by_cases hNesting : (ofList write items).nesting ≤ levels + 1
      · have hRead : ∀ item ∈ items, (read levels ∘ write) item = some item := fun item hItem =>
          (h item hItem levels).trans (if_pos (nesting_ofList_le_iff.mp hNesting item hItem))
        rw [if_pos hNesting, ofList, list?, List.mapM_map, mapM_eq_some_map hRead, List.map_id']
      · rw [if_neg hNesting]
        simp only [nesting_ofList_le_iff, not_forall] at hNesting
        obtain ⟨item, hItem, hDeep⟩ := hNesting
        refine mapM_eq_none (List.mem_map_of_mem hItem) ?_
        rw [h item hItem levels, if_neg hDeep]

end Json

namespace Schema

open Json (ReadsExactly readsExactly_list slots? slots?_ofMembers nesting_ofMembers_le_iff)

variable {P : Type} [PatternReader P]

theorem Constraint.isSound_toJson (constraint : Constraint P) : constraint.toJson.isSound = true := by
  cases constraint with
  | exact value => rfl
  | matching pattern => rfl
  | oneOf values => simp [toJson, Json.isSound_ofList, Json.ofString, Json.isSound]

theorem Constraint.toJson_ne_null (constraint : Constraint P) : constraint.toJson ≠ .null := by
  cases constraint <;> nofun

/-- No two kinds of constraint are written alike, and what is written for a pattern is a text that it can be had
from. -/
theorem Constraint.readsExactly (constraint : Constraint P) :
    ReadsExactly Constraint.ofJson? Constraint.toJson constraint := by
  intro levels
  unfold ofJson?
  by_cases hNesting : constraint.toJson.nesting ≤ levels
  · have hWithin : Json.within levels constraint.toJson = true := by
      simp [Json.within, hNesting, constraint.isSound_toJson]
    rw [if_pos hNesting, hWithin]
    cases constraint with
    | exact value => rfl
    | matching pattern =>
        have hSlots : slots? ["pattern"] (.ofMembers [("pattern", .ofString (PatternLanguage.source pattern))]) =
            some [.given (.ofString (PatternLanguage.source pattern))] := slots?_ofMembers rfl (by decide)
        simp only [Json.ofMembers, List.map_cons, List.map_nil] at hSlots
        simp [toJson, Json.ofMembers, hSlots, PatternReader.ofSource?_source]
    | oneOf values =>
        have hValues : ∀ value ∈ values, (Json.string? ∘ Json.ofString) value = some value := fun _ _ => rfl
        simp [toJson, Json.ofList, List.mapM_map, Json.mapM_eq_some_map hValues]
  · have hDeep : Json.within levels constraint.toJson = false := by simp [Json.within, hNesting]
    rw [if_neg hNesting, hDeep]
    rfl

theorem Attribute.readsExactly (attr : Attribute P) : ReadsExactly Attribute.ofJson? Attribute.toJson attr := by
  intro levels
  obtain ⟨key, required, value⟩ := attr
  cases levels with
  | zero => simp [Attribute.ofJson?, Attribute.toJson, Json.ofMembers, Json.nesting]
  | succ levels =>
      cases value with
      | none =>
          -- One of the three names is not written here, which `slots?_ofMembers` does not allow for.
          have hSlots : slots? ["key", "required", "value"]
              (.ofMembers [("key", .ofString key), ("required", .bool required)]) =
                some [.given (.ofString key), .given (.bool required), .noMember] := by
            simp [slots?, Json.ofMembers]
          simp [Attribute.ofJson?, Attribute.toJson, hSlots, nesting_ofMembers_le_iff, Json.nesting, Json.bool?,
            Json.Slot.orElse]
      | some constraint =>
          have hSlots : slots? ["key", "required", "value"] (.ofMembers
              [("key", .ofString key), ("required", .bool required), ("value", constraint.toJson)]) =
                some [.given (.ofString key), .given (.bool required), .given constraint.toJson] :=
            slots?_ofMembers rfl (by decide)
          by_cases hNesting : constraint.toJson.nesting ≤ levels <;>
            simp [Attribute.ofJson?, Attribute.toJson, hSlots, nesting_ofMembers_le_iff, Json.nesting, Json.bool?,
              Json.option?_of_ne_null constraint.toJson_ne_null, constraint.readsExactly levels, hNesting]

theorem Element.listToJson_eq (elements : List (Element P)) : listToJson elements = elements.map toJson := by
  induction elements with
  | nil => rfl
  | cons element rest ih => rw [listToJson, ih, List.map_cons]

theorem Element.toJson_eq (element : Element P) : element.toJson = .ofMembers
    [("name", .ofString element.name), ("required", .bool element.required),
     ("attributes", .ofList Attribute.toJson element.attributes),
     ("elements", .ofList Element.toJson element.elements)] := by
  obtain ⟨name, required, attributes, elements⟩ := element
  rw [toJson, listToJson_eq]
  rfl

theorem Element.listOfJson?_eq : (listOfJson? : Nat → Json → Option (List (Element P))) = Json.list? ofJson? := by
  funext levels value
  cases levels with
  | zero => rfl
  | succ levels => cases value <;> rfl

theorem Element.readsExactly : ∀ element : Element P, ReadsExactly Element.ofJson? Element.toJson element
  | ⟨name, required, attributes, elements⟩ => by
      have hAttributes := readsExactly_list fun attr (_ : attr ∈ attributes) => attr.readsExactly
      have hElements := readsExactly_list fun sub (_ : sub ∈ elements) => Element.readsExactly sub
      intro levels
      rw [toJson_eq]
      cases levels with
      | zero => simp [Element.ofJson?, Json.ofMembers, Json.nesting]
      | succ levels =>
          by_cases hAttributesFit : (Json.ofList Attribute.toJson attributes).nesting ≤ levels <;>
            by_cases hElementsFit : (Json.ofList Element.toJson elements).nesting ≤ levels <;>
              simp [Element.ofJson?, slots?_ofMembers, listOfJson?_eq, nesting_ofMembers_le_iff, Json.nesting,
                Json.bool?, hAttributes levels, hElements levels, hAttributesFit, hElementsFit]

/-- A schema is read from the JSON text that is written for it, compact or indented, and it is the same schema: every
constraint is of its kind, an attribute without one has none, and all declarations are in their order. The one
exception is a text that nests too deep, which is refused. -/
theorem Element.ofJson_written (schema : Element P) :
    ofJson schema.toJson.compact =
      (if schema.toJson.nesting ≤ Json.maxLevels then .ok schema else .error .malformedJson) ∧
    ofJson schema.toJson.pretty =
      (if schema.toJson.nesting ≤ Json.maxLevels then .ok schema else .error .malformedJson) := by
  have hRead := schema.readsExactly Json.maxLevels
  simp only [ofJson, parseJson?, Json.parse?_compact, Json.parse?_pretty, Option.bind_some, hRead]
  by_cases hNesting : schema.toJson.nesting ≤ Json.maxLevels
  · simp only [if_pos hNesting, and_self]
  · simp only [if_neg hNesting, and_self]

end Schema

end ContentAssist
