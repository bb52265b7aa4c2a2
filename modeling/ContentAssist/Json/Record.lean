import ContentAssist.Json.Value

/-! Reading records out of JSON values.

A record is written as an object or as an array of its fields in order. In an object a known key may occur
once only and unknown keys are passed over; in an array no item may be left over. Depth is limited: a reader
is given the number of levels that it may still open. -/
namespace ContentAssist.Json

/-- How many arrays and objects a text may open inside one another. -/
def maxLevels : Nat := 127

/-- What a record holds for one of its fields. A field can be missing in two ways, since a field that may be
left out of an object need not be one that may be left off an array. -/
inductive Slot where
  | noMember
  | noItem
  | given (value : Json)

/-- The fields of a record. -/
def slots? (names : List String) : Json → Option (List Slot)
  | .object members =>
    if members.all fun member => member.1.isSome then
      names.mapM fun name =>
        match members.filter fun member => member.1 = some name with
        | [] => some .noMember
        | [(_, value)] => some (.given value)
        | _ => none
    else none
  | .array items =>
    if items.length ≤ names.length then
      some (items.map .given ++ List.replicate (names.length - items.length) .noItem)
    else none
  | _ => none

namespace Slot

variable {α : Type}

/-- A field that has to be there. -/
def required (read : Json → Option α) : Slot → Option α
  | .given value => read value
  | _ => none

/-- A field that stands for `fallback` where it is missing. -/
def orElse (fallback : α) (read : Json → Option α) : Slot → Option α
  | .given value => read value
  | _ => some fallback

/-- A field that stands for `fallback` where an object leaves it out. -/
def orElseMember (fallback : α) (read : Json → Option α) : Slot → Option α
  | .given value => read value
  | .noMember => some fallback
  | .noItem => none

end Slot

def string? : Json → Option String
  | .string text => text
  | _ => none

def bool? : Json → Option Bool
  | .bool value => some value
  | _ => none

/-- A count of 64 bits. -/
def count? : Json → Option Nat
  | .count value => if value < UInt64.size then some value else none
  | _ => none

/-- A value that may be `null`. -/
def option? {α : Type} (read : Json → Option α) : Json → Option (Option α)
  | .null => some none
  | value => (read value).map some

/-- An array, which takes one of the levels that are left. -/
def list? {α : Type} (read : Nat → Json → Option α) : Nat → Json → Option (List α)
  | levels + 1, .array items => items.mapM (read levels)
  | _, _ => none

/-- A value that is looked at as a whole before it is read: its depth, its strings and its numbers all have
to be in order, also in the parts that are then passed over. -/
def within (levels : Nat) (value : Json) : Bool :=
  value.nesting ≤ levels && value.isSound

end ContentAssist.Json
