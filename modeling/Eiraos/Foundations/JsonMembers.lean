import Eiraos.Foundations.Json

/-! # Changing one member of a dictionary

`without` is `value.pop(key, None)` and `update` a change of the value of one key, both on a
copy.  Neither touches what is read under another key.
-/

namespace PythonJson.JsonValue

variable {value default : JsonValue} {key other : String}

def without (key : String) : JsonValue → JsonValue
  | .object members => .object (members.filter fun member => member.1 ≠ key)
  | value => value

def update (key : String) (change : JsonValue → JsonValue) : JsonValue → JsonValue
  | .object members =>
    .object (members.map fun member => if member.1 = key then (member.1, change member.2) else member)
  | value => value

@[simp] theorem isObject_without : (value.without key).isObject = value.isObject := by
  cases value <;> rfl

@[simp] theorem isObject_update {change : JsonValue → JsonValue} :
    (value.update key change).isObject = value.isObject := by
  cases value <;> rfl

theorem without_of_not_object (other : value.isObject = false) : value.without key = value := by
  cases value with
  | object => cases other
  | _ => rfl

theorem member?_filter_self (members : List (String × JsonValue)) :
    member? (members.filter fun member => member.1 ≠ key) key = none := by
  simp [member?, List.find?_eq_none]

theorem member?_filter_other (differs : other ≠ key) (members : List (String × JsonValue)) :
    member? (members.filter fun member => member.1 ≠ key) other = member? members other := by
  unfold member?
  congr 1
  induction members with
  | nil => rfl
  | cons member members inductionHypothesis =>
    by_cases removed : member.1 = key
    · have unread : ¬member.1 = other := fun same => differs (same.symm.trans removed)
      simpa [removed, unread, Ne.symm differs] using inductionHypothesis
    · by_cases read : member.1 = other
      · simp [read, differs]
      · simpa [removed, read] using inductionHypothesis

theorem member?_map_self {change : JsonValue → JsonValue} (members : List (String × JsonValue)) :
    member? (members.map fun member => if member.1 = key then (member.1, change member.2) else member) key =
      (member? members key).map change := by
  unfold member?
  induction members with
  | nil => rfl
  | cons member members inductionHypothesis =>
    by_cases read : member.1 = key
    · simp [read]
    · simpa [read] using inductionHypothesis

theorem member?_map_other {change : JsonValue → JsonValue} (differs : other ≠ key)
    (members : List (String × JsonValue)) :
    member? (members.map fun member => if member.1 = key then (member.1, change member.2) else member) other =
      member? members other := by
  unfold member?
  induction members with
  | nil => rfl
  | cons member members inductionHypothesis =>
    by_cases changed : member.1 = key
    · have unread : ¬member.1 = other := fun same => differs (same.symm.trans changed)
      simpa [changed, unread, Ne.symm differs] using inductionHypothesis
    · by_cases read : member.1 = other
      · simp [read, differs]
      · simpa [changed, read] using inductionHypothesis

@[simp] theorem field_without_self : (value.without key).field key default = default := by
  cases value with
  | object members => simp only [without, field, member?_filter_self, Option.getD_none]
  | _ => rfl

theorem field_without_other (differs : other ≠ key) :
    (value.without key).field other default = value.field other default := by
  cases value with
  | object members => simp only [without, field, member?_filter_other differs]
  | _ => rfl

theorem field_update_self {change : JsonValue → JsonValue} (fixed : change default = default) :
    (value.update key change).field key default = change (value.field key default) := by
  cases value with
  | object members =>
    simp only [update, field, member?_map_self]
    cases member? members key with
    | none => exact fixed.symm
    | some found => rfl
  | _ => exact fixed.symm

theorem field_update_other {change : JsonValue → JsonValue} (differs : other ≠ key) :
    (value.update key change).field other default = value.field other default := by
  cases value with
  | object members => simp only [update, field, member?_map_other differs]
  | _ => rfl

end PythonJson.JsonValue
