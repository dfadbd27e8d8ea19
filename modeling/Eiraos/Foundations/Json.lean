import Mathlib.Data.List.Basic

/-! # JSON values as a Python program sees them

`json.loads` gives dictionaries, lists, strings, numbers, booleans and `None`; what a
program does with such a value either succeeds or raises.  The parser, the printer and
`repr` themselves are fields of `JsonLibrary`: nothing is assumed of them.
-/

namespace PythonJson

/-- The exceptions; a `JSONDecodeError` is a `ValueError`. -/
inductive PythonError where
  | attributeError
  | keyError
  | indexError
  | typeError
  | valueError
  | recursionError
  deriving DecidableEq, Repr

/-- A float is seen through its truth value and its text. -/
inductive JsonValue where
  | null
  | bool (value : Bool)
  | int (value : Int)
  | float (truth : Bool) (text : String)
  | string (value : String)
  | array (items : List JsonValue)
  | object (members : List (String × JsonValue))

namespace JsonValue

/-- `isinstance(value, dict)`. -/
def isObject : JsonValue → Bool
  | .object _ => true
  | _ => false

def member? (members : List (String × JsonValue)) (key : String) : Option JsonValue :=
  (members.find? fun member => member.1 = key).map (·.2)

/-- `value.get(key, default)`. -/
def get (value : JsonValue) (key : String) (default : JsonValue) : Except PythonError JsonValue :=
  match value with
  | .object members => .ok ((member? members key).getD default)
  | _ => .error .attributeError

/-- `bool(value)`. -/
def truthy : JsonValue → Bool
  | .null => false
  | .bool value => value
  | .int value => value ≠ 0
  | .float truth _ => truth
  | .string value => value ≠ ""
  | .array items => !items.isEmpty
  | .object members => !members.isEmpty

/-- `value or default`. -/
def orDefault (value default : JsonValue) : JsonValue := if value.truthy then value else default

@[simp] theorem truthy_cons (item : JsonValue) (items : List JsonValue) :
    (JsonValue.array (item :: items)).truthy = true := rfl

theorem orDefault_of_truthy {value default : JsonValue} (truth : value.truthy = true) :
    value.orDefault default = value := if_pos truth

theorem orDefault_of_falsy {value default : JsonValue} (falsy : value.truthy = false) :
    value.orDefault default = default := by
  rw [orDefault, falsy]
  rfl

/-- `value == text`. -/
def isText (value : JsonValue) (text : String) : Bool :=
  match value with
  | .string other => other = text
  | _ => false

/-- `value[key]` with the key a string. -/
def subscript (value : JsonValue) (key : String) : Except PythonError JsonValue :=
  match value with
  | .object members =>
    match member? members key with
    | some found => .ok found
    | none => .error .keyError
  | _ => .error .typeError

/-- `value[0]`; the keys of a dictionary are strings. -/
def first : JsonValue → Except PythonError JsonValue
  | .array (item :: _) => .ok item
  | .array [] => .error .indexError
  | .string value =>
    match value.toList with
    | character :: _ => .ok (.string (String.ofList [character]))
    | [] => .error .indexError
  | .object _ => .error .keyError
  | _ => .error .typeError

/-- `key in value`. -/
def contains (value : JsonValue) (key : String) : Except PythonError Bool :=
  match value with
  | .object members => .ok (member? members key).isSome
  | .array items => .ok (items.any fun item => item.isText key)
  | .string text => .ok (text.toList.tails.any fun rest => key.toList.isPrefixOf rest)
  | _ => .error .typeError

/-- The items of `for item in value`. -/
def iterate : JsonValue → Except PythonError (List JsonValue)
  | .array items => .ok items
  | .object members => .ok (members.map fun member => .string member.1)
  | .string text => .ok (text.toList.map fun character => .string (String.ofList [character]))
  | _ => .error .typeError

/-- The member of a dictionary; the default when it is absent or the value is no dictionary. -/
def field (value : JsonValue) (key : String) (default : JsonValue := .null) : JsonValue :=
  match value with
  | .object members => (member? members key).getD default
  | _ => default

/-- The member of a dictionary, if there is one. -/
def member (value : JsonValue) (key : String) : Option JsonValue :=
  match value with
  | .object members => member? members key
  | _ => none

theorem field_eq_getD (value : JsonValue) (key : String) (default : JsonValue) :
    value.field key default = (value.member key).getD default := by
  cases value <;> rfl

theorem get_of_object {value : JsonValue} (isObject : value.isObject = true) (key : String)
    (default : JsonValue) : value.get key default = .ok (value.field key default) := by
  cases value with
  | object => rfl
  | _ => cases isObject

theorem get_of_not_object {value : JsonValue} (other : value.isObject = false) (key : String)
    (default : JsonValue) : value.get key default = .error .attributeError := by
  cases value with
  | object => cases other
  | _ => rfl

theorem field_of_not_object {value : JsonValue} (other : value.isObject = false) (key : String)
    (default : JsonValue) : value.field key default = default := by
  cases value with
  | object => cases other
  | _ => rfl

theorem orDefault_of_object {value : JsonValue} (isObject : value.isObject = true) :
    value.orDefault (.object []) = value := by
  cases value with
  | object members => cases members <;> rfl
  | _ => cases isObject

/-- `(value or {}).get(key, default)` raises on a true value that is no dictionary. -/
theorem get_orDefault (value : JsonValue) (key : String) (default : JsonValue) :
    (value.orDefault (.object [])).get key default =
      if value.isObject || !value.truthy then .ok (value.field key default)
      else .error .attributeError := by
  cases isObject : value.isObject with
  | true => rw [orDefault_of_object isObject, get_of_object isObject, Bool.true_or, if_pos rfl]
  | false =>
    rw [field_of_not_object isObject]
    cases truth : value.truthy with
    | true =>
      rw [orDefault_of_truthy truth, get_of_not_object isObject]
      rfl
    | false =>
      rw [orDefault_of_falsy truth]
      rfl

end JsonValue

structure JsonLibrary where
  loads : String → Except PythonError JsonValue
  dumps : JsonValue → String
  repr : JsonValue → String

/-- `str(value)`. -/
def JsonLibrary.str (library : JsonLibrary) : JsonValue → String
  | .string value => value
  | value => library.repr value

end PythonJson
