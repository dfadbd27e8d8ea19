import Eiraos.Agent.Runtime
import Eiraos.Foundations.Guarded
import Eiraos.Foundations.JsonSchema
import Mathlib.Data.List.Enum

/-! # What a tool's schema enforces

`_freeze` keeps what a schema declares, and `_validate_schema` looks at the keywords of a
schema only under a `type` that is one name.  What it accepts has the declared meaning
exactly when every schema that it skips excludes nothing.
-/

namespace Eiraos.Agent

open Guarded JsonSchema PythonText

/-! ## Freezing (`tool_registry.py`) -/

/-- A key of a mapping: a string, or something else that can be hashed. -/
inductive MappingKey where
  | string (text : PythonStr)
  | other
  deriving DecidableEq, Repr

/-- A schema as it is given to a `Tool`. -/
inductive SchemaSource where
  | none
  | bool (value : Bool)
  | int (value : Int)
  | float (value : Option ℚ)
  | string (value : PythonStr)
  | list (items : List SchemaSource)
  | tuple (items : List SchemaSource)
  | mapping (members : List (MappingKey × SchemaSource))
  | foreign (hashable : Bool)

namespace SchemaSource

mutual

/-- `_freeze`; the error is a `ValueError`. -/
def freeze : SchemaSource → Except String ToolValue
  | .none => .ok .none
  | .bool value => .ok (.bool value)
  | .int value => .ok (.int value)
  | .float value => .ok (.float value)
  | .string value => .ok (.string value)
  | .list items => do return .array (← freezeItems items)
  | .tuple items => do return .array (← freezeItems items)
  | .mapping members => do return .object (← freezeMembers members)
  | .foreign hashable => .ok (.foreign hashable)

def freezeItems : List SchemaSource → Except String (List ToolValue)
  | [] => .ok []
  | item :: items => do return (← freeze item) :: (← freezeItems items)

def freezeMembers : List (MappingKey × SchemaSource) → Except String (List (PythonStr × ToolValue))
  | [] => .ok []
  | (.string key, item) :: members => do return (key, ← freeze item) :: (← freezeMembers members)
  | (.other, _) :: _ => .error "schema keys must be strings"

end

/-- The value under a keyword. -/
def keyword? (members : List (MappingKey × SchemaSource)) (keyword : String) : Option SchemaSource :=
  lookup members (.string (.ofText keyword))

end SchemaSource

/-! ## What a schema declares -/

def typeText : TypeName → String
  | .object => "object"
  | .array => "array"
  | .string => "string"
  | .integer => "integer"
  | .number => "number"
  | .boolean => "boolean"
  | .null => "null"

def typeSource (name : TypeName) : SchemaSource := .string (.ofText (typeText name))

/-- The value under `type`. -/
inductive DeclaresType : Option SchemaSource → TypeKeyword → Prop where
  | absent : DeclaresType none .absent
  | one (name : TypeName) : DeclaresType (some (typeSource name)) (.one name)
  | list (names : List TypeName) : DeclaresType (some (.list (names.map typeSource))) (.several names)
  | tuple (names : List TypeName) : DeclaresType (some (.tuple (names.map typeSource))) (.several names)

/-- The value under `required`. -/
inductive DeclaresRequired : Option SchemaSource → List PythonStr → Prop where
  | absent : DeclaresRequired none []
  | list (keys : List PythonStr) : DeclaresRequired (some (.list (keys.map .string))) keys
  | tuple (keys : List PythonStr) : DeclaresRequired (some (.tuple (keys.map .string))) keys

mutual

/-- The JSON Schema that a tree of dictionaries, lists and scalars stands for; its other
keywords are not looked at. -/
inductive Declares : SchemaSource → Schema PythonStr → Prop where
  | boolean (admits : Bool) : Declares (.bool admits) (.boolean admits)
  | anything : Declares (.mapping []) .anything
  | node {members : List (MappingKey × SchemaSource)} {type : TypeKeyword}
      {properties : List (PythonStr × Schema PythonStr)} {required : List PythonStr}
      {additionalProperties items : Schema PythonStr}
      (typed : DeclaresType (SchemaSource.keyword? members "type") type)
      (declared : DeclaresProperties (SchemaSource.keyword? members "properties") properties)
      (named : DeclaresRequired (SchemaSource.keyword? members "required") required)
      (undeclared : DeclaresSubschema (SchemaSource.keyword? members "additionalProperties")
        additionalProperties)
      (element : DeclaresSubschema (SchemaSource.keyword? members "items") items) :
      Declares (.mapping members) (.node type properties required additionalProperties items)

/-- The value under `additionalProperties` or `items`. -/
inductive DeclaresSubschema : Option SchemaSource → Schema PythonStr → Prop where
  | absent : DeclaresSubschema none .anything
  | given {source : SchemaSource} {schema : Schema PythonStr} (declares : Declares source schema) :
      DeclaresSubschema (some source) schema

/-- The value under `properties`; a dictionary has each key once. -/
inductive DeclaresProperties : Option SchemaSource → List (PythonStr × Schema PythonStr) → Prop where
  | absent : DeclaresProperties none []
  | given {members : List (MappingKey × SchemaSource)} {properties : List (PythonStr × Schema PythonStr)}
      (distinct : (properties.map Prod.fst).Nodup) (declares : DeclaresMembers members properties) :
      DeclaresProperties (some (.mapping members)) properties

inductive DeclaresMembers :
    List (MappingKey × SchemaSource) → List (PythonStr × Schema PythonStr) → Prop where
  | nil : DeclaresMembers [] []
  | cons {key : PythonStr} {source : SchemaSource} {schema : Schema PythonStr}
      {members : List (MappingKey × SchemaSource)} {properties : List (PythonStr × Schema PythonStr)}
      (first : Declares source schema) (rest : DeclaresMembers members properties) :
      DeclaresMembers ((.string key, source) :: members) ((key, schema) :: properties)

end

mutual

/-- A JSON value as it reaches the validator. -/
def ofJson : Value PythonStr → ToolValue
  | .null => .none
  | .bool value => .bool value
  | .int value => .int value
  | .float value => .float (some value)
  | .string value => .string value
  | .array items => .array (ofItems items)
  | .object members => .object (ofMembers members)

def ofItems : List (Value PythonStr) → List ToolValue
  | [] => []
  | item :: items => ofJson item :: ofItems items

def ofMembers : List (PythonStr × Value PythonStr) → List (PythonStr × ToolValue)
  | [] => []
  | (key, value) :: members => (key, ofJson value) :: ofMembers members

end

/-! ## What the validator looks at -/

/-- `isinstance` as `checks` has it under a name; an integral float is no integer there. -/
def isInstance : TypeName → Value PythonStr → Bool
  | .object, .object _ => true
  | .array, .array _ => true
  | .string, .string _ => true
  | .integer, .int _ => true
  | .number, .int _ => true
  | .number, .float _ => true
  | .boolean, .bool _ => true
  | .null, .null => true
  | _, _ => false

/-- `additionalProperties` is `False`. -/
def closed : Schema PythonStr → Bool
  | .boolean admits => !admits
  | _ => false

mutual

/-- What `_validate_schema` accepts: `False` is no schema to it, `True` makes it raise, and
the keywords are looked at under one name only. -/
def Accepts : Schema PythonStr → Value PythonStr → Prop
  -- `False` ends the check at once, `True` has no `get`
  | .boolean admits, _ => admits = false
  | .anything, _ => True
  | .node (.one name) properties required additionalProperties items, value =>
    isInstance name value = true ∧
      match value with
      | .object members =>
        (∀ key ∈ required, (lookup members key).isSome) ∧
          (closed additionalProperties = true → ∀ member ∈ members, member.1 ∈ properties.map Prod.fst) ∧
          AcceptsProperties members properties
      | .array elements => ∀ element ∈ elements, Accepts items element
      | _ => True
  -- neither `None` nor a tuple is in `checks`, and no branch is taken for them
  | .node .absent _ _ _ _, _ => True
  | .node (.several _) _ _ _ _, _ => True

def AcceptsProperties (members : List (PythonStr × Value PythonStr)) :
    List (PythonStr × Schema PythonStr) → Prop
  | [] => True
  | (key, schema) :: properties =>
    (∀ member, lookup members key = some member → Accepts schema member) ∧
      AcceptsProperties members properties

end

theorem acceptsProperties_iff {members : List (PythonStr × Value PythonStr)}
    {properties : List (PythonStr × Schema PythonStr)} :
    AcceptsProperties members properties ↔
      ∀ property ∈ properties, ∀ member, lookup members property.1 = some member →
        Accepts property.2 member := by
  induction properties with
  | nil => simp [AcceptsProperties]
  | cons property properties inductionHypothesis =>
    obtain ⟨key, schema⟩ := property
    simp [AcceptsProperties, inductionHypothesis]

/-! ## The validator on a frozen schema -/

open ToolValue (validateSchema validateMembers validateItems validateProperties checkKeys)

theorem ofItems_eq_map (items : List (Value PythonStr)) : ofItems items = items.map ofJson := by
  induction items with
  | nil => rfl
  | cons item items inductionHypothesis => simp [ofItems, inductionHypothesis]

theorem member?_cons (member : PythonStr × ToolValue) (members : List (PythonStr × ToolValue))
    (key : PythonStr) :
    ToolValue.member? (member :: members) key =
      if member.1 = key then some member.2 else ToolValue.member? members key :=
  lookup_cons member members key

@[simp] theorem member?_ofMembers (members : List (PythonStr × Value PythonStr)) (key : PythonStr) :
    ToolValue.member? (ofMembers members) key = (lookup members key).map ofJson := by
  induction members with
  | nil => rfl
  | cons member members inductionHypothesis =>
    obtain ⟨name, value⟩ := member
    rw [ofMembers, member?_cons, lookup_cons]
    split
    next => rfl
    next => exact inductionHypothesis

theorem map_fst_ofMembers (members : List (PythonStr × Value PythonStr)) :
    (ofMembers members).map Prod.fst = members.map Prod.fst := by
  induction members with
  | nil => rfl
  | cons member members inductionHypothesis => simp [ofMembers, inductionHypothesis]

/-- The frozen dictionary has the frozen values under the same keywords. -/
theorem member?_freezeMembers {members : List (MappingKey × SchemaSource)}
    {frozen : List (PythonStr × ToolValue)} (froze : SchemaSource.freezeMembers members = .ok frozen)
    (key : PythonStr) :
    match lookup members (.string key) with
    | none => ToolValue.member? frozen key = none
    | some source => ∃ value, source.freeze = .ok value ∧ ToolValue.member? frozen key = some value := by
  induction members generalizing frozen with
  | nil =>
    cases froze
    rfl
  | cons member members inductionHypothesis =>
    obtain ⟨name, source⟩ := member
    cases name with
    | other => cases froze
    | string name =>
      simp only [SchemaSource.freezeMembers, bind_eq_ok, pure_eq_ok] at froze
      obtain ⟨value, first, others, rest, rfl⟩ := froze
      by_cases same : name = key
      · simp [lookup_cons, member?_cons, same, first]
      · simpa [lookup_cons, member?_cons, same] using inductionHypothesis rest

/-- The loop over the properties is the loop over the dictionary under the keyword. -/
theorem validateProperties_eq (members : List (PythonStr × ToolValue)) (path : PythonStr)
    (schema : List (PythonStr × ToolValue)) :
    validateProperties members path schema =
      match ToolValue.member? schema "properties" with
      | none => .ok ()
      | some (.object properties) => validateMembers members path properties
      | some _ => .error .attributeError := by
  induction schema with
  | nil => simp [validateProperties, ToolValue.member?]
  | cons member schema inductionHypothesis =>
    obtain ⟨keyword, value⟩ := member
    rw [member?_cons]
    by_cases same : keyword = .ofText "properties"
    · cases value <;> simp [validateProperties, same]
    · cases value <;> simp [validateProperties, same, inductionHypothesis]

theorem validateItems_eq (items : List ToolValue) (path : PythonStr)
    (schema : List (PythonStr × ToolValue)) :
    validateItems items path schema =
      match ToolValue.member? schema "items" with
      | none => .ok ()
      | some childSchema => items.zipIdx.forM fun (item, index) =>
          validateSchema item (((path.append "[").append (toString index)).append "]") childSchema := by
  induction schema with
  | nil => simp [validateItems, ToolValue.member?]
  | cons member schema inductionHypothesis =>
    obtain ⟨keyword, value⟩ := member
    rw [member?_cons]
    by_cases same : keyword = .ofText "items"
    · simp [validateItems, same]
    · simp [validateItems, same, inductionHypothesis]

theorem validateMembers_eq_ok {members : List (PythonStr × ToolValue)} {path : PythonStr}
    {properties : List (PythonStr × ToolValue)} :
    validateMembers members path properties = .ok () ↔
      ∀ property ∈ properties, ∀ item, ToolValue.member? members property.1 = some item →
        validateSchema item ((path.append ".").append property.1) property.2 = .ok () := by
  induction properties with
  | nil => simp [validateMembers]
  | cons property properties inductionHypothesis =>
    obtain ⟨key, childSchema⟩ := property
    rw [List.forall_mem_cons, ← inductionHypothesis]
    cases found : ToolValue.member? members key with
    | none => simp [validateMembers, found]
    | some item => simp [validateMembers, found, guard_bind_eq_ok]

/-- The checks of an object before its properties. -/
theorem checkKeys_eq_ok {schema : List (PythonStr × ToolValue)} {members : List (PythonStr × Value PythonStr)}
    {path : PythonStr} {required : List PythonStr} {properties : List (PythonStr × ToolValue)}
    (named : ((ToolValue.member? schema "required").getD (.array [])).tuple =
      .ok (required.map .string))
    (declared : (ToolValue.member? schema "properties").getD (.object []) = .object properties) :
    checkKeys schema (ofMembers members) path = .ok () ↔
      (∀ key ∈ required, (lookup members key).isSome) ∧
        ((ToolValue.member? schema "additionalProperties").any (· matches .bool false) = true →
          ∀ member ∈ members, member.1 ∈ properties.map Prod.fst) := by
  have inDictionary : ∀ key, ToolValue.keyIn (ofMembers members) (.string key) =
      .ok (lookup members key).isSome := by simp [ToolValue.keyIn]
  have inProperties : ∀ key, (ToolValue.object properties).contains key =
      .ok (decide (key ∈ properties.map Prod.fst)) := by
    intro key
    have same : (lookup properties key).isSome ↔ key ∈ properties.map Prod.fst := lookup_isSome
    simp only [ToolValue.contains, Except.ok.injEq]
    rw [Bool.eq_iff_iff, decide_eq_true_iff]
    exact same
  simp only [checkKeys, named, declared]
  rw [bind_eq_ok]
  simp only [Except.ok.injEq, exists_eq_left', guard_bind_eq_ok, forM_eq_ok, unless_eq_ok,
    List.forall_mem_map, inDictionary]
  apply and_congr_right
  intro _
  split
  next refused =>
    rw [forM_eq_ok]
    simp only [unless_eq_ok, inProperties, Except.ok.injEq, decide_eq_true_eq]
    rw [← List.forall_mem_map (f := Prod.fst) (P := fun key => key ∈ properties.map Prod.fst),
      map_fst_ofMembers, List.forall_mem_map]
    exact ⟨fun all _ => all, fun all => all refused⟩
  next allowed => exact ⟨fun _ refused => absurd refused allowed, fun _ => rfl⟩

/-! ## One schema -/

theorem isString_typeText (name : TypeName) (other : TypeName) :
    (ToolValue.string (.ofText (typeText name))).isString (typeText other) = decide (name = other) := by
  cases name <;> cases other <;> decide +kernel

/-- Under a name the entry of `checks` is found. -/
theorem check?_ofJson (name : TypeName) (value : Value PythonStr) :
    (ToolValue.string (.ofText (typeText name))).check? (ofJson value) = some (isInstance name value) := by
  have named := isString_typeText name
  have object := named .object
  have array := named .array
  have string := named .string
  have integer := named .integer
  have number := named .number
  have boolean := named .boolean
  have null := named .null
  simp only [typeText] at object array string integer number boolean null
  simp only [ToolValue.check?, typeText, object, array, string, integer, number, boolean, null]
  cases name <;> cases value <;> rfl

/-- A `type` that is no string is not looked up, and nothing else is looked at. -/
theorem validateSchema_of_untyped {schema : List (PythonStr × ToolValue)} {value : ToolValue}
    {path : PythonStr}
    (untyped : ∀ text, ((ToolValue.member? schema "type").getD .none).isString text = false)
    (hashable : ((ToolValue.member? schema "type").getD .none).hashable = true) :
    validateSchema value path (.object schema) = .ok () := by
  have unchecked : ((ToolValue.member? schema "type").getD .none).check? value = none := by
    simp [ToolValue.check?, untyped]
  rw [validateSchema]
  split
  next => rfl
  next =>
    simp only [hashable, unchecked, untyped]
    cases value <;> rfl

/-- Under a name the value is checked, and then the members or the elements. -/
theorem validateSchema_of_typed {schema : List (PythonStr × ToolValue)} {value : Value PythonStr}
    {path : PythonStr} {name : TypeName}
    (typed : ToolValue.member? schema "type" = some (.string (.ofText (typeText name)))) :
    validateSchema (ofJson value) path (.object schema) = .ok () ↔
      isInstance name value = true ∧
        match value with
        | .object members =>
          checkKeys schema (ofMembers members) path = .ok () ∧
            validateProperties (ofMembers members) path schema = .ok ()
        | .array elements => validateItems (ofItems elements) path schema = .ok ()
        | _ => True := by
  have nonempty : schema.isEmpty = false := by
    cases schema with
    | nil => cases typed
    | cons => rfl
  have object : (ToolValue.string (.ofText (typeText name))).isString "object" = decide (name = .object) :=
    isString_typeText name .object
  have array : (ToolValue.string (.ofText (typeText name))).isString "array" = decide (name = .array) :=
    isString_typeText name .array
  rw [validateSchema, nonempty]
  simp only [typed, Option.getD_some, check?_ofJson, ToolValue.hashable]
  cases instanceOf : isInstance name value with
  | false => simp [guard_bind_eq_ok, throw, throwThe, MonadExceptOf.throw]
  | true =>
    cases value with
    | object members =>
      have named : name = .object := by cases name <;> simp [isInstance] at instanceOf ⊢
      subst named
      simp [ofJson, object, guard_bind_eq_ok]
    | array elements =>
      have named : name = .array := by cases name <;> simp [isInstance] at instanceOf ⊢
      subst named
      simp [ofJson, array]
    | _ => simp [ofJson, pure_eq_ok]

/-! ## Whole schemas -/

/-- The frozen properties stand for the declared ones, in order. -/
inductive Freezes : List (PythonStr × ToolValue) → List (PythonStr × Schema PythonStr) → Prop where
  | nil : Freezes [] []
  | cons {key : PythonStr} {source : SchemaSource} {value : ToolValue} {schema : Schema PythonStr}
      {frozen : List (PythonStr × ToolValue)} {properties : List (PythonStr × Schema PythonStr)}
      (declares : Declares source schema) (froze : source.freeze = .ok value)
      (rest : Freezes frozen properties) : Freezes ((key, value) :: frozen) ((key, schema) :: properties)

theorem DeclaresMembers.freezes {members : List (MappingKey × SchemaSource)}
    {properties : List (PythonStr × Schema PythonStr)} (declares : DeclaresMembers members properties)
    {frozen : List (PythonStr × ToolValue)} (froze : SchemaSource.freezeMembers members = .ok frozen) :
    Freezes frozen properties := by
  induction properties generalizing members frozen with
  | nil =>
    cases declares
    cases froze
    exact .nil
  | cons property properties inductionHypothesis =>
    cases declares with
    | cons first rest =>
      simp only [SchemaSource.freezeMembers, bind_eq_ok, pure_eq_ok] at froze
      obtain ⟨value, own, others, later, rfl⟩ := froze
      exact .cons first own (inductionHypothesis rest later)

theorem Freezes.map_fst {frozen : List (PythonStr × ToolValue)}
    {properties : List (PythonStr × Schema PythonStr)} (freezes : Freezes frozen properties) :
    frozen.map Prod.fst = properties.map Prod.fst := by
  induction freezes with
  | nil => rfl
  | cons _ _ _ inductionHypothesis => simp [inductionHypothesis]

/-- The validator agrees with `Accepts` on a schema, however it was written down. -/
def Simulated (schema : Schema PythonStr) : Prop :=
  ∀ source frozen, Declares source schema → source.freeze = .ok frozen → ∀ value path,
    validateSchema (ofJson value) path frozen = .ok () ↔ Accepts schema value

theorem Freezes.validates {frozen : List (PythonStr × ToolValue)}
    {properties : List (PythonStr × Schema PythonStr)} (freezes : Freezes frozen properties)
    (simulated : ∀ property ∈ properties, Simulated property.2)
    {members : List (PythonStr × Value PythonStr)} {path : PythonStr} :
    validateMembers (ofMembers members) path frozen = .ok () ↔ AcceptsProperties members properties := by
  rw [validateMembers_eq_ok]
  induction freezes with
  | nil => simp [AcceptsProperties]
  | @cons key source value schema frozen properties declares froze rest inductionHypothesis =>
    rw [List.forall_mem_cons] at simulated ⊢
    rw [inductionHypothesis simulated.2, AcceptsProperties]
    refine and_congr_left fun _ => ?_
    simp only [member?_ofMembers, Option.map_eq_some_iff, forall_exists_index, and_imp,
      forall_apply_eq_imp_iff₂]
    exact forall₂_congr fun member _ => simulated.1 source value declares froze member _

/-- The value under a keyword, before and after the freezing. -/
theorem keyword_frozen {members : List (MappingKey × SchemaSource)}
    {frozen : List (PythonStr × ToolValue)} (froze : SchemaSource.freezeMembers members = .ok frozen)
    (keyword : String) :
    match SchemaSource.keyword? members keyword with
    | none => ToolValue.member? frozen keyword = none
    | some source => ∃ value, source.freeze = .ok value ∧ ToolValue.member? frozen keyword = some value :=
  member?_freezeMembers froze (.ofText keyword)

theorem freezeItems_map {α : Type} {source : α → SchemaSource} {value : α → ToolValue}
    (froze : ∀ item, (source item).freeze = .ok (value item)) (items : List α) :
    SchemaSource.freezeItems (items.map source) = .ok (items.map value) := by
  induction items with
  | nil => rfl
  | cons item items inductionHypothesis =>
    simp [SchemaSource.freezeItems, froze, inductionHypothesis, bind, Except.bind, pure, Except.pure]

/-- What `required` names reaches the validator. -/
theorem DeclaresRequired.frozen {members : List (MappingKey × SchemaSource)} {required : List PythonStr}
    (named : DeclaresRequired (SchemaSource.keyword? members "required") required)
    {frozen : List (PythonStr × ToolValue)} (froze : SchemaSource.freezeMembers members = .ok frozen) :
    ((ToolValue.member? frozen "required").getD (.array [])).tuple = .ok (required.map .string) := by
  have kept := keyword_frozen froze "required"
  have strings : SchemaSource.freezeItems (required.map .string) = .ok (required.map .string) :=
    freezeItems_map (fun _ => rfl) required
  generalize SchemaSource.keyword? members "required" = given at named kept
  cases named with
  | absent =>
    rw [kept]
    rfl
  | list | tuple =>
    obtain ⟨value, froze, kept⟩ := kept
    simp only [SchemaSource.freeze, strings, bind_eq_ok, pure_eq_ok, Except.ok.injEq,
      exists_eq_left'] at froze
    rw [kept, ← froze]
    rfl

/-- What `properties` declares reaches the validator. -/
theorem DeclaresProperties.frozen {members : List (MappingKey × SchemaSource)}
    {properties : List (PythonStr × Schema PythonStr)}
    (declared : DeclaresProperties (SchemaSource.keyword? members "properties") properties)
    {frozen : List (PythonStr × ToolValue)} (froze : SchemaSource.freezeMembers members = .ok frozen) :
    ∃ dictionary, (ToolValue.member? frozen "properties").getD (.object []) = .object dictionary ∧
      Freezes dictionary properties := by
  have kept := keyword_frozen froze "properties"
  generalize SchemaSource.keyword? members "properties" = given at declared kept
  cases declared with
  | absent => exact ⟨[], by rw [kept]; rfl, .nil⟩
  | given distinct declares =>
    obtain ⟨value, froze, kept⟩ := kept
    simp only [SchemaSource.freeze, bind_eq_ok, pure_eq_ok] at froze
    obtain ⟨dictionary, froze, rfl⟩ := froze
    exact ⟨dictionary, by rw [kept]; rfl, declares.freezes froze⟩

/-- Whether `additionalProperties` is `False` reaches the validator. -/
theorem DeclaresSubschema.frozen_closed {members : List (MappingKey × SchemaSource)}
    {schema : Schema PythonStr}
    (undeclared : DeclaresSubschema (SchemaSource.keyword? members "additionalProperties") schema)
    {frozen : List (PythonStr × ToolValue)} (froze : SchemaSource.freezeMembers members = .ok frozen) :
    (ToolValue.member? frozen "additionalProperties").any (· matches .bool false) = closed schema := by
  have kept := keyword_frozen froze "additionalProperties"
  generalize SchemaSource.keyword? members "additionalProperties" = given at undeclared kept
  cases undeclared with
  | absent =>
    rw [kept]
    rfl
  | given declares =>
    obtain ⟨value, froze, kept⟩ := kept
    rw [kept]
    cases declares with
    | boolean admits =>
      cases froze
      cases admits <;> rfl
    | anything =>
      cases froze
      rfl
    | node =>
      simp only [SchemaSource.freeze, bind_eq_ok, pure_eq_ok] at froze
      obtain ⟨dictionary, -, rfl⟩ := froze
      rfl

/-- What the frozen schema has under `type`: a name, or nothing that is a string. -/
def Typed (expected : Option ToolValue) : TypeKeyword → Prop
  | .one name => expected = some (.string (.ofText (typeText name)))
  | .absent | .several _ =>
    (∀ text, (expected.getD .none).isString text = false) ∧ (expected.getD .none).hashable = true

theorem DeclaresType.frozen {members : List (MappingKey × SchemaSource)} {type : TypeKeyword}
    (typed : DeclaresType (SchemaSource.keyword? members "type") type)
    {frozen : List (PythonStr × ToolValue)} (froze : SchemaSource.freezeMembers members = .ok frozen) :
    Typed (ToolValue.member? frozen "type") type := by
  have kept := keyword_frozen froze "type"
  have strings (names : List TypeName) : SchemaSource.freezeItems (names.map typeSource) =
      .ok (names.map fun name => .string (.ofText (typeText name))) :=
    freezeItems_map (fun _ => rfl) names
  have hashables (names : List TypeName) : ToolValue.hashable.hashables
      (names.map fun name => .string (.ofText (typeText name))) = true := by
    induction names with
    | nil => rfl
    | cons name names inductionHypothesis =>
      simpa [ToolValue.hashable.hashables, ToolValue.hashable] using inductionHypothesis
  generalize SchemaSource.keyword? members "type" = given at typed kept
  cases typed with
  | absent =>
    rw [kept]
    exact ⟨fun _ => rfl, rfl⟩
  | one name =>
    obtain ⟨value, froze, kept⟩ := kept
    cases froze
    exact kept
  | list names | tuple names =>
    obtain ⟨value, froze, kept⟩ := kept
    simp only [SchemaSource.freeze, strings, bind_eq_ok, pure_eq_ok, Except.ok.injEq,
      exists_eq_left'] at froze
    rw [kept, ← froze]
    exact ⟨fun _ => rfl, hashables names⟩

/-- The loop over the elements is the check of each of them. -/
theorem DeclaresSubschema.validates {members : List (MappingKey × SchemaSource)}
    {schema : Schema PythonStr}
    (element : DeclaresSubschema (SchemaSource.keyword? members "items") schema)
    {frozen : List (PythonStr × ToolValue)} (froze : SchemaSource.freezeMembers members = .ok frozen)
    (simulated : Simulated schema) {elements : List (Value PythonStr)} {path : PythonStr} :
    validateItems (ofItems elements) path frozen = .ok () ↔
      ∀ element ∈ elements, Accepts schema element := by
  have kept := keyword_frozen froze "items"
  rw [validateItems_eq]
  generalize SchemaSource.keyword? members "items" = given at element kept
  cases element with
  | absent =>
    rw [kept]
    simp [Accepts]
  | given declares =>
    obtain ⟨value, froze, kept⟩ := kept
    rw [kept]
    show (ofItems elements).zipIdx.forM _ = _ ↔ _
    rw [forM_eq_ok, List.forall_mem_zipIdx', List.forall_mem_iff_getElem]
    simp only [ofItems_eq_map, List.length_map, List.getElem_map]
    exact forall₂_congr fun index _ => simulated _ value declares froze _ _

/-- The frozen schema accepts what the declared one does. -/
theorem simulated (schema : Schema PythonStr) : Simulated schema := by
  induction schema using Schema.subschemas with
  | boolean admits =>
    rintro source frozen declares froze value path
    cases declares
    cases froze
    cases admits <;> simp [validateSchema, ToolValue.truthy, Accepts]
  | anything =>
    rintro source frozen declares froze value path
    cases declares
    cases froze
    simp [validateSchema, Accepts]
  | node type properties required additionalProperties items byProperty _ byItems =>
    rintro source frozen declares froze value path
    cases declares with
    | node typed declared named undeclared element =>
      simp only [SchemaSource.freeze, bind_eq_ok, pure_eq_ok] at froze
      obtain ⟨dictionary, froze, rfl⟩ := froze
      have looked := typed.frozen froze
      cases type with
      -- the whole schema is skipped, whatever its other keywords are
      | absent | several names =>
        simp [validateSchema_of_untyped looked.1 looked.2, Accepts]
      | one name =>
        rw [validateSchema_of_typed looked]
        cases value with
        | object members =>
          obtain ⟨frozenProperties, given, freezes⟩ := declared.frozen froze
          -- a missing dictionary of properties is an empty one
          have properties_eq : validateProperties (ofMembers members) path dictionary =
              validateMembers (ofMembers members) path frozenProperties := by
            rw [validateProperties_eq]
            cases kept : ToolValue.member? dictionary (PythonStr.ofText "properties") with
            | none =>
              rw [kept] at given
              cases given
              simp [validateMembers]
            | some other =>
              rw [kept] at given
              cases given
              rfl
          simp only [Accepts, properties_eq, checkKeys_eq_ok (named.frozen froze) given,
            undeclared.frozen_closed froze, freezes.map_fst, freezes.validates byProperty, and_assoc]
        | array elements => simp only [Accepts, element.validates froze byItems]
        | _ => simp [Accepts]

end Eiraos.Agent
