import Mathlib.Data.Fintype.EquivFin
import Mathlib.Data.Rat.Defs

/-! # JSON Schema

The keywords `type`, `properties`, `required`, `additionalProperties` and `items` as JSON
Schema defines them.  The strings of the values may be of any type.
-/

namespace JsonSchema

/-! ## Values -/

/-- A JSON value; of two members of an object with one key the first counts. -/
inductive Value (κ : Type) where
  | null
  | bool (value : Bool)
  | int (value : Int)
  | float (value : ℚ)
  | string (value : κ)
  | array (items : List (Value κ))
  | object (members : List (κ × Value κ))

/-! ## Schemas -/

inductive TypeName where
  | object
  | array
  | string
  | integer
  | number
  | boolean
  | null
  deriving DecidableEq, Repr

/-- What the keyword `type` says: nothing, a name or a list of names. -/
inductive TypeKeyword where
  | absent
  | one (name : TypeName)
  | several (names : List TypeName)
  deriving DecidableEq, Repr

/-- A schema without keywords is `anything`, and so is the value of an absent
`additionalProperties` or `items`. -/
inductive Schema (κ : Type) where
  | boolean (admits : Bool)
  | anything
  | node (type : TypeKeyword) (properties : List (κ × Schema κ)) (required : List κ)
      (additionalProperties items : Schema κ)

variable {κ : Type}

/-- Induction with a hypothesis for every subschema. -/
@[elab_as_elim]
theorem Schema.subschemas {motive : Schema κ → Prop} (boolean : ∀ admits, motive (.boolean admits))
    (anything : motive .anything)
    (node : ∀ type properties required additionalProperties items,
      (∀ property ∈ properties, motive property.2) → motive additionalProperties → motive items →
        motive (.node type properties required additionalProperties items)) :
    ∀ schema, motive schema
  | .boolean admits => boolean admits
  | .anything => anything
  | .node type properties required additionalProperties items =>
    node type properties required additionalProperties items
      (fun property _ => subschemas boolean anything node property.2)
      (subschemas boolean anything node additionalProperties) (subschemas boolean anything node items)
termination_by schema => sizeOf schema
decreasing_by
  · rename_i mem
    have smaller := List.sizeOf_lt_of_mem mem
    obtain ⟨key, schema⟩ := property
    simp only [Schema.node.sizeOf_spec, Prod.mk.sizeOf_spec] at smaller ⊢
    omega
  · simp only [Schema.node.sizeOf_spec]
    omega
  · simp only [Schema.node.sizeOf_spec]
    omega

/-! ## Members -/

variable [DecidableEq κ]

/-- The value of the first member with a key. -/
def lookup {α : Type} (members : List (κ × α)) (key : κ) : Option α :=
  (members.find? fun member => member.1 = key).map (·.2)

@[simp] theorem lookup_singleton {α : Type} (key other : κ) (value : α) :
    lookup [(key, value)] other = if key = other then some value else none := by
  simp only [lookup, List.find?_singleton]
  split <;> simp_all

theorem lookup_cons {α : Type} (member : κ × α) (members : List (κ × α)) (key : κ) :
    lookup (member :: members) key = if member.1 = key then some member.2 else lookup members key := by
  simp only [lookup, List.find?_cons]
  split <;> simp_all

theorem lookup_isSome {α : Type} {members : List (κ × α)} {key : κ} :
    (lookup members key).isSome ↔ key ∈ members.map Prod.fst := by
  induction members with
  | nil => simp [lookup]
  | cons member members inductionHypothesis =>
    rw [lookup_cons, List.map_cons, List.mem_cons, ← inductionHypothesis]
    split
    next same => simp [same]
    next different => simp [Ne.symm different]

theorem mem_of_lookup {α : Type} {members : List (κ × α)} {key : κ} {value : α}
    (found : lookup members key = some value) : (key, value) ∈ members := by
  induction members with
  | nil => cases found
  | cons member members inductionHypothesis =>
    rw [lookup_cons] at found
    split at found
    next same =>
      cases found
      subst same
      exact List.mem_cons_self
    next => exact List.mem_cons_of_mem _ (inductionHypothesis found)

/-- With distinct keys every member is found. -/
theorem lookup_of_mem {α : Type} {members : List (κ × α)} {key : κ} {value : α}
    (distinct : (members.map Prod.fst).Nodup) (mem : (key, value) ∈ members) :
    lookup members key = some value := by
  induction members with
  | nil => cases mem
  | cons member members inductionHypothesis =>
    rw [List.map_cons, List.nodup_cons] at distinct
    rw [lookup_cons]
    cases List.mem_cons.mp mem with
    | inl here => simp [← here]
    | inr later =>
      rw [if_neg, inductionHypothesis distinct.2 later]
      intro same
      -- the key would stand twice
      exact distinct.1 (same ▸ List.mem_map_of_mem later)

/-! ## Meaning -/

/-- A float without a fraction is an integer. -/
def TypeName.admits : TypeName → Value κ → Bool
  | .object, .object _ => true
  | .array, .array _ => true
  | .string, .string _ => true
  | .integer, .int _ => true
  | .integer, .float value => value.den = 1
  | .number, .int _ => true
  | .number, .float _ => true
  | .boolean, .bool _ => true
  | .null, .null => true
  | _, _ => false

def TypeKeyword.admits : TypeKeyword → Value κ → Bool
  | .absent, _ => true
  | .one name, value => name.admits value
  | .several names, value => names.any fun name => name.admits value

mutual

/-- Every keyword holds of the value, at every depth. -/
def Satisfies : Schema κ → Value κ → Prop
  | .boolean admits, _ => admits = true
  | .anything, _ => True
  | .node type properties required additionalProperties items, value =>
    type.admits value = true ∧
      match value with
      | .object members =>
        (∀ key ∈ required, (lookup members key).isSome) ∧ SatisfiesProperties members properties ∧
          ∀ key member, lookup members key = some member → key ∉ properties.map Prod.fst →
            Satisfies additionalProperties member
      | .array elements => ∀ element ∈ elements, Satisfies items element
      | _ => True

def SatisfiesProperties (members : List (κ × Value κ)) : List (κ × Schema κ) → Prop
  | [] => True
  | (key, schema) :: properties =>
    (∀ member, lookup members key = some member → Satisfies schema member) ∧
      SatisfiesProperties members properties

end

theorem satisfiesProperties_iff {members : List (κ × Value κ)} {properties : List (κ × Schema κ)} :
    SatisfiesProperties members properties ↔
      ∀ property ∈ properties, ∀ member, lookup members property.1 = some member →
        Satisfies property.2 member := by
  induction properties with
  | nil => simp [SatisfiesProperties]
  | cons property properties inductionHypothesis =>
    obtain ⟨key, schema⟩ := property
    simp [SatisfiesProperties, inductionHypothesis]

/-! ## Schemas that every value satisfies -/

def TypeKeyword.universal : TypeKeyword → Bool
  | .absent => true
  | .one _ => false
  | .several names =>
    [TypeName.object, .array, .string, .number, .boolean, .null].all fun name => names.contains name

mutual

/-- The keywords exclude nothing. -/
def Schema.universal : Schema κ → Bool
  | .boolean admits => admits
  | .anything => true
  | .node type properties required additionalProperties items =>
    type.universal && required.isEmpty && universalProperties properties &&
      additionalProperties.universal && items.universal

def universalProperties : List (κ × Schema κ) → Bool
  | [] => true
  | (_, schema) :: properties => schema.universal && universalProperties properties

end

omit [DecidableEq κ] in
@[simp] theorem universalProperties_iff {properties : List (κ × Schema κ)} :
    universalProperties properties = true ↔ ∀ property ∈ properties, property.2.universal = true := by
  induction properties with
  | nil => simp [universalProperties]
  | cons property properties inductionHypothesis =>
    obtain ⟨key, schema⟩ := property
    simp [universalProperties, inductionHypothesis]

omit [DecidableEq κ] in
/-- Each type has a value that no other type of the list admits. -/
theorem TypeKeyword.universal_iff [Inhabited κ] (type : TypeKeyword) :
    type.universal = true ↔ ∀ value : Value κ, type.admits value = true := by
  cases type with
  | absent => simp [universal, admits]
  | one name =>
    suffices ∃ value : Value κ, name.admits value = false by
      simpa [universal, admits] using this
    cases name with
    | null => exact ⟨.bool true, rfl⟩
    | _ => exact ⟨.null, rfl⟩
  | several names =>
    simp only [universal, admits, List.all_eq_true, List.any_eq_true, List.contains_iff_mem]
    constructor
    · intro covered value
      cases value with
      | null => exact ⟨.null, covered _ (by simp), rfl⟩
      | bool value => exact ⟨.boolean, covered _ (by simp), rfl⟩
      | int value => exact ⟨.number, covered _ (by simp), rfl⟩
      | float value => exact ⟨.number, covered _ (by simp), rfl⟩
      | string value => exact ⟨.string, covered _ (by simp), rfl⟩
      | array items => exact ⟨.array, covered _ (by simp), rfl⟩
      | object members => exact ⟨.object, covered _ (by simp), rfl⟩
    · intro all name listed
      have only : ∀ value : Value κ, (∀ other : TypeName, other.admits value = true → other = name) →
          name ∈ names := by
        intro value unique
        obtain ⟨other, mem, admitted⟩ := all value
        exact unique other admitted ▸ mem
      cases name with
      | object => exact only (.object []) fun other => by cases other <;> simp [TypeName.admits]
      | array => exact only (.array []) fun other => by cases other <;> simp [TypeName.admits]
      | string => exact only (.string default) fun other => by cases other <;> simp [TypeName.admits]
      | number =>
        -- a fraction is no integer
        have fraction : ((1 : ℚ) / 2).den ≠ 1 := by decide +kernel
        refine only (.float (1 / 2)) fun other admitted => ?_
        cases other with
        | number => rfl
        | integer => exact absurd (of_decide_eq_true admitted) fraction
        | object | array | string | boolean | null => cases admitted
      | boolean => exact only (.bool true) fun other => by cases other <;> simp [TypeName.admits]
      | null => exact only .null fun other => by cases other <;> simp [TypeName.admits]
      | integer => simp at listed

theorem universal_iff [Infinite κ] (schema : Schema κ) :
    schema.universal = true ↔ ∀ value, Satisfies schema value := by
  induction schema using Schema.subschemas with
  | boolean admits =>
    have : Nonempty (Value κ) := ⟨.null⟩
    simp [Schema.universal, Satisfies]
  | anything => simp [Schema.universal, Satisfies]
  | node type properties required additionalProperties items byProperty byAdditional byItems =>
    have : Inhabited κ := Classical.inhabited_of_nonempty inferInstance
    simp only [Schema.universal, Bool.and_eq_true, List.isEmpty_iff, universalProperties_iff,
      TypeKeyword.universal_iff (κ := κ), byAdditional, byItems]
    constructor
    · rintro ⟨⟨⟨⟨admitted, rfl⟩, declared⟩, undeclared⟩, element⟩ value
      refine ⟨admitted value, ?_⟩
      cases value with
      | object members =>
        refine ⟨by simp, satisfiesProperties_iff.mpr fun property mem member _ => ?_, ?_⟩
        · exact (byProperty property mem).mp (declared property mem) member
        · intro _ member _ _
          exact undeclared member
      | array elements => exact fun item _ => element item
      | _ => trivial
    · intro all
      refine ⟨⟨⟨⟨fun value => (all value).1, ?_⟩, ?_⟩, ?_⟩, ?_⟩
      · -- an object without members lacks what is required
        have bare := (all (.object [])).2.1
        cases required with
        | nil => rfl
        | cons key required => exact absurd (bare key List.mem_cons_self) (by simp [lookup])
      · intro property mem
        rw [byProperty property mem]
        intro value
        have declared := satisfiesProperties_iff.mp (all (.object [(property.1, value)])).2.2.1
        exact declared property mem value (by simp)
      · intro value
        obtain ⟨key, fresh⟩ := Infinite.exists_notMem_finset (properties.map Prod.fst).toFinset
        rw [List.mem_toFinset] at fresh
        exact (all (.object [(key, value)])).2.2.2 key value (by simp) fresh
      · intro value
        exact (all (.array [value])).2 value (by simp)

end JsonSchema
