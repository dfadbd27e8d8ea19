import Eiraos.Agent.SchemaValidation

/-! # When what the validator accepts has its declared meaning

A schema is sound when nothing that a value can reach in it is skipped: under a `type` that
is no single name the keywords must exclude nothing, and the same holds of an
`additionalProperties` that is a schema.
-/

namespace Eiraos.Agent

open Guarded JsonSchema PythonText

instance infinitePythonStr : Infinite PythonStr :=
  Infinite.of_injective (fun codePoint : Nat => ⟨[codePoint]⟩) fun first second same => by simpa using same

/-! ## The condition on a schema -/

mutual

/-- Every `properties` has each key once. -/
def Distinct : Schema PythonStr → Prop
  | .boolean _ => True
  | .anything => True
  | .node _ properties _ additionalProperties items =>
    (properties.map Prod.fst).Nodup ∧ DistinctAll properties ∧ Distinct additionalProperties ∧
      Distinct items

def DistinctAll : List (PythonStr × Schema PythonStr) → Prop
  | [] => True
  | (_, schema) :: properties => Distinct schema ∧ DistinctAll properties

end

mutual

/-- Some value is accepted: every required key may be present with a value that is accepted. -/
def fillable : Schema PythonStr → Bool
  | .boolean admits => !admits
  | .anything => true
  | .node (.one .object) properties required additionalProperties _ =>
    (!closed additionalProperties || required.all fun key => (properties.map Prod.fst).contains key) &&
      fillableProperties required properties
  | .node _ _ _ _ _ => true

def fillableProperties (required : List PythonStr) : List (PythonStr × Schema PythonStr) → Bool
  | [] => true
  | (key, schema) :: properties =>
    (!required.contains key || fillable schema) && fillableProperties required properties

end

mutual

/-- What is accepted satisfies the schema. -/
def sound : Schema PythonStr → Bool
  -- `False` is not enforced
  | .boolean admits => admits
  | .anything => true
  | .node (.one .object) properties required additionalProperties items =>
    -- nothing is accepted, or nothing of a member is skipped
    !fillable (.node (.one .object) properties required additionalProperties items) ||
      (closed additionalProperties || additionalProperties.universal) && soundProperties properties
  | .node (.one .array) _ _ _ items => sound items
  -- the other keywords say nothing about scalars
  | .node (.one _) _ _ _ _ => true
  | .node type properties required additionalProperties items =>
    (Schema.node type properties required additionalProperties items).universal

def soundProperties : List (PythonStr × Schema PythonStr) → Bool
  | [] => true
  | (_, schema) :: properties => sound schema && soundProperties properties

end

@[simp] theorem distinctAll_iff {properties : List (PythonStr × Schema PythonStr)} :
    DistinctAll properties ↔ ∀ property ∈ properties, Distinct property.2 := by
  induction properties with
  | nil => simp [DistinctAll]
  | cons property properties inductionHypothesis =>
    obtain ⟨key, schema⟩ := property
    simp [DistinctAll, inductionHypothesis]

@[simp] theorem fillableProperties_iff {required : List PythonStr}
    {properties : List (PythonStr × Schema PythonStr)} :
    fillableProperties required properties = true ↔
      ∀ property ∈ properties, property.1 ∈ required → fillable property.2 = true := by
  induction properties with
  | nil => simp [fillableProperties]
  | cons property properties inductionHypothesis =>
    obtain ⟨key, schema⟩ := property
    rw [fillableProperties, Bool.and_eq_true, inductionHypothesis, List.forall_mem_cons]
    simp [imp_iff_not_or]

@[simp] theorem soundProperties_iff {properties : List (PythonStr × Schema PythonStr)} :
    soundProperties properties = true ↔ ∀ property ∈ properties, sound property.2 = true := by
  induction properties with
  | nil => simp [soundProperties]
  | cons property properties inductionHypothesis =>
    obtain ⟨key, schema⟩ := property
    simp [soundProperties, inductionHypothesis]

theorem DeclaresMembers.distinctAll {members : List (MappingKey × SchemaSource)}
    {properties : List (PythonStr × Schema PythonStr)} (declares : DeclaresMembers members properties)
    (distinct : ∀ property ∈ properties, ∀ source, Declares source property.2 → Distinct property.2) :
    ∀ property ∈ properties, Distinct property.2 := by
  induction properties generalizing members with
  | nil => simp
  | cons property properties inductionHypothesis =>
    cases declares with
    | cons first rest =>
      rw [List.forall_mem_cons] at distinct ⊢
      exact ⟨distinct.1 _ first, inductionHypothesis rest distinct.2⟩

/-- What a dictionary declares has each property once. -/
theorem Declares.distinct {schema : Schema PythonStr} {source : SchemaSource}
    (declares : Declares source schema) : Distinct schema := by
  induction schema using Schema.subschemas generalizing source with
  | boolean admits => trivial
  | anything => trivial
  | node type properties required additionalProperties items byProperty byAdditional byItems =>
    cases declares with
    | @node members _ _ _ _ _ _ declared _ undeclared element =>
      generalize SchemaSource.keyword? members "properties" = givenProperties at declared
      generalize SchemaSource.keyword? members "additionalProperties" = givenOthers at undeclared
      generalize SchemaSource.keyword? members "items" = givenItems at element
      refine ⟨?_, distinctAll_iff.mpr ?_, ?_, ?_⟩
      · cases declared with
        | absent => exact List.nodup_nil
        | given distinct => exact distinct
      · cases declared with
        | absent => simp
        | given _ declares =>
          exact declares.distinctAll fun property mem source declares => byProperty property mem declares
      · cases undeclared with
        | absent => trivial
        | given declares => exact byAdditional declares
      · cases element with
        | absent => trivial
        | given declares => exact byItems declares

/-! ## Values that are accepted -/

section objects

variable {properties : List (PythonStr × Schema PythonStr)} {required : List PythonStr}
  {additionalProperties items : Schema PythonStr} {members : List (PythonStr × Value PythonStr)}

theorem accepts_object :
    Accepts (.node (.one .object) properties required additionalProperties items) (.object members) ↔
      (∀ key ∈ required, (lookup members key).isSome) ∧
        (closed additionalProperties = true → ∀ member ∈ members, member.1 ∈ properties.map Prod.fst) ∧
        ∀ property ∈ properties, ∀ member, lookup members property.1 = some member →
          Accepts property.2 member := by
  simp [Accepts, isInstance, acceptsProperties_iff]

/-- A declared member may take any accepted value. -/
theorem accepts_declared (distinct : (properties.map Prod.fst).Nodup)
    (accepted : Accepts (.node (.one .object) properties required additionalProperties items)
      (.object members))
    {property : PythonStr × Schema PythonStr} (mem : property ∈ properties) {value : Value PythonStr}
    (own : Accepts property.2 value) :
    Accepts (.node (.one .object) properties required additionalProperties items)
      (.object ((property.1, value) :: members)) := by
  rw [accepts_object] at accepted ⊢
  obtain ⟨present, known, each⟩ := accepted
  refine ⟨fun key needed => ?_, fun refused member there => ?_, fun other declared member found => ?_⟩
  · rw [lookup_cons]
    split
    next => rfl
    next => exact present key needed
  · cases List.mem_cons.mp there with
    | inl here => exact here ▸ List.mem_map_of_mem mem
    | inr earlier => exact known refused member earlier
  · rw [lookup_cons] at found
    split at found
    next same =>
      -- the same key is the same property
      cases found
      have unique : lookup properties property.1 = some other.2 := by
        rw [show property.1 = other.1 from same]
        exact lookup_of_mem distinct declared
      rw [lookup_of_mem distinct mem, Option.some.injEq] at unique
      exact unique ▸ own
    next => exact each other declared member found

/-- Where other members are let in, one may have any value. -/
theorem accepts_undeclared (allowed : closed additionalProperties = false)
    (accepted : Accepts (.node (.one .object) properties required additionalProperties items)
      (.object members))
    {key : PythonStr} (fresh : key ∉ properties.map Prod.fst) (value : Value PythonStr) :
    Accepts (.node (.one .object) properties required additionalProperties items)
      (.object ((key, value) :: members)) := by
  rw [accepts_object] at accepted ⊢
  obtain ⟨present, known, each⟩ := accepted
  refine ⟨fun other needed => ?_, fun refused => ?_, fun other declared member found => ?_⟩
  · rw [lookup_cons]
    split
    next => rfl
    next => exact present other needed
  · rw [allowed] at refused
    cases refused
  · rw [lookup_cons, if_neg] at found
    · exact each other declared member found
    · rintro rfl
      exact fresh (List.mem_map_of_mem declared)

end objects

theorem lookup_map {α : Type} (value : PythonStr → α) (keys : List PythonStr) (key : PythonStr) :
    lookup (keys.map fun key => (key, value key)) key = if key ∈ keys then some (value key) else none := by
  induction keys with
  | nil => rfl
  | cons first keys inductionHypothesis =>
    rw [List.map_cons, lookup_cons, inductionHypothesis]
    by_cases same : first = key
    · simp [same]
    · simp [same, Ne.symm same]

/-- An object with a value for each required key. -/
theorem exists_accepted {properties : List (PythonStr × Schema PythonStr)} {required : List PythonStr}
    {additionalProperties items : Schema PythonStr} (distinct : (properties.map Prod.fst).Nodup)
    (byProperty : ∀ property ∈ properties, fillable property.2 = true → ∃ value, Accepts property.2 value)
    (filled : fillable (.node (.one .object) properties required additionalProperties items) = true) :
    ∃ members, Accepts (.node (.one .object) properties required additionalProperties items)
      (.object members) := by
  simp only [fillable, Bool.and_eq_true, Bool.or_eq_true, Bool.not_eq_true', List.all_eq_true,
    List.contains_iff_mem, fillableProperties_iff] at filled
  obtain ⟨known, each⟩ := filled
  -- one value for each key: that of its property, or any
  have chosen : ∀ key, ∃ value : Value PythonStr, ∀ property ∈ properties, property.1 = key →
      key ∈ required → Accepts property.2 value := by
    intro key
    by_cases declared : ∃ property ∈ properties, property.1 = key ∧ key ∈ required
    · obtain ⟨property, mem, rfl, needed⟩ := declared
      obtain ⟨value, accepted⟩ := byProperty property mem (each property mem needed)
      refine ⟨value, fun other there same _ => ?_⟩
      have unique := lookup_of_mem distinct there
      rw [same, lookup_of_mem distinct mem, Option.some.injEq] at unique
      exact unique ▸ accepted
    · exact ⟨.null, fun property mem same needed => absurd ⟨property, mem, same, needed⟩ declared⟩
  choose value accepted using chosen
  refine ⟨required.map fun key => (key, value key), accepts_object.mpr ⟨?_, ?_, ?_⟩⟩
  · intro key needed
    simp [lookup_map, needed]
  · intro refused member mem
    obtain ⟨key, needed, rfl⟩ := List.mem_map.mp mem
    cases known with
    | inl allowed =>
      rw [allowed] at refused
      cases refused
    | inr known => exact known key needed
  · intro property mem member found
    rw [lookup_map] at found
    split at found
    next needed =>
      cases found
      exact accepted property.1 property mem rfl needed
    next => cases found

theorem fillable_iff {schema : Schema PythonStr} (distinct : Distinct schema) :
    fillable schema = true ↔ ∃ value, Accepts schema value := by
  induction schema using Schema.subschemas with
  | boolean admits => simpa [fillable, Accepts] using fun _ => ⟨Value.null⟩
  | anything => simpa [fillable, Accepts] using ⟨Value.null⟩
  | node type properties required additionalProperties items byProperty _ _ =>
    obtain ⟨once, each, -, -⟩ := distinct
    rw [distinctAll_iff] at each
    cases type with
    | absent | several => simpa [fillable, Accepts] using ⟨Value.null⟩
    | one name =>
      cases name with
      | object =>
        constructor
        · intro filled
          obtain ⟨members, accepted⟩ := exists_accepted once
            (fun property mem => (byProperty property mem (each property mem)).mp) filled
          exact ⟨.object members, accepted⟩
        · rintro ⟨value, accepted⟩
          cases value with
          | object members =>
            obtain ⟨present, known, declared⟩ := accepts_object.mp accepted
            simp only [fillable, Bool.and_eq_true, Bool.or_eq_true, Bool.not_eq_true', List.all_eq_true,
              List.contains_iff_mem, fillableProperties_iff]
            refine ⟨?_, fun property mem needed => ?_⟩
            · cases refused : closed additionalProperties with
              | false => exact .inl rfl
              | true =>
                refine .inr fun key needed => ?_
                obtain ⟨value, found⟩ := Option.isSome_iff_exists.mp (present key needed)
                exact known refused (key, value) (mem_of_lookup found)
            · obtain ⟨value, found⟩ := Option.isSome_iff_exists.mp (present property.1 needed)
              exact (byProperty property mem (each property mem)).mpr
                ⟨value, declared property mem value found⟩
          | _ => simp [Accepts, isInstance] at accepted
      | array => exact ⟨fun _ => ⟨.array [], by simp [Accepts, isInstance]⟩, fun _ => rfl⟩
      | string => exact ⟨fun _ => ⟨.string "", by simp [Accepts, isInstance]⟩, fun _ => rfl⟩
      | integer => exact ⟨fun _ => ⟨.int 0, by simp [Accepts, isInstance]⟩, fun _ => rfl⟩
      | number => exact ⟨fun _ => ⟨.int 0, by simp [Accepts, isInstance]⟩, fun _ => rfl⟩
      | boolean => exact ⟨fun _ => ⟨.bool true, by simp [Accepts, isInstance]⟩, fun _ => rfl⟩
      | null => exact ⟨fun _ => ⟨.null, by simp [Accepts, isInstance]⟩, fun _ => rfl⟩

/-! ## Soundness -/

theorem admits_of_isInstance {name : TypeName} {value : Value PythonStr}
    (checked : isInstance name value = true) : name.admits value = true := by
  cases name <;> cases value <;> first | rfl | cases checked

section objects

variable {properties : List (PythonStr × Schema PythonStr)} {required : List PythonStr}
  {additionalProperties items : Schema PythonStr} {members : List (PythonStr × Value PythonStr)}

theorem satisfies_object :
    Satisfies (.node (.one .object) properties required additionalProperties items) (.object members) ↔
      (∀ key ∈ required, (lookup members key).isSome) ∧
        (∀ property ∈ properties, ∀ member, lookup members property.1 = some member →
          Satisfies property.2 member) ∧
        ∀ key member, lookup members key = some member → key ∉ properties.map Prod.fst →
          Satisfies additionalProperties member := by
  simp [Satisfies, TypeKeyword.admits, TypeName.admits, satisfiesProperties_iff]

/-- An object whose members are checked and whose other members are refused or unrestricted. -/
theorem satisfies_of_accepts
    (restricted : closed additionalProperties = true ∨ additionalProperties.universal = true)
    (byProperty : ∀ property ∈ properties, ∀ value, Accepts property.2 value → Satisfies property.2 value)
    (accepted : Accepts (.node (.one .object) properties required additionalProperties items)
      (.object members)) :
    Satisfies (.node (.one .object) properties required additionalProperties items) (.object members) := by
  obtain ⟨present, known, each⟩ := accepts_object.mp accepted
  refine satisfies_object.mpr ⟨present, ?_, ?_⟩
  · intro property mem member found
    exact byProperty property mem member (each property mem member found)
  · intro key member found undeclared
    cases restricted with
    | inl refused => exact absurd (known refused (key, member) (mem_of_lookup found)) undeclared
    | inr unrestricted => exact (universal_iff _).mp unrestricted member

/-- Otherwise an object with one member more is accepted against its meaning. -/
theorem restricted_of_satisfies
    (accepted : Accepts (.node (.one .object) properties required additionalProperties items)
      (.object members))
    (all : ∀ members, Accepts (.node (.one .object) properties required additionalProperties items)
        (.object members) →
      Satisfies (.node (.one .object) properties required additionalProperties items) (.object members)) :
    closed additionalProperties = true ∨ additionalProperties.universal = true := by
  cases allowed : closed additionalProperties with
  | true => exact .inl rfl
  | false =>
    refine .inr ((universal_iff _).mpr fun value => ?_)
    -- there are infinitely many keys, so one is undeclared
    obtain ⟨key, fresh⟩ := Infinite.exists_notMem_finset (properties.map Prod.fst).toFinset
    rw [List.mem_toFinset] at fresh
    obtain ⟨-, -, undeclared⟩ := satisfies_object.mp
      (all _ (accepts_undeclared allowed accepted fresh value))
    exact undeclared key value (by simp [lookup_cons]) fresh

end objects

theorem sound_iff {schema : Schema PythonStr} (distinct : Distinct schema) :
    sound schema = true ↔ ∀ value, Accepts schema value → Satisfies schema value := by
  induction schema using Schema.subschemas with
  | boolean admits =>
    have : Nonempty (Value PythonStr) := ⟨.null⟩
    cases admits <;> simp [sound, Accepts, Satisfies]
  | anything => simp [sound, Satisfies]
  | node type properties required additionalProperties items byProperty _ byItems =>
    have filled := fillable_iff distinct
    obtain ⟨once, each, -, element⟩ := distinct
    rw [distinctAll_iff] at each
    cases type with
    | absent | several => simp [sound, Accepts, universal_iff]
    | one name =>
      cases name with
      | object =>
        rw [sound, Bool.or_eq_true, Bool.and_eq_true, Bool.or_eq_true, Bool.not_eq_true',
          soundProperties_iff]
        constructor
        · intro covered value accepted
          have some := filled.mpr ⟨value, accepted⟩
          simp only [some, reduceCtorEq, false_or] at covered
          cases value with
          | object members =>
            exact satisfies_of_accepts covered.1
              (fun property mem => (byProperty property mem (each property mem)).mp (covered.2 property mem))
              accepted
          | _ => simp [Accepts, isInstance] at accepted
        · intro all
          cases some : fillable (.node (.one .object) properties required additionalProperties items) with
          | false => exact .inl rfl
          | true =>
            obtain ⟨value, accepted⟩ := filled.mp some
            cases value with
            | object members =>
              refine .inr ⟨restricted_of_satisfies accepted fun members => all (.object members), ?_⟩
              intro property mem
              rw [byProperty property mem (each property mem)]
              intro value own
              -- the value stands under its key in an object that is accepted
              obtain ⟨-, declared, -⟩ := satisfies_object.mp
                (all _ (accepts_declared once accepted mem own))
              exact declared property mem value (by simp [lookup_cons])
            | _ => simp [Accepts, isInstance] at accepted
      | array =>
        rw [sound, byItems element]
        constructor
        · intro all value accepted
          cases value with
          | array elements =>
            rw [Accepts] at accepted
            exact ⟨rfl, fun element mem => all element (accepted.2 element mem)⟩
          | _ => simp [Accepts, isInstance] at accepted
        · intro all value accepted
          have one := all (.array [value]) (by simp [Accepts, isInstance, accepted])
          exact one.2 value (by simp)
      | _ =>
        refine ⟨fun _ value accepted => ?_, fun _ => rfl⟩
        cases value with
        | object members | array elements =>
          rw [Accepts] at accepted
          cases accepted.1
        | _ =>
          simp only [Accepts] at accepted
          simp only [Satisfies]
          exact ⟨admits_of_isInstance accepted.1, trivial⟩

/-- What `_validate_schema` accepts under a frozen schema satisfies every declared keyword
exactly when the schema is sound. -/
theorem schema_validation_sound_iff {source : SchemaSource} {schema : Schema PythonStr}
    {frozen : ToolValue} (declares : Declares source schema) (accepted : source.freeze = .ok frozen) :
    (∀ (value : Value PythonStr) (path : PythonStr),
        ToolValue.validateSchema (ofJson value) path frozen = .ok () → Satisfies schema value) ↔
      sound schema = true := by
  rw [sound_iff declares.distinct]
  have agrees := simulated schema source frozen declares accepted
  constructor
  · intro all value accepted
    exact all value "" ((agrees value "").mpr accepted)
  · intro all value path validated
    exact all value ((agrees value path).mp validated)

/-! ## A search tool -/

def searchSource : SchemaSource :=
  .mapping [(.string "type", .string "object"),
    (.string "properties", .mapping [(.string "query", .mapping [(.string "type", .string "string")])]),
    (.string "required", .list [.string "query"]),
    (.string "additionalProperties", .bool false)]

def searchSchema : Schema PythonStr :=
  .node (.one .object) [("query", .node (.one .string) [] [] .anything .anything)] ["query"]
    (.boolean false) .anything

def frozenSearch : ToolValue :=
  .object [("type", .string "object"),
    ("properties", .object [("query", .object [("type", .string "string")])]),
    ("required", .array [.string "query"]), ("additionalProperties", .bool false)]

theorem searchSource_declares : Declares searchSource searchSchema := by
  have query : Declares (.mapping [(.string "type", .string "string")])
      (.node (.one .string) [] [] .anything .anything) :=
    .node (.one .string) .absent .absent .absent .absent
  exact .node (.one .object) (.given (by decide) (.cons query .nil)) (.list ["query"])
    (.given (.boolean false)) .absent

theorem schema_validation_sound_search :
    Declares searchSource searchSchema ∧ searchSource.freeze = .ok frozenSearch ∧
      ∀ (value : Value PythonStr) (path : PythonStr),
        ToolValue.validateSchema (ofJson value) path frozenSearch = .ok () →
          Satisfies searchSchema value :=
  ⟨searchSource_declares, rfl, (schema_validation_sound_iff searchSource_declares rfl).mpr
    (by decide +kernel)⟩

/-- A list of names is not enforced: a number passes for a string. -/
theorem type_list_unenforced :
    ¬∀ (source : SchemaSource) (schema : Schema PythonStr) (frozen : ToolValue), Declares source schema →
      source.freeze = .ok frozen → ∀ (value : Value PythonStr) (path : PythonStr),
        ToolValue.validateSchema (ofJson value) path frozen = .ok () → Satisfies schema value := by
  intro all
  have declares : Declares (.mapping [(.string "type", .list [.string "string"])])
      (.node (.several [.string]) [] [] .anything .anything) :=
    .node (.list [.string]) .absent .absent .absent .absent
  have satisfied := all _ _ _ declares rfl (.int 5) "arguments" (by decide +kernel)
  simp [Satisfies, TypeKeyword.admits, TypeName.admits] at satisfied

end Eiraos.Agent
