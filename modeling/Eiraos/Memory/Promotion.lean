import Eiraos.Foundations.Lineage
import Eiraos.Foundations.Run
import Eiraos.Memory.Store

/-! # Promotion between memory classes (`application/memory.py`)

The store of items by their ids, where an item is put once or made from another one by
`promote`.  Items hold contents and provenance of any kind.
-/

namespace Eiraos.Memory

open Guarded Lineage

variable {Object : Type}

/-- A key or a value of a dictionary: a string or another object. -/
inductive Entry (Object : Type) where
  | text (value : String)
  | object (value : Object)
  deriving DecidableEq, Repr

def Entry.isText (text : String) : Entry Object → Bool
  | .text value => value = text
  | .object _ => false

/-- The items of a dictionary. -/
abbrev Provenance (Object : Type) := List (Entry Object × Entry Object)

structure MemoryItem (Object : Type) where
  itemId : String
  memoryClass : MemoryClass
  scope : String
  content : Object
  provenance : Provenance Object
  deriving DecidableEq, Repr

structure Promotion (Object : Type) where
  actor : String
  reason : String
  targetClass : MemoryClass
  provenance : Provenance Object
  deriving DecidableEq, Repr

inductive StoreError where
  | keyError (itemId : String)
  | valueError (text : String)
  deriving DecidableEq, Repr

/-- `_items`: an item is kept under its own id. -/
structure MemoryStore (Object : Type) where
  items : String → Option (MemoryItem Object)
  keyed : ∀ itemId item, items itemId = some item → item.itemId = itemId

namespace MemoryStore

def empty : MemoryStore Object := ⟨fun _ => none, fun _ _ found => by cases found⟩

def insert (store : MemoryStore Object) (item : MemoryItem Object) : MemoryStore Object where
  items := Function.update store.items item.itemId (some item)
  keyed := by
    intro itemId found present
    by_cases same : itemId = item.itemId
    · rw [same, Function.update_self] at present
      rw [← Option.some.inj present, same]
    · rw [Function.update_of_ne same] at present
      exact store.keyed itemId found present

def put (store : MemoryStore Object) (item : MemoryItem Object) : Except StoreError (MemoryStore Object) := do
  ensure (item.itemId ≠ "" ∧ item.scope ≠ "") (StoreError.valueError "memory item requires id and scope")
  ensure (¬((item.memoryClass = .persistentMemory ∨ item.memoryClass = .userOrgKnowledge) ∧
      item.provenance.isEmpty))
    (StoreError.valueError "persistent/knowledge items require provenance")
  ensure (store.items item.itemId).isNone (StoreError.valueError "memory item identity is immutable")
  return store.insert item

/-- The item that `promote` makes; its source is written over what the caller says. -/
def promoted (source : MemoryItem Object) (promotion : Promotion Object) (newId : String)
    (content : Object) : MemoryItem Object where
  itemId := newId
  memoryClass := promotion.targetClass
  scope := source.scope
  content
  provenance := (promotion.provenance.filter fun entry =>
      !(entry.1.isText "source_item_id" || entry.1.isText "source_class")) ++
    [(.text "source_item_id", .text source.itemId), (.text "source_class", .text source.memoryClass.value)]

def promote (store : MemoryStore Object) (itemId : String) (promotion : Promotion Object) (newId : String)
    (content : Object) : Except StoreError (MemoryStore Object × MemoryItem Object) := do
  let source ← required (StoreError.keyError itemId) (store.items itemId)
  ensure (promotion.actor ≠ "" ∧ promotion.reason ≠ "")
    (StoreError.valueError "promotion requires actor and reason")
  ensure (¬(source.memoryClass = .userOrgKnowledge ∧ promotion.targetClass = .persistentMemory))
    (StoreError.valueError "cross-owner promotion requires explicit boundary")
  let item := promoted source promotion newId content
  let later ← store.put item
  return (later, item)

end MemoryStore

/-- The source that a provenance names. -/
def Provenance.sourceItemId (provenance : Provenance Object) : Option String := do
  let entry ← provenance.find? fun entry => entry.1.isText "source_item_id"
  match entry.2 with
  | .text itemId => some itemId
  | .object _ => none

/-! ## What one call can do -/

namespace MemoryStore

variable {store later : MemoryStore Object} {item : MemoryItem Object} {itemId newId : String}
  {promotion : Promotion Object} {content : Object}

theorem promoted_sourceItemId (source : MemoryItem Object) (promotion : Promotion Object) (newId : String)
    (content : Object) :
    (promoted source promotion newId content).provenance.sourceItemId = some source.itemId := by
  -- what the caller wrote under the key is gone
  have dropped : (promotion.provenance.filter fun entry =>
      !(entry.1.isText "source_item_id" || entry.1.isText "source_class")).find?
        (fun entry => entry.1.isText "source_item_id") = none := by
    rw [List.find?_eq_none]
    intro entry member
    have kept := (List.mem_filter.mp member).2
    simp only [Bool.not_eq_true', Bool.or_eq_false_iff] at kept
    simp [kept.1]
  unfold Provenance.sourceItemId promoted
  rw [List.find?_append, dropped]
  rfl

theorem put_eq_ok (accepted : store.put item = .ok later) :
    store.items item.itemId = none ∧ later = store.insert item := by
  obtain ⟨_, rest⟩ := guard_bind_eq_ok.mp accepted
  obtain ⟨_, rest⟩ := guard_bind_eq_ok.mp rest
  obtain ⟨fresh, rest⟩ := guard_bind_eq_ok.mp rest
  exact ⟨by simpa using ensure_eq_ok.mp fresh, (pure_eq_ok.mp rest).symm⟩

theorem promote_eq_ok (accepted : store.promote itemId promotion newId content = .ok (later, item)) :
    ∃ source, store.items itemId = some source ∧
      ¬(source.memoryClass = .userOrgKnowledge ∧ promotion.targetClass = .persistentMemory) ∧
      item = promoted source promotion newId content ∧ store.items newId = none ∧
      later = store.insert item := by
  obtain ⟨source, found, rest⟩ := bind_eq_ok.mp accepted
  obtain ⟨_, rest⟩ := guard_bind_eq_ok.mp rest
  obtain ⟨guarded, rest⟩ := guard_bind_eq_ok.mp rest
  obtain ⟨made, stored, rest⟩ := bind_eq_ok.mp rest
  obtain ⟨rfl, rfl⟩ := Prod.mk.inj (pure_eq_ok.mp rest)
  obtain ⟨fresh, grown⟩ := put_eq_ok stored
  exact ⟨source, required_eq_ok.mp found, ensure_eq_ok.mp guarded, rfl, fresh, grown⟩

end MemoryStore

/-! ## Runs -/

inductive MemoryCall (Object : Type) where
  | put (item : MemoryItem Object)
  | promote (itemId : String) (promotion : Promotion Object) (newId : String) (content : Object)

/-- The store, with the ids of the items that `promote` has made. -/
structure StoreHistory (Object : Type) where
  store : MemoryStore Object
  promoted : List String

/-- The store after a call; one that raises leaves it as it is. -/
def StoreHistory.after (state : StoreHistory Object) : MemoryCall Object → StoreHistory Object
  | .put item =>
    match state.store.put item with
    | .ok store => { state with store }
    | .error _ => state
  | .promote itemId promotion newId content =>
    match state.store.promote itemId promotion newId content with
    | .ok (store, item) => ⟨store, item.itemId :: state.promoted⟩
    | .error _ => state

def storeStep (state : StoreHistory Object) (call : MemoryCall Object) : Option (StoreHistory Object) :=
  some (state.after call)

def MemoryCall.accepted (store : MemoryStore Object) : MemoryCall Object → Bool
  | .put item => (store.put item).isOk
  | .promote itemId promotion newId content => (store.promote itemId promotion newId content).isOk

namespace StoreHistory

def empty : StoreHistory Object := ⟨.empty, []⟩

/-- The item that an item was promoted from. -/
def origin (state : StoreHistory Object) (itemId : String) : Option String :=
  if itemId ∈ state.promoted then
    (state.store.items itemId).bind fun item => item.provenance.sourceItemId
  else none

def IsClass (state : StoreHistory Object) (memoryClass : MemoryClass) (itemId : String) : Prop :=
  ∃ item, state.store.items itemId = some item ∧ item.memoryClass = memoryClass

/-- Promoted persistent memory. -/
def Kept (state : StoreHistory Object) (itemId : String) : Prop :=
  itemId ∈ state.promoted ∧ state.IsClass .persistentMemory itemId

/-- The call promotes an item into persistent memory that descends from knowledge. -/
def Launders (state : StoreHistory Object) : MemoryCall Object → Prop
  | .put _ => False
  | .promote itemId promotion _ _ => promotion.targetClass = .persistentMemory ∧
      ∃ ancestor, Ancestor state.origin itemId ancestor ∧ state.IsClass .userOrgKnowledge ancestor

structure BoundaryHolds (state : StoreHistory Object) : Prop where
  noKnowledge : Barred state.origin state.Kept (state.IsClass .userOrgKnowledge)
  sameScope : ∀ itemId ∈ state.promoted, ∀ ancestor, Ancestor state.origin itemId ancestor →
    ∀ item source, state.store.items itemId = some item → state.store.items ancestor = some source →
      item.scope = source.scope

/-- Promoted items are there, and so are their sources, in the same scope. -/
structure Consistent (state : StoreHistory Object) : Prop where
  present : ∀ itemId ∈ state.promoted, ∃ item, state.store.items itemId = some item
  sources : ∀ itemId source, state.origin itemId = some source → ∃ item origin,
    state.store.items itemId = some item ∧ state.store.items source = some origin ∧ item.scope = origin.scope

end StoreHistory

inductive StoreMove (state : StoreHistory Object) : MemoryCall Object → StoreHistory Object → Prop where
  | refused {call : MemoryCall Object} (refused : call.accepted state.store = false) :
      StoreMove state call state
  | put {item : MemoryItem Object} (fresh : state.store.items item.itemId = none) :
      StoreMove state (.put item) { state with store := state.store.insert item }
  | promoted {itemId newId : String} {promotion : Promotion Object} {content : Object}
      {source : MemoryItem Object}
      (accepted : (MemoryCall.promote itemId promotion newId content).accepted state.store = true)
      (found : state.store.items itemId = some source)
      (guarded : ¬(source.memoryClass = .userOrgKnowledge ∧ promotion.targetClass = .persistentMemory))
      (fresh : state.store.items newId = none) :
      StoreMove state (.promote itemId promotion newId content)
        ⟨state.store.insert (MemoryStore.promoted source promotion newId content), newId :: state.promoted⟩

section Steps

variable {state : StoreHistory Object} {call : MemoryCall Object}

theorem after_move (state : StoreHistory Object) (call : MemoryCall Object) :
    StoreMove state call (state.after call) := by
  cases call with
  | put item =>
    cases ending : state.store.put item with
    | error error =>
      simp only [StoreHistory.after, ending]
      exact .refused (by simp [MemoryCall.accepted, ending, Except.isOk, Except.toBool])
    | ok later =>
      obtain ⟨fresh, rfl⟩ := MemoryStore.put_eq_ok ending
      simp only [StoreHistory.after, ending]
      exact .put fresh
  | promote itemId promotion newId content =>
    cases ending : state.store.promote itemId promotion newId content with
    | error error =>
      simp only [StoreHistory.after, ending]
      exact .refused (by simp [MemoryCall.accepted, ending, Except.isOk, Except.toBool])
    | ok made =>
      obtain ⟨later, item⟩ := made
      obtain ⟨source, found, guarded, rfl, fresh, rfl⟩ := MemoryStore.promote_eq_ok ending
      simp only [StoreHistory.after, ending]
      exact .promoted (by simp [MemoryCall.accepted, ending, Except.isOk, Except.toBool]) found guarded fresh

namespace StoreHistory

theorem Consistent.not_promoted (consistent : Consistent state) {itemId : String}
    (fresh : state.store.items itemId = none) : itemId ∉ state.promoted := by
  intro made
  obtain ⟨item, present⟩ := consistent.present itemId made
  rw [fresh] at present
  cases present

theorem Consistent.unused (consistent : Consistent state) {fresh : String}
    (absent : state.store.items fresh = none) (itemId : String) : state.origin itemId ≠ some fresh := by
  intro made
  obtain ⟨_, source, _, present, _⟩ := consistent.sources itemId fresh made
  rw [absent] at present
  cases present

/-- What a new item changes, whether it was put or promoted. -/
structure Adds (state : StoreHistory Object) (item : MemoryItem Object) (promoted : List String) : Prop where
  absent : state.store.items item.itemId = none
  others : ∀ itemId, itemId ≠ item.itemId → (itemId ∈ promoted ↔ itemId ∈ state.promoted)
  earlier : origin ⟨state.store.insert item, promoted⟩ item.itemId ≠ some item.itemId

theorem isClass_insert {item : MemoryItem Object} {promoted : List String} {memoryClass : MemoryClass}
    {itemId : String} (other : itemId ≠ item.itemId) :
    IsClass ⟨state.store.insert item, promoted⟩ memoryClass itemId ↔ state.IsClass memoryClass itemId := by
  simp only [IsClass, MemoryStore.insert, Function.update_of_ne other]

theorem isClass_insert_self {item : MemoryItem Object} {promoted : List String} {memoryClass : MemoryClass} :
    IsClass ⟨state.store.insert item, promoted⟩ memoryClass item.itemId ↔ item.memoryClass = memoryClass := by
  simp [IsClass, MemoryStore.insert]

section Adding

variable {item : MemoryItem Object} {promoted : List String}

theorem Adds.origin_other (adds : Adds state item promoted) {itemId : String} (other : itemId ≠ item.itemId) :
    origin ⟨state.store.insert item, promoted⟩ itemId = state.origin itemId := by
  simp only [origin, adds.others itemId other, MemoryStore.insert, Function.update_of_ne other]

theorem Adds.kept_iff (adds : Adds state item promoted) {itemId : String} (other : itemId ≠ item.itemId) :
    Kept ⟨state.store.insert item, promoted⟩ itemId ↔ state.Kept itemId :=
  and_congr (adds.others itemId other) (isClass_insert other)

theorem Adds.grown (adds : Adds state item promoted) (consistent : Consistent state) :
    Grown state.origin (origin ⟨state.store.insert item, promoted⟩) item.itemId where
  kept _ other := adds.origin_other other
  unused := consistent.unused adds.absent
  earlier := adds.earlier

theorem Adds.barred_iff (adds : Adds state item promoted) (consistent : Consistent state) :
    Barred (origin ⟨state.store.insert item, promoted⟩) (Kept ⟨state.store.insert item, promoted⟩)
        (IsClass ⟨state.store.insert item, promoted⟩ .userOrgKnowledge) ↔
      Barred state.origin state.Kept (state.IsClass .userOrgKnowledge) ∧
        (item.itemId ∈ promoted ∧ item.memoryClass = .persistentMemory → ∀ source,
          origin ⟨state.store.insert item, promoted⟩ item.itemId = some source →
          ∀ ancestor, Line state.origin source ancestor → ¬state.IsClass .userOrgKnowledge ancestor) := by
  have own : Kept ⟨state.store.insert item, promoted⟩ item.itemId ↔
      item.itemId ∈ promoted ∧ item.memoryClass = .persistentMemory :=
    and_congr_right fun _ => isClass_insert_self
  rw [← own]
  exact (adds.grown consistent).barred_iff (fun itemId other => adds.kept_iff other)
    (fun itemId other => isClass_insert other) fun isKept => consistent.not_promoted adds.absent isKept.1

/-- The new item has its origin, if any, among the old ones of its scope. -/
theorem Adds.consistent (adds : Adds state item promoted) (consistent : Consistent state)
    (own : item.itemId ∈ promoted → ∃ source, state.store.items source.itemId = some source ∧
      origin ⟨state.store.insert item, promoted⟩ item.itemId = some source.itemId ∧
      item.scope = source.scope) :
    Consistent ⟨state.store.insert item, promoted⟩ := by
  have inserted : (state.store.insert item).items item.itemId = some item := Function.update_self ..
  have kept : ∀ itemId, itemId ≠ item.itemId → (state.store.insert item).items itemId = state.store.items itemId :=
    fun itemId other => Function.update_of_ne other ..
  refine ⟨fun itemId made => ?_, fun itemId source made => ?_⟩
  · by_cases same : itemId = item.itemId
    · exact ⟨item, same ▸ inserted⟩
    · obtain ⟨found, present⟩ := consistent.present itemId ((adds.others itemId same).mp made)
      exact ⟨found, (kept itemId same).trans present⟩
  · by_cases same : itemId = item.itemId
    · -- only a promoted item has an origin
      have isPromoted : item.itemId ∈ promoted := by
        by_contra put
        rw [same, origin, if_neg put] at made
        cases made
      obtain ⟨parent, present, named, scope⟩ := own isPromoted
      rw [same, named] at made
      cases made
      refine ⟨item, parent, same ▸ inserted, (kept _ fun again => ?_).trans present, scope⟩
      rw [again, adds.absent] at present
      cases present
    · rw [adds.origin_other same] at made
      obtain ⟨found, origin, present, sourcePresent, scope⟩ := consistent.sources itemId source made
      refine ⟨found, origin, (kept itemId same).trans present, (kept source fun again => ?_).trans sourcePresent,
        scope⟩
      exact consistent.unused adds.absent itemId (again ▸ made)

end Adding

theorem Consistent.adds_put (consistent : Consistent state) {item : MemoryItem Object}
    (absent : state.store.items item.itemId = none) : Adds state item state.promoted where
  absent := absent
  others _ _ := Iff.rfl
  earlier := by
    -- whatever its provenance says, an item that was put has no origin
    rw [origin, if_neg (consistent.not_promoted absent)]
    exact fun same => by cases same

section Promoting

variable {source : MemoryItem Object} {itemId newId : String} {promotion : Promotion Object} {content : Object}

theorem origin_promoted (found : state.store.items itemId = some source) :
    origin ⟨state.store.insert (MemoryStore.promoted source promotion newId content),
      newId :: state.promoted⟩ newId = some itemId := by
  have inserted : (state.store.insert (MemoryStore.promoted source promotion newId content)).items newId =
      some (MemoryStore.promoted source promotion newId content) := Function.update_self ..
  rw [origin, if_pos List.mem_cons_self, inserted, Option.bind_some, MemoryStore.promoted_sourceItemId,
    state.store.keyed itemId source found]

theorem adds_promoted (found : state.store.items itemId = some source)
    (absent : state.store.items newId = none) :
    Adds state (MemoryStore.promoted source promotion newId content) (newId :: state.promoted) where
  absent := absent
  others other differs := by
    simp only [List.mem_cons, or_iff_right_iff_imp]
    exact fun same => absurd same differs
  earlier := by
    show origin _ newId ≠ some newId
    rw [origin_promoted found]
    intro same
    rw [Option.some.inj same, absent] at found
    cases found

end Promoting

/-! ### One step -/

theorem consistent_after (consistent : Consistent state) (call : MemoryCall Object) :
    Consistent (state.after call) := by
  have move := after_move state call
  generalize state.after call = next at move
  cases move with
  | refused => exact consistent
  | put absent =>
    exact (consistent.adds_put absent).consistent consistent
      fun made => absurd made (consistent.not_promoted absent)
  | @promoted itemId newId promotion content source _ found _ absent =>
    refine (adds_promoted found absent).consistent consistent fun _ => ⟨source, ?_, ?_, rfl⟩
    · rw [state.store.keyed itemId source found, found]
    · rw [state.store.keyed itemId source found]
      exact origin_promoted found

/-- Whether the next state keeps knowledge away from persistent memory. -/
theorem barred_after (consistent : Consistent state) (call : MemoryCall Object) :
    Barred (state.after call).origin (state.after call).Kept ((state.after call).IsClass .userOrgKnowledge) ↔
      Barred state.origin state.Kept (state.IsClass .userOrgKnowledge) ∧
        (call.accepted state.store = true → ¬state.Launders call) := by
  have move := after_move state call
  generalize state.after call = next at move
  cases move with
  | refused refused => simp [refused]
  | put absent =>
    rw [(consistent.adds_put absent).barred_iff consistent]
    refine and_congr_right fun _ => ⟨fun _ _ launders => launders, fun _ isKept => ?_⟩
    exact absurd isKept.1 (consistent.not_promoted absent)
  | @promoted itemId newId promotion content source accepted found guarded absent =>
    rw [(adds_promoted found absent).barred_iff consistent]
    refine and_congr_right fun _ => ⟨fun safe _ launders => ?_, fun safe isKept => ?_⟩
    · obtain ⟨persistent, ancestor, descends, knowledge⟩ := launders
      exact safe ⟨List.mem_cons_self, persistent⟩ itemId (origin_promoted found) ancestor
        (line_iff.mpr (.inr descends)) knowledge
    · intro origin made ancestor line knowledge
      obtain rfl : itemId = origin := Option.some.inj ((origin_promoted found).symm.trans made)
      rcases line_iff.mp line with rfl | descends
      · -- the guard of `promote` sees the direct edge
        obtain ⟨item, present, isKnowledge⟩ := knowledge
        rw [found] at present
        cases present
        exact guarded ⟨isKnowledge, isKept.2⟩
      · exact safe accepted ⟨isKept.2, ancestor, descends, knowledge⟩

/-- Every promotion keeps the scope, so that a whole lineage has one. -/
theorem Consistent.sameScope (consistent : Consistent state) {itemId ancestor : String}
    (descends : Ancestor state.origin itemId ancestor) {item source : MemoryItem Object}
    (present : state.store.items itemId = some item) (sourcePresent : state.store.items ancestor = some source) :
    item.scope = source.scope := by
  have inherited : ∀ key source, state.origin key = some source →
      (state.store.items key).map MemoryItem.scope = (state.store.items source).map MemoryItem.scope := by
    intro key source made
    obtain ⟨item, origin, present, sourcePresent, scope⟩ := consistent.sources key source made
    rw [present, sourcePresent, Option.map_some, Option.map_some, scope]
  have scopes := descends.congr inherited
  rw [present, sourcePresent] at scopes
  exact Option.some.inj scopes

theorem consistent_empty : Consistent (empty : StoreHistory Object) where
  present _ made := by cases made
  sources _ _ made := by cases made

theorem barred_empty : Barred (empty : StoreHistory Object).origin (empty : StoreHistory Object).Kept
    ((empty : StoreHistory Object).IsClass .userOrgKnowledge) :=
  fun _ isKept => by cases isKept.1

/-- The boundary holds all along a run in which no accepted call launders, and in no other. -/
theorem boundary_iff (calls : List (MemoryCall Object)) :
    Transition.Throughout storeStep
        (fun state call => call.accepted state.store = true → ¬state.Launders call) empty calls ↔
      Transition.Always storeStep BoundaryHolds empty calls := by
  refine Transition.throughout_iff_always
    (fun state => Consistent state ∧ Barred state.origin state.Kept (state.IsClass .userOrgKnowledge))
    BoundaryHolds (fun state call => ⟨state.after call, rfl⟩) ?preserved ?safe ?broken
    ⟨consistent_empty, barred_empty⟩
  case preserved =>
    rintro state call next ⟨consistent, barred⟩ met stepped
    cases stepped
    exact ⟨consistent_after consistent call, (barred_after consistent call).mpr ⟨barred, met⟩⟩
  case safe =>
    rintro state ⟨consistent, barred⟩
    exact ⟨barred, fun _ _ _ descends _ _ present sourcePresent =>
      consistent.sameScope descends present sourcePresent⟩
  case broken =>
    rintro state call next ⟨consistent, _⟩ unmet stepped holds
    cases stepped
    exact unmet ((barred_after consistent call).mp holds.noKnowledge).2

/-- The scope of a lineage needs no condition. -/
theorem always_sameScope (calls : List (MemoryCall Object)) :
    Transition.Always storeStep (fun state => ∀ itemId ancestor, Ancestor state.origin itemId ancestor →
      ∀ item source, state.store.items itemId = some item → state.store.items ancestor = some source →
        item.scope = source.scope) empty calls := by
  intro before _ reached ran
  have consistent : Consistent reached := by
    refine Transition.run_invariant Consistent ?_ consistent_empty ran
    rintro state call next consistent stepped
    cases stepped
    exact consistent_after consistent call
  exact fun _ _ descends _ _ present sourcePresent => consistent.sameScope descends present sourcePresent

end StoreHistory

end Steps

end Eiraos.Memory
