import Eiraos.Memory.Promotion
import Eiraos.Memory.Untampered

/-! # Knowledge and personal memory over chains of sources

`MemoryStore.promote` refuses to make persistent memory of an item of knowledge, and
`DurableMemoryStore.create` does not look at the class of its source.  What follows for the
lineage of a persistent item is the same for both: it is free of knowledge as long as no
call makes persistent memory of what descends from knowledge.
-/

namespace Eiraos.Memory

open Guarded Lineage

/-! ## Durable records -/

namespace MemoryTable

/-- The record that a record was created from. -/
def origin (table : MemoryTable) (itemId : String) : Option String :=
  (table.records.find? fun record => record.itemId = itemId).bind MemoryRecord.sourceMemoryItemId

def IsClass (table : MemoryTable) (memoryClass : MemoryClass) (itemId : String) : Prop :=
  ∃ record ∈ table.records, record.itemId = itemId ∧ record.memoryClass = memoryClass.value

/-- No persistent record descends from knowledge. -/
def BoundaryHolds (table : MemoryTable) : Prop :=
  Barred table.origin (table.IsClass .persistentMemory) (table.IsClass .userOrgKnowledge)

/-- The call makes persistent memory of a record that is knowledge or descends from it. -/
def Launders (table : MemoryTable) : MemoryAction → Prop
  | .create _ request _ _ => request.memoryClass = .persistentMemory ∧
      ∃ itemId, request.sourceMemoryItemId = some itemId ∧
        ∃ ancestor, Line table.origin itemId ancestor ∧ table.IsClass .userOrgKnowledge ancestor
  | _ => False

/-- Sources are in the table. -/
def Rooted (table : MemoryTable) : Prop :=
  ∀ record ∈ table.records, ∀ itemId, record.sourceMemoryItemId = some itemId →
    ∃ source ∈ table.records, source.itemId = itemId

end MemoryTable

def MemoryAction.accepted (runtime : MemoryRuntime) (database : MemoryDatabase) : MemoryAction → Bool
  | .create caller request itemId now => (runtime.create database caller request itemId now).isOk
  | _ => true

section Table

variable {table later : MemoryTable}

/-- The columns that a lineage is read from. -/
def MemoryRecord.link (record : MemoryRecord) : String × String × Option String :=
  (record.itemId, record.memoryClass, record.sourceMemoryItemId)

theorem origin_congr (same : later.records.map MemoryRecord.link = table.records.map MemoryRecord.link) :
    later.origin = table.origin := by
  have read : ∀ (table : MemoryTable) (itemId : String), table.origin itemId =
      ((table.records.map MemoryRecord.link).find? fun link => link.1 = itemId).bind fun link => link.2.2 := by
    intro table itemId
    rw [List.find?_map, Option.bind_map]
    rfl
  funext itemId
  rw [read, read, same]

theorem isClass_congr (same : later.records.map MemoryRecord.link = table.records.map MemoryRecord.link)
    (memoryClass : MemoryClass) : later.IsClass memoryClass = table.IsClass memoryClass := by
  have read : ∀ (table : MemoryTable) (itemId : String), table.IsClass memoryClass itemId ↔
      ∃ link ∈ table.records.map MemoryRecord.link, link.1 = itemId ∧ link.2.1 = memoryClass.value := by
    intro table itemId
    simp [MemoryTable.IsClass, MemoryRecord.link]
  funext itemId
  rw [eq_iff_iff, read, read, same]

theorem rooted_congr (same : later.records.map MemoryRecord.link = table.records.map MemoryRecord.link)
    (rooted : table.Rooted) : later.Rooted := by
  have read : ∀ table : MemoryTable, table.Rooted ↔ ∀ link ∈ table.records.map MemoryRecord.link,
      ∀ itemId, link.2.2 = some itemId → ∃ source ∈ table.records.map MemoryRecord.link, source.1 = itemId := by
    intro table
    simp [MemoryTable.Rooted, MemoryRecord.link]
  rw [read] at rooted ⊢
  rwa [same]

theorem markDeleted_links {record : MemoryRecord} {now : Nat} (known : record ∈ table.records) :
    (table.markDeleted record now).records.map MemoryRecord.link = table.records.map MemoryRecord.link := by
  refine Rows.map_replace MemoryRecord.link fun old oldMem same => ?_
  rw [table.uniqueItems.eq oldMem known same]
  rfl

/-! ### A new record -/

/-- What `create` adds to a table. -/
structure Creates (table : MemoryTable) (request : CreateRequest) (record : MemoryRecord)
    (later : MemoryTable) : Prop where
  lacks : table.Lacks record.itemId
  records : later.records = table.records ++ [record]
  memoryClass : record.memoryClass = request.memoryClass.value
  source : record.sourceMemoryItemId = request.sourceMemoryItemId
  there : ∀ itemId, request.sourceMemoryItemId = some itemId → ∃ source ∈ table.records, source.itemId = itemId

theorem create_eq_ok {runtime : MemoryRuntime} {database : MemoryDatabase} {caller : Caller}
    {request : CreateRequest} {itemId : String} {now : Nat} {record : MemoryRecord}
    (created : runtime.create database caller request itemId now = .ok (later, record)) :
    Creates database.table request record later := by
  obtain ⟨made, prepared, rest⟩ := bind_eq_ok.mp created
  obtain ⟨_, rest⟩ := guard_bind_eq_ok.mp rest
  obtain ⟨table, inserted, rest⟩ := bind_eq_ok.mp rest
  obtain ⟨rfl, rfl⟩ := Prod.mk.inj (pure_eq_ok.mp rest)
  obtain ⟨lacks, records⟩ := insert_eq_ok inserted
  obtain ⟨message, source, members, known⟩ := prepare_eq_ok prepared
  have got := known.got
  have linked : source.map MemoryRecord.itemId = request.sourceMemoryItemId ∧
      ∀ itemId, request.sourceMemoryItemId = some itemId →
        ∃ source ∈ database.table.records, source.itemId = itemId := by
    unfold CreateRequest.source at got
    cases named : request.sourceMemoryItemId with
    | none =>
      rw [named] at got
      cases got
      exact ⟨rfl, fun _ other => by cases other⟩
    | some sourceId =>
      rw [named] at got
      obtain ⟨found, looked, made⟩ := bind_eq_ok.mp got
      obtain ⟨present, _, same⟩ := MemoryTable.find?_eq_some (required_eq_ok.mp looked)
      rw [← pure_eq_ok.mp made]
      refine ⟨congrArg some same, fun itemId other => ?_⟩
      cases other
      exact ⟨found, present, same⟩
  refine ⟨lacks, records, ?_, ?_, linked.2⟩
  · rw [known.made]
    rfl
  · rw [known.made]
    exact linked.1

namespace Creates

variable {request : CreateRequest} {record : MemoryRecord}

theorem origin_other (creates : Creates table request record later) {itemId : String}
    (other : itemId ≠ record.itemId) : later.origin itemId = table.origin itemId := by
  unfold MemoryTable.origin
  rw [creates.records, List.find?_append]
  simp [other.symm]

theorem origin_self (creates : Creates table request record later) :
    later.origin record.itemId = request.sourceMemoryItemId := by
  have absent : table.records.find? (fun old => old.itemId = record.itemId) = none := by
    rw [List.find?_eq_none]
    intro old present
    simpa using creates.lacks old present
  unfold MemoryTable.origin
  rw [creates.records, List.find?_append, absent]
  simp [creates.source]

theorem isClass_other (creates : Creates table request record later) {memoryClass : MemoryClass}
    {itemId : String} (other : itemId ≠ record.itemId) :
    later.IsClass memoryClass itemId ↔ table.IsClass memoryClass itemId := by
  unfold MemoryTable.IsClass
  rw [creates.records]
  simp [or_and_right, exists_or, other.symm]

theorem isClass_self (creates : Creates table request record later) {memoryClass : MemoryClass} :
    later.IsClass memoryClass record.itemId ↔ request.memoryClass = memoryClass := by
  have value_injective : ∀ first second : MemoryClass, first.value = second.value → first = second := by
    intro first second same
    cases first <;> cases second <;> first | rfl | simp [MemoryClass.value] at same
  unfold MemoryTable.IsClass
  constructor
  · rintro ⟨found, present, same, isClass⟩
    rw [creates.records] at present
    rcases List.mem_append.mp present with old | new
    · exact absurd same (creates.lacks found old)
    · rw [List.mem_singleton.mp new, creates.memoryClass] at isClass
      exact value_injective _ _ isClass
  · rintro rfl
    exact ⟨record, by simp [creates.records], rfl, creates.memoryClass⟩

theorem rooted (creates : Creates table request record later) (rooted : table.Rooted) : later.Rooted := by
  have stays : ∀ itemId, (∃ source ∈ table.records, source.itemId = itemId) →
      ∃ source ∈ later.records, source.itemId = itemId := by
    rintro itemId ⟨source, present, same⟩
    exact ⟨source, by simp [creates.records, present], same⟩
  intro found present itemId named
  rw [creates.records] at present
  rcases List.mem_append.mp present with old | new
  · exact stays itemId (rooted found old itemId named)
  · rw [List.mem_singleton.mp new, creates.source] at named
    exact stays itemId (creates.there itemId named)

theorem grown (creates : Creates table request record later) (rooted : table.Rooted) :
    Grown table.origin later.origin record.itemId where
  kept _ other := creates.origin_other other
  unused itemId made := by
    obtain ⟨found, looked, named⟩ := Option.bind_eq_some_iff.mp made
    obtain ⟨source, present, same⟩ := rooted found (List.mem_of_find?_eq_some looked) _ named
    exact creates.lacks source present same
  earlier := by
    rw [creates.origin_self]
    intro named
    obtain ⟨source, present, same⟩ := creates.there _ named
    exact creates.lacks source present same

theorem boundary_iff (creates : Creates table request record later) (rooted : table.Rooted) :
    later.BoundaryHolds ↔ table.BoundaryHolds ∧ (request.memoryClass = .persistentMemory →
      ∀ itemId, request.sourceMemoryItemId = some itemId → ∀ ancestor, Line table.origin itemId ancestor →
        ¬table.IsClass .userOrgKnowledge ancestor) := by
  have absent : ¬table.IsClass .persistentMemory record.itemId := by
    rintro ⟨found, present, same, _⟩
    exact creates.lacks found present same
  unfold MemoryTable.BoundaryHolds
  rw [(creates.grown rooted).barred_iff (fun _ other => creates.isClass_other other)
    (fun _ other => creates.isClass_other other) absent, creates.isClass_self, creates.origin_self]

end Creates

end Table

/-! ### One step -/

section Steps

variable {runtime : MemoryRuntime} {database next : MemoryDatabase} {action : MemoryAction}

/-- An accepted `create` adds a record; whatever else happens leaves the lineages as they are. -/
inductive LineageMove (runtime : MemoryRuntime) (database : MemoryDatabase) :
    MemoryAction → MemoryTable → Prop where
  | kept {action : MemoryAction} {later : MemoryTable}
      (same : later.records.map MemoryRecord.link = database.table.records.map MemoryRecord.link)
      (excused : action.accepted runtime database = true → ¬database.table.Launders action) :
      LineageMove runtime database action later
  | created {caller : Caller} {request : CreateRequest} {itemId : String} {now : Nat}
      {record : MemoryRecord} {later : MemoryTable}
      (accepted : (MemoryAction.create caller request itemId now).accepted runtime database = true)
      (creates : Creates database.table request record later) :
      LineageMove runtime database (.create caller request itemId now) later

theorem memoryStep_move (stepped : memoryStep runtime database action = some next) :
    LineageMove runtime database action next.table := by
  cases action with
  | create caller request itemId now =>
    simp only [memoryStep, perform, Option.some.injEq] at stepped
    cases ending : runtime.create database caller request itemId now with
    | error error =>
      rw [ending] at stepped
      rw [← stepped]
      exact .kept rfl (by simp [MemoryAction.accepted, ending, Except.isOk, Except.toBool])
    | ok made =>
      obtain ⟨later, record⟩ := made
      rw [ending] at stepped
      rw [← stepped]
      exact .created (by simp [MemoryAction.accepted, ending, Except.isOk, Except.toBool])
        (create_eq_ok ending)
  | delete caller itemId actorRole now =>
    simp only [memoryStep, perform, MemoryTable.delete, Option.some.injEq] at stepped
    rw [← stepped]
    refine .kept ?_ fun _ launders => launders
    cases found : database.table.get caller itemId with
    | none => rfl
    | some record =>
      dsimp only
      cases assertMutationScope record.scopeKind actorRole with
      | error error => rfl
      -- a deleted record stays in the table
      | ok done => exact markDeleted_links (MemoryTable.find?_eq_some found).1
  | chat ledger =>
    dsimp only [memoryStep] at stepped
    split at stepped
    · cases stepped
      exact .kept rfl fun _ launders => launders
    · cases stepped

theorem rooted_step (rooted : database.table.Rooted)
    (stepped : memoryStep runtime database action = some next) : next.table.Rooted := by
  cases memoryStep_move stepped with
  | kept same => exact rooted_congr same rooted
  | created _ creates => exact creates.rooted rooted

/-- Whether the next state keeps knowledge away from persistent records. -/
theorem boundary_step (rooted : database.table.Rooted)
    (stepped : memoryStep runtime database action = some next) :
    next.table.BoundaryHolds ↔ database.table.BoundaryHolds ∧
      (action.accepted runtime database = true → ¬database.table.Launders action) := by
  cases memoryStep_move stepped with
  | kept same excused =>
    unfold MemoryTable.BoundaryHolds
    rw [origin_congr same, isClass_congr same, isClass_congr same]
    exact (and_iff_left excused).symm
  | created accepted creates =>
    rw [creates.boundary_iff rooted]
    refine and_congr_right fun _ => ⟨fun safe _ launders => ?_, fun safe persistent itemId named => ?_⟩
    · -- the source itself counts: nothing in `create` looks at its class
      obtain ⟨persistent, itemId, named, ancestor, line, knowledge⟩ := launders
      exact safe persistent itemId named ancestor line knowledge
    · intro ancestor line knowledge
      exact safe accepted ⟨persistent, itemId, named, ancestor, line, knowledge⟩

theorem MemoryTable.boundary_iff {start final : MemoryDatabase} {actions : List MemoryAction}
    (empty : start.table.records = [])
    (ran : Transition.run (memoryStep runtime) start actions = some final) :
    Transition.Throughout (memoryStep runtime) (fun database action =>
        action.accepted runtime database = true → ¬database.table.Launders action) start actions ↔
      Transition.Always (memoryStep runtime) (fun database => database.table.BoundaryHolds) start actions := by
  have rooted : start.table.Rooted := by
    intro record present
    rw [empty] at present
    cases present
  have holds : start.table.BoundaryHolds := by
    rintro itemId ⟨record, present, _⟩
    rw [empty] at present
    cases present
  refine Transition.throughout_iff_always_of_run
    (fun database => database.table.Rooted ∧ database.table.BoundaryHolds) _ ?preserved ?safe ?broken
    ⟨rooted, holds⟩ ran
  case preserved =>
    rintro database action next ⟨rooted, holds⟩ met stepped
    exact ⟨rooted_step rooted stepped, (boundary_step rooted stepped).mpr ⟨holds, met⟩⟩
  case safe => exact fun database known => known.2
  case broken =>
    rintro database action next ⟨rooted, _⟩ unmet stepped holds
    exact unmet ((boundary_step rooted stepped).mp holds).2

end Steps

/-! ## Both stores -/

/-- Without the condition the scope of a lineage still is one; with it no persistent item descends
from knowledge.  In a run that keeps the boundary all accepted calls meet it. -/
theorem knowledge_boundary_of_unlaundered {Object : Type} (calls : List (MemoryCall Object))
    (runtime : MemoryRuntime) (start final : MemoryDatabase) (actions : List MemoryAction) :
    (Transition.Always storeStep (fun state => ∀ itemId ancestor, Ancestor state.origin itemId ancestor →
        ∀ item source, state.store.items itemId = some item → state.store.items ancestor = some source →
          item.scope = source.scope) .empty calls ∧
      (Transition.Throughout storeStep (fun state call => ¬state.Launders call) .empty calls →
        Transition.Always storeStep StoreHistory.BoundaryHolds .empty calls) ∧
      (Transition.Always storeStep StoreHistory.BoundaryHolds .empty calls →
        Transition.Throughout storeStep
          (fun state call => call.accepted state.store = true → ¬state.Launders call) .empty calls)) ∧
    (start.table.records = [] → Transition.run (memoryStep runtime) start actions = some final →
      (Transition.Throughout (memoryStep runtime) (fun database action => ¬database.table.Launders action)
          start actions →
        Transition.Always (memoryStep runtime) (fun database => database.table.BoundaryHolds) start actions) ∧
      (Transition.Always (memoryStep runtime) (fun database => database.table.BoundaryHolds) start actions →
        Transition.Throughout (memoryStep runtime) (fun database action =>
          action.accepted runtime database = true → ¬database.table.Launders action) start actions)) := by
  refine ⟨⟨StoreHistory.always_sameScope calls, fun guarded => ?_,
    (StoreHistory.boundary_iff calls).mpr⟩, fun empty ran => ⟨fun guarded => ?_,
    (MemoryTable.boundary_iff empty ran).mpr⟩⟩
  · exact (StoreHistory.boundary_iff calls).mp (guarded.mono fun _ _ clean _ => clean)
  · exact (MemoryTable.boundary_iff empty ran).mp (guarded.mono fun _ _ clean _ => clean)

/-! ## Two chains -/

def tideCalls : List (MemoryCall String) := [
  .put ⟨"tide", .userOrgKnowledge, "user:1", "Low tide is at six.", [(.text "source", .text "tide table")]⟩,
  .promote "tide" ⟨"user", "use it now", .shortTermContext, []⟩ "note" "Low tide is at six.",
  .promote "note" ⟨"user", "remember", .persistentMemory, []⟩ "ebb" "Low tide is at six."]

def tideHistory : StoreHistory String := tideCalls.foldl StoreHistory.after .empty

theorem tideHistory_breaks : ¬tideHistory.BoundaryHolds := by
  intro holds
  have note : tideHistory.origin "ebb" = some "note" := by decide +kernel
  have tide : tideHistory.origin "note" = some "tide" := by decide +kernel
  have kept : tideHistory.Kept "ebb" :=
    ⟨by decide +kernel, _, rfl, by decide +kernel⟩
  exact holds.noKnowledge "ebb" kept "tide" (.tail (.single note) tide) ⟨_, rfl, by decide +kernel⟩

/-- `json.dumps` on the provenance of a record without a source and of one made from it. -/
def tideRuntime : MemoryRuntime where
  sha256 content :=
    if content = "Low tide is at six." then "d9beeffdbb66524b70e03ec867df27cb3e2e496736d7772f6192861c351abdd3"
    else if content = "Ebb follows flow." then "21c781c62611585c3f3d2bf9135e70db6a9228a9498905304b85ff51cb475f16"
    else ""
  loads _ := .error .valueError
  dumps value :=
    if (value.field "source_type").isText "declared" then
      "\x7b\"actor_user_id\":1," ++
      "\"content_sha256\":\"d9beeffdbb66524b70e03ec867df27cb3e2e496736d7772f6192861c351abdd3\"," ++
      "\"source\":\"explicit\",\"source_class\":null,\"source_memory_item_id\":null," ++
      "\"source_message_id\":null,\"source_sha256\":null,\"source_type\":\"declared\"\x7d"
    else
      "\x7b\"actor_user_id\":1," ++
      "\"content_sha256\":\"21c781c62611585c3f3d2bf9135e70db6a9228a9498905304b85ff51cb475f16\"," ++
      "\"source\":\"explicit\",\"source_class\":\"user_org_knowledge\"," ++
      "\"source_memory_item_id\":\"tide\",\"source_message_id\":null," ++
      "\"source_sha256\":\"d9beeffdbb66524b70e03ec867df27cb3e2e496736d7772f6192861c351abdd3\"," ++
      "\"source_type\":\"memory\"\x7d"
  admits _ := true

def tideRequest : CreateRequest := { ebbRequest with
  actorRole := "admin"
  memoryClass := .userOrgKnowledge
  scopeKind := "organization"
  content := "Low tide is at six." }

def derivedRequest : CreateRequest := { ebbRequest with sourceMemoryItemId := some "tide" }

def tideActions : List MemoryAction :=
  [.create ⟨1, 1⟩ tideRequest "tide" 1, .create ⟨1, 1⟩ derivedRequest "ebb" 2]

/-- Both records have been created. -/
def derivedDatabase : MemoryDatabase :=
  (perform tideRuntime ⟨1, 1⟩ (perform tideRuntime ⟨1, 1⟩ flowStart (.create tideRequest "tide" 1)).2
    (.create derivedRequest "ebb" 2)).2

theorem derivedDatabase_breaks : ¬derivedDatabase.table.BoundaryHolds := by
  intro holds
  have tide : derivedDatabase.table.origin "ebb" = some "tide" := by decide +kernel
  have kept : derivedDatabase.table.IsClass .persistentMemory "ebb" := by
    unfold MemoryTable.IsClass
    decide +kernel
  refine holds "ebb" kept "tide" (.single tide) ?_
  unfold MemoryTable.IsClass
  decide +kernel

/-- Knowledge becomes persistent memory by way of another class, or at once. -/
theorem knowledge_becomes_persistent :
    (¬∀ calls : List (MemoryCall String),
      Transition.Always storeStep StoreHistory.BoundaryHolds .empty calls) ∧
    ¬∀ (runtime : MemoryRuntime) (start final : MemoryDatabase) (actions : List MemoryAction),
      start.table.records = [] → Transition.run (memoryStep runtime) start actions = some final →
        Transition.Always (memoryStep runtime) (fun database => database.table.BoundaryHolds) start actions := by
  constructor
  · intro always
    exact tideHistory_breaks (always tideCalls tideCalls (List.prefix_refl _) tideHistory rfl)
  · intro always
    have ran : Transition.run (memoryStep tideRuntime) flowStart tideActions = some derivedDatabase := rfl
    exact derivedDatabase_breaks
      (always tideRuntime flowStart derivedDatabase tideActions rfl ran tideActions (List.prefix_refl _) _ ran)

/-- A message that is remembered, and knowledge that a note is made from. -/
def flowCalls : List (MemoryCall String) := [
  .put ⟨"flow", .conversationHistory, "user:1", "Flow is at noon.", []⟩,
  .put ⟨"tide", .userOrgKnowledge, "user:1", "Low tide is at six.", [(.text "source", .text "tide table")]⟩,
  .promote "flow" ⟨"user", "remember", .persistentMemory, []⟩ "ebb" "Flow is at noon.",
  .promote "tide" ⟨"user", "use it now", .shortTermContext, []⟩ "note" "Low tide is at six."]

theorem knowledge_boundary_of_unlaundered_flow :
    Transition.Always storeStep StoreHistory.BoundaryHolds .empty flowCalls ∧
      Transition.Always (memoryStep tideRuntime) (fun database => database.table.BoundaryHolds) flowStart
        [.create ⟨1, 1⟩ tideRequest "tide" 1, .create ⟨1, 1⟩ ebbRequest "ebb" 2] := by
  obtain ⟨⟨_, store, _⟩, table⟩ := knowledge_boundary_of_unlaundered flowCalls tideRuntime flowStart _
    [.create ⟨1, 1⟩ tideRequest "tide" 1, .create ⟨1, 1⟩ ebbRequest "ebb" 2]
  constructor
  · have root : ((flowCalls.take 2).foldl StoreHistory.after .empty).origin "flow" = none := by
      decide +kernel
    refine store ⟨fun launders => launders, fun launders => launders, ?remembered, ?noted, trivial⟩
    case remembered =>
      rintro ⟨_, ancestor, descends, _⟩
      obtain ⟨source, made, _⟩ := ancestor_iff.mp descends
      cases root.symm.trans made
    case noted => exact fun launders => by cases launders.1
  · refine (table rfl rfl).1 ⟨fun launders => (by cases launders.1), ?_, trivial⟩
    rintro ⟨_, itemId, named, _⟩
    cases named

end Eiraos.Memory
