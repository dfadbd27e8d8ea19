import Eiraos.Memory.Tracing

/-! # Hidden records do not show

Every operation of a caller reads the table through `Caller.sees`.  Two databases that agree on
what the caller sees answer alike and agree again afterwards.
-/

namespace Eiraos.Memory

open Guarded PythonJson

/-! ## Operations -/

inductive MemoryOperation where
  | create (request : CreateRequest) (itemId : String) (now : Nat)
  | get (itemId : String)
  | list
  | delete (itemId actorRole : String) (now : Nat)
  | trace (resolver : ProvenanceResolver) (itemId : String)

inductive MemoryReply where
  | created (record : MemoryRecord)
  | got (record : Option MemoryRecord)
  | listed (records : List MemoryRecord)
  | deleted (found : Bool)
  | traced (trace : ProvenanceTrace)
  deriving DecidableEq, Repr

/-- One operation of a caller: the reply, or the exception, and the database after it. -/
def perform (runtime : MemoryRuntime) (caller : Caller) (database : MemoryDatabase) :
    MemoryOperation → Except MemoryError MemoryReply × MemoryDatabase
  | .create request itemId now =>
    match runtime.create database caller request itemId now with
    | .ok (table, record) => (.ok (.created record), { database with table })
    | .error error => (.error error, database)
  | .get itemId => (.ok (.got (database.table.get caller itemId)), database)
  | .list => (.ok (.listed (database.table.list caller)), database)
  | .delete itemId actorRole now =>
    match database.table.delete caller itemId actorRole now with
    | .ok (table, found) => (.ok (.deleted found), { database with table })
    | .error error => (.error error, database)
  | .trace resolver itemId =>
    ((resolver.trace runtime database caller itemId).map .traced, database)

/-- The operations one after the other. -/
def performAll (runtime : MemoryRuntime) (caller : Caller) (database : MemoryDatabase) :
    List MemoryOperation → List (Except MemoryError MemoryReply) × MemoryDatabase
  | [] => ([], database)
  | operation :: operations =>
    let first := perform runtime caller database operation
    let rest := performAll runtime caller first.2 operations
    (first.1 :: rest.1, rest.2)

/-- The item id that an operation draws. -/
def MemoryOperation.newItem? : MemoryOperation → Option String
  | .create _ itemId _ => some itemId
  | _ => none

/-! ## Agreement -/

def MemoryTable.visible (table : MemoryTable) (caller : Caller) : List MemoryRecord :=
  table.records.filter caller.sees

/-- The same messages and conversations, and the same visible records in the same order. -/
structure Agree (caller : Caller) (first second : MemoryDatabase) : Prop where
  ledger : first.ledger = second.ledger
  visible : first.table.visible caller = second.table.visible caller

variable {runtime : MemoryRuntime} {caller : Caller} {first second : MemoryDatabase}

/-! ## Reads -/

theorem find?_eq_visible {table : MemoryTable} {itemId : String} {includeDeleted : Bool} :
    table.find? caller itemId includeDeleted = (table.visible caller).find? fun record =>
      record.itemId = itemId && (includeDeleted || record.deletedAt.isNone) := by
  unfold MemoryTable.find? MemoryTable.visible
  rw [List.find?_filter]
  congr 1
  funext record
  simp [-Option.isNone_iff_eq_none]

theorem list_eq_visible {table : MemoryTable} : table.list caller =
    MemoryTable.newestFirst ((table.visible caller).filter fun record => record.deletedAt.isNone) := by
  unfold MemoryTable.list MemoryTable.visible
  rw [List.filter_filter]
  congr 2
  funext record
  exact Bool.and_comm _ _

namespace Agree

theorem find? (agree : Agree caller first second) {itemId : String} {includeDeleted : Bool} :
    first.table.find? caller itemId includeDeleted = second.table.find? caller itemId includeDeleted := by
  rw [find?_eq_visible, find?_eq_visible, agree.visible]

theorem list (agree : Agree caller first second) : first.table.list caller = second.table.list caller := by
  rw [list_eq_visible, list_eq_visible, agree.visible]

theorem follow (agree : Agree caller first second) {provenance : JsonValue} {current : MemoryRecord} :
    runtime.follow first caller provenance current = runtime.follow second caller provenance current := by
  unfold MemoryRuntime.follow
  simp only [agree.find?, agree.ledger]

theorem traceFrom (agree : Agree caller first second) {remaining : Nat} {seen : List String}
    {current : MemoryRecord} : runtime.traceFrom first caller remaining seen current =
      runtime.traceFrom second caller remaining seen current := by
  induction remaining generalizing seen current with
  | zero => rfl
  | succ remaining inductionHypothesis =>
    unfold MemoryRuntime.traceFrom
    simp only [agree.follow, inductionHypothesis]

theorem trace (agree : Agree caller first second) {resolver : ProvenanceResolver} {itemId : String} :
    resolver.trace runtime first caller itemId = resolver.trace runtime second caller itemId := by
  unfold ProvenanceResolver.trace
  simp only [agree.find?, agree.traceFrom]

end Agree

/-! ## Writes -/

/-- No record has the item id. -/
def MemoryTable.Lacks (table : MemoryTable) (itemId : String) : Prop :=
  ∀ record ∈ table.records, record.itemId ≠ itemId

theorem insert_of_lacks {table : MemoryTable} {record : MemoryRecord} (fresh : table.Lacks record.itemId) :
    table.insert record = .ok ⟨table.records ++ [record], table.uniqueItems.append fresh⟩ :=
  dif_pos fresh

theorem visible_markDeleted {table : MemoryTable} {record : MemoryRecord} {now : Nat}
    (known : record ∈ table.records) :
    (table.markDeleted record now).visible caller =
      Rows.replace MemoryRecord.itemId { record with deletedAt := some now } (table.visible caller) := by
  apply Rows.filter_replace
  intro old oldMem same
  rw [table.uniqueItems.eq oldMem known same]
  rfl

theorem Agree.prepare (agree : Agree caller first second) {request : CreateRequest} {itemId : String}
    {now : Nat} : runtime.prepare first caller request itemId now =
      runtime.prepare second caller request itemId now := by
  have source : request.source first.table caller = request.source second.table caller := by
    unfold CreateRequest.source MemoryTable.get
    simp only [agree.find?]
  unfold MemoryRuntime.prepare
  rw [agree.ledger, source]

theorem prepare_itemId {database : MemoryDatabase} {request : CreateRequest} {itemId : String} {now : Nat}
    {record : MemoryRecord} (prepared : runtime.prepare database caller request itemId now = .ok record) :
    record.itemId = itemId := by
  obtain ⟨_, _, rest⟩ := bind_eq_ok.mp prepared
  obtain ⟨_, _, rest⟩ := bind_eq_ok.mp rest
  obtain ⟨_, _, rest⟩ := bind_eq_ok.mp rest
  obtain ⟨_, _, rest⟩ := bind_eq_ok.mp rest
  obtain ⟨_, _, rest⟩ := bind_eq_ok.mp rest
  rw [← pure_eq_ok.mp rest]
  rfl

/-- Both databases take the row, or neither does. -/
theorem Agree.create (agree : Agree caller first second) {request : CreateRequest} {itemId : String}
    {now : Nat} (firstLacks : first.table.Lacks itemId) (secondLacks : second.table.Lacks itemId) :
    (perform runtime caller first (.create request itemId now)).1 =
        (perform runtime caller second (.create request itemId now)).1 ∧
      Agree caller (perform runtime caller first (.create request itemId now)).2
        (perform runtime caller second (.create request itemId now)).2 := by
  dsimp only [perform, MemoryRuntime.create]
  rw [agree.prepare]
  cases prepared : runtime.prepare second caller request itemId now with
  | error error => exact ⟨rfl, agree⟩
  | ok record =>
    have drawn : record.itemId = itemId := prepare_itemId prepared
    rw [← drawn] at firstLacks secondLacks
    by_cases admitted : runtime.admits record = true
    · simp only [bind, Except.bind, ensure, if_pos admitted, insert_of_lacks firstLacks,
        insert_of_lacks secondLacks, pure, Except.pure]
      refine ⟨trivial, ⟨agree.ledger, ?_⟩⟩
      simp only [MemoryTable.visible, List.filter_append]
      exact congrArg (· ++ [record].filter caller.sees) agree.visible
    · simp only [bind, Except.bind, ensure, if_neg admitted]
      exact ⟨trivial, agree⟩

theorem Agree.delete (agree : Agree caller first second) {itemId actorRole : String} {now : Nat} :
    (perform runtime caller first (.delete itemId actorRole now)).1 =
        (perform runtime caller second (.delete itemId actorRole now)).1 ∧
      Agree caller (perform runtime caller first (.delete itemId actorRole now)).2
        (perform runtime caller second (.delete itemId actorRole now)).2 := by
  have same : second.table.get caller itemId = first.table.get caller itemId := agree.find?.symm
  dsimp only [perform, MemoryTable.delete]
  rw [same]
  cases found : first.table.get caller itemId with
  | none => exact ⟨rfl, agree⟩
  | some record =>
    dsimp only
    cases assertMutationScope record.scopeKind actorRole with
    | error error => exact ⟨rfl, agree⟩
    | ok done =>
      refine ⟨rfl, ⟨agree.ledger, ?_⟩⟩
      show (first.table.markDeleted record now).visible caller =
        (second.table.markDeleted record now).visible caller
      have inFirst := MemoryTable.find?_eq_some found
      have inSecond := MemoryTable.find?_eq_some (same.trans found)
      rw [visible_markDeleted inFirst.1, visible_markDeleted inSecond.1, agree.visible]

/-- One operation. -/
theorem Agree.perform (agree : Agree caller first second) {operation : MemoryOperation}
    (firstLacks : ∀ itemId ∈ operation.newItem?, first.table.Lacks itemId)
    (secondLacks : ∀ itemId ∈ operation.newItem?, second.table.Lacks itemId) :
    (perform runtime caller first operation).1 = (perform runtime caller second operation).1 ∧
      Agree caller (perform runtime caller first operation).2
        (perform runtime caller second operation).2 := by
  cases operation with
  | create request itemId now => exact agree.create (firstLacks _ rfl) (secondLacks _ rfl)
  | get itemId => exact ⟨congrArg (Except.ok ∘ MemoryReply.got) agree.find?, agree⟩
  | list => exact ⟨congrArg (Except.ok ∘ MemoryReply.listed) agree.list, agree⟩
  | delete itemId actorRole now => exact agree.delete
  | trace resolver itemId => exact ⟨congrArg (Except.map MemoryReply.traced) agree.trace, agree⟩

/-! ## Sequences -/

theorem insert_eq_ok {table later : MemoryTable} {record : MemoryRecord}
    (inserted : table.insert record = .ok later) :
    table.Lacks record.itemId ∧ later.records = table.records ++ [record] := by
  unfold MemoryTable.insert at inserted
  split at inserted
  next fresh =>
    cases inserted
    exact ⟨fresh, rfl⟩
  next => cases inserted

/-- An operation adds no item id but the one it draws. -/
theorem lacks_perform {database : MemoryDatabase} {operation : MemoryOperation} {itemId : String}
    (lacks : database.table.Lacks itemId) (other : operation.newItem? ≠ some itemId) :
    (perform runtime caller database operation).2.table.Lacks itemId := by
  cases operation with
  | create request drawn now =>
    dsimp only [perform]
    cases created : runtime.create database caller request drawn now with
    | error error => exact lacks
    | ok result =>
      obtain ⟨record, prepared, rest⟩ := bind_eq_ok.mp created
      obtain ⟨_, _, rest⟩ := bind_eq_ok.mp rest
      obtain ⟨table, inserted, made⟩ := bind_eq_ok.mp rest
      rw [← pure_eq_ok.mp made]
      show table.Lacks itemId
      intro member mem
      rw [(insert_eq_ok inserted).2] at mem
      cases List.mem_append.mp mem with
      | inl old => exact lacks member old
      | inr new =>
        rw [List.mem_singleton.mp new, prepare_itemId prepared]
        exact fun same => other (congrArg some same)
  | get => exact lacks
  | list => exact lacks
  | trace => exact lacks
  | delete named actorRole now =>
    dsimp only [perform, MemoryTable.delete]
    cases found : database.table.get caller named with
    | none => exact lacks
    | some record =>
      dsimp only
      cases assertMutationScope record.scopeKind actorRole with
      | error error => exact lacks
      | ok done =>
        show (database.table.markDeleted record now).Lacks itemId
        intro member mem
        cases Rows.mem_replace.mp mem with
        | inl replaced =>
          obtain ⟨rfl, old, oldMem, same⟩ := replaced
          rw [← same]
          exact lacks old oldMem
        | inr kept => exact lacks member kept.1

theorem memory_noninterference {operations : List MemoryOperation} (agree : Agree caller first second)
    (distinct : (operations.filterMap MemoryOperation.newItem?).Nodup)
    (firstFresh : ∀ itemId ∈ operations.filterMap MemoryOperation.newItem?, first.table.Lacks itemId)
    (secondFresh : ∀ itemId ∈ operations.filterMap MemoryOperation.newItem?, second.table.Lacks itemId) :
    (performAll runtime caller first operations).1 = (performAll runtime caller second operations).1 ∧
      Agree caller (performAll runtime caller first operations).2
        (performAll runtime caller second operations).2 := by
  induction operations generalizing first second with
  | nil => exact ⟨rfl, agree⟩
  | cons operation operations inductionHypothesis =>
    have drawn : ∀ itemId ∈ operation.newItem?,
        itemId ∈ (operation :: operations).filterMap MemoryOperation.newItem? :=
      fun itemId own => List.mem_filterMap.mpr ⟨operation, List.mem_cons_self, own⟩
    have later : ∀ itemId ∈ operations.filterMap MemoryOperation.newItem?,
        itemId ∈ (operation :: operations).filterMap MemoryOperation.newItem? := by
      intro itemId mem
      obtain ⟨other, there, own⟩ := List.mem_filterMap.mp mem
      exact List.mem_filterMap.mpr ⟨other, List.mem_cons_of_mem _ there, own⟩
    obtain ⟨reply, after⟩ : (perform runtime caller first operation).1 =
        (perform runtime caller second operation).1 ∧ _ :=
      agree.perform (fun itemId own => firstFresh itemId (drawn itemId own))
        (fun itemId own => secondFresh itemId (drawn itemId own))
    -- what is drawn later is not the id of this operation
    have apart : ∀ itemId ∈ operations.filterMap MemoryOperation.newItem?,
        operation.newItem? ≠ some itemId := by
      intro itemId mem own
      rw [List.filterMap_cons_some own, List.nodup_cons] at distinct
      exact distinct.1 mem
    have rest := inductionHypothesis after
      (distinct.sublist ((List.sublist_cons_self operation operations).filterMap _))
      (fun itemId mem => lacks_perform (firstFresh itemId (later itemId mem)) (apart itemId mem))
      (fun itemId mem => lacks_perform (secondFresh itemId (later itemId mem)) (apart itemId mem))
    dsimp only [performAll]
    exact ⟨by rw [reply, rest.1], rest.2⟩

/-! ## Two databases -/

/-- A record of another user. -/
def hiddenMemory : MemoryRecord := { pierMemory with
  itemId := "hidden"
  ownerUserId := some 2
  actorUserId := 2 }

theorem uniqueItems_hidden : Rows.Unique MemoryRecord.itemId [tideMemory, hiddenMemory, pierMemory] := by
  unfold Rows.Unique
  decide

def hidingDatabase : MemoryDatabase := ⟨quietLedger, ⟨[tideMemory, hiddenMemory, pierMemory], uniqueItems_hidden⟩⟩

def ebbRequest : CreateRequest where
  actorRole := "member"
  memoryClass := .persistentMemory
  scopeKind := "user"
  content := "Ebb follows flow."
  provenance := .dict [("source", some (.string "explicit"))] false
  reason := "remember"

def ebbOperations : List MemoryOperation :=
  [.list, .get "hidden", .trace defaultResolver "pier", .create ebbRequest "ebb" 2, .delete "tide" "member" 3]

theorem memory_noninterference_pier :
    (performAll pierRuntime ⟨1, 1⟩ pierDatabase ebbOperations).1 =
        (performAll pierRuntime ⟨1, 1⟩ hidingDatabase ebbOperations).1 ∧
      Agree ⟨1, 1⟩ (performAll pierRuntime ⟨1, 1⟩ pierDatabase ebbOperations).2
        (performAll pierRuntime ⟨1, 1⟩ hidingDatabase ebbOperations).2 := by
  have agree : Agree ⟨1, 1⟩ pierDatabase hidingDatabase := ⟨rfl, by decide +kernel⟩
  have drawn : ebbOperations.filterMap MemoryOperation.newItem? = ["ebb"] := rfl
  apply memory_noninterference agree
  · rw [drawn]
    exact List.nodup_singleton _
  · rw [drawn]
    unfold MemoryTable.Lacks
    decide +kernel
  · rw [drawn]
    unfold MemoryTable.Lacks
    decide +kernel

end Eiraos.Memory
