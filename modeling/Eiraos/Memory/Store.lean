import Eiraos.Foundations.Guarded
import Eiraos.Foundations.Json
import Eiraos.Foundations.PythonText
import Eiraos.Foundations.Rows

/-! # Durable memory (`application/memory.py`, `application/memory_runtime.py`)

The records of the table `memory_records` in the order of their row ids, which only grow, and
the four operations of `DurableMemoryStore` on them.
-/

namespace Eiraos.Memory

open Guarded PythonJson PythonText

/-! ## Tables -/

inductive MemoryClass where
  | conversationHistory
  | shortTermContext
  | persistentMemory
  | userOrgKnowledge
  deriving DecidableEq, Repr

def MemoryClass.value : MemoryClass → String
  | .conversationHistory => "conversation_history"
  | .shortTermContext => "short_term_context"
  | .persistentMemory => "persistent_memory"
  | .userOrgKnowledge => "user_org_knowledge"

/-- A row of `memory_records`; times are counted from some origin. -/
structure MemoryRecord where
  itemId : String
  organizationId : Nat
  ownerUserId : Option Nat
  actorUserId : Nat
  memoryClass : String
  scopeKind : String
  content : String
  provenanceJson : String
  sourceMessageId : Option Int
  sourceMemoryItemId : Option String
  reason : String
  createdAt : Nat
  deletedAt : Option Nat
  deriving DecidableEq, Repr

/-- The columns of a conversation that are read here. -/
structure ConversationOwner where
  id : Int
  organizationId : Nat
  userId : Nat
  deriving DecidableEq, Repr

/-- The columns of a message that are read here. -/
structure LedgerMessage where
  id : Int
  conversationId : Int
  organizationId : Nat
  role : String
  content : String
  status : String
  deriving DecidableEq, Repr

/-- The chat tables, which memory only reads. -/
structure MessageLedger where
  conversations : List ConversationOwner
  messages : List LedgerMessage
  uniqueMessages : Rows.Unique LedgerMessage.id messages

/-- `uq_memory_records_item_id` is part of the table. -/
structure MemoryTable where
  records : List MemoryRecord
  uniqueItems : Rows.Unique MemoryRecord.itemId records

structure MemoryDatabase where
  ledger : MessageLedger
  table : MemoryTable

/-- Who asks. -/
structure Caller where
  organizationId : Nat
  userId : Nat
  deriving DecidableEq, Repr

/-- `organization_id = :o AND (scope_kind = 'organization' OR owner_user_id = :u)`. -/
def Caller.sees (caller : Caller) (record : MemoryRecord) : Bool :=
  record.organizationId = caller.organizationId &&
    (record.scopeKind = "organization" || record.ownerUserId = some caller.userId)

/-- What is outside the program: the digest, `json.loads`, `json.dumps` with sorted keys, and the
constraints of the database that a row alone decides (lengths, characters, members of the
organization). -/
structure MemoryRuntime where
  sha256 : String → String
  loads : String → Except PythonError JsonValue
  dumps : JsonValue → String
  admits : MemoryRecord → Bool

inductive MemoryError where
  /-- `MemoryBoundaryError`. -/
  | boundary (text : String)
  /-- `PermissionError`. -/
  | permission (text : String)
  /-- A refused commit. -/
  | database
  /-- `ProvenanceNotFound`. -/
  | provenanceNotFound (itemId : String)
  | python (error : PythonError)
  deriving DecidableEq, Repr

/-! ## Queries -/

namespace MemoryTable

/-- The query of `get` and of `_memory`. -/
def find? (table : MemoryTable) (caller : Caller) (itemId : String) (includeDeleted : Bool) :
    Option MemoryRecord :=
  table.records.find? fun record =>
    caller.sees record && (record.itemId = itemId && (includeDeleted || record.deletedAt.isNone))

/-- `DurableMemoryStore.get`. -/
def get (table : MemoryTable) (caller : Caller) (itemId : String) : Option MemoryRecord :=
  table.find? caller itemId false

/-- `created_at DESC, id DESC`: later rows first, and sorted stably by their time. -/
def newestFirst (records : List MemoryRecord) : List MemoryRecord :=
  records.reverse.mergeSort fun left right => right.createdAt ≤ left.createdAt

/-- `DurableMemoryStore.list`. -/
def list (table : MemoryTable) (caller : Caller) : List MemoryRecord :=
  newestFirst (table.records.filter fun record => caller.sees record && record.deletedAt.isNone)

/-- `INSERT`; the unique constraint refuses an item id that is there. -/
def insert (table : MemoryTable) (record : MemoryRecord) : Except MemoryError MemoryTable :=
  if fresh : ∀ old ∈ table.records, old.itemId ≠ record.itemId then
    .ok ⟨table.records ++ [record], table.uniqueItems.append fresh⟩
  else .error .database

/-- `UPDATE` of the deletion time. -/
def markDeleted (table : MemoryTable) (record : MemoryRecord) (now : Nat) : MemoryTable where
  records := Rows.replace MemoryRecord.itemId { record with deletedAt := some now } table.records
  uniqueItems := table.uniqueItems.replace fun _ _ same => same

end MemoryTable

/-- The query of `_load_message_source`. -/
def MessageLedger.source? (ledger : MessageLedger) (caller : Caller) (scopeKind : String)
    (messageId : Int) : Option LedgerMessage :=
  ledger.messages.find? fun message =>
    message.id = messageId && (message.organizationId = caller.organizationId &&
      (message.status = "completed" && ledger.conversations.any fun conversation =>
        conversation.id = message.conversationId &&
          (conversation.organizationId = message.organizationId &&
            (scopeKind ≠ "user" || conversation.userId = caller.userId))))

/-! ## `create` -/

/-- The `provenance` argument.  A value that `json.dumps` refuses is `none`; `otherKeys` says that
there are keys which are no strings. -/
inductive ProvenanceArgument where
  | dict (members : List (String × Option JsonValue)) (otherKeys : Bool)
  | other

structure CreateRequest where
  actorRole : String
  memoryClass : MemoryClass
  scopeKind : String
  content : String
  provenance : ProvenanceArgument
  reason : String
  sourceMessageId : Option Int := none
  sourceMemoryItemId : Option String := none

/-- `_validate`. -/
def CreateRequest.validate (request : CreateRequest) : Except MemoryError Unit := do
  ensure (request.memoryClass = .persistentMemory ∨ request.memoryClass = .userOrgKnowledge)
    (MemoryError.boundary "ephemeral memory classes cannot be persisted")
  ensure (request.scopeKind = "user" ∨ request.scopeKind = "organization")
    (MemoryError.boundary "memory scope must be explicit")
  ensure (strip request.content ≠ "" ∧ request.content.length ≤ 20000)
    (MemoryError.boundary "memory content is invalid")
  match request.provenance with
  -- an empty dictionary is falsy
  | .dict members otherKeys =>
    ensure (members ≠ [] ∨ otherKeys) (MemoryError.boundary "durable memory requires provenance")
  | .other => throw (.boundary "durable memory requires provenance")
  ensure (strip request.reason ≠ "") (MemoryError.boundary "memory operation requires a reason")

/-- `_assert_mutation_scope`. -/
def assertMutationScope (scopeKind actorRole : String) : Except MemoryError Unit :=
  ensure (¬(scopeKind = "organization" ∧ ¬(actorRole = "owner" ∨ actorRole = "admin")))
    (MemoryError.permission "organization memory mutation requires admin authority")

/-- The source message, if one is named; without it the call fails. -/
def CreateRequest.message (request : CreateRequest) (ledger : MessageLedger) (caller : Caller) :
    Except MemoryError (Option LedgerMessage) :=
  match request.sourceMessageId with
  | none => .ok none
  | some messageId => do
    let message ← required (MemoryError.boundary "source message is unavailable in target scope")
      (ledger.source? caller request.scopeKind messageId)
    return some message

/-- The source record, if one is named. -/
def CreateRequest.source (request : CreateRequest) (table : MemoryTable) (caller : Caller) :
    Except MemoryError (Option MemoryRecord) :=
  match request.sourceMemoryItemId with
  | none => .ok none
  | some itemId => do
    let source ← required (MemoryError.boundary "source memory is unavailable in caller scope")
      (table.get caller itemId)
    return some source

namespace MemoryRuntime

variable (runtime : MemoryRuntime)

/-- `authoritative_provenance`: the block of the message is spread after that of the memory. -/
def authoritativeProvenance (caller : Caller) (content : String) (source : Option MemoryRecord)
    (message : Option LedgerMessage) : List (String × JsonValue) := [
  ("actor_user_id", .int caller.userId),
  ("content_sha256", .string (runtime.sha256 (strip content))),
  ("source_type", .string
    (if message.isSome then "message" else if source.isSome then "memory" else "declared")),
  ("source_message_id", (message.map fun message => .int message.id).getD .null),
  ("source_memory_item_id", (source.map fun source => .string source.itemId).getD .null),
  ("source_class", (source.map fun source => .string source.memoryClass).getD .null),
  ("source_sha256", (((message.map LedgerMessage.content).or (source.map MemoryRecord.content)).map
    fun content => .string (runtime.sha256 content)).getD .null)]

/-- `{**provenance, **authoritative_provenance}`, unless `json.dumps` refuses it; the keys are
sorted there. -/
def mergedProvenance (authoritative : List (String × JsonValue)) :
    ProvenanceArgument → Option (List (String × JsonValue))
  | .dict members false => do
    let kept ← (members.filter fun member => authoritative.all fun own => own.1 ≠ member.1).mapM
      fun member => member.2.map fun value => (member.1, value)
    return authoritative ++ kept
  | _ => none

/-- The record that `create` adds. -/
def newRecord (caller : Caller) (request : CreateRequest) (source : Option MemoryRecord)
    (provenanceJson itemId : String) (now : Nat) : MemoryRecord where
  itemId
  organizationId := caller.organizationId
  ownerUserId := if request.scopeKind = "user" then some caller.userId else none
  actorUserId := caller.userId
  memoryClass := request.memoryClass.value
  scopeKind := request.scopeKind
  content := strip request.content
  provenanceJson
  sourceMessageId := request.sourceMessageId
  sourceMemoryItemId := source.map MemoryRecord.itemId
  reason := strip request.reason
  createdAt := now
  deletedAt := none

/-- `create` up to the record; `itemId` is the new `uuid4().hex`. -/
def prepare (database : MemoryDatabase) (caller : Caller) (request : CreateRequest) (itemId : String)
    (now : Nat) : Except MemoryError MemoryRecord := do
  request.validate
  assertMutationScope request.scopeKind request.actorRole
  let message ← request.message database.ledger caller
  let source ← request.source database.table caller
  let members ← required (MemoryError.boundary "provenance must be JSON-compatible")
    (mergedProvenance (runtime.authoritativeProvenance caller request.content source message)
      request.provenance)
  return newRecord caller request source (runtime.dumps (.object members)) itemId now

/-- `DurableMemoryStore.create`. -/
def create (database : MemoryDatabase) (caller : Caller) (request : CreateRequest) (itemId : String)
    (now : Nat) : Except MemoryError (MemoryTable × MemoryRecord) := do
  let record ← runtime.prepare database caller request itemId now
  ensure (runtime.admits record = true) MemoryError.database
  let table ← database.table.insert record
  return (table, record)

end MemoryRuntime

/-- `DurableMemoryStore.delete`. -/
def MemoryTable.delete (table : MemoryTable) (caller : Caller) (itemId actorRole : String) (now : Nat) :
    Except MemoryError (MemoryTable × Bool) :=
  match table.get caller itemId with
  | none => .ok (table, false)
  | some record => do
    assertMutationScope record.scopeKind actorRole
    return (table.markDeleted record now, true)

end Eiraos.Memory
