import Eiraos.Foundations.BoundedWalk
import Eiraos.Memory.Store

/-! # Tracing the sources of a record (`application/provenance.py`)

A trace follows the source links of a record for at most `max_depth` records and checks the
digests on its way.
-/

namespace Eiraos.Memory

open Guarded PythonJson

/-! ## The answer -/

inductive Termination where
  | root
  | cycle
  | unavailable
  | integrityFailure
  | source
  | declared
  | depthLimit
  deriving DecidableEq, Repr

def Termination.text : Termination → String
  | .root => "root"
  | .cycle => "cycle"
  | .unavailable => "unavailable"
  | .integrityFailure => "integrity_failure"
  | .source => "source"
  | .declared => "declared"
  | .depthLimit => "depth_limit"

inductive NodeKind where
  | memory
  | message
  deriving DecidableEq, Repr

/-- The entries of `nodes`; `verified` tells the two values of `integrity` apart. -/
inductive ProvenanceNode where
  | memory (itemId memoryClass scopeKind : String) (actorUserId : Nat) (reason : String)
      (deleted : Bool) (contentSha256 : String) (verified : Bool)
  | sourceMismatch (itemId : String)
  | message (id : Int) (role contentSha256 : String) (verified : Bool)
  | unavailable (kind : NodeKind)
  deriving DecidableEq, Repr

/-- `f"memory:{item_id}"`. -/
def MemoryRecord.ref (record : MemoryRecord) : String := "memory:" ++ record.itemId

namespace ProvenanceNode

def ref : ProvenanceNode → String
  | .memory itemId .. => "memory:" ++ itemId
  | .sourceMismatch itemId => "memory:" ++ itemId
  | .message id .. => s!"message:{id}"
  | .unavailable _ => "unavailable"

def kind : ProvenanceNode → NodeKind
  | .memory .. => .memory
  | .sourceMismatch _ => .memory
  | .message .. => .message
  | .unavailable kind => kind

def integrity : ProvenanceNode → String
  | .memory _ _ _ _ _ _ _ verified => if verified then "verified" else "mismatch"
  | .sourceMismatch _ => "source_mismatch"
  | .message _ _ _ verified => if verified then "verified" else "source_mismatch"
  | .unavailable _ => "unavailable"

/-- The record that a node names. -/
def itemId? : ProvenanceNode → Option String
  | .memory itemId .. => some itemId
  | .sourceMismatch itemId => some itemId
  | _ => none

/-- The message that a node names. -/
def messageId? : ProvenanceNode → Option Int
  | .message id .. => some id
  | _ => none

end ProvenanceNode

structure ProvenanceTrace where
  rootItemId : String
  nodes : List ProvenanceNode
  termination : Termination
  deriving DecidableEq, Repr

def ProvenanceTrace.complete (trace : ProvenanceTrace) : Bool :=
  trace.termination = .source || trace.termination = .declared || trace.termination = .root

/-! ## Following a link -/

/-- `if current.source_memory_item_id`. -/
def MemoryRecord.sourceItem? (record : MemoryRecord) : Option String :=
  record.sourceMemoryItemId.filter (· ≠ "")

/-- `if current.source_message_id`. -/
def MemoryRecord.sourceMessage? (record : MemoryRecord) : Option Int :=
  record.sourceMessageId.filter (· ≠ 0)

/-- The query for a source message. -/
def MessageLedger.message? (ledger : MessageLedger) (organizationId : Nat) (id : Int) :
    Option LedgerMessage :=
  ledger.messages.find? fun message => message.id = id && message.organizationId = organizationId

/-- The loop goes on with a source, or ends with the closing nodes. -/
inductive Continuation where
  | goesOn (source : MemoryRecord)
  | ends (closing : List ProvenanceNode) (termination : Termination)

namespace MemoryRuntime

variable (runtime : MemoryRuntime)

/-- `_provenance`. -/
def provenance (record : MemoryRecord) : Except PythonError JsonValue :=
  match runtime.loads record.provenanceJson with
  | .ok value => .ok (if value.isObject then value else .object [])
  -- a `JSONDecodeError` is a `ValueError`
  | .error .typeError => .ok (.object [])
  | .error .valueError => .ok (.object [])
  | .error error => .error error

/-- The node of a record that is visited. -/
def memoryNode (provenance : JsonValue) (record : MemoryRecord) : ProvenanceNode :=
  .memory record.itemId record.memoryClass record.scopeKind record.actorUserId record.reason
    record.deletedAt.isSome (runtime.sha256 record.content)
    ((provenance.field "content_sha256").isText (runtime.sha256 record.content))

/-- What follows the node of `current` in the loop. -/
def follow (database : MemoryDatabase) (caller : Caller) (provenance : JsonValue)
    (current : MemoryRecord) : Continuation :=
  match current.sourceItem? with
  | some itemId =>
    -- a deleted source is followed, one of another tenant is not
    match database.table.find? caller itemId true with
    | none => .ends [.unavailable .memory] .unavailable
    | some source =>
      if (provenance.field "source_sha256").isText (runtime.sha256 source.content) then .goesOn source
      else .ends [.sourceMismatch source.itemId] .integrityFailure
  | none =>
    match current.sourceMessage? with
    | some messageId =>
      match database.ledger.message? caller.organizationId messageId with
      | none => .ends [.unavailable .message] .unavailable
      | some message =>
        -- the digest is compared for the node only
        .ends [.message message.id message.role (runtime.sha256 message.content)
          ((provenance.field "source_sha256").isText (runtime.sha256 message.content))] .source
    | none => .ends [] .declared

/-- The loop of `trace` with `remaining` iterations left. -/
def traceFrom (database : MemoryDatabase) (caller : Caller) : Nat → List String → MemoryRecord →
    Except PythonError (List ProvenanceNode × Termination)
  | 0, _, _ => .ok ([], .depthLimit)
  | remaining + 1, seen, current =>
    if current.ref ∈ seen then .ok ([], .cycle)
    else do
      let provenance ← runtime.provenance current
      let node := runtime.memoryNode provenance current
      match runtime.follow database caller provenance current with
      | .ends closing termination => return (node :: closing, termination)
      | .goesOn source =>
        let later ← traceFrom database caller remaining (current.ref :: seen) source
        return (node :: later.1, later.2)

end MemoryRuntime

/-- `ProvenanceResolver`, whose constructor bounds the depth. -/
structure ProvenanceResolver where
  maxDepth : Nat
  bounded : 0 < maxDepth ∧ maxDepth ≤ 100

def ProvenanceResolver.trace (resolver : ProvenanceResolver) (runtime : MemoryRuntime)
    (database : MemoryDatabase) (caller : Caller) (itemId : String) : Except MemoryError ProvenanceTrace :=
  match database.table.find? caller itemId false with
  | none => .error (.provenanceNotFound itemId)
  | some root =>
    match runtime.traceFrom database caller resolver.maxDepth [] root with
    | .ok (nodes, termination) => .ok ⟨root.itemId, nodes, termination⟩
    | .error error => .error (.python error)

end Eiraos.Memory
