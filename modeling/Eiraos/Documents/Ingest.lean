import Eiraos.Core.IdempotencySteps
import Eiraos.Documents.Worker
import Eiraos.Foundations.Run
import Mathlib.Logic.Function.Basic

/-! # `POST /documents/ingest` under one idempotency key

The requests of one user with one key and one body, each at its own point of the endpoint.
A step is one transaction of one request, the outcome of its enqueueing, or its crash.
-/

namespace Eiraos.Documents

/-- The JSON bodies of the endpoint; `unavailable` is what the ledger stores with a 503. -/
inductive IngestResponse where
  | queued (documentId : Nat) (jobId title : String)
  | stored (status : DocumentStatus) (documentId chunksStored : Nat) (title : String)
  | duplicate (title : String)
  | unavailable (documentId : Nat) (title : String)
  deriving DecidableEq, Repr

/-- `response["document_id"]`. -/
def IngestResponse.documentId : IngestResponse → Option Nat
  | .queued documentId _ _ => some documentId
  | .stored _ documentId _ _ => some documentId
  | .duplicate _ => none
  | .unavailable documentId _ => some documentId

/-- `json.dumps` and `json.loads` on the bodies: what was written is read back. -/
structure IngestJson where
  dumps : IngestResponse → String
  loads : String → Option IngestResponse
  loads_dumps : ∀ response, loads (dumps response) = some response
  dumps_ne : ∀ response, dumps response ≠ ""

/-- What all the requests have in common, and the deployment's `ALLOW_SYNC_INGEST_FALLBACK`. -/
structure IngestEndpoint where
  organizationId : Nat
  userId : Nat
  idempotencyKey : String
  digest : String
  title : String
  content : String
  allowSyncIngestFallback : Bool
  json : IngestJson

/-- The result of `enqueue_document_ingestion`. -/
inductive EnqueueOutcome where
  | job
  | unavailable
  | raised
  deriving DecidableEq, Repr

/-- Where a request is, and what its later steps need. -/
inductive IngestPoint where
  | beginning (attempts : Nat)
  | reading
  | inserting (leaseToken : Option String)
  | enqueueing (leaseToken : Option String) (documentId : Nat)
  | failing (leaseToken : Option String) (documentId : Nat) (recorded : Bool)
  | recordingFailure (leaseToken : Option String) (documentId : Nat)
  | processing (leaseToken : Option String) (documentId : Nat)
  | storing (leaseToken : Option String) (documentId : Nat)
  | completing (leaseToken : Option String) (response : IngestResponse)
  | returning (response : IngestResponse)
  | ended (answer : Option IngestResponse)
  deriving DecidableEq, Repr

/-- Where one attempt of `begin_idempotency` leaves the request. -/
def IngestPoint.begun (attempts : Nat) : BeginResult → IngestPoint
  | .returned outcome =>
    if outcome.status = .completed then .reading else .inserting outcome.leaseToken
  | .again => .beginning (attempts + 1)
  | .raised _ _ => .ended none

structure IngestState where
  clock : Instant
  /-- The lease tokens given out so far. -/
  tokens : List String
  ledger : IdempotencyTable
  tables : Tables
  /-- The documents these requests have inserted. -/
  created : List Nat
  requests : Nat → IngestPoint

inductive IngestSignal where
  | began (token : String)
  | read
  | inserted
  | enqueued (outcome : EnqueueOutcome)
  | committed
  | stored (embed : String → Option Embedding)
  | completed
  | returned
  | crashed

inductive IngestLabel where
  | tick (elapsed : Nat)
  | act (request : Nat) (signal : IngestSignal)

namespace IngestState

/-- No request has begun. -/
def start (clock : Instant) (ledger : IdempotencyTable) (tables : Tables) : IngestState :=
  ⟨clock, [], ledger, tables, [], fun _ => .beginning 0⟩

/-- The request goes on to a point. -/
def go (state : IngestState) (request : Nat) (point : IngestPoint) : IngestState :=
  { state with requests := Function.update state.requests request point }

/-- The documents of the key that have not failed. -/
def alive (state : IngestState) : List Document :=
  state.tables.documents.filter fun document =>
    document.id ∈ state.created ∧ document.status ≠ .failed

end IngestState

namespace IngestEndpoint

variable (endpoint : IngestEndpoint)

/-- `doc:ingest:{idem_key}`. -/
def request : IdempotencyRequest :=
  ⟨endpoint.organizationId, endpoint.userId, "doc:ingest:" ++ endpoint.idempotencyKey, endpoint.digest⟩

/-- The cached response, or the answer to a duplicate that cannot be read. -/
def cachedResponse (ledger : IdempotencyTable) : IngestResponse :=
  match readCachedResponse ledger endpoint.request with
  | none => .duplicate endpoint.title
  | some cached =>
    -- `if cached`
    if cached = "" then .duplicate endpoint.title
    else (endpoint.json.loads cached).getD (.duplicate endpoint.title)

/-- `f"document-ingest:{organization_id}:{document_id}"`. -/
def jobId (documentId : Nat) : String :=
  "document-ingest:" ++ toString endpoint.organizationId ++ ":" ++ toString documentId

/-- The point after `enqueue_document_ingestion`. -/
def enqueued (leaseToken : Option String) (documentId : Nat) : EnqueueOutcome → IngestPoint
  | .job => .completing leaseToken (.queued documentId (endpoint.jobId documentId) endpoint.title)
  | .raised => .failing leaseToken documentId true
  | .unavailable =>
    if endpoint.allowSyncIngestFallback then .processing leaseToken documentId
    else .failing leaseToken documentId false

/-- The `DocumentChunk` of the synchronous fallback. -/
def fallbackChunks (embed : String → Option Embedding) (documentId : Nat) : List NewChunk :=
  (intelligentChunking endpoint.content).zipIdx.map fun chunk =>
    { organizationId := endpoint.organizationId
      documentId := documentId
      content := chunk.1
      embedding := embed chunk.1
      metadata := some [("order", .int chunk.2), ("title", .string endpoint.title)] }

/-- `complete_idempotency` of the endpoint's key. -/
def complete (state : IngestState) (responseStatus : Nat) (response : IngestResponse)
    (leaseToken : Option String) : IdempotencyTable :=
  (completeIdempotency state.ledger endpoint.request state.clock responseStatus
    (endpoint.json.dumps response) leaseToken).1

/-- One signal to a request at a point.  A transaction that the database refuses is not
enabled: the request then ends with an error, as in a crash. -/
def act (state : IngestState) (request : Nat) : IngestPoint → IngestSignal → Option IngestState
  | .ended _, _ => none
  | _, .crashed => some (state.go request (.ended none))
  | .beginning attempts, .began token =>
    if token ∈ state.tokens then none
    else
      let ending := beginIdempotency state.ledger endpoint.request attempts state.clock token
      some { state.go request (.begun attempts ending.2) with
        tokens := token :: state.tokens
        ledger := ending.1 }
  | .reading, .read => some (state.go request (.returning (endpoint.cachedResponse state.ledger)))
  | .inserting leaseToken, .inserted => do
    let (document, tables) ← state.tables.insertDocument endpoint.organizationId endpoint.title .queued
      (some endpoint.userId)
    return { state.go request (.enqueueing leaseToken document.id) with
      tables := tables
      created := document.id :: state.created }
  | .enqueueing leaseToken documentId, .enqueued outcome =>
    some (state.go request (endpoint.enqueued leaseToken documentId outcome))
  | .failing leaseToken documentId recorded, .committed =>
    some { state.go request (if recorded then .recordingFailure leaseToken documentId else .ended none) with
      tables := state.tables.setStatus documentId .failed }
  | .recordingFailure leaseToken documentId, .completed =>
    some { state.go request (.ended none) with
      ledger := endpoint.complete state 503 (.unavailable documentId endpoint.title) leaseToken }
  | .processing leaseToken documentId, .committed =>
    some { state.go request (.storing leaseToken documentId) with
      tables := state.tables.setStatus documentId .processing }
  | .storing leaseToken documentId, .stored embed => do
    let chunks := endpoint.fallbackChunks embed documentId
    let status : DocumentStatus := if 0 < chunks.length then .ready else .failed
    let inserted ← state.tables.insertChunks chunks
    return { state.go request
        (.completing leaseToken (.stored status documentId chunks.length endpoint.title)) with
      tables := inserted.setStatus documentId status }
  | .completing leaseToken response, .completed =>
    some { state.go request (.returning response) with
      ledger := endpoint.complete state 202 response leaseToken }
  | .returning response, .returned => some (state.go request (.ended (some response)))
  | _, _ => none

/-- Time passes within the record's time to live. -/
def step (state : IngestState) : IngestLabel → Option IngestState
  | .tick elapsed =>
    if (state.ledger.select? endpoint.request).any fun record => record.expiredAt (state.clock + elapsed)
    then none
    else some { state with clock := state.clock + elapsed }
  | .act request signal => endpoint.act state request (state.requests request) signal

end IngestEndpoint

end Eiraos.Documents
