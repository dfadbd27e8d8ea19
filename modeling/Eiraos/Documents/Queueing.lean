import Eiraos.Documents.IngestKeys

/-! # When a document cannot be queued

`POST /documents/ingest` and `POST /documents/upload` from the insertion of the document to their
answer, with `enqueue_document_ingestion` between the two.  Every commit succeeds.
-/

namespace Eiraos.Documents

/-! ## The queue (`workers/client.py`) -/

/-- What the pool does with a job. -/
inductive PoolAnswer where
  /-- `create_pool` fails with an `Exception`. -/
  | unreachable
  | accepted
  /-- `enqueue_job` returns `None`: there is a job with this id. -/
  | known
  /-- An exception; `derived` tells whether it derives from `Exception`, as a cancellation does not. -/
  | raised (derived : Bool)
  deriving DecidableEq, Repr

/-- `f"document-ingest:{organization_id}:{document_id}"`. -/
def ingestJobId (organizationId documentId : Nat) : String :=
  "document-ingest:" ++ toString organizationId ++ ":" ++ toString documentId

/-- `enqueue_document_ingestion`; the error is that of `PoolAnswer.raised`. -/
def enqueueDocumentIngestion (pool : PoolAnswer) (organizationId documentId : Nat) :
    Except Bool (Option String) :=
  match pool with
  -- `get_arq_pool` answers `None`
  | .unreachable => .ok none
  | .accepted => .ok (some (ingestJobId organizationId documentId))
  | .known => .ok none
  -- the call of `enqueue_job` is not guarded
  | .raised derived => .error derived

/-! ## Endings -/

/-- The body of a successful upload. -/
structure UploadResponse where
  documentId : Nat
  jobId : String
  knowledgeScope : String
  storagePath : String
  size : Nat
  deriving DecidableEq, Repr

inductive QueueAnswer where
  | ingested (response : IngestResponse)
  | uploaded (response : UploadResponse)
  /-- An `EiraOSException` or, without a title, an `HTTPException`, with status 503. -/
  | unavailable (title : Option String) (detail : String)
  /-- An exception that nothing catches. -/
  | raised
  deriving DecidableEq, Repr

/-- The tables after a request, with the document that it has inserted. -/
structure QueueEnding where
  tables : Tables
  ledger : IdempotencyTable
  documentId : Nat
  answer : QueueAnswer
  deriving DecidableEq, Repr

/-- The request ended in an error. -/
def QueueEnding.failed (ending : QueueEnding) : Bool :=
  match ending.answer with
  | .ingested _ => false
  | .uploaded _ => false
  | .unavailable _ _ => true
  | .raised => true

/-! ## `ingest_document` -/

/-- A request of the endpoint, with or without an idempotency key, after `begin_idempotency`. -/
structure IngestCall where
  endpoint : IngestEndpoint
  keyed : Bool
  leaseToken : String
  embed : String → Option Embedding

namespace IngestCall

variable (call : IngestCall)

def ledgerKey : Option IdempotencyRequest := if call.keyed then some call.endpoint.request else none

/-- `complete_idempotency`, if there is a key. -/
def complete (ledger : IdempotencyTable) (now : Instant) (responseStatus : Nat) (response : IngestResponse) :
    IdempotencyTable :=
  match call.ledgerKey with
  | none => ledger
  | some request =>
    (completeIdempotency ledger request now responseStatus (call.endpoint.json.dumps response)
      (some call.leaseToken)).1

/-- The rest of the endpoint with a body. -/
def finish (tables : Tables) (ledger : IdempotencyTable) (now : Instant) (documentId : Nat)
    (response : IngestResponse) : QueueEnding :=
  ⟨tables, call.complete ledger now 202 response, documentId, .ingested response⟩

/-- `_fail_document_ingest` and the exception after it. -/
def failDocumentIngest (tables : Tables) (ledger : IdempotencyTable) (now : Instant) (documentId : Nat) :
    QueueEnding where
  tables := tables.setStatus documentId .failed
  ledger := call.complete ledger now 503 (.unavailable documentId call.endpoint.title)
  documentId := documentId
  answer := .unavailable (some "Job queue unavailable") "Document ingestion could not be queued."

/-- The synchronous fallback. -/
def fallback (tables : Tables) (ledger : IdempotencyTable) (now : Instant) (documentId : Nat) :
    Option QueueEnding := do
  let processing := tables.setStatus documentId .processing
  let chunks := call.endpoint.fallbackChunks call.embed documentId
  let status : DocumentStatus := if 0 < chunks.length then .ready else .failed
  let stored ← processing.insertChunks chunks
  return call.finish (stored.setStatus documentId status) ledger now documentId
    (.stored status documentId chunks.length call.endpoint.title)

/-- The endpoint from the insertion on; `none` when the database refuses a commit. -/
def ingestDocument (tables : Tables) (ledger : IdempotencyTable) (now : Instant) (pool : PoolAnswer) :
    Option QueueEnding := do
  let (document, inserted) ← tables.insertDocument call.endpoint.organizationId call.endpoint.title .queued
    (some call.endpoint.userId)
  match enqueueDocumentIngestion pool call.endpoint.organizationId document.id with
  -- `except Exception` catches no other exception
  | .error false => return ⟨inserted, ledger, document.id, .raised⟩
  | .error true => return call.failDocumentIngest inserted ledger now document.id
  | .ok (some jobId) =>
    return call.finish inserted ledger now document.id (.queued document.id jobId call.endpoint.title)
  | .ok none =>
    if call.endpoint.allowSyncIngestFallback then call.fallback inserted ledger now document.id
    else
      -- the document is failed here, but the record of the key is left as it is
      return {
        tables := inserted.setStatus document.id .failed
        ledger
        documentId := document.id
        answer := .unavailable (some "Job queue unavailable")
          "Document was accepted but the background worker queue is unreachable." }

end IngestCall

/-! ## `upload_document` -/

/-- A request whose file was stored and read. -/
structure UploadCall where
  organizationId : Nat
  userId : Nat
  filename : String
  knowledgeScope : String
  storagePath : String
  size : Nat

def UploadCall.uploadDocument (call : UploadCall) (tables : Tables) (ledger : IdempotencyTable)
    (pool : PoolAnswer) : Option QueueEnding := do
  let (document, inserted) ← tables.insertDocument call.organizationId
    (String.ofList (call.filename.toList.take 500)) .queued (some call.userId)
  match enqueueDocumentIngestion pool call.organizationId document.id with
  -- nothing is caught in `upload_document`
  | .error _ => return ⟨inserted, ledger, document.id, .raised⟩
  | .ok none =>
    return {
      tables := inserted.setStatus document.id .failed
      ledger
      documentId := document.id
      answer := .unavailable none "Document queue is unavailable" }
  | .ok (some jobId) =>
    return ⟨inserted, ledger, document.id,
      .uploaded ⟨document.id, jobId, call.knowledgeScope, call.storagePath, call.size⟩⟩

/-! ## Terminal records -/

inductive QueueCall where
  | ingest (call : IngestCall)
  | upload (call : UploadCall)

namespace QueueCall

/-- Uploads have no idempotency record. -/
def ledgerKey : QueueCall → Option IdempotencyRequest
  | .ingest call => call.ledgerKey
  | .upload _ => none

def serve (call : QueueCall) (tables : Tables) (ledger : IdempotencyTable) (now : Instant)
    (pool : PoolAnswer) : Option QueueEnding :=
  match call with
  | .ingest call => call.ingestDocument tables ledger now pool
  | .upload call => call.uploadDocument tables ledger pool

/-- The record of the request is its own at a time. -/
def OwnsLease (call : QueueCall) (ledger : IdempotencyTable) (now : Instant) : Prop :=
  match call with
  | .upload _ => True
  | .ingest call => ∀ request, call.ledgerKey = some request → ∃ record, ledger.select? request = some record ∧
      record.status = .processing ∧ record.leaseToken = some call.leaseToken ∧ record.leaseLapsed now = false

end QueueCall

/-- The document and the record of a request are failed. -/
structure Terminal (key : Option IdempotencyRequest) (ending : QueueEnding) : Prop where
  document : ∀ document ∈ ending.tables.documents, document.id = ending.documentId → document.status = .failed
  record : ∀ request, key = some request → ∀ record, ending.ledger.select? request = some record →
    record.status = .failed

/-- An ingest request is left half done by an exception that derives from nothing it catches, and, with a
key and without the fallback, by a queue that takes no job; an upload by any exception. -/
def QueueCall.Handles (call : QueueCall) (pool : PoolAnswer) : Prop :=
  match call, pool with
  | .ingest _, .accepted => True
  | .upload _, .accepted => True
  | .ingest _, .raised derived => derived = true
  | .ingest call, .unreachable => call.endpoint.allowSyncIngestFallback = true ∨ call.keyed = false
  | .ingest call, .known => call.endpoint.allowSyncIngestFallback = true ∨ call.keyed = false
  | .upload _, .raised _ => False
  | .upload _, .unreachable => True
  | .upload _, .known => True

/-! ### Tables and records -/

theorem Tables.status_of_setStatus {tables : Tables} {documentId : Nat} {status : DocumentStatus}
    {document : Document} (mem : document ∈ (tables.setStatus documentId status).documents)
    (same : document.id = documentId) : document.status = status := by
  obtain ⟨old, _, rfl⟩ := List.mem_map.mp mem
  by_cases own : old.id = documentId
  · rw [if_pos own]
  · rw [if_neg own] at same
    exact absurd same own

/-- A document that was just inserted is there and queued. -/
theorem Tables.mem_of_insertDocument {tables inserted : Tables} {organizationId : Nat} {title : String}
    {status : DocumentStatus} {owner : Option Nat} {document : Document}
    (done : tables.insertDocument organizationId title status owner = some (document, inserted)) :
    document ∈ inserted.documents ∧ document.status = status := by
  obtain ⟨-, rfl, rfl⟩ := Tables.insertDocument_eq_some.mp done
  simp

/-- Nothing is terminal as long as the inserted document is queued. -/
theorem not_terminal_of_queued {key : Option IdempotencyRequest} {ending : QueueEnding} {document : Document}
    (mem : document ∈ ending.tables.documents) (own : document.id = ending.documentId)
    (queued : document.status = .queued) : ¬Terminal key ending := by
  intro terminal
  have failed := terminal.document document mem own
  rw [queued] at failed
  cases failed

section Ingest

variable {call : IngestCall} {ledger : IdempotencyTable} {now : Instant}

/-- A record that is completed with a 503 is failed. -/
theorem complete_failed (owned : (QueueCall.ingest call).OwnsLease ledger now) (response : IngestResponse)
    {request : IdempotencyRequest} (keyed : call.ledgerKey = some request) {record : IdempotencyRecord}
    (found : (call.complete ledger now 503 response).select? request = some record) :
    record.status = .failed := by
  obtain ⟨existing, present, -, token, live⟩ := owned request keyed
  have closed : call.complete ledger now 503 response =
      ledger.update (existing.complete 503 (call.endpoint.json.dumps response)) := by
    simp [IngestCall.complete, keyed, completeIdempotency, present, token, live]
  have selected : (ledger.update (existing.complete 503 (call.endpoint.json.dumps response))).select? request =
      some (existing.complete 503 (call.endpoint.json.dumps response)) :=
    IdempotencyTable.select?_update present rfl (IdempotencyTable.select?_some present).2
  rw [closed, selected] at found
  cases found
  rfl

/-- A record that nobody has completed is processing. -/
theorem not_terminal_of_owned (owned : (QueueCall.ingest call).OwnsLease ledger now) {ending : QueueEnding}
    (untouched : ending.ledger = ledger) {request : IdempotencyRequest} (keyed : call.ledgerKey = some request) :
    ¬Terminal call.ledgerKey ending := by
  intro terminal
  obtain ⟨existing, present, processing, -⟩ := owned request keyed
  have failed := terminal.record request keyed existing (untouched ▸ present)
  rw [processing] at failed
  cases failed

theorem ledgerKey_eq_none : call.ledgerKey = none ↔ call.keyed = false := by
  unfold IngestCall.ledgerKey
  cases call.keyed <;> simp

theorem fallback_not_failed {tables : Tables} {documentId : Nat} {ending : QueueEnding}
    (done : call.fallback tables ledger now documentId = some ending) : ending.failed = false := by
  obtain ⟨stored, _, same⟩ := Option.bind_eq_some_iff.mp done
  cases same
  rfl

end Ingest

/-! ### The exact condition -/

/-- Without a job, an ingest request falls back, or fails with its record open. -/
theorem ingest_without_job_iff {call : IngestCall} {tables : Tables} {ledger : IdempotencyTable} {now : Instant}
    {document : Document} {ending : QueueEnding}
    (owned : (QueueCall.ingest call).OwnsLease ledger now)
    (served : (if call.endpoint.allowSyncIngestFallback then call.fallback tables ledger now document.id
      else
        return {
          tables := tables.setStatus document.id .failed
          ledger
          documentId := document.id
          answer := .unavailable (some "Job queue unavailable")
            "Document was accepted but the background worker queue is unreachable." }) = some ending) :
    (ending.failed = true → Terminal call.ledgerKey ending) ↔
      call.endpoint.allowSyncIngestFallback = true ∨ call.keyed = false := by
  cases fallback : call.endpoint.allowSyncIngestFallback with
  | true =>
    rw [fallback, if_pos rfl] at served
    simp [fallback_not_failed served]
  | false =>
    rw [fallback, if_neg (by simp)] at served
    cases served
    simp only [Bool.false_eq_true, false_or]
    constructor
    · -- With a key there is a record, and it was left processing.
      intro terminal
      by_contra keyed
      obtain ⟨request, key⟩ := Option.ne_none_iff_exists'.mp (mt ledgerKey_eq_none.mp keyed)
      exact not_terminal_of_owned owned rfl key (terminal rfl)
    · intro keyless _
      refine ⟨fun document mem same => Tables.status_of_setStatus mem same, ?_⟩
      intro request key
      rw [ledgerKey_eq_none.mpr keyless] at key
      cases key

/-- After an error a request leaves its document and its record failed exactly if the endpoint handles what
the queue did. -/
theorem queue_failure_terminal_iff {call : QueueCall} {tables : Tables} {ledger : IdempotencyTable}
    {now : Instant} {pool : PoolAnswer} {ending : QueueEnding} (owned : call.OwnsLease ledger now)
    (served : call.serve tables ledger now pool = some ending) :
    (ending.failed = true → Terminal call.ledgerKey ending) ↔ call.Handles pool := by
  cases call with
  | ingest call =>
    obtain ⟨⟨document, inserted⟩, insert, served⟩ := Option.bind_eq_some_iff.mp served
    obtain ⟨mem, queued⟩ := Tables.mem_of_insertDocument insert
    cases pool with
    | accepted =>
      cases served
      simp [QueueCall.Handles, QueueEnding.failed, IngestCall.finish]
    | unreachable => exact ingest_without_job_iff owned served
    | known => exact ingest_without_job_iff owned served
    | raised derived =>
      cases derived with
      | false =>
        -- the exception passes through, and the document stays queued
        cases served
        simp only [QueueCall.Handles, Bool.false_eq_true, iff_false]
        intro terminal
        exact not_terminal_of_queued mem rfl queued (terminal rfl)
      | true =>
        -- `_fail_document_ingest` fails both
        cases served
        simp only [QueueCall.Handles, iff_true]
        intro _
        refine ⟨fun document mem same => Tables.status_of_setStatus mem same, ?_⟩
        intro request key record found
        exact complete_failed owned _ key found
  | upload call =>
    obtain ⟨⟨document, inserted⟩, insert, served⟩ := Option.bind_eq_some_iff.mp served
    obtain ⟨mem, queued⟩ := Tables.mem_of_insertDocument insert
    cases pool with
    | accepted =>
      cases served
      simp [QueueCall.Handles, QueueEnding.failed]
    | raised derived =>
      cases served
      simp only [QueueCall.Handles, iff_false]
      intro terminal
      exact not_terminal_of_queued mem rfl queued (terminal rfl)
    | unreachable =>
      cases served
      simp only [QueueCall.Handles, iff_true]
      exact fun _ => ⟨fun document mem same => Tables.status_of_setStatus mem same, by simp [QueueCall.ledgerKey]⟩
    | known =>
      cases served
      simp only [QueueCall.Handles, iff_true]
      exact fun _ => ⟨fun document mem same => Tables.status_of_setStatus mem same, by simp [QueueCall.ledgerKey]⟩

/-! ### The requests of one key

With a key, `ingestDocument` is one request of the system that runs all requests of the key. -/

/-- What the pool has done is a signal there; an exception that is not caught is like a crash. -/
def PoolAnswer.signal : PoolAnswer → IngestSignal
  | .unreachable => .enqueued .unavailable
  | .accepted => .enqueued .job
  | .known => .enqueued .unavailable
  | .raised true => .enqueued .raised
  | .raised false => .crashed

/-- The signals after it. -/
def IngestCall.remaining (call : IngestCall) : PoolAnswer → List IngestSignal
  | .accepted => [.completed, .returned]
  | .raised true => [.committed, .completed]
  | .raised false => []
  | _ =>
    if call.endpoint.allowSyncIngestFallback then [.committed, .stored call.embed, .completed, .returned]
    else [.committed]

/-- The request has run to its end and left the tables of an ending. -/
def IngestState.EndsAs (final : IngestState) (request : Nat) (ending : QueueEnding) : Prop :=
  final.tables = ending.tables ∧ final.ledger = ending.ledger ∧ ∃ answer, final.requests request = .ended answer

theorem jobId_eq (endpoint : IngestEndpoint) (documentId : Nat) :
    endpoint.jobId documentId = ingestJobId endpoint.organizationId documentId := rfl

theorem complete_of_keyed {call : IngestCall} (keyed : call.keyed = true) (ledger : IdempotencyTable)
    (now : Instant) (responseStatus : Nat) (response : IngestResponse) :
    call.complete ledger now responseStatus response =
      (completeIdempotency ledger call.endpoint.request now responseStatus (call.endpoint.json.dumps response)
        (some call.leaseToken)).1 := by
  simp [IngestCall.complete, IngestCall.ledgerKey, keyed]

section Run

open Transition IngestEndpoint

variable {call : IngestCall} {state : IngestState} {request : Nat} {ending : QueueEnding}

/-- The run of a request for which the queue takes no job. -/
theorem run_without_job (keyed : call.keyed = true)
    (inserting : state.requests request = .inserting (some call.leaseToken))
    (served : call.ingestDocument state.tables state.ledger state.clock .unreachable = some ending) :
    ∃ final, run call.endpoint.step state
        ((.inserted :: .enqueued .unavailable :: call.remaining .unreachable).map (.act request)) = some final ∧
      final.EndsAs request ending := by
  obtain ⟨⟨document, inserted⟩, insert, served⟩ := Option.bind_eq_some_iff.mp served
  change (if call.endpoint.allowSyncIngestFallback then _ else _) = some ending at served
  cases fallback : call.endpoint.allowSyncIngestFallback with
  | true =>
    rw [fallback, if_pos rfl] at served
    obtain ⟨stored, chunks, same⟩ := Option.bind_eq_some_iff.mp served
    cases same
    simp [run, step, act, inserting, insert, IngestState.go, IngestCall.remaining, fallback, enqueued, chunks,
      IngestState.EndsAs, IngestCall.finish, complete_of_keyed keyed, IngestEndpoint.complete]
  | false =>
    rw [fallback, if_neg (by simp)] at served
    cases served
    simp [run, step, act, inserting, insert, IngestState.go, IngestCall.remaining, fallback, enqueued,
      IngestState.EndsAs]

theorem ingestDocument_is_run {pool : PoolAnswer} (keyed : call.keyed = true)
    (inserting : state.requests request = .inserting (some call.leaseToken))
    (served : call.ingestDocument state.tables state.ledger state.clock pool = some ending) :
    ∃ final, run call.endpoint.step state
        ((.inserted :: pool.signal :: call.remaining pool).map (.act request)) = some final ∧
      final.EndsAs request ending := by
  cases pool with
  | unreachable => exact run_without_job keyed inserting served
  | known => exact run_without_job keyed inserting served
  | accepted =>
    obtain ⟨⟨document, inserted⟩, insert, served⟩ := Option.bind_eq_some_iff.mp served
    cases served
    simp [run, step, act, inserting, insert, IngestState.go, PoolAnswer.signal, IngestCall.remaining, enqueued,
      IngestState.EndsAs, IngestCall.finish, complete_of_keyed keyed, IngestEndpoint.complete, jobId_eq]
  | raised derived =>
    obtain ⟨⟨document, inserted⟩, insert, served⟩ := Option.bind_eq_some_iff.mp served
    cases derived with
    | true =>
      cases served
      simp [run, step, act, inserting, insert, IngestState.go, PoolAnswer.signal, IngestCall.remaining, enqueued,
        IngestState.EndsAs, IngestCall.failDocumentIngest, complete_of_keyed keyed, IngestEndpoint.complete]
    | false =>
      cases served
      simp [run, step, act, inserting, insert, IngestState.go, PoolAnswer.signal, IngestCall.remaining,
        IngestState.EndsAs]

end Run

/-! ### Two requests -/

/-- An ingest request with a key that has just begun. -/
def tidesCall : IngestCall := ⟨tidesEndpoint, true, "first", fun _ => none⟩

def tidesLedger : IdempotencyTable := (beginIdempotency ⟨[], 0⟩ tidesEndpoint.request 0 0 "first").1

theorem tidesCall_owns : (QueueCall.ingest tidesCall).OwnsLease tidesLedger 5 := by
  rintro request ⟨⟩
  exact ⟨_, rfl, rfl, rfl, by decide⟩

theorem queue_failure_terminal_iff_tides :
    ∃ ending, (QueueCall.ingest tidesCall).serve shelf tidesLedger 5 .unreachable = some ending ∧
      ((ending.failed = true → Terminal (QueueCall.ingest tidesCall).ledgerKey ending) ↔
        (QueueCall.ingest tidesCall).Handles .unreachable) :=
  ⟨_, rfl, queue_failure_terminal_iff tidesCall_owns rfl⟩

def mapUpload : UploadCall := ⟨1, 1, "map.txt", "organization", "1/3f.txt", 4⟩

/-- An upload whose job the pool refuses with an exception leaves its document queued. -/
theorem upload_left_queued : ¬∀ (call : QueueCall) (tables : Tables) (ledger : IdempotencyTable) (now : Instant)
    (pool : PoolAnswer) (ending : QueueEnding), call.OwnsLease ledger now →
    call.serve tables ledger now pool = some ending →
    ending.failed = true → Terminal call.ledgerKey ending := by
  intro claim
  have terminal := claim (.upload mapUpload) shelf ⟨[], 0⟩ 0 (.raised true) _ trivial rfl rfl
  exact absurd (terminal.document ⟨2, 1, "map.txt", .queued, some 1⟩ (by decide +kernel) rfl) (by decide)

end Eiraos.Documents
