import Eiraos.Foundations.Rows

/-! # The idempotency ledger (`core/idempotency.py`)

Each operation is one database transaction on the table `idempotency_records`.  The
clock reading and the token of `uuid4` are arguments: they are chosen by the
environment.  Instants count microseconds, the resolution of the stored timestamps.
-/

namespace Eiraos

abbrev Instant := Nat

def seconds (count : Nat) : Instant := count * 1000000

def DEFAULT_TTL_SECONDS : Nat := 24 * 60 * 60
def LEASE_SECONDS : Nat := 120

inductive RecordStatus where
  | processing
  | completed
  | failed
  deriving DecidableEq, Repr

structure IdempotencyRecord where
  id : Nat
  organizationId : Nat
  userId : Nat
  key : String
  requestHash : String
  status : RecordStatus
  responseStatus : Option Nat
  responseReference : Option String
  createdAt : Instant
  expiresAt : Option Instant
  leaseUntil : Option Instant
  leaseToken : Option String
  deriving DecidableEq, Repr

/-- The table with its id sequence: an id is never given out twice. -/
structure IdempotencyTable where
  rows : List IdempotencyRecord
  nextId : Nat
  deriving DecidableEq, Repr

/-- What the operations read of a request: the resolved tenant context, the key and the
digest of its body. -/
structure IdempotencyRequest where
  organizationId : Nat
  userId : Nat
  key : String
  digest : String
  deriving DecidableEq, Repr

structure IdempotencyOutcome where
  status : RecordStatus
  leaseToken : Option String
  recordId : Option Nat
  isRecovery : Bool
  deriving DecidableEq, Repr

/-- How one attempt of `begin_idempotency` ends: it returns, it calls itself again with
`_attempts + 1`, or it raises an HTTP error. -/
inductive BeginResult where
  | returned (outcome : IdempotencyOutcome)
  | again
  | raised (statusCode : Nat) (detail : String)
  deriving DecidableEq, Repr

namespace IdempotencyRecord

/-- The unique columns `(organization_id, user_id, key)`. -/
def identity (record : IdempotencyRecord) : Nat × Nat × String :=
  (record.organizationId, record.userId, record.key)

/-- A Python string that is neither `None` nor empty. -/
def hasReference (record : IdempotencyRecord) : Bool :=
  match record.responseReference with
  | none => false
  | some reference => reference ≠ ""

/-- `expires_at` is set and strictly before `now`. -/
def expiredAt (record : IdempotencyRecord) (now : Instant) : Bool :=
  match record.expiresAt with
  | none => false
  | some expiry => expiry < now

/-- `lease_until` is set and strictly before `now`. -/
def leaseLapsed (record : IdempotencyRecord) (now : Instant) : Bool :=
  match record.leaseUntil with
  | none => false
  | some lease => lease < now

/-- The lease is handed to a new token. -/
def lease (record : IdempotencyRecord) (now : Instant) (token : String) : IdempotencyRecord :=
  { record with
    status := .processing
    leaseUntil := some (now + seconds LEASE_SECONDS)
    leaseToken := some token }

/-- A failed record starts a new generation: response cleared, expiry renewed. -/
def restart (record : IdempotencyRecord) (now : Instant) (token : String) : IdempotencyRecord :=
  { record.lease now token with
    responseStatus := none
    responseReference := none
    expiresAt := some (now + seconds DEFAULT_TTL_SECONDS) }

/-- The terminal write of `complete_idempotency` and `finalize`. -/
def complete (record : IdempotencyRecord) (responseStatus : Nat) (responseReference : String) :
    IdempotencyRecord :=
  { record with
    status := if 200 ≤ responseStatus ∧ responseStatus < 300 then .completed else .failed
    responseStatus := some responseStatus
    responseReference := some responseReference
    leaseUntil := none }

end IdempotencyRecord

namespace IdempotencyRequest

def identity (request : IdempotencyRequest) : Nat × Nat × String :=
  (request.organizationId, request.userId, request.key)

/-- The row `begin_idempotency` tries to insert. -/
def freshRecord (request : IdempotencyRequest) (id : Nat) (now : Instant) (token : String) :
    IdempotencyRecord :=
  { id
    organizationId := request.organizationId
    userId := request.userId
    key := request.key
    requestHash := request.digest
    status := .processing
    responseStatus := none
    responseReference := none
    createdAt := now
    expiresAt := some (now + seconds DEFAULT_TTL_SECONDS)
    leaseUntil := some (now + seconds LEASE_SECONDS)
    leaseToken := some token }

end IdempotencyRequest

namespace IdempotencyTable

/-- The row of the request's organization, user and key. -/
def select? (table : IdempotencyTable) (request : IdempotencyRequest) : Option IdempotencyRecord :=
  table.rows.find? fun record => record.identity = request.identity

def selectById? (table : IdempotencyTable) (id : Nat) : Option IdempotencyRecord :=
  table.rows.find? fun record => record.id = id

/-- `INSERT ... ON CONFLICT (organization_id, user_id, key) DO NOTHING`. -/
def insertOnConflictDoNothing (table : IdempotencyTable) (record : IdempotencyRecord) :
    Option IdempotencyTable :=
  if table.rows.any fun old => old.identity = record.identity then none
  else some { rows := table.rows ++ [record], nextId := table.nextId + 1 }

def update (table : IdempotencyTable) (record : IdempotencyRecord) : IdempotencyTable :=
  { table with rows := Rows.replace IdempotencyRecord.id record table.rows }

def delete (table : IdempotencyTable) (id : Nat) : IdempotencyTable :=
  { table with rows := Rows.delete IdempotencyRecord.id id table.rows }

end IdempotencyTable

open IdempotencyTable

/-- One transaction of `begin_idempotency`; `attempts` is the argument `_attempts`. -/
def beginIdempotency (table : IdempotencyTable) (request : IdempotencyRequest) (attempts : Nat)
    (now : Instant) (token : String) : IdempotencyTable × BeginResult :=
  match table.insertOnConflictDoNothing (request.freshRecord table.nextId now token) with
  | some inserted =>
    (inserted, .returned ⟨.processing, some token, some table.nextId, false⟩)
  | none =>
    match table.select? request with
    | none =>
      (table,
        if 2 ≤ attempts then .raised 503 "Idempotency reservation failed after retries."
        else .again)
    | some existing =>
      -- before the digest is compared: an expired key may be used with another payload
      if existing.status = .completed ∧ existing.expiredAt now then
        (table.delete existing.id,
          if 2 ≤ attempts then .raised 503 "Idempotency renewal failed after retries."
          else .again)
      else if existing.requestHash ≠ request.digest then
        (table, .raised 409 "Idempotency key was reused with a different payload.")
      else if existing.status = .completed ∧ existing.hasReference then
        (table, .returned ⟨.completed, none, some existing.id, false⟩)
      else if existing.status = .failed then
        (table.update (existing.restart now token),
          .returned ⟨.processing, some token, some existing.id, true⟩)
      -- also a completed record without a reference comes here
      else if existing.leaseLapsed now then
        (table.update (existing.lease now token),
          .returned ⟨.processing, some token, some existing.id, true⟩)
      else
        (table, .raised 409 "A request with this idempotency key is already in progress.")

/-- Atomically extend the lease only while this caller still owns it. -/
def renewIdempotencyLease (table : IdempotencyTable) (request : IdempotencyRequest)
    (now : Instant) (leaseToken : String) : IdempotencyTable × Bool :=
  match table.select? request with
  | none => (table, false)
  | some record =>
    -- a lease that has lapsed is renewed too, as long as nobody took it
    if record.status = .processing ∧ record.leaseToken = some leaseToken then
      (table.update { record with leaseUntil := some (now + seconds LEASE_SECONDS) }, true)
    else (table, false)

def completeIdempotency (table : IdempotencyTable) (request : IdempotencyRequest)
    (now : Instant) (responseStatus : Nat) (responseReference : String)
    (leaseToken : Option String) : IdempotencyTable × Bool :=
  match table.select? request with
  | none => (table, false)
  | some existing =>
    let refused :=
      match leaseToken with
      -- without a token nothing is checked
      | none => false
      | some token =>
        (existing.leaseToken ≠ none ∧ existing.leaseToken ≠ some token) ∨ existing.leaseLapsed now
    if refused then (table, false)
    else (table.update (existing.complete responseStatus responseReference), true)

def readCachedResponse (table : IdempotencyTable) (request : IdempotencyRequest) : Option String :=
  match table.rows.find? fun record =>
      record.identity = request.identity ∧ record.status = .completed with
  | none => none
  | some existing => existing.responseReference

/-- Expired terminal records are deleted; the count is what the caller gets. -/
def cleanupExpiredRecords (table : IdempotencyTable) (now : Instant) : IdempotencyTable × Nat :=
  let expired := fun record : IdempotencyRecord =>
    record.expiredAt now && (record.status = .completed || record.status = .failed)
  ({ table with rows := table.rows.filter fun record => !expired record },
    (table.rows.filter expired).length)

end Eiraos
