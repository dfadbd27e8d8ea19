import Eiraos.Core.LeaseFencing
import Eiraos.Persistence.Representation

/-! # Chat requests on the tables

Requests obtain a lease with `begin_idempotency` and then call the contract under their
own token, interleaved one transaction at a time with renewals, preflight failures,
cleanups and each other.  `executionIdentity` is the digest of `execution_identity` on the
organization, user and key and the record id; nothing is assumed of it.

`Touched` summarizes what a call of the contract does to the tables for whoever looks from
outside: it writes at most one execution with its assistant message, and the record only
as its lease owner.
-/

namespace Eiraos

open IdempotencyTable

/-- A request that was handed a lease; `persisted` once its `prepare_exchange` returned,
`finalized` once its `finalize` returned `True`. -/
structure LeasedRequest where
  token : String
  request : IdempotencyRequest
  recordId : Nat
  persisted : Bool
  finalized : Bool
  deriving DecidableEq, Repr

structure RequestState where
  database : Database
  clock : Instant
  requests : List LeasedRequest
  deriving DecidableEq, Repr

inductive RequestLabel where
  | tick (elapsed : Nat)
  | begin (request : IdempotencyRequest) (attempts : Nat) (token : String)
  | renew (token : String)
  | failPreflight (token : String) (responseStatus : Nat) (reference : String)
  | cleanup
  | assertRecoveryAllowed (token : String) (storage : Storage)
  | prepareExchange (token : String) (storage : Storage) (exchange : ExchangeRequest)
  | markStreaming (token : String) (storage : Storage)
  | finalize (token : String) (storage : Storage) (request : FinalizeRequest)
  deriving DecidableEq, Repr

/-- The request can no longer take the preflight failure path. -/
def LeasedRequest.engaged (caller : LeasedRequest) : Bool :=
  caller.persisted || caller.finalized

/-- The same request later: what it has persisted stays persisted. -/
structure LeasedRequest.Advanced (caller later : LeasedRequest) : Prop where
  token : later.token = caller.token
  request : later.request = caller.request
  recordId : later.recordId = caller.recordId
  persisted : caller.persisted = true → later.persisted = true

theorem LeasedRequest.Advanced.refl (caller : LeasedRequest) : caller.Advanced caller :=
  ⟨rfl, rfl, rfl, id⟩

/-- How the chat endpoint calls `finalize`: a completion with status 200 and a reference,
anything else with a failure code. -/
def FinalizeRequest.wellFormed (request : FinalizeRequest) : Bool :=
  if request.terminalStatus = "completed" then
    request.responseStatus = 200 ∧ request.responseReference ≠ "" ∧ request.failureCode = none
  else request.failureCode.isSome

def succeeded : Except PersistenceError Bool → Bool
  | .ok true => true
  | _ => false

namespace RequestState

def initial (clock : Instant) : RequestState := ⟨Database.empty, clock, []⟩

/-- The request a returned outcome with a lease stands for. -/
def leased (request : IdempotencyRequest) : BeginResult → List LeasedRequest
  | .returned ⟨.processing, some token, some recordId, _⟩ => [⟨token, request, recordId, false, false⟩]
  | _ => []

def caller? (state : RequestState) (token : String) : Option LeasedRequest :=
  state.requests.find? fun request => request.token = token

section Step

variable (executionIdentity : Nat × Nat × String → Nat → String)

/-- The execution of the caller's record. -/
def executionOf (caller : LeasedRequest) : String :=
  executionIdentity caller.request.identity caller.recordId

/-- The arguments the caller's own context decides. -/
def exchangeOf (caller : LeasedRequest) (exchange : ExchangeRequest) : ExchangeRequest :=
  { exchange with
    executionId := executionOf executionIdentity caller
    organizationId := caller.request.organizationId
    userId := caller.request.userId
    idempotencyRecordId := some caller.recordId
    leaseToken := some caller.token }

def finalizeOf (caller : LeasedRequest) (request : FinalizeRequest) : FinalizeRequest :=
  { request with
    executionId := executionOf executionIdentity caller
    leaseToken := some caller.token }

/-- One transaction.  Tokens are fresh, a preflight failure reports no success and comes
before the request has persisted anything, and `CHAT_MAX_ATTEMPTS` is at least one. -/
def step (state : RequestState) : RequestLabel → Option RequestState
  | .tick elapsed => some { state with clock := state.clock + elapsed }
  | .begin request attempts token =>
    if state.requests.any fun leased => leased.token = token then none
    else
      let ending := beginIdempotency state.database.idempotency request attempts state.clock token
      some { state with
        database := state.database.withIdempotency ending.1
        requests := state.requests ++ leased request ending.2 }
  | .renew token =>
    (state.caller? token).map fun caller =>
      { state with
        database := state.database.withIdempotency
          (renewIdempotencyLease state.database.idempotency caller.request state.clock token).1 }
  | .failPreflight token responseStatus reference =>
    (state.caller? token).bind fun caller =>
      if caller.engaged ∨ (200 ≤ responseStatus ∧ responseStatus < 300) then none
      else
        some { state with
          database := state.database.withIdempotency
            (completeIdempotency state.database.idempotency caller.request state.clock responseStatus
              reference (some token)).1 }
  | .cleanup =>
    some { state with
      database := state.database.withIdempotency
        (cleanupExpiredRecords state.database.idempotency state.clock).1 }
  | .assertRecoveryAllowed token storage =>
    (state.caller? token).map fun caller =>
      { state with
        database := (assertRecoveryAllowed storage state.database (executionOf executionIdentity caller)
          caller.recordId (some token) state.clock).1 }
  | .prepareExchange token storage exchange =>
    (state.caller? token).bind fun caller =>
      if exchange.maxAttempts = 0 then none
      else
        let ending := prepareExchange storage state.database
          (exchangeOf executionIdentity caller exchange) state.clock
        some { state with
          database := ending.1
          requests := Rows.replace LeasedRequest.token
            { caller with persisted := caller.persisted || ending.2.isOk } state.requests }
  | .markStreaming token storage =>
    (state.caller? token).map fun caller =>
      { state with
        database := (markStreaming storage state.database (executionOf executionIdentity caller)).1 }
  | .finalize token storage request =>
    (state.caller? token).bind fun caller =>
      if request.wellFormed then
        let ending := finalize storage state.database (finalizeOf executionIdentity caller request)
          state.clock
        some { state with
          database := ending.1
          requests := Rows.replace LeasedRequest.token
            { caller with finalized := caller.finalized || succeeded ending.2 } state.requests }
      else none

end Step

end RequestState

open RequestState

/-! ## Calls of the contract, seen from outside -/

/-- What a call under a token may leave of the tables; `completes` says whether it may
have completed an execution. -/
inductive Touched (database : Database) (leaseToken : Option String) (now : Instant)
    (completes : Prop) : Database → Prop where
  | unchanged : Touched database leaseToken now completes database
  | inserted {request : ExchangeRequest} {decisions : List GovernanceDecisionRecord}
      (absent : ∀ execution ∈ database.executions, execution.executionId ≠ request.executionId)
      (admitted : database.admits request = true) :
      Touched database leaseToken now completes { database.inserted request with decisions }
  | rewritten {after : Database} {executionId : String} {execution next : ChatExecution}
      {assistant written : Message}
      (located : Located database executionId execution assistant)
      (executions : after.executions = Rows.replace ChatExecution.id next database.executions)
      (messages : after.messages = Rows.replace Message.id written database.messages)
      (sameExecution : next.id = execution.id ∧ next.executionId = execution.executionId ∧
        next.idempotencyRecordId = execution.idempotencyRecordId)
      (sameMessage : written.id = assistant.id)
      (completing : next.status = .terminal .completed → completes)
      (entitled : execution.status.isTerminal = false ∨
        ∃ record, LeaseOwner database execution leaseToken now record)
      (table : (after.idempotency = database.idempotency ∧
          (next.status = .terminal .completed → next.idempotencyRecordId = none)) ∨
        ∃ record changed, LeaseOwner database execution leaseToken now record ∧
          changed.id = record.id ∧ changed.identity = record.identity ∧
          changed.leaseToken = record.leaseToken ∧
          after.idempotency = database.idempotency.update changed ∧
          (next.status = .terminal .completed →
            changed.status = .completed ∧ changed.hasReference = true)) :
      Touched database leaseToken now completes after

theorem prepareExchange_touched (storage : Storage) (database : Database) (request : ExchangeRequest)
    (now : Instant) :
    Touched database request.leaseToken now False (prepareExchange storage database request now).1 := by
  have ended := prepareExchange_ending storage database request now
  generalize prepareExchange storage database request now = ending at ended
  cases ended with
  | refused => exact .unchanged
  | exhausted located owner =>
    exact .rewritten located rfl rfl ⟨rfl, rfl, rfl⟩ rfl (fun completed => by cases completed)
      (.inr ⟨_, owner⟩) (.inl ⟨rfl, fun completed => by cases completed⟩)
  | @recovered _ restored _ _ _ _ located _ owner _ recoverable =>
    obtain ⟨⟨code, retryable, same⟩, _⟩ := ChatExecution.recoverable_eq_ok recoverable
    exact .rewritten located rfl rfl (by rw [same]; exact ⟨rfl, rfl, rfl⟩) rfl
      (fun completed => by cases completed) (.inr ⟨_, owner⟩) (.inl ⟨rfl, fun completed => by cases completed⟩)
  | inserted absent admitted => exact .inserted absent admitted

theorem markStreaming_touched (storage : Storage) (database : Database) (executionId : String)
    (leaseToken : Option String) (now : Instant) :
    Touched database leaseToken now False (markStreaming storage database executionId).1 := by
  have ended := markStreaming_ending storage database executionId
  generalize markStreaming storage database executionId = ending at ended
  cases ended with
  | unchanged => exact .unchanged
  | streamed located running =>
    exact .rewritten located rfl rfl ⟨rfl, rfl, rfl⟩ rfl (fun completed => by cases completed)
      (.inl running) (.inl ⟨rfl, fun completed => by cases completed⟩)

theorem assertRecoveryAllowed_touched (storage : Storage) (database : Database) (executionId : String)
    (idempotencyRecordId : Nat) (leaseToken : Option String) (now : Instant) :
    Touched database leaseToken now False
      (assertRecoveryAllowed storage database executionId idempotencyRecordId leaseToken now).1 := by
  have ended := assertRecoveryAllowed_ending storage database executionId idempotencyRecordId
    leaseToken now
  generalize assertRecoveryAllowed storage database executionId idempotencyRecordId leaseToken now =
    ending at ended
  cases ended with
  | unchanged => exact .unchanged
  | @exhausted execution assistant record _ located owner =>
    exact .rewritten located rfl rfl ⟨rfl, rfl, rfl⟩ rfl (fun completed => by cases completed)
      (.inr ⟨_, owner⟩)
      (.inr ⟨record, record.exhausted, owner, rfl, rfl, rfl, rfl, fun completed => by cases completed⟩)

theorem TerminalStatus.parse?_completed {text : String}
    (parsed : TerminalStatus.parse? text = some .completed) : text = "completed" := by
  unfold TerminalStatus.parse? at parsed
  split at parsed
  next same => exact same
  next =>
    split at parsed <;> try contradiction
    split at parsed <;> contradiction

theorem finalize_touched (storage : Storage) (database : Database) (request : FinalizeRequest)
    (now : Instant) (wellFormed : request.wellFormed = true) :
    Touched database request.leaseToken now (succeeded (finalize storage database request now).2 = true)
      (finalize storage database request now).1 := by
  have ended := finalize_ending storage database request now
  generalize finalize storage database request now = ending at ended
  cases ended with
  | unchanged => exact .unchanged
  | @finalized terminal execution _ record _ parsed located running _ owner =>
    rcases owner with ⟨unbound, rfl⟩ | ⟨held, rfl, owner⟩
    · exact .rewritten located rfl rfl ⟨rfl, rfl, rfl⟩ rfl (fun _ => rfl) (.inl running)
        (.inl ⟨rfl, fun _ => unbound⟩)
    · refine .rewritten located rfl rfl ⟨rfl, rfl, rfl⟩ rfl (fun _ => rfl) (.inl running)
        (.inr ⟨held, held.complete request.effectiveStatus request.responseReference, owner, rfl, rfl,
          rfl, rfl, fun completed => ?_⟩)
      have isCompleted : terminal = .completed := ExecutionStatus.terminal.inj completed
      rw [isCompleted] at parsed
      have called := wellFormed
      rw [FinalizeRequest.wellFormed, if_pos (TerminalStatus.parse?_completed parsed)] at called
      simp only [decide_eq_true_eq] at called
      obtain ⟨responseStatus, reference, unfailed⟩ := called
      simp [IdempotencyRecord.complete, IdempotencyRecord.hasReference,
        FinalizeRequest.effectiveStatus, unfailed, responseStatus, reference]

end Eiraos
