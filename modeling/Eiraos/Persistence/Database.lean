import Eiraos.Core.Idempotency
import Eiraos.Foundations.Guarded
import Eiraos.Providers.CostAccounting

/-! # The tables behind one chat exchange

The rows of `chat_executions`, `messages`, `provider_usage_records` and
`governance_decisions` with the columns the persistence contract reads or writes, and the
idempotency ledger they are bound to.  `Message` rows are those of an execution.  A
method of the contract is one transaction: its body either raises, which rolls back,
or ends as an `Ending`, and `settle` says what the caller and the tables are left with.
-/

namespace Eiraos

/-! ## Failure policy (`application/chat_recovery.py`) -/

inductive FailureCode where
  | providerTimeout
  | providerFailure
  | databaseFailure
  | idempotencyLost
  | budgetRejected
  | idempotencyConflict
  | clientCancelled
  | processCrash
  | retryExhausted
  | contextRejected
  deriving DecidableEq, Repr

structure FailurePolicy where
  responseStatus : Nat
  retryable : Bool
  deriving DecidableEq, Repr

def failurePolicy : FailureCode → FailurePolicy
  | .providerTimeout => ⟨504, true⟩
  | .providerFailure => ⟨502, true⟩
  | .databaseFailure => ⟨503, true⟩
  | .idempotencyLost => ⟨409, true⟩
  | .budgetRejected => ⟨429, false⟩
  | .idempotencyConflict => ⟨409, false⟩
  | .clientCancelled => ⟨499, true⟩
  | .processCrash => ⟨500, true⟩
  | .retryExhausted => ⟨409, false⟩
  | .contextRejected => ⟨422, false⟩

/-- No failure is reported to the caller as a success. -/
theorem failurePolicy_not_success (code : FailureCode) :
    ¬(200 ≤ (failurePolicy code).responseStatus ∧ (failurePolicy code).responseStatus < 300) := by
  cases code <;> decide

/-! ## Rows -/

inductive TerminalStatus where
  | completed
  | failed
  | cancelled
  deriving DecidableEq, Repr

/-- The members of `TERMINAL_STATUSES`, by their text. -/
def TerminalStatus.parse? (text : String) : Option TerminalStatus :=
  if text = "completed" then some .completed
  else if text = "failed" then some .failed
  else if text = "cancelled" then some .cancelled
  else none

def TerminalStatus.text : TerminalStatus → String
  | .completed => "completed"
  | .failed => "failed"
  | .cancelled => "cancelled"

inductive ExecutionStatus where
  | prepared
  | streaming
  | terminal (status : TerminalStatus)
  deriving DecidableEq, Repr

inductive MessageStatus where
  | pending
  | streaming
  | terminal (status : TerminalStatus)
  deriving DecidableEq, Repr

inductive Role where
  | user
  | assistant
  deriving DecidableEq, Repr

structure ChatExecution where
  id : Nat
  executionId : String
  requestId : String
  conversationId : Nat
  organizationId : Nat
  userId : Nat
  botId : Nat
  botOrganizationId : Nat
  idempotencyRecordId : Option Nat
  userMessageId : Option Nat
  assistantMessageId : Option Nat
  provider : String
  model : String
  status : ExecutionStatus
  attemptCount : Nat
  maxAttempts : Nat
  lastFailureCode : Option FailureCode
  failureRetryable : Bool
  partialResponse : Bool
  recoveredAt : Option Instant
  governanceAuditRequired : Bool
  completedAt : Option Instant
  deriving DecidableEq, Repr

structure Message where
  id : Nat
  conversationId : Nat
  organizationId : Nat
  executionId : String
  role : Role
  content : String
  botId : Nat
  status : MessageStatus
  aiMarked : Bool
  deriving DecidableEq, Repr

/-- Costs are in quanta, the scale of the columns. -/
structure ProviderUsageRecord where
  requestId : String
  executionId : String
  chatExecutionId : Nat
  userId : Nat
  organizationId : Nat
  provider : String
  model : String
  operation : Operation
  attempt : Nat
  usageSource : UsageSource
  pricingRevision : Option String
  inputTokens : Int
  outputTokens : Int
  totalTokens : Int
  estimatedCost : Int
  actualCost : Option Int
  verification : Bool
  deriving DecidableEq, Repr

structure GovernanceDecisionRecord where
  decisionId : String
  organizationId : Nat
  userId : Nat
  allowed : Bool
  executionId : Option String
  resultStatus : Option String
  responseStatus : Option Nat
  failureCode : Option FailureCode
  finalizedAt : Option Instant
  deriving DecidableEq, Repr

structure Database where
  idempotency : IdempotencyTable
  executions : List ChatExecution
  nextExecutionId : Nat
  messages : List Message
  nextMessageId : Nat
  usage : List ProviderUsageRecord
  decisions : List GovernanceDecisionRecord
  deriving DecidableEq, Repr

def ExecutionStatus.isTerminal : ExecutionStatus → Bool
  | .terminal _ => true
  | _ => false

/-- The columns of `uq_provider_usage_execution_attempt_operation_source`. -/
def ProviderUsageRecord.binding (row : ProviderUsageRecord) : Nat × Nat × Operation × UsageSource :=
  (row.chatExecutionId, row.attempt, row.operation, row.usageSource)

namespace Database

def empty : Database := ⟨⟨[], 0⟩, [], 0, [], 0, [], []⟩

/-! ## Queries -/

def execution? (database : Database) (executionId : String) : Option ChatExecution :=
  database.executions.find? fun execution => execution.executionId = executionId

def assistant? (database : Database) (execution : ChatExecution) : Option Message :=
  database.messages.find? fun message =>
    some message.id = execution.assistantMessageId ∧ message.executionId = execution.executionId ∧
      message.role = .assistant

def reservationUsage? (database : Database) (execution : ChatExecution) : Option ProviderUsageRecord :=
  database.usage.find? fun row =>
    row.chatExecutionId = execution.id ∧ row.usageSource = .reservation

def decision? (database : Database) (decisionId : String) : Option GovernanceDecisionRecord :=
  database.decisions.find? fun decision => decision.decisionId = decisionId

/-! ## Updates -/

def updateExecution (database : Database) (execution : ChatExecution) : Database :=
  { database with executions := Rows.replace ChatExecution.id execution database.executions }

def updateMessage (database : Database) (message : Message) : Database :=
  { database with messages := Rows.replace Message.id message database.messages }

def updateUsage (database : Database) (row : ProviderUsageRecord) : Database :=
  { database with usage := Rows.replace ProviderUsageRecord.binding row database.usage }

def updateDecision (database : Database) (decision : GovernanceDecisionRecord) : Database :=
  { database with
    decisions := Rows.replace GovernanceDecisionRecord.decisionId decision database.decisions }

def updateRecord (database : Database) (record : IdempotencyRecord) : Database :=
  { database with idempotency := database.idempotency.update record }

/-- The ledger after a transaction of its own; the foreign key of the executions is
`ON DELETE SET NULL`. -/
def withIdempotency (database : Database) (table : IdempotencyTable) : Database :=
  { database with
    idempotency := table
    executions := database.executions.map fun execution =>
      { execution with
        idempotencyRecordId := execution.idempotencyRecordId.filter fun recordId =>
          table.rows.any fun record => record.id = recordId } }

end Database

/-! ## Transactions -/

inductive PersistenceError where
  | conflict (text : String)
  | unavailable (text : String)
  | retryLimitExceeded (text : String)
  | valueError (text : String)
  deriving DecidableEq, Repr

/-- How the body of a method ends when it does not raise: nothing was written, or the
transaction is committed and the method then returns or raises; `failure` is the text of
the error when the commit fails. -/
inductive Ending (Result : Type) where
  | unchanged (result : Result)
  | committed (database : Database) (result : Except PersistenceError Result) (failure : String)

/-- What the server does with one call: whether its queries, its flush and its commit
succeed. -/
structure Storage where
  queries : Bool
  flushes : Bool
  commits : Bool
  deriving DecidableEq, Repr

def Storage.available : Storage := ⟨true, true, true⟩

def settle {Result : Type} (storage : Storage) (database : Database)
    (body : Except PersistenceError (Ending Result)) : Database × Except PersistenceError Result :=
  if storage.queries then
    match body with
    | .error error => (database, .error error)
    | .ok (.unchanged result) => (database, .ok result)
    | .ok (.committed after result failure) =>
      if storage.commits then (after, result) else (database, .error (.unavailable failure))
  else (database, .error (.unavailable "chat persistence query failed"))

/-- The tables after a call are those before it, or what its body committed. -/
theorem settle_eq {Result : Type} {storage : Storage} {database after : Database}
    {body : Except PersistenceError (Ending Result)} {result : Except PersistenceError Result}
    (settled : settle storage database body = (after, result)) :
    (after = database ∧ ((∃ error, result = .error error) ∨
        ∃ value, result = .ok value ∧ body = .ok (.unchanged value))) ∨
      ∃ failure, body = .ok (.committed after result failure) := by
  unfold settle at settled
  split at settled
  · split at settled
    next => cases settled; exact .inl ⟨rfl, .inl ⟨_, rfl⟩⟩
    next => cases settled; exact .inl ⟨rfl, .inr ⟨_, rfl, rfl⟩⟩
    next =>
      split at settled
      · cases settled
        exact .inr ⟨_, rfl⟩
      · cases settled
        exact .inl ⟨rfl, .inl ⟨_, rfl⟩⟩
  · cases settled
    exact .inl ⟨rfl, .inl ⟨_, rfl⟩⟩

/-- Without its queries or its commit a call changes nothing. -/
theorem settle_unserved {Result : Type} {storage : Storage} {database : Database}
    (body : Except PersistenceError (Ending Result))
    (unserved : (storage.queries && storage.commits) = false) :
    (settle storage database body).1 = database := by
  generalize settledAs : settle storage database body = ending
  obtain ⟨after, result⟩ := ending
  unfold settle at settledAs
  cases queries : storage.queries with
  | false =>
    rw [queries] at settledAs
    cases settledAs
    rfl
  | true =>
    have uncommitted : storage.commits = false := by simpa [queries] using unserved
    simp only [queries, uncommitted, if_true, Bool.false_eq_true, if_false] at settledAs
    split at settledAs <;> cases settledAs <;> rfl

/-- With them it ends as its body does. -/
theorem settle_served {Result : Type} {storage : Storage} {database after : Database}
    {result : Except PersistenceError Result} {failure : String}
    (served : (storage.queries && storage.commits) = true) :
    settle storage database (.ok (.committed after result failure)) = (after, result) := by
  obtain ⟨queries, commits⟩ := Bool.and_eq_true_iff.mp served
  simp [settle, queries, commits]

end Eiraos
