import Eiraos.Persistence.Database

/-! # The persistence contract (`application/chat_persistence.py`)

The methods of `ChatPersistenceContract` as functions of the tables.  `now` is the clock
reading of the call, used for the lease checks and the timestamps.
-/

namespace Eiraos

open Guarded

structure PersistedChatExecution where
  executionId : String
  userMessageId : Nat
  assistantMessageId : Nat
  status : ExecutionStatus
  deriving DecidableEq, Repr

/-- The arguments of `prepare_exchange`. -/
structure ExchangeRequest where
  executionId : String
  requestId : String
  conversationId : Nat
  organizationId : Nat
  userId : Nat
  botId : Nat
  botOrganizationId : Nat
  provider : String
  model : String
  prompt : String
  idempotencyRecordId : Option Nat
  estimatedTokens : Int
  estimatedCost : Int
  verification : Bool
  recover : Bool
  leaseToken : Option String
  maxAttempts : Nat
  governanceDecisionId : Option String
  deriving DecidableEq, Repr

/-- The arguments of `finalize`. -/
structure FinalizeRequest where
  executionId : String
  terminalStatus : String
  content : String
  responseStatus : Nat
  responseReference : String
  leaseToken : Option String
  failureCode : Option FailureCode
  accounting : List ExecutionCost
  deriving DecidableEq, Repr

/-! ## Shared checks -/

def assistantOf (database : Database) (execution : ChatExecution) : Except PersistenceError Message :=
  required (.conflict "assistant message binding is invalid") (database.assistant? execution)

def lockedExecution (database : Database) (executionId : String) :
    Except PersistenceError ChatExecution :=
  required (.conflict "execution does not exist") (database.execution? executionId)

def snapshot (execution : ChatExecution) : Except PersistenceError PersistedChatExecution :=
  match execution.userMessageId, execution.assistantMessageId with
  | some userMessageId, some assistantMessageId =>
    .ok ⟨execution.executionId, userMessageId, assistantMessageId, execution.status⟩
  | _, _ => .error (.conflict "execution message binding is incomplete")

/-- The record is processing under this token and its lease has not lapsed. -/
def IdempotencyRecord.ownedBy (record : IdempotencyRecord) (leaseToken : Option String)
    (now : Instant) : Bool :=
  record.status = .processing ∧ record.leaseToken = leaseToken ∧ ¬record.leaseLapsed now

def assertRecoveryOwner (database : Database) (execution : ChatExecution)
    (leaseToken : Option String) (now : Instant) : Except PersistenceError IdempotencyRecord :=
  match execution.idempotencyRecordId, leaseToken with
  | some recordId, some token => do
    let record ← required (.conflict "recovery lease ownership was lost")
      (database.idempotency.selectById? recordId)
    ensure (record.ownedBy (some token) now) (.conflict "recovery lease ownership was lost")
    return record
  | _, _ => .error (.conflict "recovery requires idempotency ownership")

/-- The conditions under which a decision can be bound to the execution. -/
def GovernanceDecisionRecord.bindable (decision : GovernanceDecisionRecord) (executionId : String)
    (organizationId userId : Nat) : Bool :=
  decision.allowed ∧ decision.finalizedAt = none ∧ decision.organizationId = organizationId ∧
    decision.userId = userId ∧ (decision.executionId = none ∨ decision.executionId = some executionId)

def bindGovernanceDecision (database : Database) (decisionId : Option String) (executionId : String)
    (organizationId userId : Nat) : Except PersistenceError Database :=
  match decisionId with
  | none => .ok database
  | some decisionId => do
    let decision ← required (.conflict "governance decision binding is invalid")
      (database.decision? decisionId)
    ensure (decision.bindable executionId organizationId userId)
      (.conflict "governance decision binding is invalid")
    return database.updateDecision { decision with executionId := some executionId }

/-! ## `prepare_exchange` -/

/-- The execution was prepared by a request of the same scope. -/
def ChatExecution.sameScope (existing : ChatExecution) (request : ExchangeRequest) : Bool :=
  existing.organizationId = request.organizationId ∧ existing.userId = request.userId ∧
    existing.conversationId = request.conversationId ∧ existing.botId = request.botId ∧
    existing.botOrganizationId = request.botOrganizationId ∧
    existing.idempotencyRecordId = request.idempotencyRecordId ∧
    existing.provider = request.provider ∧ existing.model = request.model

/-- The overwrite of both retry-exhausted branches. -/
def ChatExecution.exhausted (execution : ChatExecution) (assistant : Message) (now : Instant) :
    ChatExecution :=
  { execution with
    status := .terminal .failed
    lastFailureCode := some .retryExhausted
    failureRetryable := false
    partialResponse := assistant.content ≠ ""
    completedAt := some now }

/-- A running execution is recovered as a crash, a failed one if its failure is retryable. -/
def ChatExecution.recoverable (execution : ChatExecution) : Except PersistenceError ChatExecution :=
  match execution.status with
  -- nobody is left to finalize it
  | .prepared | .streaming =>
    .ok { execution with lastFailureCode := some .processCrash, failureRetryable := true }
  | .terminal .completed => .error (.conflict "execution state is not recoverable")
  -- the failure code of the attempt before stays
  | .terminal _ =>
    if execution.failureRetryable then .ok execution
    else .error (.conflict "execution failure is not retryable")

/-- The next attempt of an execution. -/
def ChatExecution.restarted (execution : ChatExecution) (now : Instant) (audited : Bool) :
    ChatExecution :=
  { execution with
    status := .prepared
    attemptCount := execution.attemptCount + 1
    recoveredAt := some now
    completedAt := none
    partialResponse := false
    governanceAuditRequired := audited || execution.governanceAuditRequired }

def recoverExchange (database : Database) (existing : ChatExecution) (request : ExchangeRequest)
    (now : Instant) : Except PersistenceError (Ending PersistedChatExecution) := do
  ensure (existing.sameScope request) (.conflict "execution identity is bound to another scope")
  ensure request.recover (.conflict "existing execution requires an owned recovery lease")
  let _ ← assertRecoveryOwner database existing request.leaseToken now
  let assistant ← assistantOf database existing
  if existing.maxAttempts ≤ existing.attemptCount then
    -- the failure is committed, and the error raised after it
    return .committed
      ((database.updateExecution (existing.exhausted assistant now)).updateMessage
        { assistant with status := .terminal .failed })
      (.error (.retryLimitExceeded "execution retry limit was reached"))
      "chat persistence is unavailable"
  else
    let recovered ← existing.recoverable
    let usage ← required (.conflict "execution usage binding is invalid")
      (database.reservationUsage? existing)
    let bound ← bindGovernanceDecision database request.governanceDecisionId existing.executionId
      request.organizationId request.userId
    let next := recovered.restarted now request.governanceDecisionId.isSome
    return .committed
      (((bound.updateExecution next).updateMessage
          { assistant with content := "", status := .pending }).updateUsage
        { usage with
          totalTokens := usage.totalTokens + request.estimatedTokens
          estimatedCost := usage.estimatedCost + request.estimatedCost })
      (snapshot next) "chat persistence is unavailable"

def ExchangeRequest.freshExecution (request : ExchangeRequest) (id userMessageId assistantMessageId : Nat) :
    ChatExecution :=
  { id
    executionId := request.executionId
    requestId := request.requestId
    conversationId := request.conversationId
    organizationId := request.organizationId
    userId := request.userId
    botId := request.botId
    botOrganizationId := request.botOrganizationId
    idempotencyRecordId := request.idempotencyRecordId
    userMessageId := some userMessageId
    assistantMessageId := some assistantMessageId
    provider := request.provider
    model := request.model
    status := .prepared
    attemptCount := 1
    maxAttempts := request.maxAttempts
    lastFailureCode := none
    failureRetryable := false
    partialResponse := false
    recoveredAt := none
    governanceAuditRequired := request.governanceDecisionId.isSome
    completedAt := none }

def ExchangeRequest.userMessage (request : ExchangeRequest) (id : Nat) : Message :=
  { id
    conversationId := request.conversationId
    organizationId := request.organizationId
    executionId := request.executionId
    role := .user
    content := request.prompt
    botId := request.botId
    status := .terminal .completed
    aiMarked := false }

def ExchangeRequest.assistantMessage (request : ExchangeRequest) (id : Nat) : Message :=
  { id
    conversationId := request.conversationId
    organizationId := request.organizationId
    executionId := request.executionId
    role := .assistant
    content := ""
    botId := request.botId
    status := .pending
    aiMarked := true }

def ExchangeRequest.reservationUsage (request : ExchangeRequest) (chatExecutionId : Nat) :
    ProviderUsageRecord :=
  { requestId := request.requestId
    executionId := request.executionId
    chatExecutionId
    userId := request.userId
    organizationId := request.organizationId
    provider := request.provider
    model := request.model
    operation := .reservation
    attempt := 1
    usageSource := .reservation
    pricingRevision := none
    inputTokens := 0
    outputTokens := 0
    totalTokens := request.estimatedTokens
    estimatedCost := request.estimatedCost
    actualCost := none
    verification := request.verification }

/-- The constraints between the modelled tables: the foreign key to the idempotency
record, its uniqueness among the executions, and one message for each role. -/
def Database.admits (database : Database) (request : ExchangeRequest) : Bool :=
  (database.messages.all fun message => message.executionId ≠ request.executionId) &&
    match request.idempotencyRecordId with
    | none => true
    | some recordId =>
      (database.idempotency.rows.any fun record =>
        record.id = recordId ∧ record.organizationId = request.organizationId ∧
          record.userId = request.userId) &&
      database.executions.all fun execution => execution.idempotencyRecordId ≠ some recordId

/-- The rows of a fresh exchange, flushed before the decision is bound. -/
def Database.flushed (database : Database) (request : ExchangeRequest) : Database :=
  { database with
    executions := database.executions ++
      [request.freshExecution database.nextExecutionId database.nextMessageId
        (database.nextMessageId + 1)]
    nextExecutionId := database.nextExecutionId + 1
    messages := database.messages ++
      [request.userMessage database.nextMessageId,
        request.assistantMessage (database.nextMessageId + 1)]
    nextMessageId := database.nextMessageId + 2 }

def insertExchange (storage : Storage) (database : Database) (request : ExchangeRequest) :
    Except PersistenceError (Ending PersistedChatExecution) := do
  ensure (storage.flushes ∧ database.admits request)
    (.unavailable "chat execution preparation could not be flushed")
  let bound ← bindGovernanceDecision (database.flushed request) request.governanceDecisionId
    request.executionId request.organizationId request.userId
  return .committed
    { bound with usage := bound.usage ++ [request.reservationUsage database.nextExecutionId] }
    (snapshot (request.freshExecution database.nextExecutionId database.nextMessageId
      (database.nextMessageId + 1)))
    "chat execution preparation could not be committed"

def prepareExchange (storage : Storage) (database : Database) (request : ExchangeRequest)
    (now : Instant) : Database × Except PersistenceError PersistedChatExecution :=
  settle storage database <|
    match database.execution? request.executionId with
    | some existing => recoverExchange database existing request now
    | none => insertExchange storage database request

/-! ## `mark_streaming` -/

def markStreaming (storage : Storage) (database : Database) (executionId : String) :
    Database × Except PersistenceError Bool :=
  settle storage database do
    let execution ← lockedExecution database executionId
    if execution.status.isTerminal then
      return .unchanged false
    else
      let assistant ← assistantOf database execution
      return .committed
        ((database.updateExecution { execution with status := .streaming }).updateMessage
          { assistant with status := .streaming })
        (.ok true) "chat persistence is unavailable"

/-! ## `assert_recovery_allowed` -/

/-- The record of an exhausted execution. -/
def IdempotencyRecord.exhausted (record : IdempotencyRecord) : IdempotencyRecord :=
  { record with
    status := .failed
    responseStatus := some (failurePolicy .retryExhausted).responseStatus
    responseReference := some "failed"
    leaseUntil := none }

def recoveryAllowed (database : Database) (execution : ChatExecution) (idempotencyRecordId : Nat)
    (leaseToken : Option String) (now : Instant) : Except PersistenceError (Ending Unit) := do
  ensure (execution.idempotencyRecordId = some idempotencyRecordId)
    (.conflict "recovery identity is bound to another record")
  let record ← assertRecoveryOwner database execution leaseToken now
  let assistant ← assistantOf database execution
  if execution.maxAttempts ≤ execution.attemptCount then
    return .committed
      (((database.updateExecution (execution.exhausted assistant now)).updateMessage
        { assistant with status := .terminal .failed }).updateRecord record.exhausted)
      (.error (.retryLimitExceeded "execution retry limit was reached"))
      "chat persistence is unavailable"
  else
    ensure (execution.status ≠ .terminal .completed) (.conflict "execution state is not recoverable")
    ensure (execution.status.isTerminal → execution.failureRetryable)
      (.conflict "execution failure is not retryable")
    return .unchanged ()

def assertRecoveryAllowed (storage : Storage) (database : Database) (executionId : String)
    (idempotencyRecordId : Nat) (leaseToken : Option String) (now : Instant) :
    Database × Except PersistenceError Unit :=
  settle storage database <|
    match database.execution? executionId with
    -- nothing was prepared yet, so there is nothing to recover
    | none => .ok (.unchanged ())
    | some execution => recoveryAllowed database execution idempotencyRecordId leaseToken now

/-! ## `finalize` -/

def finalizingRecord (database : Database) (execution : ChatExecution) (leaseToken : Option String)
    (now : Instant) : Except PersistenceError (Option IdempotencyRecord) :=
  match execution.idempotencyRecordId with
  | none => .ok none
  | some recordId => do
    let record ← required (.conflict "idempotency ownership was lost")
      (database.idempotency.selectById? recordId)
    ensure (record.status = .processing ∧ record.leaseToken = leaseToken)
      (.conflict "idempotency ownership was lost")
    ensure (record.leaseLapsed now = false) (.conflict "idempotency lease expired")
    return some record

/-- The ledger row of one accounting entry. -/
def ChatExecution.usageRow (execution : ChatExecution) (entry : ExecutionCost) : ProviderUsageRecord :=
  { requestId := execution.requestId
    executionId := execution.executionId
    chatExecutionId := execution.id
    userId := execution.userId
    organizationId := execution.organizationId
    provider := entry.provider
    model := entry.model
    operation := entry.operation
    attempt := execution.attemptCount
    usageSource := entry.usageSource
    pricingRevision := some entry.pricingRevision
    inputTokens := entry.inputTokens
    outputTokens := entry.outputTokens
    totalTokens := entry.totalTokens
    estimatedCost := 0
    actualCost := some entry.cost
    verification := entry.operation = .verification }

/-- The loop of `_record_accounting`: `operations` is the set of operations seen so far. -/
def recordAccounting (execution : ChatExecution) :
    List Operation → List ProviderUsageRecord → List ExecutionCost →
      Except PersistenceError (List ProviderUsageRecord)
  | _, usage, [] => .ok usage
  | operations, usage, entry :: entries => do
    ensure (entry.operation ∉ operations) (.conflict "duplicate accounting operation")
    ensure (entry.operation = .primary →
        entry.provider = execution.provider ∧ entry.model = execution.model)
      (.conflict "primary accounting binding is invalid")
    ensure (∀ row ∈ usage, row.binding ≠ (execution.usageRow entry).binding)
      (.conflict "execution accounting was already recorded")
    recordAccounting execution (entry.operation :: operations) (usage ++ [execution.usageRow entry])
      entries

/-- The terminal write; a failure code decides the response status. -/
def ChatExecution.finalized (execution : ChatExecution) (terminal : TerminalStatus)
    (request : FinalizeRequest) (now : Instant) : ChatExecution :=
  { execution with
    status := .terminal terminal
    completedAt := some now
    partialResponse := terminal ≠ .completed ∧ request.content ≠ ""
    lastFailureCode := request.failureCode.or execution.lastFailureCode
    failureRetryable :=
      match request.failureCode with
      | some code => (failurePolicy code).retryable
      | none => if terminal = .completed then false else execution.failureRetryable }

def FinalizeRequest.effectiveStatus (request : FinalizeRequest) : Nat :=
  match request.failureCode with
  | some code => (failurePolicy code).responseStatus
  | none => request.responseStatus

/-- The decisions that await the outcome of the execution. -/
def GovernanceDecisionRecord.awaits (decision : GovernanceDecisionRecord) (execution : ChatExecution) :
    Bool :=
  decision.executionId = some execution.executionId ∧
    decision.organizationId = execution.organizationId ∧ decision.allowed ∧ decision.finalizedAt = none

def GovernanceDecisionRecord.resolved (decision : GovernanceDecisionRecord) (terminal : TerminalStatus)
    (request : FinalizeRequest) (now : Instant) : GovernanceDecisionRecord :=
  { decision with
    resultStatus := some terminal.text
    responseStatus := some request.effectiveStatus
    failureCode := request.failureCode
    finalizedAt := some now }

/-- Everything a successful `finalize` writes. -/
def Database.finalized (database : Database) (execution : ChatExecution) (assistant : Message)
    (record : Option IdempotencyRecord) (usage : List ProviderUsageRecord)
    (terminal : TerminalStatus) (request : FinalizeRequest) (now : Instant) : Database :=
  let closed :=
    (database.updateExecution (execution.finalized terminal request now)).updateMessage
      { assistant with status := .terminal terminal, content := request.content }
  let recorded :=
    match record with
    | none => closed
    | some record =>
      closed.updateRecord (record.complete request.effectiveStatus request.responseReference)
  { recorded with
    decisions := database.decisions.map fun decision =>
      if decision.awaits execution then decision.resolved terminal request now else decision
    usage }

def finalizeTerminal (database : Database) (terminal : TerminalStatus) (request : FinalizeRequest)
    (now : Instant) : Except PersistenceError (Ending Bool) := do
  let execution ← lockedExecution database request.executionId
  -- a second `finalize` answers `False` whatever it was called with
  if execution.status.isTerminal then
    return .unchanged false
  else
    ensure (terminal ≠ .completed → request.failureCode.isSome)
      (.valueError "terminal failures require a failure_code")
    let record ← finalizingRecord database execution request.leaseToken now
    let assistant ← assistantOf database execution
    -- the source has changed its objects by now; the rollback undoes that
    ensure (execution.governanceAuditRequired →
        database.decisions.any fun decision => decision.awaits execution)
      (.conflict "governance audit binding is missing")
    let usage ← recordAccounting execution [] database.usage request.accounting
    return .committed (database.finalized execution assistant record usage terminal request now)
      (.ok true) "chat execution finalization could not be committed"

def finalize (storage : Storage) (database : Database) (request : FinalizeRequest) (now : Instant) :
    Database × Except PersistenceError Bool :=
  match TerminalStatus.parse? request.terminalStatus with
  | none => (database, .error (.valueError "terminal_status must be completed, failed or cancelled"))
  | some terminal => settle storage database (finalizeTerminal database terminal request now)

end Eiraos
