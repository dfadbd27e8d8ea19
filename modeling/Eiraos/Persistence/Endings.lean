import Eiraos.Core.IdempotencySteps
import Eiraos.Persistence.Contract

/-! # What one call of the persistence contract can do

For each method, the list of its endings with everything the branch checked.  The
invariants of the ledger are case analyses of these.
-/

namespace Eiraos

open Guarded

/-! ## What the queries return -/

/-- The execution of an id and its assistant message, as the methods select them. -/
structure Located (database : Database) (executionId : String) (execution : ChatExecution)
    (assistant : Message) : Prop where
  executionMem : execution ∈ database.executions
  executionId : execution.executionId = executionId
  assistantMem : assistant ∈ database.messages
  assistantId : execution.assistantMessageId = some assistant.id
  assistantExecution : assistant.executionId = execution.executionId
  assistantRole : assistant.role = .assistant

/-- The caller holds a live lease on the record of the execution. -/
structure LeaseOwner (database : Database) (execution : ChatExecution) (leaseToken : Option String)
    (now : Instant) (record : IdempotencyRecord) : Prop where
  recordMem : record ∈ database.idempotency.rows
  bound : execution.idempotencyRecordId = some record.id
  processing : record.status = .processing
  owned : record.leaseToken = leaseToken
  live : record.leaseLapsed now = false

theorem Database.execution?_some {database : Database} {executionId : String}
    {execution : ChatExecution} (found : database.execution? executionId = some execution) :
    execution ∈ database.executions ∧ execution.executionId = executionId :=
  ⟨List.mem_of_find?_eq_some found, by simpa using List.find?_some found⟩

theorem Database.execution?_none {database : Database} {executionId : String}
    (missing : database.execution? executionId = none) :
    ∀ execution ∈ database.executions, execution.executionId ≠ executionId := by
  simpa [Database.execution?, List.find?_eq_none] using missing

theorem located_of_ok {database : Database} {executionId : String} {execution : ChatExecution}
    {assistant : Message} (found : database.execution? executionId = some execution)
    (read : assistantOf database execution = .ok assistant) :
    Located database executionId execution assistant := by
  have selected := required_eq_ok.mp read
  obtain ⟨executionMem, sameId⟩ := Database.execution?_some found
  have bound : some assistant.id = execution.assistantMessageId ∧
      assistant.executionId = execution.executionId ∧ assistant.role = .assistant := by
    simpa using List.find?_some selected
  exact ⟨executionMem, sameId, List.mem_of_find?_eq_some selected, bound.1.symm, bound.2.1, bound.2.2⟩

theorem assertRecoveryOwner_eq_ok {database : Database} {execution : ChatExecution}
    {leaseToken : Option String} {now : Instant} {record : IdempotencyRecord}
    (accepted : assertRecoveryOwner database execution leaseToken now = .ok record) :
    LeaseOwner database execution leaseToken now record ∧ leaseToken ≠ none := by
  unfold assertRecoveryOwner at accepted
  split at accepted
  next recordId token bound =>
    obtain ⟨found, selected, rest⟩ := bind_eq_ok.mp accepted
    obtain ⟨_, owned, returned⟩ := bind_eq_ok.mp rest
    cases pure_eq_ok.mp returned
    obtain ⟨recordMem, sameId⟩ := IdempotencyTable.selectById?_some (required_eq_ok.mp selected)
    have held := ensure_eq_ok.mp owned
    simp only [IdempotencyRecord.ownedBy, decide_eq_true_eq, Bool.not_eq_true] at held
    refine ⟨⟨recordMem, ?_, held.1, held.2.1, held.2.2⟩, by simp⟩
    rw [bound, sameId]
  next => contradiction

theorem finalizingRecord_eq_ok {database : Database} {execution : ChatExecution}
    {leaseToken : Option String} {now : Instant} {record : Option IdempotencyRecord}
    (accepted : finalizingRecord database execution leaseToken now = .ok record) :
    (execution.idempotencyRecordId = none ∧ record = none) ∨
      ∃ held, record = some held ∧ LeaseOwner database execution leaseToken now held := by
  unfold finalizingRecord at accepted
  split at accepted
  next unbound =>
    cases accepted
    exact .inl ⟨unbound, rfl⟩
  next recordId bound =>
    obtain ⟨found, selected, rest⟩ := bind_eq_ok.mp accepted
    obtain ⟨_, owned, rest⟩ := bind_eq_ok.mp rest
    obtain ⟨_, live, returned⟩ := bind_eq_ok.mp rest
    cases pure_eq_ok.mp returned
    obtain ⟨recordMem, sameId⟩ := IdempotencyTable.selectById?_some (required_eq_ok.mp selected)
    obtain ⟨processing, held⟩ := ensure_eq_ok.mp owned
    exact .inr ⟨found, rfl, recordMem, by rw [bound, sameId], processing, held, ensure_eq_ok.mp live⟩

/-- The decisions after one of them was bound to the execution, if one was named. -/
inductive DecisionsBound (decisions : List GovernanceDecisionRecord) (decisionId : Option String)
    (executionId : String) (organizationId userId : Nat) : List GovernanceDecisionRecord → Prop where
  | unrequested (unnamed : decisionId = none) :
      DecisionsBound decisions decisionId executionId organizationId userId decisions
  | bound {decision : GovernanceDecisionRecord} (present : decision ∈ decisions)
      (named : decisionId = some decision.decisionId)
      (bindable : decision.bindable executionId organizationId userId = true) :
      DecisionsBound decisions decisionId executionId organizationId userId
        (Rows.replace GovernanceDecisionRecord.decisionId
          { decision with executionId := some executionId } decisions)

/-- Binding a decision touches the decisions only. -/
theorem bindGovernanceDecision_eq_ok {database bound : Database} {decisionId : Option String}
    {executionId : String} {organizationId userId : Nat}
    (accepted : bindGovernanceDecision database decisionId executionId organizationId userId =
      .ok bound) :
    ∃ decisions, bound = { database with decisions } ∧
      DecisionsBound database.decisions decisionId executionId organizationId userId decisions := by
  unfold bindGovernanceDecision at accepted
  split at accepted
  next =>
    cases accepted
    exact ⟨_, rfl, .unrequested rfl⟩
  next requested =>
    obtain ⟨decision, selected, rest⟩ := bind_eq_ok.mp accepted
    obtain ⟨_, bindable, returned⟩ := bind_eq_ok.mp rest
    cases pure_eq_ok.mp returned
    have found := required_eq_ok.mp selected
    have named : decision.decisionId = requested := by simpa using List.find?_some found
    exact ⟨_, rfl, .bound (List.mem_of_find?_eq_some found) (congrArg some named.symm)
      (ensure_eq_ok.mp bindable)⟩

theorem reservationUsage?_some {database : Database} {execution : ChatExecution}
    {row : ProviderUsageRecord} (found : database.reservationUsage? execution = some row) :
    row ∈ database.usage ∧ row.chatExecutionId = execution.id ∧ row.usageSource = .reservation := by
  refine ⟨List.mem_of_find?_eq_some found, ?_⟩
  simpa using List.find?_some found

/-! ## The tables each branch leaves -/

def Database.exhausted (database : Database) (execution : ChatExecution) (assistant : Message)
    (now : Instant) : Database :=
  (database.updateExecution (execution.exhausted assistant now)).updateMessage
    { assistant with status := .terminal .failed }

def Database.recovered (database : Database) (next : ChatExecution) (assistant : Message)
    (usage : ProviderUsageRecord) (request : ExchangeRequest) : Database :=
  ((database.updateExecution next).updateMessage
      { assistant with content := "", status := .pending }).updateUsage
    { usage with
      totalTokens := usage.totalTokens + request.estimatedTokens
      estimatedCost := usage.estimatedCost + request.estimatedCost }

def Database.inserted (database : Database) (request : ExchangeRequest) : Database :=
  { database.flushed request with
    usage := database.usage ++ [request.reservationUsage database.nextExecutionId] }

def Database.streamed (database : Database) (execution : ChatExecution) (assistant : Message) : Database :=
  (database.updateExecution { execution with status := .streaming }).updateMessage
    { assistant with status := .streaming }

/-! ## The endings -/

/-- The owned recovery of an execution that has no attempt left. -/
structure SpentRecovery (database : Database) (executionId : String) (leaseToken : Option String)
    (now : Instant) (execution : ChatExecution) (assistant : Message) (record : IdempotencyRecord) :
    Prop where
  found : database.execution? executionId = some execution
  accepted : assertRecoveryOwner database execution leaseToken now = .ok record
  read : assistantOf database execution = .ok assistant
  spent : execution.maxAttempts ≤ execution.attemptCount

inductive PrepareEnding (database : Database) (request : ExchangeRequest) (now : Instant) :
    Database × Except PersistenceError PersistedChatExecution → Prop where
  | refused (error : PersistenceError) : PrepareEnding database request now (database, .error error)
  | exhausted {existing : ChatExecution} {assistant : Message} {record : IdempotencyRecord}
      {error : PersistenceError}
      (located : Located database request.executionId existing assistant)
      (owner : LeaseOwner database existing request.leaseToken now record)
      (spent : existing.maxAttempts ≤ existing.attemptCount)
      (recovery : SpentRecovery database request.executionId request.leaseToken now existing assistant
        record)
      (scope : existing.sameScope request = true) (recover : request.recover = true) :
      PrepareEnding database request now (database.exhausted existing assistant now, .error error)
  | recovered {existing next : ChatExecution} {assistant : Message} {record : IdempotencyRecord}
      {usage : ProviderUsageRecord} {decisions : List GovernanceDecisionRecord}
      (located : Located database request.executionId existing assistant)
      (recover : request.recover = true)
      (owner : LeaseOwner database existing request.leaseToken now record)
      (unspent : existing.attemptCount < existing.maxAttempts)
      (recoverable : existing.recoverable = .ok next)
      (reserved : usage ∈ database.usage ∧ usage.chatExecutionId = existing.id ∧
        usage.usageSource = .reservation)
      (scope : existing.sameScope request = true)
      (bound : DecisionsBound database.decisions request.governanceDecisionId existing.executionId
        request.organizationId request.userId decisions) :
      PrepareEnding database request now
        ({ database.recovered (next.restarted now request.governanceDecisionId.isSome) assistant usage
            request with decisions },
          snapshot (next.restarted now request.governanceDecisionId.isSome))
  | inserted {decisions : List GovernanceDecisionRecord}
      (absent : ∀ execution ∈ database.executions, execution.executionId ≠ request.executionId)
      (admitted : database.admits request = true)
      (bound : DecisionsBound database.decisions request.governanceDecisionId request.executionId
        request.organizationId request.userId decisions) :
      PrepareEnding database request now
        ({ database.inserted request with decisions },
          .ok ⟨request.executionId, database.nextMessageId, database.nextMessageId + 1, .prepared⟩)

theorem prepareExchange_ending (storage : Storage) (database : Database) (request : ExchangeRequest)
    (now : Instant) :
    PrepareEnding database request now (prepareExchange storage database request now) := by
  unfold prepareExchange
  generalize settledAs : settle storage database _ = ending
  obtain ⟨after, result⟩ := ending
  rcases settle_eq settledAs with ⟨rfl, ⟨error, rfl⟩ | ⟨value, rfl, unwritten⟩⟩ | ⟨failure, committed⟩
  · exact .refused error
  -- Every path that returns writes, so without a write there is an error.
  · split at unwritten
    next existing found =>
      obtain ⟨_, _, rest⟩ := bind_eq_ok.mp unwritten
      obtain ⟨_, _, rest⟩ := bind_eq_ok.mp rest
      obtain ⟨_, _, rest⟩ := bind_eq_ok.mp rest
      obtain ⟨_, _, rest⟩ := bind_eq_ok.mp rest
      split at rest
      · exact absurd (pure_eq_ok.mp rest) (by simp)
      · obtain ⟨_, _, rest⟩ := bind_eq_ok.mp rest
        obtain ⟨_, _, rest⟩ := bind_eq_ok.mp rest
        obtain ⟨_, _, rest⟩ := bind_eq_ok.mp rest
        exact absurd (pure_eq_ok.mp rest) (by simp)
    next =>
      obtain ⟨_, _, rest⟩ := bind_eq_ok.mp unwritten
      obtain ⟨_, _, rest⟩ := bind_eq_ok.mp rest
      exact absurd (pure_eq_ok.mp rest) (by simp)
  · split at committed
    next existing found =>
      obtain ⟨_, scope, rest⟩ := bind_eq_ok.mp committed
      obtain ⟨_, recover, rest⟩ := bind_eq_ok.mp rest
      obtain ⟨record, accepted, rest⟩ := bind_eq_ok.mp rest
      obtain ⟨assistant, read, rest⟩ := bind_eq_ok.mp rest
      have located := located_of_ok found read
      have owner := (assertRecoveryOwner_eq_ok accepted).1
      split at rest
      -- The exhaustion is committed although the call then raises.
      next spent =>
        cases pure_eq_ok.mp rest
        exact .exhausted located owner spent ⟨found, accepted, read, spent⟩ (ensure_eq_ok.mp scope)
          (ensure_eq_ok.mp recover)
      next unspent =>
        obtain ⟨next, recoverable, rest⟩ := bind_eq_ok.mp rest
        obtain ⟨usage, reserved, rest⟩ := bind_eq_ok.mp rest
        obtain ⟨bound, accepted, rest⟩ := bind_eq_ok.mp rest
        obtain ⟨decisions, rfl, decided⟩ := bindGovernanceDecision_eq_ok accepted
        cases pure_eq_ok.mp rest
        exact .recovered located (ensure_eq_ok.mp recover) owner (Nat.lt_of_not_le unspent) recoverable
          (reservationUsage?_some (required_eq_ok.mp reserved)) (ensure_eq_ok.mp scope) decided
    next missing =>
      obtain ⟨_, admitted, rest⟩ := bind_eq_ok.mp committed
      obtain ⟨bound, accepted, rest⟩ := bind_eq_ok.mp rest
      obtain ⟨decisions, rfl, decided⟩ := bindGovernanceDecision_eq_ok accepted
      cases pure_eq_ok.mp rest
      exact .inserted (Database.execution?_none missing) (ensure_eq_ok.mp admitted).2 decided

inductive MarkEnding (database : Database) (executionId : String) :
    Database × Except PersistenceError Bool → Prop where
  | unchanged (result : Except PersistenceError Bool) : MarkEnding database executionId (database, result)
  | streamed {execution : ChatExecution} {assistant : Message}
      (located : Located database executionId execution assistant)
      (running : execution.status.isTerminal = false) :
      MarkEnding database executionId (database.streamed execution assistant, .ok true)

theorem markStreaming_ending (storage : Storage) (database : Database) (executionId : String) :
    MarkEnding database executionId (markStreaming storage database executionId) := by
  unfold markStreaming
  generalize settledAs : settle storage database _ = ending
  obtain ⟨after, result⟩ := ending
  rcases settle_eq settledAs with ⟨rfl, _⟩ | ⟨failure, committed⟩
  · exact .unchanged result
  · obtain ⟨execution, found, rest⟩ := bind_eq_ok.mp committed
    split at rest
    · exact absurd (pure_eq_ok.mp rest) (by simp)
    next running =>
      obtain ⟨assistant, read, rest⟩ := bind_eq_ok.mp rest
      cases pure_eq_ok.mp rest
      exact .streamed (located_of_ok (required_eq_ok.mp found) read) (by simpa using running)

inductive RecoveryEnding (database : Database) (executionId : String) (leaseToken : Option String)
    (now : Instant) : Database × Except PersistenceError Unit → Prop where
  | unchanged (result : Except PersistenceError Unit) :
      RecoveryEnding database executionId leaseToken now (database, result)
  | exhausted {execution : ChatExecution} {assistant : Message} {record : IdempotencyRecord}
      {error : PersistenceError}
      (located : Located database executionId execution assistant)
      (owner : LeaseOwner database execution leaseToken now record)
      (spent : execution.maxAttempts ≤ execution.attemptCount)
      (recovery : SpentRecovery database executionId leaseToken now execution assistant record) :
      RecoveryEnding database executionId leaseToken now
        ((database.exhausted execution assistant now).updateRecord record.exhausted, .error error)

theorem assertRecoveryAllowed_ending (storage : Storage) (database : Database) (executionId : String)
    (idempotencyRecordId : Nat) (leaseToken : Option String) (now : Instant) :
    RecoveryEnding database executionId leaseToken now
      (assertRecoveryAllowed storage database executionId idempotencyRecordId leaseToken now) := by
  unfold assertRecoveryAllowed
  generalize settledAs : settle storage database _ = ending
  obtain ⟨after, result⟩ := ending
  rcases settle_eq settledAs with ⟨rfl, _⟩ | ⟨failure, committed⟩
  · exact .unchanged result
  · split at committed
    · exact absurd (Except.ok.inj committed) (by simp)
    next execution found =>
      obtain ⟨_, _, rest⟩ := bind_eq_ok.mp committed
      obtain ⟨record, accepted, rest⟩ := bind_eq_ok.mp rest
      obtain ⟨assistant, read, rest⟩ := bind_eq_ok.mp rest
      split at rest
      next spent =>
        cases pure_eq_ok.mp rest
        exact .exhausted (located_of_ok found read) (assertRecoveryOwner_eq_ok accepted).1 spent
          ⟨found, accepted, read, spent⟩
      next =>
        obtain ⟨_, _, rest⟩ := bind_eq_ok.mp rest
        obtain ⟨_, _, rest⟩ := bind_eq_ok.mp rest
        exact absurd (pure_eq_ok.mp rest) (by simp)

inductive FinalizeEnding (database : Database) (request : FinalizeRequest) (now : Instant) :
    Database × Except PersistenceError Bool → Prop where
  | unchanged {result : Except PersistenceError Bool} (unfinished : result ≠ .ok true) :
      FinalizeEnding database request now (database, result)
  | finalized {terminal : TerminalStatus} {execution : ChatExecution} {assistant : Message}
      {record : Option IdempotencyRecord} {usage : List ProviderUsageRecord}
      (parsed : TerminalStatus.parse? request.terminalStatus = some terminal)
      (located : Located database request.executionId execution assistant)
      (running : execution.status.isTerminal = false)
      (explained : terminal ≠ .completed → request.failureCode.isSome = true)
      (owner : (execution.idempotencyRecordId = none ∧ record = none) ∨
        ∃ held, record = some held ∧ LeaseOwner database execution request.leaseToken now held)
      (accounted : recordAccounting execution [] database.usage request.accounting = .ok usage) :
      FinalizeEnding database request now
        (database.finalized execution assistant record usage terminal request now, .ok true)

theorem finalize_ending (storage : Storage) (database : Database) (request : FinalizeRequest)
    (now : Instant) : FinalizeEnding database request now (finalize storage database request now) := by
  unfold finalize
  split
  · exact .unchanged (by simp)
  next terminal parsed =>
    generalize settledAs : settle storage database _ = ending
    obtain ⟨after, result⟩ := ending
    rcases settle_eq settledAs with ⟨rfl, ⟨error, rfl⟩ | ⟨value, rfl, unwritten⟩⟩ | ⟨failure, committed⟩
    · exact .unchanged (by simp)
    · obtain ⟨execution, _, rest⟩ := bind_eq_ok.mp unwritten
      split at rest
      · cases pure_eq_ok.mp rest
        exact .unchanged (by simp)
      · obtain ⟨_, _, rest⟩ := bind_eq_ok.mp rest
        obtain ⟨_, _, rest⟩ := bind_eq_ok.mp rest
        obtain ⟨_, _, rest⟩ := bind_eq_ok.mp rest
        obtain ⟨_, _, rest⟩ := bind_eq_ok.mp rest
        obtain ⟨_, _, rest⟩ := bind_eq_ok.mp rest
        exact absurd (pure_eq_ok.mp rest) (by simp)
    · obtain ⟨execution, found, rest⟩ := bind_eq_ok.mp committed
      split at rest
      · exact absurd (pure_eq_ok.mp rest) (by simp)
      next running =>
        obtain ⟨_, explained, rest⟩ := bind_eq_ok.mp rest
        obtain ⟨record, accepted, rest⟩ := bind_eq_ok.mp rest
        obtain ⟨assistant, read, rest⟩ := bind_eq_ok.mp rest
        obtain ⟨_, _, rest⟩ := bind_eq_ok.mp rest
        obtain ⟨usage, accounted, rest⟩ := bind_eq_ok.mp rest
        cases pure_eq_ok.mp rest
        exact .finalized parsed (located_of_ok (required_eq_ok.mp found) read) (by simpa using running)
          (ensure_eq_ok.mp explained) (finalizingRecord_eq_ok accepted) accounted

/-- A `finalize` that returns leaves the execution in a terminal status. -/
theorem finalize_closes {storage : Storage} {database after : Database} {request : FinalizeRequest}
    {now : Instant} {done : Bool} (finalized : finalize storage database request now = (after, .ok done)) :
    ∃ execution, after.execution? request.executionId = some execution ∧
      execution.status.isTerminal = true := by
  unfold finalize at finalized
  split at finalized
  next => cases finalized
  next terminal parsed =>
    rcases settle_eq finalized with ⟨rfl, ⟨_, raised⟩ | ⟨value, _, unwritten⟩⟩ | ⟨failure, committed⟩
    · cases raised
    · obtain ⟨execution, selected, rest⟩ := bind_eq_ok.mp unwritten
      split at rest
      next closed => exact ⟨execution, required_eq_ok.mp selected, closed⟩
      next =>
        obtain ⟨_, _, rest⟩ := bind_eq_ok.mp rest
        obtain ⟨_, _, rest⟩ := bind_eq_ok.mp rest
        obtain ⟨_, _, rest⟩ := bind_eq_ok.mp rest
        obtain ⟨_, _, rest⟩ := bind_eq_ok.mp rest
        obtain ⟨_, _, rest⟩ := bind_eq_ok.mp rest
        cases rest
    · obtain ⟨execution, selected, rest⟩ := bind_eq_ok.mp committed
      have found := required_eq_ok.mp selected
      split at rest
      next => cases rest
      next =>
        obtain ⟨_, _, rest⟩ := bind_eq_ok.mp rest
        obtain ⟨record, _, rest⟩ := bind_eq_ok.mp rest
        obtain ⟨_, _, rest⟩ := bind_eq_ok.mp rest
        obtain ⟨_, _, rest⟩ := bind_eq_ok.mp rest
        obtain ⟨_, _, rest⟩ := bind_eq_ok.mp rest
        cases rest
        have named := List.find?_some found
        refine ⟨execution.finalized terminal request now, ?_, rfl⟩
        cases record <;> exact Rows.find?_replace found rfl named

/-! ## Accounting -/

/-- The rows `_record_accounting` adds: one for each entry, with distinct operations, none
of which is on the ledger already. -/
theorem recordAccounting_eq_ok {execution : ChatExecution} {operations : List Operation}
    {usage recorded : List ProviderUsageRecord} {entries : List ExecutionCost}
    (accepted : recordAccounting execution operations usage entries = .ok recorded) :
    recorded = usage ++ entries.map execution.usageRow ∧
      (entries.map ExecutionCost.operation).Nodup ∧
      (∀ entry ∈ entries, entry.operation ∉ operations) ∧
      ∀ entry ∈ entries, entry.operation = .primary →
        entry.provider = execution.provider ∧ entry.model = execution.model := by
  induction entries generalizing operations usage with
  | nil =>
    cases accepted
    simp
  | cons entry entries inductionHypothesis =>
    obtain ⟨_, fresh, rest⟩ := bind_eq_ok.mp accepted
    obtain ⟨_, bound, rest⟩ := bind_eq_ok.mp rest
    obtain ⟨_, _, rest⟩ := bind_eq_ok.mp rest
    obtain ⟨rows, distinct, later, boundLater⟩ := inductionHypothesis rest
    refine ⟨by simp [rows], ?_, ?_, ?_⟩
    · rw [List.map_cons, List.nodup_cons]
      refine ⟨fun repeated => ?_, distinct⟩
      obtain ⟨other, otherMem, same⟩ := List.mem_map.mp repeated
      exact later other otherMem (by simp [same])
    · intro other otherMem
      rcases List.mem_cons.mp otherMem with rfl | otherMem
      · exact ensure_eq_ok.mp fresh
      · exact fun seen => later other otherMem (List.mem_cons_of_mem _ seen)
    · intro other otherMem
      rcases List.mem_cons.mp otherMem with rfl | otherMem
      · exact ensure_eq_ok.mp bound
      · exact boundLater other otherMem

end Eiraos
