import Eiraos.Persistence.Requests

/-! # Governance evidence (`application/governance_audit.py`)

Decisions are recorded, bound to an execution by `prepare_exchange` and closed by
`finalize`, while the idempotency table changes arbitrarily in between.  The decisions of
an attempt that crashed stay bound and open until a later call closes them.
-/

namespace Eiraos

open Guarded

/-! ## The audit trail -/

/-- A denied decision is terminal from the start. -/
def GovernanceDecisionRecord.recorded (decisionId : String) (organizationId userId : Nat)
    (allowed : Bool) (now : Instant) : GovernanceDecisionRecord :=
  { decisionId
    organizationId
    userId
    allowed
    executionId := none
    resultStatus := if allowed then none else some "denied"
    responseStatus := if allowed then none else some 403
    failureCode := none
    finalizedAt := if allowed then none else some now }

/-- `record_provider_decision`; `decisionId` is the generated id, unique in the table. The
error is the text of the `GovernanceAuditUnavailable`. -/
def recordProviderDecision (storage : Storage) (database : Database) (decisionId : String)
    (organizationId userId : Nat) (allowed : Bool) (now : Instant) : Database × Except String String :=
  if storage.commits ∧ ∀ decision ∈ database.decisions, decision.decisionId ≠ decisionId then
    ({ database with
        decisions := database.decisions ++ [.recorded decisionId organizationId userId allowed now] },
      .ok decisionId)
  else (database, .error "governance decision could not be persisted")

def GovernanceDecisionRecord.reported (decision : GovernanceDecisionRecord) (resultStatus : String)
    (responseStatus : Nat) (failureCode : Option FailureCode) (now : Instant) :
    GovernanceDecisionRecord :=
  { decision with
    resultStatus := some resultStatus
    responseStatus := some responseStatus
    failureCode
    finalizedAt := some now }

/-- `record_result`: the first result of a decision stays. -/
def recordResult (storage : Storage) (database : Database) (decisionId resultStatus : String)
    (responseStatus : Nat) (failureCode : Option FailureCode) (now : Instant) :
    Database × Except String Unit :=
  if storage.queries then
    match database.decision? decisionId with
    | none => (database, .error "governance decision result binding is invalid")
    | some decision =>
      if decision.allowed = false then
        (database, .error "governance decision result binding is invalid")
      else if decision.finalizedAt ≠ none then (database, .ok ())
      else if storage.commits then
        (database.updateDecision (decision.reported resultStatus responseStatus failureCode now), .ok ())
      else (database, .error "governance result could not be persisted")
  else (database, .error "governance result could not be persisted")

theorem recordProviderDecision_cases (storage : Storage) (database : Database) (decisionId : String)
    (organizationId userId : Nat) (allowed : Bool) (now : Instant) :
    (recordProviderDecision storage database decisionId organizationId userId allowed now).1 = database ∨
      (∀ decision ∈ database.decisions, decision.decisionId ≠ decisionId) ∧
        (recordProviderDecision storage database decisionId organizationId userId allowed now).1 =
          { database with
            decisions := database.decisions ++
              [.recorded decisionId organizationId userId allowed now] } := by
  unfold recordProviderDecision
  split
  next fresh => exact .inr ⟨fresh.2, rfl⟩
  next => exact .inl rfl

/-- The one write is to an allowed decision without a result. -/
theorem recordResult_cases (storage : Storage) (database : Database) (decisionId resultStatus : String)
    (responseStatus : Nat) (failureCode : Option FailureCode) (now : Instant) :
    (recordResult storage database decisionId resultStatus responseStatus failureCode now).1 = database ∨
      ∃ decision ∈ database.decisions, decision.decisionId = decisionId ∧ decision.allowed = true ∧
        decision.finalizedAt = none ∧
        (recordResult storage database decisionId resultStatus responseStatus failureCode now).1 =
          database.updateDecision (decision.reported resultStatus responseStatus failureCode now) := by
  unfold recordResult
  split
  · split
    · exact .inl rfl
    next decision selected =>
      have named : decision.decisionId = decisionId := by simpa using List.find?_some selected
      have present := List.mem_of_find?_eq_some selected
      split
      · exact .inl rfl
      next allowed =>
        split
        · exact .inl rfl
        next unfinalized =>
          split
          · exact .inr ⟨decision, present, named, by simpa using allowed, by simpa using unfinalized, rfl⟩
          · exact .inl rfl
  · exact .inl rfl

/-! ## The system -/

structure GovernanceState where
  database : Database
  clock : Instant
  deriving DecidableEq, Repr

inductive GovernanceLabel where
  | tick (elapsed : Nat)
  | recordProviderDecision (storage : Storage) (decisionId : String) (organizationId userId : Nat)
      (allowed : Bool)
  | recordResult (storage : Storage) (decisionId resultStatus : String) (responseStatus : Nat)
      (failureCode : Option FailureCode)
  | prepareExchange (storage : Storage) (request : ExchangeRequest)
  | markStreaming (storage : Storage) (executionId : String)
  | assertRecoveryAllowed (storage : Storage) (executionId : String) (idempotencyRecordId : Nat)
      (leaseToken : Option String)
  | finalize (storage : Storage) (request : FinalizeRequest)
  | leaseChange (table : IdempotencyTable)
  deriving DecidableEq, Repr

namespace GovernanceState

def initial (clock : Instant) : GovernanceState := ⟨Database.empty, clock⟩

/-- The tables after one transaction; a crash is a call that never comes. -/
def next (state : GovernanceState) : GovernanceLabel → GovernanceState
  | .tick elapsed => { state with clock := state.clock + elapsed }
  | .recordProviderDecision storage decisionId organizationId userId allowed =>
    { state with
      database := (Eiraos.recordProviderDecision storage state.database decisionId organizationId userId
        allowed state.clock).1 }
  | .recordResult storage decisionId resultStatus responseStatus failureCode =>
    { state with
      database := (Eiraos.recordResult storage state.database decisionId resultStatus responseStatus
        failureCode state.clock).1 }
  | .prepareExchange storage request =>
    { state with database := (Eiraos.prepareExchange storage state.database request state.clock).1 }
  | .markStreaming storage executionId =>
    { state with database := (Eiraos.markStreaming storage state.database executionId).1 }
  | .assertRecoveryAllowed storage executionId idempotencyRecordId leaseToken =>
    { state with
      database := (Eiraos.assertRecoveryAllowed storage state.database executionId idempotencyRecordId
        leaseToken state.clock).1 }
  | .finalize storage request =>
    { state with database := (Eiraos.finalize storage state.database request state.clock).1 }
  | .leaseChange table => { state with database := state.database.withIdempotency table }

def step (state : GovernanceState) (label : GovernanceLabel) : Option GovernanceState :=
  some (state.next label)

end GovernanceState

/-! ## Evidence -/

/-- If the execution is terminal, every allowed decision bound to it is finalized. -/
def Evidenced (decisions : List GovernanceDecisionRecord) (execution : ChatExecution) : Prop :=
  execution.status.isTerminal = true → ∀ decision ∈ decisions,
    decision.executionId = some execution.executionId → decision.allowed = true →
      decision.finalizedAt ≠ none

/-- Execution results and governance evidence are terminal together. -/
def EvidenceClosed (database : Database) : Prop :=
  ∀ execution ∈ database.executions, Evidenced database.decisions execution

/-- Some decision of the execution still waits for its outcome. -/
def Database.awaited (database : Database) (execution : ChatExecution) : Bool :=
  database.decisions.any fun decision => decision.awaits execution

/-- The execution whose owned recovery finds no attempt left. -/
def Database.spentRecovery? (database : Database) (executionId : String) (leaseToken : Option String)
    (now : Instant) : Option ChatExecution :=
  (database.execution? executionId).filter fun execution =>
    (assertRecoveryOwner database execution leaseToken now).isOk &&
      (assistantOf database execution).isOk &&
      decide (execution.maxAttempts ≤ execution.attemptCount)

/-- The call is going to exhaust an execution while a decision still waits for it. -/
def GovernanceState.strands (state : GovernanceState) : GovernanceLabel → Bool
  | .prepareExchange storage request =>
    storage.queries && storage.commits &&
      (state.database.spentRecovery? request.executionId request.leaseToken state.clock).any
        fun existing => existing.sameScope request && request.recover && state.database.awaited existing
  | .assertRecoveryAllowed storage executionId idempotencyRecordId leaseToken =>
    storage.queries && storage.commits &&
      (state.database.spentRecovery? executionId leaseToken state.clock).any fun execution =>
        decide (execution.idempotencyRecordId = some idempotencyRecordId) &&
          state.database.awaited execution
  | _ => false

/-! ## The invariant -/

structure EvidenceInvariant (executions : List ChatExecution) (nextExecutionId : Nat)
    (decisions : List GovernanceDecisionRecord) : Prop where
  ids : Rows.Unique ChatExecution.id executions
  executionIds : Rows.Unique ChatExecution.executionId executions
  bounded : ∀ execution ∈ executions, execution.id < nextExecutionId
  decisionIds : Rows.Unique GovernanceDecisionRecord.decisionId decisions
  bound : ∀ decision ∈ decisions, ∀ executionId, decision.executionId = some executionId →
    ∃ execution ∈ executions, execution.executionId = executionId ∧
      execution.organizationId = decision.organizationId
  evidenced : ∀ execution ∈ executions, Evidenced decisions execution

def GovernanceInvariant (state : GovernanceState) : Prop :=
  EvidenceInvariant state.database.executions state.database.nextExecutionId state.database.decisions

theorem governanceInvariant_initial (clock : Instant) :
    GovernanceInvariant (GovernanceState.initial clock) where
  ids := List.nodup_nil
  executionIds := List.nodup_nil
  bounded := fun _ member => nomatch member
  decisionIds := List.nodup_nil
  bound := fun _ member => nomatch member
  evidenced := fun _ member => nomatch member

section Writes

variable {executions : List ChatExecution} {nextExecutionId : Nat}
  {decisions : List GovernanceDecisionRecord} {execution : ChatExecution}

/-- `finalize` finds every open decision of the execution: the tenants agree. -/
theorem EvidenceInvariant.awaits (invariant : EvidenceInvariant executions nextExecutionId decisions)
    (present : execution ∈ executions) {decision : GovernanceDecisionRecord}
    (member : decision ∈ decisions) (bound : decision.executionId = some execution.executionId)
    (allowed : decision.allowed = true) (unfinalized : decision.finalizedAt = none) :
    decision.awaits execution = true := by
  obtain ⟨other, otherMem, sameId, sameOrganization⟩ := invariant.bound decision member _ bound
  obtain rfl : other = execution := invariant.executionIds.eq otherMem present sameId
  simp [GovernanceDecisionRecord.awaits, bound, sameOrganization, allowed, unfinalized]

/-- An execution no decision waits for is evidenced whatever its status. -/
theorem EvidenceInvariant.evidenced_of_unawaited
    (invariant : EvidenceInvariant executions nextExecutionId decisions)
    (present : execution ∈ executions)
    (unawaited : ∀ decision ∈ decisions, decision.awaits execution = false) (next : ChatExecution)
    (same : next.executionId = execution.executionId) : Evidenced decisions next := by
  intro _ decision member bound allowed unfinalized
  have awaits := invariant.awaits present member (bound.trans (congrArg some same)) allowed unfinalized
  rw [unawaited decision member] at awaits
  contradiction

theorem evidenced_of_running {execution : ChatExecution} (running : execution.status.isTerminal = false) :
    Evidenced decisions execution := by
  intro terminal
  rw [running] at terminal
  contradiction

/-- One execution is rewritten. -/
theorem EvidenceInvariant.rewrite (invariant : EvidenceInvariant executions nextExecutionId decisions)
    (present : execution ∈ executions) (next : ChatExecution)
    (same : next.id = execution.id ∧ next.executionId = execution.executionId ∧
      next.organizationId = execution.organizationId)
    (evidenced : Evidenced decisions next) :
    EvidenceInvariant (Rows.replace ChatExecution.id next executions) nextExecutionId decisions := by
  have isExecution : ∀ other ∈ executions, other.id = next.id → other = execution :=
    fun other otherMem sameId => invariant.ids.eq otherMem present (sameId.trans same.1)
  constructor
  · exact invariant.ids.replace fun _ _ sameId => sameId
  · refine invariant.executionIds.replace fun other otherMem sameId => ?_
    rw [isExecution other otherMem sameId, same.2.1]
  · intro other member
    rcases Rows.mem_replace.mp member with ⟨rfl, _⟩ | ⟨otherMem, _⟩
    · rw [same.1]
      exact invariant.bounded execution present
    · exact invariant.bounded other otherMem
  · exact invariant.decisionIds
  · intro decision member executionId bound
    obtain ⟨other, otherMem, otherId, organization⟩ := invariant.bound decision member executionId bound
    by_cases rewritten : other.id = next.id
    · obtain rfl := isExecution other otherMem rewritten
      exact ⟨next, Rows.mem_replace_self otherMem rewritten, same.2.1.trans otherId,
        same.2.2.trans organization⟩
    · exact ⟨other, Rows.mem_replace_of_ne otherMem rewritten, otherId, organization⟩
  · exact Rows.forall_replace evidenced invariant.evidenced

theorem EvidenceInvariant.insert (invariant : EvidenceInvariant executions nextExecutionId decisions)
    (execution : ChatExecution)
    (absent : ∀ other ∈ executions, other.executionId ≠ execution.executionId)
    (fresh : execution.id = nextExecutionId) (running : execution.status.isTerminal = false) :
    EvidenceInvariant (executions ++ [execution]) (nextExecutionId + 1) decisions := by
  constructor
  · refine invariant.ids.append fun other member same => ?_
    exact Nat.ne_of_lt (invariant.bounded other member) (same.trans fresh)
  · exact invariant.executionIds.append absent
  · intro other member
    rcases List.mem_append.mp member with member | member
    · exact Nat.lt_succ_of_lt (invariant.bounded other member)
    · rw [List.mem_singleton.mp member, fresh]
      exact Nat.lt_succ_self _
  · exact invariant.decisionIds
  · intro decision member executionId bound
    obtain ⟨other, otherMem, agrees⟩ := invariant.bound decision member executionId bound
    exact ⟨other, List.mem_append_left _ otherMem, agrees⟩
  · intro other member
    rcases List.mem_append.mp member with member | member
    · exact invariant.evidenced other member
    · rw [List.mem_singleton.mp member]
      exact evidenced_of_running running

/-- Decisions are rewritten; what is finalized stays finalized. -/
theorem EvidenceInvariant.resolve (invariant : EvidenceInvariant executions nextExecutionId decisions)
    (write : GovernanceDecisionRecord → GovernanceDecisionRecord)
    (same : ∀ decision ∈ decisions, (write decision).decisionId = decision.decisionId ∧
      (write decision).executionId = decision.executionId ∧
      (write decision).organizationId = decision.organizationId ∧
      (write decision).allowed = decision.allowed)
    (finalized : ∀ decision ∈ decisions, decision.finalizedAt ≠ none →
      (write decision).finalizedAt ≠ none) :
    EvidenceInvariant executions nextExecutionId (decisions.map write) := by
  constructor
  · exact invariant.ids
  · exact invariant.executionIds
  · exact invariant.bounded
  · have unchanged : (decisions.map write).map GovernanceDecisionRecord.decisionId =
        decisions.map GovernanceDecisionRecord.decisionId := by
      rw [List.map_map]
      exact List.map_congr_left fun decision member => (same decision member).1
    unfold Rows.Unique
    rw [unchanged]
    exact invariant.decisionIds
  · intro _ member executionId bound
    obtain ⟨decision, decisionMem, rfl⟩ := List.mem_map.mp member
    obtain ⟨_, sameExecution, sameOrganization, _⟩ := same decision decisionMem
    rw [sameOrganization]
    exact invariant.bound decision decisionMem executionId (sameExecution.symm.trans bound)
  · intro execution present terminal _ member bound allowed
    obtain ⟨decision, decisionMem, rfl⟩ := List.mem_map.mp member
    obtain ⟨_, sameExecution, _, sameAllowed⟩ := same decision decisionMem
    exact finalized decision decisionMem (invariant.evidenced execution present terminal decision
      decisionMem (sameExecution.symm.trans bound) (sameAllowed.symm.trans allowed))

/-- A decision is bound to an execution that is running again. -/
theorem EvidenceInvariant.bind (invariant : EvidenceInvariant executions nextExecutionId decisions)
    (present : execution ∈ executions) (running : execution.status.isTerminal = false)
    (decisionId : Option String) (userId : Nat) {after : List GovernanceDecisionRecord}
    (bound : DecisionsBound decisions decisionId execution.executionId execution.organizationId userId
      after) :
    EvidenceInvariant executions nextExecutionId after := by
  cases bound with
  | unrequested => exact invariant
  | @bound decision decisionMem _ bindable =>
    simp only [GovernanceDecisionRecord.bindable, decide_eq_true_eq] at bindable
    constructor
    · exact invariant.ids
    · exact invariant.executionIds
    · exact invariant.bounded
    · exact invariant.decisionIds.replace fun _ _ sameId => sameId
    · intro other member executionId bound
      rcases Rows.mem_replace.mp member with ⟨rfl, _⟩ | ⟨otherMem, _⟩
      · cases bound
        exact ⟨execution, present, rfl, bindable.2.2.1.symm⟩
      · exact invariant.bound other otherMem executionId bound
    · intro target targetMem terminal other member bound
      rcases Rows.mem_replace.mp member with ⟨rfl, _⟩ | ⟨otherMem, _⟩
      · have sameTarget : target = execution :=
          invariant.executionIds.eq targetMem present (Option.some.inj bound).symm
        rw [sameTarget, running] at terminal
        contradiction
      · exact invariant.evidenced target targetMem terminal other otherMem bound

theorem EvidenceInvariant.record (invariant : EvidenceInvariant executions nextExecutionId decisions)
    (decision : GovernanceDecisionRecord)
    (fresh : ∀ other ∈ decisions, other.decisionId ≠ decision.decisionId)
    (unbound : decision.executionId = none) :
    EvidenceInvariant executions nextExecutionId (decisions ++ [decision]) where
  ids := invariant.ids
  executionIds := invariant.executionIds
  bounded := invariant.bounded
  decisionIds := invariant.decisionIds.append fresh
  bound := by
    intro other member executionId bound
    rcases List.mem_append.mp member with member | member
    · exact invariant.bound other member executionId bound
    · rw [List.mem_singleton.mp member, unbound] at bound
      contradiction
  evidenced := by
    intro execution present terminal other member bound
    rcases List.mem_append.mp member with member | member
    · exact invariant.evidenced execution present terminal other member bound
    · rw [List.mem_singleton.mp member, unbound] at bound
      contradiction

/-- An execution that loses its record keeps its evidence. -/
theorem EvidenceInvariant.unlink (invariant : EvidenceInvariant executions nextExecutionId decisions)
    (recordOf : ChatExecution → Option Nat) :
    EvidenceInvariant
      (executions.map fun execution => { execution with idempotencyRecordId := recordOf execution })
      nextExecutionId decisions := by
  constructor
  · simpa [Rows.Unique, List.map_map, Function.comp_def] using invariant.ids
  · simpa [Rows.Unique, List.map_map, Function.comp_def] using invariant.executionIds
  · intro _ member
    obtain ⟨execution, present, rfl⟩ := List.mem_map.mp member
    exact invariant.bounded execution present
  · exact invariant.decisionIds
  · intro decision member executionId bound
    obtain ⟨execution, present, agrees⟩ := invariant.bound decision member executionId bound
    exact ⟨_, List.mem_map_of_mem present, agrees⟩
  · intro _ member
    obtain ⟨execution, present, rfl⟩ := List.mem_map.mp member
    exact invariant.evidenced execution present

end Writes

/-! ## Exhaustion -/

section Exhaustion

variable {database : Database} {executionId : String} {leaseToken : Option String} {now : Instant}
  {execution : ChatExecution} {assistant : Message} {record : IdempotencyRecord}

theorem SpentRecovery.selected
    (recovery : SpentRecovery database executionId leaseToken now execution assistant record) :
    database.spentRecovery? executionId leaseToken now = some execution := by
  simp [Database.spentRecovery?, Option.filter, recovery.found, recovery.accepted, recovery.read,
    recovery.spent, Except.isOk, Except.toBool]

theorem spentRecovery?_some
    (selected : database.spentRecovery? executionId leaseToken now = some execution) :
    ∃ assistant record, SpentRecovery database executionId leaseToken now execution assistant record := by
  obtain ⟨found, checks⟩ := Option.filter_eq_some_iff.mp selected
  simp only [Bool.and_eq_true, decide_eq_true_eq] at checks
  obtain ⟨⟨owned, bound⟩, spent⟩ := checks
  cases accepted : assertRecoveryOwner database execution leaseToken now with
  | error => rw [accepted] at owned; contradiction
  | ok record =>
    cases read : assistantOf database execution with
    | error => rw [read] at bound; contradiction
    | ok assistant => exact ⟨assistant, record, found, accepted, read, spent⟩

theorem prepareExchange_spent {storage : Storage} {request : ExchangeRequest}
    (recovery : SpentRecovery database request.executionId request.leaseToken now execution assistant
      record)
    (served : (storage.queries && storage.commits) = true)
    (scope : execution.sameScope request = true) (recover : request.recover = true) :
    (prepareExchange storage database request now).1 = database.exhausted execution assistant now := by
  have body : recoverExchange database execution request now =
      .ok (.committed (database.exhausted execution assistant now)
        (.error (.retryLimitExceeded "execution retry limit was reached"))
        "chat persistence is unavailable") := by
    simp only [recoverExchange, ensure, scope, recover, recovery.accepted, recovery.read, if_true]
    simp only [bind, Except.bind, if_pos recovery.spent]
    rfl
  simp only [prepareExchange, recovery.found, body, settle_served served]

theorem assertRecoveryAllowed_spent {storage : Storage} {idempotencyRecordId : Nat}
    (recovery : SpentRecovery database executionId leaseToken now execution assistant record)
    (served : (storage.queries && storage.commits) = true)
    (bound : execution.idempotencyRecordId = some idempotencyRecordId) :
    (assertRecoveryAllowed storage database executionId idempotencyRecordId leaseToken now).1 =
      (database.exhausted execution assistant now).updateRecord record.exhausted := by
  have body : recoveryAllowed database execution idempotencyRecordId leaseToken now =
      .ok (.committed ((database.exhausted execution assistant now).updateRecord record.exhausted)
        (.error (.retryLimitExceeded "execution retry limit was reached"))
        "chat persistence is unavailable") := by
    simp only [recoveryAllowed, ensure, bound, recovery.accepted, recovery.read, if_true]
    simp only [bind, Except.bind, if_pos recovery.spent]
    rfl
  simp only [assertRecoveryAllowed, recovery.found, body, settle_served served]

/-- A call for another record than the one of the execution changes nothing. -/
theorem assertRecoveryAllowed_elsewhere (storage : Storage) {idempotencyRecordId : Nat}
    (found : database.execution? executionId = some execution)
    (elsewhere : execution.idempotencyRecordId ≠ some idempotencyRecordId) :
    (assertRecoveryAllowed storage database executionId idempotencyRecordId leaseToken now).1 =
      database := by
  have body : recoveryAllowed database execution idempotencyRecordId leaseToken now =
      .error (.conflict "recovery identity is bound to another record") := by
    simp only [recoveryAllowed, ensure, elsewhere, if_false]
    rfl
  simp only [assertRecoveryAllowed, found, body, settle]
  split <;> rfl

end Exhaustion

/-! ## Steps -/

section Steps

variable {state : GovernanceState}

/-- The write of both exhausted branches leaves a terminal execution. -/
theorem GovernanceInvariant.exhaust (invariant : GovernanceInvariant state) {executionId : String}
    {execution : ChatExecution} {assistant : Message}
    (located : Located state.database executionId execution assistant)
    (unawaited : state.database.awaited execution = false) :
    EvidenceInvariant (state.database.exhausted execution assistant state.clock).executions
      state.database.nextExecutionId state.database.decisions := by
  refine EvidenceInvariant.rewrite invariant located.executionMem
    (execution.exhausted assistant state.clock) ⟨rfl, rfl, rfl⟩ ?_
  refine EvidenceInvariant.evidenced_of_unawaited invariant located.executionMem ?_ _ rfl
  exact fun decision member => by simpa using List.any_eq_false.mp unawaited decision member

theorem GovernanceInvariant.finalize (invariant : GovernanceInvariant state) (storage : Storage)
    (request : FinalizeRequest) : GovernanceInvariant (state.next (.finalize storage request)) := by
  simp only [GovernanceInvariant, GovernanceState.next]
  have ended := finalize_ending storage state.database request state.clock
  generalize Eiraos.finalize storage state.database request state.clock = ending at ended
  cases ended with
  | unchanged => exact invariant
  | @finalized terminal execution assistant record usage _ located =>
    -- The decisions are closed first, while the execution still runs.
    have resolved : EvidenceInvariant state.database.executions state.database.nextExecutionId
        (state.database.decisions.map fun decision =>
          if decision.awaits execution then decision.resolved terminal request state.clock
          else decision) := by
      refine EvidenceInvariant.resolve invariant _ (fun decision _ => ?_) fun decision _ finalized => ?_
      · split
        · exact ⟨rfl, rfl, rfl, rfl⟩
        · exact ⟨rfl, rfl, rfl, rfl⟩
      · split
        · exact Option.some_ne_none _
        · exact finalized
    have evidenced := resolved.evidenced_of_unawaited located.executionMem (fun decision member => ?_)
      (execution.finalized terminal request state.clock) rfl
    · have written := resolved.rewrite located.executionMem
        (execution.finalized terminal request state.clock) ⟨rfl, rfl, rfl⟩ evidenced
      cases record with
      | none => exact written
      | some => exact written
    · obtain ⟨old, _, rfl⟩ := List.mem_map.mp member
      split
      · simp [GovernanceDecisionRecord.awaits, GovernanceDecisionRecord.resolved]
      next unawaited => simpa using unawaited

theorem GovernanceInvariant.recordResult (invariant : GovernanceInvariant state) (storage : Storage)
    (decisionId resultStatus : String) (responseStatus : Nat) (failureCode : Option FailureCode) :
    GovernanceInvariant
      (state.next (.recordResult storage decisionId resultStatus responseStatus failureCode)) := by
  simp only [GovernanceInvariant, GovernanceState.next]
  rcases recordResult_cases storage state.database decisionId resultStatus responseStatus failureCode
    state.clock with unchanged | ⟨decision, present, _, _, _, reported⟩
  · rw [unchanged]
    exact invariant
  · rw [reported]
    refine EvidenceInvariant.resolve invariant _ (fun other member => ?_) fun other _ finalized => ?_
    · split
      next same =>
        obtain rfl : other = decision := invariant.decisionIds.eq member present same
        exact ⟨rfl, rfl, rfl, rfl⟩
      next => exact ⟨rfl, rfl, rfl, rfl⟩
    · split
      · exact Option.some_ne_none _
      · exact finalized

theorem GovernanceInvariant.prepareExchange (invariant : GovernanceInvariant state) (storage : Storage)
    (request : ExchangeRequest)
    (unstranded : state.strands (.prepareExchange storage request) = false) :
    GovernanceInvariant (state.next (.prepareExchange storage request)) := by
  cases served : storage.queries && storage.commits with
  | false =>
    have unchanged : (Eiraos.prepareExchange storage state.database request state.clock).1 =
        state.database := settle_unserved _ served
    simp only [GovernanceState.next, unchanged]
    exact invariant
  | true =>
    simp only [GovernanceInvariant, GovernanceState.next]
    have ended := prepareExchange_ending storage state.database request state.clock
    generalize Eiraos.prepareExchange storage state.database request state.clock = ending at ended
    cases ended with
    | refused => exact invariant
    | exhausted located _ _ recovery scope recover =>
      refine invariant.exhaust located ?_
      simpa [GovernanceState.strands, served, recovery.selected, scope, recover] using unstranded
    | @recovered existing next _ _ _ _ located _ _ _ recoverable _ scope bound =>
      obtain ⟨⟨code, retryable, same⟩, _⟩ := ChatExecution.recoverable_eq_ok recoverable
      have written := EvidenceInvariant.rewrite invariant located.executionMem
        (next.restarted state.clock request.governanceDecisionId.isSome)
        (by rw [same]; exact ⟨rfl, rfl, rfl⟩) (evidenced_of_running rfl)
      simp only [ChatExecution.sameScope, decide_eq_true_eq] at scope
      refine written.bind (Rows.mem_replace_self located.executionMem (by rw [same]; rfl)) rfl
        request.governanceDecisionId request.userId ?_
      rw [same]
      simp only [ChatExecution.restarted, scope.1]
      exact bound
    | inserted absent _ bound =>
      have written := EvidenceInvariant.insert invariant
        (request.freshExecution state.database.nextExecutionId state.database.nextMessageId
          (state.database.nextMessageId + 1)) absent rfl rfl
      exact written.bind (List.mem_append_right _ (List.mem_singleton.mpr rfl)) rfl
        request.governanceDecisionId request.userId bound

theorem GovernanceInvariant.assertRecoveryAllowed (invariant : GovernanceInvariant state)
    (storage : Storage) (executionId : String) (idempotencyRecordId : Nat)
    (leaseToken : Option String)
    (unstranded : state.strands
      (.assertRecoveryAllowed storage executionId idempotencyRecordId leaseToken) = false) :
    GovernanceInvariant (state.next
      (.assertRecoveryAllowed storage executionId idempotencyRecordId leaseToken)) := by
  have untouched : (Eiraos.assertRecoveryAllowed storage state.database executionId
      idempotencyRecordId leaseToken state.clock).1 = state.database →
      GovernanceInvariant (state.next
        (.assertRecoveryAllowed storage executionId idempotencyRecordId leaseToken)) := by
    intro unchanged
    simp only [GovernanceState.next, unchanged]
    exact invariant
  cases served : storage.queries && storage.commits with
  | false => exact untouched (settle_unserved _ served)
  | true =>
    have elsewhere := @assertRecoveryAllowed_elsewhere state.database executionId leaseToken state.clock
    have ended := assertRecoveryAllowed_ending storage state.database executionId idempotencyRecordId
      leaseToken state.clock
    simp only [GovernanceInvariant, GovernanceState.next] at untouched ⊢
    generalize called : Eiraos.assertRecoveryAllowed storage state.database executionId
      idempotencyRecordId leaseToken state.clock = ending at ended untouched
    cases ended with
    | unchanged => exact invariant
    | @exhausted execution _ _ _ located _ _ recovery =>
      by_cases bound : execution.idempotencyRecordId = some idempotencyRecordId
      · refine invariant.exhaust located ?_
        simpa [GovernanceState.strands, served, recovery.selected, bound] using unstranded
      · refine untouched ?_
        rw [← called]
        exact elsewhere storage recovery.found bound

theorem GovernanceInvariant.step (invariant : GovernanceInvariant state) {label : GovernanceLabel}
    (unstranded : state.strands label = false) : GovernanceInvariant (state.next label) := by
  cases label with
  | tick => exact invariant
  | recordProviderDecision storage decisionId organizationId userId allowed =>
    simp only [GovernanceInvariant, GovernanceState.next]
    rcases recordProviderDecision_cases storage state.database decisionId organizationId userId allowed
      state.clock with unchanged | ⟨fresh, recorded⟩
    · rw [unchanged]
      exact invariant
    · rw [recorded]
      exact EvidenceInvariant.record invariant
        (.recorded decisionId organizationId userId allowed state.clock) fresh rfl
  | recordResult storage decisionId resultStatus responseStatus failureCode =>
    exact invariant.recordResult storage decisionId resultStatus responseStatus failureCode
  | prepareExchange storage request => exact invariant.prepareExchange storage request unstranded
  | markStreaming storage executionId =>
    simp only [GovernanceInvariant, GovernanceState.next]
    have ended := markStreaming_ending storage state.database executionId
    generalize Eiraos.markStreaming storage state.database executionId = ending at ended
    cases ended with
    | unchanged => exact invariant
    | @streamed execution _ located =>
      exact EvidenceInvariant.rewrite invariant located.executionMem
        { execution with status := .streaming } ⟨rfl, rfl, rfl⟩ (evidenced_of_running rfl)
  | assertRecoveryAllowed storage executionId idempotencyRecordId leaseToken =>
    exact invariant.assertRecoveryAllowed storage executionId idempotencyRecordId leaseToken unstranded
  | finalize storage request => exact invariant.finalize storage request
  | leaseChange table => exact EvidenceInvariant.unlink invariant _

/-- An exhausted execution is terminal, and its exhaustion closes no decision. -/
theorem not_evidenceClosed_of_exhausted {after database : Database} {execution : ChatExecution}
    {assistant : Message} {now : Instant} (present : execution ∈ database.executions)
    (awaited : database.awaited execution = true)
    (exhausted : after.executions = (database.exhausted execution assistant now).executions)
    (decisions : after.decisions = database.decisions) : ¬EvidenceClosed after := by
  intro closed
  obtain ⟨decision, member, awaits⟩ := List.any_eq_true.mp awaited
  have open_ : decision.executionId = some execution.executionId ∧ _ ∧ decision.allowed = true ∧
      decision.finalizedAt = none := of_decide_eq_true awaits
  have written : execution.exhausted assistant now ∈ after.executions := by
    rw [exhausted]
    exact Rows.mem_replace_self present rfl
  have finalized := closed _ written rfl decision (decisions ▸ member) open_.1 open_.2.2.1
  exact finalized open_.2.2.2

theorem GovernanceState.strands_breaks {label : GovernanceLabel} (strands : state.strands label = true) :
    ¬EvidenceClosed (state.next label).database := by
  cases label with
  | prepareExchange storage request =>
    simp only [GovernanceState.strands, Bool.and_eq_true] at strands
    obtain ⟨served, exhausts⟩ := strands
    obtain ⟨execution, selected, checks⟩ := (Option.any_eq_true _ _).mp exhausts
    simp only [Bool.and_eq_true] at checks
    obtain ⟨⟨scope, recover⟩, awaited⟩ := checks
    obtain ⟨assistant, record, recovery⟩ := spentRecovery?_some selected
    have after := prepareExchange_spent recovery (by simpa using served) scope recover
    simp only [GovernanceState.next, after]
    exact not_evidenceClosed_of_exhausted (Database.execution?_some recovery.found).1 awaited
      (Eq.refl (state.database.exhausted execution assistant state.clock).executions) rfl
  | assertRecoveryAllowed storage executionId idempotencyRecordId leaseToken =>
    simp only [GovernanceState.strands, Bool.and_eq_true] at strands
    obtain ⟨served, exhausts⟩ := strands
    obtain ⟨execution, selected, checks⟩ := (Option.any_eq_true _ _).mp exhausts
    simp only [Bool.and_eq_true, decide_eq_true_eq] at checks
    obtain ⟨bound, awaited⟩ := checks
    obtain ⟨assistant, record, recovery⟩ := spentRecovery?_some selected
    have after := assertRecoveryAllowed_spent recovery (by simpa using served) bound
    simp only [GovernanceState.next, after]
    exact not_evidenceClosed_of_exhausted (Database.execution?_some recovery.found).1 awaited
      (Eq.refl (state.database.exhausted execution assistant state.clock).executions) rfl
  | _ => contradiction

end Steps

/-- Execution result and governance evidence are terminal together in every state of a run
if and only if no call of the run exhausts an execution a decision still waits for. -/
theorem evidence_closed_iff_unstranded (clock : Instant) (labels : List GovernanceLabel) :
    Transition.Throughout GovernanceState.step (fun state label => state.strands label = false)
        (GovernanceState.initial clock) labels ↔
      Transition.Always GovernanceState.step (fun state => EvidenceClosed state.database)
        (GovernanceState.initial clock) labels := by
  refine Transition.throughout_iff_always GovernanceInvariant _ (fun state label => ⟨_, rfl⟩) ?_ ?_ ?_
    (governanceInvariant_initial clock)
  · intro state label next invariant unstranded stepped
    cases stepped
    exact invariant.step unstranded
  · exact fun state invariant => invariant.evidenced
  · intro state label next _ strands stepped
    cases stepped
    exact GovernanceState.strands_breaks (by simpa using strands)

/-- One attempt that crashed with its decision bound, and the recovery that finds the
attempts used up. -/
def strandedDecision : List GovernanceLabel :=
  let request : IdempotencyRequest := ⟨1, 2, "key", "digest"⟩
  let leased := (beginIdempotency ⟨[], 0⟩ request 0 0 "first").1
  let crash := seconds LEASE_SECONDS + 1
  [.leaseChange leased,
    .recordProviderDecision .available "decision" 1 2 true,
    .prepareExchange .available
      { executionId := "execution"
        requestId := "request"
        conversationId := 3
        organizationId := 1
        userId := 2
        botId := 4
        botOrganizationId := 1
        provider := "openai"
        model := "gpt-4o"
        prompt := "hello"
        idempotencyRecordId := some 0
        estimatedTokens := 10
        estimatedCost := 1
        verification := false
        recover := false
        leaseToken := some "first"
        maxAttempts := 1
        governanceDecisionId := some "decision" },
    .tick crash,
    .leaseChange (beginIdempotency leased request 0 crash "second").1,
    .assertRecoveryAllowed .available "execution" 0 (some "second")]

theorem exhaustion_strands_decision :
    ¬∀ (clock : Instant) (labels : List GovernanceLabel),
      Transition.Always GovernanceState.step (fun state => EvidenceClosed state.database)
        (GovernanceState.initial clock) labels := by
  intro always
  have closed := always 0 strandedDecision strandedDecision (List.prefix_refl _) _ rfl
  revert closed
  unfold EvidenceClosed Evidenced
  decide +kernel

end Eiraos
