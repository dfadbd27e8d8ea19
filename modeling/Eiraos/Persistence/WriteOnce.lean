import Eiraos.Persistence.Interleaving

/-! # Governance evidence is written once

Four operations write the decisions, each under its own guard and in its own transaction,
whose row locks make it one step.  `EvidenceChange` says once what a call can do to a
decision: leave it, bind it or report its result.  The rest is case analysis on that.
-/

namespace Eiraos

/-! ## What a call does to the tables -/

/-- What decisions are compared with: the key, the id and the tenant of an execution. -/
def ChatExecution.identity (execution : ChatExecution) : Nat × String × Nat × Nat :=
  (execution.id, execution.executionId, execution.organizationId, execution.userId)

/-- A call keeps the identities of the executions, or adds one with an unused id. -/
inductive IdentitiesChange (before after : Database) : Prop where
  | kept (same : after.executions.map ChatExecution.identity =
        before.executions.map ChatExecution.identity)
      (next : after.nextExecutionId = before.nextExecutionId)
  | inserted {execution : ChatExecution}
      (absent : ∀ other ∈ before.executions, other.executionId ≠ execution.executionId)
      (fresh : execution.id = before.nextExecutionId)
      (appended : after.executions = before.executions ++ [execution])
      (next : after.nextExecutionId = before.nextExecutionId + 1)

/-- What a call does to a decision it finds; `executions` are those it leaves. -/
inductive GovernanceDecisionRecord.Written (executions : List ChatExecution) (now : Instant)
    (decision : GovernanceDecisionRecord) : GovernanceDecisionRecord → Prop where
  | unchanged : Written executions now decision decision
  | bound {execution : ChatExecution} (present : execution ∈ executions)
      (bindable : decision.bindable execution.executionId execution.organizationId
        execution.userId = true) :
      Written executions now decision { decision with executionId := some execution.executionId }
  | reported (allowed : decision.allowed = true) (unfinalized : decision.finalizedAt = none)
      (resultStatus : String) (responseStatus : Nat) (failureCode : Option FailureCode) :
      Written executions now decision (decision.reported resultStatus responseStatus failureCode now)

inductive DecisionsChange (executions : List ChatExecution) (now : Instant)
    (before : List GovernanceDecisionRecord) : List GovernanceDecisionRecord → Prop where
  | recorded (decisionId : String) (organizationId userId : Nat) (allowed : Bool)
      (fresh : ∀ decision ∈ before, decision.decisionId ≠ decisionId) :
      DecisionsChange executions now before
        (before ++ [.recorded decisionId organizationId userId allowed now])
  | written (write : GovernanceDecisionRecord → GovernanceDecisionRecord)
      (writes : ∀ decision ∈ before, decision.Written executions now (write decision)) :
      DecisionsChange executions now before (before.map write)

structure EvidenceChange (now : Instant) (before after : Database) : Prop where
  identities : IdentitiesChange before after
  decisions : DecisionsChange after.executions now before.decisions after.decisions

theorem DecisionsChange.refl {executions : List ChatExecution} {now : Instant}
    {decisions : List GovernanceDecisionRecord} : DecisionsChange executions now decisions decisions := by
  have same := @DecisionsChange.written executions now decisions id fun decision _ => .unchanged
  rwa [List.map_id] at same

theorem EvidenceChange.refl {now : Instant} {database : Database} : EvidenceChange now database database :=
  ⟨.kept rfl rfl, .refl⟩

/-- The decisions change alone. -/
theorem DecisionsChange.evidence {now : Instant} {database : Database}
    {decisions : List GovernanceDecisionRecord}
    (change : DecisionsChange database.executions now database.decisions decisions) :
    EvidenceChange now database { database with decisions } :=
  ⟨.kept rfl rfl, change⟩

section Changes

variable {executions : List ChatExecution} {now : Instant} {decisions : List GovernanceDecisionRecord}

theorem identities_replace {old next : ChatExecution} (ids : Rows.Unique ChatExecution.id executions)
    (present : old ∈ executions) (same : next.identity = old.identity) :
    (Rows.replace ChatExecution.id next executions).map ChatExecution.identity =
      executions.map ChatExecution.identity := by
  apply Rows.map_replace
  intro other otherMem sameId
  have sameRow : other.id = old.id := sameId.trans (congrArg Prod.fst same)
  rw [ids.eq otherMem present sameRow, same]

/-- One decision of a table is written. -/
theorem DecisionsChange.replace {decision next : GovernanceDecisionRecord}
    (decisionIds : Rows.Unique GovernanceDecisionRecord.decisionId decisions)
    (present : decision ∈ decisions) (same : next.decisionId = decision.decisionId)
    (written : decision.Written executions now next) :
    DecisionsChange executions now decisions
      (Rows.replace GovernanceDecisionRecord.decisionId next decisions) := by
  apply DecisionsChange.written
  intro other otherMem
  split
  next sameId =>
    obtain rfl := decisionIds.eq otherMem present (sameId.trans same)
    exact written
  next => exact .unchanged

theorem DecisionsBound.change {decisionId : Option String} {after : List GovernanceDecisionRecord}
    {execution : ChatExecution}
    (bound : DecisionsBound decisions decisionId execution.executionId execution.organizationId
      execution.userId after)
    (decisionIds : Rows.Unique GovernanceDecisionRecord.decisionId decisions)
    (present : execution ∈ executions) : DecisionsChange executions now decisions after := by
  cases bound with
  | unrequested => exact .refl
  | bound decisionMem _ bindable =>
    exact .replace decisionIds decisionMem rfl (.bound present bindable)

end Changes

/-! ## The invariant -/

/-- A denied decision: terminal, and bound to nothing. -/
structure GovernanceDecisionRecord.Denied (decision : GovernanceDecisionRecord) : Prop where
  finalized : decision.finalizedAt ≠ none
  unbound : decision.executionId = none
  resultStatus : decision.resultStatus = some "denied"
  responseStatus : decision.responseStatus = some 403

/-- The execution a decision is bound to is one of the tenant and of the user. -/
def GovernanceDecisionRecord.BoundWithin (executions : List ChatExecution)
    (decision : GovernanceDecisionRecord) : Prop :=
  ∀ executionId, decision.executionId = some executionId →
    ∃ execution ∈ executions, execution.executionId = executionId ∧
      execution.organizationId = decision.organizationId ∧ execution.userId = decision.userId

structure WriteOnceTables (database : Database) : Prop where
  ids : Rows.Unique ChatExecution.id database.executions
  executionIds : Rows.Unique ChatExecution.executionId database.executions
  bounded : ∀ execution ∈ database.executions, execution.id < database.nextExecutionId
  decisionIds : Rows.Unique GovernanceDecisionRecord.decisionId database.decisions
  bound : ∀ decision ∈ database.decisions, decision.BoundWithin database.executions
  denied : ∀ decision ∈ database.decisions, decision.allowed = false → decision.Denied

theorem writeOnceTables_initial (clock : Instant) :
    WriteOnceTables (GovernanceState.initial clock).database where
  ids := List.nodup_nil
  executionIds := List.nodup_nil
  bounded := by simp [GovernanceState.initial, Database.empty]
  decisionIds := List.nodup_nil
  bound := by simp [GovernanceState.initial, Database.empty]
  denied := by simp [GovernanceState.initial, Database.empty]

/-! ## Every call makes such a change -/

section Calls

variable {state : GovernanceState} (tables : WriteOnceTables state.database)
include tables

theorem WriteOnceTables.recordResult (storage : Storage) (decisionId resultStatus : String)
    (responseStatus : Nat) (failureCode : Option FailureCode) :
    EvidenceChange state.clock state.database
      (Eiraos.recordResult storage state.database decisionId resultStatus responseStatus failureCode
        state.clock).1 := by
  rcases recordResult_cases storage state.database decisionId resultStatus responseStatus failureCode
    state.clock with unchanged | ⟨decision, present, _, allowed, unfinalized, reported⟩
  · rw [unchanged]
    exact .refl
  · rw [reported]
    have written : decision.Written state.database.executions state.clock
        (decision.reported resultStatus responseStatus failureCode state.clock) :=
      .reported allowed unfinalized _ _ _
    exact DecisionsChange.evidence (.replace tables.decisionIds present rfl written)

theorem WriteOnceTables.prepareExchange (storage : Storage) (request : ExchangeRequest) :
    EvidenceChange state.clock state.database
      (Eiraos.prepareExchange storage state.database request state.clock).1 := by
  have ended := prepareExchange_ending storage state.database request state.clock
  generalize Eiraos.prepareExchange storage state.database request state.clock = ending at ended
  cases ended with
  | refused => exact .refl
  | exhausted located =>
    exact ⟨.kept (identities_replace tables.ids located.executionMem rfl) rfl, .refl⟩
  | @recovered existing next _ _ _ _ located _ _ _ recoverable _ scope bound =>
    obtain ⟨⟨code, retryable, same⟩, _⟩ := ChatExecution.recoverable_eq_ok recoverable
    have sameIdentity : (next.restarted state.clock request.governanceDecisionId.isSome).identity =
        existing.identity := by
      rw [same]
      rfl
    refine ⟨.kept (identities_replace tables.ids located.executionMem sameIdentity) rfl, ?_⟩
    -- The decision is checked against the request, the scope check makes that the execution.
    simp only [ChatExecution.sameScope, decide_eq_true_eq] at scope
    rw [← scope.1, ← scope.2.1] at bound
    simp only [ChatExecution.identity, Prod.mk.injEq] at sameIdentity
    rw [← sameIdentity.2.1, ← sameIdentity.2.2.1, ← sameIdentity.2.2.2] at bound
    exact bound.change tables.decisionIds
      (Rows.mem_replace_self located.executionMem sameIdentity.1.symm)
  | inserted absent _ bound =>
    have present : request.freshExecution state.database.nextExecutionId state.database.nextMessageId
        (state.database.nextMessageId + 1) ∈ (state.database.inserted request).executions :=
      List.mem_append_right _ (List.mem_singleton.mpr rfl)
    exact ⟨.inserted absent rfl rfl rfl, DecisionsBound.change bound tables.decisionIds present⟩

theorem WriteOnceTables.finalize (storage : Storage) (request : FinalizeRequest) :
    EvidenceChange state.clock state.database
      (Eiraos.finalize storage state.database request state.clock).1 := by
  have ended := finalize_ending storage state.database request state.clock
  generalize Eiraos.finalize storage state.database request state.clock = ending at ended
  cases ended with
  | unchanged => exact .refl
  | @finalized terminal execution assistant record usage _ located =>
    have kept := identities_replace tables.ids located.executionMem
      (Eq.refl (execution.finalized terminal request state.clock).identity)
    constructor
    · cases record with
      | none => exact .kept kept rfl
      | some => exact .kept kept rfl
    · apply DecisionsChange.written
      intro decision _
      split
      next awaits =>
        simp only [GovernanceDecisionRecord.awaits, decide_eq_true_eq] at awaits
        exact .reported awaits.2.2.1 awaits.2.2.2 terminal.text request.effectiveStatus
          request.failureCode
      next => exact .unchanged

theorem WriteOnceTables.change (label : GovernanceLabel) :
    EvidenceChange state.clock state.database (state.next label).database := by
  cases label with
  | tick => exact .refl
  | recordProviderDecision storage decisionId organizationId userId allowed =>
    simp only [GovernanceState.next]
    rcases recordProviderDecision_cases storage state.database decisionId organizationId userId allowed
      state.clock with unchanged | ⟨fresh, recorded⟩
    · rw [unchanged]
      exact .refl
    · rw [recorded]
      exact DecisionsChange.evidence (.recorded decisionId organizationId userId allowed fresh)
  | recordResult storage decisionId resultStatus responseStatus failureCode =>
    exact tables.recordResult storage decisionId resultStatus responseStatus failureCode
  | prepareExchange storage request => exact tables.prepareExchange storage request
  | markStreaming storage executionId =>
    simp only [GovernanceState.next]
    have ended := markStreaming_ending storage state.database executionId
    generalize markStreaming storage state.database executionId = ending at ended
    cases ended with
    | unchanged => exact .refl
    | streamed located =>
      exact ⟨.kept (identities_replace tables.ids located.executionMem rfl) rfl, .refl⟩
  | assertRecoveryAllowed storage executionId idempotencyRecordId leaseToken =>
    simp only [GovernanceState.next]
    have ended := assertRecoveryAllowed_ending storage state.database executionId idempotencyRecordId
      leaseToken state.clock
    generalize assertRecoveryAllowed storage state.database executionId idempotencyRecordId leaseToken
      state.clock = ending at ended
    cases ended with
    | unchanged => exact .refl
    | exhausted located =>
      exact ⟨.kept (identities_replace tables.ids located.executionMem rfl) rfl, .refl⟩
  | finalize storage request => exact tables.finalize storage request
  | leaseChange table =>
    have same : (state.database.withIdempotency table).executions.map ChatExecution.identity =
        state.database.executions.map ChatExecution.identity := by
      rw [Database.withIdempotency, List.map_map]
      rfl
    exact ⟨.kept same rfl, .refl⟩

end Calls

/-! ## The change keeps the tables -/

section Tables

variable {now : Instant} {before after : Database}

/-- An execution stays, with its identity. -/
theorem IdentitiesChange.follow (change : IdentitiesChange before after) {execution : ChatExecution}
    (present : execution ∈ before.executions) :
    ∃ later ∈ after.executions, later.identity = execution.identity := by
  cases change with
  | kept same =>
    apply List.mem_map.mp
    rw [same]
    exact List.mem_map_of_mem present
  | inserted _ _ appended =>
    refine ⟨execution, ?_, rfl⟩
    rw [appended]
    exact List.mem_append_left _ present

/-- A column of the identity is as unique as it was. -/
theorem unique_of_identities {Value : Type} (column : Nat × String × Nat × Nat → Value)
    (same : after.executions.map ChatExecution.identity = before.executions.map ChatExecution.identity)
    (unique : Rows.Unique (fun execution => column execution.identity) before.executions) :
    Rows.Unique (fun execution => column execution.identity) after.executions := by
  have columns : ∀ executions : List ChatExecution,
      executions.map (fun execution => column execution.identity) =
        (executions.map ChatExecution.identity).map column := by
    intro executions
    rw [List.map_map]
    rfl
  unfold Rows.Unique at unique ⊢
  rw [columns, same, ← columns]
  exact unique

theorem WriteOnceTables.bound_change {decision : GovernanceDecisionRecord}
    (tables : WriteOnceTables before) (change : IdentitiesChange before after)
    (member : decision ∈ before.decisions) : decision.BoundWithin after.executions := by
  intro executionId bound
  obtain ⟨execution, present, sameId, sameTenant⟩ := tables.bound decision member executionId bound
  obtain ⟨later, laterMem, same⟩ := change.follow present
  simp only [ChatExecution.identity, Prod.mk.injEq] at same
  refine ⟨later, laterMem, same.2.1.trans sameId, ?_⟩
  rw [same.2.2.1, same.2.2.2]
  exact sameTenant

theorem WriteOnceTables.written (tables : WriteOnceTables before) (change : IdentitiesChange before after)
    {decision next : GovernanceDecisionRecord} (member : decision ∈ before.decisions)
    (written : decision.Written after.executions now next) :
    next.BoundWithin after.executions ∧ (next.allowed = false → next.Denied) := by
  have kept := tables.bound_change change member
  cases written with
  | unchanged => exact ⟨kept, tables.denied decision member⟩
  | @bound execution present bindable =>
    simp only [GovernanceDecisionRecord.bindable, decide_eq_true_eq] at bindable
    constructor
    · intro executionId bound
      exact ⟨execution, present, Option.some.inj bound, bindable.2.2.1.symm, bindable.2.2.2.1.symm⟩
    · intro denied
      rw [bindable.1] at denied
      contradiction
  | reported allowed =>
    refine ⟨kept, fun denied => ?_⟩
    rw [GovernanceDecisionRecord.reported, allowed] at denied
    contradiction

theorem WriteOnceTables.step (tables : WriteOnceTables before) (change : EvidenceChange now before after)
    (decisionIds : Rows.Unique GovernanceDecisionRecord.decisionId after.decisions) :
    WriteOnceTables after := by
  have decided : ∀ decision ∈ after.decisions, decision.BoundWithin after.executions ∧
      (decision.allowed = false → decision.Denied) := by
    intro decision member
    have found := change.decisions
    generalize after.decisions = decisions at member found
    cases found with
    | recorded decisionId organizationId userId allowed =>
      rcases List.mem_append.mp member with old | new
      · exact @WriteOnceTables.written now _ _ tables change.identities _ _ old .unchanged
      · rw [List.mem_singleton.mp new]
        constructor
        · simp [GovernanceDecisionRecord.BoundWithin, GovernanceDecisionRecord.recorded]
        · rintro rfl
          constructor <;> simp [GovernanceDecisionRecord.recorded]
    | written write writes =>
      obtain ⟨old, oldMem, rfl⟩ := List.mem_map.mp member
      exact tables.written change.identities oldMem (writes old oldMem)
  have bound := fun decision member => (decided decision member).1
  have denied := fun decision member => (decided decision member).2
  cases change.identities with
  -- No row is new and the identities are the same, and so are the constraints on them.
  | kept same next =>
    refine ⟨unique_of_identities (·.1) same tables.ids,
      unique_of_identities (·.2.1) same tables.executionIds, ?_, decisionIds, bound, denied⟩
    intro execution member
    have known : execution.identity ∈ before.executions.map ChatExecution.identity := by
      rw [← same]
      exact List.mem_map_of_mem member
    obtain ⟨old, oldMem, sameIdentity⟩ := List.mem_map.mp known
    have sameId : old.id = execution.id := congrArg Prod.fst sameIdentity
    have := tables.bounded old oldMem
    omega
  | @inserted execution absent fresh appended next =>
    refine ⟨?_, ?_, ?_, decisionIds, bound, denied⟩
    · rw [appended]
      apply tables.ids.append
      intro other member
      have := tables.bounded other member
      omega
    · rw [appended]
      exact tables.executionIds.append absent
    · intro other member
      rw [appended] at member
      rcases List.mem_append.mp member with old | new
      · have := tables.bounded other old
        omega
      · rw [List.mem_singleton.mp new]
        omega

end Tables

/-! ## What is written stays -/

/-- What a decision keeps: whom it is about, the execution it is bound to and, once it is
finalized, every field. -/
structure GovernanceDecisionRecord.Kept (decision later : GovernanceDecisionRecord) : Prop where
  decisionId : later.decisionId = decision.decisionId
  scope : later.organizationId = decision.organizationId ∧ later.userId = decision.userId ∧
    later.allowed = decision.allowed
  bound : ∀ executionId, decision.executionId = some executionId → later.executionId = some executionId
  finalized : decision.finalizedAt ≠ none → later = decision

theorem GovernanceDecisionRecord.Kept.refl (decision : GovernanceDecisionRecord) :
    decision.Kept decision :=
  ⟨rfl, ⟨rfl, rfl, rfl⟩, fun _ bound => bound, fun _ => rfl⟩

theorem GovernanceDecisionRecord.Kept.trans {first second third : GovernanceDecisionRecord}
    (early : first.Kept second) (late : second.Kept third) : first.Kept third where
  decisionId := late.decisionId.trans early.decisionId
  scope := by
    simp only [late.scope, early.scope, and_self]
  bound := fun executionId bound => late.bound executionId (early.bound executionId bound)
  finalized := by
    intro finalized
    obtain rfl := early.finalized finalized
    exact late.finalized finalized

theorem GovernanceDecisionRecord.Written.kept {executions : List ChatExecution} {now : Instant}
    {decision next : GovernanceDecisionRecord} (written : decision.Written executions now next) :
    decision.Kept next := by
  cases written with
  | unchanged => exact .refl decision
  | bound _ bindable =>
    simp only [GovernanceDecisionRecord.bindable, decide_eq_true_eq] at bindable
    refine ⟨rfl, ⟨rfl, rfl, rfl⟩, fun executionId bound => ?_, fun finalized => ?_⟩
    · -- A decision bound before can only be bound to the same execution again.
      cases bindable.2.2.2.2 with
      | inl unbound =>
        rw [unbound] at bound
        contradiction
      | inr same => exact same.symm.trans bound
    · exact absurd bindable.2.1 finalized
  | reported _ unfinalized =>
    exact ⟨rfl, ⟨rfl, rfl, rfl⟩, fun _ bound => bound, fun finalized => absurd unfinalized finalized⟩

/-- Every decision of the earlier tables is still there. -/
def EvidenceKept (earlier later : Database) : Prop :=
  ∀ decision ∈ earlier.decisions, ∃ kept ∈ later.decisions, decision.Kept kept

theorem EvidenceChange.kept {now : Instant} {before after : Database}
    (change : EvidenceChange now before after) : EvidenceKept before after := by
  intro decision member
  have found := change.decisions
  generalize after.decisions = decisions at found
  cases found with
  | recorded => exact ⟨decision, List.mem_append_left _ member, .refl decision⟩
  | written write writes =>
    exact ⟨write decision, List.mem_map_of_mem member, (writes decision member).kept⟩

/-! ## Runs -/

theorem WriteOnceTables.next {state : GovernanceState} (tables : WriteOnceTables state.database)
    (label : GovernanceLabel) : WriteOnceTables (state.next label).database :=
  tables.step (tables.change label) (GovernanceState.next_decisionIds tables.decisionIds label)

theorem writeOnceTables_run {start final : GovernanceState} {labels : List GovernanceLabel}
    (tables : WriteOnceTables start.database)
    (ran : Transition.run GovernanceState.step start labels = some final) :
    WriteOnceTables final.database ∧ EvidenceKept start.database final.database := by
  refine Transition.run_invariant (fun state => WriteOnceTables state.database ∧
    EvidenceKept start.database state.database) ?_ ⟨tables, ?_⟩ ran
  · intro state label next kept stepped
    cases stepped
    refine ⟨kept.1.next label, fun decision member => ?_⟩
    obtain ⟨middle, middleMem, early⟩ := kept.2 decision member
    obtain ⟨last, lastMem, late⟩ := (kept.1.change label).kept middle middleMem
    exact ⟨last, lastMem, early.trans late⟩
  · exact fun decision member => ⟨decision, member, .refl decision⟩

/-- Evidence is written once.  Between any two states of a run every decision is kept, in
particular unchanged once it is finalized; in every state a denied decision is closed and
unbound, and a bound one belongs to the organization and the user of its execution. -/
theorem governance_evidence_write_once (clock : Instant) (labels later : List GovernanceLabel)
    (reached final : GovernanceState)
    (ran : Transition.run GovernanceState.step (GovernanceState.initial clock) labels = some reached)
    (continued : Transition.run GovernanceState.step reached later = some final) :
    (∀ decision ∈ reached.database.decisions, ∃ kept,
      final.database.decision? decision.decisionId = some kept ∧ decision.Kept kept) ∧
    ∀ decision ∈ final.database.decisions,
      (decision.allowed = false → decision.Denied) ∧
      ∀ executionId, decision.executionId = some executionId →
        ∃ execution, final.database.execution? executionId = some execution ∧
          decision.organizationId = execution.organizationId ∧ decision.userId = execution.userId := by
  have early := (writeOnceTables_run (writeOnceTables_initial clock) ran).1
  obtain ⟨tables, evidence⟩ := writeOnceTables_run early continued
  constructor
  · intro decision member
    obtain ⟨kept, keptMem, same⟩ := evidence decision member
    refine ⟨kept, ?_, same⟩
    rw [← same.decisionId]
    exact tables.decisionIds.find?_eq_some keptMem
  · intro decision member
    refine ⟨tables.denied decision member, fun executionId bound => ?_⟩
    obtain ⟨execution, present, rfl, organization, user⟩ :=
      tables.bound decision member executionId bound
    exact ⟨execution, tables.executionIds.find?_eq_some present, organization.symm, user.symm⟩

/-- Two attempts of one execution, each with its decision, beside a denied one. -/
def auditedRequest (decisionId : String) (recover : Bool) : ExchangeRequest where
  executionId := "execution"
  requestId := "request"
  conversationId := 3
  organizationId := 1
  userId := 2
  botId := 4
  botOrganizationId := 1
  provider := "openai"
  model := "gpt-4o"
  prompt := "hello"
  idempotencyRecordId := some 0
  estimatedTokens := 10
  estimatedCost := 1
  verification := false
  recover := recover
  leaseToken := some "token"
  maxAttempts := 3
  governanceDecisionId := some decisionId

def firstAttempt : List GovernanceLabel :=
  [.leaseChange (beginIdempotency ⟨[], 0⟩ ⟨1, 2, "key", "digest"⟩ 0 0 "token").1,
    .recordProviderDecision .available "denied" 1 2 false,
    .recordProviderDecision .available "first" 1 2 true,
    .prepareExchange .available (auditedRequest "first" false),
    .recordResult .available "first" "failed" 503 none]

def secondAttempt : List GovernanceLabel :=
  [.recordProviderDecision .available "second" 1 2 true,
    .prepareExchange .available (auditedRequest "second" true),
    .tick 1,
    .finalize .available ⟨"execution", "completed", "answer", 200, "stream", some "token", none, []⟩]

/-- The state after calls on empty tables. -/
def attempted : List GovernanceLabel → GovernanceState :=
  List.foldl GovernanceState.next (GovernanceState.initial 0)

/-- The result of the first attempt survives the recovery that completes the execution. -/
theorem first_attempt_write_once :
    (∀ decision ∈ (attempted firstAttempt).database.decisions, ∃ kept,
      (attempted (firstAttempt ++ secondAttempt)).database.decision? decision.decisionId = some kept ∧
        decision.Kept kept) ∧
    ∃ decision ∈ (attempted firstAttempt).database.decisions,
      decision.executionId = some "execution" ∧ decision.resultStatus = some "failed" := by
  have ran : Transition.run GovernanceState.step (GovernanceState.initial 0) firstAttempt =
      some (attempted firstAttempt) := rfl
  have continued : Transition.run GovernanceState.step (attempted firstAttempt) secondAttempt =
      some (attempted (firstAttempt ++ secondAttempt)) := rfl
  constructor
  · exact (governance_evidence_write_once 0 firstAttempt secondAttempt _ _ ran continued).1
  · decide +kernel

end Eiraos
