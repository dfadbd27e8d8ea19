import Eiraos.Persistence.Governance

/-! # What other requests leave of a prepared exchange

Once `prepare_exchange` has returned, its execution is prepared and its decision waits for
the outcome.  Calls for other executions change neither, as long as the lease on the
record of the exchange is held.
-/

namespace Eiraos

open Guarded

/-- What every run keeps: the representation of the executions and the ids of the decisions. -/
structure GovernanceTables (database : Database) : Prop where
  ledger : ∃ history, LedgerInvariant database history
  decisionIds : Rows.Unique GovernanceDecisionRecord.decisionId database.decisions

/-- `CHAT_MAX_ATTEMPTS` is at least one. -/
def GovernanceLabel.attemptsAllowed : GovernanceLabel → Prop
  | .prepareExchange _ request => 1 ≤ request.maxAttempts
  | _ => True

theorem DecisionsBound.unique {decisions after : List GovernanceDecisionRecord}
    {decisionId : Option String} {executionId : String} {organizationId userId : Nat}
    (bound : DecisionsBound decisions decisionId executionId organizationId userId after)
    (unique : Rows.Unique GovernanceDecisionRecord.decisionId decisions) :
    Rows.Unique GovernanceDecisionRecord.decisionId after := by
  cases bound with
  | unrequested => exact unique
  | bound => exact unique.replace fun _ _ same => same

section Steps

variable {state : GovernanceState}

/-- The step as one of the ledger's, for which the decisions change arbitrarily. -/
theorem GovernanceState.next_ledger {history : List LedgerEvent}
    (invariant : LedgerInvariant state.database history) {label : GovernanceLabel}
    (allowed : label.attemptsAllowed) :
    ∃ history, LedgerInvariant (state.next label).database history := by
  have ledgerStep : ∀ ledgerLabel next,
      LedgerState.step ⟨state.database, state.clock, history⟩ ledgerLabel = some next →
        ∃ history, LedgerInvariant next.database history :=
    fun ledgerLabel next stepped =>
      ⟨_, @LedgerInvariant.step ⟨state.database, state.clock, history⟩ next ledgerLabel invariant stepped⟩
  cases label with
  | tick elapsed => exact ⟨history, invariant⟩
  | recordProviderDecision storage decisionId organizationId userId permitted =>
    refine ⟨history, ?_⟩
    simp only [GovernanceState.next]
    rcases recordProviderDecision_cases storage state.database decisionId organizationId userId permitted
      state.clock with unchanged | ⟨_, recorded⟩
    · rw [unchanged]
      exact invariant
    · rw [recorded]
      exact { invariant with }
  | recordResult storage decisionId resultStatus responseStatus failureCode =>
    refine ⟨history, ?_⟩
    simp only [GovernanceState.next]
    rcases recordResult_cases storage state.database decisionId resultStatus responseStatus failureCode
      state.clock with unchanged | ⟨_, _, _, _, _, reported⟩
    · rw [unchanged]
      exact invariant
    · rw [reported]
      exact { invariant with }
  | prepareExchange storage request =>
    have stepped := ledgerStep (.prepareExchange storage request)
    simp only [LedgerState.step, if_neg (Nat.one_le_iff_ne_zero.mp allowed)] at stepped
    exact stepped _ rfl
  | markStreaming storage executionId => exact ledgerStep (.markStreaming storage executionId) _ rfl
  | assertRecoveryAllowed storage executionId idempotencyRecordId leaseToken =>
    exact ledgerStep (.assertRecoveryAllowed storage executionId idempotencyRecordId leaseToken) _ rfl
  | finalize storage request => exact ledgerStep (.finalize storage request) _ rfl
  | leaseChange table => exact ledgerStep (.leaseChange table) _ rfl

theorem GovernanceState.next_decisionIds
    (unique : Rows.Unique GovernanceDecisionRecord.decisionId state.database.decisions)
    (label : GovernanceLabel) :
    Rows.Unique GovernanceDecisionRecord.decisionId (state.next label).database.decisions := by
  cases label with
  | tick => exact unique
  | recordProviderDecision storage decisionId organizationId userId allowed =>
    simp only [GovernanceState.next]
    rcases recordProviderDecision_cases storage state.database decisionId organizationId userId allowed
      state.clock with unchanged | ⟨fresh, recorded⟩
    · rw [unchanged]
      exact unique
    · rw [recorded]
      exact unique.append fresh
  | recordResult storage decisionId resultStatus responseStatus failureCode =>
    simp only [GovernanceState.next]
    rcases recordResult_cases storage state.database decisionId resultStatus responseStatus failureCode
      state.clock with unchanged | ⟨_, _, _, _, _, reported⟩
    · rw [unchanged]
      exact unique
    · rw [reported]
      exact unique.replace fun _ _ same => same
  | prepareExchange storage request =>
    simp only [GovernanceState.next]
    have ended := prepareExchange_ending storage state.database request state.clock
    generalize prepareExchange storage state.database request state.clock = ending at ended
    cases ended with
    | refused => exact unique
    | exhausted => exact unique
    | recovered _ _ _ _ _ _ _ bound => exact bound.unique unique
    | inserted _ _ bound => exact bound.unique unique
  | markStreaming storage executionId =>
    simp only [GovernanceState.next]
    have ended := markStreaming_ending storage state.database executionId
    generalize markStreaming storage state.database executionId = ending at ended
    cases ended with
    | unchanged => exact unique
    | streamed => exact unique
  | assertRecoveryAllowed storage executionId idempotencyRecordId leaseToken =>
    simp only [GovernanceState.next]
    have ended := assertRecoveryAllowed_ending storage state.database executionId idempotencyRecordId
      leaseToken state.clock
    generalize assertRecoveryAllowed storage state.database executionId idempotencyRecordId leaseToken
      state.clock = ending at ended
    cases ended with
    | unchanged => exact unique
    | exhausted => exact unique
  | finalize storage request =>
    simp only [GovernanceState.next]
    have ended := finalize_ending storage state.database request state.clock
    generalize finalize storage state.database request state.clock = ending at ended
    cases ended with
    | unchanged => exact unique
    | @finalized terminal execution =>
      simp only [Database.finalized, Rows.Unique, List.map_map]
      -- The decisions of the execution are rewritten in place.
      have sameIds : state.database.decisions.map (GovernanceDecisionRecord.decisionId ∘ fun decision =>
          if decision.awaits execution then decision.resolved terminal request state.clock
          else decision) = state.database.decisions.map GovernanceDecisionRecord.decisionId := by
        refine List.map_congr_left fun decision _ => ?_
        simp only [Function.comp]
        split <;> rfl
      rw [sameIds]
      exact unique
  | leaseChange table => exact unique

theorem GovernanceTables.step {label : GovernanceLabel} (tables : GovernanceTables state.database)
    (allowed : label.attemptsAllowed) : GovernanceTables (state.next label).database where
  ledger := by
    obtain ⟨history, invariant⟩ := tables.ledger
    exact GovernanceState.next_ledger invariant allowed
  decisionIds := GovernanceState.next_decisionIds tables.decisionIds label

end Steps

theorem governanceTables_initial (clock : Instant) :
    GovernanceTables (GovernanceState.initial clock).database where
  ledger := ⟨[], ledgerInvariant_initial clock⟩
  decisionIds := List.nodup_nil

/-! ## A prepared exchange -/

/-- The execution of the exchange is prepared and its decision waits for the outcome. -/
def PreparedExchange (request : ExchangeRequest) (decisionId : String) (database : Database) : Prop :=
  ∃ execution ∈ database.executions, ∃ decision ∈ database.decisions,
    execution.executionId = request.executionId ∧
      execution.idempotencyRecordId = request.idempotencyRecordId ∧ execution.status = .prepared ∧
      decision.decisionId = decisionId ∧ decision.awaits execution = true

/-- The request holds the lease on the record of its exchange, if it has one. -/
def LeaseHeld (request : ExchangeRequest) (state : GovernanceState) : Prop :=
  ∀ recordId, request.idempotencyRecordId = some recordId →
    ∃ record, state.database.idempotency.selectById? recordId = some record ∧
      record.ownedBy request.leaseToken state.clock = true

/-- The call is one for another execution and another decision. -/
def GovernanceLabel.spares (executionId decisionId : String) : GovernanceLabel → Prop
  | .recordResult _ other _ _ _ => other ≠ decisionId
  | .prepareExchange _ request => request.executionId ≠ executionId
  | .markStreaming _ other => other ≠ executionId
  | .assertRecoveryAllowed _ other _ _ => other ≠ executionId
  | .finalize _ request => request.executionId ≠ executionId
  | _ => True

section Prepared

variable {database : Database} {request : ExchangeRequest} {decisionId : String}

theorem DecisionsBound.awaiting {decisions after : List GovernanceDecisionRecord} {executionId : String}
    {organizationId userId : Nat}
    (bound : DecisionsBound decisions (some decisionId) executionId organizationId userId after)
    (execution : ChatExecution) (sameId : execution.executionId = executionId)
    (sameOrganization : execution.organizationId = organizationId) :
    ∃ decision ∈ after, decision.decisionId = decisionId ∧ decision.awaits execution = true := by
  cases bound with
  | unrequested unnamed => cases unnamed
  | @bound decision present named bindable =>
    simp only [GovernanceDecisionRecord.bindable, decide_eq_true_eq] at bindable
    obtain ⟨allowed, unfinalized, organization, _⟩ := bindable
    refine ⟨_, Rows.mem_replace_self present rfl, (Option.some.inj named).symm, ?_⟩
    simp [GovernanceDecisionRecord.awaits, sameId, sameOrganization, organization, allowed, unfinalized]

/-- `prepare_exchange` leaves the exchange prepared. -/
theorem prepareExchange_prepared {storage : Storage} {now : Instant} {after : Database}
    {persisted : PersistedChatExecution} (named : request.governanceDecisionId = some decisionId)
    (returned : prepareExchange storage database request now = (after, .ok persisted)) :
    PreparedExchange request decisionId after := by
  have ended := prepareExchange_ending storage database request now
  rw [returned] at ended
  generalize closed : (after, (Except.ok persisted : Except PersistenceError _)) = ending at ended
  cases ended with
  | refused => cases closed
  | exhausted => cases closed
  | @recovered existing next _ _ _ _ located _ _ _ recoverable _ scope bound =>
    obtain ⟨rfl, _⟩ := Prod.mk.inj closed
    obtain ⟨⟨code, retryable, same⟩, _⟩ := ChatExecution.recoverable_eq_ok recoverable
    simp only [ChatExecution.sameScope, decide_eq_true_eq] at scope
    rw [named] at bound
    obtain ⟨decision, decisionMem, sameDecision, awaits⟩ := bound.awaiting
      (next.restarted now request.governanceDecisionId.isSome) (by rw [same]; rfl)
      (by rw [same]; exact scope.1)
    refine ⟨next.restarted now request.governanceDecisionId.isSome,
      Rows.mem_replace_self located.executionMem (by rw [same]; rfl), decision, decisionMem, ?_, ?_, rfl,
      sameDecision, awaits⟩
    · rw [same]
      exact located.executionId
    · rw [same]
      exact scope.2.2.2.2.2.1
  | inserted absent admitted bound =>
    obtain ⟨rfl, _⟩ := Prod.mk.inj closed
    rw [named] at bound
    obtain ⟨decision, decisionMem, sameDecision, awaits⟩ := bound.awaiting
      (request.freshExecution database.nextExecutionId database.nextMessageId
        (database.nextMessageId + 1)) rfl rfl
    exact ⟨_, List.mem_append_right _ (List.mem_singleton.mpr rfl), decision, decisionMem, rfl, rfl, rfl,
      sameDecision, awaits⟩

/-- The rows of the exchange are still there. -/
theorem PreparedExchange.kept {after : Database} (prepared : PreparedExchange request decisionId database)
    (executions : ∀ execution ∈ database.executions, execution.executionId = request.executionId →
      execution ∈ after.executions)
    (decisions : ∀ decision ∈ database.decisions, decision.decisionId = decisionId →
      decision.executionId = some request.executionId → decision ∈ after.decisions) :
    PreparedExchange request decisionId after := by
  obtain ⟨execution, present, decision, member, sameId, sameRecord, status, sameDecision, awaits⟩ := prepared
  have bound : decision.executionId = some execution.executionId := by
    simp only [GovernanceDecisionRecord.awaits, decide_eq_true_eq] at awaits
    exact awaits.1
  exact ⟨execution, executions execution present sameId, decision,
    decisions decision member sameDecision (bound.trans (congrArg some sameId)), sameId, sameRecord,
    status, sameDecision, awaits⟩

/-- Rewriting one execution keeps the others. -/
theorem GovernanceTables.others_kept (tables : GovernanceTables database) {old : ChatExecution}
    (next : ChatExecution) (present : old ∈ database.executions) (sameId : next.id = old.id)
    (other : old.executionId ≠ request.executionId) :
    ∀ execution ∈ database.executions, execution.executionId = request.executionId →
      execution ∈ Rows.replace ChatExecution.id next database.executions := by
  intro execution member own
  obtain ⟨history, invariant⟩ := tables.ledger
  rcases invariant.follow next present sameId member with ⟨rfl, _⟩ | kept
  · exact absurd own other
  · exact kept

/-- Binding a decision to another execution takes none from the exchange. -/
theorem DecisionsBound.others_kept {decisions after : List GovernanceDecisionRecord}
    {bindId : Option String} {executionId : String} {organizationId userId : Nat}
    (bound : DecisionsBound decisions bindId executionId organizationId userId after)
    (unique : Rows.Unique GovernanceDecisionRecord.decisionId decisions)
    (other : executionId ≠ request.executionId) :
    ∀ decision ∈ decisions, decision.executionId = some request.executionId → decision ∈ after := by
  intro decision member own
  cases bound with
  | unrequested => exact member
  | @bound chosen present _ bindable =>
    simp only [GovernanceDecisionRecord.bindable, decide_eq_true_eq] at bindable
    refine Rows.mem_replace_of_ne member fun sameId => ?_
    -- The decision of the exchange is bound already, so it is not the one that was chosen.
    obtain rfl : decision = chosen := unique.eq member present sameId
    rcases bindable.2.2.2.2 with unbound | elsewhere
    · rw [own] at unbound
      cases unbound
    · exact other (Option.some.inj (elsewhere.symm.trans own))

end Prepared

section PreparedSteps

variable {state : GovernanceState} {request : ExchangeRequest} {decisionId : String}

theorem PreparedExchange.prepareExchange (prepared : PreparedExchange request decisionId state.database)
    (tables : GovernanceTables state.database) (storage : Storage) {other : ExchangeRequest}
    (spares : other.executionId ≠ request.executionId) :
    PreparedExchange request decisionId (state.next (.prepareExchange storage other)).database := by
  simp only [GovernanceState.next]
  have ended := prepareExchange_ending storage state.database other state.clock
  generalize Eiraos.prepareExchange storage state.database other state.clock = ending at ended
  cases ended with
  | refused => exact prepared
  | @exhausted existing assistant _ _ located =>
    refine prepared.kept ?_ fun _ member _ _ => member
    refine tables.others_kept (existing.exhausted assistant state.clock) located.executionMem rfl ?_
    rw [located.executionId]
    exact spares
  | @recovered existing next _ _ _ _ located _ _ _ recoverable _ _ bound =>
    obtain ⟨⟨code, retryable, same⟩, _⟩ := ChatExecution.recoverable_eq_ok recoverable
    have elsewhere : existing.executionId ≠ request.executionId := by
      rw [located.executionId]
      exact spares
    refine prepared.kept ?_ fun decision member _ own =>
      bound.others_kept tables.decisionIds elsewhere decision member own
    exact tables.others_kept (next.restarted state.clock other.governanceDecisionId.isSome)
      located.executionMem (by rw [same]; rfl) elsewhere
  | inserted _ _ bound =>
    exact prepared.kept (fun _ member _ => List.mem_append_left _ member) fun decision member _ own =>
      bound.others_kept tables.decisionIds spares decision member own

theorem PreparedExchange.finalize (prepared : PreparedExchange request decisionId state.database)
    (tables : GovernanceTables state.database) (storage : Storage) {other : FinalizeRequest}
    (spares : other.executionId ≠ request.executionId) :
    PreparedExchange request decisionId (state.next (.finalize storage other)).database := by
  simp only [GovernanceState.next]
  have ended := finalize_ending storage state.database other state.clock
  generalize Eiraos.finalize storage state.database other state.clock = ending at ended
  cases ended with
  | unchanged => exact prepared
  | @finalized terminal execution assistant record usage _ located =>
    have elsewhere : execution.executionId ≠ request.executionId := by
      rw [located.executionId]
      exact spares
    have executions := tables.others_kept (execution.finalized terminal other state.clock)
      located.executionMem rfl elsewhere
    refine prepared.kept ?_ fun decision member _ own => ?_
    · cases record with
      | none => exact executions
      | some => exact executions
    · refine List.mem_map.mpr ⟨decision, member, if_neg fun awaits => ?_⟩
      simp only [GovernanceDecisionRecord.awaits, decide_eq_true_eq] at awaits
      exact elsewhere (Option.some.inj (awaits.1.symm.trans own))

/-- Losing rows of the ledger does not unbind an exchange whose own record is still there. -/
theorem PreparedExchange.leaseChange (prepared : PreparedExchange request decisionId state.database)
    {table : IdempotencyTable} (held : LeaseHeld request (state.next (.leaseChange table))) :
    PreparedExchange request decisionId (state.next (.leaseChange table)).database := by
  obtain ⟨execution, present, decision, member, sameId, sameRecord, status, sameDecision, awaits⟩ := prepared
  refine ⟨_, List.mem_map_of_mem present, decision, member, sameId, ?_, status, sameDecision, awaits⟩
  simp only [sameRecord]
  cases bound : request.idempotencyRecordId with
  | none => rfl
  | some recordId =>
    obtain ⟨record, selected, _⟩ := held recordId bound
    obtain ⟨recordMem, recordIs⟩ := IdempotencyTable.selectById?_some selected
    have referenced : (table.rows.any fun record => record.id = recordId) = true :=
      List.any_eq_true.mpr ⟨record, recordMem, by simpa using recordIs⟩
    simp [Option.filter, referenced]

/-- Whatever other requests do, the exchange stays prepared while its lease is held. -/
theorem PreparedExchange.step (prepared : PreparedExchange request decisionId state.database)
    (tables : GovernanceTables state.database) {label : GovernanceLabel}
    (spares : label.spares request.executionId decisionId)
    (held : LeaseHeld request (state.next label)) :
    PreparedExchange request decisionId (state.next label).database := by
  cases label with
  | tick => exact prepared
  | recordProviderDecision storage otherId organizationId userId allowed =>
    simp only [GovernanceState.next]
    rcases recordProviderDecision_cases storage state.database otherId organizationId userId allowed
      state.clock with unchanged | ⟨_, recorded⟩
    · rw [unchanged]
      exact prepared
    · rw [recorded]
      exact prepared.kept (fun _ member _ => member) fun _ member _ _ => List.mem_append_left _ member
  | recordResult storage otherId resultStatus responseStatus failureCode =>
    simp only [GovernanceState.next]
    rcases recordResult_cases storage state.database otherId resultStatus responseStatus failureCode
      state.clock with unchanged | ⟨other, _, otherIs, _, _, reported⟩
    · rw [unchanged]
      exact prepared
    · rw [reported]
      refine prepared.kept (fun _ member _ => member) fun decision member sameId _ => ?_
      refine Rows.mem_replace_of_ne member fun same => spares ?_
      exact otherIs.symm.trans (same.symm.trans sameId)
  | prepareExchange storage other => exact prepared.prepareExchange tables storage spares
  | markStreaming storage executionId =>
    simp only [GovernanceState.next]
    have ended := markStreaming_ending storage state.database executionId
    generalize markStreaming storage state.database executionId = ending at ended
    cases ended with
    | unchanged => exact prepared
    | @streamed execution assistant located =>
      refine prepared.kept ?_ fun _ member _ _ => member
      refine tables.others_kept { execution with status := .streaming } located.executionMem rfl ?_
      rw [located.executionId]
      exact spares
  | assertRecoveryAllowed storage executionId idempotencyRecordId leaseToken =>
    simp only [GovernanceState.next]
    have ended := assertRecoveryAllowed_ending storage state.database executionId idempotencyRecordId
      leaseToken state.clock
    generalize assertRecoveryAllowed storage state.database executionId idempotencyRecordId leaseToken
      state.clock = ending at ended
    cases ended with
    | unchanged => exact prepared
    | @exhausted execution assistant _ _ located =>
      refine prepared.kept ?_ fun _ member _ _ => member
      refine tables.others_kept (execution.exhausted assistant state.clock) located.executionMem rfl ?_
      rw [located.executionId]
      exact spares
  | finalize storage other => exact prepared.finalize tables storage spares
  | leaseChange table => exact prepared.leaseChange held

end PreparedSteps

end Eiraos
