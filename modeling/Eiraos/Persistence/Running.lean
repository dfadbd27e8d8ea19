import Eiraos.Persistence.Fencing

/-! # Which executions are running, and who started them

A step either carries an execution on, and then it runs only if it ran before, or starts
an attempt of it: for the lease owner of its record, or for the request that inserts it.
-/

namespace Eiraos

open IdempotencyTable RequestState

/-- A later row of the same execution, on which no attempt was started in between. -/
structure ChatExecution.Continues (before after : ChatExecution) : Prop where
  executionId : after.executionId = before.executionId
  organizationId : after.organizationId = before.organizationId
  userId : after.userId = before.userId
  running : after.status.isTerminal = false → before.status.isTerminal = false

theorem ChatExecution.Continues.refl (execution : ChatExecution) : execution.Continues execution :=
  ⟨rfl, rfl, rfl, fun running => running⟩

/-- An attempt for a request of this scope. -/
structure ExchangeRequest.Starts (request : ExchangeRequest) (database : Database) (now : Instant)
    (after : ChatExecution) : Prop where
  executionId : after.executionId = request.executionId
  organizationId : after.organizationId = request.organizationId
  userId : after.userId = request.userId
  entitled : (∃ existing record, LeaseOwner database existing request.leaseToken now record) ∨
    ∀ execution ∈ database.executions, execution.executionId ≠ request.executionId

section Calls

variable {database : Database}

theorem continues_replace {execution next : ChatExecution} (present : execution ∈ database.executions)
    (continues : execution.Continues next) :
    ∀ after ∈ Rows.replace ChatExecution.id next database.executions,
      ∃ before ∈ database.executions, before.Continues after :=
  Rows.forall_replace ⟨execution, present, continues⟩ fun after member => ⟨after, member, .refl after⟩

theorem prepareExchange_executions {history : List LedgerEvent} (ledger : LedgerInvariant database history)
    (storage : Storage) (request : ExchangeRequest) (now : Instant) :
    ∀ after ∈ (prepareExchange storage database request now).1.executions,
      (∃ before ∈ database.executions, before.Continues after) ∨
        (prepareExchange storage database request now).2.isOk = true ∧
          request.Starts database now after := by
  have ended := prepareExchange_ending storage database request now
  generalize prepareExchange storage database request now = ending at ended
  intro after member
  cases ended with
  | refused => exact .inl ⟨after, member, .refl after⟩
  | @exhausted existing assistant _ _ located =>
    have continues : existing.Continues (existing.exhausted assistant now) :=
      ⟨rfl, rfl, rfl, fun running => by cases running⟩
    exact .inl (continues_replace located.executionMem continues after member)
  | @recovered existing next _ _ _ _ located _ owner _ recoverable _ scope =>
    obtain ⟨⟨code, retryable, same⟩, _⟩ := ChatExecution.recoverable_eq_ok recoverable
    rcases Rows.mem_replace.mp member with ⟨rfl, _⟩ | ⟨member, _⟩
    · obtain ⟨persisted, snapped⟩ := (ledger.represented _ located.executionMem).snapshot_ok
        (next.restarted now request.governanceDecisionId.isSome) (by rw [same]; exact ⟨rfl, rfl⟩)
      simp only [ChatExecution.sameScope, decide_eq_true_eq] at scope
      refine .inr ⟨by rw [snapped]; rfl, ?_, ?_, ?_, .inl ⟨existing, _, owner⟩⟩
      · rw [same]
        exact located.executionId
      · rw [same]
        exact scope.1
      · rw [same]
        exact scope.2.1
    · exact .inl ⟨after, member, .refl after⟩
  | inserted absent =>
    rcases List.mem_append.mp member with member | member
    · exact .inl ⟨after, member, .refl after⟩
    · rw [List.mem_singleton.mp member]
      exact .inr ⟨rfl, rfl, rfl, rfl, .inr absent⟩

theorem markStreaming_executions (storage : Storage) (executionId : String) :
    ∀ after ∈ (markStreaming storage database executionId).1.executions,
      ∃ before ∈ database.executions, before.Continues after := by
  have ended := markStreaming_ending storage database executionId
  generalize markStreaming storage database executionId = ending at ended
  cases ended with
  | unchanged => exact fun after member => ⟨after, member, .refl after⟩
  | streamed located running =>
    exact continues_replace located.executionMem ⟨rfl, rfl, rfl, fun _ => running⟩

theorem assertRecoveryAllowed_executions (storage : Storage) (executionId : String)
    (idempotencyRecordId : Nat) (leaseToken : Option String) (now : Instant) :
    ∀ after ∈ (assertRecoveryAllowed storage database executionId idempotencyRecordId leaseToken
        now).1.executions,
      ∃ before ∈ database.executions, before.Continues after := by
  have ended := assertRecoveryAllowed_ending storage database executionId idempotencyRecordId
    leaseToken now
  generalize assertRecoveryAllowed storage database executionId idempotencyRecordId leaseToken now =
    ending at ended
  cases ended with
  | unchanged => exact fun after member => ⟨after, member, .refl after⟩
  | @exhausted execution assistant _ _ located =>
    have continues : execution.Continues (execution.exhausted assistant now) :=
      ⟨rfl, rfl, rfl, fun running => by cases running⟩
    exact continues_replace located.executionMem continues

theorem finalize_executions (storage : Storage) (request : FinalizeRequest) (now : Instant) :
    ∀ after ∈ (finalize storage database request now).1.executions,
      ∃ before ∈ database.executions, before.Continues after := by
  have ended := finalize_ending storage database request now
  generalize finalize storage database request now = ending at ended
  cases ended with
  | unchanged => exact fun after member => ⟨after, member, .refl after⟩
  | @finalized terminal execution _ record _ _ located running =>
    have continues : execution.Continues (execution.finalized terminal request now) :=
      ⟨rfl, rfl, rfl, fun _ => running⟩
    cases record with
    | none => exact continues_replace located.executionMem continues
    | some => exact continues_replace located.executionMem continues

theorem withIdempotency_executions (table : IdempotencyTable) :
    ∀ after ∈ (database.withIdempotency table).executions,
      ∃ before ∈ database.executions, before.Continues after := by
  intro after member
  obtain ⟨execution, executionMem, _, rfl, _⟩ := mem_withIdempotency member
  exact ⟨execution, executionMem, rfl, rfl, rfl, fun running => running⟩

end Calls

/-- The caller's `prepare_exchange` returned and started an attempt. -/
structure StartedAttempt (executionIdentity : Nat × Nat × String → Nat → String)
    (state : RequestState) (label : RequestLabel) (next : RequestState) (caller : LeasedRequest)
    (after : ChatExecution) : Prop where
  called : ∃ storage exchange, label = .prepareExchange caller.token storage exchange
  callerMem : caller ∈ state.requests
  persisted : next.requests =
    Rows.replace LeasedRequest.token { caller with persisted := true } state.requests
  executionId : after.executionId = executionOf executionIdentity caller
  organizationId : after.organizationId = caller.request.organizationId
  userId : after.userId = caller.request.userId
  entitled : (∃ existing record,
      LeaseOwner state.database existing (some caller.token) state.clock record) ∨
    ∀ execution ∈ state.database.executions,
      execution.executionId ≠ executionOf executionIdentity caller

theorem RequestState.step_executions {executionIdentity : Nat × Nat × String → Nat → String}
    {state next : RequestState} {label : RequestLabel}
    (invariant : RequestInvariant state.database state.requests)
    (stepped : RequestState.step executionIdentity state label = some next) :
    ∀ after ∈ next.database.executions,
      (∃ before ∈ state.database.executions, before.Continues after) ∨
        ∃ caller, StartedAttempt executionIdentity state label next caller after := by
  cases label with
  | tick elapsed =>
    cases stepped
    exact fun after member => .inl ⟨after, member, .refl after⟩
  | begin request attempts token =>
    simp only [RequestState.step] at stepped
    split at stepped
    · contradiction
    · cases stepped
      exact fun after member => .inl (withIdempotency_executions _ after member)
  | renew token =>
    obtain ⟨caller, _, rfl⟩ := Option.map_eq_some_iff.mp stepped
    exact fun after member => .inl (withIdempotency_executions _ after member)
  | failPreflight token responseStatus reference =>
    obtain ⟨caller, _, called⟩ := Option.bind_eq_some_iff.mp stepped
    split at called
    · contradiction
    · cases called
      exact fun after member => .inl (withIdempotency_executions _ after member)
  | cleanup =>
    cases stepped
    exact fun after member => .inl (withIdempotency_executions _ after member)
  | assertRecoveryAllowed token storage =>
    obtain ⟨caller, _, rfl⟩ := Option.map_eq_some_iff.mp stepped
    exact fun after member => .inl (assertRecoveryAllowed_executions _ _ _ _ _ after member)
  | prepareExchange token storage exchange =>
    obtain ⟨caller, found, called⟩ := Option.bind_eq_some_iff.mp stepped
    obtain ⟨callerMem, rfl⟩ := caller?_some found
    split at called
    · contradiction
    · cases called
      obtain ⟨history, ledger⟩ := invariant.ledger
      intro after member
      -- Only a call that returns has started an attempt, and it leaves its caller persisted.
      rcases prepareExchange_executions ledger storage (exchangeOf executionIdentity caller exchange)
        state.clock after member with continued | ⟨returned, starts⟩
      · exact .inl continued
      · refine .inr ⟨caller, ⟨storage, exchange, rfl⟩, callerMem, ?_, starts.executionId,
          starts.organizationId, starts.userId, starts.entitled⟩
        simp only [returned, Bool.or_true]
  | markStreaming token storage =>
    obtain ⟨caller, _, rfl⟩ := Option.map_eq_some_iff.mp stepped
    exact fun after member => .inl (markStreaming_executions _ _ after member)
  | finalize token storage request =>
    obtain ⟨caller, _, called⟩ := Option.bind_eq_some_iff.mp stepped
    split at called
    · cases called
      exact fun after member => .inl (finalize_executions _ _ _ after member)
    · contradiction

/-- Requests only join, and go on from where they are. -/
theorem RequestState.step_requests {executionIdentity : Nat × Nat × String → Nat → String}
    {state next : RequestState} {label : RequestLabel}
    (invariant : RequestInvariant state.database state.requests)
    (stepped : RequestState.step executionIdentity state label = some next) {caller : LeasedRequest}
    (member : caller ∈ state.requests) : ∃ later ∈ next.requests, caller.Advanced later := by
  cases step_moved invariant stepped with
  | ticked => exact ⟨caller, member, .refl caller⟩
  | ledger change => exact ⟨caller, change.kept caller member, .refl caller⟩
  | @called _ called marked _ calledMem same _ _ =>
    by_cases isMarked : caller.token = marked.token
    · have isCalled : caller = called := invariant.tokens.eq member calledMem (isMarked.trans same.token)
      exact ⟨marked, Rows.mem_replace_self member isMarked, isCalled ▸ same⟩
    · exact ⟨caller, Rows.mem_replace_of_ne member isMarked, .refl caller⟩

theorem RequestState.step_clock {executionIdentity : Nat × Nat × String → Nat → String}
    {state next : RequestState} {label : RequestLabel}
    (invariant : RequestInvariant state.database state.requests)
    (stepped : RequestState.step executionIdentity state label = some next) :
    state.clock ≤ next.clock := by
  cases step_moved invariant stepped with
  | ticked => exact Nat.le_add_right _ _
  | ledger => exact Nat.le_refl _
  | called => exact Nat.le_refl _

end Eiraos
