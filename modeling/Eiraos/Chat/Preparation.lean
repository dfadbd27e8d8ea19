import Eiraos.Chat.Preflight
import Eiraos.Foundations.PythonText
import Eiraos.Persistence.Interleaving

/-! # Failures of the provider preparation (`api/v1/chat.py`)

The last stage of the preflight runs after `prepare_exchange` has committed, on the same
database session: the knowledge search and the history are statements of a new
transaction.  A statement that fails aborts the transaction, and every further statement
fails until it is rolled back.
-/

namespace Eiraos

open PythonText

/-- What is committed, and whether the current transaction is aborted. -/
structure Session where
  database : Database
  aborted : Bool
  deriving DecidableEq, Repr

namespace Session

/-- A statement that only reads. -/
def statement (answers : Bool) : Stage Session PreflightError Unit := fun session =>
  if session.aborted || !answers then ({ session with aborted := true }, .error .sqlAlchemyError)
  else (session, .ok ())

/-- A step that does not use the session. -/
def computation (outcome : Except PreflightError Unit) : Stage Session PreflightError Unit :=
  fun session => (session, outcome)

/-- `try: ... except Exception: pass`. -/
def swallowing (stage : Stage Session PreflightError Unit) : Stage Session PreflightError Unit :=
  fun session => ((stage session).1, .ok ())

/-- `finalize` on this session, whose commit succeeds.  In an aborted transaction its first
query fails; either way the transaction is over. -/
def finalize (request : FinalizeRequest) (now : Instant) : Stage Session PersistenceError Bool :=
  fun session =>
    let ending := Eiraos.finalize ⟨!session.aborted, true, true⟩ session.database request now
    (⟨ending.1, false⟩, ending.2)

end Session

open Session

/-- What the environment decides: the outcomes of the steps, and which statements are
answered. -/
structure Preparation where
  provider : Except PreflightError Unit
  knowledgeScope : Option String
  prompt : String
  embedding : Except PreflightError Unit
  vectorSearch : Bool
  textSearch : Bool
  history : Bool
  context : Except PreflightError Unit
  deriving DecidableEq, Repr

namespace Preparation

variable (table : CaseTable) (run : Preparation)

/-- `RAGService.hybrid_search` without a caller: the text search is optional. -/
def hybridSearch (scope : String) : Stage Session PreflightError Unit :=
  if lower table scope = "private" then computation (.error .other)
  else
    (statement run.vectorSearch).andThen fun _ =>
      if strip run.prompt ≠ "" then swallowing (statement run.textSearch) else .done ()

/-- `_knowledge_context`. -/
def knowledgeContext : Stage Session PreflightError Unit :=
  match run.knowledgeScope with
  | none => .done ()
  | some scope =>
    if scope = "" then .done ()
    else (computation run.embedding).andThen fun _ => run.hybridSearch table scope

/-- `prepare_provider`; the execution was persisted before. -/
def prepareProvider : Stage Session PreflightError Unit :=
  (computation run.provider).andThen fun _ =>
  (run.knowledgeContext table).andThen fun _ =>
  (statement run.history).andThen fun _ =>
  computation run.context

/-- `fail_preflight` for a persisted execution; a `PersistenceConflict` and a
`PersistenceUnavailable` are swallowed. -/
def failPreflight (exchange : ExchangeRequest) (failure : PreflightFailure) (now : Instant)
    (session : Session) : Session :=
  (session.finalize
    { executionId := exchange.executionId
      terminalStatus := "failed"
      content := ""
      responseStatus := failure.statusCode
      responseReference := "failed"
      leaseToken := exchange.leaseToken
      failureCode := some failure.failureCode
      accounting := [] } now).1

/-- The stage and the handlers around it, from the tables as they are then. -/
def prepare (exchange : ExchangeRequest) (state : GovernanceState) :
    Database × Except PreflightFailure Unit :=
  match run.prepareProvider table ⟨state.database, false⟩ with
  | (session, .ok ()) => (session.database, .ok ())
  | (session, .error error) =>
    ((failPreflight exchange error.handled state.clock session).database, .error error.handled)

/-- A statement of the stage is answered with an error. -/
def statementFails : Bool :=
  run.provider.isOk &&
    match run.knowledgeScope with
    | none => !run.history
    | some scope =>
      if scope = "" then !run.history
      else
        run.embedding.isOk && decide (lower table scope ≠ "private") &&
          (!run.vectorSearch || decide (strip run.prompt ≠ "") && !run.textSearch || !run.history)

/-- A failed statement is the only thing that aborts the transaction, and no path leaves the
stage normally after one: the history is read last. -/
theorem prepareProvider_session (database : Database) :
    (run.prepareProvider table ⟨database, false⟩).1 = ⟨database, run.statementFails table⟩ ∧
      (run.statementFails table = true →
        (run.prepareProvider table ⟨database, false⟩).2 = .error .sqlAlchemyError) := by
  have read : ∀ aborted answers, statement answers ⟨database, aborted⟩ =
      (⟨database, aborted || !answers⟩,
        if aborted || !answers then .error .sqlAlchemyError else .ok ()) := by
    intro aborted answers
    cases aborted <;> cases answers <;> rfl
  unfold prepareProvider statementFails knowledgeContext
  cases run.provider with
  | error => simp [Stage.andThen, computation, Except.isOk, Except.toBool]
  | ok =>
    cases run.knowledgeScope with
    | none =>
      cases history : run.history <;>
        simp [Stage.andThen, Stage.done, computation, read, Except.isOk, Except.toBool]
    | some scope =>
      by_cases empty : scope = ""
      · cases history : run.history <;>
          simp [Stage.andThen, Stage.done, computation, read, empty, Except.isOk, Except.toBool]
      · cases run.embedding with
        | error => simp [Stage.andThen, computation, empty, Except.isOk, Except.toBool]
        | ok =>
          by_cases isPrivate : lower table scope = "private"
          · simp [Stage.andThen, computation, hybridSearch, empty, isPrivate, Except.isOk, Except.toBool]
          · cases vector : run.vectorSearch with
            | false =>
              simp [Stage.andThen, computation, hybridSearch, read, empty, isPrivate, vector, Except.isOk,
                Except.toBool]
            | true =>
              -- The text search is swallowed, and the history finds its transaction aborted.
              by_cases blank : strip run.prompt = ""
              · cases history : run.history <;>
                  simp [Stage.andThen, Stage.done, computation, hybridSearch, read, empty, isPrivate, vector,
                    blank, Except.isOk, Except.toBool]
              · cases text : run.textSearch <;> cases history : run.history <;>
                  simp [Stage.andThen, computation, swallowing, hybridSearch, read, empty, isPrivate, vector,
                    blank, text, Except.isOk, Except.toBool]

end Preparation

/-! ## The terminal write of the handlers -/

/-- The failure is on the execution, its record and its decision. -/
structure FailureRecorded (exchange : ExchangeRequest) (decisionId : String) (failureCode : FailureCode)
    (database : Database) : Prop where
  execution : ∃ execution, database.execution? exchange.executionId = some execution ∧
    execution.status = .terminal .failed ∧ execution.lastFailureCode = some failureCode
  record : ∀ recordId, exchange.idempotencyRecordId = some recordId →
    ∃ record, database.idempotency.selectById? recordId = some record ∧ record.status = .failed
  decision : ∃ decision ∈ database.decisions, decision.decisionId = decisionId ∧
    decision.finalizedAt ≠ none

theorem IdempotencyTable.selectById?_update {table : IdempotencyTable} {recordId : Nat}
    {record changed : IdempotencyRecord} (selected : table.selectById? recordId = some record)
    (sameId : changed.id = record.id) : (table.update changed).selectById? recordId = some changed := by
  obtain ⟨_, isRecord⟩ := IdempotencyTable.selectById?_some selected
  unfold IdempotencyTable.selectById? IdempotencyTable.update Rows.replace at *
  have sameCondition : (fun other : IdempotencyRecord =>
      decide ((if other.id = changed.id then changed else other).id = recordId)) =
      fun other => decide (other.id = recordId) := by
    funext other
    split
    next same => rw [same]
    next => rfl
  rw [List.find?_map, Function.comp_def, sameCondition, selected, Option.map_some, if_pos sameId.symm]

section Failure

variable {state : GovernanceState} {exchange : ExchangeRequest} {decisionId : String}

theorem GovernanceTables.assistantOf {database : Database} (tables : GovernanceTables database)
    {execution : ChatExecution} (present : execution ∈ database.executions) :
    ∃ assistant, Eiraos.assistantOf database execution = .ok assistant := by
  obtain ⟨history, invariant⟩ := tables.ledger
  obtain ⟨message, single, bound, _⟩ := (invariant.represented execution present).assistant
  have listed : message ∈ messagesOf database.messages execution.executionId .assistant := by
    rw [single]
    exact List.mem_singleton.mpr rfl
  obtain ⟨messageMem, own⟩ := List.mem_filter.mp listed
  have found : (database.assistant? execution).isSome = true := by
    refine List.find?_isSome.mpr ⟨message, messageMem, ?_⟩
    simpa [bound] using own
  obtain ⟨assistant, selected⟩ := Option.isSome_iff_exists.mp found
  exact ⟨assistant, by rw [Eiraos.assistantOf, selected]; rfl⟩

/-- The record `finalize` selects while the lease is held. -/
theorem LeaseHeld.finalizingRecord (held : LeaseHeld exchange state) {execution : ChatExecution}
    (sameRecord : execution.idempotencyRecordId = exchange.idempotencyRecordId) :
    (exchange.idempotencyRecordId = none ∧
      Eiraos.finalizingRecord state.database execution exchange.leaseToken state.clock = .ok none) ∨
    ∃ recordId record, exchange.idempotencyRecordId = some recordId ∧
      state.database.idempotency.selectById? recordId = some record ∧
      Eiraos.finalizingRecord state.database execution exchange.leaseToken state.clock =
        .ok (some record) := by
  unfold Eiraos.finalizingRecord
  rw [sameRecord]
  cases bound : exchange.idempotencyRecordId with
  | none => exact .inl ⟨rfl, rfl⟩
  | some recordId =>
    obtain ⟨record, selected, owned⟩ := held recordId bound
    simp only [IdempotencyRecord.ownedBy, decide_eq_true_eq, Bool.not_eq_true] at owned
    refine .inr ⟨recordId, record, rfl, selected, ?_⟩
    simp only [selected, Guarded.required, Guarded.ensure, owned, and_self, if_true, bind, Except.bind]
    rfl

/-- While the exchange is prepared and its lease is held, a failing `finalize` succeeds and
records the failure. -/
theorem PreparedExchange.fail (prepared : PreparedExchange exchange decisionId state.database)
    (tables : GovernanceTables state.database) (held : LeaseHeld exchange state)
    {request : FinalizeRequest} {code : FailureCode} (sameId : request.executionId = exchange.executionId)
    (failed : request.terminalStatus = "failed") (sameToken : request.leaseToken = exchange.leaseToken)
    (coded : request.failureCode = some code) (unaccounted : request.accounting = []) :
    FailureRecorded exchange decisionId code
      (Eiraos.finalize .available state.database request state.clock).1 := by
  obtain ⟨execution, present, decision, member, ownId, sameRecord, status, sameDecision, awaits⟩ := prepared
  obtain ⟨history, invariant⟩ := tables.ledger
  obtain ⟨assistant, read⟩ := tables.assistantOf present
  have found : state.database.execution? request.executionId = some execution :=
    invariant.execution?_eq present (ownId.trans sameId.symm)
  have parsed : TerminalStatus.parse? request.terminalStatus = some .failed := by rw [failed]; decide
  have awaited : (state.database.decisions.any fun decision => decision.awaits execution) = true :=
    List.any_eq_true.mpr ⟨decision, member, awaits⟩
  -- The decision waits and nothing is accounted, so only the record could stop the call.
  have written : ∀ record,
      Eiraos.finalizingRecord state.database execution request.leaseToken state.clock = .ok record →
      (Eiraos.finalize .available state.database request state.clock).1 =
        state.database.finalized execution assistant record state.database.usage .failed request
          state.clock := by
    intro record selected
    have body : finalizeTerminal state.database .failed request state.clock =
        .ok (.committed (state.database.finalized execution assistant record state.database.usage .failed
          request state.clock) (.ok true) "chat execution finalization could not be committed") := by
      simp only [finalizeTerminal, lockedExecution, found, Guarded.required, status,
        ExecutionStatus.isTerminal, bind, Except.bind, Bool.false_eq_true, if_false, coded, Option.isSome_some,
        implies_true, Guarded.ensure, if_true, selected, read, awaited, unaccounted, recordAccounting]
      rfl
    have served : (Storage.available.queries && Storage.available.commits) = true := rfl
    simp only [Eiraos.finalize, parsed, body, settle_served served]
  have failedExecution : (Rows.replace ChatExecution.id
      (execution.finalized .failed request state.clock) state.database.executions).find?
        (fun other => other.executionId = exchange.executionId) =
      some (execution.finalized .failed request state.clock) := by
    have unique : Rows.Unique ChatExecution.executionId (Rows.replace ChatExecution.id
        (execution.finalized .failed request state.clock) state.database.executions) := by
      refine invariant.executionIds.replace fun other otherMem same => ?_
      have isExecution : other = execution := invariant.ids.eq otherMem present same
      rw [isExecution]
      rfl
    rw [← ownId]
    exact unique.find?_eq_some (Rows.mem_replace_self present rfl)
  have code_ : (execution.finalized .failed request state.clock).lastFailureCode = some code := by
    simp [ChatExecution.finalized, coded]
  have closed : ∃ other ∈ state.database.decisions.map (fun decision =>
      if decision.awaits execution then decision.resolved .failed request state.clock else decision),
      other.decisionId = decisionId ∧ other.finalizedAt ≠ none := by
    refine ⟨_, List.mem_map_of_mem member, ?_⟩
    rw [if_pos awaits]
    exact ⟨sameDecision, Option.some_ne_none _⟩
  rcases held.finalizingRecord sameRecord with ⟨unbound, selected⟩ |
    ⟨recordId, record, bound, selectedRecord, selected⟩
  · rw [written none (sameToken ▸ selected)]
    refine ⟨⟨_, failedExecution, rfl, code_⟩, fun recordId other => ?_, closed⟩
    rw [unbound] at other
    cases other
  · rw [written (some record) (sameToken ▸ selected)]
    refine ⟨⟨_, failedExecution, rfl, code_⟩, fun other otherBound => ?_, closed⟩
    obtain rfl : recordId = other := Option.some.inj (bound.symm.trans otherBound)
    refine ⟨_, IdempotencyTable.selectById?_update selectedRecord rfl, ?_⟩
    -- No failure policy answers with a success, so the record is closed as failed.
    have refused : ¬(200 ≤ request.effectiveStatus ∧ request.effectiveStatus < 300) := by
      simpa only [FinalizeRequest.effectiveStatus, coded] using failurePolicy_not_success code
    exact if_neg refused

end Failure

/-- The failure of a preparation that raises after `prepare_exchange` has committed is
recorded if and only if no statement of the preparation failed. -/
theorem preparation_failure_recorded_iff {clock : Instant} {before others : List GovernanceLabel}
    {state later : GovernanceState} {storage : Storage} {exchange : ExchangeRequest} {decisionId : String}
    {after : Database} {persisted : PersistedChatExecution} {table : CaseTable} {run : Preparation}
    {final : Database} {failure : PreflightFailure}
    (reached : Transition.run GovernanceState.step (GovernanceState.initial clock) before = some state)
    (allowed : Transition.Throughout GovernanceState.step (fun _ label => label.attemptsAllowed)
      (GovernanceState.initial clock) before)
    (named : exchange.governanceDecisionId = some decisionId) (attempts : 1 ≤ exchange.maxAttempts)
    (returned : prepareExchange storage state.database exchange state.clock = (after, .ok persisted))
    (interleaved : Transition.run GovernanceState.step ⟨after, state.clock⟩ others = some later)
    (spares : Transition.Throughout GovernanceState.step
      (fun _ label => label.attemptsAllowed ∧ label.spares exchange.executionId decisionId)
      ⟨after, state.clock⟩ others)
    (held : Transition.Always GovernanceState.step (LeaseHeld exchange) ⟨after, state.clock⟩ others)
    (raised : run.prepare table exchange later = (final, .error failure)) :
    FailureRecorded exchange decisionId failure.failureCode final ↔ run.statementFails table = false := by
  have tables := Transition.run_invariant_throughout
    (fun state : GovernanceState => GovernanceTables state.database)
    (fun _ label _ tables allowed stepped => by
      cases stepped
      exact tables.step allowed)
    (governanceTables_initial clock) allowed reached
  have tablesAfter : GovernanceTables after := by
    have stepped := @GovernanceTables.step state (.prepareExchange storage exchange) tables attempts
    simpa only [GovernanceState.next, returned] using stepped
  have laterHolds := Transition.run_invariant_throughout
    (fun state : GovernanceState => GovernanceTables state.database ∧
      PreparedExchange exchange decisionId state.database)
    (fun _ label _ holds conditions stepped => by
      obtain ⟨⟨allowed, spared⟩, heldNext⟩ := conditions
      have heldAfter := heldNext _ stepped
      cases stepped
      exact ⟨holds.1.step allowed, holds.2.step holds.1 spared heldAfter⟩)
    ⟨tablesAfter, prepareExchange_prepared named returned⟩ (spares.and held.throughout) interleaved
  obtain ⟨tablesLater, prepared⟩ := laterHolds
  have heldLater : LeaseHeld exchange later := held others (List.prefix_refl _) later interleaved
  obtain ⟨session, failing⟩ := run.prepareProvider_session table later.database
  generalize staged : run.prepareProvider table ⟨later.database, false⟩ = ending at session failing
  obtain ⟨closed, outcome⟩ := ending
  cases session
  unfold Preparation.prepare at raised
  rw [staged] at raised
  cases outcome with
  | ok => cases raised
  | error error =>
    obtain ⟨finalIs, failureIs⟩ := Prod.mk.inj raised
    cases failureIs
    cases failed : run.statementFails table with
    | false =>
      refine iff_of_true ?_ rfl
      rw [← finalIs, failed]
      exact prepared.fail tablesLater heldLater rfl rfl rfl rfl rfl
    | true =>
      refine iff_of_false (fun recorded => ?_) (by simp)
      -- The first query of `finalize` fails in the aborted transaction.
      have unchanged : final = later.database := by
        rw [← finalIs, failed]
        rfl
      obtain ⟨execution, present, _, _, ownId, _, status, _⟩ := prepared
      obtain ⟨history, invariant⟩ := tablesLater.ledger
      obtain ⟨other, found, isFailed, _⟩ := recorded.execution
      rw [unchanged, invariant.execution?_eq present ownId] at found
      obtain rfl : execution = other := Option.some.inj found
      rw [status] at isFailed
      cases isFailed

/-! ## A context that is too large, and a history that cannot be read -/

/-- A leased record and an allowed decision. -/
def decidedRequest : List GovernanceLabel :=
  [.leaseChange (beginIdempotency ⟨[], 0⟩ ⟨1, 2, "key", "digest"⟩ 0 0 "token").1,
    .recordProviderDecision .available "decision" 1 2 true]

def decidedExchange : ExchangeRequest where
  executionId := "execution"
  requestId := "request"
  conversationId := 3
  organizationId := 1
  userId := 2
  botId := 4
  botOrganizationId := 1
  provider := "openai"
  model := "gpt-4o"
  prompt := "hello"
  idempotencyRecordId := some 0
  estimatedTokens := 1026
  estimatedCost := 0
  verification := false
  recover := false
  leaseToken := some "token"
  maxAttempts := 3
  governanceDecisionId := some "decision"

/-- The history is answered or not; with it the context is rejected. -/
def rejectedContext (history : Bool) : Preparation where
  provider := .ok ()
  knowledgeScope := none
  prompt := "hello"
  embedding := .ok ()
  vectorSearch := true
  textSearch := true
  history
  context := .error .contextBudgetExceeded

theorem preparation_failure_recorded_iff_rejected :
    ∃ state after persisted later final,
      Transition.run GovernanceState.step (GovernanceState.initial 0) decidedRequest = some state ∧
      prepareExchange .available state.database decidedExchange state.clock = (after, .ok persisted) ∧
      Transition.run GovernanceState.step ⟨after, state.clock⟩ [.tick 1] = some later ∧
      (rejectedContext true).prepare (fun _ character _ => [character]) decidedExchange later =
        (final, .error PreflightError.contextBudgetExceeded.handled) ∧
      (FailureRecorded decidedExchange "decision" .contextRejected final ↔
        (rejectedContext true).statementFails (fun _ character _ => [character]) = false) := by
  refine ⟨_, _, _, _, _, rfl, rfl, rfl, rfl, ?_⟩
  refine @preparation_failure_recorded_iff 0 decidedRequest [.tick 1] _ _ .available decidedExchange
    "decision" _ _ _ (rejectedContext true) _ PreflightError.contextBudgetExceeded.handled rfl
    ⟨trivial, trivial, trivial⟩ rfl (by decide) rfl rfl ⟨⟨trivial, trivial⟩, trivial⟩ ?_ rfl
  refine (Transition.always_cons rfl).mpr ⟨?_, ?_⟩
  · intro recordId bound
    cases bound
    exact ⟨_, rfl, rfl⟩
  · intro others later reached ran
    rw [List.prefix_nil.mp later] at ran
    cases ran
    intro recordId bound
    cases bound
    exact ⟨_, rfl, rfl⟩

/-- The history query fails, and with it the cleanup: the execution stays prepared and the
record is processing. -/
theorem failed_history_unrecorded :
    ¬∀ (clock : Instant) (before others : List GovernanceLabel) (state later : GovernanceState)
      (storage : Storage) (exchange : ExchangeRequest) (decisionId : String) (after : Database)
      (persisted : PersistedChatExecution),
      Transition.run GovernanceState.step (GovernanceState.initial clock) before = some state →
      Transition.Throughout GovernanceState.step (fun _ label => label.attemptsAllowed)
        (GovernanceState.initial clock) before →
      exchange.governanceDecisionId = some decisionId → 1 ≤ exchange.maxAttempts →
      prepareExchange storage state.database exchange state.clock = (after, .ok persisted) →
      Transition.run GovernanceState.step ⟨after, state.clock⟩ others = some later →
      Transition.Throughout GovernanceState.step
        (fun _ label => label.attemptsAllowed ∧ label.spares exchange.executionId decisionId)
        ⟨after, state.clock⟩ others →
      Transition.Always GovernanceState.step (LeaseHeld exchange) ⟨after, state.clock⟩ others →
      ∀ (table : CaseTable) (run : Preparation) (final : Database) (failure : PreflightFailure),
      run.prepare table exchange later = (final, .error failure) →
      FailureRecorded exchange decisionId failure.failureCode final := by
  intro recorded
  have claimed := recorded 0 decidedRequest [] _ _ .available decidedExchange "decision" _ _ rfl
    ⟨trivial, trivial, trivial⟩ rfl (by decide) rfl rfl trivial (fun others later reached ran => by
      rw [List.prefix_nil.mp later] at ran
      cases ran
      intro recordId bound
      cases bound
      exact ⟨_, rfl, rfl⟩)
    (fun _ character _ => [character]) (rejectedContext false) _ _ rfl
  obtain ⟨execution, found, failed, _⟩ := claimed.execution
  cases found
  cases failed

end Eiraos
