import Eiraos.Foundations.Run
import Eiraos.Persistence.Endings

/-! # `finalize` beside the lease heartbeat

While `finalize` runs, the heartbeat of `api/v1/chat.py` renews the lease on the same
database session: an `UPDATE`, and a commit that ends the transaction both share.  Here
`finalize` goes statement by statement, and a run is any interleaving of its statements
with those of the heartbeat.
-/

namespace Eiraos

open Guarded

/-- The statement `finalize` sends next, with what it holds in its variables. -/
inductive FinalizePoint where
  | execution (terminal : TerminalStatus)
  | record (terminal : TerminalStatus) (execution : ChatExecution)
  | assistant (terminal : TerminalStatus) (execution : ChatExecution) (record : Option IdempotencyRecord)
  | decisions (terminal : TerminalStatus) (execution : ChatExecution)
  | usage (execution : ChatExecution) (operations : List Operation) (entry : ExecutionCost)
      (entries : List ExecutionCost)
  | rollback (result : Except PersistenceError Bool)
  | commit
  | ended (result : Except PersistenceError Bool)
  deriving DecidableEq, Repr

def FinalizePoint.isQuery : FinalizePoint → Bool
  | .execution _ | .record _ _ | .assistant _ _ _ | .decisions _ _ | .usage _ _ _ _ => true
  | _ => false

/-- The heartbeat task: asleep, between the `UPDATE` of a renewal and its commit, or
returned. -/
inductive LeaseHeartbeat where
  | sleeping
  | updated (renewed : Bool)
  | returned
  deriving DecidableEq, Repr

/-- One session: what is durable, and what its transaction sees with the pending changes,
which every query and every commit flushes first. -/
structure SharedSession where
  durable : Database
  transaction : Database
  point : FinalizePoint
  heartbeat : LeaseHeartbeat
  deriving DecidableEq, Repr

/-! ## What `finalize` changes between two of its statements -/

namespace Database

variable (database : Database) (execution : ChatExecution) (terminal : TerminalStatus)
  (request : FinalizeRequest) (now : Instant)

/-- The execution, its assistant message and its record are closed. -/
def closed (assistant : Message) (record : Option IdempotencyRecord) : Database :=
  let answered :=
    (database.updateExecution (execution.finalized terminal request now)).updateMessage
      { assistant with status := .terminal terminal, content := request.content }
  match record with
  | none => answered
  | some record =>
    answered.updateRecord (record.complete request.effectiveStatus request.responseReference)

def resolved : Database :=
  { database with
    decisions := database.decisions.map fun decision =>
      if decision.awaits execution then decision.resolved terminal request now else decision }

def accounted (entries : List ExecutionCost) : Database :=
  { database with usage := database.usage ++ entries.map execution.usageRow }

@[simp] theorem accounted_nil : database.accounted execution [] = database := by
  simp [accounted]

end Database

/-- The next turn of the loop of `_record_accounting`, up to its query; after the last one
comes the commit. -/
def ChatExecution.accountNext (execution : ChatExecution) (operations : List Operation) :
    List ExecutionCost → FinalizePoint
  | [] => .commit
  | entry :: entries =>
    if entry.operation ∈ operations then
      .rollback (.error (.conflict "duplicate accounting operation"))
    else if entry.operation = .primary ∧
        ¬(entry.provider = execution.provider ∧ entry.model = execution.model) then
      .rollback (.error (.conflict "primary accounting binding is invalid"))
    else .usage execution (entry.operation :: operations) entry entries

/-- Where `finalize` goes from the row of the execution. -/
def ChatExecution.finalizing (execution : ChatExecution) (terminal : TerminalStatus)
    (failureCode : Option FailureCode) : FinalizePoint :=
  if execution.status.isTerminal then .rollback (.ok false)
  else if terminal ≠ .completed ∧ failureCode = none then
    .rollback (.error (.valueError "terminal failures require a failure_code"))
  else if execution.idempotencyRecordId = none then .assistant terminal execution none
  else .record terminal execution

namespace SharedSession

/-- The statement failed, and with it the transaction. -/
def failed (session : SharedSession) (text : String) : SharedSession :=
  { session with
    transaction := session.durable
    point := .rollback (.error (.unavailable text)) }

/-- One statement of `finalize` and what follows up to the next one; `answered` says
whether it succeeds. -/
def advance (session : SharedSession) (request : FinalizeRequest) (answered : Bool) (now : Instant) :
    SharedSession :=
  if session.point.isQuery ∧ ¬answered then session.failed "chat persistence query failed"
  else
    match session.point with
    | .execution terminal =>
      match lockedExecution session.transaction request.executionId with
      | .error error => { session with point := .ended (.error error) }
      | .ok execution => { session with point := execution.finalizing terminal request.failureCode }
    | .record terminal execution =>
      match finalizingRecord session.transaction execution request.leaseToken now with
      | .error error => { session with point := .rollback (.error error) }
      | .ok record => { session with point := .assistant terminal execution record }
    | .assistant terminal execution record =>
      match assistantOf session.transaction execution with
      | .error error => { session with point := .ended (.error error) }
      | .ok assistant =>
        { session with
          transaction := session.transaction.closed execution terminal request now assistant record
          point := .decisions terminal execution }
    | .decisions terminal execution =>
      if execution.governanceAuditRequired ∧
          ¬session.transaction.decisions.any (fun decision => decision.awaits execution) then
        { session with
          point := .rollback (.error (.conflict "governance audit binding is missing")) }
      else
        { session with
          transaction := session.transaction.resolved execution terminal request now
          point := execution.accountNext [] request.accounting }
    | .usage execution operations entry entries =>
      if ∃ row ∈ session.transaction.usage, row.binding = (execution.usageRow entry).binding then
        { session with
          point := .rollback (.error (.conflict "execution accounting was already recorded")) }
      else
        { session with
          transaction := session.transaction.accounted execution [entry]
          point := execution.accountNext operations entries }
    | .rollback result => { session with transaction := session.durable, point := .ended result }
    | .commit =>
      if answered then { session with durable := session.transaction, point := .ended (.ok true) }
      else session.failed "chat execution finalization could not be committed"
    | .ended _ => session

section Answered

variable {durable transaction : Database} {heartbeat : LeaseHeartbeat} {request : FinalizeRequest}
  {now : Instant} {terminal : TerminalStatus} {execution : ChatExecution}

theorem advance_execution :
    advance ⟨durable, transaction, .execution terminal, heartbeat⟩ request true now =
      match lockedExecution transaction request.executionId with
      | .error error => ⟨durable, transaction, .ended (.error error), heartbeat⟩
      | .ok execution =>
        ⟨durable, transaction, execution.finalizing terminal request.failureCode, heartbeat⟩ := by
  simp [advance]

theorem advance_record :
    advance ⟨durable, transaction, .record terminal execution, heartbeat⟩ request true now =
      match finalizingRecord transaction execution request.leaseToken now with
      | .error error => ⟨durable, transaction, .rollback (.error error), heartbeat⟩
      | .ok record => ⟨durable, transaction, .assistant terminal execution record, heartbeat⟩ := by
  simp [advance]

theorem advance_assistant {record : Option IdempotencyRecord} :
    advance ⟨durable, transaction, .assistant terminal execution record, heartbeat⟩ request true now =
      match assistantOf transaction execution with
      | .error error => ⟨durable, transaction, .ended (.error error), heartbeat⟩
      | .ok assistant =>
        ⟨durable, transaction.closed execution terminal request now assistant record,
          .decisions terminal execution, heartbeat⟩ := by
  simp [advance]

theorem advance_decisions :
    advance ⟨durable, transaction, .decisions terminal execution, heartbeat⟩ request true now =
      if execution.governanceAuditRequired ∧
          ¬transaction.decisions.any (fun decision => decision.awaits execution) then
        ⟨durable, transaction,
          .rollback (.error (.conflict "governance audit binding is missing")), heartbeat⟩
      else
        ⟨durable, transaction.resolved execution terminal request now,
          execution.accountNext [] request.accounting, heartbeat⟩ := by
  simp [advance]

theorem advance_usage {operations : List Operation} {entry : ExecutionCost}
    {entries : List ExecutionCost} :
    advance ⟨durable, transaction, .usage execution operations entry entries, heartbeat⟩ request true now =
      if ∃ row ∈ transaction.usage, row.binding = (execution.usageRow entry).binding then
        ⟨durable, transaction,
          .rollback (.error (.conflict "execution accounting was already recorded")), heartbeat⟩
      else
        ⟨durable, transaction.accounted execution [entry], execution.accountNext operations entries,
          heartbeat⟩ := by
  simp [advance]

end Answered

end SharedSession

/-- Whose turn it is on the session.  A renewal whose statement fails commits nothing: it is
one that does not happen, and what it does to the transaction shows in the statements of
`finalize`. -/
inductive SessionLabel where
  | finalize (answered : Bool) (now : Instant)
  | renew (now : Instant)
  | renewCommit
  deriving DecidableEq, Repr

/-- The call and the task that share the session. -/
structure SessionSharing where
  request : FinalizeRequest
  lease : IdempotencyRequest
  leaseToken : String

namespace SessionSharing

variable (sharing : SessionSharing)

def next (session : SharedSession) : SessionLabel → SharedSession
  | .finalize answered now => session.advance sharing.request answered now
  | .renew now =>
    match session.heartbeat with
    | .sleeping =>
      let renewed :=
        renewIdempotencyLease session.transaction.idempotency sharing.lease now sharing.leaseToken
      { session with
        transaction := { session.transaction with idempotency := renewed.1 }
        heartbeat := .updated renewed.2 }
    | _ => session
  | .renewCommit =>
    match session.heartbeat with
    | .updated renewed =>
      { session with
        durable := session.transaction
        heartbeat := if renewed then .sleeping else .returned }
    | _ => session

def step (session : SharedSession) (label : SessionLabel) : Option SharedSession :=
  some (sharing.next session label)

def initial (before : Database) : SharedSession where
  durable := before
  transaction := before
  point :=
    match TerminalStatus.parse? sharing.request.terminalStatus with
    | none => .ended (.error (.valueError "terminal_status must be completed, failed or cancelled"))
    | some terminal => .execution terminal
  heartbeat := .sleeping

/-! ## Without the heartbeat -/

/-- Only `finalize` moves, and each of its statements is answered. -/
def alone (now : Instant) (steps : Nat) (session : SharedSession) : Option SharedSession :=
  Transition.run sharing.step session (List.replicate steps (.finalize true now))

/-- Alone, the call ends with this result and these tables. -/
def Concludes (now : Instant) (session : SharedSession)
    (ending : Database × Except PersistenceError Bool) : Prop :=
  ∃ steps final, sharing.alone now steps session = some final ∧ final.durable = ending.1 ∧
    final.point = .ended ending.2

variable {sharing} {now : Instant} {durable transaction : Database} {execution : ChatExecution}
  {heartbeat : LeaseHeartbeat}

theorem Concludes.step {session moved : SharedSession} {ending : Database × Except PersistenceError Bool}
    (concludes : sharing.Concludes now moved ending)
    (stepped : session.advance sharing.request true now = moved) :
    sharing.Concludes now session ending := by
  obtain ⟨steps, final, rest, ends⟩ := concludes
  refine ⟨steps + 1, final, ?_, ends⟩
  rw [← stepped] at rest
  exact rest

theorem concludes_ended (result : Except PersistenceError Bool) :
    sharing.Concludes now ⟨durable, transaction, .ended result, heartbeat⟩ (durable, result) :=
  ⟨0, _, rfl, rfl, rfl⟩

theorem concludes_rollback (result : Except PersistenceError Bool) :
    sharing.Concludes now ⟨durable, transaction, .rollback result, heartbeat⟩ (durable, result) :=
  ⟨1, _, rfl, rfl, rfl⟩

/-- The loop over the entries, then the commit. -/
theorem concludes_accounting (operations : List Operation) (entries : List ExecutionCost) :
    sharing.Concludes now ⟨durable, transaction, execution.accountNext operations entries, heartbeat⟩
      (settle .available durable do
        let usage ← recordAccounting execution operations transaction.usage entries
        return .committed { transaction with usage } (.ok true)
          "chat execution finalization could not be committed") := by
  induction entries generalizing operations transaction with
  | nil => exact ⟨1, _, rfl, rfl, rfl⟩
  | cons entry entries inductionHypothesis =>
    simp only [ChatExecution.accountNext, recordAccounting]
    by_cases repeated : entry.operation ∈ operations
    · rw [if_pos repeated, ensure, if_neg (not_not_intro repeated)]
      apply concludes_rollback
    · rw [if_neg repeated, ensure, if_pos repeated]
      by_cases bound : entry.operation = .primary →
          entry.provider = execution.provider ∧ entry.model = execution.model
      · rw [if_neg fun mismatch => mismatch.2 (bound mismatch.1), ensure, if_pos bound]
        have moved := @SharedSession.advance_usage durable transaction heartbeat sharing.request now execution
          (entry.operation :: operations) entry entries
        by_cases fresh : ∀ row ∈ transaction.usage, row.binding ≠ (execution.usageRow entry).binding
        · rw [if_neg fun ⟨row, present, same⟩ => fresh row present same] at moved
          rw [ensure, if_pos fresh]
          apply Concludes.step _ moved
          exact @inductionHypothesis (transaction.accounted execution [entry]) (entry.operation :: operations)
        · have present : ∃ row ∈ transaction.usage, row.binding = (execution.usageRow entry).binding := by
            simpa using fresh
          rw [if_pos present] at moved
          rw [ensure, if_neg fresh]
          exact (concludes_rollback _).step moved
      · have mismatch : entry.operation = .primary ∧
            ¬(entry.provider = execution.provider ∧ entry.model = execution.model) := by
          simpa using bound
        rw [if_pos mismatch, ensure, if_neg bound]
        apply concludes_rollback

theorem concludes_decisions (terminal : TerminalStatus) :
    sharing.Concludes now ⟨durable, transaction, .decisions terminal execution, heartbeat⟩
      (settle .available durable do
        ensure (execution.governanceAuditRequired →
            transaction.decisions.any fun decision => decision.awaits execution)
          (.conflict "governance audit binding is missing")
        let usage ← recordAccounting execution [] transaction.usage sharing.request.accounting
        return .committed { transaction.resolved execution terminal sharing.request now with usage }
          (.ok true) "chat execution finalization could not be committed") := by
  have moved := @SharedSession.advance_decisions durable transaction heartbeat sharing.request now terminal
    execution
  by_cases evidenced : execution.governanceAuditRequired →
      transaction.decisions.any fun decision => decision.awaits execution
  · rw [if_neg fun missing => missing.2 (evidenced missing.1)] at moved
    rw [ensure, if_pos evidenced]
    exact (concludes_accounting [] sharing.request.accounting).step moved
  · have missing : execution.governanceAuditRequired ∧
        ¬transaction.decisions.any fun decision => decision.awaits execution := by
      simpa using evidenced
    rw [if_pos missing] at moved
    rw [ensure, if_neg evidenced]
    exact (concludes_rollback _).step moved

theorem concludes_assistant (terminal : TerminalStatus) (record : Option IdempotencyRecord) :
    sharing.Concludes now ⟨durable, transaction, .assistant terminal execution record, heartbeat⟩
      (settle .available durable do
        let assistant ← assistantOf transaction execution
        ensure (execution.governanceAuditRequired →
            transaction.decisions.any fun decision => decision.awaits execution)
          (.conflict "governance audit binding is missing")
        let usage ← recordAccounting execution [] transaction.usage sharing.request.accounting
        return .committed
          (transaction.finalized execution assistant record usage terminal sharing.request now) (.ok true)
          "chat execution finalization could not be committed") := by
  have moved := @SharedSession.advance_assistant durable transaction heartbeat sharing.request now terminal
    execution record
  cases read : assistantOf transaction execution with
  | error error =>
    rw [read] at moved
    exact (concludes_ended _).step moved
  | ok assistant =>
    rw [read] at moved
    have rest := @concludes_decisions sharing now durable
      (transaction.closed execution terminal sharing.request now assistant record) execution heartbeat terminal
    cases record <;> exact rest.step moved

theorem concludes_execution (terminal : TerminalStatus) :
    sharing.Concludes now ⟨durable, transaction, .execution terminal, heartbeat⟩
      (settle .available durable (finalizeTerminal transaction terminal sharing.request now)) := by
  have moved := @SharedSession.advance_execution durable transaction heartbeat sharing.request now terminal
  unfold finalizeTerminal
  cases selected : lockedExecution transaction sharing.request.executionId with
  | error error =>
    rw [selected] at moved
    exact (concludes_ended _).step moved
  | ok execution =>
    rw [selected] at moved
    apply Concludes.step _ moved
    simp only [ChatExecution.finalizing, bind, Except.bind]
    by_cases closed : execution.status.isTerminal
    · rw [if_pos closed, if_pos closed]
      apply concludes_rollback
    · rw [if_neg closed, if_neg closed]
      -- A failure without a code is refused here, before the record is looked up.
      by_cases explained : terminal ≠ .completed → sharing.request.failureCode.isSome
      · have answered : ¬(terminal ≠ .completed ∧ sharing.request.failureCode = none) := by
          rintro ⟨uncompleted, unexplained⟩
          simpa [unexplained] using explained uncompleted
        rw [if_neg answered, ensure, if_pos explained]
        by_cases unbound : execution.idempotencyRecordId = none
        · rw [if_pos unbound]
          simp only [finalizingRecord, unbound]
          exact concludes_assistant terminal none
        · rw [if_neg unbound]
          have read := @SharedSession.advance_record durable transaction heartbeat sharing.request now terminal
            execution
          cases held : finalizingRecord transaction execution sharing.request.leaseToken now with
          | error error =>
            rw [held] at read
            exact (concludes_rollback _).step read
          | ok record =>
            rw [held] at read
            exact (concludes_assistant terminal record).step read
      · have unexplained : terminal ≠ .completed ∧ sharing.request.failureCode = none := by
          simpa using explained
        rw [if_pos unexplained, ensure, if_neg explained]
        apply concludes_rollback

/-- Alone on its session the call is `finalize`. -/
theorem finalize_alone (sharing : SessionSharing) (before : Database) (now : Instant) :
    sharing.Concludes now (sharing.initial before) (finalize .available before sharing.request now) := by
  unfold initial finalize
  cases TerminalStatus.parse? sharing.request.terminalStatus with
  | none => apply concludes_ended
  | some terminal => apply concludes_execution

end SessionSharing

end Eiraos
