import Eiraos.Core.IdempotencySteps
import Eiraos.Persistence.SharedSession

/-! # What the heartbeat's commits leave of `finalize`

The writes of `finalize` are meant to become durable together.  A renewal commits whatever
the session carries, so the call is atomic exactly when no such commit falls between its
first change and its last, nor between its last change and a failure.
-/

namespace Eiraos

open Guarded

/-! ## Tables up to their lease deadlines -/

def IdempotencyRecord.unleased (record : IdempotencyRecord) : IdempotencyRecord :=
  { record with leaseUntil := none }

theorem IdempotencyRecord.unleased_id (record : IdempotencyRecord) : record.unleased.id = record.id :=
  rfl

/-- Without the column that a renewal writes. -/
def Database.unleased (database : Database) : Database :=
  { database with
    idempotency :=
      { database.idempotency with rows := database.idempotency.rows.map IdempotencyRecord.unleased } }

/-- The primary key of the ledger. -/
def Database.RecordIds (database : Database) : Prop :=
  Rows.Unique IdempotencyRecord.id database.idempotency.rows

instance (database : Database) : Decidable database.RecordIds :=
  inferInstanceAs (Decidable (List.Nodup _))

section Unleased

variable {database : Database} {execution : ChatExecution} {terminal : TerminalStatus}
  {request : FinalizeRequest} {now : Instant}

/-- The terminal write clears the deadline itself. -/
theorem Database.unleased_closed (assistant : Message) (record : Option IdempotencyRecord) :
    (database.closed execution terminal request now assistant record).unleased =
      database.unleased.closed execution terminal request now assistant
        (record.map IdempotencyRecord.unleased) := by
  cases record with
  | none => rfl
  | some record =>
    simp only [Database.closed, Database.unleased, Database.updateRecord, IdempotencyTable.update,
      Option.map_some]
    rw [Rows.map_replace_of_key IdempotencyRecord.unleased_id]
    rfl

theorem Database.unleased_renewed (unique : database.RecordIds) (lease : IdempotencyRequest)
    (token : String) :
    ({ database with
        idempotency := (renewIdempotencyLease database.idempotency lease now token).1 } : Database).unleased =
      database.unleased := by
  rcases renewIdempotencyLease_cases database.idempotency lease now token with
    unchanged | ⟨record, present, _, _, _, renewed⟩
  · rw [unchanged]
  · have unleasedIds : Rows.Unique IdempotencyRecord.id
        (database.idempotency.rows.map IdempotencyRecord.unleased) := by
      unfold Rows.Unique
      rw [List.map_map]
      exact unique
    rw [renewed]
    simp only [Database.unleased, IdempotencyTable.update]
    rw [Rows.map_replace_of_key IdempotencyRecord.unleased_id]
    show ({ database with idempotency := ⟨Rows.replace _ record.unleased _, _⟩ } : Database) = _
    rw [Rows.replace_self unleasedIds (List.mem_map_of_mem present)]

theorem Database.RecordIds.renewed (unique : database.RecordIds) (lease : IdempotencyRequest)
    (token : String) :
    Database.RecordIds { database with
      idempotency := (renewIdempotencyLease database.idempotency lease now token).1 } := by
  rcases renewIdempotencyLease_cases database.idempotency lease now token with
    unchanged | ⟨record, _, _, _, _, renewed⟩
  · rw [unchanged]
    exact unique
  · rw [renewed]
    exact Rows.Unique.replace unique fun _ _ same => same

theorem Database.RecordIds.closed (unique : database.RecordIds) (assistant : Message)
    (record : Option IdempotencyRecord) :
    (database.closed execution terminal request now assistant record).RecordIds := by
  cases record with
  | none => exact unique
  | some record => exact Rows.Unique.replace unique fun _ _ same => same

theorem Database.resolved_of_unawaited
    (unawaited : ∀ decision ∈ database.decisions, decision.awaits execution = false) :
    database.resolved execution terminal request now = database := by
  have same : (database.decisions.map fun decision =>
      if decision.awaits execution then decision.resolved terminal request now else decision) =
      database.decisions := by
    conv_rhs => rw [← List.map_id database.decisions]
    apply List.map_congr_left
    intro decision member
    rw [unawaited decision member]
    rfl
  unfold Database.resolved
  rw [same]

end Unleased

/-! ## All or nothing -/

/-- Nothing of the call is in the tables. -/
def Untouched (before database : Database) : Prop :=
  database.unleased = before.unleased

instance (before database : Database) : Decidable (Untouched before database) :=
  inferInstanceAs (Decidable (database.unleased = before.unleased))

/-- What `finalize` reads before it changes anything. -/
structure FinalizeReads (request : FinalizeRequest) (database : Database) (terminal : TerminalStatus)
    (execution : ChatExecution) (record : Option IdempotencyRecord) (assistant : Message) : Prop where
  parsed : TerminalStatus.parse? request.terminalStatus = some terminal
  found : database.execution? request.executionId = some execution
  running : execution.status.isTerminal = false
  bound : record = execution.idempotencyRecordId.bind database.idempotency.selectById?
  read : database.assistant? execution = some assistant

/-- Everything the call writes is in the tables: the execution, the message, the record, the
decisions and the usage rows. -/
def Applied (request : FinalizeRequest) (before database : Database) : Prop :=
  ∃ terminal execution record assistant closedAt resolvedAt,
    FinalizeReads request before.unleased terminal execution record assistant ∧
      database.unleased =
        ((before.unleased.closed execution terminal request closedAt assistant record).resolved execution
          terminal request resolvedAt).accounted execution request.accounting

/-- The durable tables have all of the call or nothing of it, and nothing once it raised. -/
structure Atomic (request : FinalizeRequest) (before : Database) (session : SharedSession) : Prop where
  whole : Untouched before session.durable ∨ Applied request before session.durable
  raised : ∀ error, session.point = .ended (.error error) → Untouched before session.durable

namespace FinalizeReads

variable {request : FinalizeRequest} {before database : Database} {terminal : TerminalStatus}
  {execution : ChatExecution} {record : Option IdempotencyRecord} {assistant : Message}

/-- Once the execution is closed the tables are touched. -/
theorem touched (reads : FinalizeReads request before.unleased terminal execution record assistant)
    {now : Instant}
    (closed : database.executions =
      Rows.replace ChatExecution.id (execution.finalized terminal request now) before.executions) :
    ¬Untouched before database := by
  intro untouched
  have same : database.unleased.executions = before.unleased.executions := congrArg _ untouched
  change database.executions = before.executions at same
  rw [same] at closed
  have unchanged : execution = execution.finalized terminal request now := by
    have present : execution ∈ before.executions := List.mem_of_find?_eq_some reads.found
    obtain ⟨index, bound, selected⟩ := List.getElem_of_mem present
    have replaced := congrArg (fun rows : List ChatExecution => rows[index]?) closed
    simpa [Rows.replace, bound, selected, ChatExecution.finalized] using replaced
  have running := reads.running
  rw [unchanged] at running
  cases running

end FinalizeReads

namespace Applied

variable {request : FinalizeRequest} {before database : Database}

theorem usage_length (applied : Applied request before database) :
    database.usage.length = before.usage.length + request.accounting.length := by
  obtain ⟨terminal, execution, record, assistant, closedAt, resolvedAt, _, written⟩ := applied
  have usage : database.usage = before.usage ++ request.accounting.map execution.usageRow := by
    have same := congrArg Database.usage written
    cases record <;> exact same
  rw [usage, List.length_append, List.length_map]

theorem unawaited (applied : Applied request before database) {execution : ChatExecution}
    (found : before.execution? request.executionId = some execution) :
    ∀ decision ∈ database.decisions, decision.awaits execution = false := by
  obtain ⟨terminal, other, record, assistant, closedAt, resolvedAt, reads, written⟩ := applied
  obtain rfl : execution = other := Option.some.inj (found.symm.trans reads.found)
  have decisions : database.decisions = before.decisions.map fun decision =>
      if decision.awaits execution then decision.resolved terminal request resolvedAt else decision := by
    have same := congrArg Database.decisions written
    cases record <;> exact same
  intro decision member
  rw [decisions] at member
  obtain ⟨old, _, rfl⟩ := List.mem_map.mp member
  split
  next => simp [GovernanceDecisionRecord.awaits, GovernanceDecisionRecord.resolved]
  next unawaited => simpa using unawaited

end Applied

/-! ## Where the call stands -/

/-- What the transaction and the durable tables hold at each point of the call. -/
inductive FinalizeProgress (request : FinalizeRequest) (before durable transaction : Database) :
    FinalizePoint → Prop where
  | execution {terminal : TerminalStatus}
      (parsed : TerminalStatus.parse? request.terminalStatus = some terminal)
      (kept : Untouched before durable) (clean : Untouched before transaction) :
      FinalizeProgress request before durable transaction (.execution terminal)
  | record {terminal : TerminalStatus} {execution : ChatExecution}
      (parsed : TerminalStatus.parse? request.terminalStatus = some terminal)
      (found : before.execution? request.executionId = some execution)
      (running : execution.status.isTerminal = false)
      (kept : Untouched before durable) (clean : Untouched before transaction) :
      FinalizeProgress request before durable transaction (.record terminal execution)
  | assistant {terminal : TerminalStatus} {execution : ChatExecution} {record : Option IdempotencyRecord}
      (parsed : TerminalStatus.parse? request.terminalStatus = some terminal)
      (found : before.execution? request.executionId = some execution)
      (running : execution.status.isTerminal = false)
      (bound : record.map IdempotencyRecord.unleased =
        execution.idempotencyRecordId.bind before.unleased.idempotency.selectById?)
      (kept : Untouched before durable) (clean : Untouched before transaction) :
      FinalizeProgress request before durable transaction (.assistant terminal execution record)
  | decisions {terminal : TerminalStatus} {execution : ChatExecution} {record : Option IdempotencyRecord}
      {assistant : Message} {closedAt : Instant}
      (reads : FinalizeReads request before.unleased terminal execution record assistant)
      (written : transaction.unleased =
        before.unleased.closed execution terminal request closedAt assistant record) :
      FinalizeProgress request before durable transaction (.decisions terminal execution)
  | usage {terminal : TerminalStatus} {execution : ChatExecution} {record : Option IdempotencyRecord}
      {assistant : Message} {closedAt resolvedAt : Instant} {operations : List Operation}
      {recorded entries : List ExecutionCost} {entry : ExecutionCost}
      (reads : FinalizeReads request before.unleased terminal execution record assistant)
      (left : request.accounting = recorded ++ entry :: entries)
      (written : transaction.unleased =
        ((before.unleased.closed execution terminal request closedAt assistant record).resolved execution
          terminal request resolvedAt).accounted execution recorded) :
      FinalizeProgress request before durable transaction (.usage execution operations entry entries)
  | commit (applied : Applied request before transaction) :
      FinalizeProgress request before durable transaction .commit
  | undone {result : Except PersistenceError Bool} (same : transaction.unleased = durable.unleased) :
      FinalizeProgress request before durable transaction (.rollback result)
  | refused {result : Except PersistenceError Bool} (applied : Applied request before transaction)
      (unaccounted : request.accounting = []) :
      FinalizeProgress request before durable transaction (.rollback result)
  | partway {result : Except PersistenceError Bool} (touched : ¬Untouched before transaction)
      (unfinished : ¬Applied request before transaction) (accounted : request.accounting ≠ []) :
      FinalizeProgress request before durable transaction (.rollback result)
  | ended {result : Except PersistenceError Bool} (same : transaction.unleased = durable.unleased)
      (raised : ∀ error, result = .error error → Untouched before durable) :
      FinalizeProgress request before durable transaction (.ended result)

section Progress

variable {request : FinalizeRequest} {before durable transaction : Database}

theorem Untouched.congr {renewed : Database} (untouched : Untouched before transaction)
    (same : renewed.unleased = transaction.unleased) : Untouched before renewed :=
  same.trans untouched

theorem Untouched.execution? (clean : Untouched before transaction) (executionId : String) :
    transaction.execution? executionId = before.execution? executionId := by
  have same : transaction.unleased = before.unleased := clean
  show transaction.unleased.execution? executionId = before.unleased.execution? executionId
  rw [same]

theorem Untouched.assistant? (clean : Untouched before transaction) (execution : ChatExecution) :
    transaction.assistant? execution = before.assistant? execution := by
  have same : transaction.unleased = before.unleased := clean
  show transaction.unleased.assistant? execution = before.unleased.assistant? execution
  rw [same]

theorem Applied.congr {renewed : Database} (applied : Applied request before transaction)
    (same : renewed.unleased = transaction.unleased) : Applied request before renewed := by
  unfold Applied
  rw [same]
  exact applied

/-- Lease deadlines do not matter to where the call stands. -/
theorem FinalizeProgress.congr {point : FinalizePoint} {kept renewed : Database}
    (progress : FinalizeProgress request before durable transaction point)
    (sameDurable : kept.unleased = durable.unleased) (same : renewed.unleased = transaction.unleased) :
    FinalizeProgress request before kept renewed point := by
  cases progress with
  | execution parsed kept clean => exact .execution parsed (kept.congr sameDurable) (clean.congr same)
  | record parsed found running kept clean =>
    exact .record parsed found running (kept.congr sameDurable) (clean.congr same)
  | assistant parsed found running bound kept clean =>
    exact .assistant parsed found running bound (kept.congr sameDurable) (clean.congr same)
  | decisions reads written => exact .decisions reads (same.trans written)
  | usage reads left written => exact .usage reads left (same.trans written)
  | commit applied => exact .commit (applied.congr same)
  | undone unchanged => exact .undone (same.trans (unchanged.trans sameDurable.symm))
  | refused applied unaccounted => exact .refused (applied.congr same) unaccounted
  | partway touched unfinished accounted =>
    exact .partway (fun untouched => touched (untouched.congr same.symm))
      (fun applied => unfinished (applied.congr same.symm)) accounted
  | ended unchanged raised =>
    refine .ended (same.trans (unchanged.trans sameDurable.symm)) fun error failed => ?_
    exact (raised error failed).congr sameDurable

section Reads

variable {terminal : TerminalStatus} {execution : ChatExecution} {record : Option IdempotencyRecord}
  {assistant : Message} {closedAt : Instant}

/-- With no entry and no decision to write, the first changes are all of them. -/
theorem FinalizeReads.complete
    (reads : FinalizeReads request before.unleased terminal execution record assistant)
    (written : transaction.unleased =
      before.unleased.closed execution terminal request closedAt assistant record)
    (unaccounted : request.accounting = [])
    (unawaited : ∀ decision ∈ transaction.decisions, decision.awaits execution = false) :
    Applied request before transaction := by
  refine ⟨terminal, execution, record, assistant, closedAt, closedAt, reads, ?_⟩
  have unresolved : transaction.unleased.resolved execution terminal request closedAt =
      transaction.unleased := Database.resolved_of_unawaited unawaited
  rw [← written, unresolved, unaccounted, Database.accounted_nil]

/-- With an entry or a decision left, the first changes are neither none nor all. -/
theorem FinalizeReads.incomplete
    (reads : FinalizeReads request before.unleased terminal execution record assistant)
    (written : transaction.unleased =
      before.unleased.closed execution terminal request closedAt assistant record)
    (left : request.accounting ≠ [] ∨ ∃ decision ∈ transaction.decisions, decision.awaits execution = true) :
    ¬Untouched before transaction ∧ ¬Applied request before transaction := by
  have executions : transaction.executions =
      Rows.replace ChatExecution.id (execution.finalized terminal request closedAt) before.executions := by
    have same := congrArg Database.executions written
    cases record <;> exact same
  have usage : transaction.usage = before.usage := by
    have same := congrArg Database.usage written
    cases record <;> exact same
  refine ⟨reads.touched executions, fun applied => ?_⟩
  rcases left with accounted | ⟨decision, member, awaits⟩
  · have length := applied.usage_length
    rw [usage] at length
    have none : request.accounting.length = 0 := by omega
    exact accounted (List.length_eq_zero_iff.mp none)
  · have unawaited := applied.unawaited reads.found decision member
    rw [awaits] at unawaited
    cases unawaited

end Reads

section Accounting

variable {terminal : TerminalStatus} {execution : ChatExecution} {record : Option IdempotencyRecord}
  {assistant : Message} {closedAt resolvedAt : Instant} {recorded entries : List ExecutionCost}

/-- In front of an entry, the changes so far are neither none nor all. -/
theorem FinalizeReads.unaccounted {entry : ExecutionCost}
    (reads : FinalizeReads request before.unleased terminal execution record assistant)
    (left : request.accounting = recorded ++ entry :: entries)
    (written : transaction.unleased =
      ((before.unleased.closed execution terminal request closedAt assistant record).resolved execution
        terminal request resolvedAt).accounted execution recorded) :
    ¬Untouched before transaction ∧ ¬Applied request before transaction := by
  have executions : transaction.executions =
      Rows.replace ChatExecution.id (execution.finalized terminal request closedAt) before.executions := by
    have same := congrArg Database.executions written
    cases record <;> exact same
  have usage : transaction.usage = before.usage ++ recorded.map execution.usageRow := by
    have same := congrArg Database.usage written
    cases record <;> exact same
  refine ⟨reads.touched executions, fun applied => ?_⟩
  have length := applied.usage_length
  rw [usage, left] at length
  simp at length

/-- The turn of the loop after the entries recorded so far. -/
theorem FinalizeReads.accountNext
    (reads : FinalizeReads request before.unleased terminal execution record assistant)
    (left : request.accounting = recorded ++ entries)
    (written : transaction.unleased =
      ((before.unleased.closed execution terminal request closedAt assistant record).resolved execution
        terminal request resolvedAt).accounted execution recorded) (operations : List Operation) :
    FinalizeProgress request before durable transaction (execution.accountNext operations entries) := by
  cases entries with
  | nil =>
    rw [List.append_nil] at left
    exact .commit ⟨_, _, _, _, _, _, reads, left ▸ written⟩
  | cons entry entries =>
    obtain ⟨touched, unfinished⟩ := reads.unaccounted left written
    have accounted : request.accounting ≠ [] := by simp [left]
    simp only [ChatExecution.accountNext]
    split
    · exact .partway touched unfinished accounted
    · split
      · exact .partway touched unfinished accounted
      · exact .usage reads left written

end Accounting

/-- The record the transaction selected, up to its deadline. -/
theorem Untouched.finalizingRecord (clean : Untouched before transaction) (unique : transaction.RecordIds)
    {execution : ChatExecution} {leaseToken : Option String} {now : Instant}
    {record : Option IdempotencyRecord}
    (selected : Eiraos.finalizingRecord transaction execution leaseToken now = .ok record) :
    record.map IdempotencyRecord.unleased =
      execution.idempotencyRecordId.bind before.unleased.idempotency.selectById? := by
  rw [← show transaction.unleased = before.unleased from clean]
  rcases finalizingRecord_eq_ok selected with ⟨unbound, rfl⟩ | ⟨held, rfl, owner⟩
  · rw [unbound]
    rfl
  · have found : transaction.idempotency.selectById? held.id = some held :=
      Rows.Unique.find?_eq_some unique owner.recordMem
    have unleased : transaction.unleased.idempotency.selectById? held.id =
        (transaction.idempotency.selectById? held.id).map IdempotencyRecord.unleased :=
      List.find?_map ..
    rw [owner.bound, Option.bind_some, unleased, found]

end Progress

/-- The progress of the call, with the primary key of the ledger. -/
structure SessionInvariant (request : FinalizeRequest) (before : Database) (session : SharedSession) :
    Prop where
  durableIds : session.durable.RecordIds
  transactionIds : session.transaction.RecordIds
  whole : Untouched before session.durable ∨ Applied request before session.durable
  progress : FinalizeProgress request before session.durable session.transaction session.point

/-! ## The steps that tear the call -/

/-- Writes of the call are left after the point. -/
def FinalizePoint.writesLeft (request : FinalizeRequest) (transaction : Database) : FinalizePoint → Bool
  | .decisions _ closing =>
    request.accounting ≠ [] || transaction.decisions.any fun decision => decision.awaits closing
  | .usage _ _ _ _ => true
  | .rollback _ => request.accounting ≠ []
  | _ => false

/-- The heartbeat commits changes of the call while others are left to write, or the call
fails after the heartbeat committed all of them. -/
def SessionSharing.tears (sharing : SessionSharing) (before : Database) (session : SharedSession) :
    SessionLabel → Prop
  | .finalize _ _ =>
    (∃ error, session.point = .rollback (.error error)) ∧ ¬Untouched before session.durable
  | .renew _ => False
  | .renewCommit =>
    (∃ renewed, session.heartbeat = .updated renewed) ∧
      session.transaction.unleased ≠ session.durable.unleased ∧
      session.point.writesLeft sharing.request session.transaction = true

section Invariant

variable {sharing : SessionSharing} {before : Database} {session : SharedSession}

theorem sessionInvariant_initial (sharing : SessionSharing) (unique : before.RecordIds) :
    SessionInvariant sharing.request before (sharing.initial before) := by
  refine ⟨unique, unique, .inl rfl, ?_⟩
  unfold SessionSharing.initial
  cases parsed : TerminalStatus.parse? sharing.request.terminalStatus with
  | none => exact .ended rfl fun _ _ => rfl
  | some terminal => exact .execution parsed rfl rfl

theorem SessionInvariant.atomic (invariant : SessionInvariant sharing.request before session) :
    Atomic sharing.request before session := by
  refine ⟨invariant.whole, fun error raised => ?_⟩
  have progress := invariant.progress
  rw [raised] at progress
  cases progress with
  | ended same kept => exact kept error rfl

theorem SessionInvariant.renew (invariant : SessionInvariant sharing.request before session)
    (now : Instant) : SessionInvariant sharing.request before (sharing.next session (.renew now)) := by
  simp only [SessionSharing.next]
  split
  · exact ⟨invariant.durableIds, invariant.transactionIds.renewed _ _, invariant.whole,
      invariant.progress.congr rfl (Database.unleased_renewed invariant.transactionIds _ _)⟩
  · exact invariant

/-- A commit of the heartbeat that does not tear the call. -/
theorem SessionInvariant.renewCommit (invariant : SessionInvariant sharing.request before session)
    (untorn : ¬sharing.tears before session .renewCommit) :
    SessionInvariant sharing.request before (sharing.next session .renewCommit) := by
  simp only [SessionSharing.next]
  split
  next renewed updated =>
    obtain ⟨durableIds, transactionIds, whole, progress⟩ := invariant
    by_cases same : session.transaction.unleased = session.durable.unleased
    · exact ⟨transactionIds, transactionIds, whole.imp (·.congr same) (·.congr same),
        progress.congr same rfl⟩
    · have finished : session.point.writesLeft sharing.request session.transaction = false := by
        rw [← Bool.not_eq_true]
        exact fun left => untorn ⟨⟨renewed, updated⟩, same, left⟩
      obtain ⟨durable, transaction, point, heartbeat⟩ := session
      cases progress with
      | execution parsed kept clean => exact absurd (clean.trans kept.symm) same
      | record parsed found running kept clean => exact absurd (clean.trans kept.symm) same
      | assistant parsed found running bound kept clean => exact absurd (clean.trans kept.symm) same
      | @decisions terminal execution record assistant closedAt reads written =>
        have nothing : sharing.request.accounting = [] ∧ ∀ decision ∈ transaction.decisions,
            decision.awaits execution = false := by
          simpa [FinalizePoint.writesLeft] using finished
        exact ⟨transactionIds, transactionIds, .inr (reads.complete written nothing.1 nothing.2),
          .decisions reads written⟩
      | usage reads left written => cases finished
      | commit applied => exact ⟨transactionIds, transactionIds, .inr applied, .commit applied⟩
      | undone unchanged => exact absurd unchanged same
      | refused applied unaccounted =>
        exact ⟨transactionIds, transactionIds, .inr applied, .refused applied unaccounted⟩
      | partway touched unfinished accounted =>
        exact absurd finished (by simpa [FinalizePoint.writesLeft] using accounted)
      | ended unchanged raised => exact absurd unchanged same
  next => exact invariant

/-- A step that tears the call leaves it torn. -/
theorem SessionInvariant.torn (invariant : SessionInvariant sharing.request before session)
    {label : SessionLabel} (tears : sharing.tears before session label) :
    ¬Atomic sharing.request before (sharing.next session label) := by
  obtain ⟨durable, transaction, point, heartbeat⟩ := session
  cases label with
  | finalize answered now =>
    obtain ⟨⟨error, raising⟩, touched⟩ := tears
    cases raising
    exact fun atomic => touched (atomic.raised error rfl)
  | renew now => cases tears
  | renewCommit =>
    obtain ⟨⟨renewed, updated⟩, changed, left⟩ := tears
    cases updated
    have partly : ¬Untouched before transaction ∧ ¬Applied sharing.request before transaction := by
      cases invariant.progress with
      | execution | record | assistant | commit | ended => cases left
      | decisions reads written =>
        apply reads.incomplete written
        simpa [FinalizePoint.writesLeft] using left
      | usage reads accounted written => exact reads.unaccounted accounted written
      | undone unchanged => exact absurd unchanged changed
      | refused applied unaccounted => simp [FinalizePoint.writesLeft, unaccounted] at left
      | partway touched unfinished accounted => exact ⟨touched, unfinished⟩
    exact fun atomic => atomic.whole.elim partly.1 partly.2

theorem SessionInvariant.failed (invariant : SessionInvariant sharing.request before session)
    (text : String) : SessionInvariant sharing.request before (session.failed text) :=
  ⟨invariant.durableIds, invariant.durableIds, invariant.whole, .undone rfl⟩

/-- One statement of `finalize`; only its rollback can be the end of a torn call. -/
theorem SessionInvariant.advance (invariant : SessionInvariant sharing.request before session)
    {answered : Bool} {now : Instant} (untorn : ¬sharing.tears before session (.finalize answered now)) :
    SessionInvariant sharing.request before (session.advance sharing.request answered now) := by
  unfold SharedSession.advance
  split
  · exact invariant.failed _
  · obtain ⟨durableIds, transactionIds, whole, progress⟩ := invariant
    obtain ⟨durable, transaction, point, heartbeat⟩ := session
    cases progress with
    -- Up to the message nothing is written, so that every refusal leaves the tables untouched.
    | execution parsed kept clean =>
      have untouched := clean.trans kept.symm
      dsimp only
      split
      · exact ⟨durableIds, transactionIds, whole, .ended untouched fun _ _ => kept⟩
      next execution selected =>
        refine ⟨durableIds, transactionIds, whole, ?_⟩
        have found : before.execution? sharing.request.executionId = some execution :=
          (clean.execution? _).symm.trans (required_eq_ok.mp selected)
        unfold ChatExecution.finalizing
        split
        · exact .undone untouched
        next running =>
          have running : execution.status.isTerminal = false := by simpa using running
          split
          · exact .undone untouched
          · split
            next unbound =>
              refine .assistant parsed found running ?_ kept clean
              rw [unbound]
              rfl
            · exact .record parsed found running kept clean
    | record parsed found running kept clean =>
      dsimp only
      split
      · exact ⟨durableIds, transactionIds, whole, .undone (clean.trans kept.symm)⟩
      next record selected =>
        exact ⟨durableIds, transactionIds, whole, .assistant parsed found running
          (clean.finalizingRecord transactionIds selected) kept clean⟩
    | @assistant terminal execution record parsed found running bound kept clean =>
      dsimp only
      split
      · exact ⟨durableIds, transactionIds, whole, .ended (clean.trans kept.symm) fun _ _ => kept⟩
      next assistant selected =>
        have read : before.assistant? execution = some assistant :=
          (clean.assistant? execution).symm.trans (required_eq_ok.mp selected)
        have written := @Database.unleased_closed transaction execution terminal sharing.request now assistant
          record
        have same : transaction.unleased = before.unleased := clean
        rw [same] at written
        exact ⟨durableIds, transactionIds.closed _ _, whole,
          .decisions ⟨parsed, found, running, bound, read⟩ written⟩
    | @decisions terminal execution record assistant closedAt reads written =>
      dsimp only
      split
      next missing =>
        refine ⟨durableIds, transactionIds, whole, ?_⟩
        -- A refusal comes too late where there is nothing to account for: all has been written.
        by_cases accounted : sharing.request.accounting = []
        · refine .refused (reads.complete written accounted ?_) accounted
          simpa using missing.2
        · obtain ⟨touched, unfinished⟩ := reads.incomplete written (.inl accounted)
          exact .partway touched unfinished accounted
      next evidenced =>
        have resolved : (transaction.resolved execution terminal sharing.request now).unleased =
            ((before.unleased.closed execution terminal sharing.request closedAt assistant record).resolved
              execution terminal sharing.request now).accounted execution [] := by
          rw [← written, Database.accounted_nil]
          rfl
        exact ⟨durableIds, transactionIds, whole, reads.accountNext (List.nil_append _).symm resolved []⟩
    | @usage terminal execution record assistant closedAt resolvedAt operations recorded entries entry reads
        left written =>
      dsimp only
      split
      next recorded =>
        refine ⟨durableIds, transactionIds, whole, ?_⟩
        obtain ⟨touched, unfinished⟩ := reads.unaccounted left written
        exact .partway touched unfinished (by simp [left])
      next fresh =>
        have accounted : (transaction.accounted execution [entry]).unleased =
            ((before.unleased.closed execution terminal sharing.request closedAt assistant record).resolved
              execution terminal sharing.request resolvedAt).accounted execution (recorded ++ [entry]) := by
          refine (congrArg (fun tables : Database => tables.accounted execution [entry]) written).trans ?_
          simp [Database.accounted]
        exact ⟨durableIds, transactionIds, whole,
          reads.accountNext (left.trans (List.append_cons ..)) accounted _⟩
    | commit applied =>
      dsimp only
      split
      -- The commit takes the whole transaction over, or fails and gives it up.
      · exact ⟨transactionIds, transactionIds, .inr applied, .ended rfl fun _ failed => by cases failed⟩
      · exact SessionInvariant.failed ⟨durableIds, transactionIds, whole, .commit applied⟩ _
    | undone | refused | partway =>
      refine ⟨durableIds, durableIds, whole, .ended rfl fun error failed => ?_⟩
      -- A renewal may have committed half of the call before: the torn case, which is excluded.
      by_contra touched
      exact untorn ⟨⟨error, congrArg FinalizePoint.rollback failed⟩, touched⟩
    | ended same raised => exact ⟨durableIds, transactionIds, whole, .ended same raised⟩

end Invariant

/-- `finalize` is atomic along an interleaving if and only if no step of it tears the call. -/
theorem finalize_atomic_iff {sharing : SessionSharing} {before : Database} {labels : List SessionLabel}
    (unique : before.RecordIds) :
    Transition.Throughout sharing.step (fun session label => ¬sharing.tears before session label)
        (sharing.initial before) labels ↔
      Transition.Always sharing.step (Atomic sharing.request before) (sharing.initial before) labels := by
  refine Transition.throughout_iff_always (SessionInvariant sharing.request before) _
    (fun session label => ⟨_, rfl⟩) ?_ (fun session invariant => invariant.atomic) ?_
    (sessionInvariant_initial sharing unique)
  · intro session label next invariant untorn stepped
    cases stepped
    cases label with
    | finalize answered now => exact invariant.advance untorn
    | renew now => exact invariant.renew now
    | renewCommit => exact invariant.renewCommit untorn
  · intro session label next invariant tears stepped
    cases stepped
    exact invariant.torn (not_not.mp tears)

/-! ## A renewal between the changes of a completion -/

/-- A streaming execution under its lease, with an open decision. -/
def streamingExchange : Database where
  idempotency := (beginIdempotency ⟨[], 0⟩ ⟨1, 2, "key", "digest"⟩ 0 0 "token").1
  executions :=
    [{ id := 0
       executionId := "execution"
       requestId := "request"
       conversationId := 3
       organizationId := 1
       userId := 2
       botId := 4
       botOrganizationId := 1
       idempotencyRecordId := some 0
       userMessageId := some 0
       assistantMessageId := some 1
       provider := "openai"
       model := "gpt-4o"
       status := .streaming
       attemptCount := 1
       maxAttempts := 3
       lastFailureCode := none
       failureRetryable := false
       partialResponse := false
       recoveredAt := none
       governanceAuditRequired := true
       completedAt := none }]
  nextExecutionId := 1
  messages :=
    [{ id := 0
       conversationId := 3
       organizationId := 1
       executionId := "execution"
       role := .user
       content := "hello"
       botId := 4
       status := .terminal .completed
       aiMarked := false },
     { id := 1
       conversationId := 3
       organizationId := 1
       executionId := "execution"
       role := .assistant
       content := ""
       botId := 4
       status := .streaming
       aiMarked := true }]
  nextMessageId := 2
  usage := []
  decisions :=
    [{ decisionId := "decision"
       organizationId := 1
       userId := 2
       allowed := true
       executionId := some "execution"
       resultStatus := none
       responseStatus := none
       failureCode := none
       finalizedAt := none }]

def completingSession : SessionSharing where
  request :=
    { executionId := "execution"
      terminalStatus := "completed"
      content := "hi"
      responseStatus := 200
      responseReference := "hi"
      leaseToken := some "token"
      failureCode := none
      accounting :=
        [{ provider := "openai"
           model := "gpt-4o"
           operation := .primary
           inputTokens := 6
           outputTokens := 4
           totalTokens := 10
           cost := 5
           usageSource := .providerReported
           pricingRevision := "2026-01"
           identified := by decide
           supported := by decide
           tokensNonneg := by decide
           tokensSum := rfl
           costNonneg := by decide
           sourced := by decide }] }
  lease := ⟨1, 2, "key", "digest"⟩
  leaseToken := "token"

/-- A renewal between the first two queries does no harm. -/
theorem finalize_atomic_iff_renewed :
    Transition.Throughout completingSession.step
        (fun session label => ¬completingSession.tears streamingExchange session label)
        (completingSession.initial streamingExchange)
        [.finalize true 1, .renew 2, .renewCommit, .finalize true 3] ↔
      Transition.Always completingSession.step (Atomic completingSession.request streamingExchange)
        (completingSession.initial streamingExchange)
        [.finalize true 1, .renew 2, .renewCommit, .finalize true 3] :=
  finalize_atomic_iff (by decide)

/-- The heartbeat commits the completed execution before its usage row is written, and then
`finalize` raises. -/
theorem renewal_tears_finalize :
    ¬∀ (sharing : SessionSharing) (before : Database) (labels : List SessionLabel), before.RecordIds →
      Transition.Always sharing.step (Atomic sharing.request before) (sharing.initial before) labels := by
  intro atomic
  have raised := (atomic completingSession streamingExchange
    [.finalize true 1, .finalize true 2, .finalize true 3, .finalize true 4, .renew 5, .renewCommit,
      .finalize false 6, .finalize true 7] (by decide) _ (List.prefix_refl _) _ rfl).raised _ rfl
  exact absurd raised (by decide +kernel)

end Eiraos
