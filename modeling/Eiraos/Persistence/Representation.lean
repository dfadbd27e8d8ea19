import Eiraos.Persistence.Ledger

/-! # Every method keeps the representation invariant

One lemma for each branch that writes, then the system in which all methods, lease changes
and governance changes interleave, and the theorem about every state it reaches.
-/

namespace Eiraos

/-! ## The branches -/

section Branches

variable {database : Database} {history : List LedgerEvent} {executionId : String}
  {execution : ChatExecution} {assistant : Message}

/-- Only the status of the execution matters to its accounts, and closing it asks less. -/
theorem Accounts.close {reservation : ProviderUsageRecord} {entries : List ProviderUsageRecord}
    {closed : ChatExecution} (accounts : Accounts reservation entries history execution)
    (same : closed.executionId = execution.executionId ∧ closed.attemptCount = execution.attemptCount)
    (terminal : closed.status.isTerminal = true) : Accounts reservation entries history closed := by
  obtain ⟨sameId, sameCount⟩ := same
  constructor
  · exact accounts.reserves
  · exact accounts.entered
  · rw [sameId]
    exact accounts.total
  · rw [sameCount]
    exact accounts.attempts
  · exact accounts.distinct
  · rw [sameId]
    exact accounts.finalizedOnce
  · rw [sameId, sameCount]
    exact accounts.unfinalizedLater
  · intro running
    rw [terminal] at running
    contradiction

/-- A further attempt raises the reservation row by its tokens. -/
theorem Accounts.restart {reservation raised : ProviderUsageRecord} {entries : List ProviderUsageRecord}
    {next : ChatExecution} {tokens : Int} (accounts : Accounts reservation entries history execution)
    (same : next.executionId = execution.executionId ∧ next.attemptCount = execution.attemptCount + 1)
    (kept : raised.operation = reservation.operation ∧ raised.usageSource = reservation.usageSource ∧
      raised.attempt = reservation.attempt)
    (total : raised.totalTokens = reservation.totalTokens + tokens) :
    Accounts raised entries (history ++ [.started execution.executionId tokens]) next := by
  obtain ⟨sameId, sameCount⟩ := same
  obtain ⟨operation, source, attempt⟩ := kept
  -- A start finalizes nothing.
  have uncounted : ∀ attempt, (history ++ [LedgerEvent.started execution.executionId tokens]).count
      (.finalized execution.executionId attempt) = history.count (.finalized execution.executionId attempt) := by
    intro attempt
    simp [List.count_append]
  constructor
  case reserves => exact ⟨operation.trans accounts.reserves.1, source.trans accounts.reserves.2⟩
  case entered => exact accounts.entered
  case total =>
    have own : startedTokens [.started execution.executionId tokens] execution.executionId = tokens := by
      simp [startedTokens, LedgerEvent.tokens]
    rw [sameId, startedTokens_append, own, ← accounts.total, total]
  case attempts =>
    intro row member
    rw [sameCount]
    refine Nat.le_succ_of_le ?_
    rcases List.mem_cons.mp member with rfl | member
    · exact attempt ▸ accounts.attempts reservation List.mem_cons_self
    · exact accounts.attempts row (List.mem_cons_of_mem _ member)
  case distinct =>
    have distinct := accounts.distinct
    unfold Rows.Unique at distinct ⊢
    rwa [List.map_cons, operation, attempt]
  case finalizedOnce =>
    intro attempt
    rw [sameId, uncounted]
    exact accounts.finalizedOnce attempt
  case unfinalizedLater =>
    intro attempt later
    rw [sameId, uncounted]
    exact accounts.unfinalizedLater attempt (by omega)
  case unfinalizedNow =>
    intro _
    rw [sameId, sameCount, uncounted]
    -- The attempt that starts is later than all that were finalized.
    exact ⟨accounts.unfinalizedLater _ (Nat.lt_succ_self _), fun row member =>
      Nat.lt_succ_of_le (accounts.attempts row (List.mem_cons_of_mem _ member))⟩

/-- Finalizing an attempt enters its rows, which no earlier attempt has entered. -/
theorem Accounts.finalize {reservation : ProviderUsageRecord} {entries : List ProviderUsageRecord}
    {closed : ChatExecution} {costs : List ExecutionCost}
    (accounts : Accounts reservation entries history execution) (running : execution.status.isTerminal = false)
    (distinct : (costs.map ExecutionCost.operation).Nodup)
    (same : closed.executionId = execution.executionId ∧ closed.attemptCount = execution.attemptCount)
    (terminal : closed.status.isTerminal = true) :
    Accounts reservation (entries ++ costs.map execution.usageRow)
      (history ++ [.finalized execution.executionId execution.attemptCount]) closed := by
  obtain ⟨sameId, sameCount⟩ := same
  obtain ⟨unfinalized, earlier⟩ := accounts.unfinalizedNow running
  -- The event counts for the attempt that it closes, and for no other.
  have counted : ∀ attempt, [LedgerEvent.finalized execution.executionId execution.attemptCount].count
      (.finalized execution.executionId attempt) = if attempt = execution.attemptCount then 1 else 0 := by
    intro attempt
    by_cases same : attempt = execution.attemptCount
    · simp [same]
    · simp [same, Ne.symm same]
  constructor
  case reserves => exact accounts.reserves
  case entered =>
    intro row member
    rcases List.mem_append.mp member with member | member
    · exact accounts.entered row member
    · obtain ⟨cost, _, rfl⟩ := List.mem_map.mp member
      exact ⟨cost.supported, cost.sourced⟩
  case total =>
    have unchanged : startedTokens [LedgerEvent.finalized execution.executionId execution.attemptCount]
        execution.executionId = 0 := rfl
    rw [sameId, startedTokens_append, unchanged, Int.add_zero]
    exact accounts.total
  case attempts =>
    intro row member
    rw [sameCount]
    rw [← List.cons_append] at member
    rcases List.mem_append.mp member with member | member
    · exact accounts.attempts row member
    · obtain ⟨cost, _, rfl⟩ := List.mem_map.mp member
      exact Nat.le_refl _
  case distinct =>
    rw [← List.cons_append]
    unfold Rows.Unique
    rw [List.map_append, List.nodup_append]
    refine ⟨accounts.distinct, ?_, ?_⟩
    · have columns : (costs.map execution.usageRow).map (fun row => (row.attempt, row.operation)) =
          (costs.map ExecutionCost.operation).map (Prod.mk execution.attemptCount) := by
        simp only [List.map_map]
        rfl
      rw [columns]
      exact distinct.map fun _ _ same => (Prod.mk.inj same).2
    · -- The reservation has an operation of its own, and the other rows an earlier attempt.
      intro oldColumn oldColumnMem newColumn newColumnMem same
      obtain ⟨old, oldMem, rfl⟩ := List.mem_map.mp oldColumnMem
      obtain ⟨new, newMem, rfl⟩ := List.mem_map.mp newColumnMem
      obtain ⟨cost, _, rfl⟩ := List.mem_map.mp newMem
      obtain ⟨sameAttempt, sameOperation⟩ := Prod.mk.inj same
      rcases List.mem_cons.mp oldMem with rfl | oldMem
      · exact cost.supported (sameOperation.symm.trans accounts.reserves.1)
      · exact absurd sameAttempt (Nat.ne_of_lt (earlier old oldMem))
  case finalizedOnce =>
    intro attempt
    rw [sameId, List.count_append, counted]
    split
    next current => rw [current, unfinalized]
    next => exact accounts.finalizedOnce attempt
  case unfinalizedLater =>
    intro attempt later
    rw [sameCount] at later
    rw [sameId, List.count_append, counted, if_neg (Nat.ne_of_gt later)]
    exact accounts.unfinalizedLater attempt later
  case unfinalizedNow =>
    intro running
    rw [terminal] at running
    contradiction

/-- The first attempt has the reservation row and no other one. -/
theorem Accounts.start {reservation : ProviderUsageRecord} {fresh : ChatExecution} {tokens : Int}
    (own : fresh.executionId = executionId) (unmarked : ∀ event ∈ history, event.executionId ≠ executionId)
    (reserves : reservation.operation = .reservation ∧ reservation.usageSource = .reservation)
    (attempt : reservation.attempt ≤ fresh.attemptCount) (total : reservation.totalTokens = tokens) :
    Accounts reservation [] (history ++ [.started executionId tokens]) fresh := by
  subst own
  have uncounted : ∀ attempt, (history ++ [LedgerEvent.started fresh.executionId tokens]).count
      (.finalized fresh.executionId attempt) = 0 := by
    intro attempt
    rw [List.count_append, count_finalized_of_foreign attempt unmarked]
    simp
  constructor
  case reserves => exact reserves
  case entered => simp
  case total =>
    rw [startedTokens_append, startedTokens_of_foreign unmarked, total]
    simp [startedTokens, LedgerEvent.tokens]
  case attempts =>
    intro row member
    rw [List.mem_singleton.mp member]
    exact attempt
  case distinct => exact List.nodup_singleton _
  case finalizedOnce => exact fun attempt => (uncounted attempt).trans_le (Nat.zero_le 1)
  case unfinalizedLater => exact fun attempt _ => uncounted attempt
  case unfinalizedNow => exact fun _ => ⟨uncounted _, by simp⟩

theorem LedgerInvariant.exhausted (invariant : LedgerInvariant database history)
    (located : Located database executionId execution assistant) (now : Instant) :
    LedgerInvariant (database.exhausted execution assistant now) history := by
  have represented := invariant.represented execution located.executionMem
  obtain ⟨userView, assistantView⟩ := invariant.rewritten_messages
    { assistant with status := .terminal .failed } located ⟨rfl, rfl, rfl⟩
  rw [← List.append_nil history]
  refine invariant.rewrite _ _ located rfl rfl ⟨rfl, rfl⟩ ⟨rfl, rfl⟩ ⟨rfl, rfl, rfl⟩
    invariant.usageBounded (fun _ _ => rfl) (fun _ member => by cases member) ?_
  rw [List.append_nil]
  refine ⟨?_, ⟨_, assistantView, located.assistantId, ?_⟩, rfl, represented.attempts, ?_⟩
  · obtain ⟨user, single, bound⟩ := represented.user
    exact ⟨user, userView.trans single, bound⟩
  · exact ⟨rfl, (nomatch ·), by simp [ChatExecution.exhausted]⟩
  · obtain ⟨reservation, entries, rows, accounts⟩ := represented.accounts
    exact ⟨reservation, entries, rows, accounts.close ⟨rfl, rfl⟩ rfl⟩

theorem LedgerInvariant.streamed (invariant : LedgerInvariant database history)
    (located : Located database executionId execution assistant)
    (running : execution.status.isTerminal = false) :
    LedgerInvariant (database.streamed execution assistant) history := by
  have represented := invariant.represented execution located.executionMem
  have agree := (represented.located_eq located).2
  obtain ⟨userView, assistantView⟩ := invariant.rewritten_messages
    { assistant with status := .streaming } located ⟨rfl, rfl, rfl⟩
  have empty := agree.emptyWhileRunning running
  rw [← List.append_nil history]
  refine invariant.rewrite _ _ located rfl rfl ⟨rfl, rfl⟩ ⟨rfl, rfl⟩ ⟨rfl, rfl, rfl⟩
    invariant.usageBounded (fun _ _ => rfl) (fun _ member => by cases member) ?_
  rw [List.append_nil]
  refine ⟨?_, ⟨_, assistantView, located.assistantId, ?_⟩, ?_, represented.attempts, ?_⟩
  · obtain ⟨user, single, bound⟩ := represented.user
    exact ⟨user, userView.trans single, bound⟩
  · refine ⟨rfl, fun _ => empty, ?_⟩
    have whole : execution.partialResponse = false := Bool.eq_false_iff.mpr fun partialResponse =>
      (agree.partialResponse.mp partialResponse).2 empty
    simp [empty, whole]
  · exact represented.completedAt.trans running
  · obtain ⟨reservation, entries, rows, accounts⟩ := represented.accounts
    exact ⟨reservation, entries, rows, { accounts with
      unfinalizedNow := fun _ => accounts.unfinalizedNow running }⟩

/-- The row that `reservationUsage?` finds is the reservation row. -/
theorem Accounts.reservation_eq {reservation row : ProviderUsageRecord}
    {entries : List ProviderUsageRecord} (accounts : Accounts reservation entries history execution)
    (member : row ∈ reservation :: entries) (source : row.usageSource = .reservation) :
    row = reservation := by
  rcases List.mem_cons.mp member with same | member
  · exact same
  · exact absurd source (accounts.entered row member).2

/-- Raising the reservation changes the first row of the execution and no other row. -/
theorem usageOf_replace_reservation {usage : List ProviderUsageRecord} {reservation : ProviderUsageRecord}
    {entries : List ProviderUsageRecord} (raised : ProviderUsageRecord) (id : Nat)
    (rows : usageOf usage reservation.chatExecutionId = reservation :: entries)
    (source : reservation.usageSource = .reservation)
    (entered : ∀ row ∈ entries, row.usageSource ≠ .reservation)
    (same : raised.binding = reservation.binding) :
    usageOf (Rows.replace ProviderUsageRecord.binding raised usage) id =
      if id = reservation.chatExecutionId then raised :: entries else usageOf usage id := by
  have sameExecution : raised.chatExecutionId = reservation.chatExecutionId := congrArg Prod.fst same
  have view : usageOf (Rows.replace ProviderUsageRecord.binding raised usage) id =
      Rows.replace ProviderUsageRecord.binding raised (usageOf usage id) := by
    refine Rows.filter_replace _ fun old _ sameBinding => ?_
    rw [show old.chatExecutionId = raised.chatExecutionId from congrArg Prod.fst sameBinding]
  rw [view]
  split
  next own =>
    rw [own, rows]
    have kept : Rows.replace ProviderUsageRecord.binding raised entries = entries :=
      Rows.replace_of_absent fun row member sameBinding => entered row member
        ((congrArg (fun binding => binding.2.2.2) (sameBinding.trans same)).trans source)
    simp only [Rows.replace, List.map_cons, if_pos same.symm] at kept ⊢
    rw [kept]
  next other =>
    refine Rows.replace_of_absent fun row member sameBinding => other ?_
    have selected : row.chatExecutionId = id := by simpa using (List.mem_filter.mp member).2
    rw [← selected, ← sameExecution]
    exact congrArg Prod.fst sameBinding

/-- What `recoverable` keeps of the execution and what it requires of its status. -/
theorem ChatExecution.recoverable_eq_ok {next : ChatExecution}
    (recovered : execution.recoverable = .ok next) :
    (∃ code retryable, next =
        { execution with lastFailureCode := code, failureRetryable := retryable }) ∧
      (execution.status.isTerminal = false ∨
        (execution.status = .terminal .failed ∨ execution.status = .terminal .cancelled) ∧
          execution.failureRetryable = true) := by
  unfold ChatExecution.recoverable at recovered
  split at recovered
  next prepared => cases recovered; exact ⟨⟨_, _, rfl⟩, .inl (by rw [prepared]; rfl)⟩
  next streaming => cases recovered; exact ⟨⟨_, _, rfl⟩, .inl (by rw [streaming]; rfl)⟩
  next => contradiction
  next status uncompleted terminal =>
    split at recovered
    next retryable =>
      cases recovered
      refine ⟨⟨_, _, rfl⟩, .inr ⟨?_, retryable⟩⟩
      cases status with
      | completed => exact absurd rfl uncompleted
      | failed => exact .inl terminal
      | cancelled => exact .inr terminal
    next => contradiction

theorem LedgerInvariant.recovered {request : ExchangeRequest} {next : ChatExecution}
    {usage : ProviderUsageRecord} (decisions : List GovernanceDecisionRecord)
    (invariant : LedgerInvariant database history)
    (located : Located database request.executionId execution assistant)
    (unspent : execution.attemptCount < execution.maxAttempts)
    (recoverable : execution.recoverable = .ok next)
    (reserved : usage ∈ database.usage ∧ usage.chatExecutionId = execution.id ∧
      usage.usageSource = .reservation) (now : Instant) (audited : Bool) :
    LedgerInvariant
      { database.recovered (next.restarted now audited) assistant usage request with decisions }
      (history ++ [.started request.executionId request.estimatedTokens]) := by
  obtain ⟨⟨code, retryable, rfl⟩, _⟩ := ChatExecution.recoverable_eq_ok recoverable
  have represented := invariant.represented execution located.executionMem
  obtain ⟨userView, assistantView⟩ := invariant.rewritten_messages
    { assistant with content := "", status := .pending } located ⟨rfl, rfl, rfl⟩
  obtain ⟨reservation, entries, rows, accounts⟩ := represented.accounts
  -- Only the reservation of an execution has this source.
  have isReservation : usage = reservation := by
    refine accounts.reservation_eq ?_ reserved.2.2
    rw [← rows]
    exact List.mem_filter.mpr ⟨reserved.1, by simpa using reserved.2.1⟩
  subst isReservation
  rw [← reserved.2.1] at rows
  have view := fun id => usageOf_replace_reservation
    { usage with
      totalTokens := usage.totalTokens + request.estimatedTokens
      estimatedCost := usage.estimatedCost + request.estimatedCost }
    id rows reserved.2.2 (fun row member => (accounts.entered row member).2) rfl
  refine invariant.rewrite _ _ located rfl rfl ⟨rfl, rfl⟩ ⟨rfl, rfl⟩ ⟨rfl, rfl, rfl⟩ ?_ ?_ ?_ ?_
  · exact Rows.forall_replace (invariant.usageBounded usage reserved.1) invariant.usageBounded
  · intro id other
    exact (view id).trans (if_neg (by rw [reserved.2.1]; exact other))
  · intro event member
    rw [List.mem_singleton.mp member]
    exact located.executionId.symm
  · refine ⟨?_, ⟨_, assistantView, located.assistantId, ?_⟩, rfl, ?_, ⟨_, entries,
      (view execution.id).trans (if_pos reserved.2.1.symm), ?_⟩⟩
    · obtain ⟨user, single, bound⟩ := represented.user
      exact ⟨user, userView.trans single, bound⟩
    · exact ⟨rfl, fun _ => rfl, by simp [ChatExecution.restarted]⟩
    · exact ⟨Nat.succ_pos _, unspent⟩
    · have own : request.executionId = execution.executionId := located.executionId.symm
      rw [own]
      exact accounts.restart ⟨rfl, rfl⟩ ⟨rfl, rfl, rfl⟩ rfl

theorem LedgerInvariant.finalized {request : FinalizeRequest} {terminal : TerminalStatus}
    {usage : List ProviderUsageRecord} (invariant : LedgerInvariant database history)
    (located : Located database request.executionId execution assistant)
    (running : execution.status.isTerminal = false)
    (record : Option IdempotencyRecord)
    (accounted : recordAccounting execution [] database.usage request.accounting = .ok usage)
    (now : Instant) :
    LedgerInvariant (database.finalized execution assistant record usage terminal request now)
      (history ++ [.finalized execution.executionId execution.attemptCount]) := by
  have represented := invariant.represented execution located.executionMem
  obtain ⟨userView, assistantView⟩ := invariant.rewritten_messages
    { assistant with status := .terminal terminal, content := request.content } located
    ⟨rfl, rfl, rfl⟩
  obtain ⟨reservation, entries, rows, accounts⟩ := represented.accounts
  obtain ⟨rfl, distinct, _, _⟩ := recordAccounting_eq_ok accounted
  obtain ⟨unfinalized, earlier⟩ := accounts.unfinalizedNow running
  have added : ∀ row ∈ request.accounting.map execution.usageRow,
      row.chatExecutionId = execution.id ∧ row.attempt = execution.attemptCount ∧
        row.operation ≠ .reservation ∧ row.usageSource ≠ .reservation := by
    intro row member
    obtain ⟨entry, _, rfl⟩ := List.mem_map.mp member
    exact ⟨rfl, rfl, entry.supported, entry.sourced⟩
  -- All the added rows are of this execution and come after its own.
  have view : usageOf (database.usage ++ request.accounting.map execution.usageRow) execution.id =
      reservation :: (entries ++ request.accounting.map execution.usageRow) := by
    have whole : (request.accounting.map execution.usageRow).filter
        (fun row => row.chatExecutionId = execution.id) = request.accounting.map execution.usageRow :=
      List.filter_eq_self.mpr fun row member => by simpa using (added row member).1
    rw [usageOf, List.filter_append, whole]
    exact congrArg (· ++ _) rows
  refine invariant.rewrite (execution.finalized terminal request now)
    { assistant with status := .terminal terminal, content := request.content } located
    ?_ ?_ ?_ ⟨rfl, rfl⟩ ⟨rfl, rfl, rfl⟩ ?_ ?_ ?_ ?_
  · cases record <;> rfl
  · cases record <;> rfl
  · cases record <;> exact ⟨rfl, rfl⟩
  · intro row member
    rcases List.mem_append.mp member with member | member
    · exact invariant.usageBounded row member
    · rw [(added row member).1]
      exact invariant.bounded execution located.executionMem
  · intro id other
    refine usageOf_append_of_foreign fun row member same => other ?_
    rw [← same, (added row member).1]
  · intro event member
    rw [List.mem_singleton.mp member]
    rfl
  · have messages : (database.finalized execution assistant record
        (database.usage ++ request.accounting.map execution.usageRow) terminal request now).messages =
        Rows.replace Message.id
          { assistant with status := .terminal terminal, content := request.content }
          database.messages := by
      cases record <;> rfl
    refine ⟨?_, ⟨_, (congrArg (messagesOf · execution.executionId .assistant) messages).trans
      assistantView, located.assistantId, ?_⟩, rfl, represented.attempts,
      ⟨reservation, _, view, ?_⟩⟩
    · obtain ⟨user, single, bound⟩ := represented.user
      exact ⟨user, (congrArg (messagesOf · execution.executionId .user) messages).trans
        (userView.trans single), bound⟩
    · refine ⟨rfl, (fun running => by cases running), ?_⟩
      cases terminal <;> simp [ChatExecution.finalized]
    · exact accounts.finalize running distinct ⟨rfl, rfl⟩ rfl

/-- A fresh exchange: one execution, its two messages and its reservation row. -/
theorem LedgerInvariant.inserted {request : ExchangeRequest} (decisions : List GovernanceDecisionRecord)
    (invariant : LedgerInvariant database history)
    (absent : ∀ execution ∈ database.executions, execution.executionId ≠ request.executionId)
    (admitted : database.admits request = true) (positive : 1 ≤ request.maxAttempts) :
    LedgerInvariant { database.inserted request with decisions }
      (history ++ [.started request.executionId request.estimatedTokens]) := by
  -- No row of the ledger knows the execution yet, so it has the inserted rows only.
  have unused : ∀ message ∈ database.messages, message.executionId ≠ request.executionId := by
    simp only [Database.admits, Bool.and_eq_true, List.all_eq_true, decide_eq_true_eq] at admitted
    exact admitted.1
  have unmarked : ∀ event ∈ history, event.executionId ≠ request.executionId := by
    intro event member same
    obtain ⟨execution, executionMem, sameExecution⟩ := invariant.known event member
    exact absent execution executionMem (sameExecution.trans same)
  have unaccounted : usageOf database.usage database.nextExecutionId = [] := by
    refine List.filter_eq_nil_iff.mpr fun row member selected => ?_
    exact Nat.ne_of_lt (invariant.usageBounded row member) (of_decide_eq_true selected)
  have unsent : ∀ role, messagesOf database.messages request.executionId role = [] := by
    refine fun role => List.filter_eq_nil_iff.mpr fun message member selected => ?_
    exact unused message member (of_decide_eq_true selected).1
  have user : messagesOf (database.inserted request).messages request.executionId .user =
      [request.userMessage database.nextMessageId] := by
    refine (List.filter_append _ _).trans ?_
    exact (congrArg (· ++ _) (unsent .user)).trans
      (by simp [ExchangeRequest.userMessage, ExchangeRequest.assistantMessage])
  have assistant : messagesOf (database.inserted request).messages request.executionId .assistant =
      [request.assistantMessage (database.nextMessageId + 1)] := by
    refine (List.filter_append _ _).trans ?_
    exact (congrArg (· ++ _) (unsent .assistant)).trans
      (by simp [ExchangeRequest.userMessage, ExchangeRequest.assistantMessage])
  have usage : usageOf (database.inserted request).usage database.nextExecutionId =
      [request.reservationUsage database.nextExecutionId] := by
    refine (List.filter_append _ _).trans ?_
    exact (congrArg (· ++ _) unaccounted).trans (by simp [ExchangeRequest.reservationUsage])
  constructor
  case ids =>
    exact invariant.ids.append fun old member same =>
      Nat.ne_of_lt (invariant.bounded old member) same
  case executionIds => exact invariant.executionIds.append absent
  case bounded =>
    intro execution member
    rcases List.mem_append.mp member with member | member
    · exact Nat.lt_succ_of_lt (invariant.bounded execution member)
    · rw [List.mem_singleton.mp member]
      exact Nat.lt_succ_self _
  case messageIds =>
    have userFresh : Rows.Unique Message.id
        (database.messages ++ [request.userMessage database.nextMessageId]) :=
      invariant.messageIds.append fun old member same =>
        Nat.ne_of_lt (invariant.messagesBounded old member) same
    change Rows.Unique Message.id (database.messages ++
      ([request.userMessage database.nextMessageId] ++
        [request.assistantMessage (database.nextMessageId + 1)]))
    rw [← List.append_assoc]
    refine userFresh.append fun old member same => ?_
    -- The user message took the first of the two ids.
    have same : old.id = database.nextMessageId + 1 := same
    rcases List.mem_append.mp member with member | member
    · have := invariant.messagesBounded old member
      omega
    · rw [List.mem_singleton.mp member] at same
      exact absurd same (Nat.ne_of_lt (Nat.lt_succ_self _))
  case messagesBounded =>
    intro message member
    rcases List.mem_append.mp member with member | member
    · exact Nat.lt_of_lt_of_le (invariant.messagesBounded message member) (Nat.le_add_right _ _)
    · simp only [List.mem_cons, List.not_mem_nil, or_false] at member
      rcases member with rfl | rfl
      · exact Nat.lt_add_of_pos_right (by decide)
      · exact Nat.lt_succ_self _
  case usageBounded =>
    intro row member
    rcases List.mem_append.mp member with member | member
    · exact Nat.lt_succ_of_lt (invariant.usageBounded row member)
    · rw [List.mem_singleton.mp member]
      exact Nat.lt_succ_self _
  case known =>
    intro event member
    rcases List.mem_append.mp member with member | member
    · obtain ⟨execution, executionMem, same⟩ := invariant.known event member
      exact ⟨execution, List.mem_append_left _ executionMem, same⟩
    · rw [List.mem_singleton.mp member]
      exact ⟨_, List.mem_append_right _ (List.mem_singleton_self _), rfl⟩
  case represented =>
    intro execution member
    rcases List.mem_append.mp member with member | member
    -- An older execution: none of the new rows is one of its own.
    · have differs := absent execution member
      refine (invariant.represented execution member).congr (fun role => ?_) ?_ ?_
      · refine messagesOf_append_of_foreign fun message added same => differs ?_
        simp only [List.mem_cons, List.not_mem_nil, or_false] at added
        rcases added with rfl | rfl <;> exact same.symm
      · refine usageOf_append_of_foreign fun row added same => ?_
        rw [List.mem_singleton.mp added] at same
        exact Nat.ne_of_lt (invariant.bounded execution member) same.symm
      · intro event added same
        rw [List.mem_singleton.mp added] at same
        exact differs same.symm
    · rw [List.mem_singleton.mp member]
      -- The new execution: its two messages, its reservation and the start of its history.
      refine ⟨⟨_, user, rfl⟩, ⟨_, assistant, rfl, rfl, fun _ => rfl, ?_⟩, rfl,
        ⟨Nat.le_refl 1, positive⟩, ⟨_, [], usage, ?_⟩⟩
      · simp [ExchangeRequest.freshExecution]
      · exact .start rfl unmarked ⟨rfl, rfl⟩ (Nat.le_refl 1) rfl

/-- Losing its idempotency record changes nothing an execution is represented by. -/
theorem LedgerInvariant.withIdempotency (invariant : LedgerInvariant database history)
    (table : IdempotencyTable) : LedgerInvariant (database.withIdempotency table) history := by
  constructor
  case ids =>
    simpa [Rows.Unique, Database.withIdempotency, List.map_map, Function.comp_def] using invariant.ids
  case executionIds =>
    simpa [Rows.Unique, Database.withIdempotency, List.map_map, Function.comp_def] using
      invariant.executionIds
  case bounded =>
    intro execution member
    obtain ⟨old, oldMem, rfl⟩ := List.mem_map.mp member
    exact invariant.bounded old oldMem
  case messageIds => exact invariant.messageIds
  case messagesBounded =>
    exact invariant.messagesBounded
  case usageBounded => exact invariant.usageBounded
  case known =>
    intro event member
    obtain ⟨old, oldMem, same⟩ := invariant.known event member
    exact ⟨_, List.mem_map.mpr ⟨old, oldMem, rfl⟩, same⟩
  case represented =>
    intro execution member
    obtain ⟨old, oldMem, rfl⟩ := List.mem_map.mp member
    obtain ⟨user, assistant, completedAt, attempts, reservation, entries, rows, accounts⟩ :=
      invariant.represented old oldMem
    obtain ⟨message, single, bound, agree⟩ := assistant
    exact ⟨user, ⟨message, single, bound, { agree with }⟩, completedAt, attempts,
      reservation, entries, rows, { accounts with }⟩

end Branches

/-! ## The system -/

structure LedgerState where
  database : Database
  clock : Instant
  history : List LedgerEvent
  deriving DecidableEq, Repr

inductive LedgerLabel where
  | tick (elapsed : Nat)
  | prepareExchange (storage : Storage) (request : ExchangeRequest)
  | markStreaming (storage : Storage) (executionId : String)
  | assertRecoveryAllowed (storage : Storage) (executionId : String) (idempotencyRecordId : Nat)
      (leaseToken : Option String)
  | finalize (storage : Storage) (request : FinalizeRequest)
  | leaseChange (table : IdempotencyTable)
  | decisionChange (decisions : List GovernanceDecisionRecord)
  deriving DecidableEq, Repr

namespace LedgerState

def initial (clock : Instant) : LedgerState := ⟨Database.empty, clock, []⟩

/-- The event of a call of `prepare_exchange` that returned. -/
def startedBy (request : ExchangeRequest) :
    Except PersistenceError PersistedChatExecution → List LedgerEvent
  | .ok _ => [.started request.executionId request.estimatedTokens]
  | .error _ => []

/-- The event of a call of `finalize` that returned `True`. -/
def finalizedBy (database : Database) (request : FinalizeRequest) :
    Except PersistenceError Bool → List LedgerEvent
  | .ok true =>
    (database.execution? request.executionId).toList.map fun execution =>
      .finalized execution.executionId execution.attemptCount
  | _ => []

/-- One call; `prepare_exchange` is called with `max_attempts >= 1`. -/
def step (state : LedgerState) : LedgerLabel → Option LedgerState
  | .tick elapsed => some { state with clock := state.clock + elapsed }
  | .prepareExchange storage request =>
    if request.maxAttempts = 0 then none
    else
      let ending := prepareExchange storage state.database request state.clock
      some { state with
        database := ending.1, history := state.history ++ startedBy request ending.2 }
  | .markStreaming storage executionId =>
    some { state with database := (markStreaming storage state.database executionId).1 }
  | .assertRecoveryAllowed storage executionId idempotencyRecordId leaseToken =>
    some { state with
      database := (assertRecoveryAllowed storage state.database executionId idempotencyRecordId
        leaseToken state.clock).1 }
  | .finalize storage request =>
    let ending := finalize storage state.database request state.clock
    some { state with
      database := ending.1, history := state.history ++ finalizedBy state.database request ending.2 }
  | .leaseChange table => some { state with database := state.database.withIdempotency table }
  | .decisionChange decisions => some { state with database := { state.database with decisions } }

end LedgerState

open LedgerState

theorem ledgerInvariant_initial (clock : Instant) :
    LedgerInvariant (initial clock).database (initial clock).history where
  ids := List.nodup_nil
  executionIds := List.nodup_nil
  bounded := fun _ member => nomatch member
  messageIds := List.nodup_nil
  messagesBounded := fun _ member => nomatch member
  usageBounded := fun _ member => nomatch member
  known := fun _ member => nomatch member
  represented := fun _ member => nomatch member

/-- The two message ids of a represented execution are set, so its snapshot succeeds. -/
theorem Represented.snapshot_ok {messages : List Message} {usage : List ProviderUsageRecord}
    {history : List LedgerEvent} {execution : ChatExecution} (next : ChatExecution)
    (represented : Represented messages usage history execution)
    (same : next.userMessageId = execution.userMessageId ∧
      next.assistantMessageId = execution.assistantMessageId) :
    ∃ persisted, snapshot next = .ok persisted := by
  obtain ⟨user, _, userBound⟩ := represented.user
  obtain ⟨assistant, _, assistantBound, _⟩ := represented.assistant
  unfold snapshot
  rw [same.1, same.2, userBound, assistantBound]
  exact ⟨_, rfl⟩

/-- The execution found by an id is the one with that id. -/
theorem LedgerInvariant.execution?_eq {database : Database} {history : List LedgerEvent}
    {executionId : String} {execution : ChatExecution} (invariant : LedgerInvariant database history)
    (present : execution ∈ database.executions) (same : execution.executionId = executionId) :
    database.execution? executionId = some execution := by
  subst same
  exact invariant.executionIds.find?_eq_some present

theorem LedgerInvariant.prepareExchange {database : Database} {history : List LedgerEvent}
    (invariant : LedgerInvariant database history) (storage : Storage) (request : ExchangeRequest)
    (now : Instant) (positive : 1 ≤ request.maxAttempts) :
    LedgerInvariant (prepareExchange storage database request now).1
      (history ++ startedBy request (prepareExchange storage database request now).2) := by
  have ended := prepareExchange_ending storage database request now
  generalize Eiraos.prepareExchange storage database request now = ending at ended
  cases ended with
  | refused => rw [startedBy, List.append_nil]; exact invariant
  | exhausted located => rw [startedBy, List.append_nil]; exact invariant.exhausted located now
  | @recovered _ next _ _ _ decisions located _ _ unspent recoverable reserved _ =>
    have represented := invariant.represented _ located.executionMem
    obtain ⟨⟨code, retryable, same⟩, _⟩ := ChatExecution.recoverable_eq_ok recoverable
    obtain ⟨persisted, snapped⟩ := represented.snapshot_ok
      (next.restarted now request.governanceDecisionId.isSome) (by rw [same]; exact ⟨rfl, rfl⟩)
    rw [snapped]
    exact invariant.recovered decisions located unspent recoverable reserved now _
  | inserted absent admitted => exact invariant.inserted _ absent admitted positive

theorem LedgerInvariant.step {state next : LedgerState} {label : LedgerLabel}
    (invariant : LedgerInvariant state.database state.history)
    (stepped : LedgerState.step state label = some next) :
    LedgerInvariant next.database next.history := by
  cases label with
  | tick elapsed =>
    cases stepped
    exact invariant
  | prepareExchange storage request =>
    simp only [LedgerState.step] at stepped
    split at stepped
    · contradiction
    next positive =>
      cases stepped
      exact invariant.prepareExchange storage request state.clock (Nat.pos_of_ne_zero positive)
  | markStreaming storage executionId =>
    cases stepped
    have ended := markStreaming_ending storage state.database executionId
    generalize Eiraos.markStreaming storage state.database executionId = ending at ended
    cases ended with
    | unchanged => exact invariant
    | streamed located running => exact invariant.streamed located running
  | assertRecoveryAllowed storage executionId idempotencyRecordId leaseToken =>
    cases stepped
    have ended := assertRecoveryAllowed_ending storage state.database executionId
      idempotencyRecordId leaseToken state.clock
    generalize Eiraos.assertRecoveryAllowed storage state.database executionId idempotencyRecordId
      leaseToken state.clock = ending at ended
    cases ended with
    | unchanged => exact invariant
    | exhausted located => exact { invariant.exhausted located state.clock with }
  | finalize storage request =>
    cases stepped
    have ended := finalize_ending storage state.database request state.clock
    generalize Eiraos.finalize storage state.database request state.clock = ending at ended
    cases ended with
    | unchanged unfinished =>
      have silent : ∀ result, result ≠ .ok true → finalizedBy state.database request result = [] := by
        intro result unfinished
        unfold finalizedBy
        split
        · exact absurd rfl unfinished
        · rfl
      rw [silent _ unfinished, List.append_nil]
      exact invariant
    | finalized parsed located running explained owner accounted =>
      simp only [finalizedBy, invariant.execution?_eq located.executionMem located.executionId]
      exact invariant.finalized located running _ accounted state.clock
  | leaseChange table =>
    cases stepped
    exact invariant.withIdempotency table
  | decisionChange decisions =>
    cases stepped
    exact { invariant with }

/-! ## Attempts -/

/-- The only way to a further attempt: an owned recovery of an execution that is running or
failed retryably and has attempts left. -/
structure RestartedBy (state : LedgerState) (label : LedgerLabel) (execution after : ChatExecution) :
    Prop where
  attemptCount : after.attemptCount = execution.attemptCount + 1
  unspent : execution.attemptCount < execution.maxAttempts
  recoverable : execution.status.isTerminal = false ∨
    (execution.status = .terminal .failed ∨ execution.status = .terminal .cancelled) ∧
      execution.failureRetryable = true
  recovery : ∃ storage request record, label = .prepareExchange storage request ∧
    request.recover = true ∧ request.executionId = execution.executionId ∧
    LeaseOwner state.database execution request.leaseToken state.clock record

/-- After a method rewrote one execution, every other one is still there. -/
theorem LedgerInvariant.follow {database : Database} {history : List LedgerEvent}
    {execution : ChatExecution} (next : ChatExecution) (invariant : LedgerInvariant database history)
    (present : execution ∈ database.executions) (same : next.id = execution.id)
    {other : ChatExecution} (member : other ∈ database.executions) :
    (other = execution ∧ next ∈ Rows.replace ChatExecution.id next database.executions) ∨
      other ∈ Rows.replace ChatExecution.id next database.executions := by
  by_cases rewritten : other.id = next.id
  · exact .inl ⟨invariant.ids.eq member present (rewritten.trans same),
      Rows.mem_replace_self present same.symm⟩
  · exact .inr (Rows.mem_replace_of_ne member rewritten)

/-- One step keeps every execution, and its attempt count unless the step restarts it. -/
theorem LedgerState.step_attempts {state next : LedgerState} {label : LedgerLabel}
    (invariant : LedgerInvariant state.database state.history)
    (stepped : LedgerState.step state label = some next) {execution : ChatExecution}
    (present : execution ∈ state.database.executions) :
    ∃ after ∈ next.database.executions, after.executionId = execution.executionId ∧
      (after.attemptCount = execution.attemptCount ∨ RestartedBy state label execution after) := by
  have kept : ∀ {database : Database}, execution ∈ database.executions →
      ∃ after ∈ database.executions, after.executionId = execution.executionId ∧
        (after.attemptCount = execution.attemptCount ∨ RestartedBy state label execution after) :=
    fun member => ⟨execution, member, rfl, .inl rfl⟩
  -- A branch that rewrites an execution without restarting it.
  have rewritten : ∀ {database : Database} {old : ChatExecution} (new : ChatExecution),
      old ∈ state.database.executions →
      database.executions = Rows.replace ChatExecution.id new state.database.executions →
      new.id = old.id → new.executionId = old.executionId → new.attemptCount = old.attemptCount →
      ∃ after ∈ database.executions, after.executionId = execution.executionId ∧
        (after.attemptCount = execution.attemptCount ∨ RestartedBy state label execution after) := by
    intro database old new oldMem executions sameId sameExecution sameCount
    rw [executions]
    rcases invariant.follow new oldMem sameId present with ⟨rfl, member⟩ | member
    · exact ⟨new, member, sameExecution, .inl sameCount⟩
    · exact ⟨execution, member, rfl, .inl rfl⟩
  cases label with
  | tick elapsed =>
    cases stepped
    exact kept present
  | prepareExchange storage request =>
    simp only [LedgerState.step] at stepped
    split at stepped
    · contradiction
    · cases stepped
      have ended := prepareExchange_ending storage state.database request state.clock
      generalize Eiraos.prepareExchange storage state.database request state.clock = ending at ended
      cases ended with
      | refused => exact kept present
      | exhausted located => exact rewritten _ located.executionMem rfl rfl rfl rfl
      | @recovered _ restored _ _ _ _ located recover owner unspent recoverable =>
        obtain ⟨⟨code, retryable, same⟩, restartable⟩ := ChatExecution.recoverable_eq_ok recoverable
        rcases invariant.follow (restored.restarted state.clock request.governanceDecisionId.isSome)
          located.executionMem (by rw [same]; rfl) present with ⟨rfl, member⟩ | member
        · exact ⟨_, member, by rw [same]; rfl, .inr ⟨by rw [same]; rfl, unspent, restartable, storage,
            request, _, rfl, recover, located.executionId.symm, owner⟩⟩
        · exact kept member
      | inserted => exact kept (List.mem_append_left _ present)
  | markStreaming storage executionId =>
    cases stepped
    have ended := markStreaming_ending storage state.database executionId
    generalize Eiraos.markStreaming storage state.database executionId = ending at ended
    cases ended with
    | unchanged => exact kept present
    | streamed located => exact rewritten _ located.executionMem rfl rfl rfl rfl
  | assertRecoveryAllowed storage executionId idempotencyRecordId leaseToken =>
    cases stepped
    have ended := assertRecoveryAllowed_ending storage state.database executionId
      idempotencyRecordId leaseToken state.clock
    generalize Eiraos.assertRecoveryAllowed storage state.database executionId idempotencyRecordId
      leaseToken state.clock = ending at ended
    cases ended with
    | unchanged => exact kept present
    | exhausted located => exact rewritten _ located.executionMem rfl rfl rfl rfl
  | finalize storage request =>
    cases stepped
    have ended := finalize_ending storage state.database request state.clock
    generalize Eiraos.finalize storage state.database request state.clock = ending at ended
    cases ended with
    | unchanged => exact kept present
    | @finalized terminal _ _ record _ _ located =>
      refine rewritten (ChatExecution.finalized _ terminal request state.clock) located.executionMem ?_
        rfl rfl rfl
      cases record <;> rfl
  | leaseChange table =>
    cases stepped
    exact ⟨_, List.mem_map.mpr ⟨execution, present, rfl⟩, rfl, .inl rfl⟩
  | decisionChange decisions =>
    cases stepped
    exact kept present

/-! ### A crashed attempt and the one that recovers it -/

def leasedRequest (recover : Bool) (leaseToken : String) : ExchangeRequest where
  executionId := "execution"
  requestId := "request"
  conversationId := 1
  organizationId := 1
  userId := 2
  botId := 3
  botOrganizationId := 1
  provider := "openai"
  model := "gpt-4o"
  prompt := "hello"
  idempotencyRecordId := some 0
  estimatedTokens := 1026
  estimatedCost := 0
  verification := false
  recover := recover
  leaseToken := some leaseToken
  maxAttempts := 3
  governanceDecisionId := none

def leasedTable : IdempotencyTable := (beginIdempotency ⟨[], 0⟩ ⟨1, 2, "key", "digest"⟩ 0 0 "first").1

def answerCosts : List ExecutionCost :=
  (executionCost "openai" "gpt-4o" .primary 6 4 .providerReported 550000).toOption.toList

/-- The process crashes while it streams; when the lease has lapsed, a second one recovers the execution. -/
def recoveredLabels : List LedgerLabel :=
  [.leaseChange leasedTable, .prepareExchange .available (leasedRequest false "first"),
    .markStreaming .available "execution", .tick (seconds 121),
    .leaseChange (beginIdempotency leasedTable ⟨1, 2, "key", "digest"⟩ (seconds 121) (seconds 121) "second").1,
    .assertRecoveryAllowed .available "execution" 0 (some "second"),
    .prepareExchange .available (leasedRequest true "second"), .markStreaming .available "execution",
    .finalize .available
      ⟨"execution", "completed", "answer", 200, "reference", some "second", none, answerCosts⟩]

/-! ### Reachable states -/

/-- In every reachable state each execution is represented by its messages and its ledger
rows, and from there no step raises an attempt count but an owned recovery. -/
theorem execution_ledger_represented {clock : Instant} {labels : List LedgerLabel} {state : LedgerState}
    (reached : Transition.run LedgerState.step (LedgerState.initial clock) labels = some state) :
    (∀ execution ∈ state.database.executions,
      Represented state.database.messages state.database.usage state.history execution) ∧
    ∀ label next, LedgerState.step state label = some next →
      ∀ execution ∈ state.database.executions, ∃ after ∈ next.database.executions,
        after.executionId = execution.executionId ∧
        (after.attemptCount = execution.attemptCount ∨ RestartedBy state label execution after) := by
  have invariant := Transition.run_invariant
    (fun state : LedgerState => LedgerInvariant state.database state.history)
    (fun _ _ _ invariant stepped => invariant.step stepped) (ledgerInvariant_initial clock) reached
  exact ⟨invariant.represented, fun _ _ stepped _ present => step_attempts invariant stepped present⟩

theorem execution_ledger_represented_completed :
    ∃ state : LedgerState,
      Transition.run LedgerState.step (LedgerState.initial 0) recoveredLabels = some state ∧
      state.database.executions.map (fun execution => (execution.status, execution.attemptCount)) =
        [(.terminal .completed, 2)] ∧
      state.database.usage.map (fun usage => (usage.attempt, usage.totalTokens)) = [(1, 2052), (2, 10)] ∧
      (∀ execution ∈ state.database.executions,
        Represented state.database.messages state.database.usage state.history execution) ∧
      ∀ label next, LedgerState.step state label = some next →
        ∀ execution ∈ state.database.executions, ∃ after ∈ next.database.executions,
          after.executionId = execution.executionId ∧
          (after.attemptCount = execution.attemptCount ∨ RestartedBy state label execution after) :=
  ⟨_, rfl, rfl, rfl, @execution_ledger_represented 0 recoveredLabels _ rfl⟩

end Eiraos
