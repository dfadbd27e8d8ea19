import Eiraos.Foundations.Run
import Eiraos.Persistence.Endings
import Mathlib.Algebra.BigOperators.Group.List.Basic
import Mathlib.Algebra.Ring.Int.Defs

/-! # The representation invariant of the execution ledger

Anyone may call the methods of the contract in any order, while the idempotency table and
the governance decisions change arbitrarily between two calls.  The history is ghost
state: it remembers the attempts that were started and the calls of `finalize` that
returned `True`.  `Represented` is what holds of one execution, its messages and its
ledger rows; each method rewrites one execution and leaves the others as they are.
-/

namespace Eiraos

/-- An attempt that was started, or one that was closed by a successful `finalize`. -/
inductive LedgerEvent where
  | started (executionId : String) (estimatedTokens : Int)
  | finalized (executionId : String) (attempt : Nat)
  deriving DecidableEq, Repr

def LedgerEvent.executionId : LedgerEvent → String
  | .started executionId _ => executionId
  | .finalized executionId _ => executionId

def LedgerEvent.tokens (executionId : String) : LedgerEvent → Int
  | .started owner tokens => if owner = executionId then tokens else 0
  | .finalized _ _ => 0

/-- The estimates of all attempts started for an execution. -/
def startedTokens (history : List LedgerEvent) (executionId : String) : Int :=
  (history.map (LedgerEvent.tokens executionId)).sum

def messagesOf (messages : List Message) (executionId : String) (role : Role) : List Message :=
  messages.filter fun message => message.executionId = executionId ∧ message.role = role

def usageOf (usage : List ProviderUsageRecord) (chatExecutionId : Nat) : List ProviderUsageRecord :=
  usage.filter fun row => row.chatExecutionId = chatExecutionId

/-- The status of the assistant message that goes with a status of the execution. -/
def ExecutionStatus.ofAssistant : ExecutionStatus → MessageStatus
  | .prepared => .pending
  | .streaming => .streaming
  | .terminal status => .terminal status

/-! ## The invariant of one execution -/

structure AssistantMatches (execution : ChatExecution) (assistant : Message) : Prop where
  status : assistant.status = execution.status.ofAssistant
  emptyWhileRunning : execution.status.isTerminal = false → assistant.content = ""
  partialResponse : execution.partialResponse = true ↔
    (execution.status = .terminal .failed ∨ execution.status = .terminal .cancelled) ∧
      assistant.content ≠ ""

/-- The ledger rows of an execution: the reservation row and the entries of its attempts. -/
structure Accounts (reservation : ProviderUsageRecord) (entries : List ProviderUsageRecord)
    (history : List LedgerEvent) (execution : ChatExecution) : Prop where
  reserves : reservation.operation = .reservation ∧ reservation.usageSource = .reservation
  entered : ∀ row ∈ entries, row.operation ≠ .reservation ∧ row.usageSource ≠ .reservation
  total : reservation.totalTokens = startedTokens history execution.executionId
  attempts : ∀ row ∈ reservation :: entries, row.attempt ≤ execution.attemptCount
  distinct : Rows.Unique (fun row => (row.attempt, row.operation)) (reservation :: entries)
  finalizedOnce : ∀ attempt, history.count (.finalized execution.executionId attempt) ≤ 1
  unfinalizedLater : ∀ attempt, execution.attemptCount < attempt →
    history.count (.finalized execution.executionId attempt) = 0
  unfinalizedNow : execution.status.isTerminal = false →
    history.count (.finalized execution.executionId execution.attemptCount) = 0 ∧
      ∀ row ∈ entries, row.attempt < execution.attemptCount

structure Represented (messages : List Message) (usage : List ProviderUsageRecord)
    (history : List LedgerEvent) (execution : ChatExecution) : Prop where
  user : ∃ message, messagesOf messages execution.executionId .user = [message] ∧
    execution.userMessageId = some message.id
  assistant : ∃ message, messagesOf messages execution.executionId .assistant = [message] ∧
    execution.assistantMessageId = some message.id ∧ AssistantMatches execution message
  completedAt : execution.completedAt.isSome = execution.status.isTerminal
  attempts : 1 ≤ execution.attemptCount ∧ execution.attemptCount ≤ execution.maxAttempts
  accounts : ∃ reservation entries, usageOf usage execution.id = reservation :: entries ∧
    Accounts reservation entries history execution

structure LedgerInvariant (database : Database) (history : List LedgerEvent) : Prop where
  ids : Rows.Unique ChatExecution.id database.executions
  executionIds : Rows.Unique ChatExecution.executionId database.executions
  bounded : ∀ execution ∈ database.executions, execution.id < database.nextExecutionId
  messageIds : Rows.Unique Message.id database.messages
  messagesBounded : ∀ message ∈ database.messages, message.id < database.nextMessageId
  usageBounded : ∀ row ∈ database.usage, row.chatExecutionId < database.nextExecutionId
  known : ∀ event ∈ history, ∃ execution ∈ database.executions,
    execution.executionId = event.executionId
  represented : ∀ execution ∈ database.executions,
    Represented database.messages database.usage history execution

/-! ## Views under updates -/

theorem startedTokens_append {history events : List LedgerEvent} {executionId : String} :
    startedTokens (history ++ events) executionId =
      startedTokens history executionId + startedTokens events executionId := by
  simp [startedTokens]

theorem startedTokens_of_foreign {events : List LedgerEvent} {executionId : String}
    (foreign : ∀ event ∈ events, event.executionId ≠ executionId) :
    startedTokens events executionId = 0 := by
  unfold startedTokens
  refine List.sum_eq_zero fun tokens member => ?_
  obtain ⟨event, eventMem, rfl⟩ := List.mem_map.mp member
  cases event with
  | started started tokens => exact if_neg (foreign _ eventMem)
  | finalized => rfl

theorem count_finalized_of_foreign {events : List LedgerEvent} {executionId : String} (attempt : Nat)
    (foreign : ∀ event ∈ events, event.executionId ≠ executionId) :
    events.count (.finalized executionId attempt) = 0 :=
  List.count_eq_zero.mpr fun member => foreign _ member rfl

theorem usageOf_append_of_foreign {usage rows : List ProviderUsageRecord} {id : Nat}
    (foreign : ∀ row ∈ rows, row.chatExecutionId ≠ id) : usageOf (usage ++ rows) id = usageOf usage id := by
  have none_ : rows.filter (fun row => row.chatExecutionId = id) = [] := by
    refine List.filter_eq_nil_iff.mpr fun row member selected => ?_
    exact foreign row member (of_decide_eq_true selected)
  rw [usageOf, List.filter_append, none_, List.append_nil]
  rfl

theorem messagesOf_append_of_foreign {messages added : List Message} {executionId : String} {role : Role}
    (foreign : ∀ message ∈ added, message.executionId ≠ executionId) :
    messagesOf (messages ++ added) executionId role = messagesOf messages executionId role := by
  have none_ : added.filter (fun message => message.executionId = executionId ∧ message.role = role) = [] := by
    refine List.filter_eq_nil_iff.mpr fun message member selected => ?_
    exact foreign message member (of_decide_eq_true selected).1
  rw [messagesOf, List.filter_append, none_, List.append_nil]
  rfl

/-- Rewriting one message rewrites it in every view it belongs to. -/
theorem messagesOf_replace {messages : List Message} {old written : Message} {executionId : String}
    {role : Role} (unique : Rows.Unique Message.id messages) (present : old ∈ messages)
    (same : written.id = old.id ∧ written.executionId = old.executionId ∧ written.role = old.role) :
    messagesOf (Rows.replace Message.id written messages) executionId role =
      Rows.replace Message.id written (messagesOf messages executionId role) := by
  refine Rows.filter_replace _ fun other otherMem sameId => ?_
  rw [unique.eq otherMem present (sameId.trans same.1), same.2.1, same.2.2]

/-- A view without the old message is the same afterwards. -/
theorem messagesOf_replace_of_other {messages : List Message} {old written : Message}
    {executionId : String} {role : Role} (unique : Rows.Unique Message.id messages)
    (present : old ∈ messages)
    (same : written.id = old.id ∧ written.executionId = old.executionId ∧ written.role = old.role)
    (other : old.executionId ≠ executionId ∨ old.role ≠ role) :
    messagesOf (Rows.replace Message.id written messages) executionId role =
      messagesOf messages executionId role := by
  rw [messagesOf_replace unique present same]
  refine Rows.replace_of_absent fun message member sameId => ?_
  obtain ⟨messageMem, selected⟩ := List.mem_filter.mp member
  have selected : message.executionId = executionId ∧ message.role = role := by simpa using selected
  rw [unique.eq messageMem present (sameId.trans same.1)] at selected
  exact other.elim (fun differs => differs selected.1) (fun differs => differs selected.2)

/-- What an execution is represented by does not depend on the rows of the others. -/
theorem Represented.congr {messages messages' : List Message} {usage usage' : List ProviderUsageRecord}
    {history events : List LedgerEvent} {execution : ChatExecution}
    (represented : Represented messages usage history execution)
    (sameMessages : ∀ role, messagesOf messages' execution.executionId role =
      messagesOf messages execution.executionId role)
    (sameUsage : usageOf usage' execution.id = usageOf usage execution.id)
    (foreign : ∀ event ∈ events, event.executionId ≠ execution.executionId) :
    Represented messages' usage' (history ++ events) execution where
  user := by
    rw [sameMessages]
    exact represented.user
  assistant := by
    rw [sameMessages]
    exact represented.assistant
  completedAt := represented.completedAt
  attempts := represented.attempts
  accounts := by
    obtain ⟨reservation, entries, rows, accounts⟩ := represented.accounts
    have uncounted := fun attempt => count_finalized_of_foreign attempt foreign
    refine ⟨reservation, entries, sameUsage.trans rows, { accounts with
      total := ?_, finalizedOnce := ?_, unfinalizedLater := ?_, unfinalizedNow := ?_ }⟩
    · rw [startedTokens_append, startedTokens_of_foreign foreign, Int.add_zero]
      exact accounts.total
    · intro attempt
      rw [List.count_append, uncounted]
      exact accounts.finalizedOnce attempt
    · intro attempt later
      rw [List.count_append, uncounted]
      exact accounts.unfinalizedLater attempt later
    · intro running
      rw [List.count_append, uncounted]
      exact accounts.unfinalizedNow running

/-! ## Rewriting one execution -/

/-- The located message is the one assistant message of the execution. -/
theorem Represented.located_eq {database : Database} {history : List LedgerEvent} {executionId : String}
    {execution : ChatExecution} {assistant : Message}
    (represented : Represented database.messages database.usage history execution)
    (located : Located database executionId execution assistant) :
    messagesOf database.messages execution.executionId .assistant = [assistant] ∧
      AssistantMatches execution assistant := by
  obtain ⟨message, single, _, agree⟩ := represented.assistant
  have member : assistant ∈ messagesOf database.messages execution.executionId .assistant :=
    List.mem_filter.mpr ⟨located.assistantMem, by
      simpa using ⟨located.assistantExecution, located.assistantRole⟩⟩
  rw [single, List.mem_singleton] at member
  rw [member]
  exact ⟨single, agree⟩

/-- A method that rewrites one execution and its assistant message keeps the invariant if
the rewritten execution is represented. -/
theorem LedgerInvariant.rewrite {database after : Database} {history events : List LedgerEvent}
    {executionId : String} {execution : ChatExecution} {assistant : Message} (next : ChatExecution)
    (written : Message) (invariant : LedgerInvariant database history)
    (located : Located database executionId execution assistant)
    (executions : after.executions = Rows.replace ChatExecution.id next database.executions)
    (messages : after.messages = Rows.replace Message.id written database.messages)
    (sequences : after.nextExecutionId = database.nextExecutionId ∧
      after.nextMessageId = database.nextMessageId)
    (sameExecution : next.id = execution.id ∧ next.executionId = execution.executionId)
    (sameMessage : written.id = assistant.id ∧ written.executionId = assistant.executionId ∧
      written.role = assistant.role)
    (usageBounded : ∀ row ∈ after.usage, row.chatExecutionId < database.nextExecutionId)
    (usageElsewhere : ∀ id, id ≠ execution.id → usageOf after.usage id = usageOf database.usage id)
    (own : ∀ event ∈ events, event.executionId = execution.executionId)
    (represented : Represented after.messages after.usage (history ++ events) next) :
    LedgerInvariant after (history ++ events) := by
  have isExecution : ∀ other ∈ database.executions, other.id = next.id → other = execution :=
    fun other otherMem same =>
      invariant.ids.eq otherMem located.executionMem (same.trans sameExecution.1)
  have nextMem : next ∈ after.executions := by
    rw [executions]
    exact Rows.mem_replace_self located.executionMem sameExecution.1.symm
  constructor
  case ids =>
    rw [executions]
    exact invariant.ids.replace fun _ _ same => same
  case executionIds =>
    rw [executions]
    refine invariant.executionIds.replace fun other otherMem same => ?_
    rw [isExecution other otherMem same, sameExecution.2]
  case bounded =>
    rw [executions, sequences.1]
    intro other otherMem
    rcases Rows.mem_replace.mp otherMem with ⟨rfl, _⟩ | ⟨otherMem, _⟩
    · rw [sameExecution.1]
      exact invariant.bounded execution located.executionMem
    · exact invariant.bounded other otherMem
  case messageIds =>
    rw [messages]
    exact invariant.messageIds.replace fun _ _ same => same
  case messagesBounded =>
    rw [messages, sequences.2]
    intro message messageMem
    rcases Rows.mem_replace.mp messageMem with ⟨rfl, _⟩ | ⟨messageMem, _⟩
    · rw [sameMessage.1]
      exact invariant.messagesBounded assistant located.assistantMem
    · exact invariant.messagesBounded message messageMem
  case usageBounded =>
    rw [sequences.1]
    exact usageBounded
  case known =>
    intro event eventMem
    rcases List.mem_append.mp eventMem with eventMem | eventMem
    · obtain ⟨other, otherMem, same⟩ := invariant.known event eventMem
      -- The execution an event names may be the rewritten one, which keeps its ids.
      by_cases rewritten : other.id = next.id
      · rw [isExecution other otherMem rewritten] at same
        exact ⟨next, nextMem, sameExecution.2.trans same⟩
      · refine ⟨other, ?_, same⟩
        rw [executions]
        exact Rows.mem_replace_of_ne otherMem rewritten
    · exact ⟨next, nextMem, sameExecution.2.trans (own event eventMem).symm⟩
  case represented =>
    rw [executions]
    intro other otherMem
    rcases Rows.mem_replace.mp otherMem with ⟨rfl, _⟩ | ⟨otherMem, differs⟩
    · exact represented
    -- Neither the rewritten message nor the new events belong to another execution.
    · have differsId : other.id ≠ execution.id := fun same => differs (same.trans sameExecution.1.symm)
      have differsExecution : other.executionId ≠ execution.executionId := fun same =>
        differsId (congrArg ChatExecution.id
          (invariant.executionIds.eq otherMem located.executionMem same))
      refine (invariant.represented other otherMem).congr (fun role => ?_)
        (usageElsewhere other.id differsId) fun event eventMem same =>
          differsExecution (same.symm.trans (own event eventMem))
      rw [messages]
      refine messagesOf_replace_of_other invariant.messageIds located.assistantMem sameMessage
        (.inl fun same => differsExecution ?_)
      exact same.symm.trans located.assistantExecution

/-- The messages of the rewritten execution. -/
theorem LedgerInvariant.rewritten_messages {database : Database} {history : List LedgerEvent}
    {executionId : String} {execution : ChatExecution} {assistant : Message} (written : Message)
    (invariant : LedgerInvariant database history)
    (located : Located database executionId execution assistant)
    (sameMessage : written.id = assistant.id ∧ written.executionId = assistant.executionId ∧
      written.role = assistant.role) :
    messagesOf (Rows.replace Message.id written database.messages) execution.executionId .user =
        messagesOf database.messages execution.executionId .user ∧
      messagesOf (Rows.replace Message.id written database.messages) execution.executionId .assistant =
        [written] := by
  have represented := invariant.represented execution located.executionMem
  constructor
  · refine messagesOf_replace_of_other invariant.messageIds located.assistantMem sameMessage (.inr ?_)
    rw [located.assistantRole]
    decide
  · rw [messagesOf_replace invariant.messageIds located.assistantMem sameMessage,
      (represented.located_eq located).1, Rows.replace_singleton sameMessage.1.symm]

end Eiraos
