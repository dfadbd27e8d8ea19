import Eiraos.Conversations.Admission
import Eiraos.Persistence.Endings

/-! # Nothing is added to an archived conversation

unless its request was authorized before the archiving.  A request is authorized in an active
conversation, so what has archived it since then is all that stands between the two.
-/

namespace Eiraos.Conversations

open Guarded

/-! ## Calls that add no row -/

/-- The rows afterwards are the rows before, perhaps changed. -/
structure KeepsRows (before after : Database) : Prop where
  executions : ∀ execution ∈ after.executions,
    execution.id ∈ before.executions.map ChatExecution.id
  messages : ∀ message ∈ after.messages, message.id ∈ before.messages.map Message.id

theorem mem_keys_of_mem_replace {Row Key : Type*} [DecidableEq Key] {key : Row → Key} {row member : Row}
    {rows : List Row} (mem : member ∈ Rows.replace key row rows) : key member ∈ rows.map key := by
  apply List.mem_map.mpr
  cases Rows.mem_replace.mp mem with
  | inl written =>
    obtain ⟨rfl, old, present, same⟩ := written
    exact ⟨old, present, same⟩
  | inr other => exact ⟨member, other.1, rfl⟩

namespace KeepsRows

variable {before after : Database}

theorem of_eq (executions : after.executions = before.executions)
    (messages : after.messages = before.messages) : KeepsRows before after where
  executions _ mem := List.mem_map_of_mem (executions ▸ mem)
  messages _ mem := List.mem_map_of_mem (messages ▸ mem)

/-- One execution and one message are rewritten. -/
theorem of_replace {execution : ChatExecution} {message : Message}
    (executions : after.executions = Rows.replace ChatExecution.id execution before.executions)
    (messages : after.messages = Rows.replace Message.id message before.messages) :
    KeepsRows before after where
  executions _ mem := mem_keys_of_mem_replace (executions ▸ mem)
  messages _ mem := mem_keys_of_mem_replace (messages ▸ mem)

theorem withIdempotency (table : IdempotencyTable) : KeepsRows before (before.withIdempotency table) where
  executions execution mem := by
    obtain ⟨old, present, rfl⟩ := List.mem_map.mp mem
    exact List.mem_map.mpr ⟨old, present, rfl⟩
  messages _ mem := List.mem_map_of_mem mem

theorem recordProviderDecision (storage : Storage) (decisionId : String) (organizationId userId : Nat)
    (allowed : Bool) (now : Instant) :
    KeepsRows before
      (Eiraos.recordProviderDecision storage before decisionId organizationId userId allowed now).1 := by
  rcases recordProviderDecision_cases storage before decisionId organizationId userId allowed now with
    unchanged | ⟨_, recorded⟩
  · rw [unchanged]
    exact of_eq rfl rfl
  · rw [recorded]
    exact of_eq rfl rfl

theorem recordResult (storage : Storage) (decisionId resultStatus : String) (responseStatus : Nat)
    (failureCode : Option FailureCode) (now : Instant) :
    KeepsRows before
      (Eiraos.recordResult storage before decisionId resultStatus responseStatus failureCode now).1 := by
  rcases recordResult_cases storage before decisionId resultStatus responseStatus failureCode now with
    unchanged | ⟨_, _, _, _, _, reported⟩
  · rw [unchanged]
    exact of_eq rfl rfl
  · rw [reported]
    exact of_eq rfl rfl

theorem markStreaming (storage : Storage) (executionId : String) :
    KeepsRows before (Eiraos.markStreaming storage before executionId).1 := by
  have marked := markStreaming_ending storage before executionId
  generalize Eiraos.markStreaming storage before executionId = ending at marked
  cases marked with
  | unchanged => exact of_eq rfl rfl
  | streamed => exact of_replace rfl rfl

theorem assertRecoveryAllowed (storage : Storage) (executionId : String) (recordId : Nat)
    (leaseToken : Option String) (now : Instant) :
    KeepsRows before
      (Eiraos.assertRecoveryAllowed storage before executionId recordId leaseToken now).1 := by
  have allowed := assertRecoveryAllowed_ending storage before executionId recordId leaseToken now
  generalize Eiraos.assertRecoveryAllowed storage before executionId recordId leaseToken now = ending
    at allowed
  cases allowed with
  | unchanged => exact of_eq rfl rfl
  | exhausted => exact of_replace rfl rfl

theorem finalize (storage : Storage) (request : FinalizeRequest) (now : Instant) :
    KeepsRows before (Eiraos.finalize storage before request now).1 := by
  have finished := finalize_ending storage before request now
  generalize Eiraos.finalize storage before request now = ending at finished
  cases finished with
  | unchanged => exact of_eq rfl rfl
  | @finalized _ _ _ record => cases record <;> exact of_replace rfl rfl

/-- Every other call of the contract. -/
theorem next {state : GovernanceState} {label : GovernanceLabel}
    (other : ∀ storage request, label ≠ .prepareExchange storage request) :
    KeepsRows state.database (state.next label).database := by
  cases label with
  | tick => exact of_eq rfl rfl
  | recordProviderDecision => exact .recordProviderDecision ..
  | recordResult => exact .recordResult ..
  | prepareExchange storage request => exact absurd rfl (other storage request)
  | markStreaming => exact .markStreaming ..
  | assertRecoveryAllowed => exact .assertRecoveryAllowed ..
  | finalize => exact .finalize ..
  | leaseChange table => exact .withIdempotency table

/-- The rows that a call adds when it keeps the others. -/
theorem added (keeps : KeepsRows before after) :
    (after.executions.filter fun execution =>
        execution.id ∉ before.executions.map ChatExecution.id) = [] ∧
      (after.messages.filter fun message => message.id ∉ before.messages.map Message.id) = [] := by
  constructor
  · apply List.filter_eq_nil_iff.mpr
    intro execution mem
    simpa using keeps.executions execution mem
  · apply List.filter_eq_nil_iff.mpr
    intro message mem
    simpa using keeps.messages message mem

end KeepsRows

/-! ## What a step does -/

/-- Each row afterwards is one of before, perhaps changed, or an added one. -/
structure AddsRows (before after : Database) (executions : List ChatExecution) (messages : List Message) :
    Prop where
  executions : ∀ execution ∈ after.executions,
    execution.id ∈ before.executions.map ChatExecution.id ∨ execution ∈ executions
  messages : ∀ message ∈ after.messages,
    message.id ∈ before.messages.map Message.id ∨ message ∈ messages

theorem ConversationTraffic.commit_adds (state : ConversationTraffic) (system : GovernanceState) :
    AddsRows state.system.database system.database
      (system.database.executions.filter fun execution =>
        execution.id ∉ state.system.database.executions.map ChatExecution.id)
      (system.database.messages.filter fun message =>
        message.id ∉ state.system.database.messages.map Message.id) where
  executions execution mem := by
    by_cases old : execution.id ∈ state.system.database.executions.map ChatExecution.id
    · exact .inl old
    · exact .inr (List.mem_filter.mpr ⟨mem, by simpa using old⟩)
  messages message mem := by
    by_cases old : message.id ∈ state.system.database.messages.map Message.id
    · exact .inl old
    · exact .inr (List.mem_filter.mpr ⟨mem, by simpa using old⟩)

/-- What a step does to the conversations, the authorizations and the log. -/
inductive Moves (state next : ConversationTraffic) : Prop
  | kept (commits : next.commits = state.commits) (rows : next.conversations = state.conversations)
      (tables : next.system = state.system)
      (authorized : ∀ chat authorized, (next.chats chat).authorized? = some authorized →
        (state.chats chat).authorized? = some authorized)
  | authorized (chat : Nat) (commits : next.commits = .authorize chat :: state.commits)
      (rows : next.conversations = state.conversations)
      (tables : KeepsRows state.system.database next.system.database)
      (others : ∀ other, other ≠ chat → next.chats other = state.chats other)
      (admitted : ∀ authorized, (next.chats chat).authorized? = some authorized →
        ∃ row ∈ state.conversations, row.id = authorized.request.conversationId ∧ row.lifecycle = .active)
  | written (read written : ConversationRow)
      (updated : updateConversation state.conversations read written = some next.conversations)
      (commits : next.commits = .conversations next.conversations :: state.commits)
      (chats : next.chats = state.chats) (tables : next.system = state.system)
  | added (chat : Option Nat) (executions : List ChatExecution) (messages : List Message)
      (commits : next.commits = .chat chat executions messages :: state.commits)
      (rows : next.conversations = state.conversations)
      (tables : AddsRows state.system.database next.system.database executions messages)
      (authorized : ∀ chat authorized, (next.chats chat).authorized? = some authorized →
        (state.chats chat).authorized? = some authorized)
      (conversation : (executions = [] ∧ messages = []) ∨
        ∃ request authorized, chat = some request ∧ (state.chats request).authorized? = some authorized ∧
          (∀ execution ∈ executions, execution.conversationId = authorized.request.conversationId) ∧
          ∀ message ∈ messages, message.conversationId = authorized.request.conversationId)

variable {deployment : ChatDeployment} {state next : ConversationTraffic}

/-- A request goes on under its authorization, or without one. -/
theorem go_authorized? {chat : Nat} {point : ChatPoint}
    (kept : ∀ authorized, point.authorized? = some authorized →
      (state.chats chat).authorized? = some authorized) (other : Nat) (authorized : AuthorizedChat)
    (acts : ((state.go chat point).chats other).authorized? = some authorized) :
    (state.chats other).authorized? = some authorized := by
  simp only [ConversationTraffic.go, Function.update_apply] at acts
  split at acts
  next same => exact same ▸ kept authorized acts
  next => exact acts

theorem Moves.went {chat : Nat} {point : ChatPoint}
    (kept : ∀ authorized, point.authorized? = some authorized →
      (state.chats chat).authorized? = some authorized) : Moves state (state.go chat point) :=
  .kept rfl rfl rfl (go_authorized? kept)

/-- A request goes on after a call that added no row. -/
theorem Moves.called {chat : Nat} {point : ChatPoint} {system : GovernanceState}
    (keeps : KeepsRows state.system.database system.database)
    (kept : ∀ authorized, point.authorized? = some authorized →
      (state.chats chat).authorized? = some authorized) :
    Moves state ((state.commit (some chat) system).go chat point) :=
  .added (some chat) _ _ rfl rfl (state.commit_adds system) (go_authorized? kept) (.inl keeps.added)

theorem ChatDeployment.reservedPoint_authorized? (chat : AuthorizedChat) (key : String)
    (outcome : IdempotencyOutcome) : (deployment.reservedPoint chat key outcome).authorized? = some chat := by
  unfold reservedPoint
  split <;> rfl

theorem ChatDeployment.begunPoint_authorized? {chat authorized : AuthorizedChat} {key : String}
    {attempts : Nat} {result : BeginResult}
    (acts : (deployment.begunPoint chat key attempts result).authorized? = some authorized) :
    authorized = chat := by
  cases result with
  | returned outcome =>
    simp only [begunPoint] at acts
    split at acts
    · exact (Option.some.inj acts).symm
    · rw [reservedPoint_authorized?] at acts
      exact (Option.some.inj acts).symm
  | again => exact (Option.some.inj acts).symm
  | raised => cases acts

/-- A request is authorized in an active conversation. -/
theorem authorizeChat_admitted {request : ChatRequest} {access : BotAccess} {storage : Storage}
    {decisionId : String} {authorized : AuthorizedChat}
    (acts : (authorizeChat state request access storage decisionId).2.authorized? = some authorized) :
    ∃ row ∈ state.conversations, row.id = authorized.request.conversationId ∧ row.lifecycle = .active := by
  unfold authorizeChat at acts
  dsimp only at acts
  split at acts
  next => cases acts
  next row found =>
    split at acts
    next => cases acts
    next done accepted =>
      obtain ⟨aggregate, hydrated, active⟩ := bind_eq_ok.mp accepted
      cases access with
      | missing | denied => cases acts
      | granted binding =>
        dsimp only at acts
        split at acts
        next =>
          have same : request = authorized.request := by
            rw [← Option.some.inj acts]
          obtain ⟨identity, -, -⟩ : row.id = request.conversationId ∧
              row.organizationId = request.organizationId ∧ row.userId = request.userId := by
            simpa using List.find?_some found
          refine ⟨row, List.mem_of_find?_eq_some found, same ▸ identity, ?_⟩
          obtain ⟨-, columns⟩ := ConversationRow.hydrate_eq_ok.mp hydrated
          rw [ConversationAggregate.assertAcceptsExecution_eq_ok, columns] at active
          exact active
        next => cases acts

theorem authorizeChat_keeps (request : ChatRequest) (access : BotAccess) (storage : Storage)
    (decisionId : String) :
    KeepsRows state.system.database
      (authorizeChat state request access storage decisionId).1.database := by
  unfold authorizeChat
  dsimp only
  repeat' split
  all_goals first
    | exact .of_eq rfl rfl
    | exact .recordProviderDecision ..

/-- An exchange adds rows of its own conversation only. -/
theorem prepareExchange_added (storage : Storage) (database : Database) (request : ExchangeRequest)
    (now : Instant) :
    let after := (prepareExchange storage database request now).1
    (∀ execution ∈ after.executions, execution.id ∉ database.executions.map ChatExecution.id →
      execution.conversationId = request.conversationId) ∧
    ∀ message ∈ after.messages, message.id ∉ database.messages.map Message.id →
      message.conversationId = request.conversationId := by
  have prepared := prepareExchange_ending storage database request now
  generalize prepareExchange storage database request now = ending at prepared
  have none_added : ∀ after, KeepsRows database after →
      (∀ execution ∈ after.executions, execution.id ∉ database.executions.map ChatExecution.id →
        execution.conversationId = request.conversationId) ∧
      ∀ message ∈ after.messages, message.id ∉ database.messages.map Message.id →
        message.conversationId = request.conversationId := by
    intro after keeps
    exact ⟨fun execution mem added => absurd (keeps.executions execution mem) added,
      fun message mem added => absurd (keeps.messages message mem) added⟩
  cases prepared with
  | refused => exact none_added _ (.of_eq rfl rfl)
  | exhausted => exact none_added _ (.of_replace rfl rfl)
  | recovered => exact none_added _ (.of_replace rfl rfl)
  | inserted =>
    refine ⟨fun execution mem added => ?_, fun message mem added => ?_⟩
    · cases List.mem_append.mp mem with
      | inl old => exact absurd (List.mem_map_of_mem old) added
      | inr new => rw [List.mem_singleton.mp new]; rfl
    · cases List.mem_append.mp mem with
      | inl old => exact absurd (List.mem_map_of_mem old) added
      | inr new =>
        have written : message = request.userMessage database.nextMessageId ∨
            message = request.assistantMessage (database.nextMessageId + 1) := by simpa using new
        cases written with
        | inl user => rw [user]; rfl
        | inr assistant => rw [assistant]; rfl

theorem ChatDeployment.moves_of_advance {chat : Nat} {label : TrafficLabel}
    (stepped : deployment.advance state chat (state.chats chat) label = some next) : Moves state next := by
  generalize here : state.chats chat = point at stepped
  cases label with
  | authorize _ request access storage decisionId =>
    cases point with
    | arriving =>
      cases stepped
      -- Only here is the conversation looked at; the later points carry what was authorized.
      refine .authorized chat rfl rfl (authorizeChat_keeps ..) (fun other different => ?_)
        fun authorized acts => ?_
      · simp [ConversationTraffic.go, different]
      · simp only [ConversationTraffic.go, Function.update_self] at acts
        exact authorizeChat_admitted acts
    | _ => cases stepped
  | reserve _ token =>
    cases point with
    | authorized chat' attempts =>
      simp only [advance] at stepped
      split at stepped
      next =>
        cases stepped
        apply Moves.went
        rw [here]
        exact fun _ acts => acts
      next key _ =>
        cases stepped
        apply Moves.called (.withIdempotency _)
        intro authorized acts
        rw [here, begunPoint_authorized? acts]
        rfl
    | _ => cases stepped
  | replay =>
    cases point with
    | reading chat' outcome =>
      obtain ⟨key, -, rfl⟩ := Option.map_eq_some_iff.mp stepped
      split
      next => exact .went (by simp [ChatPoint.authorized?])
      next =>
        apply Moves.went
        rw [here, reservedPoint_authorized?]
        exact fun _ acts => acts
    | _ => cases stepped
  | recover _ storage =>
    cases point with
    | recovering chat' reserved =>
      cases stepped
      apply Moves.called (.assertRecoveryAllowed ..)
      intro authorized acts
      rw [here]
      split at acts
      next => exact acts
      next => cases acts
    | _ => cases stepped
  | budget _ estimatedTokens =>
    cases point with
    | reserved chat' reserved =>
      cases stepped
      apply Moves.went
      intro authorized acts
      rw [here]
      split at acts
      next => exact acts
      next => cases acts
    | _ => cases stepped
  | prepare _ storage =>
    cases point with
    | budgeted chat' reserved estimatedTokens =>
      cases stepped
      obtain ⟨executions, messages⟩ := prepareExchange_added storage state.system.database
        (deployment.exchange chat' reserved estimatedTokens) state.system.clock
      -- The one step that adds rows, and to the conversation it was authorized for.
      refine .added (some chat) _ _ rfl rfl (state.commit_adds _)
        (go_authorized? (by simp [ChatPoint.authorized?]))
        (.inr ⟨chat, chat', rfl, congrArg ChatPoint.authorized? here, ?_, ?_⟩)
      · intro execution mem
        obtain ⟨present, added⟩ := List.mem_filter.mp mem
        exact executions execution present (by simpa using added)
      · intro message mem
        obtain ⟨present, added⟩ := List.mem_filter.mp mem
        exact messages message present (by simpa using added)
    | _ => cases stepped
  | crash =>
    cases point with
    | arriving | ended => cases stepped
    | _ =>
      cases stepped
      exact .went (by simp [ChatPoint.authorized?])
  | read | write | contract => cases point <;> cases stepped

theorem ChatDeployment.moves_of_step {label : TrafficLabel}
    (stepped : deployment.step state label = some next) : Moves state next := by
  cases label with
  | read =>
    cases stepped
    exact .kept rfl rfl rfl fun _ _ acts => acts
  | write editor =>
    obtain ⟨edit, -, rfl⟩ := Option.map_eq_some_iff.mp stepped
    split
    next => exact .kept rfl rfl rfl fun _ _ acts => acts
    next rows updated => exact .written edit.read edit.written updated rfl rfl rfl
  | contract label =>
    have other : ∀ storage request, label ≠ .prepareExchange storage request := by
      rintro storage request rfl
      cases stepped
    have committed : deployment.step state (.contract label) =
        some (state.commit none (state.system.next label)) := by
      cases label with
      | prepareExchange storage request => exact absurd rfl (other storage request)
      | _ => rfl
    rw [committed] at stepped
    cases stepped
    exact .added none _ _ rfl rfl (state.commit_adds _) (fun _ _ acts => acts)
      (.inl (KeepsRows.next other).added)
  | _ => exact moves_of_advance stepped

/-! ## The invariant -/

structure Archiving (state : ConversationTraffic) : Prop where
  ids : Rows.Unique ConversationRow.id state.conversations
  /-- The log ends with the conversations as they are. -/
  current : ∀ conversationId, archivedIn conversationId state.commits =
    state.conversations.any fun row => row.id = conversationId ∧ row.lifecycle = .archived
  /-- The conversation of a request was active when it was authorized. -/
  admitted : ∀ chat authorized, (state.chats chat).authorized? = some authorized →
    archivedIn authorized.request.conversationId (sinceAuthorized chat state.commits) =
      archivedIn authorized.request.conversationId state.commits
  agree : NothingWhileArchived state.commits ↔ NothingOvertaken state.commits

theorem updateConversation_ids {rows updated : List ConversationRow} {read written : ConversationRow}
    (stored : updateConversation rows read written = some updated) :
    updated.map ConversationRow.id = rows.map ConversationRow.id := by
  unfold updateConversation at stored
  split at stored
  next => rw [Option.some.inj stored]
  next =>
    split at stored
    next =>
      rw [← Option.some.inj stored, List.map_map]
      apply List.map_congr_left
      intro row _
      simp only [Function.comp]
      split <;> rfl
    next => cases stored

theorem Archiving.authorize (inv : Archiving state) {authorized : AuthorizedChat}
    (admitted : ∃ row ∈ state.conversations,
      row.id = authorized.request.conversationId ∧ row.lifecycle = .active) :
    archivedIn authorized.request.conversationId state.commits = false := by
  obtain ⟨row, present, same, active⟩ := admitted
  rw [inv.current, List.any_eq_false]
  intro other otherPresent
  simp only [decide_eq_true_eq, not_and]
  intro otherSame archived
  -- the row of the conversation is the active one
  rw [inv.ids.eq otherPresent present (otherSame.trans same.symm), active] at archived
  cases archived

/-- A commit that is no authorization of the request comes after it, and one that says nothing
of the conversations leaves both sides as they were. -/
theorem Archiving.later (inv : Archiving state) {chat : Nat} {authorized : AuthorizedChat}
    {commit : ConversationCommit} (acts : (state.chats chat).authorized? = some authorized)
    (other : commit ≠ .authorize chat) :
    archivedIn authorized.request.conversationId (sinceAuthorized chat (commit :: state.commits)) =
      archivedIn authorized.request.conversationId (commit :: state.commits) := by
  have since : sinceAuthorized chat (commit :: state.commits) =
      commit :: sinceAuthorized chat state.commits := by simp [sinceAuthorized, other]
  rw [since]
  cases commit with
  | conversations => rfl
  | authorize | chat => exact inv.admitted chat authorized acts

theorem Archiving.step (inv : Archiving state) (moved : Moves state next) : Archiving next := by
  cases moved with
  | kept commits rows _ authorized =>
    exact
    { ids := rows ▸ inv.ids
      current := by rw [commits, rows]; exact inv.current
      admitted := fun chat other acts => by rw [commits]; exact inv.admitted chat other (authorized _ _ acts)
      agree := by rw [commits]; exact inv.agree }
  | authorized chat commits rows _ others admitted =>
    exact
    { ids := rows ▸ inv.ids
      current := by rw [commits, rows]; exact inv.current
      admitted := fun other authorized acts => by
        rw [commits]
        by_cases same : other = chat
        · subst same
          have active := inv.authorize (admitted authorized acts)
          simpa [sinceAuthorized, archivedIn] using active.symm
        · rw [others other same] at acts
          exact inv.later acts (by simpa using Ne.symm same)
      agree := by rw [commits]; exact inv.agree }
  | written read written updated commits chats _ =>
    have ids := updateConversation_ids updated
    exact
    { ids := by
        unfold Rows.Unique
        rw [ids]
        exact inv.ids
      current := by rw [commits]; exact fun _ => rfl
      admitted := fun chat authorized acts => by
        rw [chats] at acts
        rw [commits]
        exact inv.later acts (by simp)
      agree := by rw [commits]; exact inv.agree }
  | added chat executions messages commits rows _ authorized conversation =>
    exact
    { ids := rows ▸ inv.ids
      current := by rw [commits, rows]; exact inv.current
      admitted := fun other authorization acts => by
        rw [commits]
        exact inv.later (authorized _ _ acts) (by simp)
      agree := by
        rw [commits]
        refine and_congr ?_ inv.agree
        cases conversation with
        | inl nothing => simp [nothing.1, nothing.2]
        | inr own =>
          -- the conversation was archived after the authorization if it was archived at all
          obtain ⟨request, authorization, rfl, acts, ofExecution, ofMessage⟩ := own
          have same := inv.admitted request authorization acts
          apply and_congr
          · apply forall₂_congr
            intro execution mem
            simp [ofExecution execution mem, same]
          · apply forall₂_congr
            intro message mem
            simp [ofMessage message mem, same] }

/-! ## Runs -/

/-- Along every run, nothing is added to an archived conversation exactly when no exchange is
prepared by a request that an archiving has overtaken. -/
theorem archived_conversation_admits_nothing_iff (deployment : ChatDeployment) (system : GovernanceState)
    (rows : List ConversationRow) (ids : Rows.Unique ConversationRow.id rows)
    (labels : List TrafficLabel) (final : ConversationTraffic)
    (ran : Transition.run deployment.step (.start system rows) labels = some final) :
    NothingWhileArchived final.commits ↔ NothingOvertaken final.commits := by
  have start : Archiving (.start system rows) :=
    { ids
      current := fun _ => rfl
      admitted := fun _ _ acts => by cases acts
      agree := Iff.rfl }
  exact (Transition.run_invariant Archiving
    (fun _ _ _ inv stepped => inv.step (ChatDeployment.moves_of_step stepped)) start ran).agree

/-- The log misses no row: one that was not there at the start was added by a logged commit. -/
structure Logged (start : Database) (state : ConversationTraffic) : Prop where
  executions : ∀ execution ∈ state.system.database.executions,
    execution.id ∈ start.executions.map ChatExecution.id ∨
      ∃ chat executions messages, .chat chat executions messages ∈ state.commits ∧
        execution.id ∈ executions.map ChatExecution.id
  messages : ∀ message ∈ state.system.database.messages,
    message.id ∈ start.messages.map Message.id ∨
      ∃ chat executions messages, .chat chat executions messages ∈ state.commits ∧
        message.id ∈ messages.map Message.id

theorem Logged.step {start : Database} (logged : Logged start state) (moved : Moves state next) :
    Logged start next := by
  -- what a step adds it logs, and what was logged stays logged
  obtain ⟨executions, messages, tables, kept, added⟩ : ∃ executions messages,
      AddsRows state.system.database next.system.database executions messages ∧
        (∀ commit ∈ state.commits, commit ∈ next.commits) ∧
        ((executions = [] ∧ messages = []) ∨
          ∃ chat, .chat chat executions messages ∈ next.commits) := by
    have keeps : ∀ {before after : Database}, KeepsRows before after → AddsRows before after [] [] :=
      fun keeps => ⟨fun _ mem => .inl (keeps.executions _ mem), fun _ mem => .inl (keeps.messages _ mem)⟩
    cases moved with
    | kept commits _ tables =>
      exact ⟨[], [], keeps (.of_eq (by rw [tables]) (by rw [tables])), by simp [commits], .inl ⟨rfl, rfl⟩⟩
    | authorized _ commits _ tables =>
      refine ⟨[], [], keeps tables, fun commit mem => ?_, .inl ⟨rfl, rfl⟩⟩
      rw [commits]
      exact List.mem_cons_of_mem _ mem
    | written _ _ _ commits _ tables =>
      refine ⟨[], [], keeps (.of_eq (by rw [tables]) (by rw [tables])), fun commit mem => ?_, .inl ⟨rfl, rfl⟩⟩
      rw [commits]
      exact List.mem_cons_of_mem _ mem
    | added chat executions messages commits _ tables =>
      refine ⟨executions, messages, tables, fun commit mem => ?_, .inr ⟨chat, ?_⟩⟩
      · rw [commits]
        exact List.mem_cons_of_mem _ mem
      · rw [commits]
        exact List.mem_cons_self
  refine ⟨fun execution mem => ?_, fun message mem => ?_⟩
  · cases tables.executions execution mem with
    | inl old =>
      obtain ⟨earlier, present, same⟩ := List.mem_map.mp old
      rw [← same]
      apply (logged.executions earlier present).imp_right
      rintro ⟨chat, executions, messages, there, new⟩
      exact ⟨chat, executions, messages, kept _ there, new⟩
    | inr new =>
      cases added with
      | inl nothing => rw [nothing.1] at new; cases new
      | inr there =>
        obtain ⟨chat, there⟩ := there
        exact .inr ⟨chat, executions, messages, there, List.mem_map_of_mem new⟩
  · cases tables.messages message mem with
    | inl old =>
      obtain ⟨earlier, present, same⟩ := List.mem_map.mp old
      rw [← same]
      apply (logged.messages earlier present).imp_right
      rintro ⟨chat, executions, messages, there, new⟩
      exact ⟨chat, executions, messages, kept _ there, new⟩
    | inr new =>
      cases added with
      | inl nothing => rw [nothing.2] at new; cases new
      | inr there =>
        obtain ⟨chat, there⟩ := there
        exact .inr ⟨chat, executions, messages, there, List.mem_map_of_mem new⟩

theorem added_rows_logged {system : GovernanceState} {rows : List ConversationRow}
    {labels : List TrafficLabel} {final : ConversationTraffic}
    (ran : Transition.run deployment.step (.start system rows) labels = some final) :
    Logged system.database final :=
  Transition.run_invariant (Logged system.database)
    (fun _ _ _ logged stepped => logged.step (ChatDeployment.moves_of_step stepped))
    ⟨fun _ mem => .inl (List.mem_map_of_mem mem), fun _ mem => .inl (List.mem_map_of_mem mem)⟩ ran

/-! ## An archiving between the authorization and the exchange -/

def tidesDeployment : ChatDeployment := ⟨fun identity record => identity.2.2 ++ toString record, 3⟩

def tidesConversation : ConversationRow := ⟨1, 1, 1, "Tides", .active, 1, none, 0, 0⟩

def tidesChat : List TrafficLabel :=
  [.authorize 0 ⟨"request", 1, 1, 1, 1, none, "digest", "When is high tide?", false⟩
      (.granted ⟨1, "openai", "gpt"⟩) .available "decision",
    .reserve 0 "execution", .budget 0 (some 100)]

theorem archived_conversation_admits_nothing_iff_tides :
    ∃ final, Transition.run tidesDeployment.step (.start (.initial 0) [tidesConversation])
        (tidesChat ++ [.prepare 0 .available, .read 0 1 1 1 [.archive 5], .write 0]) = some final ∧
      final.system.database.executions.map ChatExecution.conversationId = [1] ∧
      NothingWhileArchived final.commits := by
  have summary : (Transition.run tidesDeployment.step (.start (.initial 0) [tidesConversation])
      (tidesChat ++ [.prepare 0 .available, .read 0 1 1 1 [.archive 5], .write 0])).map (fun state =>
        (state.system.database.executions.map ChatExecution.conversationId,
          decide (NothingOvertaken state.commits))) = some ([1], true) := by decide +kernel
  obtain ⟨final, ran, seen⟩ := Option.map_eq_some_iff.mp summary
  have ⟨executions, alone⟩ := Prod.mk.inj seen
  exact ⟨final, ran, executions, (archived_conversation_admits_nothing_iff tidesDeployment (.initial 0)
    [tidesConversation] (List.nodup_singleton _) _ final ran).mpr (of_decide_eq_true alone)⟩

/-- The conversation is archived after the request was authorized and before it prepares its
exchange. -/
theorem archived_conversation_admits_exchange :
    ¬∀ (deployment : ChatDeployment) (system : GovernanceState) (rows : List ConversationRow),
      Rows.Unique ConversationRow.id rows → ∀ (labels : List TrafficLabel) (final : ConversationTraffic),
        Transition.run deployment.step (.start system rows) labels = some final →
          NothingWhileArchived final.commits := by
  intro always
  have broken : (Transition.run tidesDeployment.step (.start (.initial 0) [tidesConversation])
      (tidesChat ++ [.read 0 1 1 1 [.archive 5], .write 0, .prepare 0 .available])).map (fun state =>
        decide (NothingWhileArchived state.commits)) = some false := by decide +kernel
  obtain ⟨final, ran, seen⟩ := Option.map_eq_some_iff.mp broken
  exact of_decide_eq_false seen (always tidesDeployment (.initial 0) [tidesConversation]
    (List.nodup_singleton _) _ final ran)

end Eiraos.Conversations
