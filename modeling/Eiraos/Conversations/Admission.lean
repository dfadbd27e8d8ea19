import Eiraos.Chat.ExecutionBoundary
import Eiraos.Conversations.State
import Eiraos.Foundations.Run
import Eiraos.Persistence.Governance
import Mathlib.Logic.Function.Basic

/-! # Chat requests beside changes of the lifecycle (`api/v1/chat.py`, `api/v1/conversations.py`)

A chat request authorizes, reserves its key and its budget and prepares its exchange in
separate transactions; editors read a conversation and write it back under its version.  Every
commit is logged with the rows that it adds.
-/

namespace Eiraos.Conversations

open Guarded

/-! ## Requests and editors -/

/-- What the endpoint reads of a chat request and its tenant. -/
structure ChatRequest where
  requestId : String
  conversationId : Nat
  organizationId : Nat
  userId : Nat
  botId : Nat
  idempotencyKey : Option String
  digest : String
  prompt : String
  verify : Bool
  deriving DecidableEq, Repr

structure ProviderBinding where
  botOrganizationId : Nat
  provider : String
  model : String
  deriving DecidableEq, Repr

/-- What the lookup of the bot and the provider policy say. -/
inductive BotAccess where
  | missing
  | denied
  | granted (binding : ProviderBinding)
  deriving DecidableEq, Repr

structure AuthorizedChat where
  request : ChatRequest
  binding : ProviderBinding
  governanceDecisionId : String
  deriving DecidableEq, Repr

/-- The local variables of a request that goes on to its budget. -/
structure ReservedChat where
  executionId : String
  leaseToken : Option String
  recordId : Option Nat
  isRecovery : Bool
  deriving DecidableEq, Repr

inductive ChatPoint where
  | arriving
  | authorized (chat : AuthorizedChat) (attempts : Nat)
  | reading (chat : AuthorizedChat) (outcome : IdempotencyOutcome)
  | recovering (chat : AuthorizedChat) (reserved : ReservedChat)
  | reserved (chat : AuthorizedChat) (reserved : ReservedChat)
  | budgeted (chat : AuthorizedChat) (reserved : ReservedChat) (estimatedTokens : Int)
  | ended
  deriving DecidableEq, Repr

/-- The authorization that the request still acts under. -/
def ChatPoint.authorized? : ChatPoint → Option AuthorizedChat
  | .authorized chat _ => some chat
  | .reading chat _ => some chat
  | .recovering chat _ => some chat
  | .reserved chat _ => some chat
  | .budgeted chat _ _ => some chat
  | _ => none

/-- An editor between its read and its commit. -/
structure ConversationEdit where
  read : ConversationRow
  written : ConversationRow
  deriving DecidableEq, Repr

/-- What one transaction has committed: the authorization of a request, the table of
conversations after a change, or the executions and messages it adds. -/
inductive ConversationCommit where
  | authorize (chat : Nat)
  | conversations (rows : List ConversationRow)
  | chat (chat : Option Nat) (executions : List ChatExecution) (messages : List Message)
  deriving DecidableEq, Repr

structure ConversationTraffic where
  system : GovernanceState
  conversations : List ConversationRow
  chats : Nat → ChatPoint
  edits : Nat → Option ConversationEdit
  /-- The latest commit comes first. -/
  commits : List ConversationCommit

inductive TrafficLabel where
  | authorize (chat : Nat) (request : ChatRequest) (access : BotAccess) (storage : Storage)
      (decisionId : String)
  | reserve (chat : Nat) (token : String)
  | replay (chat : Nat)
  | recover (chat : Nat) (storage : Storage)
  | budget (chat : Nat) (estimatedTokens : Option Int)
  | prepare (chat : Nat) (storage : Storage)
  | crash (chat : Nat)
  | read (editor conversationId organizationId userId : Nat) (transitions : List ConversationTransition)
  | write (editor : Nat)
  | contract (label : GovernanceLabel)
  deriving DecidableEq, Repr

/-- The request whose transaction it is. -/
def TrafficLabel.chat? : TrafficLabel → Option Nat
  | .authorize chat _ _ _ _ => some chat
  | .reserve chat _ => some chat
  | .replay chat => some chat
  | .recover chat _ => some chat
  | .budget chat _ => some chat
  | .prepare chat _ => some chat
  | .crash chat => some chat
  | _ => none

/-! ## The steps -/

def conversation? (rows : List ConversationRow) (conversationId organizationId userId : Nat) :
    Option ConversationRow :=
  rows.find? fun row =>
    row.id = conversationId ∧ row.organizationId = organizationId ∧ row.userId = userId

/-- The read half of `delete_conversation`, whose only transition is `archive`, and of every
other use of the aggregate; `none` when the endpoint raises. -/
def editConversation (rows : List ConversationRow) (conversationId organizationId userId : Nat)
    (transitions : List ConversationTransition) : Option ConversationEdit := do
  let row ← conversation? rows conversationId organizationId userId
  let aggregate ← row.hydrate.toOption
  (aggregate.assertScope organizationId userId).toOption
  let changed ← (transitions.foldlM ConversationTransition.apply aggregate).toOption
  let written ← (row.apply changed).toOption
  return ⟨row, written⟩

namespace ConversationTraffic

def go (state : ConversationTraffic) (chat : Nat) (point : ChatPoint) : ConversationTraffic :=
  { state with chats := Function.update state.chats chat point }

/-- The tables after a transaction of the contract, with the rows it has added. -/
def commit (state : ConversationTraffic) (chat : Option Nat) (system : GovernanceState) :
    ConversationTraffic :=
  { state with
    system
    commits := .chat chat
      (system.database.executions.filter fun execution =>
        execution.id ∉ state.system.database.executions.map ChatExecution.id)
      (system.database.messages.filter fun message =>
        message.id ∉ state.system.database.messages.map Message.id) :: state.commits }

end ConversationTraffic

/-- `authorize`: the conversation, the bot and the policy, and the commit of the decision. -/
def authorizeChat (state : ConversationTraffic) (request : ChatRequest) (access : BotAccess)
    (storage : Storage) (decisionId : String) : GovernanceState × ChatPoint :=
  let system := state.system
  let recorded := fun allowed => recordProviderDecision storage system.database decisionId
    request.organizationId request.userId allowed system.clock
  match conversation? state.conversations request.conversationId request.organizationId request.userId with
  | none => (system, .ended)
  | some row =>
    match row.hydrate >>= ConversationAggregate.assertAcceptsExecution with
    | .error _ => (system, .ended)
    | .ok _ =>
      match access with
      | .missing => (system, .ended)
      -- the denial is committed before the 403
      | .denied => ({ system with database := (recorded false).1 }, .ended)
      | .granted binding =>
        ({ system with database := (recorded true).1 },
          match (recorded true).2 with
          | .ok governanceDecisionId => .authorized ⟨request, binding, governanceDecisionId⟩ 0
          | .error _ => .ended)

structure ChatDeployment where
  executionIdentity : Nat × Nat × String → Nat → String
  maxAttempts : Nat

namespace ChatDeployment

variable (deployment : ChatDeployment)

/-- The end of `reserve_idempotency` for an outcome that is not replayed. -/
def reservedPoint (chat : AuthorizedChat) (key : String) (outcome : IdempotencyOutcome) : ChatPoint :=
  let reserved : ReservedChat :=
    { executionId := deployment.executionIdentity
        (chat.request.organizationId, chat.request.userId, key) (outcome.recordId.getD 0)
      leaseToken := outcome.leaseToken
      recordId := outcome.recordId
      isRecovery := outcome.isRecovery }
  -- only a record that was taken over is checked by `assert_recovery_allowed`
  if outcome.isRecovery ∧ outcome.recordId.isSome then .recovering chat reserved
  else .reserved chat reserved

/-- Where one attempt of `begin_idempotency` leaves the request. -/
def begunPoint (chat : AuthorizedChat) (key : String) (attempts : Nat) : BeginResult → ChatPoint
  | .returned outcome =>
    if outcome.status = .completed then .reading chat outcome
    else deployment.reservedPoint chat key outcome
  | .again => .authorized chat (attempts + 1)
  | .raised _ _ => .ended

/-- The arguments of `prepare_exchange`. -/
def exchange (chat : AuthorizedChat) (reserved : ReservedChat) (estimatedTokens : Int) : ExchangeRequest :=
  { executionId := reserved.executionId
    requestId := chat.request.requestId
    conversationId := chat.request.conversationId
    organizationId := chat.request.organizationId
    userId := chat.request.userId
    botId := chat.request.botId
    botOrganizationId := chat.binding.botOrganizationId
    provider := chat.binding.provider
    model := chat.binding.model
    prompt := chat.request.prompt
    idempotencyRecordId := reserved.recordId
    estimatedTokens
    estimatedCost := 0
    verification := chat.request.verify
    recover := reserved.isRecovery
    leaseToken := reserved.leaseToken
    maxAttempts := deployment.maxAttempts
    governanceDecisionId := some chat.governanceDecisionId }

/-- One transaction of a request at a point; `none` where the label does not belong there. -/
def advance (state : ConversationTraffic) (chat : Nat) : ChatPoint → TrafficLabel → Option ConversationTraffic
  | .arriving, .authorize _ request access storage decisionId =>
    let ending := authorizeChat state request access storage decisionId
    some { state.go chat ending.2 with
      system := ending.1
      commits := .authorize chat :: state.commits }
  | .authorized authorized attempts, .reserve _ token =>
    match authorized.request.idempotencyKey with
    | none => some (state.go chat (.reserved authorized ⟨token, none, none, false⟩))
    | some key =>
      let ending := beginIdempotency state.system.database.idempotency
        ⟨authorized.request.organizationId, authorized.request.userId, key, authorized.request.digest⟩
        attempts state.system.clock token
      let system := { state.system with database := state.system.database.withIdempotency ending.1 }
      some ((state.commit (some chat) system).go chat
        (deployment.begunPoint authorized key attempts ending.2))
  | .reading authorized outcome, .replay _ =>
    authorized.request.idempotencyKey.map fun key =>
      match readCachedResponse state.system.database.idempotency
        ⟨authorized.request.organizationId, authorized.request.userId, key, authorized.request.digest⟩ with
      | some _ => state.go chat .ended
      | none => state.go chat (deployment.reservedPoint authorized key outcome)
  | .recovering authorized reserved, .recover _ storage =>
    let ending := assertRecoveryAllowed storage state.system.database reserved.executionId
      (reserved.recordId.getD 0) reserved.leaseToken state.system.clock
    some ((state.commit (some chat) { state.system with database := ending.1 }).go chat
      (if ending.2.isOk then .reserved authorized reserved else .ended))
  | .reserved authorized reserved, .budget _ estimatedTokens =>
    some (state.go chat
      (match estimatedTokens with
      | some estimatedTokens => .budgeted authorized reserved estimatedTokens
      | none => .ended))
  | .budgeted authorized reserved estimatedTokens, .prepare _ storage =>
    let ending := prepareExchange storage state.system.database
      (deployment.exchange authorized reserved estimatedTokens) state.system.clock
    some ((state.commit (some chat) { state.system with database := ending.1 }).go chat .ended)
  | .arriving, .crash _ => none
  | .ended, .crash _ => none
  | _, .crash _ => some (state.go chat .ended)
  | _, _ => none

/-- One transaction.  The other calls of the contract may come from anywhere, but exchanges
are prepared by requests; a write of a stale version is given up. -/
def step (state : ConversationTraffic) : TrafficLabel → Option ConversationTraffic
  | .read editor conversationId organizationId userId transitions =>
    some { state with
      edits := Function.update state.edits editor
        (editConversation state.conversations conversationId organizationId userId transitions) }
  | .write editor =>
    (state.edits editor).map fun edit =>
      let left := { state with edits := Function.update state.edits editor none }
      match updateConversation state.conversations edit.read edit.written with
      | none => left
      | some rows =>
        { left with
          conversations := rows
          commits := .conversations rows :: state.commits }
  | .contract (.prepareExchange _ _) => none
  | .contract label => some (state.commit none (state.system.next label))
  | label => label.chat?.bind fun chat => deployment.advance state chat (state.chats chat) label

end ChatDeployment

/-- No request has arrived; the conversations are as they were last committed. -/
def ConversationTraffic.start (system : GovernanceState) (rows : List ConversationRow) :
    ConversationTraffic :=
  ⟨system, rows, fun _ => .arriving, fun _ => none, [.conversations rows]⟩

/-! ## Archived conversations -/

/-- The last commit of the conversations left it archived. -/
def archivedIn (conversationId : Nat) : List ConversationCommit → Bool
  | [] => false
  | .conversations rows :: _ =>
    rows.any fun row => row.id = conversationId ∧ row.lifecycle = .archived
  | _ :: older => archivedIn conversationId older

/-- The commits after the authorization of a request. -/
def sinceAuthorized (chat : Nat) (commits : List ConversationCommit) : List ConversationCommit :=
  commits.takeWhile fun commit => commit ≠ .authorize chat

/-- Every added row meets a condition on its request, its conversation and the commits before. -/
def Adds (meets : Option Nat → Nat → List ConversationCommit → Prop) : List ConversationCommit → Prop
  | [] => True
  | .chat chat executions messages :: older =>
    ((∀ execution ∈ executions, meets chat execution.conversationId older) ∧
      ∀ message ∈ messages, meets chat message.conversationId older) ∧ Adds meets older
  | _ :: older => Adds meets older

instance decidableAdds (meets : Option Nat → Nat → List ConversationCommit → Prop)
    [∀ chat conversationId older, Decidable (meets chat conversationId older)] :
    ∀ commits, Decidable (Adds meets commits)
  | [] => .isTrue trivial
  | .chat _ _ _ :: older =>
    have := decidableAdds meets older
    inferInstanceAs (Decidable (_ ∧ _))
  | .authorize _ :: older => decidableAdds meets older
  | .conversations _ :: older => decidableAdds meets older

/-- Nothing was added to a conversation while it was archived. -/
def NothingWhileArchived (commits : List ConversationCommit) : Prop :=
  Adds (fun _ conversationId older => archivedIn conversationId older = false) commits

/-- Nothing was added by a request whose conversation was archived since its authorization,
and not reopened. -/
def NothingOvertaken (commits : List ConversationCommit) : Prop :=
  Adds (fun chat conversationId older => ∀ request ∈ chat,
    archivedIn conversationId (sinceAuthorized request older) = false) commits

instance decidableNothingWhileArchived (commits : List ConversationCommit) :
    Decidable (NothingWhileArchived commits) :=
  decidableAdds _ commits

instance decidableNothingOvertaken (commits : List ConversationCommit) :
    Decidable (NothingOvertaken commits) :=
  decidableAdds _ commits

end Eiraos.Conversations
