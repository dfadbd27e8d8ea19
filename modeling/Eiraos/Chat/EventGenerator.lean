import Eiraos.Chat.CompletedUsage
import Eiraos.Chat.StreamPump

/-! # The stream of one attempt (`event_generator` of `api/v1/chat.py`)

The generator after `mark_streaming` returned, from one yield or await to the next.  What
the awaited calls return or raise, what the consumer does at a yield and what others commit
in between are choices of the environment.
-/

namespace Eiraos

/-- `StreamTerminal` has the members of `TERMINAL_STATUSES`. -/
abbrev StreamTerminal := TerminalStatus

/-- `other` is every other subclass of `Exception`; the first two are not among them. -/
inductive StreamException where
  | cancelled
  | generatorExit
  | isolated (code : FailureCode)
  | other
  deriving DecidableEq, Repr

/-- Where the consumer holds the generator. -/
inductive YieldPoint where
  | start
  | token
  | keepAlive
  | verifierKeepAlive
  | verification
  | done
  | error
  deriving DecidableEq, Repr

inductive AwaitPoint where
  | nextEvent
  | closePump
  | settle
  | verifier
  | isDisconnected
  | applyTerminal (terminal : StreamTerminal)
  deriving DecidableEq, Repr

/-- What the `finally` clause awaits. -/
inductive CleanupTask where
  | verification
  | pump
  | heartbeat
  deriving DecidableEq, Repr

/-- The `finally` clause goes on with the exception that entered it. -/
inductive GeneratorPoint where
  | yielded (value : YieldPoint)
  | awaiting (call : AwaitPoint)
  | cleaning (tasks : List CleanupTask) (exception : Option StreamException)
  | ended (exception : Option StreamException)
  deriving DecidableEq, Repr

/-- What the endpoint has fixed when it returns the generator.  `prepare_provider` has read
the metadata of the model; `tenant` says whether the budget was reserved in Redis and
`heartbeat` whether the lease is renewed. -/
structure StreamSetup where
  runtime : Runtime
  payload : ChatPayload
  context : ProviderContext
  tenant : Bool
  heartbeat : Bool
  executionId : String
  leaseToken : Option String
  listed : ∃ entry, modelMetadata runtime.lowercase payload.provider payload.model = .ok entry

/-- The variables of the generator and the tables.  `terminal` is the finalizer's
`_terminal`, `pumpOpen` that the pump is to be closed, `verifying` that `verification_task`
is set.  `transitions` are the calls of `apply_terminal`, `persistenceFailed` that one of
them raised in the persistence. -/
structure EventGenerator where
  point : GeneratorPoint
  accumulated : String
  primaryContent : Option String
  streamUsage : Option ProviderUsage
  verification : Option VerificationResult
  accountingEntries : List ExecutionCost
  streamFailureCode : FailureCode
  leaseLost : Bool
  pumpOpen : Bool
  verifying : Bool
  terminal : Option StreamTerminal
  database : Database
  transitions : List StreamTerminal
  persistenceFailed : Bool
  deriving DecidableEq, Repr

/-- The execution is completed, failed or cancelled. -/
def Database.isClosed (database : Database) (executionId : String) : Bool :=
  (database.execution? executionId).any fun execution => execution.status.isTerminal

namespace EventGenerator

/-- At the first yield, once `mark_streaming` returned `True`. -/
def initial (setup : StreamSetup) (storage : Storage) (before : Database) : Option EventGenerator :=
  match markStreaming storage before setup.executionId with
  | (database, .ok true) => some {
      point := .yielded .start
      accumulated := ""
      primaryContent := none
      streamUsage := none
      verification := none
      accountingEntries := []
      streamFailureCode := .providerFailure
      leaseLost := false
      pumpOpen := false
      verifying := false
      terminal := none
      database
      transitions := []
      persistenceFailed := false }
  | _ => none

variable (setup : StreamSetup) (generator : EventGenerator)

/-! ## The end of the generator -/

def finish : List CleanupTask → Option StreamException → EventGenerator
  | [], exception => { generator with point := .ended exception }
  | tasks, exception => { generator with point := .cleaning tasks exception }

/-- The `finally` clause. -/
def clean (exception : Option StreamException) : EventGenerator :=
  generator.finish
    ((if generator.verifying then [.verification] else []) ++
      (if generator.pumpOpen then [.pump] else []) ++
      (if setup.heartbeat then [.heartbeat] else []))
    exception

/-- What follows `finalize` in the `except` clauses, which ignore its `Exception`s. -/
def leaveHandler : StreamTerminal → EventGenerator
  | .cancelled => generator.clean setup (some .cancelled)
  | _ => { generator with point := .yielded .error }

/-! ## The terminal transition -/

def accountPrimary (output : String) : Option ExecutionCost :=
  (account setup.runtime.lowercase setup.payload.provider setup.payload.model .primary
    setup.context.messages output setup.context.systemPrompt).toOption

/-- The entries `apply_terminal` hands over; `none` when the accountant raises. -/
def terminalEntries : Option (List ExecutionCost) :=
  if generator.accountingEntries.any fun entry => entry.operation = .primary then
    some generator.accountingEntries
  else
    (accountPrimary setup (generator.primaryContent.getD generator.accumulated)).map fun entry =>
      generator.accountingEntries ++ [entry]

/-- `StreamFinalizer.finalize` with `apply_terminal` up to its await.  The generator goes on
with `returned`, or with `raised` after an exception. -/
def finalizeStream (terminal : StreamTerminal) (returned raised : EventGenerator → EventGenerator) :
    EventGenerator :=
  if generator.terminal.isSome then returned generator
  else
    let claimed := { generator with
      terminal := some terminal, transitions := generator.transitions ++ [terminal] }
    match claimed.terminalEntries setup with
    | none => raised claimed
    | some entries =>
      { claimed with accountingEntries := entries, point := .awaiting (.applyTerminal terminal) }

/-- The call of `persistence.finalize`. -/
def terminalRequest : StreamTerminal → FinalizeRequest
  | .completed =>
    Completion.request setup.runtime
      ⟨generator.accumulated, generator.verification, generator.accountingEntries⟩
      setup.executionId setup.leaseToken
  | terminal => {
      executionId := setup.executionId
      terminalStatus := terminal.text
      content := generator.accumulated
      responseStatus := (failurePolicy generator.streamFailureCode).responseStatus
      responseReference := "failed"
      leaseToken := setup.leaseToken
      failureCode := some generator.streamFailureCode
      accounting := generator.accountingEntries }

/-- The `except` clauses of the body; none of them catches `GeneratorExit`. -/
def handle : StreamException → EventGenerator
  | .cancelled =>
    { generator with streamFailureCode := .clientCancelled }.finalizeStream setup .cancelled
      (leaveHandler setup · .cancelled) (leaveHandler setup · .cancelled)
  | .isolated code =>
    { generator with streamFailureCode := code }.finalizeStream setup .failed
      (leaveHandler setup · .failed) (leaveHandler setup · .failed)
  | .other =>
    generator.finalizeStream setup .failed (leaveHandler setup · .failed) (leaveHandler setup · .failed)
  | .generatorExit => generator.clean setup (some .generatorExit)

/-- After `persistence.finalize` returned or raised. -/
def applied (terminal : StreamTerminal) (result : Except PersistenceError Bool) : EventGenerator :=
  match terminal, result with
  | .completed, .ok true => { generator with point := .yielded .done }
  -- the execution was already finalized, or the persistence raised
  | .completed, _ => generator.handle setup .other
  | handled, _ => generator.leaveHandler setup handled

/-- `CancelledError` at the await of `apply_terminal`: no clause guards the `except` clauses. -/
def interruptApply : StreamTerminal → EventGenerator
  | .completed => generator.handle setup .cancelled
  | _ => generator.clean setup (some .cancelled)

/-! ## The body -/

def complete : EventGenerator :=
  if generator.leaseLost then generator.handle setup .other
  else
    generator.finalizeStream setup .completed
      (fun returned => { returned with point := .yielded .done })
      (fun raised => raised.handle setup .other)

def verify : EventGenerator :=
  if setup.payload.verify then { generator with verifying := true, point := .awaiting .verifier }
  else generator.complete setup

/-- `settle_primary_usage` up to the settlement, and what follows it. -/
def settlePrimaryUsage : EventGenerator :=
  match generator.streamUsage with
  | none => generator.verify setup
  | some usage =>
    if setup.tenant then
      match setup.payload.reportedEntry setup.runtime.lowercase usage with
      | .error _ => generator.handle setup .other
      | .ok entry =>
        { generator with
          accountingEntries := generator.accountingEntries ++ [entry]
          point := .awaiting .settle }
    else generator.verify setup

/-- What the loop does with an event of the pump. -/
def receive : StreamEvent → EventGenerator
  | .chunk content =>
    { generator with accumulated := generator.accumulated ++ content, point := .yielded .token }
  | .heartbeat => { generator with point := .yielded .keepAlive }
  | .ended => { generator with pumpOpen := false, point := .awaiting .closePump }
  | .disconnected => { generator with streamFailureCode := .clientCancelled }.handle setup .cancelled
  | .leaseLost => { generator with streamFailureCode := .idempotencyLost }.handle setup .other
  | .timeout => { generator with streamFailureCode := .providerTimeout }.handle setup .other

/-- `verification_task` has returned; `verifier` is `verifier_accounting_context`. -/
def verified (result : VerificationResult) (verifier : Option (String × String)) : EventGenerator :=
  let generator := { generator with verifying := false }
  let entries? := match result.providerOutput, verifier with
    | some output, some (provider, model) =>
      (ChatRun.accountVerification setup.runtime setup.payload
        (generator.primaryContent.getD generator.accumulated) ⟨provider, model, output⟩).map ([·])
    | _, _ => some []
  match entries? with
  | none => generator.handle setup .other
  | some entries =>
    { generator with
      accountingEntries := generator.accountingEntries ++ entries
      accumulated := result.answer
      verification := some result
      point := .yielded .verification }

/-- After a keep-alive interval without a result of the verifier. -/
def polled (disconnected : Bool) : EventGenerator :=
  if disconnected then generator.handle setup .cancelled
  else if generator.leaseLost then generator.handle setup .other
  else { generator with point := .yielded .verifierKeepAlive }

/-- The consumer asks for the next value. -/
def resume : YieldPoint → EventGenerator
  | .start => { generator with pumpOpen := true, point := .awaiting .nextEvent }
  | .token | .keepAlive => { generator with point := .awaiting .nextEvent }
  | .verifierKeepAlive => { generator with point := .awaiting .verifier }
  | .verification => generator.complete setup
  | .done | .error => generator.clean setup none

/-- An awaited call other than the terminal write returned. -/
def returned : AwaitPoint → Option EventGenerator
  | .closePump =>
    some ({ generator with primaryContent := some generator.accumulated }.settlePrimaryUsage setup)
  | .settle => some (generator.verify setup)
  | .verifier => some { generator with point := .awaiting .isDisconnected }
  | _ => none

/-- An awaited call raised. -/
def raised (call : AwaitPoint) (exception : StreamException) : Option EventGenerator :=
  match call, exception with
  | _, .generatorExit => none
  | .applyTerminal terminal, .cancelled => some (generator.interruptApply setup terminal)
  | .applyTerminal terminal, .other =>
    -- an error of the driver that is not a `PersistenceError`
    some ({ generator with persistenceFailed := true }.applied setup terminal
      (.error (.unavailable "chat persistence query failed")))
  | .applyTerminal _, .isolated _ => none
  | _, exception => some (generator.handle setup exception)

/-- The tables after `persistence.finalize`, and whether it raised. -/
def persist (storage : Storage) (now : Instant) (terminal : StreamTerminal) :
    EventGenerator × Except PersistenceError Bool :=
  let (database, result) :=
    finalize storage generator.database (generator.terminalRequest setup terminal) now
  ({ generator with
      database
      persistenceFailed := generator.persistenceFailed || !result.isOk }, result)

end EventGenerator

/-- One choice of the environment: the consumer's at a yield, the end of an awaited call, or
something that happens meanwhile. -/
inductive GeneratorSignal where
  | resumed
  | closed
  | event (event : StreamEvent)
  | returned
  | raised (exception : StreamException)
  | verified (result : VerificationResult) (verifier : Option (String × String))
  | polled (disconnected : Bool)
  | persisted (storage : Storage) (now : Instant)
  /-- The call of `persistence.finalize` is done, but the task is cancelled before it returns. -/
  | persistedCancelled (storage : Storage) (now : Instant)
  | reported (usage : ProviderUsage)
  | leaseLost
  | others (database : Database)
  deriving DecidableEq, Repr

namespace EventGenerator

open GeneratorPoint in
/-- Others may change anything, but no terminal status is ever left. -/
def step (setup : StreamSetup) (generator : EventGenerator) :
    GeneratorSignal → Option EventGenerator
  | .resumed =>
    match generator.point with
    | yielded value => some (generator.resume setup value)
    | _ => none
  | .closed =>
    match generator.point with
    | yielded _ => some (generator.handle setup .generatorExit)
    | _ => none
  | .event event =>
    match generator.point with
    | awaiting .nextEvent => some (generator.receive setup event)
    | _ => none
  | .returned =>
    match generator.point with
    | awaiting call => generator.returned setup call
    | cleaning (_ :: tasks) exception => some (generator.finish tasks exception)
    | _ => none
  | .raised exception =>
    match generator.point with
    | awaiting call => generator.raised setup call exception
    | cleaning _ _ => some { generator with point := .ended (some exception) }
    | _ => none
  | .verified result verifier =>
    match generator.point with
    | awaiting .verifier => some (generator.verified setup result verifier)
    | _ => none
  | .polled disconnected =>
    match generator.point with
    | awaiting .isDisconnected => some (generator.polled setup disconnected)
    | _ => none
  | .persisted storage now =>
    match generator.point with
    | awaiting (.applyTerminal terminal) =>
      let (persisted, result) := generator.persist setup storage now terminal
      some (persisted.applied setup terminal result)
    | _ => none
  | .persistedCancelled storage now =>
    match generator.point with
    | awaiting (.applyTerminal terminal) =>
      some ((generator.persist setup storage now terminal).1.interruptApply setup terminal)
    | _ => none
  | .reported usage =>
    if generator.pumpOpen ∧ generator.streamUsage = none then
      some { generator with streamUsage := some usage }
    else none
  | .leaseLost => if setup.heartbeat then some { generator with leaseLost := true } else none
  | .others database =>
    if generator.database.isClosed setup.executionId → database.isClosed setup.executionId then
      some { generator with database }
    else none

end EventGenerator

end Eiraos
