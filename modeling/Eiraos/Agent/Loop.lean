import Eiraos.Foundations.PythonText
import Eiraos.Foundations.Run
import Mathlib.Algebra.Order.Ring.Unbundled.Rat
import Mathlib.Tactic.Linarith

/-! # The bounded agent loop (`application/agent_loop.py`)

`run_agent_loop_async` from one await or clock reading to the next.  What the planner, the
policy, the budget and the tool answer, how long they take and what becomes of an audit
write are choices of the environment; the code between two of them is the model's.
-/

namespace Eiraos.Agent

open PythonText

/-! ## Events -/

inductive AgentEventType where
  | runStarted
  | plannerDecision
  | authorizationDecision
  | budgetDecision
  | toolSelected
  | toolExecutionStarted
  | toolExecutionCompleted
  | toolExecutionFailed
  | observationReceived
  | runTerminated
  deriving DecidableEq, Repr

inductive PayloadValue where
  | count (value : Int)
  | seconds (value : ℚ)
  | text (value : PythonStr)
  deriving DecidableEq

/-- The arguments of one `audit.record`. -/
structure AgentEvent where
  eventType : AgentEventType
  outcome : Option String
  reasonCode : Option PythonStr
  payload : List (String × PayloadValue)
  deriving DecidableEq

/-! ## Limits and outcomes -/

structure AgentRunLimits where
  maxDepth : Nat
  timeoutSeconds : ℚ
  toolTimeoutSeconds : ℚ
  depth_positive : 1 ≤ maxDepth
  timeout_positive : 0 < timeoutSeconds
  toolTimeout_positive : 0 < toolTimeoutSeconds
  toolTimeout_within : toolTimeoutSeconds ≤ timeoutSeconds

/-- One iteration in two seconds, its tool in one. -/
def AgentRunLimits.single : AgentRunLimits :=
  ⟨1, 2, 1, by decide, by norm_num, by norm_num, by norm_num⟩

inductive LoopStatus where
  | complete
  | denied
  | budgetExhausted
  | timeout
  | failed
  | cancelled
  | depthLimitReached
  deriving DecidableEq, Repr

def LoopStatus.text : LoopStatus → String
  | .complete => "COMPLETE"
  | .denied => "DENIED"
  | .budgetExhausted => "BUDGET_EXHAUSTED"
  | .timeout => "TIMEOUT"
  | .failed => "FAILED"
  | .cancelled => "CANCELLED"
  | .depthLimitReached => "DEPTH_LIMIT_REACHED"

structure TerminationContext where
  completedDepth : Nat
  maxDepth : Nat
  timeoutSeconds : ℚ
  deadlineOffsetSeconds : ℚ
  deriving DecidableEq

def TerminationContext.payload (context : TerminationContext) : List (String × PayloadValue) :=
  [("completed_depth", .count context.completedDepth),
    ("max_depth", .count context.maxDepth),
    ("timeout_seconds", .seconds context.timeoutSeconds),
    ("deadline_offset_seconds", .seconds context.deadlineOffsetSeconds)]

/-- Every `LoopOutcome` of the loop comes from `_terminal`, so it has a context. -/
structure LoopOutcome (Observation : Type) where
  status : LoopStatus
  observation : Option Observation
  reasonCode : Option PythonStr
  steps : Nat
  terminationContext : TerminationContext
  deriving DecidableEq

/-! ## What the loop is given -/

/-- An attribute of an object that the loop knows nothing about. -/
inductive Attribute (Value : Type) where
  | absent
  | value (value : Value)
  | raises
  deriving DecidableEq, Repr

/-- What `str(value)` gives; `none` when it raises. -/
abbrev Rendered := Option PythonStr

/-- The answer of `authorize`; `allowed` is the truth value of the attribute. -/
structure Decision where
  reasonCode : Attribute Rendered
  allowed : Attribute Bool
  deriving DecidableEq, Repr

/-- The answer of `budget.consume`. -/
structure BudgetAnswer where
  reasonCode : Attribute Rendered
  allowed : Attribute Bool
  remainingExecutions : Attribute Int
  deriving DecidableEq, Repr

/-- The limits, the executor's kind and what the language and its library say of strings,
of steps and of tool results.  `dumps` is `json.dumps` with the arguments that
`_audit_fingerprint` gives it. -/
structure AgentRun (Step Observation : Type) where
  limits : AgentRunLimits
  asyncExecute : Bool
  isAlnum : Nat → Bool
  isUpper : Nat → Bool
  isDigit : Nat → Bool
  sha256 : String → String
  truthy : Step → Bool
  tool : Step → Rendered
  capability : Step → Rendered
  typeName : Observation → PythonStr
  dumps : Observation → Option String

variable {Step Observation : Type}

namespace AgentRun

variable (run : AgentRun Step Observation)

/-- `_audit_identifier`; `none` when it raises. -/
def auditIdentifier (value : Rendered) (kind : String) : Option PythonStr := do
  let rendered ← value
  if 0 < rendered.length ∧ rendered.length ≤ 128 ∧
      rendered.codePoints.all fun character =>
        run.isAlnum character || (PythonStr.ofText "_.:-").codePoints.contains character then
    return rendered
  let encoded ← rendered.encode?
  return .ofText (kind ++ ":sha256:" ++ String.ofList ((run.sha256 encoded).toList.take 16))

/-- `_reason_code`; `none` when it raises. -/
def reasonCode (value : Rendered) : Option PythonStr := do
  let rendered ← value
  if 0 < rendered.length ∧ rendered.length ≤ 64 ∧
      rendered.codePoints.all fun character =>
        run.isUpper character || run.isDigit character ||
          (PythonStr.ofText "_").codePoints.contains character then
    return rendered
  return "UNSAFE_REASON_CODE"

/-- `_audit_fingerprint`; `none` when it raises. -/
def auditFingerprint (value : Observation) : Option String :=
  (run.dumps value).map run.sha256

end AgentRun

/-- `getattr(decision, "reason_code", "UNAUTHORIZED")` through `_reason_code`. -/
def AgentRun.decisionReason (run : AgentRun Step Observation) (decision : Decision) :
    Option PythonStr :=
  match decision.reasonCode with
  | .absent => run.reasonCode (some "UNAUTHORIZED")
  | .value rendered => run.reasonCode rendered
  | .raises => none

/-- `getattr(decision, "allowed", False)`. -/
def Decision.isAllowed (decision : Decision) : Option Bool :=
  match decision.allowed with
  | .absent => some false
  | .value allowed => some allowed
  | .raises => none

/-- A plain attribute access, which an absent attribute fails. -/
def Attribute.get {Value : Type} : Attribute Value → Option Value
  | .value read => some read
  | .absent | .raises => none

def AgentRun.budgetReason (run : AgentRun Step Observation) (answer : BudgetAnswer) :
    Option PythonStr :=
  answer.reasonCode.get.bind run.reasonCode

/-! ## Program points -/

/-- What the loop calls through `_invoke_within_deadline`. -/
inductive Invocation (Step : Type) where
  | planner
  | policy (step : Step)
  deriving DecidableEq, Repr

/-- What the loop goes on with when an audit write has returned. -/
inductive Resume (Step Observation : Type) where
  | runStarted
  | plannerDecided (step : Option Step)
  | toolSelected (step : Step)
  | authorizationDecided (step : Step) (allowed : Bool) (reason : PythonStr)
  | budgetDecided (step : Step) (allowed : Bool) (reason : PythonStr)
  | executionStarted (step : Step) (timeout : ℚ)
  | executionCompleted (observation : Observation)
  | observationReceived
  | failed (outcome : LoopOutcome Observation)
  | cancelled (outcome : LoopOutcome Observation)
  | finished (outcome : LoopOutcome Observation)
  | reraised (outcome : LoopOutcome Observation)
  deriving DecidableEq

/-- How a run ends: it returns, it passes a cancellation on, or another exception escapes. -/
inductive Ending (Observation : Type) where
  | returned (outcome : LoopOutcome Observation)
  | cancelled
  | raised
  deriving DecidableEq

/-- `nested` says that the callable returned an awaitable, which is awaited in turn. -/
inductive Point (Step Observation : Type) where
  | recording (event : AgentEvent) (resume : Resume Step Observation)
  | looping
  | invoking (invocation : Invocation Step) (nested : Bool)
  | awaiting (invocation : Invocation Step) (nested : Bool)
  | consuming (step : Step)
  | measuring (step : Step)
  | executing (step : Step) (timeout : ℚ)
  | toolTimedOut (step : Step)
  | ended (ending : Ending Observation)
  deriving DecidableEq

/-- The variables of the loop, the clock, and the events the writer has stored. -/
structure AgentLoop (Step Observation : Type) where
  point : Point Step Observation
  now : ℚ
  started : ℚ
  depth : Nat
  observation : Option Observation
  events : List AgentEvent
  deriving DecidableEq

/-- `exception` is every `Exception` but `TimeoutError`; `exits` is what no `except` of the
loop catches, cancellation apart. -/
inductive Fault where
  | timeout
  | exception
  | exits
  deriving DecidableEq, Repr

/-- What happens next.  `proceed` is the code up to the next await from a clock reading on;
`stored` says whether an interrupted or failed write is in the trail nevertheless. -/
inductive Signal (Step Observation : Type) where
  | tick (now : ℚ)
  | proceed
  | recorded
  | recordFailed (stored : Bool)
  | cancelled (stored : Bool)
  | raised (fault : Fault)
  | deferred
  | planned (step : Option Step)
  | decided (decision : Decision)
  | consumed (answer : BudgetAnswer)
  | executed (observation : Observation)
  deriving DecidableEq

/-! ## The loop -/

namespace AgentLoop

variable (run : AgentRun Step Observation) (loop : AgentLoop Step Observation)

def deadline : ℚ := loop.started + run.limits.timeoutSeconds

/-- `_terminal`. -/
def terminal (status : LoopStatus) (reason : Option PythonStr)
    (observation : Option Observation) : LoopOutcome Observation where
  status
  observation
  reasonCode := reason
  steps := loop.depth
  terminationContext := {
    completedDepth := loop.depth
    maxDepth := run.limits.maxDepth
    timeoutSeconds := run.limits.timeoutSeconds
    deadlineOffsetSeconds := loop.deadline run - loop.started }

/-- The event that `finish` records. -/
def terminated (outcome : LoopOutcome Observation) : AgentEvent where
  eventType := .runTerminated
  outcome := some outcome.status.text
  reasonCode := outcome.reasonCode
  payload := outcome.terminationContext.payload

def await (event : AgentEvent) (resume : Resume Step Observation) : AgentLoop Step Observation :=
  { loop with point := .recording event resume }

def escape : AgentLoop Step Observation := { loop with point := .ended .raised }

/-- The payload of the event is built first, and building it may raise. -/
def awaitBuilt (event : Option AgentEvent) (resume : Resume Step Observation) :
    AgentLoop Step Observation :=
  match event with
  | some event => loop.await event resume
  | none => loop.escape

def finish (outcome : LoopOutcome Observation) : AgentLoop Step Observation :=
  loop.await (terminated outcome) (.finished outcome)

/-- An event whose payload is the depth alone. -/
def depthEvent (eventType : AgentEventType) (outcome : String) (reason : Option PythonStr) :
    AgentEvent where
  eventType
  outcome := some outcome
  reasonCode := reason
  payload := [("depth", .count loop.depth)]

/-- An event whose payload is the depth and the tool of the step. -/
def toolEvent (step : Step) (eventType : AgentEventType) (outcome : Option String)
    (reason : Option PythonStr) : Option AgentEvent := do
  let tool ← run.auditIdentifier (run.tool step) "tool"
  return {
    eventType
    outcome
    reasonCode := reason
    payload := [("depth", .count loop.depth), ("tool", .text tool)] }

def selectedEvent (step : Step) : Option AgentEvent := do
  let tool ← run.auditIdentifier (run.tool step) "tool"
  let capability ← run.auditIdentifier (run.capability step) "capability"
  return {
    eventType := .toolSelected
    outcome := none
    reasonCode := none
    payload := [("depth", .count loop.depth), ("tool", .text tool),
      ("capability", .text capability)] }

def observationEvent (observation : Observation) : Option AgentEvent := do
  let fingerprint ← run.auditFingerprint observation
  return {
    eventType := .observationReceived
    outcome := none
    reasonCode := none
    payload := [("depth", .count loop.depth),
      ("observation_type", .text (run.typeName observation)),
      ("observation_sha256", .text fingerprint)] }

/-- The decision is recorded before the loop acts on it. -/
def plannerEvent (step : Option Step) : AgentEvent :=
  loop.depthEvent .plannerDecision (if step.any run.truthy then "selected" else "complete") none

def authorizationEvent (allowed : Bool) (reason : PythonStr) : AgentEvent :=
  loop.depthEvent .authorizationDecision (if allowed then "allowed" else "denied") (some reason)

def budgetEvent (allowed : Bool) (reason : PythonStr) (remainingExecutions : Int) : AgentEvent where
  eventType := .budgetDecision
  outcome := some (if allowed then "allowed" else "denied")
  reasonCode := some reason
  payload := [("depth", .count loop.depth), ("remaining_executions", .count remainingExecutions)]

/-- The test of the `while`. -/
def iterate : AgentLoop Step Observation :=
  if loop.depth < run.limits.maxDepth then { loop with point := .looping }
  else loop.finish
    (loop.terminal run .depthLimitReached (some "MAX_DEPTH_REACHED") loop.observation)

/-- The handler of `TimeoutError` around `_invoke_within_deadline`. -/
def invocationTimedOut (invocation : Invocation Step) : AgentLoop Step Observation :=
  let eventType := match invocation with
    | .planner => AgentEventType.plannerDecision
    | .policy _ => AgentEventType.authorizationDecision
  loop.await (loop.depthEvent eventType "timeout" (some "RUN_DEADLINE_EXCEEDED"))
    (.failed (loop.terminal run .timeout (some "RUN_DEADLINE_EXCEEDED") none))

/-- The handler of `Exception` there. -/
def invocationFailed (invocation : Invocation Step) : AgentLoop Step Observation :=
  match invocation with
  | .planner =>
    loop.await (loop.depthEvent .plannerDecision "failed" (some "PLANNER_FAILED"))
      (.failed (loop.terminal run .failed (some "PLANNER_FAILED") none))
  | .policy _ =>
    loop.await (loop.depthEvent .authorizationDecision "failed" (some "AUTHORIZATION_FAILED"))
      (.failed (loop.terminal run .failed (some "AUTHORIZATION_FAILED") none))

/-- From the return of an audit write to the next await or clock reading. -/
def resume : Resume Step Observation → AgentLoop Step Observation
  | .runStarted =>
    if run.asyncExecute then loop.iterate run
    else loop.finish (loop.terminal run .denied (some "NON_CANCELLABLE_EXECUTOR") none)
  -- `step is None` ends the run; a step that is falsy goes on
  | .plannerDecided none => loop.finish (loop.terminal run .complete none loop.observation)
  | .plannerDecided (some step) => loop.awaitBuilt (loop.selectedEvent run step) (.toolSelected step)
  | .toolSelected step => { loop with point := .invoking (.policy step) false }
  | .authorizationDecided step allowed reason =>
    if allowed then { loop with point := .consuming step }
    else loop.finish (loop.terminal run .denied (some reason) loop.observation)
  | .budgetDecided step allowed reason =>
    if allowed then { loop with point := .measuring step }
    else
      let status := if reason = PythonStr.ofText "TIME_BUDGET_EXHAUSTED" then LoopStatus.timeout
        else LoopStatus.budgetExhausted
      loop.finish (loop.terminal run status (some reason) loop.observation)
  | .executionStarted step timeout => { loop with point := .executing step timeout }
  | .executionCompleted observation =>
    -- the depth counts only tools that returned
    let loop := { loop with depth := loop.depth + 1 }
    loop.awaitBuilt (loop.observationEvent run observation) .observationReceived
  | .observationReceived => loop.iterate run
  | .failed outcome => loop.finish outcome
  -- the terminal event is written before the cancellation is passed on
  | .cancelled outcome => loop.await (terminated outcome) (.reraised outcome)
  | .finished outcome => { loop with point := .ended (.returned outcome) }
  | .reraised _ => { loop with point := .ended .cancelled }

/-- The event is in the trail. -/
def store (event : AgentEvent) (stored : Bool) : AgentLoop Step Observation :=
  if stored then { loop with events := loop.events ++ [event] } else loop

/-- The code from a clock reading on. -/
def proceed : Option (AgentLoop Step Observation) :=
  match loop.point with
  | .looping =>
    if loop.deadline run ≤ loop.now then
      some (loop.finish (loop.terminal run .timeout (some "RUN_DEADLINE_EXCEEDED") none))
    else some { loop with point := .invoking .planner false }
  | .invoking invocation nested =>
    -- `_invoke_within_deadline` raises its own `TimeoutError`
    if loop.deadline run - loop.now ≤ 0 then some (loop.invocationTimedOut run invocation)
    else some { loop with point := .awaiting invocation nested }
  | .measuring step =>
    let remaining := loop.deadline run - loop.now
    if remaining ≤ 0 then
      some (loop.finish (loop.terminal run .timeout (some "RUN_DEADLINE_EXCEEDED") none))
    else some (loop.awaitBuilt (loop.toolEvent run step .toolExecutionStarted none none)
      (.executionStarted step (min run.limits.toolTimeoutSeconds remaining)))
  | .toolTimedOut step =>
    -- the clock is read again, so the reason may differ from the bound that struck
    let reason : PythonStr :=
      if loop.deadline run ≤ loop.now then "RUN_DEADLINE_EXCEEDED" else "TOOL_TIMEOUT"
    some (loop.awaitBuilt (loop.toolEvent run step .toolExecutionFailed "timeout" (some reason))
      (.failed (loop.terminal run .timeout (some reason) loop.observation)))
  | _ => none

/-- A cancellation is delivered at an await; only the one of the tool has a handler. -/
def cancel (stored : Bool) : Option (AgentLoop Step Observation) :=
  match loop.point with
  | .recording event _ => some { loop.store event stored with point := .ended .cancelled }
  -- `except Exception` does not catch a `CancelledError`
  | .awaiting _ _ => some { loop with point := .ended .cancelled }
  | .executing step _ =>
    some (loop.awaitBuilt
      (loop.toolEvent run step .toolExecutionFailed "cancelled" (some "RUN_CANCELLED"))
      (.cancelled (loop.terminal run .cancelled (some "RUN_CANCELLED") loop.observation)))
  | _ => none

/-- The planner, the policy, `budget.consume` or the tool raises. -/
def fail (fault : Fault) : Option (AgentLoop Step Observation) :=
  match loop.point with
  | .awaiting invocation _ =>
    match fault with
    | .timeout => some (loop.invocationTimedOut run invocation)
    | .exception => some (loop.invocationFailed run invocation)
    | .exits => some loop.escape
  -- `budget.consume()` stands in no `try`
  | .consuming _ => some loop.escape
  | .executing step _ =>
    match fault with
    | .timeout => some { loop with point := .toolTimedOut step }
    | .exception =>
      some (loop.awaitBuilt
        (loop.toolEvent run step .toolExecutionFailed "failed" (some "TOOL_FAILED"))
        (.failed (loop.terminal run .failed (some "TOOL_FAILED") loop.observation)))
    | .exits => some loop.escape
  | _ => none

/-- The policy has answered. -/
def decide (step : Step) (decision : Decision) : AgentLoop Step Observation :=
  match run.decisionReason decision, decision.isAllowed with
  | some reason, some allowed =>
    loop.await (loop.authorizationEvent allowed reason) (.authorizationDecided step allowed reason)
  | _, _ => loop.escape

/-- The budget has answered. -/
def consume (step : Step) (answer : BudgetAnswer) : AgentLoop Step Observation :=
  match run.budgetReason answer, answer.allowed.get, answer.remainingExecutions.get with
  | some reason, some allowed, some remainingExecutions =>
    loop.await (loop.budgetEvent allowed reason remainingExecutions)
      (.budgetDecided step allowed reason)
  | _, _, _ => loop.escape

/-- The tool has returned. -/
def observe (step : Step) (observation : Observation) : AgentLoop Step Observation :=
  { loop with observation := some observation }.awaitBuilt
    (loop.toolEvent run step .toolExecutionCompleted "completed" none)
    (.executionCompleted observation)

end AgentLoop

namespace AgentRun

open AgentLoop

variable (run : AgentRun Step Observation)

/-- The loop at the write of `RUN_STARTED`. -/
def begin (started : ℚ) : AgentLoop Step Observation where
  point := .recording {
    eventType := .runStarted
    outcome := none
    reasonCode := none
    payload := [("max_depth", .count run.limits.maxDepth),
      ("timeout_seconds", .seconds run.limits.timeoutSeconds),
      ("tool_timeout_seconds", .seconds run.limits.toolTimeoutSeconds)] } .runStarted
  now := started
  started
  depth := 0
  observation := none
  events := []

def step (loop : AgentLoop Step Observation) :
    Signal Step Observation → Option (AgentLoop Step Observation)
  | .tick now =>
    match loop.point with
    | .ended _ => none
    | _ => some { loop with now }
  | .proceed => loop.proceed run
  | .recorded =>
    match loop.point with
    | .recording event resume => some ((loop.store event true).resume run resume)
    | _ => none
  | .recordFailed stored =>
    match loop.point with
    | .recording event _ => some (loop.store event stored).escape
    | _ => none
  | .cancelled stored => loop.cancel run stored
  | .raised fault => loop.fail run fault
  | .deferred =>
    match loop.point with
    | .awaiting invocation false => some { loop with point := .invoking invocation true }
    | _ => none
  | .planned step =>
    match loop.point with
    | .awaiting .planner _ => some (loop.await (loop.plannerEvent run step) (.plannerDecided step))
    | _ => none
  | .decided decision =>
    match loop.point with
    | .awaiting (.policy step) _ => some (loop.decide run step decision)
    | _ => none
  | .consumed answer =>
    match loop.point with
    | .consuming step => some (loop.consume run step answer)
    | _ => none
  | .executed observation =>
    match loop.point with
    | .executing step _ => some (loop.observe run step observation)
    | _ => none

/-! ## What one step does -/

/-- The transitions, one for each program point and what happens there. -/
inductive Moves (loop : AgentLoop Step Observation) :
    Signal Step Observation → AgentLoop Step Observation → Prop where
  | ticked {now} (running : ∀ ending, loop.point ≠ .ended ending) :
    Moves loop (.tick now) { loop with now }
  | recorded {event resume} (point : loop.point = .recording event resume) :
    Moves loop .recorded ((loop.store event true).resume run resume)
  | writeFailed {event resume stored} (point : loop.point = .recording event resume) :
    Moves loop (.recordFailed stored) (loop.store event stored).escape
  | writeCancelled {event resume stored} (point : loop.point = .recording event resume) :
    Moves loop (.cancelled stored) { loop.store event stored with point := .ended .cancelled }
  | invocationCancelled {invocation nested stored} (point : loop.point = .awaiting invocation nested) :
    Moves loop (.cancelled stored) { loop with point := .ended .cancelled }
  | toolCancelled {step timeout stored} (point : loop.point = .executing step timeout) :
    Moves loop (.cancelled stored) (loop.awaitBuilt
      (loop.toolEvent run step .toolExecutionFailed "cancelled" (some "RUN_CANCELLED"))
      (.cancelled (loop.terminal run .cancelled (some "RUN_CANCELLED") loop.observation)))
  | overdue (point : loop.point = .looping) :
    Moves loop .proceed
      (loop.finish (loop.terminal run .timeout (some "RUN_DEADLINE_EXCEEDED") none))
  | planning (point : loop.point = .looping) (early : loop.now < loop.deadline run) :
    Moves loop .proceed { loop with point := .invoking .planner false }
  | invocationLate {invocation nested} (point : loop.point = .invoking invocation nested) :
    Moves loop .proceed (loop.invocationTimedOut run invocation)
  | invoked {invocation nested} (point : loop.point = .invoking invocation nested)
      (early : loop.now < loop.deadline run) :
    Moves loop .proceed { loop with point := .awaiting invocation nested }
  | startLate {step} (point : loop.point = .measuring step) :
    Moves loop .proceed
      (loop.finish (loop.terminal run .timeout (some "RUN_DEADLINE_EXCEEDED") none))
  | starting {step} (point : loop.point = .measuring step) (early : loop.now < loop.deadline run) :
    Moves loop .proceed (loop.awaitBuilt (loop.toolEvent run step .toolExecutionStarted none none)
      (.executionStarted step (min run.limits.toolTimeoutSeconds (loop.deadline run - loop.now))))
  | timeoutClassified {step} {reason : PythonStr} (point : loop.point = .toolTimedOut step) :
    Moves loop .proceed
      (loop.awaitBuilt (loop.toolEvent run step .toolExecutionFailed "timeout" (some reason))
        (.failed (loop.terminal run .timeout (some reason) loop.observation)))
  | deferred {invocation} (point : loop.point = .awaiting invocation false) :
    Moves loop .deferred { loop with point := .invoking invocation true }
  | invocationTimedOut {invocation nested} (point : loop.point = .awaiting invocation nested) :
    Moves loop (.raised .timeout) (loop.invocationTimedOut run invocation)
  | invocationFailed {invocation nested} (point : loop.point = .awaiting invocation nested) :
    Moves loop (.raised .exception) (loop.invocationFailed run invocation)
  | invocationExits {invocation nested} (point : loop.point = .awaiting invocation nested) :
    Moves loop (.raised .exits) loop.escape
  | consumeRaised {step fault} (point : loop.point = .consuming step) :
    Moves loop (.raised fault) loop.escape
  | toolTimedOut {step timeout} (point : loop.point = .executing step timeout) :
    Moves loop (.raised .timeout) { loop with point := .toolTimedOut step }
  | toolFailed {step timeout} (point : loop.point = .executing step timeout) :
    Moves loop (.raised .exception)
      (loop.awaitBuilt (loop.toolEvent run step .toolExecutionFailed "failed" (some "TOOL_FAILED"))
        (.failed (loop.terminal run .failed (some "TOOL_FAILED") loop.observation)))
  | toolExits {step timeout} (point : loop.point = .executing step timeout) :
    Moves loop (.raised .exits) loop.escape
  | planned {step nested} (point : loop.point = .awaiting .planner nested) :
    Moves loop (.planned step) (loop.await (loop.plannerEvent run step) (.plannerDecided step))
  | decided {step nested decision} (point : loop.point = .awaiting (.policy step) nested) :
    Moves loop (.decided decision) (loop.decide run step decision)
  | consumed {step answer} (point : loop.point = .consuming step) :
    Moves loop (.consumed answer) (loop.consume run step answer)
  | executed {step timeout observation} (point : loop.point = .executing step timeout) :
    Moves loop (.executed observation) (loop.observe run step observation)

variable {run} {loop next : AgentLoop Step Observation} {signal : Signal Step Observation}

theorem moves_of_proceed (stepped : loop.proceed run = some next) :
    run.Moves loop .proceed next := by
  rw [proceed] at stepped
  split at stepped
  next point =>
    split at stepped <;> cases stepped
    · exact .overdue point
    · apply Moves.planning point
      linarith
  next point =>
    split at stepped <;> cases stepped
    · exact .invocationLate point
    · apply Moves.invoked point
      linarith
  next point =>
    dsimp only at stepped
    split at stepped <;> cases stepped
    · exact .startLate point
    · apply Moves.starting point
      linarith
  next point =>
    cases stepped
    exact .timeoutClassified point
  next => cases stepped

theorem moves_of_cancel {stored : Bool} (stepped : loop.cancel run stored = some next) :
    run.Moves loop (.cancelled stored) next := by
  rw [cancel] at stepped
  split at stepped <;> cases stepped
  next point => exact .writeCancelled point
  next point => exact .invocationCancelled point
  next point => exact .toolCancelled point

theorem moves_of_fail {fault : Fault} (stepped : loop.fail run fault = some next) :
    run.Moves loop (.raised fault) next := by
  rw [fail] at stepped
  split at stepped
  next point =>
    cases fault <;> cases stepped
    · exact .invocationTimedOut point
    · exact .invocationFailed point
    · exact .invocationExits point
  next point =>
    cases stepped
    exact .consumeRaised point
  next point =>
    cases fault <;> cases stepped
    · exact .toolTimedOut point
    · exact .toolFailed point
    · exact .toolExits point
  next => cases stepped

/-- Every enabled step is one of the transitions. -/
theorem moves_of_step (stepped : run.step loop signal = some next) : run.Moves loop signal next := by
  cases signal with
  | proceed => exact moves_of_proceed stepped
  | cancelled stored => exact moves_of_cancel stepped
  | raised fault => exact moves_of_fail stepped
  | tick now =>
    simp only [step] at stepped
    split at stepped <;> cases stepped
    next running => exact .ticked running
  | recorded =>
    simp only [step] at stepped
    split at stepped <;> cases stepped
    next point => exact .recorded point
  | recordFailed stored =>
    simp only [step] at stepped
    split at stepped <;> cases stepped
    next point => exact .writeFailed point
  | deferred =>
    simp only [step] at stepped
    split at stepped <;> cases stepped
    next point => exact .deferred point
  | planned decision =>
    simp only [step] at stepped
    split at stepped <;> cases stepped
    next point => exact .planned point
  | decided decision =>
    simp only [step] at stepped
    split at stepped <;> cases stepped
    next point => exact .decided point
  | consumed answer =>
    simp only [step] at stepped
    split at stepped <;> cases stepped
    next point => exact .consumed point
  | executed observation =>
    simp only [step] at stepped
    split at stepped <;> cases stepped
    next point => exact .executed point

end AgentRun

end Eiraos.Agent
