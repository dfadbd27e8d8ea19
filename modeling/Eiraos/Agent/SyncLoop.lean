import Eiraos.Agent.Closure

/-! # The plain agent loop and the bounded one

`run_agent_loop` and `run_agent_loop_async` are given the same planner, policy, budget and
tool.  The plain loop is a recursion on the steps it may still take.  Whatever becomes of the
bounded one (its clock, its timeouts, its audit writes, a cancellation), it makes the calls of
the plain loop in the same order, and ends where the plain loop ends unless it is stopped
before.
-/

namespace Eiraos.Agent

open PythonText

variable {Step Observation : Type}

/-! ## What both loops call -/

/-- A call of the planner, the policy, the budget or the tool. -/
inductive Call (Step Observation : Type) where
  | plan (observation : Option Observation)
  | authorize (step : Step)
  | consume
  | execute (step : Step)
  deriving DecidableEq, Repr

/-- What the four answer, or raise.  They may keep state of their own, so an answer depends on
all the calls up to its own. -/
structure Callables (Step Observation : Type) where
  planner : List (Call Step Observation) → Option Observation → Except Fault (Option Step)
  authorize : List (Call Step Observation) → Step → Except Fault Decision
  consume : List (Call Step Observation) → Except Fault BudgetAnswer
  execute : List (Call Step Observation) → Step → Except Fault Observation

/-! ## The plain loop -/

inductive SyncStatus where
  | complete
  | denied
  | budgetExhausted
  | stepLimitReached
  deriving DecidableEq, Repr

/-- The `LoopOutcome` of `run_agent_loop`, whose reason codes are passed on as they are. -/
structure SyncOutcome (Observation : Type) where
  status : SyncStatus
  observation : Option Observation
  reasonCode : Option Rendered
  steps : Nat
  deriving DecidableEq

/-- The calls of a run and what it returns; `none` when an exception escapes. -/
structure SyncRun (Step Observation : Type) where
  calls : List (Call Step Observation)
  outcome : Option (SyncOutcome Observation)
  deriving DecidableEq

/-- `getattr(decision, "reason_code", "UNAUTHORIZED")`; `none` when it raises. -/
def Decision.reason? (decision : Decision) : Option Rendered :=
  match decision.reasonCode with
  | .absent => some (some "UNAUTHORIZED")
  | .value rendered => some rendered
  | .raises => none

namespace SyncRun

/-- The loop returns, unless the reason to return cannot be read. -/
def refused (status : SyncStatus) (reason : Option Rendered) (calls : List (Call Step Observation))
    (observation : Option Observation) (stepNumber : Nat) : SyncRun Step Observation :=
  ⟨calls, reason.map fun rendered => ⟨status, observation, some rendered, stepNumber⟩⟩

end SyncRun

namespace Callables

variable (callables : Callables Step Observation)

/-- The iterations that follow, from the calls made and the observation in hand. -/
abbrev Rest (Step Observation : Type) :=
  List (Call Step Observation) → Option Observation → SyncRun Step Observation

/-- `observation = execute(step)`, with the call made. -/
def executed (rest : Rest Step Observation) (calls : List (Call Step Observation)) :
    Except Fault Observation → SyncRun Step Observation
  | .error _ => ⟨calls, none⟩
  | .ok observation => rest calls (some observation)

def execution (rest : Rest Step Observation) (step : Step) (calls : List (Call Step Observation)) :
    SyncRun Step Observation :=
  let calls := calls ++ [.execute step]
  executed rest calls (callables.execute calls step)

/-- From the answer of the budget to the end of the iteration. -/
def consumed (rest : Rest Step Observation) (stepNumber : Nat) (step : Step)
    (calls : List (Call Step Observation)) (observation : Option Observation) :
    Except Fault BudgetAnswer → SyncRun Step Observation
  | .error _ => ⟨calls, none⟩
  | .ok answer =>
    match answer.allowed.get with
    | none => ⟨calls, none⟩
    | some true => callables.execution rest step calls
    | some false => .refused .budgetExhausted answer.reasonCode.get calls observation stepNumber

def consumption (rest : Rest Step Observation) (stepNumber : Nat) (step : Step)
    (calls : List (Call Step Observation)) (observation : Option Observation) :
    SyncRun Step Observation :=
  let calls := calls ++ [.consume]
  callables.consumed rest stepNumber step calls observation (callables.consume calls)

/-- From the answer of the policy on. -/
def decided (rest : Rest Step Observation) (stepNumber : Nat) (step : Step)
    (calls : List (Call Step Observation)) (observation : Option Observation) :
    Except Fault Decision → SyncRun Step Observation
  | .error _ => ⟨calls, none⟩
  | .ok decision =>
    match decision.isAllowed with
    | none => ⟨calls, none⟩
    | some true => callables.consumption rest stepNumber step calls observation
    | some false => .refused .denied decision.reason? calls observation stepNumber

def authorization (rest : Rest Step Observation) (stepNumber : Nat) (step : Step)
    (calls : List (Call Step Observation)) (observation : Option Observation) :
    SyncRun Step Observation :=
  let calls := calls ++ [.authorize step]
  callables.decided rest stepNumber step calls observation (callables.authorize calls step)

/-- From the answer of the planner on. -/
def planned (rest : Rest Step Observation) (stepNumber : Nat) (calls : List (Call Step Observation))
    (observation : Option Observation) : Except Fault (Option Step) → SyncRun Step Observation
  | .error _ => ⟨calls, none⟩
  | .ok none => ⟨calls, some ⟨.complete, observation, none, stepNumber - 1⟩⟩
  | .ok (some step) => callables.authorization rest stepNumber step calls observation

/-- The `for` with `remaining` of its `maxSteps` iterations to go. -/
def iterate (maxSteps : Nat) : Nat → Rest Step Observation
  | 0, calls, observation =>
    ⟨calls, some ⟨.stepLimitReached, observation, some (some "MAX_STEPS_REACHED"), maxSteps⟩⟩
  | remaining + 1, calls, observation =>
    let called := calls ++ [.plan observation]
    callables.planned (iterate maxSteps remaining) (maxSteps - remaining) called observation
      (callables.planner called observation)

/-- `run_agent_loop`. -/
def runAgentLoop (maxSteps : Int) : SyncRun Step Observation :=
  if maxSteps < 1 then ⟨[], some ⟨.denied, none, some (some "INVALID_MAX_STEPS"), 0⟩⟩
  else callables.iterate maxSteps.toNat maxSteps.toNat [] none

/-! ### The calls of a run go on -/

/-- The iterations that follow make further calls only. -/
def Extends (rest : Rest Step Observation) : Prop :=
  ∀ calls observation, calls <+: (rest calls observation).calls

variable {callables} {rest : Rest Step Observation} {stepNumber : Nat} {step : Step}
  {calls : List (Call Step Observation)} {observation : Option Observation}

theorem extends_executed (extending : Extends rest) (answer : Except Fault Observation) :
    calls <+: (executed rest calls answer).calls := by
  cases answer with
  | error fault => exact List.prefix_rfl
  | ok observation => exact extending calls (some observation)

theorem extends_execution (extending : Extends rest) :
    calls <+: (callables.execution rest step calls).calls :=
  (List.prefix_append _ _).trans (extends_executed extending _)

theorem extends_consumed (extending : Extends rest) (answer : Except Fault BudgetAnswer) :
    calls <+: (callables.consumed rest stepNumber step calls observation answer).calls := by
  cases answer with
  | error fault => exact List.prefix_rfl
  | ok answer =>
    simp only [consumed]
    split
    · exact List.prefix_rfl
    · exact extends_execution extending
    · exact List.prefix_rfl

theorem extends_consumption (extending : Extends rest) :
    calls <+: (callables.consumption rest stepNumber step calls observation).calls :=
  (List.prefix_append _ _).trans (extends_consumed extending _)

theorem extends_decided (extending : Extends rest) (answer : Except Fault Decision) :
    calls <+: (callables.decided rest stepNumber step calls observation answer).calls := by
  cases answer with
  | error fault => exact List.prefix_rfl
  | ok decision =>
    simp only [decided]
    split
    · exact List.prefix_rfl
    · exact extends_consumption extending
    · exact List.prefix_rfl

theorem extends_authorization (extending : Extends rest) :
    calls <+: (callables.authorization rest stepNumber step calls observation).calls :=
  (List.prefix_append _ _).trans (extends_decided extending _)

theorem extends_planned (extending : Extends rest) (answer : Except Fault (Option Step)) :
    calls <+: (callables.planned rest stepNumber calls observation answer).calls := by
  cases answer with
  | error fault => exact List.prefix_rfl
  | ok step =>
    cases step with
    | none => exact List.prefix_rfl
    | some step => exact extends_authorization extending

theorem extends_iterate (maxSteps remaining : Nat) : Extends (callables.iterate maxSteps remaining) := by
  induction remaining with
  | zero => exact fun _ _ => List.prefix_rfl
  | succ remaining inductionHypothesis =>
    exact fun _ _ => (List.prefix_append _ _).trans (extends_planned inductionHypothesis _)

end Callables

/-! ## The bounded loop, driven by the same callables -/

/-- What happens to the bounded loop.  `answered` is the answer of what it has called, `struck`
the timeout of the `wait_for` around it. -/
inductive Turn where
  | tick (now : ℚ)
  | proceed
  | recorded
  | recordFailed (stored : Bool)
  | cancelled (stored : Bool)
  | struck
  | deferred
  | answered
  deriving DecidableEq, Repr

/-- The loop and the calls that it has made. -/
structure DrivenLoop (Step Observation : Type) where
  loop : AgentLoop Step Observation
  calls : List (Call Step Observation)
  deriving DecidableEq

namespace DrivenLoop

variable (run : AgentRun Step Observation) (callables : Callables Step Observation)

def begin (started : ℚ) : DrivenLoop Step Observation := ⟨run.begin started, []⟩

def signalOf {Answer : Type} (answered : Answer → Signal Step Observation) :
    Except Fault Answer → Signal Step Observation
  | .error fault => .raised fault
  | .ok answer => answered answer

/-- What the callable that is under way answers. -/
def answer? (state : DrivenLoop Step Observation) : Option (Signal Step Observation) :=
  match state.loop.point with
  | .awaiting .planner _ => some (signalOf .planned (callables.planner state.calls state.loop.observation))
  | .awaiting (.policy step) _ => some (signalOf .decided (callables.authorize state.calls step))
  | .consuming _ => some (signalOf .consumed (callables.consume state.calls))
  | .executing step _ => some (signalOf .executed (callables.execute state.calls step))
  | _ => none

/-- `budget.consume()` is under no timeout. -/
def strike? (state : DrivenLoop Step Observation) : Option (Signal Step Observation) :=
  match state.loop.point with
  | .awaiting _ _ | .executing _ _ => some (.raised .timeout)
  | _ => none

def signal? (state : DrivenLoop Step Observation) : Turn → Option (Signal Step Observation)
  | .tick now => some (.tick now)
  | .proceed => some .proceed
  | .recorded => some .recorded
  | .recordFailed stored => some (.recordFailed stored)
  | .cancelled stored => some (.cancelled stored)
  | .struck => state.strike?
  | .deferred => some .deferred
  | .answered => state.answer? callables

/-- The call that the loop has come to.  An awaitable that a callable returned is awaited
without another call. -/
def calling (loop : AgentLoop Step Observation) : Option (Call Step Observation) :=
  match loop.point with
  | .awaiting .planner false => some (.plan loop.observation)
  | .awaiting (.policy step) false => some (.authorize step)
  | .consuming _ => some .consume
  | .executing step _ => some (.execute step)
  | _ => none

/-- A call begins where the loop goes on by itself. -/
def begun (next : AgentLoop Step Observation) : Turn → Option (Call Step Observation)
  | .proceed | .recorded => calling next
  | _ => none

def step (state : DrivenLoop Step Observation) (turn : Turn) : Option (DrivenLoop Step Observation) := do
  let signal ← state.signal? callables turn
  let next ← run.step state.loop signal
  return ⟨next, state.calls ++ (begun next turn).toList⟩

end DrivenLoop

/-! ## Where the outcomes agree -/

/-- What was called last raises a `TimeoutError` of its own.  That of the budget is not caught. -/
def Callables.RaisesTimeout (callables : Callables Step Observation) (calls : List (Call Step Observation)) :
    Prop :=
  (∃ observation, [.plan observation] <:+ calls ∧ callables.planner calls observation = .error .timeout) ∨
    (∃ step, [.authorize step] <:+ calls ∧ callables.authorize calls step = .error .timeout) ∨
    ∃ step, [.execute step] <:+ calls ∧ callables.execute calls step = .error .timeout

/-- Turns after which a deadline may have struck. -/
def Turn.Hurries (deadline : ℚ) : Turn → Prop
  | .struck => True
  | .tick now => deadline ≤ now
  | _ => False

/-- What can make a run time out: one of its turns, or a callable of the plain loop that raises a
`TimeoutError` of its own. -/
inductive Hurried (run : AgentRun Step Observation) (callables : Callables Step Observation) (started : ℚ)
    (turns : List Turn) : Prop where
  | turn (turn : Turn) (mem : turn ∈ turns) (hurries : turn.Hurries (started + run.limits.timeoutSeconds))
  | raised (calls : List (Call Step Observation))
      (made : calls <+: (callables.runAgentLoop run.limits.maxDepth).calls)
      (raises : callables.RaisesTimeout calls)

/-- The outcome of the bounded loop, next to the run of the plain one.  Reason codes are
reduced to `[A-Z0-9_]`, and an iteration that was refused is not counted. -/
inductive Agrees (run : AgentRun Step Observation) (hurried : Prop) (plain : SyncRun Step Observation)
    (calls : List (Call Step Observation)) (outcome : LoopOutcome Observation) : Prop where
  | complete (status : outcome.status = .complete) (reason : outcome.reasonCode = none)
      (same : plain = ⟨calls, some ⟨.complete, outcome.observation, none, outcome.steps⟩⟩)
  | depthLimit (status : outcome.status = .depthLimitReached)
      (reason : outcome.reasonCode = some "MAX_DEPTH_REACHED")
      (same : plain = ⟨calls,
        some ⟨.stepLimitReached, outcome.observation, some (some "MAX_STEPS_REACHED"), outcome.steps⟩⟩)
  | denied (rendered : Rendered) (status : outcome.status = .denied)
      (reason : outcome.reasonCode = run.reasonCode rendered)
      (same : plain = ⟨calls, some ⟨.denied, outcome.observation, some rendered, outcome.steps + 1⟩⟩)
  | exhausted (rendered : Rendered) (reason : outcome.reasonCode = run.reasonCode rendered)
      (status : outcome.status =
        if outcome.reasonCode = some "TIME_BUDGET_EXHAUSTED" then .timeout else .budgetExhausted)
      (same : plain =
        ⟨calls, some ⟨.budgetExhausted, outcome.observation, some rendered, outcome.steps + 1⟩⟩)
  /-- The bounded loop wants an executor that can be cancelled. -/
  | uncancellable (executor : run.asyncExecute = false) (status : outcome.status = .denied)
      (reason : outcome.reasonCode = some "NON_CANCELLABLE_EXECUTOR") (idle : calls = [])
  /-- Where the bounded loop reports a failure, the plain one lets the exception escape. -/
  | failed (status : outcome.status = .failed)
      (reason : outcome.reasonCode = some (PythonStr.ofText "PLANNER_FAILED") ∨
        outcome.reasonCode = some (PythonStr.ofText "AUTHORIZATION_FAILED") ∨
        outcome.reasonCode = some (PythonStr.ofText "TOOL_FAILED"))
      (same : plain = ⟨calls, none⟩)
  /-- The only outcome that the plain loop need not have: a deadline struck before. -/
  | overdue (cause : hurried) (status : outcome.status = .timeout)
      (reason : outcome.reasonCode = some (PythonStr.ofText "RUN_DEADLINE_EXCEEDED") ∨
        outcome.reasonCode = some (PythonStr.ofText "TOOL_TIMEOUT"))

/-! ## The invariant -/

section Invariant

variable (run : AgentRun Step Observation) (callables : Callables Step Observation) (hurried : Prop)

/-- The plain loop under the limit of the bounded one. -/
def plainRun : SyncRun Step Observation := callables.runAgentLoop run.limits.maxDepth

/-- The iterations after the one that the bounded loop is in. -/
def following (loop : AgentLoop Step Observation) : Callables.Rest Step Observation :=
  callables.iterate run.limits.maxDepth (run.limits.maxDepth - (loop.depth + 1))

/-- The plain loop is about to start an iteration, or to find none left. -/
def Starts (loop : AgentLoop Step Observation) (calls : List (Call Step Observation)) : Prop :=
  plainRun run callables =
    callables.iterate run.limits.maxDepth (run.limits.maxDepth - loop.depth) calls loop.observation

/-- The calls are the first ones of the plain loop, and the outcome agrees with its own. -/
structure Settled (calls : List (Call Step Observation)) (outcome : LoopOutcome Observation) : Prop where
  made : calls <+: (plainRun run callables).calls
  agrees : Agrees run hurried (plainRun run callables) calls outcome

/-- The status of a run whose budget refuses. -/
def refusal (reason : PythonStr) : LoopStatus :=
  if reason = PythonStr.ofText "TIME_BUDGET_EXHAUSTED" then .timeout else .budgetExhausted

/-- Where the plain loop is when the bounded one waits for an audit write. -/
def FollowsWrite (loop : AgentLoop Step Observation) (calls : List (Call Step Observation)) :
    Resume Step Observation → Prop
  | .runStarted => calls = [] ∧ Starts run callables loop calls ∧ loop.depth ≤ run.limits.maxDepth
  | .observationReceived => Starts run callables loop calls ∧ loop.depth ≤ run.limits.maxDepth
  | .plannerDecided step => plainRun run callables =
      callables.planned (following run callables loop) (loop.depth + 1) calls loop.observation (.ok step)
  | .toolSelected step => plainRun run callables =
      callables.authorization (following run callables loop) (loop.depth + 1) step calls loop.observation
  | .authorizationDecided step true _ => plainRun run callables =
      callables.consumption (following run callables loop) (loop.depth + 1) step calls loop.observation
  | .authorizationDecided _ false reason =>
    Settled run callables hurried calls (loop.terminal run .denied (some reason) loop.observation)
  | .budgetDecided step true _ | .executionStarted step _ => plainRun run callables =
      callables.execution (following run callables loop) step calls
  | .budgetDecided _ false reason =>
    Settled run callables hurried calls (loop.terminal run (refusal reason) (some reason) loop.observation)
  | .executionCompleted _ => loop.depth < run.limits.maxDepth ∧
      plainRun run callables = following run callables loop calls loop.observation
  | .failed outcome | .finished outcome => Settled run callables hurried calls outcome
  | .cancelled _ | .reraised _ => calls <+: (plainRun run callables).calls

/-- Where the plain loop is at each point of the bounded one. -/
def Follows (loop : AgentLoop Step Observation) (calls : List (Call Step Observation)) : Prop :=
  match loop.point with
  | .recording _ resume => FollowsWrite run callables hurried loop calls resume
  | .looping | .invoking .planner false => Starts run callables loop calls
  | .invoking .planner true | .awaiting .planner _ => [.plan loop.observation] <:+ calls ∧
      plainRun run callables = callables.planned (following run callables loop) (loop.depth + 1) calls
        loop.observation (callables.planner calls loop.observation)
  | .invoking (.policy step) false => plainRun run callables =
      callables.authorization (following run callables loop) (loop.depth + 1) step calls loop.observation
  | .invoking (.policy step) true | .awaiting (.policy step) _ => [.authorize step] <:+ calls ∧
      plainRun run callables = callables.decided (following run callables loop) (loop.depth + 1) step calls
        loop.observation (callables.authorize calls step)
  | .consuming step => plainRun run callables =
      callables.consumed (following run callables loop) (loop.depth + 1) step calls loop.observation
        (callables.consume calls)
  | .measuring step => plainRun run callables =
      callables.execution (following run callables loop) step calls
  | .executing step _ => [.execute step] <:+ calls ∧ plainRun run callables =
      Callables.executed (following run callables loop) calls (callables.execute calls step)
  | .toolTimedOut _ => hurried ∧ calls <+: (plainRun run callables).calls
  | .ended (.returned outcome) => Settled run callables hurried calls outcome
  | .ended _ => calls <+: (plainRun run callables).calls

variable {run callables hurried} {loop next : AgentLoop Step Observation}
  {calls : List (Call Step Observation)} {outcome : LoopOutcome Observation}

theorem extends_following : Callables.Extends (following run callables loop) :=
  Callables.extends_iterate _ _

/-- The first call of an iteration asks the planner. -/
theorem Starts.planning (starts : Starts run callables loop calls)
    (below : loop.depth < run.limits.maxDepth) :
    plainRun run callables =
      callables.planned (following run callables loop) (loop.depth + 1) (calls ++ [.plan loop.observation])
        loop.observation (callables.planner (calls ++ [.plan loop.observation]) loop.observation) := by
  have remaining : run.limits.maxDepth - loop.depth = run.limits.maxDepth - (loop.depth + 1) + 1 := by omega
  have number : run.limits.maxDepth - (run.limits.maxDepth - (loop.depth + 1)) = loop.depth + 1 := by omega
  rw [starts, remaining, Callables.iterate, number]
  rfl

/-- An outcome of the plain loop that the bounded one shares. -/
theorem settled_of_same {result : Option (SyncOutcome Observation)}
    (same : plainRun run callables = ⟨calls, result⟩)
    (agrees : Agrees run hurried (plainRun run callables) calls outcome) : Settled run callables hurried calls outcome :=
  ⟨by simp [same], agrees⟩

theorem FollowsWrite.made {resume : Resume Step Observation}
    (follows : FollowsWrite run callables hurried loop calls resume) : calls <+: (plainRun run callables).calls := by
  have following := @extends_following _ _ run callables loop
  cases resume with
  | runStarted => exact follows.2.1 ▸ Callables.extends_iterate _ _ _ _
  | observationReceived => exact follows.1 ▸ Callables.extends_iterate _ _ _ _
  | plannerDecided step => exact follows ▸ Callables.extends_planned following _
  | toolSelected step => exact follows ▸ Callables.extends_authorization following
  | authorizationDecided step allowed reason =>
    cases allowed with
    | false => exact Settled.made follows
    | true => exact follows ▸ Callables.extends_consumption following
  | budgetDecided step allowed reason =>
    cases allowed with
    | false => exact Settled.made follows
    | true => exact follows ▸ Callables.extends_execution following
  | executionStarted step timeout => exact follows ▸ Callables.extends_execution following
  | executionCompleted observation => exact follows.2 ▸ following _ _
  | failed outcome => exact Settled.made follows
  | finished outcome => exact Settled.made follows
  | cancelled outcome => exact follows
  | reraised outcome => exact follows

/-- The calls that the bounded loop has made are the first ones of the plain loop. -/
theorem Follows.made (follows : Follows run callables hurried loop calls) :
    calls <+: (plainRun run callables).calls := by
  have following := @extends_following _ _ run callables loop
  rw [Follows] at follows
  split at follows
  next => exact follows.made
  next => exact follows ▸ Callables.extends_iterate _ _ _ _
  next => exact follows ▸ Callables.extends_iterate _ _ _ _
  next => exact follows.2 ▸ Callables.extends_planned following _
  next => exact follows.2 ▸ Callables.extends_planned following _
  next => exact follows ▸ Callables.extends_authorization following
  next => exact follows.2 ▸ Callables.extends_decided following _
  next => exact follows.2 ▸ Callables.extends_decided following _
  next => exact follows ▸ Callables.extends_consumed following _
  next => exact follows ▸ Callables.extends_execution following
  next => exact follows.2 ▸ Callables.extends_executed following _
  next => exact follows.2
  next => exact Settled.made follows
  next => exact follows

/-! ## What a step keeps -/

open DrivenLoop

/-- The loop follows after the calls that it has come to. -/
def FollowsOn (run : AgentRun Step Observation) (callables : Callables Step Observation) (hurried : Prop)
    (loop : AgentLoop Step Observation) (calls : List (Call Step Observation)) : Prop :=
  Follows run callables hurried loop (calls ++ (calling loop).toList)

/-- Between two calls. -/
theorem FollowsOn.of_follows (idle : calling loop = none) (follows : Follows run callables hurried loop calls) :
    FollowsOn run callables hurried loop calls := by
  simpa [FollowsOn, idle] using follows

theorem follows_escape (made : calls <+: (plainRun run callables).calls) :
    Follows run callables hurried loop.escape calls := made

theorem follows_finish (settled : Settled run callables hurried calls outcome) :
    Follows run callables hurried (loop.finish outcome) calls := settled

theorem follows_awaitBuilt {event : Option AgentEvent} {resume : Resume Step Observation}
    (follows : FollowsWrite run callables hurried loop calls resume) :
    Follows run callables hurried (loop.awaitBuilt event resume) calls := by
  cases event with
  | none => exact follows_escape follows.made
  | some event => exact follows

theorem calling_awaitBuilt {event : Option AgentEvent} {resume : Resume Step Observation} :
    calling (loop.awaitBuilt event resume) = none := by
  cases event <;> rfl

/-- Where a deadline has struck. -/
theorem settled_overdue {reason : PythonStr} {observation : Option Observation} (cause : hurried)
    (made : calls <+: (plainRun run callables).calls)
    (known : reason = PythonStr.ofText "RUN_DEADLINE_EXCEEDED" ∨ reason = PythonStr.ofText "TOOL_TIMEOUT") :
    Settled run callables hurried calls (loop.terminal run .timeout (some reason) observation) :=
  ⟨made, .overdue cause rfl (known.imp (congrArg some) (congrArg some))⟩

theorem follows_invocationTimedOut {invocation : Invocation Step} (cause : hurried)
    (made : calls <+: (plainRun run callables).calls) :
    Follows run callables hurried (loop.invocationTimedOut run invocation) calls :=
  settled_overdue cause made (.inl rfl)

/-- The test of the `while` and the range of the `for` end at the same iteration. -/
theorem followsOn_iterate (starts : Starts run callables loop calls)
    (within : loop.depth ≤ run.limits.maxDepth) :
    FollowsOn run callables hurried (loop.iterate run) calls := by
  rw [AgentLoop.iterate]
  split
  next below => exact .of_follows rfl starts
  next spent =>
    have deepest : loop.depth = run.limits.maxDepth := by omega
    have same : plainRun run callables = ⟨calls,
        some ⟨.stepLimitReached, loop.observation, some (some "MAX_STEPS_REACHED"), loop.depth⟩⟩ := by
      rw [starts, deepest, Nat.sub_self]
      rfl
    exact .of_follows rfl (settled_of_same same (.depthLimit rfl rfl same))

/-- The code from an audit write to the next await. -/
theorem followsOn_resume {resume : Resume Step Observation}
    (follows : FollowsWrite run callables hurried loop calls resume) :
    FollowsOn run callables hurried (loop.resume run resume) calls := by
  cases resume with
  | runStarted =>
    obtain ⟨idle, starts, within⟩ := follows
    rw [AgentLoop.resume]
    split
    next => exact followsOn_iterate starts within
    next fixed =>
      refine .of_follows rfl ⟨by simp [idle], .uncancellable ?_ rfl rfl idle⟩
      simpa using fixed
  | observationReceived => exact followsOn_iterate follows.1 follows.2
  | plannerDecided step =>
    cases step with
    | none =>
      have same : plainRun run callables = ⟨calls, some ⟨.complete, loop.observation, none, loop.depth⟩⟩ :=
        follows
      exact .of_follows rfl (settled_of_same same (.complete rfl rfl same))
    | some step =>
      have follows : FollowsWrite run callables hurried loop calls (.toolSelected step) := follows
      exact .of_follows calling_awaitBuilt (follows_awaitBuilt follows)
  | toolSelected step => exact .of_follows rfl follows
  | authorizationDecided step allowed reason =>
    cases allowed with
    | false => exact .of_follows rfl (follows_finish follows)
    | true => exact follows
  | budgetDecided step allowed reason =>
    cases allowed with
    | false => exact .of_follows rfl (follows_finish follows)
    | true => exact .of_follows rfl follows
  | executionStarted step timeout => exact ⟨List.suffix_append _ _, follows⟩
  | executionCompleted observation =>
    obtain ⟨below, same⟩ := follows
    have starts :
        FollowsWrite run callables hurried { loop with depth := loop.depth + 1 } calls .observationReceived :=
      ⟨same, below⟩
    exact .of_follows calling_awaitBuilt (follows_awaitBuilt starts)
  | failed outcome => exact .of_follows rfl (follows_finish follows)
  | cancelled outcome => exact .of_follows rfl follows
  | finished outcome => exact .of_follows rfl follows
  | reraised outcome => exact .of_follows rfl follows

/-- The loop that goes on from a clock reading. -/
theorem followsOn_proceed (follows : Follows run callables hurried loop calls) (within : loop.Within run)
    (timed : loop.deadline run ≤ loop.now → hurried) (stepped : loop.proceed run = some next) :
    FollowsOn run callables hurried next calls := by
  have made := follows.made
  rw [AgentLoop.proceed] at stepped
  split at stepped
  next point =>
    split at stepped <;> cases stepped
    next late => exact .of_follows rfl (follows_finish (settled_overdue (timed late) made (.inl rfl)))
    next early =>
      simp only [Follows, point] at follows
      exact .of_follows rfl follows
  next invocation nested point =>
    split at stepped <;> cases stepped
    next late => exact .of_follows rfl (follows_invocationTimedOut (timed (sub_nonpos.mp late)) made)
    next early =>
      simp only [Follows, point] at follows
      cases invocation with
      | planner =>
        cases nested with
        | false =>
          have below := within (by simp [AgentLoop.iterating, point])
          exact ⟨List.suffix_append _ _, Starts.planning follows below⟩
        | true => exact .of_follows rfl follows
      | policy step =>
        cases nested with
        | false => exact ⟨List.suffix_append _ _, follows⟩
        | true => exact .of_follows rfl follows
  next step point =>
    dsimp only at stepped
    split at stepped <;> cases stepped
    next late =>
      exact .of_follows rfl (follows_finish (settled_overdue (timed (sub_nonpos.mp late)) made (.inl rfl)))
    next early =>
      simp only [Follows, point] at follows
      exact .of_follows calling_awaitBuilt (follows_awaitBuilt follows)
  next step point =>
    cases stepped
    simp only [Follows, point] at follows
    -- the clock tells which deadline struck the tool
    refine .of_follows calling_awaitBuilt (follows_awaitBuilt (settled_overdue follows.1 made ?_))
    split
    · exact .inl rfl
    · exact .inr rfl
  next => cases stepped

/-- A cancellation, which leaves the plain loop where it is. -/
theorem follows_cancel {stored : Bool} (follows : Follows run callables hurried loop calls)
    (stepped : loop.cancel run stored = some next) : Follows run callables hurried next calls := by
  have made := follows.made
  cases AgentRun.moves_of_cancel stepped with
  | writeCancelled point => exact made
  | invocationCancelled point => exact made
  | toolCancelled point => exact follows_awaitBuilt made

/-- A timeout that strikes what the loop awaits. -/
theorem follows_struck (follows : Follows run callables hurried loop calls) (cause : hurried)
    (awaited : ∀ step, loop.point ≠ .consuming step) (stepped : loop.fail run .timeout = some next) :
    Follows run callables hurried next calls := by
  have made := follows.made
  cases AgentRun.moves_of_fail stepped with
  | invocationTimedOut point => exact follows_invocationTimedOut cause made
  | consumeRaised point => exact absurd point (awaited _)
  | toolTimedOut point => exact ⟨cause, made⟩

/-- The callable raises, and the plain loop lets it escape. -/
theorem follows_raised {fault : Fault} (escapes : plainRun run callables = ⟨calls, none⟩)
    (cause : fault = .timeout → (∀ step, loop.point ≠ .consuming step) → hurried)
    (stepped : loop.fail run fault = some next) : Follows run callables hurried next calls := by
  have made : calls <+: (plainRun run callables).calls := by simp [escapes]
  cases AgentRun.moves_of_fail stepped with
  | invocationTimedOut point => exact follows_invocationTimedOut (cause rfl (by simp [point])) made
  | @invocationFailed invocation nested point =>
    cases invocation with
    | planner => exact settled_of_same escapes (.failed rfl (.inl rfl) escapes)
    | policy step => exact settled_of_same escapes (.failed rfl (.inr (.inl rfl)) escapes)
  | invocationExits point => exact follows_escape made
  | consumeRaised point => exact follows_escape made
  | toolTimedOut point => exact ⟨cause rfl (by simp [point]), made⟩
  | toolFailed point =>
    exact follows_awaitBuilt (settled_of_same escapes (.failed rfl (.inr (.inr rfl)) escapes))
  | toolExits point => exact follows_escape made

/-- The reason that the bounded loop gives is the reduced one of the plain loop. -/
theorem AgentRun.decisionReason_eq_some {decision : Decision} {reason : PythonStr}
    (reduced : run.decisionReason decision = some reason) :
    ∃ rendered, decision.reason? = some rendered ∧ run.reasonCode rendered = some reason := by
  unfold AgentRun.decisionReason at reduced
  unfold Decision.reason?
  cases read : decision.reasonCode with
  | absent =>
    rw [read] at reduced
    exact ⟨_, rfl, reduced⟩
  | value rendered =>
    rw [read] at reduced
    exact ⟨_, rfl, reduced⟩
  | raises =>
    rw [read] at reduced
    cases reduced

theorem follows_decide {step : Step} {decision : Decision}
    (decided : plainRun run callables = callables.decided (following run callables loop) (loop.depth + 1) step
      calls loop.observation (.ok decision)) :
    Follows run callables hurried (loop.decide run step decision) calls := by
  have made : calls <+: (plainRun run callables).calls :=
    decided ▸ Callables.extends_decided extends_following _
  unfold AgentLoop.decide
  split
  next reason allowed reduced isAllowed =>
    rw [Callables.decided, isAllowed] at decided
    cases allowed with
    | true => exact decided
    | false =>
      obtain ⟨rendered, read, reasonIs⟩ := AgentRun.decisionReason_eq_some reduced
      rw [read] at decided
      exact settled_of_same decided (.denied rendered rfl reasonIs.symm decided)
  next => exact follows_escape made

theorem follows_consume {step : Step} {answer : BudgetAnswer}
    (consumed : plainRun run callables = callables.consumed (following run callables loop) (loop.depth + 1) step
      calls loop.observation (.ok answer)) :
    Follows run callables hurried (loop.consume run step answer) calls := by
  have made : calls <+: (plainRun run callables).calls :=
    consumed ▸ Callables.extends_consumed extends_following _
  unfold AgentLoop.consume
  split
  next reason allowed remaining reduced isAllowed _ =>
    rw [Callables.consumed, isAllowed] at consumed
    cases allowed with
    | true => exact consumed
    | false =>
      obtain ⟨rendered, read, reasonIs⟩ := Option.bind_eq_some_iff.mp reduced
      rw [read] at consumed
      refine settled_of_same consumed (.exhausted rendered reasonIs.symm ?_ consumed)
      simp [refusal, AgentLoop.terminal]
  next => exact follows_escape made

theorem signalOf_cases {Answer : Type} {answered : Answer → Signal Step Observation}
    {result : Except Fault Answer} {signal : Signal Step Observation} (same : signalOf answered result = signal) :
    (∃ fault, result = .error fault ∧ signal = .raised fault) ∨
      ∃ answer, result = .ok answer ∧ signal = answered answer := by
  cases result with
  | error fault => exact .inl ⟨fault, rfl, same.symm⟩
  | ok answer => exact .inr ⟨answer, rfl, same.symm⟩

/-- The answer of what the loop has called. -/
theorem follows_answer {signal : Signal Step Observation} (follows : Follows run callables hurried loop calls)
    (within : loop.Within run) (raises : callables.RaisesTimeout calls → hurried)
    (answered : DrivenLoop.answer? callables ⟨loop, calls⟩ = some signal)
    (stepped : run.step loop signal = some next) : Follows run callables hurried next calls := by
  unfold DrivenLoop.answer? at answered
  dsimp only at answered
  split at answered
  next nested point =>
    simp only [Follows, point] at follows
    obtain ⟨asked, follows⟩ := follows
    rcases signalOf_cases (Option.some.inj answered) with ⟨fault, answer, rfl⟩ | ⟨step, answer, rfl⟩
    · rw [answer] at follows
      exact follows_raised follows (fun timeout _ => raises (.inl ⟨_, asked, timeout ▸ answer⟩)) stepped
    · rw [answer] at follows
      simp only [AgentRun.step, point, Option.some.injEq] at stepped
      subst stepped
      exact follows
  next step nested point =>
    simp only [Follows, point] at follows
    obtain ⟨asked, follows⟩ := follows
    rcases signalOf_cases (Option.some.inj answered) with ⟨fault, answer, rfl⟩ | ⟨decision, answer, rfl⟩
    · rw [answer] at follows
      exact follows_raised follows (fun timeout _ => raises (.inr (.inl ⟨_, asked, timeout ▸ answer⟩))) stepped
    · rw [answer] at follows
      simp only [AgentRun.step, point, Option.some.injEq] at stepped
      subst stepped
      exact follows_decide follows
  next step point =>
    simp only [Follows, point] at follows
    rcases signalOf_cases (Option.some.inj answered) with ⟨fault, answer, rfl⟩ | ⟨decision, answer, rfl⟩
    · rw [answer] at follows
      exact follows_raised follows (fun _ elsewhere => absurd point (elsewhere step)) stepped
    · rw [answer] at follows
      simp only [AgentRun.step, point, Option.some.injEq] at stepped
      subst stepped
      exact follows_consume follows
  next step timeout point =>
    simp only [Follows, point] at follows
    obtain ⟨asked, follows⟩ := follows
    rcases signalOf_cases (Option.some.inj answered) with ⟨fault, answer, rfl⟩ | ⟨observation, answer, rfl⟩
    · rw [answer] at follows
      exact follows_raised follows (fun timeout _ => raises (.inr (.inr ⟨_, asked, timeout ▸ answer⟩))) stepped
    · rw [answer] at follows
      simp only [AgentRun.step, point, Option.some.injEq] at stepped
      subst stepped
      -- the iteration is over
      exact follows_awaitBuilt ⟨within (by simp [AgentLoop.iterating, point]), follows⟩
  next => cases answered

/-- Callables answer, they do not tick. -/
theorem answer?_ne_tick {state : DrivenLoop Step Observation} {now : ℚ} :
    state.answer? callables ≠ some (.tick now) := by
  intro answered
  unfold DrivenLoop.answer? at answered
  split at answered
  case h_5 => cases answered
  all_goals
    obtain ⟨_, _, ticked⟩ | ⟨_, _, ticked⟩ := signalOf_cases (Option.some.inj answered)
    · cases ticked
    · cases ticked

theorem tick_of_signal? {state : DrivenLoop Step Observation} {turn : Turn} {now : ℚ}
    (signalled : state.signal? callables turn = some (.tick now)) : turn = .tick now := by
  cases turn with
  | tick later =>
    cases signalled
    rfl
  | struck =>
    simp only [DrivenLoop.signal?, DrivenLoop.strike?] at signalled
    split at signalled <;> cases signalled
  | answered => exact absurd signalled answer?_ne_tick
  | _ => cases signalled

/-- One turn keeps the place in the plain loop. -/
theorem Follows.step {state after : DrivenLoop Step Observation} {turn : Turn}
    (follows : Follows run callables hurried state.loop state.calls) (within : state.loop.Within run)
    (timed : state.loop.deadline run ≤ state.loop.now → hurried) (struck : turn = .struck → hurried)
    (raises : callables.RaisesTimeout state.calls → hurried)
    (stepped : state.step run callables turn = some after) :
    Follows run callables hurried after.loop after.calls := by
  obtain ⟨signal, signalled, stepped⟩ := Option.bind_eq_some_iff.mp stepped
  obtain ⟨next, moved, same⟩ := Option.bind_eq_some_iff.mp stepped
  obtain rfl := Option.some.inj same
  have made := follows.made
  -- between two calls nothing is added
  have idle : Follows run callables hurried next state.calls → begun next turn = none →
      Follows run callables hurried next (state.calls ++ (begun next turn).toList) := by
    intro kept none
    simpa [none] using kept
  cases turn with
  | tick now =>
    cases signalled
    cases AgentRun.moves_of_step moved with
    | ticked running => exact idle follows rfl
  | proceed =>
    cases signalled
    exact followsOn_proceed follows within timed moved
  | recorded =>
    cases signalled
    cases AgentRun.moves_of_step moved with
    | recorded point =>
      simp only [Follows, point] at follows
      exact @followsOn_resume _ _ run callables hurried _ state.calls _ follows
  | recordFailed stored =>
    cases signalled
    cases AgentRun.moves_of_step moved with
    | writeFailed point => exact idle (follows_escape made) rfl
  | cancelled stored =>
    cases signalled
    exact idle (follows_cancel follows moved) rfl
  | struck =>
    simp only [DrivenLoop.signal?, DrivenLoop.strike?] at signalled
    split at signalled
    next invocation nested point =>
      cases signalled
      exact idle (follows_struck follows (struck rfl) (by simp [point]) moved) rfl
    next step timeout point =>
      cases signalled
      exact idle (follows_struck follows (struck rfl) (by simp [point]) moved) rfl
    next => cases signalled
  | deferred =>
    cases signalled
    cases AgentRun.moves_of_step moved with
    | @deferred invocation point =>
      simp only [Follows, point] at follows
      cases invocation with
      | planner => exact idle follows rfl
      | policy step => exact idle follows rfl
  | answered => exact idle (follows_answer follows within raises signalled moved) rfl

end Invariant

/-! ## Runs -/

section Runs

variable {run : AgentRun Step Observation} {callables : Callables Step Observation} {started : ℚ}
  {turns : List Turn}

/-- What holds along a run, `hurried` being what can make it time out. -/
structure Driven (run : AgentRun Step Observation) (callables : Callables Step Observation) (started : ℚ)
    (hurried : Prop) (state : DrivenLoop Step Observation) : Prop where
  follows : Follows run callables hurried state.loop state.calls
  within : state.loop.Within run
  began : state.loop.started = started
  timed : started + run.limits.timeoutSeconds ≤ state.loop.now → hurried

theorem Driven.begin (run : AgentRun Step Observation) (callables : Callables Step Observation) (started : ℚ)
    (hurried : Prop) : Driven run callables started hurried (DrivenLoop.begin run started) := by
  have depth := run.limits.depth_positive
  have timeout := run.limits.timeout_positive
  refine ⟨⟨rfl, ?_, Nat.zero_le _⟩, fun _ => depth, rfl, fun late => ?_⟩
  · -- the plain loop accepts the limit
    unfold Starts plainRun Callables.runAgentLoop
    rw [if_neg (by omega)]
    rfl
  · simp only [DrivenLoop.begin, AgentRun.begin] at late
    linarith

theorem Driven.step {hurried : Prop} {state after : DrivenLoop Step Observation} {turn : Turn}
    (driven : Driven run callables started hurried state)
    (hurries : turn.Hurries (started + run.limits.timeoutSeconds) → hurried)
    (raises : ∀ calls, calls <+: (plainRun run callables).calls → callables.RaisesTimeout calls → hurried)
    (stepped : state.step run callables turn = some after) : Driven run callables started hurried after := by
  have deadline : state.loop.deadline run = started + run.limits.timeoutSeconds := by
    rw [AgentLoop.deadline, driven.began]
  have follows := driven.follows.step driven.within (by rw [deadline]; exact driven.timed)
    (fun struck => hurries (by rw [struck]; trivial)) (raises _ driven.follows.made) stepped
  obtain ⟨signal, signalled, stepped⟩ := Option.bind_eq_some_iff.mp stepped
  obtain ⟨next, moved, same⟩ := Option.bind_eq_some_iff.mp stepped
  obtain rfl := Option.some.inj same
  have moves := AgentRun.moves_of_step moved
  refine ⟨follows, driven.within.step moves, (AgentLoop.started_step moves).trans driven.began, fun late => ?_⟩
  rcases AgentLoop.now_step moves with ticked | same
  · -- only a tick of the run moves the clock
    subst ticked
    have tick := tick_of_signal? signalled
    subst tick
    exact hurries late
  · exact driven.timed (by rw [← same]; exact late)

/-- A planner that goes on, with what lets it. -/
def eagerCallables : Callables Unit Unit where
  planner _ _ := .ok (some ())
  authorize _ _ := .ok ⟨.value (some "AUTHORIZED"), .value true⟩
  consume _ := .ok ⟨.value (some "BUDGET_GRANTED"), .value true, .value 1⟩
  execute _ _ := .ok ()

/-- One iteration, whose planner is asynchronous. -/
def eagerTurns : List Turn :=
  [.recorded, .tick (1 / 4), .proceed, .proceed, .deferred, .proceed, .answered, .recorded, .recorded, .proceed,
    .answered, .recorded, .answered, .recorded, .tick (1 / 2), .proceed, .recorded, .answered, .recorded,
    .recorded, .recorded]

/-- The bounded loop makes the calls of the plain one and no others, in the same order and with the same
answers.  When it returns, its outcome is that of the plain loop, unless a deadline has struck or the executor
cannot be cancelled; and where it reports a failure the plain loop raises. -/
theorem bounded_loop_agrees {final : DrivenLoop Step Observation}
    (ran : Transition.run (DrivenLoop.step run callables) (DrivenLoop.begin run started) turns = some final) :
    final.calls <+: (callables.runAgentLoop run.limits.maxDepth).calls ∧
      ∀ outcome, final.loop.point = .ended (.returned outcome) →
        Agrees run (Hurried run callables started turns) (callables.runAgentLoop run.limits.maxDepth)
          final.calls outcome := by
  have driven : Driven run callables started (Hurried run callables started turns) final := by
    have every : Transition.Throughout (DrivenLoop.step run callables) (fun _ turn => turn ∈ turns)
        (.begin run started) turns := Transition.throughout_of_mem fun _ mem => mem
    refine Transition.run_invariant_throughout _ ?_ (.begin run callables started _) every ran
    intro state turn next driven mem stepped
    exact driven.step (fun hurries => .turn turn mem hurries) (fun calls made raises => .raised calls made raises)
      stepped
  refine ⟨driven.follows.made, fun outcome ended => ?_⟩
  have settled := driven.follows
  simp only [Follows, ended] at settled
  exact settled.agrees

theorem bounded_loop_agrees_eager :
    ∃ final outcome, Transition.run (DrivenLoop.step oneStepAgent eagerCallables) (.begin oneStepAgent 0)
        eagerTurns = some final ∧
      final.calls = [.plan none, .authorize (), .consume, .execute ()] ∧
      final.loop.point = .ended (.returned outcome) ∧ outcome.status = .depthLimitReached ∧
      final.calls <+: (eagerCallables.runAgentLoop oneStepAgent.limits.maxDepth).calls ∧
      Agrees oneStepAgent (Hurried oneStepAgent eagerCallables 0 eagerTurns)
        (eagerCallables.runAgentLoop oneStepAgent.limits.maxDepth) final.calls outcome := by
  have ends : (Transition.run (DrivenLoop.step oneStepAgent eagerCallables) (.begin oneStepAgent 0)
      eagerTurns).map (fun final => (final.calls, final.loop.point)) =
        some ([.plan none, .authorize (), .consume, .execute ()],
          .ended (.returned ⟨.depthLimitReached, some (), some "MAX_DEPTH_REACHED", 1, ⟨1, 1, 2, 2⟩⟩)) := by
    decide +kernel
  obtain ⟨final, ran, left⟩ := Option.map_eq_some_iff.mp ends
  obtain ⟨calls, ended⟩ := Prod.mk.inj left
  have agrees := bounded_loop_agrees ran
  exact ⟨final, _, ran, calls, ended, rfl, agrees.1, agrees.2 _ ended⟩

end Runs

end Eiraos.Agent
