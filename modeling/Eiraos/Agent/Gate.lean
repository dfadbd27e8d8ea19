import Eiraos.Agent.LoopSteps
import Eiraos.Agent.Runtime
import Eiraos.Foundations.Guarded
import Mathlib.Data.List.Forall2

/-! # The governed tool gate

Whatever the planner, the executors, the audit writer and the clocks do, an executor is
called only for a step that has just gone through every gate of the loop, in order.
-/

namespace Eiraos.Agent

open PythonText

/-! ## The gate of one iteration -/

/-- An event of this kind and outcome, of the iteration at this depth. -/
def AgentEvent.At (event : AgentEvent) (eventType : AgentEventType) (outcome : Option String)
    (depth : Nat) : Prop :=
  event.eventType = eventType ∧ event.outcome = outcome ∧
    ("depth", PayloadValue.count depth) ∈ event.payload

namespace Entry

def Records (eventType : AgentEventType) (outcome : Option String) (depth : Nat) : Entry → Prop
  | .recorded event => event.At eventType outcome depth
  | _ => False

def Authorizes (step : StepObject) : Entry → Prop
  | .authorized other => other = step
  | _ => False

def Grants : Entry → Prop
  | .granted => True
  | _ => False

def isCall : Entry → Bool
  | .called _ => true
  | _ => false

def isGrant : Entry → Bool
  | .granted => true
  | _ => false

end Entry

/-- What has to happen to a step before its tool is called. -/
def gate (depth : Nat) (step : StepObject) : List (Entry → Prop) :=
  [Entry.Records .plannerDecision (some "selected") depth,
    Entry.Records .toolSelected none depth,
    Entry.Authorizes step,
    Entry.Records .authorizationDecision (some "allowed") depth,
    Entry.Grants,
    Entry.Records .budgetDecision (some "allowed") depth,
    Entry.Records .toolExecutionStarted none depth]

/-- The trace ends with the first `passed` of them, and nothing in between. -/
def Passed (trace : List Entry) (depth : Nat) (step : StepObject) (passed : Nat) : Prop :=
  ∃ earlier entries, trace = earlier ++ entries ∧
    List.Forall₂ (fun condition entry => condition entry) ((gate depth step).take passed) entries

variable {trace : List Entry} {depth passed : Nat} {step : StepObject}

theorem passed_none : Passed trace depth step 0 := ⟨trace, [], (List.append_nil _).symm, .nil⟩

theorem Passed.snoc {condition : Entry → Prop} {entry : Entry} (before : Passed trace depth step passed)
    (next : (gate depth step)[passed]? = some condition) (holds : condition entry) :
    Passed (trace ++ [entry]) depth step (passed + 1) := by
  obtain ⟨earlier, entries, rfl, through⟩ := before
  refine ⟨earlier, entries ++ [entry], List.append_assoc .., ?_⟩
  rw [List.take_add_one, next]
  exact List.rel_append through (.cons holds .nil)

/-! ## Permits -/

/-- What the policy has checked when it leaves a permit. -/
structure Permit.Lawful (run : GovernedRun) (step : StepObject) (permit : Permit) : Prop where
  tenant : run.authority.organizationId = run.authority.resourceOrganizationId
  registered : permit.tool ∈ run.runtime.tools
  named : permit.tool.name = step.step.tool
  requested : permit.capability = step.step.capability
  declared : permit.capability ∈ permit.tool.capabilities
  granted : permit.capability ∈ run.authority.allowedCapabilities

theorem authorize_allowed {request : AuthorizationRequest} (allowed : (authorize request).allowed) :
    request.capability ∈ request.tool.capabilities ∧
      request.capability ∈ request.allowedCapabilities := by
  unfold authorize at allowed
  split at allowed
  · cases allowed
  split at allowed
  · cases allowed
  next declared =>
    split at allowed
    · cases allowed
    next granted => exact ⟨not_not.mp declared, not_not.mp granted⟩

/-- The policy allows exactly when it leaves a permit, and then the permit is lawful. -/
theorem policy_allowed {run : GovernedRun}
    (allowed : (run.runtime.policy run.authority step).1.allowed) :
    ∃ permit, (run.runtime.policy run.authority step).2 = some permit ∧
      permit.identity = step.identity ∧ permit.Lawful run step := by
  unfold GovernedAgentRuntime.policy at allowed ⊢
  split at allowed
  · cases allowed
  next tenant =>
    split at allowed
    · cases allowed
    next tool found =>
      obtain ⟨declared, granted⟩ := authorize_allowed allowed
      dsimp only at allowed
      simp only [if_neg tenant, allowed, if_true]
      refine ⟨_, rfl, rfl, ?_⟩
      exact {
        tenant := not_not.mp tenant
        registered := List.mem_of_find?_eq_some found
        named := by simpa using List.find?_some found
        requested := rfl
        declared
        granted }

/-- The permit that `dispatch` would take for the step is a lawful one. -/
def HasPermit (run : GovernedRun) (permits : List Permit) (step : StepObject) : Prop :=
  ∃ permit, permits.find? (fun permit => permit.identity = step.identity) = some permit ∧
    permit.Lawful run step

theorem hasPermit_add {run : GovernedRun} {permits : List Permit} {permit : Permit}
    (same : permit.identity = step.identity) (lawful : permit.Lawful run step) :
    HasPermit run (GovernedAgentRuntime.addPermit permits (some permit)) step := by
  refine ⟨permit, ?_, lawful⟩
  rw [GovernedAgentRuntime.addPermit, List.find?_append]
  have absent : (permits.filter fun other => other.identity ≠ permit.identity).find?
      (fun permit => permit.identity = step.identity) = none := by
    apply List.find?_eq_none.mpr
    intro other mem
    have differs := (List.mem_filter.mp mem).2
    simpa [same] using differs
  rw [absent]
  simp [same]

/-! ## Where a run stands -/

namespace GovernedState

variable (state : GovernedState)

/-- The step of the iteration, and how many conditions of its gate it has passed. -/
def stage : Option (StepObject × Nat) :=
  match state.loop.point with
  | .recording _ resume =>
    match resume with
    | .plannerDecided (some step) => some (step, 0)
    | .toolSelected step => some (step, 1)
    | .authorizationDecided step true _ => some (step, 3)
    | .budgetDecided step true _ => some (step, 5)
    | .executionStarted step _ => some (step, 6)
    | _ => none
  | .invoking (.policy step) _ => some (step, 2)
  | .awaiting (.policy step) _ => some (step, if state.answer.any (·.allowed) then 3 else 2)
  | .consuming step => some (step, 4)
  | .measuring step => some (step, 6)
  | .executing step _ => if state.calling.isSome then none else some (step, 7)
  | _ => none

def calls : Nat := state.trace.countP Entry.isCall

def grants : Nat := state.trace.countP Entry.isGrant

/-- How many calls there can have been: one for each completed iteration, and one more once
the tool of this iteration has been called. -/
def callsAllowed (run : GovernedRun) : Nat :=
  if state.loop.closing then run.limits.maxDepth
  else
    match state.loop.point with
    | .recording _ (.executionCompleted _) => state.loop.depth + 1
    | .executing _ _ => state.loop.depth + if state.calling.isSome then 1 else 0
    | _ => state.loop.depth

end GovernedState

/-- The policy threads and the dispatch keep to the loop: a thread is awaited or too late, an
answer is awaited, and a call belongs to the tool that is executing. -/
structure Threads (run : GovernedRun) (state : GovernedState) : Prop where
  pending : ∀ step, state.pending = some step →
    ((∃ nested, state.loop.point = .awaiting (.policy step) nested) ∧ state.answer = none) ∨
      state.loop.closing = true
  answered : ∀ decision, state.answer = some decision →
    ∃ step nested, state.loop.point = .awaiting (.policy step) nested ∧
      decision = (run.runtime.policy run.authority step).1
  calling : ∀ tool, state.calling = some tool → ∃ step timeout, state.loop.point = .executing step timeout

variable {run : GovernedRun} {state next : GovernedState} {loop : AgentLoop StepObject ToolValue}
  {signal : Signal StepObject ToolValue}

/-- Nothing is under way but in the awaits that the clauses name. -/
theorem Threads.of_idle (pending : state.pending = none ∨ state.loop.closing = true)
    (answer : state.answer = none) (calling : state.calling = none) : Threads run state where
  pending step waits := by
    rcases pending with idle | closing
    · rw [idle] at waits
      cases waits
    · exact .inr closing
  answered decision given := by
    rw [answer] at given
    cases given
  calling tool called := by
    rw [calling] at called
    cases called

/-! ## Threads and calls -/

namespace GovernedState

variable (state) in
theorem follow_closing (closing : loop.closing = true) :
    (state.follow loop).answer = none ∧ (state.follow loop).calling = none := by
  unfold follow
  dsimp only
  constructor
  · split
    next point => simp [AgentLoop.closing, point] at closing
    next => rfl
  · split
    next point => simp [AgentLoop.closing, point] at closing
    next => rfl

theorem stage_closing (closing : state.loop.closing = true) : state.stage = none := by
  unfold AgentLoop.closing at closing
  unfold stage
  split at closing
  next point =>
    split at closing <;> simp_all
  next point => rw [point]
  next point => rw [point]
  next => cases closing

theorem trace_follow (same : loop.events = state.loop.events) :
    (state.follow loop).trace = state.trace := by
  simp [follow, same]

theorem trace_follow_stored {event : AgentEvent} (stored : loop.events = state.loop.events ++ [event]) :
    (state.follow loop).trace = state.trace ++ [.recorded event] := by
  simp [follow, stored]

end GovernedState

theorem Threads.close (closing : loop.closing = true) : Threads run (state.follow loop) := by
  obtain ⟨answer, calling⟩ := GovernedState.follow_closing state closing
  exact .of_idle (.inr closing) answer calling

/-- Away from the awaits of the policy and of the tool nothing is under way. -/
theorem Threads.idle (threads : Threads run state) (running : state.loop.closing = false)
    (unawaited : ∀ step nested, state.loop.point ≠ .awaiting (.policy step) nested) :
    state.pending = none := by
  cases waits : state.pending with
  | none => rfl
  | some step =>
    rcases threads.pending step waits with ⟨⟨nested, point⟩, -⟩ | closing
    · exact absurd point (unawaited step nested)
    · rw [running] at closing
      cases closing

/-- On to a point that is no await of the policy, from one that is none either. -/
theorem Threads.onward (threads : Threads run state) (running : state.loop.closing = false)
    (unawaited : ∀ step nested, state.loop.point ≠ .awaiting (.policy step) nested)
    (elsewhere : ∀ step nested, loop.point ≠ .awaiting (.policy step) nested)
    (unexecuted : ∀ step timeout, state.loop.point ≠ .executing step timeout) :
    Threads run (state.follow loop) := by
  have idle := threads.idle running unawaited
  have unanswered : state.answer = none := by
    cases given : state.answer with
    | none => rfl
    | some decision =>
      obtain ⟨step, nested, point, -⟩ := threads.answered decision given
      exact absurd point (unawaited step nested)
  apply Threads.of_idle
  · left
    simp only [GovernedState.follow]
    split
    next point => exact absurd point (elsewhere _ _)
    next => exact idle
  · simp only [GovernedState.follow]
    split
    next => exact unanswered
    next => rfl
  · simp only [GovernedState.follow]
    split
    next point _ => exact absurd point (unexecuted _ _)
    next => rfl

theorem Threads.follow_tick (threads : Threads run state) (now : ℚ) :
    state.follow { state.loop with now } = { state with loop := { state.loop with now } } := by
  have answer : state.answer = none ∨
      ∃ step nested, state.loop.point = .awaiting (.policy step) nested := by
    cases given : state.answer with
    | none => exact .inl rfl
    | some decision =>
      obtain ⟨step, nested, point, -⟩ := threads.answered decision given
      exact .inr ⟨step, nested, point⟩
  have calling : state.calling = none ∨
      ∃ step timeout, state.loop.point = .executing step timeout := by
    cases called : state.calling with
    | none => exact .inl rfl
    | some tool => exact .inr (threads.calling tool called)
  have untouched : (state.follow { state.loop with now }).trace = state.trace :=
    GovernedState.trace_follow rfl
  cases point : state.loop.point <;> simp_all [GovernedState.follow]

/-- The steps of the loop that neither leave it nor bring an answer of the policy, the budget or
the tool. -/
inductive OwnMove (run : GovernedRun) (loop : AgentLoop StepObject ToolValue) :
    Signal StepObject ToolValue → AgentLoop StepObject ToolValue → Prop where
  | ticked {now} : OwnMove run loop (.tick now) { loop with now }
  | recorded {event resume} (point : loop.point = .recording event resume) :
    OwnMove run loop .recorded ((loop.store event true).resume run.agentRun resume)
  | planning (point : loop.point = .looping) :
    OwnMove run loop .proceed { loop with point := .invoking .planner false }
  | invoked {invocation nested} (point : loop.point = .invoking invocation nested) :
    OwnMove run loop .proceed { loop with point := .awaiting invocation nested }
  | starting {step timeout} (point : loop.point = .measuring step) :
    OwnMove run loop .proceed
      (loop.awaitBuilt (loop.toolEvent run.agentRun step .toolExecutionStarted none none)
        (.executionStarted step timeout))
  | deferred (point : loop.point = .awaiting .planner false) :
    OwnMove run loop .deferred { loop with point := .invoking .planner true }
  | planned {step nested} (point : loop.point = .awaiting .planner nested) :
    OwnMove run loop (.planned step)
      (loop.await (loop.plannerEvent run.agentRun step) (.plannerDecided step))

theorem ownMove (outside : GovernedRun.fromOutside state signal = true)
    (moved : run.agentRun.Moves state.loop signal loop) (onward : loop.closing = false) :
    OwnMove run state.loop signal loop := by
  have left (closing : loop.closing = true) : False := by
    rw [closing] at onward
    cases onward
  cases moved with
  | ticked => exact .ticked
  | recorded point => exact .recorded point
  | planning point early => exact .planning point
  | invoked point early => exact .invoked point
  | starting point early => exact .starting point
  | @deferred invocation point =>
    cases invocation with
    | planner => exact .deferred point
    | policy step => simp [GovernedRun.fromOutside, point] at outside
  | planned point => exact .planned point
  | decided point => cases outside
  | consumed point => cases outside
  | executed point => cases outside
  | toolCancelled point => exact (left (AgentLoop.closing_awaitBuilt fun _ => rfl)).elim
  | toolFailed point => exact (left (AgentLoop.closing_awaitBuilt fun _ => rfl)).elim
  | timeoutClassified point => exact (left (AgentLoop.closing_awaitBuilt fun _ => rfl)).elim
  | invocationFailed point => exact (left AgentLoop.closing_invocationFailed).elim
  | _ => cases onward

/-- The loop's own steps; only the start of a policy thread leaves something pending. -/
theorem Threads.follow (threads : Threads run state)
    (outside : GovernedRun.fromOutside state signal = true)
    (moved : run.agentRun.Moves state.loop signal loop) : Threads run (state.follow loop) := by
  cases onward : loop.closing with
  | true => exact .close onward
  | false =>
    have running := AgentLoop.running_of_step moved onward
    cases ownMove outside moved onward with
    | @ticked now =>
      rw [threads.follow_tick now]
      exact ⟨threads.pending, threads.answered, threads.calling⟩
    | recorded point =>
      exact threads.onward running (by simp [point]) (fun _ _ => AgentLoop.resume_not_awaiting) (by simp [point])
    | planning point => exact threads.onward running (by simp [point]) (by simp) (by simp [point])
    | @invoked invocation nested point =>
      cases invocation with
      | planner => exact threads.onward running (by simp [point]) (by simp) (by simp [point])
      | policy step =>
        exact {
          pending := by simp [GovernedState.follow, point]
          answered := by simp [GovernedState.follow, point]
          calling := by simp [GovernedState.follow, point] }
    | starting point =>
      exact threads.onward running (by simp [point]) (fun _ _ => AgentLoop.awaitBuilt_not_awaiting)
        (by simp [point])
    | deferred point => exact threads.onward running (by simp [point]) (by simp) (by simp [point])
    | planned point => exact threads.onward running (by simp [point]) (by simp) (by simp [point])

/-! ## One step along the gate -/

namespace GovernedState

theorem stage_awaitBuilt {event : Option AgentEvent} {resume : Resume StepObject ToolValue}
    {object : StepObject} {passed : Nat}
    (staged : (state.follow (loop.awaitBuilt event resume)).stage = some (object, passed)) :
    ∃ built, event = some built ∧
      (state.follow (loop.await built resume)).stage = some (object, passed) := by
  cases event with
  | none => cases staged
  | some built => exact ⟨built, rfl, staged⟩

theorem stage_iterate : (state.follow (loop.iterate run.agentRun)).stage = none := by
  rw [AgentLoop.iterate]
  split <;> rfl

end GovernedState

/-- How far the step has come after one of the loop's own steps: as far as before, at the
start of the gate, or past one more event that has just been stored. -/
inductive Advance (state next : GovernedState) (object : StepObject) (passed : Nat) : Prop where
  | same (stage : state.stage = some (object, passed)) (trace : next.trace = state.trace)
  | first (none : passed = 0)
  | past (before : Nat) (event : AgentEvent) (resume : Resume StepObject ToolValue)
    (point : state.loop.point = .recording event resume) (stage : state.stage = some (object, before))
    (more : passed = before + 1) (recorded : before ≠ 2 ∧ before ≠ 4 ∧ before < 7)
    (trace : next.trace = state.trace ++ [.recorded event])

theorem Advance.recorded {event : AgentEvent} {resume : Resume StepObject ToolValue}
    (point : state.loop.point = .recording event resume) {object : StepObject} {passed : Nat}
    (staged : (state.follow ((state.loop.store event true).resume run.agentRun resume)).stage =
      some (object, passed)) :
    Advance state (state.follow ((state.loop.store event true).resume run.agentRun resume))
      object passed := by
  have trace : (state.follow ((state.loop.store event true).resume run.agentRun resume)).trace =
      state.trace ++ [.recorded event] := GovernedState.trace_follow_stored AgentLoop.events_resume
  -- The event that is stored is the one that lets the step past its stage.
  cases resume with
  | runStarted =>
    simp only [AgentLoop.resume] at staged
    split at staged
    · rw [GovernedState.stage_iterate] at staged
      cases staged
    · cases staged
  | plannerDecided step =>
    cases step with
    | none => cases staged
    | some step =>
      obtain ⟨built, -, staged⟩ := GovernedState.stage_awaitBuilt staged
      cases staged
      exact .past 0 event _ point (by simp [GovernedState.stage, point]) rfl (by simp) trace
  | toolSelected step =>
    cases staged
    exact .past 1 event _ point (by simp [GovernedState.stage, point]) rfl (by simp) trace
  | authorizationDecided step allowed reason =>
    cases allowed with
    | false => cases staged
    | true =>
      cases staged
      exact .past 3 event _ point (by simp [GovernedState.stage, point]) rfl (by simp) trace
  | budgetDecided step allowed reason =>
    cases allowed with
    | false => cases staged
    | true =>
      cases staged
      exact .past 5 event _ point (by simp [GovernedState.stage, point]) rfl (by simp) trace
  | executionStarted step timeout =>
    simp [AgentLoop.resume, GovernedState.follow, GovernedState.stage, point] at staged
    obtain ⟨rfl, rfl⟩ := staged
    exact .past 6 event _ point (by simp [GovernedState.stage, point]) rfl (by simp) trace
  | executionCompleted observation =>
    obtain ⟨built, -, staged⟩ := GovernedState.stage_awaitBuilt staged
    cases staged
  | observationReceived =>
    rw [AgentLoop.resume, GovernedState.stage_iterate] at staged
    cases staged
  | failed outcome => cases staged
  | cancelled outcome => cases staged
  | finished outcome => cases staged
  | reraised outcome => cases staged

theorem Advance.follow (threads : Threads run state)
    (outside : GovernedRun.fromOutside state signal = true)
    (moved : run.agentRun.Moves state.loop signal loop) {object : StepObject} {passed : Nat}
    (staged : (state.follow loop).stage = some (object, passed)) :
    Advance state (state.follow loop) object passed := by
  have onward : loop.closing = false := by
    by_contra left
    have closing : (state.follow loop).loop.closing = true := Bool.eq_true_of_not_eq_false left
    rw [GovernedState.stage_closing closing] at staged
    cases staged
  cases ownMove outside moved onward with
  | @ticked now =>
    rw [threads.follow_tick now] at staged ⊢
    exact .same staged rfl
  | recorded point => exact .recorded point staged
  | planning point => cases staged
  | @invoked invocation nested point =>
    cases invocation with
    | planner => cases staged
    | policy step =>
      have before : state.stage = some (object, passed) := by
        simp [GovernedState.follow, GovernedState.stage, point] at staged
        simp [GovernedState.stage, point, staged]
      exact .same before (GovernedState.trace_follow rfl)
  | starting point =>
    obtain ⟨built, -, staged⟩ := GovernedState.stage_awaitBuilt staged
    have before : state.stage = some (object, passed) := by
      cases staged
      simp [GovernedState.stage, point]
    exact .same before (GovernedState.trace_follow AgentLoop.events_awaitBuilt)
  | deferred point => cases staged
  | @planned step nested point =>
    cases step with
    | none => cases staged
    | some step =>
      cases staged
      exact .first rfl

/-! ## The invariant -/

/-- What makes a call of an executor lawful: the permit, the arguments, the binding, and the
gate that the step went through just before. -/
structure ExecutorCall.Gated (run : GovernedRun) (call : ExecutorCall) (before : List Entry) : Prop where
  permit : Permit.Lawful run call.step ⟨call.step.identity, call.tool, call.capability⟩
  bound : (call.tool.name, call.executor) ∈ run.runtime.executors
  requested : call.arguments = call.step.step.arguments
  validated : ToolValue.validateSchema (.object call.arguments) "arguments" call.tool.inputSchema = .ok ()
  passed : ∃ depth, depth < run.limits.maxDepth ∧ Passed before depth call.step 7

/-- The event under way is the one that the gate asks for next. -/
def Written (state : GovernedState) : Prop :=
  ∀ event resume, state.loop.point = .recording event resume →
    ∀ object passed, state.stage = some (object, passed) →
      ∀ condition, (gate state.loop.depth object)[passed]? = some condition → condition (.recorded event)

structure GateInvariant (run : GovernedRun) (executions : Nat) (state : GovernedState) : Prop where
  threads : Threads run state
  within : state.loop.Within run.agentRun
  depth_le : state.loop.depth ≤ run.limits.maxDepth
  written : Written state
  passed : ∀ object passed, state.stage = some (object, passed) →
    Passed state.trace state.loop.depth object passed
  permitted : ∀ object passed, state.stage = some (object, passed) → 3 ≤ passed →
    HasPermit run state.permits object
  granted : ∀ object passed, state.stage = some (object, passed) → 5 ≤ passed →
    state.calls < state.grants
  called : state.calls ≤ state.callsAllowed run
  covered : state.calls ≤ state.grants
  spent : state.grants + state.budget.remaining ≤ executions
  gated : ∀ before call after, state.trace = before ++ .called call :: after → call.Gated run before

theorem callsAllowed_le (within : state.loop.Within run.agentRun)
    (depth_le : state.loop.depth ≤ run.limits.maxDepth) :
    state.callsAllowed run ≤ run.limits.maxDepth := by
  have below (iterating : state.loop.iterating = true) : state.loop.depth < run.limits.maxDepth :=
    within iterating
  unfold GovernedState.callsAllowed
  split
  · exact Nat.le_refl _
  · split
    next point => exact below (by simp [AgentLoop.iterating, point])
    next point =>
      have limit := below (by simp [AgentLoop.iterating, point])
      split <;> omega
    next => exact depth_le

theorem AgentLoop.depth_le_step (within : state.loop.Within run.agentRun)
    (depth_le : state.loop.depth ≤ run.limits.maxDepth)
    (moved : run.agentRun.Moves state.loop signal loop) : loop.depth ≤ run.limits.maxDepth := by
  rcases AgentLoop.depth_step moved with same | ⟨event, observation, point, more⟩
  · omega
  · have below : state.loop.depth < run.limits.maxDepth := within (by simp [AgentLoop.iterating, point])
    omega

/-- Within the gate the depth stays. -/
theorem depth_of_staged {object : StepObject} {passed : Nat}
    (moved : run.agentRun.Moves state.loop signal loop) (staged : state.stage = some (object, passed)) :
    loop.depth = state.loop.depth := by
  rcases AgentLoop.depth_step moved with same | ⟨event, observation, point, -⟩
  · exact same
  · simp [GovernedState.stage, point] at staged

/-- One more entry: if it is a call, the trace so far is what came before it. -/
theorem gated_snoc {trace : List Entry} {entry : Entry}
    (gated : ∀ before call after, trace = before ++ .called call :: after → call.Gated run before)
    (last : ∀ call, entry = .called call → call.Gated run trace) :
    ∀ before call after, trace ++ [entry] = before ++ .called call :: after → call.Gated run before := by
  intro before call after split
  rcases List.eq_nil_or_concat after with rfl | ⟨rest, final, rfl⟩
  · obtain ⟨rfl, same⟩ := List.append_inj' split rfl
    exact last call (List.cons.inj same).1
  · rw [List.concat_eq_append, ← List.cons_append, ← List.append_assoc] at split
    exact gated before call rest (List.append_inj' split rfl).1

/-- Entries that are no calls leave the calls as they are. -/
theorem gated_append {trace entries : List Entry}
    (gated : ∀ before call after, trace = before ++ .called call :: after → call.Gated run before)
    (others : ∀ entry ∈ entries, entry.isCall = false) :
    ∀ before call after, trace ++ entries = before ++ .called call :: after → call.Gated run before := by
  induction entries generalizing trace with
  | nil =>
    rw [List.append_nil]
    exact gated
  | cons entry entries inductionHypothesis =>
    rw [List.append_cons]
    apply inductionHypothesis
    · apply gated_snoc gated
      intro call same
      have other := others entry List.mem_cons_self
      rw [same] at other
      cases other
    · exact fun later mem => others later (List.mem_cons_of_mem _ mem)

theorem countP_append_of_none (trace : List Entry) {entries : List Entry} {counted : Entry → Bool}
    (others : ∀ entry ∈ entries, counted entry = false) :
    (trace ++ entries).countP counted = trace.countP counted := by
  rw [List.countP_append, (List.countP_eq_zero (l := entries)).mpr fun entry mem => by simp [others entry mem]]
  rfl

namespace GovernedState

/-- The loop's own steps add no call and no grant. -/
theorem trace_step (state : GovernedState) (moved : run.agentRun.Moves state.loop signal loop) :
    ∃ entries, (state.follow loop).trace = state.trace ++ entries ∧
      ∀ entry ∈ entries, entry.isCall = false ∧ entry.isGrant = false := by
  rcases AgentLoop.events_step moved with same | ⟨event, more⟩
  · exact ⟨[], by rw [trace_follow same, List.append_nil], by simp⟩
  · exact ⟨[.recorded event], trace_follow_stored more, by simp [Entry.isCall, Entry.isGrant]⟩

theorem calls_follow (moved : run.agentRun.Moves state.loop signal loop) :
    (state.follow loop).calls = state.calls := by
  obtain ⟨entries, trace, others⟩ := state.trace_step moved
  rw [calls, trace]
  exact countP_append_of_none state.trace fun entry mem => (others entry mem).1

theorem grants_follow (moved : run.agentRun.Moves state.loop signal loop) :
    (state.follow loop).grants = state.grants := by
  obtain ⟨entries, trace, others⟩ := state.trace_step moved
  rw [grants, trace]
  exact countP_append_of_none state.trace fun entry mem => (others entry mem).2

end GovernedState

variable (state) in
theorem depth_le_callsAllowed (depth_le : state.loop.depth ≤ run.limits.maxDepth) :
    state.loop.depth ≤ state.callsAllowed run := by
  unfold GovernedState.callsAllowed
  split
  · exact depth_le
  · split <;> omega

/-- Before the tool is called, there has been one call for each completed iteration. -/
theorem callsAllowed_eq (running : state.loop.closing = false)
    (uncompleted : ∀ event observation,
      state.loop.point ≠ .recording event (.executionCompleted observation))
    (unexecuted : ∀ step timeout, state.loop.point ≠ .executing step timeout) :
    state.callsAllowed run = state.loop.depth := by
  unfold GovernedState.callsAllowed
  rw [if_neg (by simp [running])]
  split
  next point => exact absurd point (uncompleted _ _)
  next point => exact absurd point (unexecuted _ _)
  next => rfl

/-- What a call was allowed by stays allowed. -/
theorem callsAllowed_follow (threads : Threads run state) (within : state.loop.Within run.agentRun)
    (depth_le : state.loop.depth ≤ run.limits.maxDepth)
    (outside : GovernedRun.fromOutside state signal = true)
    (moved : run.agentRun.Moves state.loop signal loop) :
    state.callsAllowed run ≤ (state.follow loop).callsAllowed run := by
  cases closing : loop.closing with
  | true =>
    have open_ : (state.follow loop).callsAllowed run = run.limits.maxDepth := if_pos closing
    rw [open_]
    exact callsAllowed_le within depth_le
  | false =>
    have running := AgentLoop.running_of_step moved closing
    have deeper : loop.depth ≤ (state.follow loop).callsAllowed run :=
      depth_le_callsAllowed (state.follow loop)
        (AgentLoop.depth_le_step within depth_le moved)
    rcases AgentLoop.depth_step moved with same | ⟨event, observation, point, more⟩
    · cases ownMove outside moved closing with
      | @ticked now =>
        rw [threads.follow_tick now]
        exact Nat.le_refl _
      | @recorded event resume point =>
        cases resume with
        -- Here the loop goes one deeper, which the case excludes.
        | executionCompleted observation =>
          have more : (AgentLoop.resume run.agentRun (state.loop.store event true)
              (.executionCompleted observation)).depth = state.loop.depth + 1 := by
            rw [AgentLoop.resume, AgentLoop.depth_awaitBuilt]
            exact congrArg (· + 1) AgentLoop.depth_store
          omega
        | _ =>
          rw [callsAllowed_eq running (by simp [point]) (by simp [point]), ← same]
          exact deeper
      | _ =>
        rw [callsAllowed_eq running (by simp_all) (by simp_all), ← same]
        exact deeper
    · have here : state.callsAllowed run = loop.depth := by
        unfold GovernedState.callsAllowed
        rw [if_neg (by simp [running]), point]
        exact more.symm
      rw [here]
      exact deeper

/-! ## What is written on the way -/

theorem toolEvent_at {object : StepObject} {loop : AgentLoop StepObject ToolValue}
    {eventType : AgentEventType} {outcome : Option String} {reason : Option PythonStr} {event : AgentEvent}
    (built : loop.toolEvent run.agentRun object eventType outcome reason = some event) :
    event.At eventType outcome loop.depth := by
  unfold AgentLoop.toolEvent at built
  obtain ⟨tool, -, built⟩ := Option.bind_eq_some_iff.mp built
  cases built
  exact ⟨rfl, rfl, by simp⟩

theorem selectedEvent_at {object : StepObject} {loop : AgentLoop StepObject ToolValue}
    {event : AgentEvent} (built : loop.selectedEvent run.agentRun object = some event) :
    event.At .toolSelected none loop.depth := by
  unfold AgentLoop.selectedEvent at built
  obtain ⟨tool, -, built⟩ := Option.bind_eq_some_iff.mp built
  obtain ⟨capability, -, built⟩ := Option.bind_eq_some_iff.mp built
  cases built
  exact ⟨rfl, rfl, by simp⟩

theorem Written.of_unstaged (unstaged : state.stage = none) : Written state := by
  intro event resume point object passed staged
  rw [unstaged] at staged
  cases staged

theorem Written.of_unwritten (elsewhere : ∀ event resume, state.loop.point ≠ .recording event resume) :
    Written state :=
  fun event resume point => absurd point (elsewhere event resume)

/-- One event, at its place in the gate. -/
theorem Written.of_record {event : AgentEvent} {resume : Resume StepObject ToolValue}
    {object : StepObject} {passed : Nat} {eventType : AgentEventType} {outcome : Option String}
    (point : state.loop.point = .recording event resume) (staged : state.stage = some (object, passed))
    (place : (gate state.loop.depth object)[passed]? =
      some (Entry.Records eventType outcome state.loop.depth))
    (at_ : event.At eventType outcome state.loop.depth) : Written state := by
  intro other otherResume otherPoint otherObject otherPassed otherStaged condition asked
  rw [point] at otherPoint
  cases otherPoint
  rw [staged] at otherStaged
  cases otherStaged
  rw [place] at asked
  cases asked
  exact at_

theorem Written.recorded {event : AgentEvent} {resume : Resume StepObject ToolValue} :
    Written (state.follow ((state.loop.store event true).resume run.agentRun resume)) := by
  cases resume with
  | runStarted =>
    simp only [AgentLoop.resume]
    split
    · exact .of_unstaged GovernedState.stage_iterate
    · exact .of_unstaged rfl
  | plannerDecided step =>
    cases step with
    | none => exact .of_unstaged rfl
    | some step =>
      rw [AgentLoop.resume]
      cases built : (state.loop.store event true).selectedEvent run.agentRun step with
      | none => exact .of_unstaged rfl
      | some selected => exact .of_record rfl rfl rfl (selectedEvent_at built)
  | authorizationDecided step allowed reason =>
    cases allowed with
    | true => exact .of_unwritten (by simp [AgentLoop.resume, GovernedState.follow])
    | false => exact .of_unstaged rfl
  | budgetDecided step allowed reason =>
    cases allowed with
    | true => exact .of_unwritten (by simp [AgentLoop.resume, GovernedState.follow])
    | false => exact .of_unstaged rfl
  | executionCompleted observation =>
    rw [AgentLoop.resume]
    apply Written.of_unstaged
    exact AgentLoop.awaitBuilt_cases (P := fun next => (state.follow next).stage = none)
      (fun _ _ => rfl) fun _ => rfl
  | observationReceived => exact .of_unstaged GovernedState.stage_iterate
  | toolSelected step => exact .of_unwritten (by simp [AgentLoop.resume, GovernedState.follow])
  | executionStarted step timeout =>
    exact .of_unwritten (by simp [AgentLoop.resume, GovernedState.follow])
  | failed outcome => exact .of_unstaged rfl
  | cancelled outcome => exact .of_unstaged rfl
  | finished outcome => exact .of_unstaged rfl
  | reraised outcome => exact .of_unstaged rfl

theorem Written.follow (threads : Threads run state) (written : Written state)
    (outside : GovernedRun.fromOutside state signal = true)
    (moved : run.agentRun.Moves state.loop signal loop) : Written (state.follow loop) := by
  cases onward : loop.closing with
  | true => exact .of_unstaged (GovernedState.stage_closing onward)
  | false =>
    cases ownMove outside moved onward with
    | @ticked now =>
      rw [threads.follow_tick now]
      exact written
    | recorded point => exact .recorded
    | planning point => exact .of_unwritten (by simp [GovernedState.follow])
    | invoked point => exact .of_unwritten (by simp [GovernedState.follow])
    | deferred point => exact .of_unwritten (by simp [GovernedState.follow])
    | @starting object timeout point =>
      cases built : state.loop.toolEvent run.agentRun object .toolExecutionStarted none none with
      | none => exact .of_unstaged rfl
      | some started => exact .of_record rfl rfl rfl (toolEvent_at built)
    | @planned step nested point =>
      cases step with
      | none => exact .of_unstaged rfl
      | some step =>
        exact .of_record rfl rfl rfl ⟨rfl, rfl, by
          simp [AgentLoop.plannerEvent, AgentLoop.depthEvent, GovernedState.follow]⟩

/-! ## The steps of a governed run -/

variable {executions : Nat}

/-- The loop's own steps. -/
theorem GateInvariant.follow (inv : GateInvariant run executions state)
    (outside : GovernedRun.fromOutside state signal = true)
    (moved : run.agentRun.Moves state.loop signal loop) :
    GateInvariant run executions (state.follow loop) := by
  have calls : (state.follow loop).calls = state.calls := GovernedState.calls_follow moved
  have grants : (state.follow loop).grants = state.grants := GovernedState.grants_follow moved
  exact {
    threads := inv.threads.follow outside moved
    within := inv.within.step moved
    depth_le := AgentLoop.depth_le_step inv.within inv.depth_le moved
    written := inv.written.follow inv.threads outside moved
    passed := by
      intro object passed staged
      show Passed _ loop.depth object passed
      cases Advance.follow inv.threads outside moved staged with
      | same stage trace =>
        rw [trace, depth_of_staged moved stage]
        exact inv.passed object passed stage
      | first none =>
        rw [none]
        exact passed_none
      | past before event resume point stage more recorded trace =>
        rw [trace, depth_of_staged moved stage, more]
        cases asked : (gate state.loop.depth object)[before]? with
        | none =>
          have outOfGate : 7 ≤ before := List.getElem?_eq_none_iff.mp asked
          omega
        | some condition =>
          exact (inv.passed object before stage).snoc asked
            (inv.written event resume point object before stage condition asked)
    permitted := by
      intro object passed staged late
      show HasPermit run state.permits object
      cases Advance.follow inv.threads outside moved staged with
      | same stage trace => exact inv.permitted object passed stage late
      | first none => omega
      | past before event resume point stage more recorded trace =>
        exact inv.permitted object before stage (by omega)
    granted := by
      intro object passed staged late
      rw [calls, grants]
      cases Advance.follow inv.threads outside moved staged with
      | same stage trace => exact inv.granted object passed stage late
      | first none => omega
      | past before event resume point stage more recorded trace =>
        exact inv.granted object before stage (by omega)
    called := by
      rw [calls]
      exact Nat.le_trans inv.called
        (callsAllowed_follow inv.threads inv.within inv.depth_le outside moved)
    covered := by
      rw [calls, grants]
      exact inv.covered
    spent := by
      rw [grants]
      exact inv.spent
    gated := by
      obtain ⟨entries, trace, others⟩ := state.trace_step moved
      rw [trace]
      exact gated_append inv.gated fun entry mem => (others entry mem).1 }

/-- The loop takes an answer of the runtime: nothing is stored, and no other step comes up. -/
theorem GateInvariant.answered (inv : GateInvariant run executions state)
    (moved : run.agentRun.Moves state.loop signal loop) (events : loop.events = state.loop.events)
    (depth : loop.depth = state.loop.depth) (threads : Threads run (state.follow loop))
    (written : Written (state.follow loop))
    (stage : ∀ object passed, (state.follow loop).stage = some (object, passed) →
      state.stage = some (object, passed))
    (called : state.calls ≤ (state.follow loop).callsAllowed run) :
    GateInvariant run executions (state.follow loop) := by
  have trace : (state.follow loop).trace = state.trace := GovernedState.trace_follow events
  exact {
    threads
    within := inv.within.step moved
    depth_le := AgentLoop.depth_le_step inv.within inv.depth_le moved
    written
    passed := by
      intro object passed staged
      show Passed _ loop.depth object passed
      rw [trace, depth]
      exact inv.passed object passed (stage object passed staged)
    permitted := fun object passed staged => inv.permitted object passed (stage object passed staged)
    granted := by
      intro object passed staged late
      rw [GovernedState.calls, GovernedState.grants, trace]
      exact inv.granted object passed (stage object passed staged) late
    called := by
      rw [GovernedState.calls, trace]
      exact called
    covered := by
      rw [GovernedState.calls, GovernedState.grants, trace]
      exact inv.covered
    spent := by
      rw [GovernedState.grants, trace]
      exact inv.spent
    gated := by
      rw [trace]
      exact inv.gated }

variable (run) in
theorem decisionReason_decision (decision : AuthorizationDecision) :
    ∃ reason, run.agentRun.decisionReason decision.decision = some reason := by
  simp only [AgentRun.decisionReason, AuthorizationDecision.decision, AgentRun.reasonCode]
  exact Option.isSome_iff_exists.mp (by dsimp only [Option.bind_eq_bind, Option.bind]; split <;> rfl)

theorem GateInvariant.policyReturns (inv : GateInvariant run executions state)
    {decision : AuthorizationDecision} (given : state.answer = some decision)
    (moved : run.agentRun.Moves state.loop (.decided decision.decision) loop) :
    GateInvariant run executions (state.follow loop) := by
  have moved' := moved
  cases moved with
  | @decided object nested _ point =>
    obtain ⟨reason, read⟩ := decisionReason_decision run decision
    -- The gate always gives a reason that can be read, so its decision is recorded.
    have same : state.loop.decide run.agentRun object decision.decision =
        state.loop.await (state.loop.authorizationEvent decision.allowed reason)
          (.authorizationDecided object decision.allowed reason) := by
      rw [AgentLoop.decide, read]
      rfl
    rw [same] at moved' ⊢
    -- The policy has answered, so none is being asked.
    have idle : state.pending = none := by
      cases waits : state.pending with
      | none => rfl
      | some step =>
        rcases inv.threads.pending step waits with ⟨-, unanswered⟩ | closing
        · rw [given] at unanswered
          cases unanswered
        · simp [AgentLoop.closing, point] at closing
    have allowance : state.callsAllowed run = state.loop.depth :=
      callsAllowed_eq (by simp [AgentLoop.closing, point]) (by simp [point]) (by simp [point])
    apply inv.answered moved' rfl rfl
    · exact .of_idle (.inl (by simpa [GovernedState.follow] using idle))
        (by simp [GovernedState.follow]) (by simp [GovernedState.follow])
    · cases allowed : decision.allowed with
      | false => exact .of_unstaged rfl
      | true =>
        exact .of_record rfl rfl rfl ⟨rfl, rfl, by
          simp [AgentLoop.authorizationEvent, AgentLoop.depthEvent, GovernedState.follow]⟩
    · intro other passed staged
      cases allowed : decision.allowed with
      | false =>
        rw [allowed] at staged
        cases staged
      | true =>
        rw [allowed] at staged
        cases staged
        simp [GovernedState.stage, point, given, allowed]
    · exact Nat.le_trans (allowance ▸ inv.called) (depth_le_callsAllowed _ inv.depth_le)

/-- Something happens beside the loop that is neither a call nor a grant. -/
theorem GateInvariant.aside (inv : GateInvariant run executions state) {entries : List Entry}
    (loop : next.loop = state.loop) (calling : next.calling = state.calling)
    (budget : next.budget.remaining ≤ state.budget.remaining)
    (trace : next.trace = state.trace ++ entries)
    (others : ∀ entry ∈ entries, entry.isCall = false ∧ entry.isGrant = false)
    (threads : Threads run next) (written : Written next)
    (passed : ∀ object passed, next.stage = some (object, passed) →
      Passed next.trace state.loop.depth object passed)
    (permitted : ∀ object passed, next.stage = some (object, passed) → 3 ≤ passed →
      HasPermit run next.permits object)
    (granted : ∀ object passed, next.stage = some (object, passed) → 5 ≤ passed →
      state.calls < state.grants) : GateInvariant run executions next := by
  have calls : next.calls = state.calls := by
    rw [GovernedState.calls, trace]
    exact countP_append_of_none state.trace fun entry mem => (others entry mem).1
  have grants : next.grants = state.grants := by
    rw [GovernedState.grants, trace]
    exact countP_append_of_none state.trace fun entry mem => (others entry mem).2
  have allowance : next.callsAllowed run = state.callsAllowed run := by
    rw [GovernedState.callsAllowed, GovernedState.callsAllowed, loop, calling]
  exact {
    threads
    within := loop ▸ inv.within
    depth_le := loop ▸ inv.depth_le
    written
    passed := loop ▸ passed
    permitted
    granted := by
      rw [calls, grants]
      exact granted
    called := by
      rw [calls, allowance]
      exact inv.called
    covered := by
      rw [calls, grants]
      exact inv.covered
    spent := by
      have spent := inv.spent
      rw [grants]
      omega
    gated := by
      rw [trace]
      exact gated_append inv.gated fun entry mem => (others entry mem).1 }

/-- The thread decides, in time or too late, and leaves its permit. -/
theorem GateInvariant.policyRuns (inv : GateInvariant run executions state) {object : StepObject}
    (waits : state.pending = some object) (stepped : run.step state .policyRuns = some next) :
    GateInvariant run executions next := by
  have entries : ∀ entry ∈ (if (run.runtime.policy run.authority object).1.allowed then
      [Entry.authorized object] else []), entry.isCall = false ∧ entry.isGrant = false := by
    split <;> simp [Entry.isCall, Entry.isGrant]
  simp only [GovernedRun.step, waits, Option.some.injEq] at stepped
  rcases inv.threads.pending object waits with ⟨⟨nested, point⟩, unanswered⟩ | closing
  -- The loop still waits for this policy.
  · subst stepped
    have before : state.stage = some (object, 2) := by
      simp [GovernedState.stage, point, unanswered]
    have idle (tool : Tool) : state.calling ≠ some tool := by
      intro called
      obtain ⟨step, timeout, executing⟩ := inv.threads.calling tool called
      rw [point] at executing
      cases executing
    refine inv.aside rfl rfl (Nat.le_refl _) rfl entries ?_ ?_ ?_ ?_ ?_
    · exact {
        pending := by simp
        answered := by
          intro decision given
          simp only [point, Option.some.injEq] at given
          exact ⟨object, nested, point, given.symm⟩
        calling := fun tool called => (idle tool called).elim }
    · exact .of_unwritten (by simp [point])
    · intro other passed staged
      simp only [GovernedState.stage, point, Option.any_some] at staged
      cases allowed : (run.runtime.policy run.authority object).1.allowed with
      | true =>
        simp only [allowed, if_true] at staged ⊢
        cases staged
        exact (inv.passed object 2 before).snoc rfl rfl
      | false =>
        simp only [allowed, Bool.false_eq_true, if_false, List.append_nil] at staged ⊢
        cases staged
        exact inv.passed object 2 before
    · intro other passed staged late
      simp only [GovernedState.stage, point, Option.any_some] at staged
      cases allowed : (run.runtime.policy run.authority object).1.allowed with
      | true =>
        simp only [allowed, if_true] at staged
        cases staged
        obtain ⟨permit, left, same, lawful⟩ := policy_allowed allowed
        rw [left]
        exact hasPermit_add same lawful
      | false =>
        simp only [allowed, Bool.false_eq_true, if_false] at staged
        cases staged
        omega
    · intro other passed staged late
      simp only [GovernedState.stage, point, Option.any_some] at staged
      split at staged <;> cases staged <;> omega
  -- The loop is closing, and a policy that is late reaches no stage.
  · have unstaged : next.stage = none := by
      apply GovernedState.stage_closing
      rw [← stepped]
      exact closing
    subst stepped
    refine inv.aside rfl rfl (Nat.le_refl _) rfl entries ?_ (.of_unstaged unstaged) ?_ ?_ ?_
    · exact {
        pending := by simp
        answered := by
          intro decision given
          split at given
          next point => simp [AgentLoop.closing, point] at closing
          next => cases given
        calling := inv.threads.calling }
    all_goals
      intro other passed staged
      rw [unstaged] at staged
      cases staged

theorem ExecutionBudget.consume_cases (budget : ExecutionBudget) (now : ℚ) :
    ((budget.consume now).2.allowed = true ∧
        (budget.consume now).1.remaining + 1 = budget.remaining) ∨
      ((budget.consume now).2.allowed = false ∧
        (budget.consume now).1.remaining = budget.remaining) := by
  unfold ExecutionBudget.consume
  split
  · exact .inr ⟨rfl, rfl⟩
  split
  · exact .inr ⟨rfl, rfl⟩
  · exact .inl ⟨rfl, by dsimp only; omega⟩

variable (run) in
theorem consume_answer (decision : BudgetDecision) (loop : AgentLoop StepObject ToolValue)
    (object : StepObject) :
    ∃ reason, loop.consume run.agentRun object decision.answer =
      loop.await (loop.budgetEvent decision.allowed reason decision.remainingExecutions)
        (.budgetDecided object decision.allowed reason) := by
  have read : ∃ reason, run.agentRun.budgetReason decision.answer = some reason := by
    simp only [AgentRun.budgetReason, BudgetDecision.answer, Attribute.get, Option.bind_some,
      AgentRun.reasonCode]
    exact Option.isSome_iff_exists.mp (by dsimp only [Option.bind_eq_bind, Option.bind]; split <;> rfl)
  obtain ⟨reason, read⟩ := read
  refine ⟨reason, ?_⟩
  rw [AgentLoop.consume, read]
  rfl

/-- The budget decides, and what it grants stands in the trace. -/
theorem GateInvariant.consume (inv : GateInvariant run executions state) {now : ℚ}
    (stepped : run.step state (.consume now) = some next) : GateInvariant run executions next := by
  simp only [GovernedRun.step, GovernedRun.advance, Option.map_eq_some_iff] at stepped
  obtain ⟨_, ⟨loop, moved, rfl⟩, rfl⟩ := stepped
  have moved := AgentRun.moves_of_step moved
  have moved' := moved
  cases moved with
  | @consumed object _ point =>
    obtain ⟨reason, same⟩ :=
      consume_answer run (state.budget.consume now).2 state.loop object
    rw [same] at moved' ⊢
    have before : state.stage = some (object, 4) := by simp [GovernedState.stage, point]
    have idle : state.pending = none :=
      inv.threads.idle (by simp [AgentLoop.closing, point]) (by simp [point])
    have allowance : state.callsAllowed run = state.loop.depth :=
      callsAllowed_eq (by simp [AgentLoop.closing, point]) (by simp [point]) (by simp [point])
    have threads : Threads run (state.follow (state.loop.await (state.loop.budgetEvent
        (state.budget.consume now).2.allowed reason (state.budget.consume now).2.remainingExecutions)
        (.budgetDecided object (state.budget.consume now).2.allowed reason))) :=
      .of_idle (.inl (by simpa [GovernedState.follow] using idle)) (by simp [GovernedState.follow])
        (by simp [GovernedState.follow])
    have called : state.calls ≤ (state.follow (state.loop.await (state.loop.budgetEvent
        (state.budget.consume now).2.allowed reason (state.budget.consume now).2.remainingExecutions)
        (.budgetDecided object (state.budget.consume now).2.allowed reason))).callsAllowed run :=
      Nat.le_trans (allowance ▸ inv.called) (depth_le_callsAllowed _ inv.depth_le)
    -- A grant is the entry that covers the next call, a denial leaves the trace as it was.
    rcases state.budget.consume_cases now with ⟨allowed, spent⟩ | ⟨denied, kept⟩
    · simp only [allowed, if_true] at threads called moved' ⊢
      have trace : (state.follow (state.loop.await (state.loop.budgetEvent true reason
          (state.budget.consume now).2.remainingExecutions) (.budgetDecided object true reason))).trace =
          state.trace := GovernedState.trace_follow rfl
      have calls : (state.trace ++ [Entry.granted]).countP Entry.isCall = state.calls :=
        countP_append_of_none state.trace (by simp [Entry.isCall])
      have grants : (state.trace ++ [Entry.granted]).countP Entry.isGrant = state.grants + 1 := by
        simp [GovernedState.grants, Entry.isGrant]
      have covered := inv.covered
      have total := inv.spent
      exact {
        threads := ⟨threads.pending, threads.answered, threads.calling⟩
        within := inv.within.step moved'
        depth_le := inv.depth_le
        written := .of_record rfl rfl rfl ⟨rfl, rfl, by
          simp [AgentLoop.budgetEvent, GovernedState.follow]⟩
        passed := by
          intro other passed staged
          cases staged
          rw [trace]
          exact (inv.passed object 4 before).snoc rfl trivial
        permitted := by
          intro other passed staged _
          cases staged
          exact inv.permitted object 4 before (by omega)
        granted := by
          intro other passed staged _
          simp only [GovernedState.calls, GovernedState.grants, trace] at calls grants covered ⊢
          omega
        called := by
          rw [GovernedState.calls, trace, calls]
          exact called
        covered := by
          simp only [GovernedState.calls, GovernedState.grants, trace] at calls grants covered ⊢
          omega
        spent := by
          simp only [GovernedState.grants, trace] at grants total ⊢
          omega
        gated := by
          rw [trace]
          exact gated_append inv.gated (by simp [Entry.isCall]) }
    · simp only [denied, Bool.false_eq_true, if_false] at threads called moved' ⊢
      have followed := inv.answered moved' rfl rfl threads (.of_unstaged rfl)
        (fun _ _ staged => by cases staged) called
      exact followed.aside rfl rfl (Nat.le_of_eq kept) rfl (by simp)
        ⟨threads.pending, threads.answered, threads.calling⟩ (.of_unstaged rfl)
        (fun _ _ staged => by cases staged) (fun _ _ staged => by cases staged)
        (fun _ _ staged => by cases staged)

theorem GateInvariant.consumeElsewhere (inv : GateInvariant run executions state) {now : ℚ} :
    GateInvariant run executions { state with budget := (state.budget.consume now).1 } := by
  have less : (state.budget.consume now).1.remaining ≤ state.budget.remaining := by
    unfold ExecutionBudget.consume
    split
    · exact Nat.le_refl _
    split
    · exact Nat.le_refl _
    · exact Nat.sub_le _ _
  exact inv.aside rfl rfl less (List.append_nil _).symm (by simp)
    ⟨inv.threads.pending, inv.threads.answered, inv.threads.calling⟩ inv.written inv.passed
    inv.permitted inv.granted

/-- What `dispatch` has checked when it calls an executor. -/
theorem dispatch_calls {permits left : List Permit} {object : StepObject} {call : ExecutorCall}
    (dispatched : run.runtime.dispatch run.authority permits object = (left, some call))
    (permitted : HasPermit run permits object) :
    call.step = object ∧ Permit.Lawful run object ⟨object.identity, call.tool, call.capability⟩ ∧
      (call.tool.name, call.executor) ∈ run.runtime.executors ∧
      call.arguments = object.step.arguments ∧
      ToolValue.validateSchema (.object call.arguments) "arguments" call.tool.inputSchema = .ok () := by
  obtain ⟨permit, found, lawful⟩ := permitted
  unfold GovernedAgentRuntime.dispatch at dispatched
  rw [found] at dispatched
  dsimp only at dispatched
  split at dispatched
  next binding validated bound =>
    cases dispatched
    have named : binding.1 = permit.tool.name := by simpa using List.find?_some bound
    refine ⟨rfl, ⟨lawful.tenant, lawful.registered, lawful.named, lawful.requested, lawful.declared,
      lawful.granted⟩, ?_, rfl, validated⟩
    rw [← named]
    exact List.mem_of_find?_eq_some bound
  next => cases dispatched

/-- The dispatch either raises, or calls the executor of a step that has passed the gate. -/
theorem GateInvariant.dispatch (inv : GateInvariant run executions state)
    (stepped : run.step state .dispatch = some next) : GateInvariant run executions next := by
  simp only [GovernedRun.step] at stepped
  split at stepped
  next object timeout point uncalled =>
    split at stepped
    next permits dispatched =>
      simp only [GovernedRun.advance, Option.map_eq_some_iff] at stepped
      obtain ⟨_, ⟨loop, moved, rfl⟩, rfl⟩ := stepped
      have moved := AgentRun.moves_of_step moved
      have followed := inv.follow rfl moved
      -- The executor refuses, and the loop closes without a call.
      have closing : loop.closing = true := by
        cases moved <;> simp_all
        exact AgentLoop.closing_awaitBuilt fun _ => rfl
      have unstaged : (state.follow loop).stage = none := GovernedState.stage_closing closing
      refine followed.aside rfl rfl (Nat.le_refl _) (List.append_nil _).symm (by simp)
        ⟨followed.threads.pending, followed.threads.answered, followed.threads.calling⟩
        (.of_unstaged unstaged) ?_ ?_ ?_
      all_goals
        intro other passed staged
        exact absurd (unstaged.symm.trans staged) (by simp)
    next permits call dispatched =>
      cases stepped
      have before : state.stage = some (object, 7) := by
        simp [GovernedState.stage, point, uncalled]
      -- The executor calls, and with what every stage before has let through.
      obtain ⟨rfl, lawful, bound, requested, validated⟩ :=
        dispatch_calls dispatched (inv.permitted object 7 before (by omega))
      have calls : (state.trace ++ [Entry.called call]).countP Entry.isCall = state.calls + 1 := by
        simp [GovernedState.calls, Entry.isCall]
      have grants : (state.trace ++ [Entry.called call]).countP Entry.isGrant = state.grants :=
        countP_append_of_none state.trace (by simp [Entry.isGrant])
      have allowance : state.callsAllowed run = state.loop.depth := by
        simp [GovernedState.callsAllowed, AgentLoop.closing, point, uncalled]
      have below : state.loop.depth < run.limits.maxDepth :=
        inv.within (by simp [AgentLoop.iterating, point])
      have granted := inv.granted call.step 7 before (by omega)
      have called := inv.called
      have idle : state.pending = none :=
        inv.threads.idle (by simp [AgentLoop.closing, point]) (by simp [point])
      have unanswered : state.answer = none := by
        cases given : state.answer with
        | none => rfl
        | some decision =>
          obtain ⟨step, nested, awaiting, -⟩ := inv.threads.answered decision given
          rw [point] at awaiting
          cases awaiting
      exact {
        threads := {
          pending := by simp [idle]
          answered := by simp [unanswered]
          calling := fun _ _ => ⟨call.step, timeout, point⟩ }
        within := inv.within
        depth_le := inv.depth_le
        written := .of_unwritten (by simp [point])
        passed := by
          intro other passed staged
          simp [GovernedState.stage, point] at staged
        permitted := by
          intro other passed staged
          simp [GovernedState.stage, point] at staged
        granted := by
          intro other passed staged
          simp [GovernedState.stage, point] at staged
        called := by
          rw [GovernedState.calls, calls]
          simp [GovernedState.callsAllowed, AgentLoop.closing, point]
          omega
        covered := by
          rw [GovernedState.calls, GovernedState.grants, calls, grants]
          exact granted
        spent := by
          rw [GovernedState.grants, grants]
          exact inv.spent
        gated := by
          apply gated_snoc inv.gated
          intro other same
          cases same
          exact ⟨lawful, bound, requested, validated,
            state.loop.depth, below, inv.passed call.step 7 before⟩ }
  next => cases stepped

theorem GateInvariant.executorReturns (inv : GateInvariant run executions state) {result : ToolValue}
    (stepped : run.step state (.executorReturns result) = some next) :
    GateInvariant run executions next := by
  simp only [GovernedRun.step] at stepped
  split at stepped
  next => cases stepped
  next tool calling =>
    split at stepped
    next =>
      simp only [GovernedRun.advance, Option.map_eq_some_iff] at stepped
      obtain ⟨loop, moved, rfl⟩ := stepped
      have moved := AgentRun.moves_of_step moved
      have moved' := moved
      cases moved with
      | @executed object timeout observation point =>
        have allowance : state.callsAllowed run = state.loop.depth + 1 := by
          simp [GovernedState.callsAllowed, AgentLoop.closing, point, calling]
        have idle : state.pending = none :=
          inv.threads.idle (by simp [AgentLoop.closing, point]) (by simp [point])
        have below : state.loop.depth < run.limits.maxDepth :=
          inv.within (by simp [AgentLoop.iterating, point])
        have called := inv.called
        -- An observation that cannot be told ends the run, any other is recorded.
        cases built : state.loop.toolEvent run.agentRun object .toolExecutionCompleted
            (some "completed") none with
        | none =>
          have same : state.loop.observe run.agentRun object result =
              { state.loop with observation := some result }.escape := by
            rw [AgentLoop.observe, built]
            rfl
          rw [same] at moved' ⊢
          apply inv.answered moved' rfl rfl (.close rfl) (.of_unstaged rfl)
          · exact fun _ _ staged => by cases staged
          · show _ ≤ run.limits.maxDepth
            omega
        | some event =>
          have same : state.loop.observe run.agentRun object result =
              { state.loop with observation := some result }.await event
                (.executionCompleted result) := by
            rw [AgentLoop.observe, built]
            rfl
          rw [same] at moved' ⊢
          apply inv.answered moved' rfl rfl _ (.of_unstaged rfl)
          · exact fun _ _ staged => by cases staged
          · show _ ≤ state.loop.depth + 1
            omega
          · exact .of_idle (.inl (by simpa [GovernedState.follow] using idle))
              (by simp [GovernedState.follow]) (by simp [GovernedState.follow])
    next =>
      simp only [GovernedRun.advance, Option.map_eq_some_iff] at stepped
      obtain ⟨loop, moved, rfl⟩ := stepped
      exact inv.follow rfl (AgentRun.moves_of_step moved)

theorem GateInvariant.preserved (inv : GateInvariant run executions state) {signal : GovernedSignal}
    (stepped : run.step state signal = some next) : GateInvariant run executions next := by
  cases signal with
  | loop signal =>
    simp only [GovernedRun.step] at stepped
    split at stepped
    next outside =>
      simp only [GovernedRun.advance, Option.map_eq_some_iff] at stepped
      obtain ⟨loop, moved, rfl⟩ := stepped
      exact inv.follow outside (AgentRun.moves_of_step moved)
    next => cases stepped
  | policyRuns =>
    cases waits : state.pending with
    | none => simp [GovernedRun.step, waits] at stepped
    | some object => exact inv.policyRuns waits stepped
  | policyReturns =>
    simp only [GovernedRun.step] at stepped
    split at stepped
    next => cases stepped
    next decision given =>
      simp only [GovernedRun.advance, Option.map_eq_some_iff] at stepped
      obtain ⟨loop, moved, rfl⟩ := stepped
      exact inv.policyReturns given (AgentRun.moves_of_step moved)
  | consume now => exact inv.consume stepped
  | consumeElsewhere now =>
    cases stepped
    exact inv.consumeElsewhere
  | dispatch => exact inv.dispatch stepped
  | executorReturns result => exact inv.executorReturns stepped

theorem gateInvariant_begin (run : GovernedRun) (budget : ExecutionBudget) (started : ℚ) :
    GateInvariant run budget.remaining (run.begin budget started) where
  threads := .of_idle (.inl rfl) rfl rfl
  within := AgentLoop.within_of_not_iterating rfl
  depth_le := Nat.zero_le _
  written := .of_unstaged rfl
  passed _ _ staged := by cases staged
  permitted _ _ staged := by cases staged
  granted _ _ staged := by cases staged
  called := Nat.zero_le _
  covered := Nat.le_refl _
  spent := by simp [GovernedState.grants, GovernedRun.begin]
  gated before call after split := by simp [GovernedRun.begin] at split

/-! ## Calls of executors -/

theorem Entry.Records.event {eventType : AgentEventType} {outcome : Option String} {entry : Entry}
    (records : entry.Records eventType outcome depth) :
    ∃ event, entry = .recorded event ∧ event.At eventType outcome depth := by
  cases entry with
  | recorded event => exact ⟨event, rfl, records⟩
  | _ => exact records.elim

/-- The whole gate, entry by entry. -/
theorem Passed.entries (through : Passed trace depth step 7) :
    ∃ earlier planned selected authorized budgeted started,
      trace = earlier ++ [.recorded planned, .recorded selected, .authorized step,
        .recorded authorized, .granted, .recorded budgeted, .recorded started] ∧
      planned.At .plannerDecision (some "selected") depth ∧ selected.At .toolSelected none depth ∧
      authorized.At .authorizationDecision (some "allowed") depth ∧
      budgeted.At .budgetDecision (some "allowed") depth ∧
      started.At .toolExecutionStarted none depth := by
  obtain ⟨earlier, entries, rfl, through⟩ := through
  simp only [gate, List.take_succ_cons, List.take_zero, List.forall₂_cons_left_iff] at through
  obtain ⟨first, _, plans, ⟨second, _, selects, ⟨third, _, authorizes, ⟨fourth, _, allows,
    ⟨fifth, _, grants, ⟨sixth, _, budgets, ⟨seventh, _, starts, ended, rfl⟩, rfl⟩, rfl⟩, rfl⟩, rfl⟩,
    rfl⟩, rfl⟩ := through
  obtain ⟨planned, rfl, plannedAt⟩ := plans.event
  obtain ⟨selected, rfl, selectedAt⟩ := selects.event
  obtain ⟨authorized, rfl, authorizedAt⟩ := allows.event
  obtain ⟨budgeted, rfl, budgetedAt⟩ := budgets.event
  obtain ⟨started, rfl, startedAt⟩ := starts.event
  cases third with
  | authorized other =>
    cases fifth with
    | granted =>
      cases authorizes
      cases ended
      exact ⟨earlier, planned, selected, authorized, budgeted, started, rfl, plannedAt, selectedAt,
        authorizedAt, budgetedAt, startedAt⟩
    | _ => exact grants.elim
  | _ => exact authorizes.elim

/-- A call that went through every gate, told in terms of what the runtime was built from. -/
structure ExecutorCall.Governed (registry : ToolRegistry) (executors : List (PythonStr × Executor))
    (authority : AgentAuthority) (call : ExecutorCall) (before : List Entry) : Prop where
  registered : call.tool ∈ registry.tools
  bound : (call.tool.name, call.executor) ∈ executors
  named : call.tool.name = call.step.step.tool
  requested : call.capability = call.step.step.capability
  declared : call.capability ∈ call.tool.capabilities
  granted : call.capability ∈ authority.allowedCapabilities
  tenant : authority.organizationId = authority.resourceOrganizationId
  arguments : call.arguments = call.step.step.arguments
  validated : ToolValue.validateSchema (.object call.arguments) "arguments" call.tool.inputSchema = .ok ()
  preceded : ∃ depth earlier planned selected authorized budgeted started,
    before = earlier ++ [.recorded planned, .recorded selected, .authorized call.step,
      .recorded authorized, .granted, .recorded budgeted, .recorded started] ∧
    planned.At .plannerDecision (some "selected") depth ∧ selected.At .toolSelected none depth ∧
    authorized.At .authorizationDecision (some "allowed") depth ∧
    budgeted.At .budgetDecision (some "allowed") depth ∧
    started.At .toolExecutionStarted none depth

theorem build_eq_ok {registry : ToolRegistry} {executors : List (PythonStr × Executor)}
    {runtime : GovernedAgentRuntime} (built : GovernedAgentRuntime.build registry executors = .ok runtime) :
    runtime = ⟨registry.tools, executors⟩ := by
  unfold GovernedAgentRuntime.build at built
  obtain ⟨_, -, built⟩ := Guarded.bind_eq_ok.mp built
  dsimp only at built
  split at built
  · exact (Except.ok.inj built).symm
  · cases built

/-- Every executor call of a run is governed, and there are at most as many as the depth limit
and the budget allow. -/
theorem executor_calls_governed {registry : ToolRegistry} {executors : List (PythonStr × Executor)}
    (run : GovernedRun) (built : GovernedAgentRuntime.build registry executors = .ok run.runtime)
    (budget : ExecutionBudget) (started : ℚ) (signals : List GovernedSignal) (state : GovernedState)
    (ran : Transition.run run.step (run.begin budget started) signals = some state) :
    (∀ before call after, state.trace = before ++ .called call :: after →
        call.Governed registry executors run.authority before) ∧
      state.calls ≤ min run.limits.maxDepth budget.remaining := by
  have inv := Transition.run_invariant (GateInvariant run budget.remaining)
    (fun _ _ _ inv stepped => inv.preserved stepped) (gateInvariant_begin run budget started) ran
  have runtime := build_eq_ok built
  constructor
  · intro before call after split
    obtain ⟨permit, bound, requested, validated, depth, -, through⟩ := inv.gated before call after split
    have registered := permit.registered
    rw [runtime] at registered bound
    exact {
      registered
      bound
      named := permit.named
      requested := permit.requested
      declared := permit.declared
      granted := permit.granted
      tenant := permit.tenant
      arguments := requested
      validated
      preceded := ⟨depth, through.entries⟩ }
  · apply Nat.le_min.mpr
    constructor
    · exact Nat.le_trans inv.called (callsAllowed_le inv.within inv.depth_le)
    · have covered := inv.covered
      have spent := inv.spent
      omega

/-! ## A run with one call -/

def lookupTool : Tool where
  name := "lookup"
  inputSchema := .object [("type", .string "object"), ("required", .array [.string "query"])]
  outputSchema := .object []
  capabilities := ["knowledge.read"]

def lookupRegistry : ToolRegistry := ⟨[lookupTool], by simp⟩

def lookupExecutors : List (PythonStr × Executor) := [("lookup", ⟨0, true, true⟩)]

def lookupStep : StepObject :=
  ⟨140, "lookup", "knowledge.read", [("query", .string "tides")]⟩

/-- The tool returns `None`. -/
def lookupRun : GovernedRun where
  runtime := ⟨lookupRegistry.tools, lookupExecutors⟩
  authority := ⟨"user:1", 1, 1, ["knowledge.read"], by decide, by decide, by decide, by decide⟩
  limits := .single
  isAlnum character := (Char.ofNat character).isAlphanum
  isUpper character := (Char.ofNat character).isUpper
  isDigit character := (Char.ofNat character).isDigit
  sha256 _ := "74234e98afe7498fb5daf1f36ac2d78acc339464f950703b8c019892f982b90b"
  typeName _ := "NoneType"
  dumps _ := some "null"

def lookupSignals : List GovernedSignal :=
  [.loop .recorded, .loop .proceed, .loop .proceed, .loop (.planned (some lookupStep)),
    .loop .recorded, .loop .recorded, .loop .proceed, .policyRuns, .policyReturns, .loop .recorded,
    .consume 0, .loop .recorded, .loop .proceed, .loop .recorded, .dispatch, .executorReturns .none,
    .loop .recorded, .loop .recorded, .loop .recorded]

theorem executor_calls_governed_lookup :
    ∃ state, Transition.run lookupRun.step (lookupRun.begin ⟨2, 10⟩ 0) lookupSignals = some state ∧
      state.calls = 1 ∧
      ∀ before call after, state.trace = before ++ .called call :: after →
        call.Governed lookupRegistry lookupExecutors lookupRun.authority before := by
  have calls : (Transition.run lookupRun.step (lookupRun.begin ⟨2, 10⟩ 0) lookupSignals).map
      GovernedState.calls = some 1 := by decide +kernel
  obtain ⟨state, ran, once⟩ := Option.map_eq_some_iff.mp calls
  exact ⟨state, ran, once, (executor_calls_governed lookupRun rfl ⟨2, 10⟩ 0 lookupSignals state ran).1⟩

end Eiraos.Agent
