import Eiraos.Agent.LoopSteps

/-! # Every run is closed in the audit trail

A run ends after boundedly many steps.  It ends closed, with one `RUN_TERMINATED` that says
how it ended, exactly when no cancellation and no exception reaches it outside the handlers
of the loop.
-/

namespace Eiraos.Agent

open PythonText

variable {Step Observation : Type} {run : AgentRun Step Observation}
  {loop next : AgentLoop Step Observation} {signal : Signal Step Observation}

/-! ## Runs end -/

namespace AgentLoop

/-- How many steps other than ticks are left at most. -/
def remainingSteps (run : AgentRun Step Observation) (loop : AgentLoop Step Observation) : Nat :=
  let iterations := 20 * (run.limits.maxDepth - loop.depth)
  match loop.point with
  | .recording _ resume =>
    match resume with
    | .runStarted | .observationReceived => iterations + 21
    | .plannerDecided _ => iterations + 15
    | .toolSelected _ => iterations + 14
    | .authorizationDecided .. => iterations + 9
    | .budgetDecided .. => iterations + 7
    | .executionStarted .. => iterations + 5
    | .executionCompleted _ => iterations + 3
    | .failed _ | .cancelled _ => 2
    | .finished _ | .reraised _ => 1
  | .looping => iterations + 20
  | .invoking .planner nested => iterations + if nested then 17 else 19
  | .awaiting .planner nested => iterations + if nested then 16 else 18
  | .invoking (.policy _) nested => iterations + if nested then 11 else 13
  | .awaiting (.policy _) nested => iterations + if nested then 10 else 12
  | .consuming _ => iterations + 8
  | .measuring _ => iterations + 6
  | .executing .. => iterations + 4
  | .toolTimedOut _ => 3
  | .ended _ => 0

def isEnded (loop : AgentLoop Step Observation) : Bool :=
  match loop.point with
  | .ended _ => true
  | _ => false

theorem remainingSteps_finish {outcome : LoopOutcome Observation} :
    (loop.finish outcome).remainingSteps run = 1 := rfl

theorem remainingSteps_iterate (run : AgentRun Step Observation) (loop : AgentLoop Step Observation) :
    (loop.iterate run).remainingSteps run ≤ 20 * (run.limits.maxDepth - loop.depth) + 20 := by
  rw [iterate]
  split
  · exact Nat.le_refl _
  · rw [remainingSteps_finish]
    omega

theorem remainingSteps_awaitBuilt {event : Option AgentEvent} {resume : Resume Step Observation}
    {bound : Nat} (written : ∀ built, (loop.await built resume).remainingSteps run ≤ bound) :
    (loop.awaitBuilt event resume).remainingSteps run ≤ bound :=
  awaitBuilt_cases (P := fun next => next.remainingSteps run ≤ bound)
    (fun built _ => written built) fun _ => Nat.zero_le bound

theorem remainingSteps_resume {event : AgentEvent} {resume : Resume Step Observation}
    (point : loop.point = .recording event resume) (within : loop.Within run) :
    ((loop.store event true).resume run resume).remainingSteps run < loop.remainingSteps run := by
  have depth : (loop.store event true).depth = loop.depth := depth_store
  have iterated := remainingSteps_iterate run (loop.store event true)
  rw [depth] at iterated
  cases resume with
  | runStarted =>
    have here : loop.remainingSteps run = 20 * (run.limits.maxDepth - loop.depth) + 21 := by
      simp [remainingSteps, point]
    simp only [AgentLoop.resume]
    split
    · omega
    · rw [remainingSteps_finish]
      omega
  | plannerDecided step =>
    have here : loop.remainingSteps run = 20 * (run.limits.maxDepth - loop.depth) + 15 := by
      simp [remainingSteps, point]
    cases step with
    | none =>
      show (finish _ _).remainingSteps run < _
      rw [remainingSteps_finish]
      omega
    | some step =>
      have bound : ((loop.store event true).resume run (.plannerDecided (some step))).remainingSteps run ≤
          20 * (run.limits.maxDepth - loop.depth) + 14 := by
        apply remainingSteps_awaitBuilt
        simp [remainingSteps]
      omega
  | toolSelected step => simp [AgentLoop.resume, remainingSteps, point]
  | authorizationDecided step allowed reason =>
    simp only [AgentLoop.resume]
    cases allowed <;> simp [remainingSteps, finish, point]
  | budgetDecided step allowed reason =>
    simp only [AgentLoop.resume]
    cases allowed <;> simp [remainingSteps, finish, point]
  | executionStarted step timeout => simp [AgentLoop.resume, remainingSteps, point]
  | executionCompleted observation =>
    have below : loop.depth < run.limits.maxDepth := within (by simp [iterating, point])
    have here : loop.remainingSteps run = 20 * (run.limits.maxDepth - loop.depth) + 3 := by
      simp [remainingSteps, point]
    have bound :
        ((loop.store event true).resume run (.executionCompleted observation)).remainingSteps run ≤
          20 * (run.limits.maxDepth - (loop.depth + 1)) + 21 := by
      apply remainingSteps_awaitBuilt
      simp [remainingSteps]
    omega
  | observationReceived =>
    have here : loop.remainingSteps run = 20 * (run.limits.maxDepth - loop.depth) + 21 := by
      simp [remainingSteps, point]
    show (iterate run _).remainingSteps run < _
    omega
  | failed outcome => simp [AgentLoop.resume, remainingSteps, finish, point]
  | cancelled outcome => simp [AgentLoop.resume, remainingSteps, point]
  | finished outcome => simp [AgentLoop.resume, remainingSteps, point]
  | reraised outcome => simp [AgentLoop.resume, remainingSteps, point]

theorem remainingSteps_recording (run : AgentRun Step Observation)
    {event : AgentEvent} {resume : Resume Step Observation}
    (point : loop.point = .recording event resume) : 1 ≤ loop.remainingSteps run := by
  simp only [remainingSteps, point]
  split <;> omega

theorem remainingSteps_invoking (run : AgentRun Step Observation)
    {invocation : Invocation Step} {nested : Bool}
    (point : loop.point = .invoking invocation nested) : 3 ≤ loop.remainingSteps run := by
  cases invocation <;> cases nested <;> simp [remainingSteps, point]

theorem remainingSteps_awaiting (run : AgentRun Step Observation)
    {invocation : Invocation Step} {nested : Bool}
    (point : loop.point = .awaiting invocation nested) : 3 ≤ loop.remainingSteps run := by
  cases invocation <;> cases nested <;> simp [remainingSteps, point]

theorem remainingSteps_invocationTimedOut {invocation : Invocation Step} :
    (loop.invocationTimedOut run invocation).remainingSteps run = 2 := rfl

theorem remainingSteps_invocationFailed {invocation : Invocation Step} :
    (loop.invocationFailed run invocation).remainingSteps run = 2 := by
  cases invocation <;> rfl

end AgentLoop

def Signal.isTick : Signal Step Observation → Bool
  | .tick _ => true
  | _ => false

def Signal.isFailedWrite : Signal Step Observation → Bool
  | .recordFailed _ => true
  | _ => false

namespace AgentLoop

/-- Every transition but the clock's uses up one of the remaining steps. -/
theorem remainingSteps_step (within : loop.Within run) (moved : run.Moves loop signal next) :
    next.remainingSteps run + (if !signal.isTick then 1 else 0) ≤ loop.remainingSteps run := by
  cases moved with
  | ticked running => simp [remainingSteps, Signal.isTick]
  | recorded point => exact remainingSteps_resume point within
  | writeFailed point => exact remainingSteps_recording run point
  | writeCancelled point => exact remainingSteps_recording run point
  | invocationCancelled point =>
    have here := remainingSteps_awaiting run point
    show 0 + 1 ≤ _
    omega
  -- What ends a run is recorded, and then its last event: two steps, or none if it escapes.
  | toolCancelled point =>
    have here : loop.remainingSteps run = 20 * (run.limits.maxDepth - loop.depth) + 4 := by
      simp [remainingSteps, point]
    apply Nat.succ_le_of_lt
    apply Nat.lt_of_le_of_lt (remainingSteps_awaitBuilt fun _ => Nat.le_refl 2)
    omega
  | overdue point => simp [Signal.isTick, remainingSteps, finish, point]
  | planning point early => simp [Signal.isTick, remainingSteps, point]
  | invocationLate point =>
    have here := remainingSteps_invoking run point
    rw [remainingSteps_invocationTimedOut]
    exact here
  | @invoked invocation nested point early =>
    cases invocation <;> cases nested <;> simp [Signal.isTick, remainingSteps, point]
  | startLate point => simp [Signal.isTick, remainingSteps, finish, point]
  | starting point early =>
    have here : loop.remainingSteps run = 20 * (run.limits.maxDepth - loop.depth) + 6 := by
      simp [remainingSteps, point]
    rw [here]
    apply Nat.succ_le_succ
    apply remainingSteps_awaitBuilt
    exact fun _ => Nat.le_refl (20 * (run.limits.maxDepth - loop.depth) + 5)
  | timeoutClassified point =>
    have here : loop.remainingSteps run = 3 := by simp [remainingSteps, point]
    apply Nat.succ_le_of_lt
    apply Nat.lt_of_le_of_lt (remainingSteps_awaitBuilt fun _ => Nat.le_refl 2)
    omega
  | @deferred invocation point =>
    cases invocation <;> simp [Signal.isTick, remainingSteps, point]
  | invocationTimedOut point =>
    have here := remainingSteps_awaiting run point
    rw [remainingSteps_invocationTimedOut]
    exact here
  | invocationFailed point =>
    have here := remainingSteps_awaiting run point
    rw [remainingSteps_invocationFailed]
    exact here
  | invocationExits point =>
    have here := remainingSteps_awaiting run point
    show 0 + 1 ≤ _
    omega
  | consumeRaised point => simp [Signal.isTick, remainingSteps, escape, point]
  | toolTimedOut point => simp [Signal.isTick, remainingSteps, point]
  | toolFailed point =>
    have here : loop.remainingSteps run = 20 * (run.limits.maxDepth - loop.depth) + 4 := by
      simp [remainingSteps, point]
    apply Nat.succ_le_of_lt
    apply Nat.lt_of_le_of_lt (remainingSteps_awaitBuilt fun _ => Nat.le_refl 2)
    omega
  | toolExits point => simp [Signal.isTick, remainingSteps, escape, point]
  | @planned step nested point =>
    cases nested <;> simp [Signal.isTick, remainingSteps, point]
  | @decided step nested decision point =>
    rw [decide]
    split
    · cases nested <;> simp [Signal.isTick, remainingSteps, point]
    · cases nested <;> simp [Signal.isTick, remainingSteps, escape, point]
  | consumed point =>
    rw [consume]
    split <;> simp [Signal.isTick, remainingSteps, escape, point]
  | executed point =>
    have here : loop.remainingSteps run = 20 * (run.limits.maxDepth - loop.depth) + 4 := by
      simp [remainingSteps, point]
    rw [here]
    apply Nat.succ_le_succ
    apply remainingSteps_awaitBuilt
    exact fun _ => Nat.le_refl (20 * (run.limits.maxDepth - loop.depth) + 3)

end AgentLoop

/-- A run that has not ended can go on without a failing write. -/
theorem AgentLoop.exists_step (running : loop.isEnded = false) :
    ∃ signal, signal.isTick = false ∧ signal.isFailedWrite = false ∧
      (run.step loop signal).isSome := by
  cases point : loop.point with
  | recording event resume => exact ⟨.recorded, rfl, rfl, by simp [AgentRun.step, point]⟩
  | looping =>
    refine ⟨.proceed, rfl, rfl, ?_⟩
    simp only [AgentRun.step, proceed, point]
    split <;> rfl
  | invoking invocation nested =>
    refine ⟨.proceed, rfl, rfl, ?_⟩
    simp only [AgentRun.step, proceed, point]
    split <;> rfl
  | awaiting invocation nested =>
    exact ⟨.raised .timeout, rfl, rfl, by simp [AgentRun.step, fail, point]⟩
  | consuming step => exact ⟨.raised .exception, rfl, rfl, by simp [AgentRun.step, fail, point]⟩
  | measuring step =>
    refine ⟨.proceed, rfl, rfl, ?_⟩
    simp only [AgentRun.step, proceed, point]
    split <;> rfl
  | executing step timeout =>
    exact ⟨.raised .timeout, rfl, rfl, by simp [AgentRun.step, fail, point]⟩
  | toolTimedOut step => exact ⟨.proceed, rfl, rfl, by simp [AgentRun.step, proceed, point]⟩
  | ended ending => simp [isEnded, point] at running

/-! ## Closed trails -/

/-- The outcome and the reason that `RUN_TERMINATED` has to name for this end. -/
def Ending.account : Ending Observation → Option (String × Option PythonStr)
  | .returned outcome => some (outcome.status.text, outcome.reasonCode)
  | .cancelled => some ("CANCELLED", some "RUN_CANCELLED")
  | .raised => none

namespace AgentLoop

def Unterminated (loop : AgentLoop Step Observation) : Prop :=
  ∀ event ∈ loop.events, event.eventType ≠ .runTerminated

/-- The run has returned or passed a cancellation on, and its last event is the only
`RUN_TERMINATED` and says so. -/
def Closed (loop : AgentLoop Step Observation) : Prop :=
  ∃ ending outcome reason earlier event,
    loop.point = .ended ending ∧ ending.account = some (outcome, reason) ∧
      loop.events = earlier ++ [event] ∧ event.eventType = .runTerminated ∧
      event.outcome = some outcome ∧ event.reasonCode = reason ∧
      ∀ other ∈ earlier, other.eventType ≠ .runTerminated

/-- No exception and no cancellation arrives where the loop has no handler for it: whatever
it renders, fingerprints or reads can be, and a cancellation hits the tool, or the write
that closes an already cancelled run and is stored all the same. -/
def orderly (run : AgentRun Step Observation) (loop : AgentLoop Step Observation) :
    Signal Step Observation → Bool
  | .cancelled stored =>
    match loop.point with
    | .executing _ _ => true
    | .recording _ (.reraised _) => stored
    | _ => false
  | .raised fault =>
    match loop.point with
    | .consuming _ => false
    | _ => fault != .exits
  | .decided decision => (run.decisionReason decision).isSome && decision.isAllowed.isSome
  | .consumed answer =>
    (run.budgetReason answer).isSome && answer.allowed.get.isSome &&
      answer.remainingExecutions.get.isSome
  | .recorded =>
    match loop.point with
    | .recording _ (.plannerDecided (some step)) =>
      (run.auditIdentifier (run.tool step) "tool").isSome &&
        (run.auditIdentifier (run.capability step) "capability").isSome
    | .recording _ (.executionCompleted observation) => (run.auditFingerprint observation).isSome
    | _ => true
  | _ => true

/-! ## The invariant of an orderly run -/

/-- The step that the loop has selected and goes on naming. -/
def selected? (loop : AgentLoop Step Observation) : Option Step :=
  match loop.point with
  | .recording _ resume =>
    match resume with
    | .toolSelected step | .authorizationDecided step _ _ | .budgetDecided step _ _
    | .executionStarted step _ => some step
    | _ => none
  | .invoking (.policy step) _ | .awaiting (.policy step) _ | .consuming step | .measuring step
  | .executing step _ | .toolTimedOut step => some step
  | _ => none

end AgentLoop

/-- What the event under way has to do with what follows its write. -/
def Resume.Announces (event : AgentEvent) : Resume Step Observation → Prop
  | .finished outcome =>
    event = AgentLoop.terminated outcome ∧ outcome.status ≠ .cancelled
  | .reraised outcome =>
    event = AgentLoop.terminated outcome ∧ outcome.status = .cancelled ∧
      outcome.reasonCode = some "RUN_CANCELLED"
  | .failed outcome => event.eventType ≠ .runTerminated ∧ outcome.status ≠ .cancelled
  | .cancelled outcome =>
    event.eventType ≠ .runTerminated ∧ outcome.status = .cancelled ∧
      outcome.reasonCode = some "RUN_CANCELLED"
  | _ => event.eventType ≠ .runTerminated

namespace AgentLoop

/-- The tool of the selected step can be named, as it was when the step was selected. -/
def Named (run : AgentRun Step Observation) (loop : AgentLoop Step Observation) : Prop :=
  ∀ step, loop.selected? = some step → (run.auditIdentifier (run.tool step) "tool").isSome

structure Sound (run : AgentRun Step Observation) (loop : AgentLoop Step Observation) : Prop where
  unterminated : loop.isEnded = false → loop.Unterminated
  announces : ∀ event resume, loop.point = .recording event resume → resume.Announces event
  named : loop.Named run
  closed : loop.isEnded = true → loop.Closed

theorem named_of_unselected (unselected : loop.selected? = none) : loop.Named run := by
  intro step selected
  rw [unselected] at selected
  cases selected

theorem Sound.await {event : AgentEvent} {resume : Resume Step Observation}
    (unterminated : loop.Unterminated) (announces : resume.Announces event)
    (named : (loop.await event resume).Named run) : (loop.await event resume).Sound run where
  unterminated _ := unterminated
  announces _ _ point := by
    cases point
    exact announces
  named
  closed ended := by cases ended

theorem Sound.finish {outcome : LoopOutcome Observation} (unterminated : loop.Unterminated)
    (uncancelled : outcome.status ≠ .cancelled) : (loop.finish outcome).Sound run :=
  .await unterminated ⟨rfl, uncancelled⟩ (named_of_unselected rfl)

/-- At a point that neither writes nor ends. -/
theorem Sound.elsewhere (unterminated : loop.Unterminated) (running : loop.isEnded = false)
    (unwritten : ∀ event resume, loop.point ≠ .recording event resume) (named : loop.Named run) :
    loop.Sound run where
  unterminated _ := unterminated
  announces event resume point := (unwritten event resume point).elim
  named
  closed ended := by
    rw [running] at ended
    cases ended

/-- The same with a step that has been selected. -/
theorem Sound.selected {step : Step} (unterminated : loop.Unterminated)
    (running : loop.isEnded = false)
    (unwritten : ∀ event resume, loop.point ≠ .recording event resume)
    (selected : loop.selected? = some step)
    (named : (run.auditIdentifier (run.tool step) "tool").isSome) : loop.Sound run := by
  apply Sound.elsewhere unterminated running unwritten
  intro other otherSelected
  rw [selected] at otherSelected
  cases otherSelected
  exact named

theorem Sound.iterate (unterminated : loop.Unterminated) : (loop.iterate run).Sound run := by
  rw [AgentLoop.iterate]
  split
  · exact .elsewhere unterminated rfl (by intro _ _ point; cases point) (named_of_unselected rfl)
  · exact .finish unterminated (by simp [terminal])

theorem toolEvent_eq_some {step : Step} (loop : AgentLoop Step Observation)
    (eventType : AgentEventType) (outcome : Option String) (reason : Option PythonStr)
    (named : (run.auditIdentifier (run.tool step) "tool").isSome) :
    ∃ event, loop.toolEvent run step eventType outcome reason = some event ∧
      event.eventType = eventType := by
  obtain ⟨tool, rendered⟩ := Option.isSome_iff_exists.mp named
  exact ⟨_, by rw [toolEvent, rendered]; rfl, rfl⟩

theorem unterminated_store {event : AgentEvent} {stored : Bool} (unterminated : loop.Unterminated)
    (other : event.eventType ≠ .runTerminated) : (loop.store event stored).Unterminated := by
  cases stored with
  | false => exact unterminated
  | true =>
    intro recorded mem
    rcases List.mem_append.mp mem with earlier | last
    · exact unterminated recorded earlier
    · rw [List.mem_singleton.mp last]
      exact other

/-- The write of `RUN_TERMINATED` closes the trail. -/
theorem closed_of_terminated {outcome : LoopOutcome Observation} {ending : Ending Observation}
    (unterminated : loop.Unterminated)
    (account : ending.account = some (outcome.status.text, outcome.reasonCode)) :
    ({ loop.store (terminated outcome) true with point := .ended ending } :
      AgentLoop Step Observation).Closed :=
  ⟨ending, outcome.status.text, outcome.reasonCode, loop.events, terminated outcome, rfl, account,
    rfl, rfl, rfl, rfl, unterminated⟩

theorem Sound.ended {ending : Ending Observation} (point : loop.point = .ended ending)
    (closed : loop.Closed) : loop.Sound run where
  unterminated running := by simp [isEnded, point] at running
  announces _ _ written := by
    rw [point] at written
    cases written
  named := named_of_unselected (by simp [selected?, point])
  closed _ := closed

/-- The return of a write in an orderly run. -/
theorem Sound.resume {event : AgentEvent} {resume : Resume Step Observation}
    (sound : loop.Sound run) (point : loop.point = .recording event resume)
    (ordered : loop.orderly run .recorded) :
    ((loop.store event true).resume run resume).Sound run := by
  have announces := sound.announces event resume point
  have before : loop.Unterminated := sound.unterminated (by simp [isEnded, point])
  -- Only the last event of a run terminates it.
  have after (other : event.eventType ≠ .runTerminated) : (loop.store event true).Unterminated :=
    unterminated_store before other
  have named {step : Step} (selected : loop.selected? = some step) :
      (run.auditIdentifier (run.tool step) "tool").isSome := sound.named step selected
  cases resume with
  | runStarted =>
    simp only [AgentLoop.resume]
    split
    · exact .iterate (after announces)
    · exact .finish (after announces) (by simp [terminal])
  | plannerDecided step =>
    cases step with
    | none => exact .finish (after announces) (by simp [terminal])
    | some step =>
      simp only [orderly, point, Bool.and_eq_true] at ordered
      obtain ⟨tool, capability⟩ := ordered
      obtain ⟨toolName, toolRendered⟩ := Option.isSome_iff_exists.mp tool
      obtain ⟨capabilityName, capabilityRendered⟩ := Option.isSome_iff_exists.mp capability
      simp only [AgentLoop.resume, selectedEvent, toolRendered, capabilityRendered]
      apply Sound.await (after announces)
      · simp [Resume.Announces]
      · intro other selected
        cases selected
        exact tool
  | toolSelected step =>
    exact .selected (after announces) rfl (by intro _ _ point; cases point) rfl
      (named (by simp [selected?, point]))
  | authorizationDecided step allowed reason =>
    simp only [AgentLoop.resume]
    split
    · exact .selected (after announces) rfl (by intro _ _ point; cases point) rfl
        (named (by simp [selected?, point]))
    · exact .finish (after announces) (by simp [terminal])
  | budgetDecided step allowed reason =>
    simp only [AgentLoop.resume]
    split
    · exact .selected (after announces) rfl (by intro _ _ point; cases point) rfl
        (named (by simp [selected?, point]))
    · apply Sound.finish (after announces)
      simp only [terminal]
      split <;> simp
  | executionStarted step timeout =>
    exact .selected (after announces) rfl (by intro _ _ point; cases point) rfl
      (named (by simp [selected?, point]))
  | executionCompleted observation =>
    simp only [orderly, point] at ordered
    obtain ⟨fingerprint, taken⟩ := Option.isSome_iff_exists.mp ordered
    simp only [AgentLoop.resume, observationEvent, taken]
    exact .await (after announces) (by simp [Resume.Announces]) (named_of_unselected rfl)
  | observationReceived => exact .iterate (after announces)
  | failed outcome => exact .finish (after announces.1) announces.2
  | cancelled outcome =>
    obtain ⟨other, cancelled⟩ := announces
    exact .await (after other) ⟨rfl, cancelled⟩ (named_of_unselected rfl)
  | finished outcome =>
    obtain ⟨rfl, -⟩ := announces
    exact .ended rfl (closed_of_terminated before rfl)
  | reraised outcome =>
    obtain ⟨rfl, status, reason⟩ := announces
    apply Sound.ended rfl (closed_of_terminated before _)
    rw [status, reason]
    rfl

theorem Sound.invocationTimedOut {invocation : Invocation Step} (unterminated : loop.Unterminated) :
    (loop.invocationTimedOut run invocation).Sound run := by
  apply Sound.await unterminated
  · cases invocation <;> simp [Resume.Announces, terminal, depthEvent]
  · exact named_of_unselected rfl

theorem Sound.invocationFailed {invocation : Invocation Step} (unterminated : loop.Unterminated) :
    (loop.invocationFailed run invocation).Sound run := by
  cases invocation with
  | planner =>
    apply Sound.await unterminated
    · simp [Resume.Announces, terminal, depthEvent]
    · exact named_of_unselected rfl
  | policy step =>
    apply Sound.await unterminated
    · simp [Resume.Announces, terminal, depthEvent]
    · exact named_of_unselected rfl

/-- An event about the selected step can be built, so it is what the loop writes next. -/
theorem Sound.toolEvent {step : Step} {eventType : AgentEventType} {outcome : Option String}
    {reason : Option PythonStr} {resume : Resume Step Observation}
    (sound : loop.Sound run) (running : loop.isEnded = false) (selected : loop.selected? = some step)
    (announces : ∀ event : AgentEvent, event.eventType = eventType → resume.Announces event)
    (kept : ∀ event, (loop.await event resume).selected? = some step ∨
      (loop.await event resume).selected? = none) :
    (loop.awaitBuilt (loop.toolEvent run step eventType outcome reason) resume).Sound run := by
  have named := sound.named step selected
  obtain ⟨event, built, typed⟩ := toolEvent_eq_some loop eventType outcome reason named
  rw [built]
  apply Sound.await (sound.unterminated running) (announces event typed)
  intro other otherSelected
  rcases kept event with same | unselected
  · rw [same] at otherSelected
    cases otherSelected
    exact named
  · rw [unselected] at otherSelected
    cases otherSelected

/-- A cancellation of an orderly run. -/
theorem Sound.cancelled {event : AgentEvent} {resume : Resume Step Observation} {stored : Bool}
    (sound : loop.Sound run) (point : loop.point = .recording event resume)
    (ordered : loop.orderly run (.cancelled stored)) :
    ({ loop.store event stored with point := .ended .cancelled } :
      AgentLoop Step Observation).Sound run := by
  have announces := sound.announces event resume point
  have before : loop.Unterminated := sound.unterminated (by simp [isEnded, point])
  simp only [orderly, point] at ordered
  split at ordered
  next at_ => cases at_
  next at_ =>
    cases at_
    obtain ⟨rfl, status, reason⟩ := announces
    subst ordered
    apply Sound.ended rfl (closed_of_terminated before _)
    rw [status, reason]
    rfl
  next => cases ordered

/-- On to a point that selects no other step. -/
theorem Sound.moved {point : Point Step Observation} (sound : loop.Sound run)
    (running : loop.isEnded = false)
    (plain : ({ loop with point } : AgentLoop Step Observation).isEnded = false)
    (unwritten : ∀ event resume, point ≠ .recording event resume)
    (kept : ∀ step, ({ loop with point } : AgentLoop Step Observation).selected? = some step →
      loop.selected? = some step) :
    ({ loop with point } : AgentLoop Step Observation).Sound run := by
  have unterminated := sound.unterminated running
  exact .elsewhere unterminated plain unwritten fun step selected => sound.named step (kept step selected)

/-- Orderly steps keep the invariant. -/
theorem Sound.step (sound : loop.Sound run) (ordered : loop.orderly run signal)
    (unfailed : signal.isFailedWrite = false) (moved : run.Moves loop signal next) :
    next.Sound run := by
  cases moved with
  | ticked running =>
    exact ⟨sound.unterminated, sound.announces, sound.named, sound.closed⟩
  | recorded point => exact sound.resume point ordered
  | writeFailed point => cases unfailed
  | writeCancelled point => exact sound.cancelled point ordered
  -- The loop has no handler for it here, so the signal is not an orderly one.
  | invocationCancelled point => simp [orderly, point] at ordered
  | toolCancelled point =>
    apply sound.toolEvent (by simp [isEnded, point]) (by simp [selected?, point])
    · intro event typed
      simp [Resume.Announces, typed, terminal]
    · exact fun _ => .inr rfl
  | overdue point =>
    exact .finish (sound.unterminated (by simp [isEnded, point])) (by simp [terminal])
  | planning point early =>
    apply sound.moved (by simp [isEnded, point]) rfl (by simp)
    simp [selected?]
  | invocationLate point => exact .invocationTimedOut (sound.unterminated (by simp [isEnded, point]))
  | @invoked invocation nested point early =>
    apply sound.moved (by simp [isEnded, point]) rfl (by simp)
    cases invocation <;> simp [selected?, point]
  | startLate point =>
    exact .finish (sound.unterminated (by simp [isEnded, point])) (by simp [terminal])
  | starting point early =>
    apply sound.toolEvent (by simp [isEnded, point]) (by simp [selected?, point])
    · intro event typed
      simp [Resume.Announces, typed]
    · exact fun _ => .inl rfl
  | timeoutClassified point =>
    apply sound.toolEvent (by simp [isEnded, point]) (by simp [selected?, point])
    · intro event typed
      simp [Resume.Announces, typed, terminal]
    · exact fun _ => .inr rfl
  | @deferred invocation point =>
    apply sound.moved (by simp [isEnded, point]) rfl (by simp)
    cases invocation <;> simp [selected?, point]
  | invocationTimedOut point =>
    exact .invocationTimedOut (sound.unterminated (by simp [isEnded, point]))
  | invocationFailed point =>
    exact .invocationFailed (sound.unterminated (by simp [isEnded, point]))
  | invocationExits point => simp [orderly, point] at ordered
  | consumeRaised point => simp [orderly, point] at ordered
  | toolTimedOut point =>
    apply sound.moved (by simp [isEnded, point]) rfl (by simp)
    simp [selected?, point]
  | toolFailed point =>
    apply sound.toolEvent (by simp [isEnded, point]) (by simp [selected?, point])
    · intro event typed
      simp [Resume.Announces, typed, terminal]
    · exact fun _ => .inr rfl
  | toolExits point => simp [orderly, point] at ordered
  | planned point =>
    exact .await (sound.unterminated (by simp [isEnded, point]))
      (by simp [Resume.Announces, plannerEvent, depthEvent]) (named_of_unselected rfl)
  | @decided step nested decision point =>
    simp only [orderly, Bool.and_eq_true] at ordered
    -- What the gate decided can be read, so the event is built and awaited.
    obtain ⟨reasonRead, allowedRead⟩ := ordered
    obtain ⟨reason, reasonEq⟩ := Option.isSome_iff_exists.mp reasonRead
    obtain ⟨allowed, allowedEq⟩ := Option.isSome_iff_exists.mp allowedRead
    simp only [decide, reasonEq, allowedEq]
    apply Sound.await (sound.unterminated (by simp [isEnded, point]))
    · simp [Resume.Announces, authorizationEvent, depthEvent]
    · intro other selected
      cases selected
      exact sound.named step (by simp [selected?, point])
  | @consumed step answer point =>
    simp only [orderly, Bool.and_eq_true] at ordered
    obtain ⟨⟨reasonRead, allowedRead⟩, remainingRead⟩ := ordered
    obtain ⟨reason, reasonEq⟩ := Option.isSome_iff_exists.mp reasonRead
    obtain ⟨allowed, allowedEq⟩ := Option.isSome_iff_exists.mp allowedRead
    obtain ⟨remaining, remainingEq⟩ := Option.isSome_iff_exists.mp remainingRead
    simp only [consume, reasonEq, allowedEq, remainingEq]
    apply Sound.await (sound.unterminated (by simp [isEnded, point]))
    · simp [Resume.Announces, budgetEvent]
    · intro other selected
      cases selected
      exact sound.named step (by simp [selected?, point])
  | @executed step timeout observation point =>
    have named := sound.named step (by simp [selected?, point])
    obtain ⟨event, built, typed⟩ :=
      toolEvent_eq_some loop .toolExecutionCompleted (some "completed") none named
    rw [observe, built]
    exact .await (sound.unterminated (by simp [isEnded, point])) (by simp [Resume.Announces, typed])
      (named_of_unselected rfl)

/-! ## What a disorderly step leaves behind -/

/-- The run is over and its trail is not closed. -/
def Doomed (loop : AgentLoop Step Observation) : Prop :=
  loop.isEnded = true ∧ ¬loop.Closed

theorem doomed_escape : loop.escape.Doomed := by
  refine ⟨rfl, ?_⟩
  rintro ⟨ending, outcome, reason, earlier, event, point, account, -⟩
  cases point
  cases account

theorem doomed_of_unterminated {ending : Ending Observation} (point : loop.point = .ended ending)
    (unterminated : loop.Unterminated) : loop.Doomed := by
  refine ⟨by simp [isEnded, point], ?_⟩
  rintro ⟨_, outcome, reason, earlier, event, -, -, events, typed, -⟩
  apply unterminated event _ typed
  rw [events]
  simp

/-- `RUN_TERMINATED` is stored, but the caller sees a cancellation that it does not tell of. -/
theorem doomed_of_returned {outcome : LoopOutcome Observation}
    (uncancelled : outcome.status ≠ .cancelled) :
    ({ loop.store (terminated outcome) true with point := .ended .cancelled } :
      AgentLoop Step Observation).Doomed := by
  refine ⟨rfl, ?_⟩
  rintro ⟨ending, named, reason, earlier, event, point, account, events, -, told, -⟩
  cases point
  cases account
  have last : [terminated outcome] = [event] := List.append_inj_right' events rfl
  cases last
  cases status : outcome.status <;> simp [terminated, status, LoopStatus.text] at told uncancelled

theorem doomed_writeCancelled {event : AgentEvent} {resume : Resume Step Observation} {stored : Bool}
    (sound : loop.Sound run) (point : loop.point = .recording event resume)
    (disorderly : loop.orderly run (.cancelled stored) = false) :
    ({ loop.store event stored with point := .ended .cancelled } :
      AgentLoop Step Observation).Doomed := by
  have announces := sound.announces event resume point
  have before : loop.Unterminated := sound.unterminated (by simp [isEnded, point])
  cases stored with
  | false => exact doomed_of_unterminated rfl before
  | true =>
    have other (typed : event.eventType ≠ .runTerminated) :
        ({ loop.store event true with point := .ended .cancelled } :
          AgentLoop Step Observation).Doomed :=
      doomed_of_unterminated rfl (unterminated_store before typed)
    cases resume with
    | reraised outcome => simp [orderly, point] at disorderly
    | finished outcome =>
      obtain ⟨rfl, uncancelled⟩ := announces
      exact doomed_of_returned uncancelled
    | failed outcome => exact other announces.1
    | cancelled outcome => exact other announces.1
    | runStarted => exact other announces
    | plannerDecided step => exact other announces
    | toolSelected step => exact other announces
    | authorizationDecided step allowed reason => exact other announces
    | budgetDecided step allowed reason => exact other announces
    | executionStarted step timeout => exact other announces
    | executionCompleted observation => exact other announces
    | observationReceived => exact other announces

/-- What cannot be rendered, fingerprinted or read escapes. -/
theorem doomed_step (sound : loop.Sound run) (disorderly : loop.orderly run signal = false)
    (moved : run.Moves loop signal next) : next.Doomed := by
  cases moved with
  | writeCancelled point => exact doomed_writeCancelled sound point disorderly
  | invocationCancelled point =>
    exact doomed_of_unterminated rfl (sound.unterminated (by simp [isEnded, point]))
  | invocationExits point => exact doomed_escape
  | consumeRaised point => exact doomed_escape
  | toolExits point => exact doomed_escape
  -- What the loop has a handler for is orderly.
  | toolCancelled point => simp [orderly, point] at disorderly
  | invocationTimedOut point => simp [orderly, point] at disorderly
  | invocationFailed point => simp [orderly, point] at disorderly
  | toolTimedOut point => simp [orderly, point] at disorderly
  | toolFailed point => simp [orderly, point] at disorderly
  | @decided step nested decision point =>
    rw [decide]
    split
    next reason allowed reasonEq allowedEq => simp [orderly, reasonEq, allowedEq] at disorderly
    next => exact doomed_escape
  | @consumed step answer point =>
    rw [consume]
    split
    next reason allowed remaining reasonEq allowedEq remainingEq =>
      simp [orderly, reasonEq, allowedEq, remainingEq] at disorderly
    next => exact doomed_escape
  | @recorded event resume point =>
    cases resume with
    | plannerDecided step =>
      cases step with
      | none => simp [orderly, point] at disorderly
      | some step =>
        simp only [AgentLoop.resume, selectedEvent]
        cases tool : run.auditIdentifier (run.tool step) "tool" with
        | none => exact doomed_escape
        | some name =>
          cases capability : run.auditIdentifier (run.capability step) "capability" with
          | none => exact doomed_escape
          | some capabilityName => simp [orderly, point, tool, capability] at disorderly
    | executionCompleted observation =>
      simp only [AgentLoop.resume, observationEvent]
      cases taken : run.auditFingerprint observation with
      | none => exact doomed_escape
      | some fingerprint => simp [orderly, point, taken] at disorderly
    | _ => simp [orderly, point] at disorderly
  | _ => simp [orderly] at disorderly

theorem not_moves_of_ended (ended : loop.isEnded = true) : ¬run.Moves loop signal next := by
  intro moved
  cases moved <;> simp_all [isEnded]

theorem begin_sound (started : ℚ) : (run.begin started : AgentLoop Step Observation).Sound run where
  unterminated _ := by simp [Unterminated, AgentRun.begin]
  announces _ _ point := by
    cases point
    simp [Resume.Announces]
  named := named_of_unselected rfl
  closed ended := by cases ended

/-- A run that ends ends closed or doomed, and which of the two its steps decide. -/
theorem closed_iff_orderly {started : ℚ} {signals : List (Signal Step Observation)}
    (ran : Transition.run run.step (run.begin started) signals = some loop)
    (written : ∀ signal ∈ signals, signal.isFailedWrite = false) (ended : loop.isEnded = true) :
    loop.Closed ↔
      Transition.Throughout run.step (fun loop signal => loop.orderly run signal = true)
        (run.begin started) signals := by
  have unfailed : Transition.Throughout run.step (fun _ signal => signal.isFailedWrite = false)
      (run.begin started) signals := Transition.throughout_of_mem written
  constructor
  · intro closed
    have either := Transition.throughout_or_doomed (Sound run) Doomed
      (fun _ _ _ sound unfailed ordered stepped =>
        sound.step ordered unfailed (AgentRun.moves_of_step stepped))
      (fun _ _ _ sound _ disorderly stepped =>
        doomed_step sound (Bool.eq_false_of_not_eq_true disorderly) (AgentRun.moves_of_step stepped))
      (fun _ _ _ doomed _ stepped =>
        (not_moves_of_ended doomed.1 (AgentRun.moves_of_step stepped)).elim)
      (begin_sound started) unfailed ran
    exact either.resolve_right fun doomed => doomed.2 closed
  · intro ordered
    have sound := Transition.run_invariant_throughout (Sound run)
      (fun _ _ _ sound met stepped => sound.step met.1 met.2 (AgentRun.moves_of_step stepped))
      (begin_sound started) (ordered.and unfailed) ran
    exact sound.closed ended

end AgentLoop

/-- A run in which no audit write fails goes on until it ends, and soon; it then has closed
its trail exactly when its steps were orderly. -/
theorem agent_run_closed_iff (run : AgentRun Step Observation) (started : ℚ)
    (signals : List (Signal Step Observation)) (loop : AgentLoop Step Observation)
    (ran : Transition.run run.step (run.begin started) signals = some loop)
    (written : ∀ signal ∈ signals, signal.isFailedWrite = false) :
    signals.countP (fun signal => !signal.isTick) ≤ 20 * run.limits.maxDepth + 21 ∧
      (loop.isEnded = false → ∃ signal, signal.isTick = false ∧ signal.isFailedWrite = false ∧
        (run.step loop signal).isSome) ∧
      (loop.isEnded = true →
        (loop.Closed ↔
          Transition.Throughout run.step (fun loop signal => loop.orderly run signal = true)
            (run.begin started) signals)) := by
  have within : (run.begin started : AgentLoop Step Observation).Within run :=
    AgentLoop.within_of_not_iterating rfl
  have bound := Transition.countP_add_measure_le (AgentLoop.Within run)
    (AgentLoop.remainingSteps run) (fun signal => !signal.isTick)
    (fun _ _ _ within stepped => within.step (AgentRun.moves_of_step stepped))
    (fun _ _ _ within stepped => AgentLoop.remainingSteps_step within (AgentRun.moves_of_step stepped))
    within ran
  have start : (run.begin started : AgentLoop Step Observation).remainingSteps run =
      20 * run.limits.maxDepth + 21 := rfl
  exact ⟨by omega, AgentLoop.exists_step, AgentLoop.closed_iff_orderly ran written⟩

/-! ## A run that completes and one that is cancelled while it plans -/

/-- One tool call at most; the tool returns `None`. -/
def oneStepAgent : AgentRun Unit Unit where
  limits := .single
  asyncExecute := true
  isAlnum character := (Char.ofNat character).isAlphanum
  isUpper character := (Char.ofNat character).isUpper
  isDigit character := (Char.ofNat character).isDigit
  sha256 _ := "74234e98afe7498fb5daf1f36ac2d78acc339464f950703b8c019892f982b90b"
  truthy _ := true
  tool _ := some "lookup"
  capability _ := some "knowledge.read"
  typeName _ := "NoneType"
  dumps _ := some "null"

def completedSignals : List (Signal Unit Unit) :=
  [.recorded, .proceed, .proceed, .planned (some ()), .recorded, .recorded, .proceed,
    .decided ⟨.value (some "AUTHORIZED"), .value true⟩, .recorded,
    .consumed ⟨.value (some "BUDGET_GRANTED"), .value true, .value 1⟩, .recorded, .proceed,
    .recorded, .executed (), .recorded, .recorded, .recorded]

theorem agent_run_closed_iff_completed :
    ∃ loop, Transition.run oneStepAgent.step (oneStepAgent.begin 0) completedSignals = some loop ∧
      loop.Closed := by
  have ends : (Transition.run oneStepAgent.step (oneStepAgent.begin 0) completedSignals).map
      AgentLoop.isEnded = some true := by decide +kernel
  obtain ⟨loop, ran, ended⟩ := Option.map_eq_some_iff.mp ends
  have closed := (agent_run_closed_iff oneStepAgent 0 completedSignals loop ran (by decide)).2.2 ended
  exact ⟨loop, ran, closed.mpr (by decide +kernel)⟩

/-- The caller cancels the run while the planner is awaited: the trail stays open. -/
theorem planning_cancellation_unclosed :
    ¬∀ (run : AgentRun Unit Unit) (started : ℚ) (signals : List (Signal Unit Unit))
      (loop : AgentLoop Unit Unit),
      Transition.run run.step (run.begin started) signals = some loop →
      (∀ signal ∈ signals, signal.isFailedWrite = false) →
      (∃ event ∈ loop.events, event.eventType = .runStarted) →
      loop.isEnded = true → loop.Closed := by
  intro closed
  have ends : (Transition.run oneStepAgent.step (oneStepAgent.begin 0)
      [.recorded, .proceed, .proceed, .cancelled false]).map
      (fun loop => (loop.isEnded, loop.events.map AgentEvent.eventType)) =
        some (true, [.runStarted]) := by decide +kernel
  obtain ⟨loop, ran, left⟩ := Option.map_eq_some_iff.mp ends
  obtain ⟨ended, types⟩ := Prod.mk.inj left
  have started : ∃ event ∈ loop.events, event.eventType = .runStarted := by
    apply List.mem_map.mp
    rw [types]
    exact List.mem_singleton_self _
  obtain ⟨_, outcome, reason, earlier, event, -, -, events, typed, -⟩ :=
    closed oneStepAgent 0 _ loop ran (by decide) started ended
  have last : event.eventType ∈ loop.events.map AgentEvent.eventType := by simp [events]
  rw [types, List.mem_singleton, typed] at last
  cases last

end Eiraos.Agent
