import Eiraos.Agent.Loop

/-! # What the steps of the loop keep

An iteration starts below the depth limit, a run on its way out stays so, and only the end
of an iteration makes a run deeper.
-/

namespace Eiraos.Agent

variable {Step Observation : Type} {run : AgentRun Step Observation}
  {loop next : AgentLoop Step Observation} {signal : Signal Step Observation}

namespace AgentLoop

/-- The points of an iteration that has not completed its tool. -/
def iterating (loop : AgentLoop Step Observation) : Bool :=
  match loop.point with
  | .recording _ resume =>
    match resume with
    | .plannerDecided _ | .toolSelected _ | .authorizationDecided .. | .budgetDecided ..
    | .executionStarted .. | .executionCompleted _ => true
    | _ => false
  | .looping | .invoking .. | .awaiting .. | .consuming _ | .measuring _ | .executing .. => true
  | .toolTimedOut _ | .ended _ => false

/-- An iteration starts below the depth limit. -/
def Within (run : AgentRun Step Observation) (loop : AgentLoop Step Observation) : Prop :=
  loop.iterating → loop.depth < run.limits.maxDepth

@[simp] theorem point_await {event : AgentEvent} {resume : Resume Step Observation} :
    (loop.await event resume).point = .recording event resume := rfl

@[simp] theorem depth_await {event : AgentEvent} {resume : Resume Step Observation} :
    (loop.await event resume).depth = loop.depth := rfl

@[simp] theorem events_await {event : AgentEvent} {resume : Resume Step Observation} :
    (loop.await event resume).events = loop.events := rfl

@[simp] theorem depth_store {event : AgentEvent} {stored : Bool} :
    (loop.store event stored).depth = loop.depth := by
  cases stored <;> rfl

/-- What holds at the write and after an escape holds once the event is built. -/
theorem awaitBuilt_cases {P : AgentLoop Step Observation → Prop} {event : Option AgentEvent}
    {resume : Resume Step Observation} (written : ∀ built, event = some built → P (loop.await built resume))
    (escaped : event = none → P loop.escape) : P (loop.awaitBuilt event resume) := by
  cases event with
  | none => exact escaped rfl
  | some built => exact written built rfl

theorem within_of_not_iterating (outside : loop.iterating = false) : loop.Within run := by
  intro inside
  rw [outside] at inside
  cases inside

theorem within_finish {outcome : LoopOutcome Observation} : (loop.finish outcome).Within run :=
  within_of_not_iterating rfl

theorem within_escape : loop.escape.Within run := within_of_not_iterating rfl

theorem within_iterate : (loop.iterate run).Within run := by
  rw [iterate]
  split
  next below => exact fun _ => below
  next => exact within_finish

theorem Within.of_depth (below : loop.depth < run.limits.maxDepth) : loop.Within run := fun _ => below

theorem within_awaitBuilt {event : Option AgentEvent} {resume : Resume Step Observation}
    (within : ∀ built, (loop.await built resume).Within run) :
    (loop.awaitBuilt event resume).Within run :=
  awaitBuilt_cases (fun built _ => within built) fun _ => within_escape

theorem within_invocationTimedOut {invocation : Invocation Step} :
    (loop.invocationTimedOut run invocation).Within run := within_of_not_iterating rfl

theorem within_invocationFailed {invocation : Invocation Step} :
    (loop.invocationFailed run invocation).Within run := by
  cases invocation <;> exact within_of_not_iterating rfl

/-- The next point lies in the same iteration, or starts one below the limit, or in none. -/
theorem Within.resume {event : AgentEvent} {resume : Resume Step Observation}
    (point : loop.point = .recording event resume) (within : loop.Within run) :
    ((loop.store event true).resume run resume).Within run := by
  have below : loop.iterating → (loop.store event true).depth < run.limits.maxDepth := by
    rw [depth_store]
    exact within
  cases resume with
  | runStarted =>
    simp only [AgentLoop.resume]
    split
    · exact within_iterate
    · exact within_finish
  | plannerDecided step =>
    cases step with
    | none => exact within_finish
    | some step =>
      apply within_awaitBuilt
      exact fun _ => .of_depth (below (by simp [iterating, point]))
  | toolSelected step => exact .of_depth (below (by simp [iterating, point]))
  | authorizationDecided step allowed reason =>
    simp only [AgentLoop.resume]
    split
    · exact .of_depth (below (by simp [iterating, point]))
    · exact within_finish
  | budgetDecided step allowed reason =>
    simp only [AgentLoop.resume]
    split
    · exact .of_depth (below (by simp [iterating, point]))
    · exact within_finish
  | executionStarted step timeout => exact .of_depth (below (by simp [iterating, point]))
  | executionCompleted observation =>
    apply within_awaitBuilt
    exact fun _ => within_of_not_iterating rfl
  | observationReceived => exact within_iterate
  | failed outcome => exact within_finish
  | cancelled outcome => exact within_of_not_iterating rfl
  | finished outcome => exact within_of_not_iterating rfl
  | reraised outcome => exact within_of_not_iterating rfl

theorem Within.step (within : loop.Within run) (moved : run.Moves loop signal next) :
    next.Within run := by
  cases moved with
  | ticked running => exact within
  | recorded point => exact within.resume point
  | writeFailed point => exact within_escape
  | writeCancelled point => exact within_of_not_iterating rfl
  | invocationCancelled point => exact within_of_not_iterating rfl
  | toolCancelled point => exact within_awaitBuilt fun _ => within_of_not_iterating rfl
  | overdue point => exact within_finish
  | planning point early => exact .of_depth (within (by simp [iterating, point]))
  | invocationLate point => exact within_invocationTimedOut
  | invoked point early => exact .of_depth (within (by simp [iterating, point]))
  | startLate point => exact within_finish
  | starting point early =>
    exact within_awaitBuilt fun _ => .of_depth (within (by simp [iterating, point]))
  | timeoutClassified point => exact within_awaitBuilt fun _ => within_of_not_iterating rfl
  | deferred point => exact .of_depth (within (by simp [iterating, point]))
  | invocationTimedOut point => exact within_invocationTimedOut
  | invocationFailed point => exact within_invocationFailed
  | invocationExits point => exact within_escape
  | consumeRaised point => exact within_escape
  | toolTimedOut point => exact within_of_not_iterating rfl
  | toolFailed point => exact within_awaitBuilt fun _ => within_of_not_iterating rfl
  | toolExits point => exact within_escape
  | planned point => exact .of_depth (within (by simp [iterating, point]))
  | decided point =>
    rw [decide]
    split
    · exact .of_depth (within (by simp [iterating, point]))
    · exact within_escape
  | consumed point =>
    rw [consume]
    split
    · exact .of_depth (within (by simp [iterating, point]))
    · exact within_escape
  | executed point => exact within_awaitBuilt fun _ => .of_depth (within (by simp [iterating, point]))

/-! ## Leaving the loop -/

/-- The run is on its way out: no tool is called any more. -/
def closing (loop : AgentLoop Step Observation) : Bool :=
  match loop.point with
  | .recording _ resume =>
    match resume with
    | .failed _ | .cancelled _ | .finished _ | .reraised _ => true
    | _ => false
  | .toolTimedOut _ | .ended _ => true
  | _ => false

theorem closing_awaitBuilt {event : Option AgentEvent} {resume : Resume Step Observation}
    (closing : ∀ built, (loop.await built resume).closing = true) :
    (loop.awaitBuilt event resume).closing = true :=
  awaitBuilt_cases (P := fun next => next.closing = true) (fun built _ => closing built)
    fun _ => rfl

theorem closing_invocationFailed {invocation : Invocation Step} :
    (loop.invocationFailed run invocation).closing = true := by
  cases invocation <;> rfl

/-- The points a run can be at when an audit write has returned. -/
inductive Resumed : Point Step Observation → Prop where
  | selected {event step} : Resumed (.recording event (.toolSelected step))
  | observed {event} : Resumed (.recording event .observationReceived)
  | finishing {event outcome} : Resumed (.recording event (.finished outcome))
  | reraising {event outcome} : Resumed (.recording event (.reraised outcome))
  | looping : Resumed .looping
  | authorizing {step} : Resumed (.invoking (.policy step) false)
  | consuming {step} : Resumed (.consuming step)
  | measuring {step} : Resumed (.measuring step)
  | executing {step timeout} : Resumed (.executing step timeout)
  | ended {ending} : Resumed (.ended ending)

theorem resumed_iterate : Resumed (loop.iterate run).point := by
  rw [iterate]
  split
  · exact .looping
  · exact .finishing

theorem resumed_resume (resume : Resume Step Observation) : Resumed (loop.resume run resume).point := by
  cases resume with
  | runStarted =>
    simp only [AgentLoop.resume]
    split
    · exact resumed_iterate
    · exact .finishing
  | plannerDecided step =>
    cases step with
    | none => exact .finishing
    | some step =>
      exact awaitBuilt_cases (P := fun next => Resumed next.point) (fun _ _ => .selected) fun _ => .ended
  | toolSelected step => exact .authorizing
  | authorizationDecided step allowed reason =>
    simp only [AgentLoop.resume]
    split
    · exact .consuming
    · exact .finishing
  | budgetDecided step allowed reason =>
    simp only [AgentLoop.resume]
    split
    · exact .measuring
    · exact .finishing
  | executionStarted step timeout => exact .executing
  | executionCompleted observation =>
    exact awaitBuilt_cases (P := fun next => Resumed next.point) (fun _ _ => .observed) fun _ => .ended
  | observationReceived => exact resumed_iterate
  | failed outcome => exact .finishing
  | cancelled outcome => exact .reraising
  | finished outcome => exact .ended
  | reraised outcome => exact .ended

theorem awaitBuilt_not_awaiting {event : Option AgentEvent} {resume : Resume Step Observation}
    {invocation : Invocation Step} {nested : Bool} :
    (loop.awaitBuilt event resume).point ≠ .awaiting invocation nested := by
  cases event <;> simp [AgentLoop.awaitBuilt, AgentLoop.escape]

theorem resume_not_awaiting {resume : Resume Step Observation}
    {invocation : Invocation Step} {nested : Bool} :
    (loop.resume run resume).point ≠ .awaiting invocation nested := by
  have resumed := @resumed_resume _ _ run loop resume
  intro awaiting
  rw [awaiting] at resumed
  cases resumed

/-! ## What a step leaves alone -/

section Frame

variable {Value : Type*} {read : AgentLoop Step Observation → Value}

theorem awaitBuilt_frame
    (elsewhere : ∀ (loop : AgentLoop Step Observation) point, read { loop with point } = read loop)
    {event : Option AgentEvent} {resume : Resume Step Observation} :
    read (loop.awaitBuilt event resume) = read loop := by
  cases event <;> exact elsewhere _ _

theorem iterate_frame
    (elsewhere : ∀ (loop : AgentLoop Step Observation) point, read { loop with point } = read loop) :
    read (loop.iterate run) = read loop := by
  rw [iterate]
  split <;> exact elsewhere _ _

/-- The code up to the next await moves on, and the end of an iteration makes the run deeper. -/
theorem resume_frame
    (elsewhere : ∀ (loop : AgentLoop Step Observation) point, read { loop with point } = read loop)
    (run : AgentRun Step Observation) (loop : AgentLoop Step Observation)
    (resume : Resume Step Observation) :
    read (loop.resume run resume) = read loop ∨
      ∃ observation, resume = .executionCompleted observation ∧
        read (loop.resume run resume) = read { loop with depth := loop.depth + 1 } := by
  cases resume with
  | executionCompleted observation => exact .inr ⟨observation, rfl, awaitBuilt_frame elsewhere⟩
  | runStarted =>
    left
    simp only [AgentLoop.resume]
    split
    · exact iterate_frame elsewhere
    · exact elsewhere _ _
  | plannerDecided step =>
    left
    cases step with
    | none => exact elsewhere _ _
    | some step => exact awaitBuilt_frame elsewhere
  | authorizationDecided step allowed reason =>
    left
    simp only [AgentLoop.resume]
    split <;> exact elsewhere _ _
  | budgetDecided step allowed reason =>
    left
    simp only [AgentLoop.resume]
    split <;> exact elsewhere _ _
  | observationReceived => exact .inl (iterate_frame elsewhere)
  | _ => exact .inl (elsewhere _ _)

/-- A step leaves alone what is not the point, the clock, the observation or the trail, unless
it ends an iteration. -/
theorem step_frame (elsewhere : ∀ (loop : AgentLoop Step Observation) point now observation events,
      read { loop with point, now, observation, events } = read loop)
    (moved : run.Moves loop signal next) :
    read next = read loop ∨
      ∃ event observation, loop.point = .recording event (.executionCompleted observation) ∧
        read next = read { loop with depth := loop.depth + 1 } := by
  have moves (loop : AgentLoop Step Observation) (point : Point Step Observation) :
      read { loop with point } = read loop := elsewhere loop point loop.now loop.observation loop.events
  have stores (loop : AgentLoop Step Observation) (event : AgentEvent) (stored : Bool) :
      read (loop.store event stored) = read loop := by
    cases stored with
    | false => rfl
    | true => exact elsewhere loop loop.point loop.now loop.observation (loop.events ++ [event])
  cases moved with
  | @ticked now running => exact .inl (elsewhere loop loop.point now loop.observation loop.events)
  | @recorded event resume point =>
    rcases resume_frame moves run (loop.store event true) resume with same | ⟨observation, rfl, more⟩
    · exact .inl (same.trans (stores loop event true))
    · refine .inr ⟨event, observation, point, more.trans ?_⟩
      exact elsewhere { loop with depth := loop.depth + 1 } loop.point loop.now loop.observation _
  | writeFailed point => exact .inl ((moves _ _).trans (stores _ _ _))
  | writeCancelled point => exact .inl ((moves _ _).trans (stores _ _ _))
  | toolCancelled point => exact .inl (awaitBuilt_frame moves)
  | starting point early => exact .inl (awaitBuilt_frame moves)
  | timeoutClassified point => exact .inl (awaitBuilt_frame moves)
  | @invocationFailed invocation nested point => cases invocation <;> exact .inl (moves _ _)
  | toolFailed point => exact .inl (awaitBuilt_frame moves)
  | @executed step timeout observation point =>
    refine .inl ((awaitBuilt_frame moves).trans ?_)
    exact elsewhere loop loop.point loop.now (some observation) loop.events
  | decided point =>
    left
    rw [AgentLoop.decide]
    split <;> exact moves _ _
  | consumed point =>
    left
    rw [AgentLoop.consume]
    split <;> exact moves _ _
  | _ => exact .inl (moves _ _)

end Frame

theorem depth_awaitBuilt {event : Option AgentEvent} {resume : Resume Step Observation} :
    (loop.awaitBuilt event resume).depth = loop.depth := awaitBuilt_frame fun _ _ => rfl

theorem events_awaitBuilt {event : Option AgentEvent} {resume : Resume Step Observation} :
    (loop.awaitBuilt event resume).events = loop.events := awaitBuilt_frame fun _ _ => rfl

theorem events_resume {resume : Resume Step Observation} :
    (loop.resume run resume).events = loop.events := by
  have frame := @resume_frame _ _ _ AgentLoop.events (fun _ _ => rfl) run loop resume
  exact frame.elim id fun ⟨_, _, same⟩ => same

/-- Only the end of an iteration makes the run deeper. -/
theorem depth_step (moved : run.Moves loop signal next) :
    next.depth = loop.depth ∨
      ∃ event observation, loop.point = .recording event (.executionCompleted observation) ∧
        next.depth = loop.depth + 1 :=
  step_frame (fun _ _ _ _ _ => rfl) moved

/-- The deadline never moves. -/
theorem started_step (moved : run.Moves loop signal next) : next.started = loop.started := by
  have frame := @step_frame _ _ _ _ _ _ _ AgentLoop.started (fun _ _ _ _ _ => rfl) moved
  exact frame.elim id fun ⟨_, _, _, same⟩ => same

/-- The clock moves at its ticks only. -/
theorem now_step (moved : run.Moves loop signal next) : signal = .tick next.now ∨ next.now = loop.now := by
  cases moved with
  | ticked running => exact .inl rfl
  | @recorded event resume point =>
    right
    rcases @resume_frame _ _ _ AgentLoop.now (fun _ _ => rfl) run (loop.store event true) resume with
      same | ⟨_, _, same⟩
    · exact same
    · exact same
  | @writeFailed event resume stored point => cases stored <;> exact .inr rfl
  | @writeCancelled event resume stored point => cases stored <;> exact .inr rfl
  | toolCancelled point => exact .inr (awaitBuilt_frame fun _ _ => rfl)
  | starting point early => exact .inr (awaitBuilt_frame fun _ _ => rfl)
  | timeoutClassified point => exact .inr (awaitBuilt_frame fun _ _ => rfl)
  | @invocationFailed invocation nested point => cases invocation <;> exact .inr rfl
  | toolFailed point => exact .inr (awaitBuilt_frame fun _ _ => rfl)
  | executed point => exact .inr (awaitBuilt_frame fun _ _ => rfl)
  | decided point =>
    right
    rw [decide]
    split <;> rfl
  | consumed point =>
    right
    rw [consume]
    split <;> rfl
  | _ => exact .inr rfl

theorem events_store {event : AgentEvent} {stored : Bool} :
    (loop.store event stored).events = loop.events ∨
      (loop.store event stored).events = loop.events ++ [event] := by
  cases stored with
  | false => exact .inl rfl
  | true => exact .inr rfl

/-- A step stores one event at most. -/
theorem events_step (moved : run.Moves loop signal next) :
    next.events = loop.events ∨ ∃ event, next.events = loop.events ++ [event] := by
  cases moved with
  | @recorded event resume point => exact .inr ⟨event, events_resume⟩
  | @writeFailed event resume stored point => exact events_store.imp_right fun more => ⟨event, more⟩
  | @writeCancelled event resume stored point =>
    exact events_store.imp_right fun more => ⟨event, more⟩
  | toolCancelled point => exact .inl events_awaitBuilt
  | starting point early => exact .inl events_awaitBuilt
  | timeoutClassified point => exact .inl events_awaitBuilt
  | @invocationFailed invocation nested point => cases invocation <;> exact .inl rfl
  | toolFailed point => exact .inl events_awaitBuilt
  | executed point => exact .inl events_awaitBuilt
  | decided point =>
    left
    rw [decide]
    split <;> rfl
  | consumed point =>
    left
    rw [consume]
    split <;> rfl
  | _ => exact .inl rfl

/-- A run on its way out stays so. -/
theorem closing_step (closing : loop.closing = true) (moved : run.Moves loop signal next) :
    next.closing = true := by
  cases moved with
  | ticked running => exact closing
  | @recorded event resume point =>
    cases resume with
    | failed outcome => rfl
    | cancelled outcome => rfl
    | finished outcome => rfl
    | reraised outcome => rfl
    | _ => simp [AgentLoop.closing, point] at closing
  | writeFailed point => rfl
  | writeCancelled point => rfl
  | timeoutClassified point => exact closing_awaitBuilt fun _ => rfl
  | invocationCancelled point => rfl
  | _ => simp_all [AgentLoop.closing]

theorem running_of_step (moved : run.Moves loop signal next) (onward : next.closing = false) :
    loop.closing = false := by
  by_contra closing
  rw [closing_step (by simpa using closing) moved] at onward
  cases onward

end AgentLoop

end Eiraos.Agent
