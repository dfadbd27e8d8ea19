import Eiraos.Agent.Closure

/-! # The deadline of a run

A tool may start when the write of `TOOL_EXECUTION_STARTED` returns, but what it is given to
run was computed before that write.  It starts before the deadline, and has to stop by it,
exactly when the write took no time or the tool's own limit still fits.
-/

namespace Eiraos.Agent

variable {Step Observation : Type} {run : AgentRun Step Observation}
  {loop next : AgentLoop Step Observation} {signal : Signal Step Observation}

/-! ## Starting a tool -/

namespace AgentLoop

/-- The timeout of the tool that starts when the write under way returns. -/
def starting? (loop : AgentLoop Step Observation) : Option ℚ :=
  match loop.point with
  | .recording _ (.executionStarted _ timeout) => some timeout
  | _ => none

theorem starting?_awaitBuilt {event : Option AgentEvent} {resume : Resume Step Observation}
    (other : ∀ built, (loop.await built resume).starting? = none) :
    (loop.awaitBuilt event resume).starting? = none :=
  awaitBuilt_cases (P := fun next => next.starting? = none) (fun built _ => other built) fun _ => rfl

theorem starting?_resume (resume : Resume Step Observation) : (loop.resume run resume).starting? = none := by
  have resumed := @resumed_resume _ _ run loop resume
  unfold starting?
  generalize (loop.resume run resume).point = point at resumed
  cases resumed <;> rfl

/-- The write before a tool is entered from the measurement of the time that remains, and the
clock may go on while it is under way. -/
theorem starting?_step {timeout : ℚ} (moved : run.Moves loop signal next)
    (starting : next.starting? = some timeout) :
    (∃ now, signal = .tick now ∧ next.now = now ∧ loop.starting? = some timeout) ∨
      (signal = .proceed ∧ (∃ step, loop.point = .measuring step) ∧ loop.now < loop.deadline run ∧
        next.now = loop.now ∧ timeout = min run.limits.toolTimeoutSeconds (loop.deadline run - loop.now)) := by
  have never (other : next.starting? = none) : False := by
    rw [other] at starting
    cases starting
  cases moved with
  | @ticked now running => exact .inl ⟨now, rfl, rfl, starting⟩
  | @starting step point early =>
    right
    refine ⟨rfl, ⟨step, point⟩, early, ?_⟩
    cases built : loop.toolEvent run step .toolExecutionStarted none none with
    | none =>
      rw [built] at starting
      cases starting
    | some event =>
      rw [built] at starting
      exact ⟨rfl, (Option.some.inj starting).symm⟩
  | recorded point => exact (never (starting?_resume _)).elim
  | toolCancelled point => exact (never (starting?_awaitBuilt fun _ => rfl)).elim
  | timeoutClassified point => exact (never (starting?_awaitBuilt fun _ => rfl)).elim
  | toolFailed point => exact (never (starting?_awaitBuilt fun _ => rfl)).elim
  | executed point => exact (never (starting?_awaitBuilt fun _ => rfl)).elim
  | @invocationFailed invocation nested point => cases invocation <;> cases starting
  | decided point =>
    rw [decide] at starting
    split at starting <;> cases starting
  | consumed point =>
    rw [consume] at starting
    split at starting <;> cases starting
  | _ => cases starting

end AgentLoop

/-! ## The loop under a clock -/

/-- A call of `execute`: the clock at its begin, and the timeout `wait_for` is given. -/
structure ToolStart where
  time : ℚ
  timeout : ℚ
  deriving DecidableEq

/-- The tool has time left, and no more than the run. -/
def ToolStart.Timely (deadline : ℚ) (start : ToolStart) : Prop :=
  start.time < deadline ∧ start.time + start.timeout ≤ deadline

/-- The loop, the last clock reading that `remaining` was computed from, and the tools that
were started. -/
structure ClockedLoop (Step Observation : Type) where
  loop : AgentLoop Step Observation
  measured : ℚ
  starts : List ToolStart
  deriving DecidableEq

/-- The clock does not go back. -/
def Signal.goesOn (loop : AgentLoop Step Observation) : Signal Step Observation → Bool
  | .tick now => loop.now ≤ now
  | _ => true

namespace ClockedLoop

/-- The tool that the signal starts. -/
def start? (state : ClockedLoop Step Observation) : Signal Step Observation → Option ToolStart
  | .recorded => state.loop.starting?.map fun timeout => ⟨state.loop.now, timeout⟩
  | _ => none

/-- The reading of `remaining = deadline - clock()`. -/
def measure (state : ClockedLoop Step Observation) : Signal Step Observation → ℚ
  | .proceed =>
    match state.loop.point with
    | .measuring _ => state.loop.now
    | _ => state.measured
  | _ => state.measured

def step (run : AgentRun Step Observation) (state : ClockedLoop Step Observation)
    (signal : Signal Step Observation) : Option (ClockedLoop Step Observation) :=
  if signal.goesOn state.loop then
    (run.step state.loop signal).map fun loop =>
      ⟨loop, state.measure signal, state.starts ++ (state.start? signal).toList⟩
  else none

def begin (run : AgentRun Step Observation) (started : ℚ) : ClockedLoop Step Observation where
  loop := run.begin started
  measured := started
  starts := []

/-- The write before the tool took no time, or the tool's limit ends before the deadline. -/
def StartsInTime (run : AgentRun Step Observation) (state : ClockedLoop Step Observation)
    (signal : Signal Step Observation) : Prop :=
  (state.start? signal).isSome →
    state.loop.now = state.measured ∨
      state.loop.now + run.limits.toolTimeoutSeconds ≤ state.loop.deadline run

instance decidableStartsInTime (run : AgentRun Step Observation) (state : ClockedLoop Step Observation)
    (signal : Signal Step Observation) : Decidable (StartsInTime run state signal) :=
  inferInstanceAs (Decidable (_ → _))

variable {state after : ClockedLoop Step Observation}

theorem step_eq_some : step run state signal = some after ↔
    signal.goesOn state.loop = true ∧ ∃ loop, run.step state.loop signal = some loop ∧
      after = ⟨loop, state.measure signal, state.starts ++ (state.start? signal).toList⟩ := by
  unfold step
  split
  next goes => simp [goes, eq_comm]
  next stays => simp [stays]

/-- The runs under a clock are the runs of the loop whose clock does not go back. -/
theorem run_iff {signals : List (Signal Step Observation)} :
    (∃ final, Transition.run (step run) state signals = some final ∧ final.loop = next) ↔
      Transition.run run.step state.loop signals = some next ∧
        Transition.Throughout run.step (fun loop signal => signal.goesOn loop = true) state.loop
          signals := by
  induction signals generalizing state with
  | nil => simp [Transition.Throughout]
  | cons signal signals inductionHypothesis =>
    constructor
    · rintro ⟨final, ran, reached⟩
      obtain ⟨later, stepped, rest⟩ := Transition.run_cons_eq_some.mp ran
      obtain ⟨goes, loop, moved, rfl⟩ := step_eq_some.mp stepped
      obtain ⟨ran, goesOn⟩ := inductionHypothesis.mp ⟨final, rest, reached⟩
      rw [Transition.Throughout, moved]
      exact ⟨Transition.run_cons_eq_some.mpr ⟨loop, moved, ran⟩, goes, goesOn⟩
    · rintro ⟨ran, goes, goesOn⟩
      obtain ⟨loop, moved, rest⟩ := Transition.run_cons_eq_some.mp ran
      rw [moved] at goesOn
      obtain ⟨final, ran, reached⟩ := (@inductionHypothesis
        ⟨loop, state.measure signal, state.starts ++ (state.start? signal).toList⟩).mpr ⟨rest, goesOn⟩
      have stepped := step_eq_some.mpr ⟨goes, loop, moved, rfl⟩
      exact ⟨final, Transition.run_cons_eq_some.mpr ⟨_, stepped, ran⟩, reached⟩

/-! ## The invariant -/

/-- A tool that is about to start was given what remained when it was measured. -/
structure Metered (run : AgentRun Step Observation) (started : ℚ) (state : ClockedLoop Step Observation) :
    Prop where
  started : state.loop.started = started
  given : ∀ timeout, state.loop.starting? = some timeout →
    timeout = min run.limits.toolTimeoutSeconds (state.loop.deadline run - state.measured)
  early : state.loop.starting?.isSome → state.measured < state.loop.deadline run
  passed : state.loop.starting?.isSome → state.measured ≤ state.loop.now

theorem Metered.deadline {started : ℚ} (metered : state.Metered run started) :
    state.loop.deadline run = started + run.limits.timeoutSeconds := by
  rw [AgentLoop.deadline, metered.started]

theorem metered_begin (run : AgentRun Step Observation) (started : ℚ) :
    (begin run started).Metered run started where
  started := rfl
  given _ starting := by cases starting
  early starting := by cases starting
  passed starting := by cases starting

theorem Metered.step {started : ℚ} (metered : state.Metered run started)
    (stepped : step run state signal = some after) : after.Metered run started := by
  obtain ⟨goes, loop, moved, rfl⟩ := step_eq_some.mp stepped
  have moved := AgentRun.moves_of_step moved
  have same := AgentLoop.started_step moved
  have deadline : loop.deadline run = state.loop.deadline run := by
    rw [AgentLoop.deadline, AgentLoop.deadline, same]
  have metering {timeout : ℚ} (starting : loop.starting? = some timeout) :
      timeout = min run.limits.toolTimeoutSeconds (loop.deadline run - state.measure signal) ∧
        state.measure signal < loop.deadline run ∧ state.measure signal ≤ loop.now := by
    rw [deadline]
    obtain ⟨now, rfl, later, before⟩ | ⟨rfl, ⟨step, point⟩, early, now, given⟩ :=
      AgentLoop.starting?_step moved starting
    · -- The write is under way, and time passes.
      have earlier : state.loop.now ≤ now := by simpa [Signal.goesOn] using goes
      have underway : state.loop.starting?.isSome := by rw [before]; rfl
      rw [later]
      exact ⟨metered.given timeout before, metered.early underway, (metered.passed underway).trans earlier⟩
    · -- The time that remains has just been measured.
      have measured : state.measure .proceed = state.loop.now := by simp only [measure, point]
      rw [measured, now]
      exact ⟨given, early, le_refl _⟩
  constructor
  · exact same.trans metered.started
  · exact fun timeout starting => (metering starting).1
  · intro starting
    obtain ⟨timeout, starting⟩ := Option.isSome_iff_exists.mp starting
    exact (metering starting).2.1
  · intro starting
    obtain ⟨timeout, starting⟩ := Option.isSome_iff_exists.mp starting
    exact (metering starting).2.2

/-- A tool is timely exactly when it starts in time. -/
theorem Metered.timely_iff {started : ℚ} (metered : state.Metered run started) {start : ToolStart}
    (starts : state.start? signal = some start) :
    start.Timely (started + run.limits.timeoutSeconds) ↔ StartsInTime run state signal := by
  have recorded : signal = .recorded := by
    cases signal with
    | recorded => rfl
    | _ => cases starts
  subst recorded
  obtain ⟨timeout, starting, rfl⟩ := Option.map_eq_some_iff.mp starts
  have underway : state.loop.starting?.isSome := by rw [starting]; rfl
  have given := metered.given timeout starting
  have early := metered.early underway
  have passed := metered.passed underway
  have positive := run.limits.toolTimeout_positive
  rw [← metered.deadline, ToolStart.Timely, StartsInTime, starts]
  simp only [Option.isSome_some, forall_const]
  subst given
  constructor
  · -- The tool ends in time: by its own limit, or because nothing passed since the reading.
    rintro ⟨-, ends⟩
    rcases le_total run.limits.toolTimeoutSeconds (state.loop.deadline run - state.measured) with fits | short
    · rw [min_eq_left fits] at ends
      exact .inr ends
    · rw [min_eq_right short] at ends
      left
      linarith
  · rintro (instant | fits)
    · have atMost := min_le_right run.limits.toolTimeoutSeconds (state.loop.deadline run - state.measured)
      constructor <;> linarith
    · have atMost := min_le_left run.limits.toolTimeoutSeconds (state.loop.deadline run - state.measured)
      constructor <;> linarith

end ClockedLoop

/-- In a run under a clock that does not go back, no tool starts at the deadline or later and
none is given time past it, exactly when each starts in time: when the write before it took no
time or the tool's limit ends before the deadline. -/
theorem tools_start_before_deadline_iff (run : AgentRun Step Observation) (started : ℚ)
    (signals : List (Signal Step Observation)) (final : ClockedLoop Step Observation)
    (ran : Transition.run (ClockedLoop.step run) (.begin run started) signals = some final) :
    Transition.Throughout (ClockedLoop.step run) (ClockedLoop.StartsInTime run) (.begin run started) signals ↔
      Transition.Always (ClockedLoop.step run)
        (fun state => ∀ start ∈ state.starts, start.Timely (started + run.limits.timeoutSeconds))
        (.begin run started) signals := by
  apply Transition.throughout_iff_always_of_run
    (fun state => state.Metered run started ∧
      ∀ start ∈ state.starts, start.Timely (started + run.limits.timeoutSeconds))
  · rintro state signal after ⟨metered, timely⟩ inTime stepped
    refine ⟨metered.step stepped, ?_⟩
    obtain ⟨_, loop, _, rfl⟩ := ClockedLoop.step_eq_some.mp stepped
    intro start member
    rcases List.mem_append.mp member with earlier | here
    · exact timely start earlier
    · exact (metered.timely_iff (by simpa using here)).mpr inTime
  · exact fun state holds => holds.2
  · rintro state signal after ⟨metered, _⟩ late stepped timely
    obtain ⟨_, loop, _, rfl⟩ := ClockedLoop.step_eq_some.mp stepped
    cases starts : state.start? signal with
    | none => exact late fun starting => by simp [starts] at starting
    | some start =>
      apply late
      rw [← metered.timely_iff starts]
      exact timely start (by simp [starts])
  · exact ⟨ClockedLoop.metered_begin run started, fun start member => by cases member⟩
  · exact ran

/-! ## A tool in time and a late one -/

/-- The agent up to the write of `TOOL_EXECUTION_STARTED`. -/
def startingSignals : List (Signal Unit Unit) :=
  [.recorded, .proceed, .proceed, .planned (some ()), .recorded, .recorded, .proceed,
    .decided ⟨.value (some "AUTHORIZED"), .value true⟩, .recorded,
    .consumed ⟨.value (some "BUDGET_GRANTED"), .value true, .value 1⟩, .recorded, .proceed]

/-- Half a second of two for the write, one for the tool. -/
theorem tools_start_before_deadline_iff_short :
    ∃ final, Transition.run (ClockedLoop.step oneStepAgent) (.begin oneStepAgent 0)
        (startingSignals ++ [.tick (1 / 2), .recorded]) = some final ∧
      Transition.Always (ClockedLoop.step oneStepAgent)
        (fun state => ∀ start ∈ state.starts, start.Timely (0 + oneStepAgent.limits.timeoutSeconds))
        (.begin oneStepAgent 0) (startingSignals ++ [.tick (1 / 2), .recorded]) := by
  have runs : (Transition.run (ClockedLoop.step oneStepAgent) (.begin oneStepAgent 0)
      (startingSignals ++ [.tick (1 / 2), .recorded])).isSome = true := by decide +kernel
  obtain ⟨final, ran⟩ := Option.isSome_iff_exists.mp runs
  exact ⟨final, ran, (tools_start_before_deadline_iff oneStepAgent 0 _ final ran).mp (by decide +kernel)⟩

/-- The write takes three seconds, and the tool starts one after the deadline. -/
theorem slow_write_starts_late :
    ¬∀ (run : AgentRun Unit Unit) (started : ℚ) (signals : List (Signal Unit Unit))
      (final : ClockedLoop Unit Unit),
      Transition.run (ClockedLoop.step run) (.begin run started) signals = some final →
        ∀ start ∈ final.starts, start.Timely (started + run.limits.timeoutSeconds) := by
  intro timely
  have starts : (Transition.run (ClockedLoop.step oneStepAgent) (.begin oneStepAgent 0)
      (startingSignals ++ [.tick 3, .recorded])).map ClockedLoop.starts = some [⟨3, 1⟩] := by
    decide +kernel
  obtain ⟨final, ran, started⟩ := Option.map_eq_some_iff.mp starts
  have late := (timely oneStepAgent 0 _ final ran ⟨3, 1⟩ (by simp [started])).1
  norm_num [oneStepAgent, AgentRunLimits.single] at late

end Eiraos.Agent
