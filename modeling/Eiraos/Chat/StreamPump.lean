import Eiraos.Foundations.Run
import Mathlib.Algebra.Order.Ring.Unbundled.Rat
import Mathlib.Tactic.Linarith

/-! # The stream pump (`application/streaming_lifecycle.py`)

`next_event` waits for the first of the provider read, the disconnect task, the lease task
and a timer.  The read and its deadline live across calls, the timer does not.  The code
between two awaits takes no time; tasks complete, and the clock moves, in between.
-/

namespace Eiraos

/-- The kinds of `StreamEvent`, a chunk with its content. -/
inductive StreamEvent where
  | chunk (content : String)
  | heartbeat
  | ended
  | disconnected
  | leaseLost
  | timeout
  deriving DecidableEq, Repr

def StreamEvent.content? : StreamEvent → Option String
  | .chunk content => some content
  | _ => none

/-- How the task of `__anext__` ends. -/
inductive ReadOutcome where
  | chunk (content : String)
  | stopped
  | raised
  deriving DecidableEq, Repr

/-- `_chunk_task` with `_chunk_deadline`, and when it was created. -/
structure ProviderRead where
  startedAt : ℚ
  deadline : ℚ
  outcome : Option ReadOutcome
  deriving DecidableEq, Repr

/-- The tasks `asyncio.wait` reported as done, the timer apart. -/
structure DoneTasks where
  chunk : Bool
  disconnect : Bool
  lease : Bool
  deriving DecidableEq, Repr

/-- Where the call of `next_event` stands: there is none, it is in `asyncio.wait`, or it has
left it and waits for the timer it cancelled. -/
inductive NextEventCall where
  | idle
  | waiting (timerDue : ℚ) (timerDone : Bool)
  | cancellingTimer (done : DoneTasks)
  deriving DecidableEq, Repr

structure PumpSettings where
  heartbeatSeconds : ℚ
  chunkTimeoutSeconds : ℚ
  leaseLost : Bool
  deriving DecidableEq, Repr

/-- The pump and its loop.  A task that was created is `some`, with whether it is done.
`produced` are the chunks the provider has yielded, `exhausted` that it has ended, `returned`
the events so far and `calledAt` when the last call began. -/
structure StreamPump where
  now : ℚ
  closed : Bool
  read : Option ProviderRead
  disconnectTask : Option Bool
  leaseTask : Option Bool
  call : NextEventCall
  calledAt : ℚ
  exhausted : Bool
  produced : List String
  returned : List StreamEvent
  deriving DecidableEq, Repr

namespace StreamPump

def initial : StreamPump where
  now := 0
  closed := false
  read := none
  disconnectTask := none
  leaseTask := none
  call := .idle
  calledAt := 0
  exhausted := false
  produced := []
  returned := []

/-- The contents of the chunks returned so far. -/
def contents (pump : StreamPump) : List String := pump.returned.filterMap StreamEvent.content?

def returning (pump : StreamPump) (event : StreamEvent) : StreamPump :=
  { pump with call := .idle, returned := pump.returned ++ [event] }

def readDone (pump : StreamPump) : Bool := pump.read.any fun read => read.outcome.isSome

def done (pump : StreamPump) : DoneTasks where
  chunk := pump.readDone
  disconnect := pump.disconnectTask = some true
  lease := pump.leaseTask = some true

end StreamPump

def DoneTasks.any (done : DoneTasks) : Bool := done.chunk || done.disconnect || done.lease

namespace StreamPump

variable (pump : StreamPump)

/-- What `next_event` does with the tasks that were done when its wait returned. -/
def resolve (done : DoneTasks) : StreamPump :=
  if done.disconnect then pump.returning .disconnected
  else if done.lease then pump.returning .leaseLost
  else
    match pump.read with
    | none => pump
    | some read =>
      if done.chunk then
        -- the task is forgotten before its result is looked at, so the next call reads on
        match read.outcome with
        | some (.chunk content) => { pump with read := none }.returning (.chunk content)
        | some .stopped => { pump with read := none }.returning .ended
        | some .raised => { pump with read := none, call := .idle }
        | none => pump
      else if read.deadline ≤ pump.now then pump.returning .timeout
      else pump.returning .heartbeat

/-- The call of `next_event` up to its wait. -/
def nextEvent (settings : PumpSettings) : StreamPump :=
  if pump.closed then pump.returning .ended
  else
    -- a heartbeat in between does not put the deadline off
    let read := pump.read.getD ⟨pump.now, pump.now + settings.chunkTimeoutSeconds, none⟩
    let remaining := max 0 (read.deadline - pump.now)
    { pump with
      read := some read
      disconnectTask := some (pump.disconnectTask.getD false)
      leaseTask := if settings.leaseLost then some (pump.leaseTask.getD false) else none
      call := .waiting (pump.now + min settings.heartbeatSeconds remaining) false
      calledAt := pump.now }

/-- The read that is pending completes. -/
def completeRead (outcome : ReadOutcome) : Option StreamPump :=
  match pump.read with
  | some ⟨startedAt, deadline, none⟩ => some { pump with read := some ⟨startedAt, deadline, some outcome⟩ }
  | _ => none

end StreamPump

inductive PumpLabel where
  | nextEvent
  | produce (content : String)
  | stop
  | raise
  | disconnect
  | loseLease
  | fireTimer
  | wake
  | timerCancelled
  | cancelCall
  | tick (elapsed : ℚ)
  | aclose
  deriving DecidableEq, Repr

namespace StreamPump

/-- One step of the loop, the consumer, the provider or the clock; `none` when it cannot
happen. -/
def step (settings : PumpSettings) (pump : StreamPump) : PumpLabel → Option StreamPump
  | .nextEvent => if pump.call = .idle then some (pump.nextEvent settings) else none
  | .produce content =>
    if pump.exhausted then none
    else (pump.completeRead (.chunk content)).map fun completed =>
      { completed with produced := pump.produced ++ [content] }
  | .stop => (pump.completeRead .stopped).map fun completed => { completed with exhausted := true }
  | .raise =>
    if pump.exhausted then none
    else (pump.completeRead .raised).map fun completed => { completed with exhausted := true }
  | .disconnect =>
    if pump.disconnectTask = some false then some { pump with disconnectTask := some true } else none
  | .loseLease => if pump.leaseTask = some false then some { pump with leaseTask := some true } else none
  | .fireTimer =>
    match pump.call with
    | .waiting timerDue false =>
      if timerDue ≤ pump.now then some { pump with call := .waiting timerDue true } else none
    | _ => none
  | .wake =>
    match pump.call with
    | .waiting _ true => some (pump.resolve pump.done)
    | .waiting _ false =>
      -- what completes while the timer is cancelled is not among the tasks that were done
      if pump.done.any then some { pump with call := .cancellingTimer pump.done } else none
    | _ => none
  | .timerCancelled =>
    match pump.call with
    | .cancellingTimer done => some (pump.resolve done)
    | _ => none
  | .cancelCall => if pump.call = .idle then none else some { pump with call := .idle }
  | .tick elapsed => if 0 ≤ elapsed then some { pump with now := pump.now + elapsed } else none
  | .aclose =>
    if pump.call = .idle then
      some { pump with closed := true, read := none, disconnectTask := none, leaseTask := none }
    else none

end StreamPump

/-! ## What a call does with the finished tasks -/

/-- The ends of a wait on the current read. -/
inductive Resolution (pump : StreamPump) (read : ProviderRead) (done : DoneTasks) : StreamPump → Prop where
  | interrupted {event : StreamEvent} (unread : event.content? = none) (unended : event ≠ .ended)
      (timeless : event ≠ .timeout) (interrupted : (done.disconnect || done.lease) = true) :
      Resolution pump read done (pump.returning event)
  | chunk {content : String} (uninterrupted : (done.disconnect || done.lease) = false)
      (outcome : read.outcome = some (.chunk content)) :
      Resolution pump read done ({ pump with read := none }.returning (.chunk content))
  | ended (outcome : read.outcome = some .stopped) :
      Resolution pump read done ({ pump with read := none }.returning .ended)
  | raised (outcome : read.outcome = some .raised) :
      Resolution pump read done { pump with read := none, call := .idle }
  | timeout (uninterrupted : (done.disconnect || done.lease) = false) (pending : done.chunk = false)
      (late : read.deadline ≤ pump.now) : Resolution pump read done (pump.returning .timeout)
  | heartbeat : Resolution pump read done (pump.returning .heartbeat)

theorem StreamPump.resolve_resolution {pump : StreamPump} {read : ProviderRead} {done : DoneTasks}
    (current : pump.read = some read) (finished : done.chunk = true → read.outcome.isSome = true) :
    Resolution pump read done (pump.resolve done) := by
  unfold StreamPump.resolve
  by_cases disconnected : done.disconnect = true
  · rw [if_pos disconnected]
    exact .interrupted rfl (by decide) (by decide) (by simp [disconnected])
  by_cases lost : done.lease = true
  · rw [if_neg disconnected, if_pos lost]
    exact .interrupted rfl (by decide) (by decide) (by simp [lost])
  have uninterrupted : (done.disconnect || done.lease) = false := by simp [disconnected, lost]
  rw [if_neg disconnected, if_neg lost, current]
  by_cases ready : done.chunk = true
  · simp only [ready, if_true]
    cases outcome : read.outcome with
    | none =>
      rw [outcome] at finished
      cases finished ready
    | some ended =>
      cases ended with
      | chunk content => exact .chunk uninterrupted outcome
      | stopped => exact .ended outcome
      | raised => exact .raised outcome
  · simp only [ready, Bool.false_eq_true, if_false]
    split
    next late => exact .timeout uninterrupted (by simpa using ready) late
    next => exact .heartbeat

/-! ## The invariant -/

/-- The chunk that was read and not returned yet. -/
def ProviderRead.undelivered (read : ProviderRead) : List String :=
  match read.outcome with
  | some (.chunk content) => [content]
  | _ => []

def StreamPump.undelivered (pump : StreamPump) : List String :=
  match pump.read with
  | none => []
  | some read => read.undelivered

structure PumpInvariant (settings : PumpSettings) (pump : StreamPump) : Prop where
  reading : pump.call ≠ .idle → ∃ read, pump.read = some read
  dormant : pump.closed = true → pump.call = .idle ∧ pump.read = none
  leased : ∀ lost, pump.leaseTask = some lost → settings.leaseLost = true
  deadlines : ∀ read, pump.read = some read →
    read.deadline = read.startedAt + settings.chunkTimeoutSeconds
  snapshot : ∀ done, pump.call = .cancellingTimer done → done.any = true ∧
    (done.chunk = true → pump.readDone = true)
  delivered : pump.closed = false → pump.produced = pump.contents ++ pump.undelivered
  stopped : ∀ read, pump.read = some read → read.outcome = some .stopped ∨ read.outcome = some .raised →
    pump.exhausted = true
  finished : pump.exhausted = true → pump.undelivered = []
  ended : pump.closed = false → .ended ∈ pump.returned → pump.exhausted = true

theorem pumpInvariant_initial (settings : PumpSettings) : PumpInvariant settings .initial where
  reading := fun busy => absurd rfl busy
  dormant := fun closed => by cases closed
  leased := fun _ created => by cases created
  deadlines := fun _ read => by cases read
  snapshot := fun _ busy => by cases busy
  delivered := fun _ => rfl
  stopped := fun _ read => by cases read
  finished := fun exhausted => by cases exhausted
  ended := fun _ returned => by cases returned

namespace StreamPump

variable {settings : PumpSettings} {pump next : StreamPump}

theorem contents_returning (pump : StreamPump) (event : StreamEvent) :
    (pump.returning event).contents = pump.contents ++ event.content?.toList := by
  unfold contents returning
  rw [List.filterMap_append]
  cases event <;> rfl

theorem completeRead_eq_some {outcome : ReadOutcome} (completed : pump.completeRead outcome = some next) :
    ∃ read, pump.read = some read ∧ read.outcome = none ∧
      next = { pump with read := some { read with outcome := some outcome } } := by
  unfold completeRead at completed
  split at completed
  next startedAt deadline current =>
    cases completed
    exact ⟨_, current, rfl, rfl⟩
  next => cases completed

theorem mem_returned_returning {event other : StreamEvent} (unended : event ≠ other) :
    other ∈ (pump.returning event).returned ↔ other ∈ pump.returned := by
  simp [returning, unended.symm]

end StreamPump

section Steps

variable {settings : PumpSettings} {pump next : StreamPump}

theorem PumpInvariant.opened (invariant : PumpInvariant settings pump) {read : ProviderRead}
    (current : pump.read = some read) : pump.closed = false := by
  cases closed : pump.closed with
  | false => rfl
  | true =>
    rw [(invariant.dormant closed).2] at current
    cases current

/-- An event that leaves the read alone. -/
theorem PumpInvariant.returning (invariant : PumpInvariant settings pump) (opened : pump.closed = false)
    {event : StreamEvent} (unread : event.content? = none) (unended : event ≠ .ended) :
    PumpInvariant settings (pump.returning event) where
  reading := fun busy => absurd rfl busy
  dormant := fun closed => by
    rw [show (pump.returning event).closed = pump.closed from rfl, opened] at closed
    cases closed
  leased := invariant.leased
  deadlines := invariant.deadlines
  snapshot := fun _ busy => by cases busy
  delivered := fun _ => by
    rw [StreamPump.contents_returning, unread, Option.toList_none, List.append_nil]
    exact invariant.delivered opened
  stopped := invariant.stopped
  finished := invariant.finished
  ended := fun _ returned =>
    invariant.ended opened ((StreamPump.mem_returned_returning unended).mp returned)

/-- The read is taken: its chunk, if it is one, has been appended to the contents. -/
theorem PumpInvariant.consumed (invariant : PumpInvariant settings pump) (opened : pump.closed = false)
    {returned : List StreamEvent}
    (delivered : returned.filterMap StreamEvent.content? = pump.contents ++ pump.undelivered)
    (ended : .ended ∈ returned → pump.exhausted = true) :
    PumpInvariant settings { pump with read := none, call := .idle, returned } where
  reading := fun busy => absurd rfl busy
  dormant := fun closed => by
    rw [show ({ pump with read := none, call := .idle, returned } : StreamPump).closed = pump.closed from rfl,
      opened] at closed
    cases closed
  leased := invariant.leased
  deadlines := fun _ read => by cases read
  snapshot := fun _ busy => by cases busy
  delivered := fun _ => by
    show pump.produced = returned.filterMap StreamEvent.content? ++ []
    rw [delivered, List.append_nil]
    exact invariant.delivered opened
  stopped := fun _ read => by cases read
  finished := fun _ => rfl
  ended := fun _ => ended

/-- The end of a wait keeps the invariant. -/
theorem PumpInvariant.resolve (invariant : PumpInvariant settings pump) {read : ProviderRead}
    {done : DoneTasks} (current : pump.read = some read) (resolution : Resolution pump read done next) :
    PumpInvariant settings next := by
  have opened := invariant.opened current
  have undelivered : pump.undelivered = read.undelivered := by
    unfold StreamPump.undelivered
    rw [current]
  cases resolution with
  | interrupted unread unended => exact invariant.returning opened unread unended
  | timeout => exact invariant.returning opened rfl (by decide)
  | heartbeat => exact invariant.returning opened rfl (by decide)
  | chunk uninterrupted outcome =>
    refine invariant.consumed opened ?_ fun returned => ?_
    · rw [undelivered, ProviderRead.undelivered, outcome]
      exact StreamPump.contents_returning pump _
    · exact invariant.ended opened ((StreamPump.mem_returned_returning (by simp)).mp returned)
  | ended outcome =>
    refine invariant.consumed opened ?_ fun _ => invariant.stopped read current (.inl outcome)
    rw [undelivered, ProviderRead.undelivered, outcome]
    exact StreamPump.contents_returning pump .ended
  | raised outcome =>
    refine invariant.consumed opened ?_ (invariant.ended opened)
    rw [undelivered, ProviderRead.undelivered, outcome, List.append_nil]
    rfl

/-- The read of a call that begins: the pending one, or a new one. -/
theorem PumpInvariant.nextEvent (invariant : PumpInvariant settings pump) :
    PumpInvariant settings (pump.nextEvent settings) := by
  unfold StreamPump.nextEvent
  split
  next closed =>
    refine
      { reading := fun busy => absurd rfl busy
        dormant := fun _ => ⟨rfl, (invariant.dormant closed).2⟩
        leased := invariant.leased
        deadlines := invariant.deadlines
        snapshot := fun _ busy => by cases busy
        delivered := fun opened => ?_
        stopped := invariant.stopped
        finished := invariant.finished
        ended := fun opened => ?_ }
    · exact absurd closed (by simpa [StreamPump.returning] using opened)
    · exact absurd closed (by simpa [StreamPump.returning] using opened)
  next opened =>
    have opened : pump.closed = false := by simpa using opened
    -- A read that is only started holds nothing.
    have undelivered : (pump.read.getD ⟨pump.now, pump.now + settings.chunkTimeoutSeconds, none⟩).undelivered =
        pump.undelivered := by
      unfold StreamPump.undelivered
      cases pump.read <;> rfl
    refine
      { reading := fun _ => ⟨_, rfl⟩
        dormant := fun closed => ?_
        leased := fun lost created => ?_
        deadlines := fun read current => ?_
        snapshot := fun _ busy => by cases busy
        delivered := fun _ => ?_
        stopped := fun read current ended => ?_
        finished := fun exhausted => ?_
        ended := invariant.ended }
    · exact absurd closed (by simp [opened])
    · by_contra unleased
      simp [unleased] at created
    · obtain rfl := Option.some.inj current
      cases known : pump.read with
      | none => rfl
      | some old => exact invariant.deadlines old known
    · show pump.produced = pump.contents ++ ProviderRead.undelivered _
      rw [undelivered]
      exact invariant.delivered opened
    · obtain rfl := Option.some.inj current
      cases known : pump.read with
      | none =>
        rw [known] at ended
        rcases ended with ended | ended <;> cases ended
      | some old =>
        rw [known] at ended
        exact invariant.stopped old known ended
    · show ProviderRead.undelivered _ = []
      rw [undelivered]
      exact invariant.finished exhausted

/-- The outcome of a pending read: a chunk joins the produced ones, an end exhausts the
provider. -/
theorem PumpInvariant.completed (invariant : PumpInvariant settings pump) {read : ProviderRead}
    (current : pump.read = some read) (pending : read.outcome = none) {outcome : ReadOutcome}
    {exhausted : Bool} {produced : List String}
    (delivered : produced = pump.produced ++ ({ read with outcome := some outcome } : ProviderRead).undelivered)
    (stopped : outcome = .stopped ∨ outcome = .raised → exhausted = true)
    (finished : exhausted = true → ∀ content, outcome ≠ .chunk content)
    (later : pump.exhausted = true → exhausted = true) :
    PumpInvariant settings
      { pump with read := some { read with outcome := some outcome }, exhausted, produced } := by
  have opened := invariant.opened current
  have undelivered : pump.undelivered = [] := by
    unfold StreamPump.undelivered ProviderRead.undelivered
    rw [current]
    simp [pending]
  refine
    { reading := fun _ => ⟨_, rfl⟩
      dormant := fun closed => ?_
      leased := invariant.leased
      deadlines := fun other same => ?_
      snapshot := fun done busy => ⟨(invariant.snapshot done busy).1, fun _ => rfl⟩
      delivered := fun _ => ?_
      stopped := fun other same ended => ?_
      finished := fun all => ?_
      ended := fun _ returned => later (invariant.ended opened returned) }
  · exact absurd closed (by simp [opened])
  · obtain rfl := Option.some.inj same
    exact invariant.deadlines read current
  · have before := invariant.delivered opened
    rw [undelivered, List.append_nil] at before
    rw [delivered, before]
    rfl
  · obtain rfl := Option.some.inj same
    exact stopped (by simpa using ended)
  · cases outcome with
    | chunk content => exact absurd rfl (finished all content)
    | stopped | raised => rfl

/-- When the wait returns, the call resolves what is done, or first cancels its timer. -/
theorem PumpInvariant.wake (invariant : PumpInvariant settings pump)
    (stepped : pump.step settings .wake = some next) :
    (∃ timerDue, pump.call = .waiting timerDue true ∧
        ∃ read, pump.read = some read ∧ Resolution pump read pump.done next) ∨
      ∃ timerDue, pump.call = .waiting timerDue false ∧ pump.done.any = true ∧
        next = { pump with call := .cancellingTimer pump.done } := by
  simp only [StreamPump.step] at stepped
  split at stepped
  next timerDue waiting =>
    cases stepped
    obtain ⟨read, current⟩ := invariant.reading (by simp [waiting])
    refine .inl ⟨timerDue, waiting, read, current, StreamPump.resolve_resolution current fun ready => ?_⟩
    simpa [StreamPump.done, StreamPump.readDone, current] using ready
  next timerDue waiting =>
    split at stepped
    next ready =>
      cases stepped
      exact .inr ⟨timerDue, waiting, ready, rfl⟩
    next => cases stepped
  next => cases stepped

theorem PumpInvariant.timerCancelled (invariant : PumpInvariant settings pump)
    (stepped : pump.step settings .timerCancelled = some next) :
    ∃ done read, pump.call = .cancellingTimer done ∧ pump.read = some read ∧
      Resolution pump read done next := by
  simp only [StreamPump.step] at stepped
  split at stepped
  next done cancelling =>
    cases stepped
    obtain ⟨read, current⟩ := invariant.reading (by simp [cancelling])
    refine ⟨done, read, cancelling, current, StreamPump.resolve_resolution current fun ready => ?_⟩
    simpa [StreamPump.readDone, current] using (invariant.snapshot done cancelling).2 ready
  next => cases stepped

/-! ## The steps -/

/-- What a step does, with what it needs. -/
inductive PumpMove (settings : PumpSettings) (pump : StreamPump) : PumpLabel → StreamPump → Prop where
  | nextEvent (idle : pump.call = .idle) : PumpMove settings pump .nextEvent (pump.nextEvent settings)
  | completed {label : PumpLabel} {read : ProviderRead} {outcome : ReadOutcome} {exhausted : Bool}
      {produced : List String} (current : pump.read = some read) (pending : read.outcome = none)
      (delivered :
        produced = pump.produced ++ ({ read with outcome := some outcome } : ProviderRead).undelivered)
      (stopped : outcome = .stopped ∨ outcome = .raised → exhausted = true)
      (finished : exhausted = true → ∀ content, outcome ≠ .chunk content)
      (later : pump.exhausted = true → exhausted = true) :
      PumpMove settings pump label
        { pump with read := some { read with outcome := some outcome }, exhausted, produced }
  | disconnect : PumpMove settings pump .disconnect { pump with disconnectTask := some true }
  | loseLease (created : pump.leaseTask = some false) :
      PumpMove settings pump .loseLease { pump with leaseTask := some true }
  | fireTimer {timerDue : ℚ} (waiting : pump.call = .waiting timerDue false) :
      PumpMove settings pump .fireTimer { pump with call := .waiting timerDue true }
  | resolved {label : PumpLabel} {read : ProviderRead} {done : DoneTasks} {next : StreamPump}
      (current : pump.read = some read) (found : done = pump.done ∨ pump.call = .cancellingTimer done)
      (resolution : Resolution pump read done next) : PumpMove settings pump label next
  | cancelling {timerDue : ℚ} (waiting : pump.call = .waiting timerDue false)
      (ready : pump.done.any = true) :
      PumpMove settings pump .wake { pump with call := .cancellingTimer pump.done }
  | cancelCall : PumpMove settings pump .cancelCall { pump with call := .idle }
  | tick (elapsed : ℚ) : PumpMove settings pump (.tick elapsed) { pump with now := pump.now + elapsed }
  | aclose (idle : pump.call = .idle) :
      PumpMove settings pump .aclose
        { pump with closed := true, read := none, disconnectTask := none, leaseTask := none }

theorem PumpInvariant.step_move (invariant : PumpInvariant settings pump) {label : PumpLabel}
    (stepped : pump.step settings label = some next) : PumpMove settings pump label next := by
  cases label with
  | nextEvent =>
    simp only [StreamPump.step] at stepped
    split at stepped
    next idle =>
      cases stepped
      exact .nextEvent idle
    next => cases stepped
  | produce content =>
    simp only [StreamPump.step] at stepped
    split at stepped
    next => cases stepped
    next running =>
      obtain ⟨completed, read, rfl⟩ := Option.map_eq_some_iff.mp stepped
      obtain ⟨old, current, pending, rfl⟩ := StreamPump.completeRead_eq_some read
      have ongoing : pump.exhausted = false := by simpa using running
      -- A chunk is only read from a source that has not ended.
      exact .completed current pending rfl (by simp) (fun all => by simp [ongoing] at all) id
  | stop =>
    obtain ⟨completed, read, rfl⟩ := Option.map_eq_some_iff.mp stepped
    obtain ⟨old, current, pending, rfl⟩ := StreamPump.completeRead_eq_some read
    exact .completed current pending (List.append_nil _).symm (fun _ => rfl) (by simp) (fun _ => rfl)
  | raise =>
    simp only [StreamPump.step] at stepped
    split at stepped
    next => cases stepped
    next =>
      obtain ⟨completed, read, rfl⟩ := Option.map_eq_some_iff.mp stepped
      obtain ⟨old, current, pending, rfl⟩ := StreamPump.completeRead_eq_some read
      exact .completed current pending (List.append_nil _).symm (fun _ => rfl) (by simp) (fun _ => rfl)
  | disconnect =>
    simp only [StreamPump.step] at stepped
    split at stepped
    next =>
      cases stepped
      exact .disconnect
    next => cases stepped
  | loseLease =>
    simp only [StreamPump.step] at stepped
    split at stepped
    next created =>
      cases stepped
      exact .loseLease created
    next => cases stepped
  | fireTimer =>
    simp only [StreamPump.step] at stepped
    split at stepped
    next timerDue waiting =>
      split at stepped
      next =>
        cases stepped
        exact .fireTimer waiting
      next => cases stepped
    next => cases stepped
  | wake =>
    rcases invariant.wake stepped with ⟨_, _, read, current, resolution⟩ | ⟨_, waiting, ready, rfl⟩
    · exact .resolved current (.inl rfl) resolution
    · exact .cancelling waiting ready
  | timerCancelled =>
    obtain ⟨_, read, cancelling, current, resolution⟩ := invariant.timerCancelled stepped
    exact .resolved current (.inr cancelling) resolution
  | cancelCall =>
    simp only [StreamPump.step] at stepped
    split at stepped
    next => cases stepped
    next =>
      cases stepped
      exact .cancelCall
  | tick elapsed =>
    simp only [StreamPump.step] at stepped
    split at stepped
    next =>
      cases stepped
      exact .tick elapsed
    next => cases stepped
  | aclose =>
    simp only [StreamPump.step] at stepped
    split at stepped
    next idle =>
      cases stepped
      exact .aclose idle
    next => cases stepped

/-- A pump whose call waits is open. -/
theorem PumpInvariant.dormant_busy (invariant : PumpInvariant settings pump) {timerDue : ℚ} {timerDone : Bool}
    (waiting : pump.call = .waiting timerDue timerDone) : pump.closed ≠ true := by
  intro closed
  cases waiting.symm.trans (invariant.dormant closed).1

theorem PumpInvariant.step (invariant : PumpInvariant settings pump) {label : PumpLabel}
    (stepped : pump.step settings label = some next) : PumpInvariant settings next := by
  cases invariant.step_move stepped with
  | nextEvent => exact invariant.nextEvent
  | completed current pending delivered stopped finished later =>
    exact invariant.completed current pending delivered stopped finished later
  | disconnect => exact { invariant with }
  | loseLease created => exact { invariant with leased := fun _ _ => invariant.leased false created }
  | fireTimer waiting =>
    exact
      { invariant with
        reading := fun _ => invariant.reading (by simp [waiting])
        dormant := fun closed => absurd closed (invariant.dormant_busy waiting)
        snapshot := fun _ busy => by cases busy }
  | resolved current _ resolution => exact invariant.resolve current resolution
  | cancelling waiting ready =>
    exact
      { invariant with
        reading := fun _ => invariant.reading (by simp [waiting])
        dormant := fun closed => absurd closed (invariant.dormant_busy waiting)
        snapshot := fun done busy => by
          cases busy
          exact ⟨ready, id⟩ }
  | cancelCall =>
    exact
      { invariant with
        reading := fun busy => absurd rfl busy
        dormant := fun closed => ⟨rfl, (invariant.dormant closed).2⟩
        snapshot := fun _ busy => by cases busy }
  | tick => exact { invariant with }
  | aclose idle =>
    exact
      { reading := fun busy => absurd idle busy
        dormant := fun _ => ⟨idle, rfl⟩
        leased := fun _ created => by cases created
        deadlines := fun _ read => by cases read
        snapshot := fun _ busy => by cases idle.symm.trans busy
        delivered := fun opened => by cases opened
        stopped := fun _ read => by cases read
        finished := fun _ => rfl
        ended := fun opened => by cases opened }

end Steps

end Eiraos
