import Eiraos.Chat.StreamPump

/-! # The contract of the stream pump

The chunks arrive in order and once, a timeout means a read that is late, and a call on time
returns by its deadline.  After a disconnect or the loss of the lease no further chunk is
returned, but for the one of a call that has already left its wait.
-/

namespace Eiraos

section Steps

variable {settings : PumpSettings} {pump next : StreamPump}

/-! ## After a disconnect or the loss of the lease -/

/-- The disconnect task or the lease task has completed. -/
def StreamPump.Interrupted (pump : StreamPump) : Prop :=
  pump.disconnectTask = some true ∨ pump.leaseTask = some true

/-- No call holds a wait that returned before the interruption. -/
def StreamPump.Heeded (pump : StreamPump) : Prop :=
  pump.closed = true ∨
    pump.Interrupted ∧ ∀ done, pump.call = .cancellingTimer done → (done.disconnect || done.lease) = true

theorem Resolution.kept {read : ProviderRead} {done : DoneTasks}
    (resolution : Resolution pump read done next) :
    next.call = .idle ∧ next.disconnectTask = pump.disconnectTask ∧ next.leaseTask = pump.leaseTask := by
  cases resolution <;> exact ⟨rfl, rfl, rfl⟩

/-- Only the chunk of the read is ever added to the contents. -/
theorem Resolution.contents {read : ProviderRead} {done : DoneTasks}
    (resolution : Resolution pump read done next) :
    next.contents = pump.contents ∨ (done.disconnect || done.lease) = false ∧
      ∃ content, read.outcome = some (.chunk content) ∧ next.contents = pump.contents ++ [content] := by
  cases resolution with
  | interrupted unread =>
    left
    rw [StreamPump.contents_returning, unread]
    exact List.append_nil _
  | chunk uninterrupted outcome =>
    exact .inr ⟨uninterrupted, _, outcome, StreamPump.contents_returning pump _⟩
  | ended => exact .inl ((StreamPump.contents_returning pump .ended).trans (List.append_nil _))
  | raised => exact .inl rfl
  | timeout => exact .inl ((StreamPump.contents_returning pump .timeout).trans (List.append_nil _))
  | heartbeat => exact .inl ((StreamPump.contents_returning pump .heartbeat).trans (List.append_nil _))

/-- What a step that ends no wait leaves: no chunk and no timeout is returned, and a call that
has left its wait keeps the read it found done. -/
structure Unresolved (pump next : StreamPump) : Prop where
  contents : next.contents = pump.contents
  closed : pump.closed = true → next.closed = true
  timeless : next.returned ≠ pump.returned ++ [.timeout]
  interrupted : pump.Interrupted → next.closed = true ∨ next.Interrupted
  cancelling : ∀ done, next.call = .cancellingTimer done → pump.call = .cancellingTimer done ∨ done = pump.done
  held : ∀ done read, pump.call = .cancellingTimer done → pump.read = some read → read.outcome ≠ none →
    next.call = .idle ∨ next.call = pump.call ∧ next.read = pump.read

theorem Unresolved.of_returned (returned : next.returned = pump.returned)
    (closed : pump.closed = true → next.closed = true)
    (interrupted : pump.Interrupted → next.closed = true ∨ next.Interrupted)
    (cancelling : ∀ done, next.call = .cancellingTimer done →
      pump.call = .cancellingTimer done ∨ done = pump.done)
    (held : ∀ done read, pump.call = .cancellingTimer done → pump.read = some read → read.outcome ≠ none →
      next.call = .idle ∨ next.call = pump.call ∧ next.read = pump.read) : Unresolved pump next where
  contents := by rw [StreamPump.contents, returned, StreamPump.contents]
  closed := closed
  timeless := by simp [returned]
  interrupted := interrupted
  cancelling := cancelling
  held := held

/-- Completing the read is nothing to a call that has left its wait. -/
theorem Unresolved.completed {read : ProviderRead} (current : pump.read = some read)
    (pending : read.outcome = none) {outcome : Option ReadOutcome} {exhausted : Bool}
    {produced : List String} :
    Unresolved pump { pump with read := some { read with outcome }, exhausted, produced } := by
  refine .of_returned rfl id .inr (fun done busy => .inl busy) fun done other busy same ended => ?_
  rw [current] at same
  cases same
  exact absurd pending ended

theorem Unresolved.nextEvent (invariant : PumpInvariant settings pump) (idle : pump.call = .idle) :
    Unresolved pump (pump.nextEvent settings) := by
  unfold StreamPump.nextEvent
  split
  next closed =>
    exact
      { contents := (StreamPump.contents_returning pump .ended).trans (List.append_nil _)
        closed := id
        timeless := by simp [StreamPump.returning]
        interrupted := fun _ => .inl closed
        cancelling := fun _ busy => by cases busy
        held := fun _ _ busy => by cases idle.symm.trans busy }
  next =>
    refine .of_returned rfl id (fun interrupted => .inr ?_) (fun _ busy => by cases busy)
      fun _ _ busy => by cases idle.symm.trans busy
    rcases interrupted with disconnected | lost
    · exact .inl (by simp [disconnected])
    · refine .inr ?_
      simp [lost, invariant.leased true lost]

/-- A step ends a wait, or it does not. -/
theorem PumpInvariant.step_cases (invariant : PumpInvariant settings pump) {label : PumpLabel}
    (stepped : pump.step settings label = some next) :
    (∃ read done, pump.read = some read ∧ Resolution pump read done next ∧
        (done = pump.done ∨ pump.call = .cancellingTimer done)) ∨
      Unresolved pump next := by
  cases invariant.step_move stepped with
  | nextEvent idle => exact .inr (.nextEvent invariant idle)
  | completed current pending => exact .inr (.completed current pending)
  | resolved current found resolution => exact .inl ⟨_, _, current, resolution, found⟩
  | disconnect =>
    exact .inr (.of_returned rfl id (fun _ => .inr (.inl rfl)) (fun _ busy => .inl busy)
      fun _ _ _ _ _ => .inr ⟨rfl, rfl⟩)
  | loseLease =>
    exact .inr (.of_returned rfl id (fun _ => .inr (.inr rfl)) (fun _ busy => .inl busy)
      fun _ _ _ _ _ => .inr ⟨rfl, rfl⟩)
  | fireTimer waiting =>
    exact .inr (.of_returned rfl id .inr (fun _ busy => by cases busy)
      fun _ _ busy => by cases waiting.symm.trans busy)
  | cancelling waiting =>
    refine .inr (.of_returned rfl id .inr (fun done busy => ?_) fun _ _ busy => by cases waiting.symm.trans busy)
    cases busy
    exact .inr rfl
  | cancelCall =>
    exact .inr (.of_returned rfl id .inr (fun _ busy => by cases busy) fun _ _ _ _ _ => .inl rfl)
  | tick =>
    exact .inr (.of_returned rfl id .inr (fun _ busy => .inl busy) fun _ _ _ _ _ => .inr ⟨rfl, rfl⟩)
  | aclose idle =>
    exact .inr (.of_returned rfl (fun _ => rfl) (fun _ => .inl rfl) (fun _ busy => .inl busy)
      fun _ _ busy => by cases idle.symm.trans busy)

/-- A heeded interruption stays heeded, and no further chunk is returned. -/
theorem PumpInvariant.heeded_step (invariant : PumpInvariant settings pump) (heeded : pump.Heeded)
    {label : PumpLabel} (stepped : pump.step settings label = some next) :
    next.Heeded ∧ next.contents = pump.contents := by
  rcases invariant.step_cases stepped with ⟨read, done, current, resolution, found⟩ | unresolved
  · rcases heeded with closed | ⟨interrupted, cancelling⟩
    · rw [invariant.opened current] at closed
      cases closed
    · obtain ⟨idle, sameDisconnect, sameLease⟩ := resolution.kept
      have seen : (done.disconnect || done.lease) = true := by
        rcases found with rfl | busy
        · rcases interrupted with disconnected | lost
          · simp [StreamPump.done, disconnected]
          · simp [StreamPump.done, lost]
        · exact cancelling done busy
      refine ⟨.inr ⟨?_, fun other busy => by cases idle.symm.trans busy⟩, ?_⟩
      · unfold StreamPump.Interrupted
        rw [sameDisconnect, sameLease]
        exact interrupted
      · rcases resolution.contents with same | ⟨unseen, _⟩
        · exact same
        · rw [seen] at unseen
          cases unseen
  · refine ⟨?_, unresolved.contents⟩
    rcases heeded with closed | ⟨interrupted, cancelling⟩
    · exact .inl (unresolved.closed closed)
    · rcases unresolved.interrupted interrupted with closed | still
      · exact .inl closed
      · refine .inr ⟨still, fun done busy => ?_⟩
        rcases unresolved.cancelling done busy with before | rfl
        · exact cancelling done before
        · rcases interrupted with disconnected | lost
          · simp [StreamPump.done, disconnected]
          · simp [StreamPump.done, lost]

/-- No chunk is returned after a heeded interruption. -/
theorem PumpInvariant.heeded_run (invariant : PumpInvariant settings pump) (heeded : pump.Heeded)
    {labels : List PumpLabel} {final : StreamPump}
    (ran : Transition.run (StreamPump.step settings) pump labels = some final) :
    final.contents = pump.contents := by
  have kept := Transition.run_invariant
    (fun later : StreamPump => PumpInvariant settings later ∧ later.Heeded ∧ later.contents = pump.contents)
    (fun later label next holds stepped => by
      obtain ⟨invariant, heeded, same⟩ := holds
      obtain ⟨heededNext, sameNext⟩ := invariant.heeded_step heeded stepped
      exact ⟨invariant.step stepped, heededNext, sameNext.trans same⟩)
    ⟨invariant, heeded, rfl⟩ ran
  exact kept.2.2

/-- A call that left its wait with the chunk alone still returns it, and no other. -/
theorem PumpInvariant.held_run (invariant : PumpInvariant settings pump) (interrupted : pump.Interrupted)
    {done : DoneTasks} (busy : pump.call = .cancellingTimer done)
    (unseen : (done.disconnect || done.lease) = false) {labels : List PumpLabel} {final : StreamPump}
    (ran : Transition.run (StreamPump.step settings) pump labels = some final) :
    final.contents = pump.contents ∨ ∃ read content, pump.read = some read ∧
      read.outcome = some (.chunk content) ∧ final.contents = pump.contents ++ [content] := by
  induction labels generalizing pump with
  | nil =>
    cases ran
    exact .inl rfl
  | cons label labels inductionHypothesis =>
    obtain ⟨next, stepped, rest⟩ := Transition.run_cons_eq_some.mp ran
    have kept := invariant.step stepped
    obtain ⟨read, current⟩ := invariant.reading (by simp [busy])
    rcases invariant.step_cases stepped with ⟨other, others, same, resolution, _⟩ | unresolved
    · obtain rfl := Option.some.inj (current.symm.trans same)
      obtain ⟨idle, sameDisconnect, sameLease⟩ := resolution.kept
      have heeded : next.Heeded := by
        refine .inr ⟨?_, fun done busy => by cases idle.symm.trans busy⟩
        unfold StreamPump.Interrupted
        rw [sameDisconnect, sameLease]
        exact interrupted
      rw [kept.heeded_run heeded rest]
      rcases resolution.contents with unchanged | ⟨_, content, outcome, grown⟩
      · exact .inl unchanged
      · exact .inr ⟨read, content, current, outcome, grown⟩
    · have ready : read.outcome ≠ none := by
        obtain ⟨some_, finished⟩ := invariant.snapshot done busy
        have chunk : done.chunk = true := by
          rw [DoneTasks.any, Bool.or_assoc, unseen, Bool.or_false] at some_
          exact some_
        have outcome := finished chunk
        rw [StreamPump.readDone, current, Option.any_some] at outcome
        exact Option.isSome_iff_ne_none.mp outcome
      rcases unresolved.interrupted interrupted with closed | still
      · rw [kept.heeded_run (.inl closed) rest]
        exact .inl unresolved.contents
      rcases unresolved.held done read busy current ready with idle | ⟨sameCall, sameRead⟩
      · rw [kept.heeded_run (.inr ⟨still, fun done busy => by cases idle.symm.trans busy⟩) rest]
        exact .inl unresolved.contents
      · have later := inductionHypothesis kept still (sameCall.trans busy) rest
        rw [sameRead, unresolved.contents] at later
        exact later

end Steps

/-! ## The timer -/

/-- The loop runs what is ready, and its timers, before time passes. -/
def StreamPump.onTime (pump : StreamPump) : PumpLabel → Prop
  | .tick elapsed =>
    elapsed = 0 ∨
      match pump.call with
      | .idle => True
      | .waiting timerDue false => pump.done.any = false ∧ pump.now + elapsed ≤ timerDue
      | _ => False
  | _ => True

/-- A call made before the deadline has a timer that is due by then. -/
def StreamPump.Punctual (pump : StreamPump) : Prop :=
  ∀ read, pump.call ≠ .idle → pump.read = some read → pump.calledAt < read.deadline →
    pump.now ≤ read.deadline ∧
      ∀ timerDue timerDone, pump.call = .waiting timerDue timerDone → timerDue ≤ read.deadline

section Timer

variable {settings : PumpSettings} {pump next : StreamPump}

theorem timerDue_le {now deadline : ℚ} (early : now < deadline) (heartbeatSeconds : ℚ) :
    now + min heartbeatSeconds (max 0 (deadline - now)) ≤ deadline := by
  have first := min_le_right heartbeatSeconds (max 0 (deadline - now))
  rw [max_eq_right (sub_nonneg.mpr (le_of_lt early))] at first ⊢
  linarith

theorem StreamPump.nextEvent_punctual (pump : StreamPump) (settings : PumpSettings) :
    (pump.nextEvent settings).Punctual := by
  unfold nextEvent
  split
  next => exact fun _ busy => absurd rfl busy
  next =>
    intro read _ current early
    obtain rfl := Option.some.inj current
    refine ⟨le_of_lt early, fun timerDue timerDone waiting => ?_⟩
    cases waiting
    exact timerDue_le early settings.heartbeatSeconds

theorem StreamPump.punctual_of_idle (idle : next.call = .idle) : next.Punctual :=
  fun _ busy => absurd idle busy

/-- What moves neither the clock nor a deadline. -/
theorem StreamPump.Punctual.congr (punctual : pump.Punctual) (sameNow : next.now = pump.now)
    (sameStart : next.calledAt = pump.calledAt)
    (sameRead : next.read.map ProviderRead.deadline = pump.read.map ProviderRead.deadline)
    (busy : next.call ≠ .idle → pump.call ≠ .idle)
    (waiting : ∀ timerDue timerDone, next.call = .waiting timerDue timerDone →
      ∃ before, pump.call = .waiting timerDue before) : next.Punctual := by
  intro read nextBusy current early
  rw [current, Option.map_some] at sameRead
  obtain ⟨old, currentOld, sameDeadline⟩ := Option.map_eq_some_iff.mp sameRead.symm
  rw [sameStart, ← sameDeadline] at early
  obtain ⟨before, due⟩ := punctual old (busy nextBusy) currentOld early
  rw [sameNow, ← sameDeadline]
  refine ⟨before, fun timerDue timerDone waits => ?_⟩
  obtain ⟨timerBefore, waited⟩ := waiting timerDue timerDone waits
  exact due timerDue timerBefore waited

/-- Time passes only up to the timer of a call. -/
theorem StreamPump.Punctual.tick (punctual : pump.Punctual) {elapsed : ℚ}
    (timely : pump.onTime (.tick elapsed)) :
    ({ pump with now := pump.now + elapsed } : StreamPump).Punctual := by
  intro read busy current early
  obtain ⟨before, due⟩ := punctual read busy current early
  refine ⟨?_, due⟩
  rcases timely with rfl | idle
  · simpa using before
  · cases call : pump.call with
    | idle => exact absurd call busy
    | cancellingTimer done =>
      rw [call] at idle
      cases idle
    | waiting timerDue timerDone =>
      rw [call] at idle
      cases timerDone with
      | true => cases idle
      | false => exact le_trans idle.2 (due timerDue false call)

/-- Steps on time keep the timer of a call ahead of its deadline. -/
theorem StreamPump.Punctual.step (punctual : pump.Punctual) (invariant : PumpInvariant settings pump)
    {label : PumpLabel} (timely : pump.onTime label) (stepped : pump.step settings label = some next) :
    next.Punctual := by
  cases invariant.step_move stepped with
  | nextEvent => exact pump.nextEvent_punctual settings
  | completed current =>
    -- completing the read does not move its deadline
    refine punctual.congr rfl rfl ?_ id fun _ timerDone waits => ⟨timerDone, waits⟩
    rw [current]
    rfl
  | resolved _ _ resolution => exact StreamPump.punctual_of_idle resolution.kept.1
  | disconnect => exact punctual
  | loseLease => exact punctual
  | fireTimer waiting =>
    refine punctual.congr rfl rfl rfl (fun _ => by simp [waiting]) fun _ _ busy => ?_
    cases busy
    exact ⟨false, waiting⟩
  | cancelling waiting =>
    exact punctual.congr rfl rfl rfl (fun _ => by simp [waiting]) fun _ _ busy => by cases busy
  | cancelCall => exact StreamPump.punctual_of_idle rfl
  | tick elapsed => exact punctual.tick timely
  | aclose idle => exact StreamPump.punctual_of_idle idle

/-- A call whose timer is done, or was cancelled, returns at the next step of the loop. -/
theorem PumpInvariant.returns (invariant : PumpInvariant settings pump) {label : PumpLabel}
    (ready : (∃ timerDue, pump.call = .waiting timerDue true) ∧ label = .wake ∨
      (∃ done, pump.call = .cancellingTimer done) ∧ label = .timerCancelled) :
    ∃ final, pump.step settings label = some final ∧ final.call = .idle := by
  rcases ready with ⟨⟨timerDue, waiting⟩, rfl⟩ | ⟨⟨done, cancelling⟩, rfl⟩
  · have stepped : pump.step settings .wake = some (pump.resolve pump.done) := by
      simp only [StreamPump.step, waiting]
    refine ⟨_, stepped, ?_⟩
    rcases invariant.wake stepped with ⟨_, _, _, _, resolution⟩ | ⟨_, unready, _, _⟩
    · exact resolution.kept.1
    · cases waiting.symm.trans unready
  · have stepped : pump.step settings .timerCancelled = some (pump.resolve done) := by
      simp only [StreamPump.step, cancelling]
    obtain ⟨_, _, _, _, resolution⟩ := invariant.timerCancelled stepped
    exact ⟨_, stepped, resolution.kept.1⟩

/-- A call whose deadline has come can return without time passing. -/
theorem StreamPump.Punctual.released (punctual : pump.Punctual) (invariant : PumpInvariant settings pump)
    (busy : pump.call ≠ .idle) {read : ProviderRead} (current : pump.read = some read)
    (early : pump.calledAt < read.deadline) (late : read.deadline ≤ pump.now) :
    ∃ labels final, labels ⊆ [.fireTimer, .wake, .timerCancelled] ∧
      Transition.run (StreamPump.step settings) pump labels = some final ∧ final.call = .idle := by
  cases call : pump.call with
  | idle => exact absurd call busy
  | cancellingTimer done =>
    obtain ⟨final, stepped, idle⟩ := invariant.returns (.inr ⟨⟨done, call⟩, rfl⟩)
    exact ⟨[.timerCancelled], final, by simp, Transition.run_cons_eq_some.mpr ⟨final, stepped, rfl⟩, idle⟩
  | waiting timerDue timerDone =>
    cases timerDone with
    | true =>
      obtain ⟨final, stepped, idle⟩ := invariant.returns (.inl ⟨⟨timerDue, call⟩, rfl⟩)
      exact ⟨[.wake], final, by simp, Transition.run_cons_eq_some.mpr ⟨final, stepped, rfl⟩, idle⟩
    | false =>
      have due : timerDue ≤ pump.now :=
        le_trans ((punctual read busy current early).2 timerDue false call) late
      have fired : pump.step settings .fireTimer = some { pump with call := .waiting timerDue true } := by
        simp only [StreamPump.step, call, if_pos due]
      obtain ⟨final, stepped, idle⟩ := (invariant.step fired).returns (.inl ⟨⟨timerDue, rfl⟩, rfl⟩)
      refine ⟨[.fireTimer, .wake], final, by simp, ?_, idle⟩
      exact Transition.run_cons_eq_some.mpr ⟨_, fired, Transition.run_cons_eq_some.mpr ⟨final, stepped, rfl⟩⟩

/-- A timeout is returned for a read that is pending at its deadline. -/
theorem PumpInvariant.timeout (invariant : PumpInvariant settings pump) {label : PumpLabel}
    (stepped : pump.step settings label = some next) (returned : next.returned = pump.returned ++ [.timeout]) :
    ∃ read, pump.read = some read ∧ read.outcome = none ∧
      settings.chunkTimeoutSeconds ≤ pump.now - read.startedAt := by
  rcases invariant.step_cases stepped with ⟨read, done, current, resolution, found⟩ | unresolved
  · have last : ∀ event, pump.returned ++ [event] = pump.returned ++ [.timeout] → event = .timeout := by
      intro event same
      simpa using same
    cases resolution with
    | interrupted _ _ timeless => exact absurd (last _ returned) timeless
    | chunk => cases last _ returned
    | ended => cases last _ returned
    | raised => simp at returned
    | heartbeat => cases last _ returned
    | timeout uninterrupted pending late =>
      refine ⟨read, current, ?_, ?_⟩
      · rcases found with rfl | busy
        · simpa [StreamPump.done, StreamPump.readDone, current] using pending
        · have any := (invariant.snapshot done busy).1
          rw [DoneTasks.any, Bool.or_assoc, pending, uninterrupted] at any
          cases any
      · rw [invariant.deadlines read current] at late
        linarith
  · exact absurd returned unresolved.timeless

end Timer

/-! ## The contract of the pump -/

/-- What a pump promises in every state it reaches by the labels.  A call that left its wait
with the chunk alone, and is cancelling its timer, may still return that chunk. -/
structure PumpContract (settings : PumpSettings) (labels : List PumpLabel) (pump : StreamPump) : Prop where
  delivered : pump.closed = false → pump.contents <+: pump.produced
  ended : pump.closed = false → .ended ∈ pump.returned →
    pump.exhausted = true ∧ pump.contents = pump.produced
  timeout : ∀ label next, pump.step settings label = some next →
    next.returned = pump.returned ++ [.timeout] →
    ∃ read, pump.read = some read ∧ read.outcome = none ∧
      settings.chunkTimeoutSeconds ≤ pump.now - read.startedAt
  punctual : Transition.Throughout (StreamPump.step settings) StreamPump.onTime .initial labels →
    ∀ read, pump.call ≠ .idle → pump.read = some read → pump.calledAt < read.deadline →
      pump.now ≤ read.deadline ∧ (read.deadline ≤ pump.now →
        ∃ later final, later ⊆ [.fireTimer, .wake, .timerCancelled] ∧
          Transition.run (StreamPump.step settings) pump later = some final ∧ final.call = .idle)
  interrupted : pump.Interrupted → ∀ later final,
    Transition.run (StreamPump.step settings) pump later = some final →
    final.contents = pump.contents ∨
      ∃ done read content, pump.call = .cancellingTimer done ∧ (done.disconnect || done.lease) = false ∧
        pump.read = some read ∧ read.outcome = some (.chunk content) ∧
        final.contents = pump.contents ++ [content]

theorem stream_pump_delivers {settings : PumpSettings} {labels : List PumpLabel} {pump : StreamPump}
    (reached : Transition.run (StreamPump.step settings) .initial labels = some pump) :
    PumpContract settings labels pump := by
  have invariant := Transition.run_invariant (PumpInvariant settings)
    (fun _ _ _ invariant stepped => invariant.step stepped) (pumpInvariant_initial settings) reached
  refine ⟨fun opened => ?_, fun opened returned => ?_, fun label next stepped returned => ?_,
    fun timely read busy current early => ?_, fun interrupted later final ran => ?_⟩
  · rw [invariant.delivered opened]
    exact List.prefix_append _ _
  · have exhausted := invariant.ended opened returned
    have delivered := invariant.delivered opened
    rw [invariant.finished exhausted, List.append_nil] at delivered
    exact ⟨exhausted, delivered.symm⟩
  · exact invariant.timeout stepped returned
  · have holds := Transition.run_invariant_throughout
      (fun pump : StreamPump => PumpInvariant settings pump ∧ pump.Punctual)
      (fun _ _ _ holds timely stepped => ⟨holds.1.step stepped, holds.2.step holds.1 timely stepped⟩)
      ⟨pumpInvariant_initial settings, StreamPump.punctual_of_idle rfl⟩ timely reached
    exact ⟨(holds.2 read busy current early).1, holds.2.released holds.1 busy current early⟩
  · by_cases held : ∃ done, pump.call = .cancellingTimer done ∧ (done.disconnect || done.lease) = false
    · obtain ⟨done, busy, unseen⟩ := held
      rcases invariant.held_run interrupted busy unseen ran with same | ⟨read, content, current, outcome, grown⟩
      · exact .inl same
      · exact .inr ⟨done, read, content, busy, unseen, current, outcome, grown⟩
    · left
      refine invariant.heeded_run (.inr ⟨interrupted, fun done busy => ?_⟩) ran
      by_contra unseen
      exact held ⟨done, busy, by simpa using unseen⟩

/-! ## A lease that is lost while a call cancels its timer -/

def leasedPump : PumpSettings := ⟨15, 60, true⟩

theorem stream_pump_delivers_chunk :
    ∃ pump, Transition.run (StreamPump.step leasedPump) .initial
        [.nextEvent, .tick 1, .produce "a", .wake, .timerCancelled] = some pump ∧
      PumpContract leasedPump [.nextEvent, .tick 1, .produce "a", .wake, .timerCancelled] pump :=
  ⟨_, rfl, stream_pump_delivers rfl⟩

/-- The wait returned with the chunk; the lease task completes before the chunk is returned. -/
theorem chunk_after_lease_loss :
    ¬∀ (settings : PumpSettings) (labels : List PumpLabel) (pump : StreamPump),
      Transition.run (StreamPump.step settings) .initial labels = some pump → pump.Interrupted →
      ∀ later final, Transition.run (StreamPump.step settings) pump later = some final →
        final.contents = pump.contents := by
  intro silent
  have unchanged := silent leasedPump [.nextEvent, .produce "a", .wake, .loseLease] _ rfl (.inr rfl)
    [.timerCancelled] _ rfl
  exact absurd unchanged (by decide +kernel)

end Eiraos
