import Eiraos.Chat.EventGenerator
import Eiraos.Persistence.Atomicity

/-! # One terminal transition of the stream

Up to its claim the generator has no terminal state, and every exception that a clause of the
body catches claims one.  What the clauses do not catch, a `GeneratorExit` at a yield, leaves
the execution without; so does a cancellation of the terminal write, which nothing repeats.
-/

namespace Eiraos

namespace EventGenerator

/-- One terminal transition is applied, and unless the persistence failed the execution is
in a terminal status. -/
def Settled (setup : StreamSetup) (generator : EventGenerator) : Prop :=
  generator.transitions.length = 1 ∧
    (generator.persistenceFailed = false → generator.database.isClosed setup.executionId = true)

/-- The consumer closes the generator before a terminal state is claimed, or the task is
cancelled in the terminal write while the execution is open. -/
def spoils (setup : StreamSetup) (generator : EventGenerator) (signal : GeneratorSignal) : Prop :=
  match generator.point, signal with
  | .yielded _, .closed => generator.terminal = none
  | .awaiting (.applyTerminal _), .raised .cancelled =>
    generator.database.isClosed setup.executionId = false
  | _, _ => False

/-- Someone else brings the execution to a terminal status. -/
def closedElsewhere (setup : StreamSetup) (generator : EventGenerator) (signal : GeneratorSignal) : Prop :=
  match signal with
  | .others database =>
    generator.database.isClosed setup.executionId = false ∧ database.isClosed setup.executionId = true
  | _ => False

/-! ## The invariant -/

/-- Before the claim. -/
def Unclaimed (generator : EventGenerator) : Prop :=
  generator.terminal = none ∧ generator.transitions = [] ∧ generator.persistenceFailed = false

/-- In the terminal write. -/
def Applying (generator : EventGenerator) : Prop :=
  generator.terminal.isSome = true ∧ generator.transitions.length = 1 ∧
    generator.persistenceFailed = false

/-- After the terminal write. -/
def Resolved (setup : StreamSetup) (generator : EventGenerator) : Prop :=
  generator.terminal.isSome = true ∧ generator.Settled setup

def Sound (setup : StreamSetup) (generator : EventGenerator) : Prop :=
  match generator.point with
  | .yielded .done | .yielded .error | .cleaning _ _ | .ended _ => generator.Resolved setup
  | .awaiting (.applyTerminal _) => generator.Applying
  | _ => generator.Unclaimed

variable {setup : StreamSetup} {generator next : EventGenerator}

theorem initial_sound {storage : Storage} {before : Database}
    (started : initial setup storage before = some generator) : generator.Sound setup := by
  unfold initial at started
  split at started
  · cases started
    exact ⟨rfl, rfl, rfl⟩
  · cases started

theorem Unclaimed.withFailureCode (unclaimed : generator.Unclaimed) (code : FailureCode) :
    { generator with streamFailureCode := code }.Unclaimed := unclaimed

theorem Resolved.withFailureCode (resolved : generator.Resolved setup) (code : FailureCode) :
    { generator with streamFailureCode := code }.Resolved setup := resolved

/-! ## The clauses -/

theorem finish_sound (resolved : generator.Resolved setup) (tasks : List CleanupTask)
    (exception : Option StreamException) : (generator.finish tasks exception).Sound setup := by
  cases tasks <;> exact resolved

theorem leaveHandler_sound (resolved : generator.Resolved setup) (terminal : StreamTerminal) :
    (generator.leaveHandler setup terminal).Sound setup := by
  cases terminal with
  | cancelled => exact finish_sound resolved _ _
  | completed => exact resolved
  | failed => exact resolved

/-- The model of the bot is priced, so the accountant never raises in the terminal write. -/
theorem terminalEntries_eq_some (setup : StreamSetup) (generator : EventGenerator) :
    ∃ entries, generator.terminalEntries setup = some entries := by
  unfold terminalEntries
  split
  · exact ⟨_, rfl⟩
  · obtain ⟨metadata, read⟩ := setup.listed
    obtain ⟨normalized, named, found⟩ := Guarded.bind_eq_ok.mp read
    obtain ⟨entry, accounted⟩ := account_listed named (Guarded.required_eq_ok.mp found)
      (by decide : Operation.primary ≠ .reservation) setup.context.messages
      (generator.primaryContent.getD generator.accumulated) setup.context.systemPrompt
    exact ⟨_, by rw [accountPrimary, Guarded.toOption_eq_some.mpr accounted]; rfl⟩

theorem finalizeStream_sound (unclaimed : generator.Unclaimed) (terminal : StreamTerminal)
    (returned raised : EventGenerator → EventGenerator) :
    (generator.finalizeStream setup terminal returned raised).Sound setup := by
  obtain ⟨free, none, persistence⟩ := unclaimed
  have open_ : ¬generator.terminal.isSome = true := by simp [free]
  rw [finalizeStream, if_neg open_]
  obtain ⟨entries, accounted⟩ := terminalEntries_eq_some setup
    { generator with terminal := some terminal, transitions := generator.transitions ++ [terminal] }
  simp only [accounted]
  exact ⟨rfl, by simp [none], persistence⟩

/-- Every exception the body can raise, other than the consumer's close, is caught. -/
theorem handle_sound (unclaimed : generator.Unclaimed) {exception : StreamException}
    (caught : exception ≠ .generatorExit) : (generator.handle setup exception).Sound setup := by
  cases exception with
  | cancelled => exact finalizeStream_sound (unclaimed.withFailureCode _) _ _ _
  | isolated code => exact finalizeStream_sound (unclaimed.withFailureCode code) _ _ _
  | other => exact finalizeStream_sound unclaimed _ _ _
  | generatorExit => exact absurd rfl caught

/-- A later exception overwrites nothing. -/
theorem handle_resolved (resolved : generator.Resolved setup) (exception : StreamException) :
    (generator.handle setup exception).Sound setup := by
  have claimed := resolved.1
  cases exception with
  | cancelled =>
    rw [handle, finalizeStream, if_pos claimed]
    exact leaveHandler_sound (resolved.withFailureCode _) _
  | isolated code =>
    rw [handle, finalizeStream, if_pos claimed]
    exact leaveHandler_sound (resolved.withFailureCode code) _
  | other =>
    rw [handle, finalizeStream, if_pos claimed]
    exact leaveHandler_sound resolved _
  | generatorExit => exact finish_sound resolved _ _

theorem applied_sound (resolved : generator.Resolved setup) (terminal : StreamTerminal)
    (result : Except PersistenceError Bool) : (generator.applied setup terminal result).Sound setup := by
  unfold applied
  split
  · exact resolved
  · exact handle_resolved resolved _
  · exact leaveHandler_sound resolved _

theorem interruptApply_sound (resolved : generator.Resolved setup) (terminal : StreamTerminal) :
    (generator.interruptApply setup terminal).Sound setup := by
  cases terminal with
  | completed => exact handle_resolved resolved _
  | failed => exact finish_sound resolved _ _
  | cancelled => exact finish_sound resolved _ _

/-- A terminal write that returns has closed the execution. -/
theorem persist_resolved (applying : generator.Applying) (storage : Storage) (now : Instant)
    (terminal : StreamTerminal) : (generator.persist setup storage now terminal).1.Resolved setup := by
  obtain ⟨claimed, once, _⟩ := applying
  unfold persist
  split
  next database result written =>
    refine ⟨claimed, once, fun persistence => ?_⟩
    cases result with
    | error => simp [Except.isOk, Except.toBool] at persistence
    | ok done =>
      obtain ⟨execution, found, closed⟩ := finalize_closes written
      have named : (generator.terminalRequest setup terminal).executionId = setup.executionId := by
        cases terminal <;> rfl
      rw [named] at found
      simp [Database.isClosed, found, closed]

/-! ## The body -/

theorem complete_sound (unclaimed : generator.Unclaimed) : (generator.complete setup).Sound setup := by
  unfold complete
  split
  · exact handle_sound unclaimed (by decide)
  · exact finalizeStream_sound unclaimed _ _ _

theorem verify_sound (unclaimed : generator.Unclaimed) : (generator.verify setup).Sound setup := by
  unfold verify
  split
  · exact unclaimed
  · exact complete_sound unclaimed

theorem settlePrimaryUsage_sound (unclaimed : generator.Unclaimed) :
    (generator.settlePrimaryUsage setup).Sound setup := by
  unfold settlePrimaryUsage
  split
  · exact verify_sound unclaimed
  · split
    · split
      · exact handle_sound unclaimed (by decide)
      · exact unclaimed
    · exact verify_sound unclaimed

theorem receive_sound (unclaimed : generator.Unclaimed) (event : StreamEvent) :
    (generator.receive setup event).Sound setup := by
  cases event with
  | chunk content => exact unclaimed
  | heartbeat => exact unclaimed
  | ended => exact unclaimed
  | disconnected => exact handle_sound (unclaimed.withFailureCode _) (by decide)
  | leaseLost => exact handle_sound (unclaimed.withFailureCode _) (by decide)
  | timeout => exact handle_sound (unclaimed.withFailureCode _) (by decide)

theorem verified_sound (unclaimed : generator.Unclaimed) (result : VerificationResult)
    (verifier : Option (String × String)) :
    (generator.verified setup result verifier).Sound setup := by
  have done : { generator with verifying := false }.Unclaimed := unclaimed
  unfold verified
  dsimp only
  split
  · exact handle_sound done (by decide)
  · exact unclaimed

theorem polled_sound (unclaimed : generator.Unclaimed) (disconnected : Bool) :
    (generator.polled setup disconnected).Sound setup := by
  unfold polled
  split
  · exact handle_sound unclaimed (by decide)
  · split
    · exact handle_sound unclaimed (by decide)
    · exact unclaimed

/-! ## Steps -/

theorem resume_sound (sound : generator.Sound setup) {value : YieldPoint}
    (point : generator.point = .yielded value) : (generator.resume setup value).Sound setup := by
  rw [Sound, point] at sound
  cases value with
  | start => exact sound
  | token => exact sound
  | keepAlive => exact sound
  | verifierKeepAlive => exact sound
  | verification => exact complete_sound sound
  | done => exact finish_sound sound _ _
  | error => exact finish_sound sound _ _

/-- Closed at a yield, a generator with a terminal state keeps it. -/
theorem closed_sound (sound : generator.Sound setup) {value : YieldPoint}
    (point : generator.point = .yielded value) (claimed : generator.terminal ≠ none) :
    (generator.handle setup .generatorExit).Sound setup := by
  rw [Sound, point] at sound
  cases value with
  | done => exact handle_resolved sound _
  | error => exact handle_resolved sound _
  | _ => exact absurd sound.1 claimed

theorem returned_sound (sound : generator.Sound setup) {call : AwaitPoint}
    (point : generator.point = .awaiting call) (stepped : generator.returned setup call = some next) :
    next.Sound setup := by
  rw [Sound, point] at sound
  cases call with
  | closePump =>
    have ready : { generator with primaryContent := some generator.accumulated }.Unclaimed := sound
    cases stepped
    exact settlePrimaryUsage_sound ready
  | settle =>
    cases stepped
    exact verify_sound sound
  | verifier =>
    cases stepped
    exact sound
  | nextEvent => cases stepped
  | isDisconnected => cases stepped
  | applyTerminal => cases stepped

theorem Applying.failed (applying : generator.Applying) :
    { generator with persistenceFailed := true }.Resolved setup :=
  ⟨applying.1, applying.2.1, fun persistence => by cases persistence⟩

theorem raised_sound (sound : generator.Sound setup) {call : AwaitPoint} {exception : StreamException}
    (point : generator.point = .awaiting call)
    (unspoilt : ¬generator.spoils setup (.raised exception))
    (stepped : generator.raised setup call exception = some next) : next.Sound setup := by
  rw [Sound, point] at sound
  by_cases closing : exception = .generatorExit
  · cases closing
    cases call <;> cases stepped
  cases call with
  | applyTerminal terminal =>
    cases exception with
    | cancelled =>
      cases stepped
      simp only [spoils, point] at unspoilt
      have resolved : generator.Resolved setup :=
        ⟨sound.1, sound.2.1, fun _ => by simpa using unspoilt⟩
      exact interruptApply_sound resolved _
    | other =>
      cases stepped
      exact applied_sound sound.failed _ _
    | isolated => cases stepped
    | generatorExit => cases stepped
  | _ =>
    cases exception with
    | generatorExit => exact absurd rfl closing
    | _ =>
      cases stepped
      exact handle_sound sound closing

/-- What happens meanwhile leaves the claim alone, and a closed execution closed. -/
theorem Sound.follow (sound : generator.Sound setup) (point : next.point = generator.point)
    (terminal : next.terminal = generator.terminal)
    (transitions : next.transitions = generator.transitions)
    (persistence : next.persistenceFailed = generator.persistenceFailed)
    (closed : generator.database.isClosed setup.executionId = true →
      next.database.isClosed setup.executionId = true) : next.Sound setup := by
  have resolved : generator.Resolved setup → next.Resolved setup := by
    rintro ⟨claimed, once, settled⟩
    refine ⟨terminal ▸ claimed, transitions ▸ once, fun worked => ?_⟩
    exact closed (settled (persistence ▸ worked))
  have applying : generator.Applying → next.Applying := by
    rintro ⟨claimed, once, worked⟩
    exact ⟨terminal ▸ claimed, transitions ▸ once, persistence ▸ worked⟩
  have unclaimed : generator.Unclaimed → next.Unclaimed := by
    rintro ⟨free, none, worked⟩
    exact ⟨terminal ▸ free, transitions ▸ none, persistence ▸ worked⟩
  unfold Sound at sound ⊢
  rw [point]
  split at sound
  · exact resolved sound
  · exact resolved sound
  · exact resolved sound
  · exact resolved sound
  · exact applying sound
  · exact unclaimed sound

theorem step_sound (sound : generator.Sound setup) {signal : GeneratorSignal}
    (unspoilt : ¬generator.spoils setup signal) (stepped : generator.step setup signal = some next) :
    next.Sound setup := by
  cases signal with
  | resumed =>
    simp only [step] at stepped
    split at stepped
    next value point =>
      cases stepped
      exact resume_sound sound point
    next => cases stepped
  | closed =>
    simp only [step] at stepped
    split at stepped
    next value point =>
      cases stepped
      -- A close before any terminal state is claimed is excluded by the condition.
      simp only [spoils, point] at unspoilt
      exact closed_sound sound point unspoilt
    next => cases stepped
  | event event =>
    simp only [step] at stepped
    split at stepped
    next point =>
      cases stepped
      rw [Sound, point] at sound
      exact receive_sound sound event
    next => cases stepped
  | returned =>
    simp only [step] at stepped
    split at stepped
    next call point => exact returned_sound sound point stepped
    next tasks exception point =>
      cases stepped
      rw [Sound, point] at sound
      exact finish_sound sound _ _
    next => cases stepped
  | raised exception =>
    simp only [step] at stepped
    split at stepped
    next call point => exact raised_sound sound point unspoilt stepped
    next point =>
      cases stepped
      rw [Sound, point] at sound
      exact sound
    next => cases stepped
  | verified result verifier =>
    simp only [step] at stepped
    split at stepped
    next point =>
      cases stepped
      rw [Sound, point] at sound
      exact verified_sound sound result verifier
    next => cases stepped
  | polled disconnected =>
    simp only [step] at stepped
    split at stepped
    next point =>
      cases stepped
      rw [Sound, point] at sound
      exact polled_sound sound disconnected
    next => cases stepped
  | persisted storage now =>
    simp only [step] at stepped
    split at stepped
    next terminal point =>
      cases stepped
      rw [Sound, point] at sound
      exact applied_sound (persist_resolved sound storage now terminal) _ _
    next => cases stepped
  | persistedCancelled storage now =>
    simp only [step] at stepped
    split at stepped
    next terminal point =>
      cases stepped
      rw [Sound, point] at sound
      exact interruptApply_sound (persist_resolved sound storage now terminal) _
    next => cases stepped
  | reported usage =>
    simp only [step] at stepped
    split at stepped
    next =>
      cases stepped
      exact sound.follow rfl rfl rfl rfl id
    next => cases stepped
  | leaseLost =>
    simp only [step] at stepped
    split at stepped
    next =>
      cases stepped
      exact sound.follow rfl rfl rfl rfl id
    next => cases stepped
  | others database =>
    simp only [step] at stepped
    split at stepped
    next kept =>
      cases stepped
      exact sound.follow rfl rfl rfl rfl kept
    next => cases stepped

/-! ## Without a terminal transition -/

/-- The generator is in its `finally` clause, or has ended, and no transition is applied. -/
def Doomed (setup : StreamSetup) (generator : EventGenerator) : Prop :=
  ((∃ tasks exception, generator.point = .cleaning tasks exception) ∨
      ∃ exception, generator.point = .ended exception) ∧
    (generator.transitions = [] ∨
      generator.persistenceFailed = false ∧ generator.database.isClosed setup.executionId = false)

theorem Doomed.unsettled (doomed : generator.Doomed setup) : ¬generator.Settled setup := by
  rintro ⟨once, closed⟩
  rcases doomed.2 with none | ⟨worked, running⟩
  · simp [none] at once
  · rw [closed worked] at running
    cases running

theorem finish_doomed {tasks : List CleanupTask} {exception : Option StreamException}
    (unapplied : generator.transitions = [] ∨
      generator.persistenceFailed = false ∧ generator.database.isClosed setup.executionId = false) :
    (generator.finish tasks exception).Doomed setup := by
  cases tasks with
  | nil => exact ⟨.inr ⟨_, rfl⟩, unapplied⟩
  | cons => exact ⟨.inl ⟨_, _, rfl⟩, unapplied⟩

theorem yielded_unclaimed (sound : generator.Sound setup) {value : YieldPoint}
    (point : generator.point = .yielded value) (free : generator.terminal = none) :
    generator.transitions = [] := by
  rw [Sound, point] at sound
  cases value with
  | done => exact absurd free (Option.isSome_iff_ne_none.mp sound.1)
  | error => exact absurd free (Option.isSome_iff_ne_none.mp sound.1)
  | _ => exact sound.2.1

/-- A spoilt step leaves the generator without a terminal transition. -/
theorem step_spoilt (sound : generator.Sound setup) {signal : GeneratorSignal}
    (spoilt : generator.spoils setup signal) (stepped : generator.step setup signal = some next) :
    next.Doomed setup := by
  unfold spoils at spoilt
  split at spoilt
  next value point =>
    simp only [step, point] at stepped
    cases stepped
    exact finish_doomed (.inl (yielded_unclaimed sound point spoilt))
  next terminal point =>
    simp only [step, point] at stepped
    cases stepped
    rw [Sound, point] at sound
    obtain ⟨claimed, _, worked⟩ := sound
    cases terminal with
    | completed =>
      rw [interruptApply, handle, finalizeStream, if_pos claimed]
      exact finish_doomed (.inr ⟨worked, spoilt⟩)
    | failed => exact finish_doomed (.inr ⟨worked, spoilt⟩)
    | cancelled => exact finish_doomed (.inr ⟨worked, spoilt⟩)
  next => exact spoilt.elim

theorem step_doomed (doomed : generator.Doomed setup) {signal : GeneratorSignal}
    (alone : ¬generator.closedElsewhere setup signal)
    (stepped : generator.step setup signal = some next) : next.Doomed setup := by
  obtain ⟨leaving, unapplied⟩ := doomed
  cases signal with
  | reported usage =>
    simp only [step] at stepped
    split at stepped
    next =>
      cases stepped
      exact ⟨leaving, unapplied⟩
    next => cases stepped
  | leaseLost =>
    simp only [step] at stepped
    split at stepped
    next =>
      cases stepped
      exact ⟨leaving, unapplied⟩
    next => cases stepped
  | others database =>
    simp only [step] at stepped
    split at stepped
    next =>
      cases stepped
      refine ⟨leaving, unapplied.imp_right fun ⟨worked, running⟩ => ⟨worked, ?_⟩⟩
      by_contra closed
      exact alone ⟨running, by simpa using closed⟩
    next => cases stepped
  | returned =>
    rcases leaving with ⟨tasks, exception, point⟩ | ⟨exception, point⟩
    · cases tasks with
      | nil => simp [step, point] at stepped
      | cons task tasks =>
        simp only [step, point] at stepped
        cases stepped
        exact finish_doomed unapplied
    · simp [step, point] at stepped
  | raised exception =>
    rcases leaving with ⟨tasks, earlier, point⟩ | ⟨earlier, point⟩
    · simp only [step, point] at stepped
      cases stepped
      exact ⟨.inr ⟨_, rfl⟩, unapplied⟩
    · simp [step, point] at stepped
  | _ =>
    rcases leaving with ⟨tasks, exception, point⟩ | ⟨exception, point⟩ <;>
      simp [step, point] at stepped

end EventGenerator

/-! ## Every run -/

open EventGenerator in
/-- A run without a spoilt step applies one terminal transition; one with a spoilt step does
not, unless somebody else closes the execution. -/
theorem stream_settled_iff {setup : StreamSetup} {storage : Storage} {before : Database}
    {start final : EventGenerator} {signals : List GeneratorSignal}
    {exception : Option StreamException} (started : initial setup storage before = some start)
    (ran : Transition.run (step setup) start signals = some final)
    (ended : final.point = .ended exception) :
    (Transition.Throughout (step setup) (fun generator signal => ¬generator.spoils setup signal)
        start signals → final.Settled setup) ∧
      (Transition.Throughout (step setup) (fun generator signal => ¬generator.closedElsewhere setup signal)
          start signals →
        final.Settled setup →
          Transition.Throughout (step setup) (fun generator signal => ¬generator.spoils setup signal)
            start signals) := by
  have sound := initial_sound started
  constructor
  · intro unspoilt
    have resolved := Transition.run_invariant_throughout (Sound setup)
      (fun _ _ _ sound unspoilt stepped => step_sound sound unspoilt stepped) sound unspoilt ran
    rw [Sound, ended] at resolved
    exact resolved.2
  · intro alone settled
    have either := Transition.throughout_or_doomed (Sound setup) (Doomed setup)
      (fun _ _ _ sound _ unspoilt stepped => step_sound sound unspoilt stepped)
      (fun _ _ _ sound _ spoilt stepped => step_spoilt sound (not_not.mp spoilt) stepped)
      (fun _ _ _ doomed alone stepped => step_doomed doomed alone stepped) sound alone ran
    rcases either with unspoilt | doomed
    · exact unspoilt
    · exact absurd settled doomed.unsettled

/-! ## A stream with and without its consumer -/

def bareRuntime : Runtime where
  json := ⟨fun _ => .error .valueError, fun _ => "response", fun _ => "None"⟩
  lowercase := fun _ character _ => [character]
  uppercase := fun character => [character]

/-- Without Redis or verification; the lease is not renewed. -/
def leasedStream : StreamSetup where
  runtime := bareRuntime
  payload := ⟨"hello", false, true, "openai", "gpt-4o"⟩
  context := ⟨[⟨"user", "hello"⟩], none⟩
  tenant := false
  heartbeat := false
  executionId := "execution"
  leaseToken := some "token"
  listed := ⟨_, rfl⟩

/-- One chunk, the end of the provider's stream and the completing write. -/
def completedSignals : List GeneratorSignal :=
  [.resumed, .event (.chunk "hi"), .resumed, .event .ended, .returned, .persisted .available 1, .resumed]

theorem stream_settled_iff_completed :
    ∃ start final,
      EventGenerator.initial leasedStream .available streamingExchange = some start ∧
      Transition.run (EventGenerator.step leasedStream) start completedSignals = some final ∧
      (Transition.Throughout (EventGenerator.step leasedStream)
          (fun generator signal => ¬generator.spoils leasedStream signal) start completedSignals →
        final.Settled leasedStream) ∧
      (Transition.Throughout (EventGenerator.step leasedStream)
          (fun generator signal => ¬generator.closedElsewhere leasedStream signal) start completedSignals →
        final.Settled leasedStream →
          Transition.Throughout (EventGenerator.step leasedStream)
            (fun generator signal => ¬generator.spoils leasedStream signal) start completedSignals) :=
  ⟨_, _, rfl, rfl,
    @stream_settled_iff leasedStream .available streamingExchange _ _ completedSignals none rfl rfl rfl⟩

/-- The consumer closes the generator at its first chunk: no clause catches `GeneratorExit`,
and the execution stays streaming. -/
theorem closed_stream_unsettled :
    ¬∀ (setup : StreamSetup) (storage : Storage) (before : Database) (start final : EventGenerator)
      (signals : List GeneratorSignal) (exception : Option StreamException),
      EventGenerator.initial setup storage before = some start →
      Transition.run (EventGenerator.step setup) start signals = some final →
      final.point = .ended exception → final.Settled setup := by
  intro settled
  have once := (settled leasedStream .available streamingExchange _ _
    [.resumed, .event (.chunk "hi"), .closed, .returned] _ rfl rfl rfl).1
  exact absurd once (by decide)

end Eiraos
