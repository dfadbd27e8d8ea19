import Eiraos.Chat.TerminalTransition
import Eiraos.Foundations.JsonRoundTrip
import Eiraos.Foundations.ServerSentEvents

/-! # What a client reads of a stream (`event_generator` of `api/v1/chat.py`, `client/sdk.py`)

Every value that the generator yields is one frame.  The texts in it are those of the provider and of
the verifier, which may hold anything.
-/

namespace Eiraos

open PythonJson (JsonValue)
open JsonText ServerSentEvents
open Transition (run)

inductive StreamMessage where
  | start (botId conversationId messageId : Nat)
  | token (content : String)
  | verification (status : String) (verified : Bool) (reason : String)
  | done (fullContent : String) (verified : Bool) (status reason : Option String)
  | error
  deriving DecidableEq, Repr

def sanitize : String := "An unexpected error occurred while processing your request."

/-- A text or `None`. -/
def optionalText : Option String → JsonValue
  | none => .null
  | some text => .string text

def StreamMessage.payload : StreamMessage → JsonValue
  | start botId conversationId messageId =>
    .object [("type", .string "start"), ("bot_id", .int botId), ("conversation_id", .int conversationId),
      ("message_id", .int messageId)]
  | token content => .object [("type", .string "token"), ("content", .string content)]
  | verification status verified reason =>
    .object [("type", .string "verification"), ("status", .string status), ("verified", .bool verified),
      ("reason", .string reason)]
  | done fullContent verified status reason =>
    .object [("type", .string "done"), ("full_content", .string fullContent), ("verified", .bool verified),
      ("verification_status", optionalText status), ("verification_reason", optionalText reason)]
  | error => .object [("type", .string "error"), ("detail", .string sanitize)]

/-- A value that the generator yields. -/
inductive StreamFrame where
  | told (message : StreamMessage)
  | keepAlive
  deriving DecidableEq, Repr

def StreamFrame.frame : StreamFrame → Frame
  | told message => .data (write message.payload)
  | keepAlive => .comment "keep-alive".toList

def StreamFrame.message? : StreamFrame → Option StreamMessage
  | told message => some message
  | keepAlive => none

/-- The lines of `stream_chat`: `aiter_lines` takes the text apart at the `breaks`. -/
def streamChat (breaks : Char → Bool) (frames : List StreamFrame) : List (List Char) :=
  readLines breaks [] (frames.flatMap fun sent => sent.frame.text)

/-! ## The frames of a run -/

/-- A signal of the consumer or the end of a call; what happens meanwhile yields nothing. -/
def GeneratorSignal.advances : GeneratorSignal → Bool
  | reported _ | leaseLost | others _ => false
  | _ => true

namespace EventGenerator

def doneMessage (generator : EventGenerator) : StreamMessage :=
  .done generator.accumulated (generator.verification.any (·.verified))
    (generator.verification.map (·.status)) (generator.verification.map (·.reason))

/-- The value at a yield that the signal has led to. -/
def yields (signal : GeneratorSignal) (generator : EventGenerator) : YieldPoint → List StreamFrame
  | .start => []
  | .token =>
    match signal with
    | .event (.chunk content) => [.told (.token content)]
    | _ => []
  | .keepAlive | .verifierKeepAlive => [.keepAlive]
  | .verification =>
    (generator.verification.map fun result =>
      StreamFrame.told (.verification result.status result.verified result.reason)).toList
  | .done => [.told generator.doneMessage]
  | .error => [.told .error]

def sends (signal : GeneratorSignal) (next : EventGenerator) : List StreamFrame :=
  match signal.advances, next.point with
  | true, .yielded value => next.yields signal value
  | _, _ => []

end EventGenerator

/-- The generator and what it has yielded. -/
structure Broadcast where
  generator : EventGenerator
  sent : List StreamFrame
  deriving DecidableEq, Repr

namespace Broadcast

def initial (setup : StreamSetup) (storage : Storage) (before : Database) (opening : StreamMessage) :
    Option Broadcast :=
  (EventGenerator.initial setup storage before).map fun generator => ⟨generator, [.told opening]⟩

def step (setup : StreamSetup) (broadcast : Broadcast) (signal : GeneratorSignal) : Option Broadcast :=
  (broadcast.generator.step setup signal).map fun next => ⟨next, broadcast.sent ++ next.sends signal⟩

def messages (broadcast : Broadcast) : List StreamMessage := broadcast.sent.filterMap StreamFrame.message?

end Broadcast

/-! ## The wire -/

section Wire

variable {breaks : Char → Bool}

theorem plain_optionalText (text : Option String) : Plain (optionalText text) := by
  cases text with
  | none => exact .null
  | some text => exact .string text

theorem plain_payload (message : StreamMessage) : Plain message.payload := by
  cases message with
  | start botId conversationId messageId =>
    refine .object (by simp) ?_
    simp only [List.forall_mem_cons]
    exact ⟨.string _, .int _, .int _, .int _, fun _ absent => nomatch absent⟩
  | token content =>
    refine .object (by simp) ?_
    simp only [List.forall_mem_cons]
    exact ⟨.string _, .string _, fun _ absent => nomatch absent⟩
  | verification status verified reason =>
    refine .object (by simp) ?_
    simp only [List.forall_mem_cons]
    exact ⟨.string _, .string _, .bool _, .string _, fun _ absent => nomatch absent⟩
  | done fullContent verified status reason =>
    refine .object (by simp) ?_
    simp only [List.forall_mem_cons]
    exact ⟨.string _, .string _, .bool _, plain_optionalText _, plain_optionalText _,
      fun _ absent => nomatch absent⟩
  | error =>
    refine .object (by simp) ?_
    simp only [List.forall_mem_cons]
    exact ⟨.string _, .string _, fun _ absent => nomatch absent⟩

theorem printable_line (sent : StreamFrame) : ∀ character ∈ sent.frame.line, Printable character := by
  cases sent with
  | told message =>
    show ∀ character ∈ ['d', 'a', 't', 'a', ':', ' '] ++ write message.payload, Printable character
    exact List.forall_mem_append.mpr ⟨printable_of_all rfl, printable_write (plain_payload message)⟩
  | keepAlive =>
    show ∀ character ∈ [':', ' '] ++ "keep-alive".toList, Printable character
    exact printable_of_all (by decide +kernel)

/-- Whatever the texts hold, a client reads the messages that were sent and nothing else. -/
theorem payloads_streamChat (newline : breaks '\n' = true)
    (printable : ∀ character, Printable character → breaks character = false) (float : String → JsonValue)
    (frames : List StreamFrame) :
    (streamChat breaks frames).filterMap (fun line => (data? line).map fun payload =>
        loads float (String.ofList payload)) =
      (frames.filterMap StreamFrame.message?).map fun message => some message.payload := by
  have whole : ∀ frame ∈ frames.map StreamFrame.frame, ∀ character ∈ frame.line, breaks character = false := by
    intro frame present character written
    obtain ⟨sent, _, rfl⟩ := List.mem_map.mp present
    exact printable character (printable_line sent character written)
  have read := payloads_frames newline whole
  rw [List.flatMap_map, List.filterMap_map] at read
  rw [← List.map_filterMap, streamChat, read, List.map_filterMap, List.map_filterMap]
  refine List.filterMap_congr fun sent _ => ?_
  cases sent with
  | told message =>
    show some (loads float (dumps message.payload)) = some (some message.payload)
    rw [loads_dumps (plain_payload message)]
  | keepAlive => rfl

end Wire

/-! ## What is told -/

namespace EventGenerator

variable {setup : StreamSetup} {generator next : EventGenerator}

/-- A verified answer is not ended before its verification. -/
def Checked (setup : StreamSetup) (generator : EventGenerator) : Prop :=
  setup.payload.verify = true → generator.verification.isSome = true

/-- What closes the stream, by the point that it is at. -/
def Progress (setup : StreamSetup) (generator : EventGenerator) (closing : List StreamMessage) : Prop :=
  match generator.point with
  | .yielded .done => closing = [generator.doneMessage] ∧ generator.Checked setup
  | .yielded .error => closing = [.error]
  | .cleaning _ _ | .ended _ =>
    closing = [] ∨ closing = [.error] ∨ closing = [generator.doneMessage] ∧ generator.Checked setup
  | .awaiting (.applyTerminal terminal) =>
    closing = [] ∧ (terminal = .completed → generator.Checked setup)
  | .yielded .verification => closing = [] ∧ generator.terminal = none ∧ generator.verification.isSome = true
  | _ => closing = [] ∧ generator.terminal = none ∧ generator.verification = none

/-- What the generator itself closes the stream with where it has no answer. -/
def closing (generator : EventGenerator) : List StreamMessage :=
  match generator.point with
  | .yielded .error => [.error]
  | _ => []

/-- The points that add to the answer, say something about it or hand it over. -/
def speaks (generator : EventGenerator) : Bool :=
  match generator.point with
  | .yielded .token | .yielded .verification | .yielded .done => true
  | _ => false

/-- The code behind an await keeps the answer. -/
structure Outcome (setup : StreamSetup) (generator next : EventGenerator) : Prop where
  accumulated : next.accumulated = generator.accumulated
  verification : next.verification = generator.verification
  silent : next.speaks = false
  progress : next.Progress setup next.closing

theorem finish_progress {tasks : List CleanupTask} {exception : Option StreamException}
    {closing : List StreamMessage}
    (closed : closing = [] ∨ closing = [.error] ∨ closing = [generator.doneMessage] ∧ generator.Checked setup) :
    (generator.finish tasks exception).Progress setup closing := by
  cases tasks with
  | nil => exact closed
  | cons => exact closed

theorem clean_outcome (exception : Option StreamException) :
    Outcome setup generator (generator.clean setup exception) := by
  unfold clean
  generalize ((if generator.verifying then [CleanupTask.verification] else []) ++
    (if generator.pumpOpen then [.pump] else []) ++ (if setup.heartbeat then [.heartbeat] else [])) = tasks
  cases tasks with
  | nil => exact ⟨rfl, rfl, rfl, .inl rfl⟩
  | cons => exact ⟨rfl, rfl, rfl, .inl rfl⟩

theorem leaveHandler_outcome (terminal : StreamTerminal) :
    Outcome setup generator (generator.leaveHandler setup terminal) := by
  cases terminal with
  | cancelled => exact clean_outcome _
  | _ => exact ⟨rfl, rfl, rfl, rfl⟩

theorem finalizeStream_outcome {terminal : StreamTerminal} {returned raised : EventGenerator → EventGenerator}
    (checked : terminal = .completed → generator.Checked setup)
    (onReturned : generator.terminal ≠ none → Outcome setup generator (returned generator))
    (onRaised : ∀ claimed : EventGenerator, claimed.accumulated = generator.accumulated →
      claimed.verification = generator.verification → Outcome setup generator (raised claimed)) :
    Outcome setup generator (generator.finalizeStream setup terminal returned raised) := by
  unfold finalizeStream
  split
  · rename_i claimed
    exact onReturned (Option.isSome_iff_ne_none.mp claimed)
  · dsimp only
    split
    · exact onRaised _ rfl rfl
    · exact ⟨rfl, rfl, rfl, rfl, checked⟩

theorem Outcome.of_same {other : EventGenerator} (outcome : Outcome setup other next)
    (accumulated : other.accumulated = generator.accumulated)
    (verification : other.verification = generator.verification) : Outcome setup generator next :=
  ⟨outcome.accumulated.trans accumulated, outcome.verification.trans verification, outcome.silent, outcome.progress⟩

theorem handle_outcome (exception : StreamException) :
    Outcome setup generator (generator.handle setup exception) := by
  have left : ∀ {terminal : StreamTerminal} {other : EventGenerator}, terminal ≠ .completed →
      other.accumulated = generator.accumulated → other.verification = generator.verification →
      Outcome setup generator (other.finalizeStream setup terminal (leaveHandler setup · terminal)
        (leaveHandler setup · terminal)) := by
    intro terminal other failing accumulated verification
    refine Outcome.of_same (finalizeStream_outcome (fun completed => absurd completed failing)
      (fun _ => leaveHandler_outcome terminal) fun claimed same sameVerification => ?_) accumulated verification
    exact (leaveHandler_outcome terminal).of_same same sameVerification
  cases exception with
  | cancelled => exact left (by decide) rfl rfl
  | isolated code => exact left (by decide) rfl rfl
  | other => exact left (by decide) rfl rfl
  | generatorExit => exact clean_outcome _

theorem applied_outcome {terminal : StreamTerminal} {result : Except PersistenceError Bool}
    (unfinished : ¬(terminal = .completed ∧ result = .ok true)) :
    Outcome setup generator (generator.applied setup terminal result) := by
  unfold applied
  split
  · exact absurd ⟨rfl, rfl⟩ unfinished
  · exact handle_outcome .other
  · exact leaveHandler_outcome _

theorem interruptApply_outcome (terminal : StreamTerminal) :
    Outcome setup generator (generator.interruptApply setup terminal) := by
  cases terminal with
  | completed => exact handle_outcome .cancelled
  | _ => exact clean_outcome _

theorem complete_outcome (free : generator.terminal = none) (checked : generator.Checked setup) :
    Outcome setup generator (generator.complete setup) := by
  unfold complete
  split
  · exact handle_outcome .other
  · refine finalizeStream_outcome (fun _ => checked) (fun claimed => absurd free claimed)
      fun claimed same sameVerification => ?_
    exact (handle_outcome .other).of_same same sameVerification

theorem verify_outcome (free : generator.terminal = none) (unverified : generator.verification = none) :
    Outcome setup generator (generator.verify setup) := by
  unfold verify
  split
  · exact ⟨rfl, rfl, rfl, rfl, free, unverified⟩
  · rename_i plain
    exact complete_outcome free fun asked => absurd asked plain

theorem settlePrimaryUsage_outcome (free : generator.terminal = none) (unverified : generator.verification = none) :
    Outcome setup generator (generator.settlePrimaryUsage setup) := by
  unfold settlePrimaryUsage
  split
  · exact verify_outcome free unverified
  · split
    · split
      · exact handle_outcome .other
      · exact ⟨rfl, rfl, rfl, rfl, free, unverified⟩
    · exact verify_outcome free unverified

theorem polled_outcome (free : generator.terminal = none) (unverified : generator.verification = none)
    (disconnected : Bool) : Outcome setup generator (generator.polled setup disconnected) := by
  unfold polled
  split
  · exact handle_outcome .cancelled
  · split
    · exact handle_outcome .other
    · exact ⟨rfl, rfl, rfl, rfl, free, unverified⟩

theorem sends_of_silent {signal : GeneratorSignal} (advancing : signal.advances = true)
    (silent : generator.speaks = false) :
    (generator.sends signal).filterMap StreamFrame.message? = generator.closing := by
  unfold sends closing
  rw [advancing]
  unfold speaks at silent
  cases point : generator.point with
  | yielded value => cases value <;> simp_all [yields, StreamFrame.message?]
  | _ => rfl

/-- What a step does: it keeps the answer, adds a token to it or the verification, hands it over once it
is stored, or sends nothing. -/
inductive Move (setup : StreamSetup) (generator : EventGenerator) (closing : List StreamMessage)
    (signal : GeneratorSignal) : EventGenerator → Prop where
  | outcome {next : EventGenerator} (unclosed : closing = []) (advancing : signal.advances = true)
      (outcome : Outcome setup generator next) : Move setup generator closing signal next
  | token {content : String} (unclosed : closing = []) (event : signal = .event (.chunk content))
      (free : generator.terminal = none) (unverified : generator.verification = none) :
      Move setup generator closing signal
        { generator with accumulated := generator.accumulated ++ content, point := .yielded .token }
  | verification {next : EventGenerator} {result : VerificationResult} (unclosed : closing = [])
      (advancing : signal.advances = true) (unverified : generator.verification = none)
      (point : next.point = .yielded .verification) (free : next.terminal = none)
      (verified : next.verification = some result) (answer : next.accumulated = result.answer) :
      Move setup generator closing signal next
  | stored {next : EventGenerator} {storage : Storage} {now : Instant} (unclosed : closing = [])
      (persisted : signal = .persisted storage now) (checked : generator.Checked setup)
      (written : finalize storage generator.database (generator.terminalRequest setup .completed) now =
        (next.database, .ok true))
      (accumulated : next.accumulated = generator.accumulated)
      (verification : next.verification = generator.verification) (point : next.point = .yielded .done) :
      Move setup generator closing signal next
  | silent {next : EventGenerator} (accumulated : next.accumulated = generator.accumulated)
      (verification : next.verification = generator.verification) (progress : next.Progress setup closing)
      (sent : next.sends signal = []) : Move setup generator closing signal next

theorem verified_move {closing : List StreamMessage} {signal : GeneratorSignal} (unclosed : closing = [])
    (advancing : signal.advances = true) (free : generator.terminal = none)
    (unverified : generator.verification = none) (result : VerificationResult)
    (verifier : Option (String × String)) :
    Move setup generator closing signal (generator.verified setup result verifier) := by
  unfold verified
  dsimp only
  split
  · exact .outcome unclosed advancing ((handle_outcome .other).of_same rfl rfl)
  · exact .verification unclosed advancing unverified rfl free rfl rfl

theorem receive_move {closing : List StreamMessage} (unclosed : closing = []) (free : generator.terminal = none)
    (unverified : generator.verification = none) (event : StreamEvent) :
    Move setup generator closing (.event event) (generator.receive setup event) := by
  cases event with
  | chunk content => exact .token unclosed rfl free unverified
  | heartbeat => exact .outcome unclosed rfl ⟨rfl, rfl, rfl, rfl, free, unverified⟩
  | ended => exact .outcome unclosed rfl ⟨rfl, rfl, rfl, rfl, free, unverified⟩
  | disconnected => exact .outcome unclosed rfl ((handle_outcome .cancelled).of_same rfl rfl)
  | leaseLost => exact .outcome unclosed rfl ((handle_outcome .other).of_same rfl rfl)
  | timeout => exact .outcome unclosed rfl ((handle_outcome .other).of_same rfl rfl)

/-- The `finally` clause and the end keep what closed the stream. -/
theorem finish_move {closing : List StreamMessage} {signal : GeneratorSignal} (tasks : List CleanupTask)
    {exception : Option StreamException}
    (closed : closing = [] ∨ closing = [.error] ∨ closing = [generator.doneMessage] ∧ generator.Checked setup) :
    Move setup generator closing signal (generator.finish tasks exception) := by
  refine .silent ?_ ?_ (finish_progress closed) ?_
  · cases tasks <;> rfl
  · cases tasks <;> rfl
  · unfold sends
    cases signal.advances <;> cases tasks <;> rfl

theorem clean_move {closing : List StreamMessage} {signal : GeneratorSignal}
    {exception : Option StreamException}
    (closed : closing = [] ∨ closing = [.error] ∨ closing = [generator.doneMessage] ∧ generator.Checked setup) :
    Move setup generator closing signal (generator.clean setup exception) := finish_move _ closed

/-- Whatever is in progress at a yield, closing the generator there ends it. -/
theorem closed_of_yielded {closing : List StreamMessage} (progress : generator.Progress setup closing)
    {value : YieldPoint} (point : generator.point = .yielded value) :
    closing = [] ∨ closing = [.error] ∨ closing = [generator.doneMessage] ∧ generator.Checked setup := by
  rw [Progress, point] at progress
  cases value with
  | done => exact .inr (.inr progress)
  | error => exact .inr (.inl progress)
  | _ => exact .inl progress.1

theorem resume_move {closing : List StreamMessage} (progress : generator.Progress setup closing)
    {value : YieldPoint} (point : generator.point = .yielded value) :
    Move setup generator closing .resumed (generator.resume setup value) := by
  have closed := closed_of_yielded progress point
  rw [Progress, point] at progress
  cases value with
  | verification =>
    obtain ⟨unclosed, free, verified⟩ := progress
    exact .outcome unclosed rfl (complete_outcome free fun _ => verified)
  | done => exact clean_move closed
  | error => exact clean_move closed
  | _ =>
    obtain ⟨unclosed, free, unverified⟩ := progress
    exact .outcome unclosed rfl ⟨rfl, rfl, rfl, rfl, free, unverified⟩

theorem returned_move {closing : List StreamMessage} (progress : generator.Progress setup closing)
    {call : AwaitPoint} (point : generator.point = .awaiting call)
    (stepped : generator.returned setup call = some next) : Move setup generator closing .returned next := by
  rw [Progress, point] at progress
  cases call with
  | closePump =>
    obtain ⟨unclosed, free, unverified⟩ := progress
    have ready : { generator with primaryContent := some generator.accumulated }.terminal = none := free
    have plain : { generator with primaryContent := some generator.accumulated }.verification = none :=
      unverified
    cases stepped
    exact .outcome unclosed rfl ((settlePrimaryUsage_outcome ready plain).of_same rfl rfl)
  | settle =>
    obtain ⟨unclosed, free, unverified⟩ := progress
    cases stepped
    exact .outcome unclosed rfl (verify_outcome free unverified)
  | verifier =>
    obtain ⟨unclosed, free, unverified⟩ := progress
    cases stepped
    exact .outcome unclosed rfl ⟨rfl, rfl, rfl, rfl, free, unverified⟩
  | _ => cases stepped

/-- Nothing is told before an await is over. -/
theorem unclosed_of_awaiting {closing : List StreamMessage} (progress : generator.Progress setup closing)
    {call : AwaitPoint} (point : generator.point = .awaiting call) : closing = [] := by
  rw [Progress, point] at progress
  cases call <;> exact progress.1

theorem raised_move {closing : List StreamMessage} (progress : generator.Progress setup closing)
    {call : AwaitPoint} {exception : StreamException} (point : generator.point = .awaiting call)
    (stepped : generator.raised setup call exception = some next) :
    Move setup generator closing (.raised exception) next := by
  have unclosed := unclosed_of_awaiting progress point
  unfold raised at stepped
  split at stepped
  · cases stepped
  · cases stepped
    exact .outcome unclosed rfl (interruptApply_outcome _)
  · rename_i terminal
    have failed : ∀ error : PersistenceError, ¬(terminal = .completed ∧
        (.error error : Except PersistenceError Bool) = .ok true) := by
      rintro error ⟨_, finished⟩
      cases finished
    cases stepped
    exact .outcome unclosed rfl ((applied_outcome (failed _)).of_same rfl rfl)
  · cases stepped
  · cases stepped
    exact .outcome unclosed rfl (handle_outcome _)

/-- The terminal write: only a completed one that succeeded hands the answer over. -/
theorem persisted_move {closing : List StreamMessage} {terminal : StreamTerminal} {storage : Storage}
    {now : Instant} (unclosed : closing = []) (checked : terminal = .completed → generator.Checked setup) :
    Move setup generator closing (.persisted storage now)
      ((generator.persist setup storage now terminal).1.applied setup terminal
        (generator.persist setup storage now terminal).2) := by
  by_cases finished : terminal = .completed ∧ (generator.persist setup storage now terminal).2 = .ok true
  · obtain ⟨rfl, succeeded⟩ := finished
    have applied : (generator.persist setup storage now .completed).1.applied setup .completed
        (generator.persist setup storage now .completed).2 =
        { (generator.persist setup storage now .completed).1 with point := .yielded .done } := by
      rw [succeeded]
      rfl
    rw [applied]
    exact .stored unclosed rfl (checked rfl) (Prod.ext rfl succeeded) rfl rfl rfl
  · exact .outcome unclosed rfl ((applied_outcome finished).of_same rfl rfl)

/-- What happens meanwhile. -/
theorem meanwhile_move {closing : List StreamMessage} {signal : GeneratorSignal}
    (progress : generator.Progress setup closing) (meanwhile : signal.advances = false)
    (point : next.point = generator.point) (terminal : next.terminal = generator.terminal)
    (accumulated : next.accumulated = generator.accumulated)
    (verification : next.verification = generator.verification) : Move setup generator closing signal next := by
  refine .silent accumulated verification ?_ (by unfold sends; rw [meanwhile])
  unfold Progress Checked doneMessage at *
  rw [point, terminal, accumulated, verification]
  exact progress

theorem step_move {closing : List StreamMessage} {signal : GeneratorSignal}
    (progress : generator.Progress setup closing) (stepped : generator.step setup signal = some next) :
    Move setup generator closing signal next := by
  cases signal with
  | resumed =>
    simp only [step] at stepped
    split at stepped
    next value point =>
      cases stepped
      exact resume_move progress point
    next => cases stepped
  | closed =>
    simp only [step] at stepped
    split at stepped
    next value point =>
      cases stepped
      exact clean_move (closed_of_yielded progress point)
    next => cases stepped
  | event event =>
    simp only [step] at stepped
    split at stepped
    next point =>
      cases stepped
      rw [Progress, point] at progress
      obtain ⟨unclosed, free, unverified⟩ := progress
      exact receive_move unclosed free unverified event
    next => cases stepped
  | returned =>
    simp only [step] at stepped
    split at stepped
    next call point => exact returned_move progress point stepped
    next tasks exception point =>
      cases stepped
      rw [Progress, point] at progress
      exact finish_move tasks progress
    next => cases stepped
  | raised exception =>
    simp only [step] at stepped
    split at stepped
    next call point => exact raised_move progress point stepped
    next point =>
      cases stepped
      rw [Progress, point] at progress
      exact finish_move [] progress
    next => cases stepped
  | verified result verifier =>
    simp only [step] at stepped
    split at stepped
    next point =>
      cases stepped
      rw [Progress, point] at progress
      obtain ⟨unclosed, free, unverified⟩ := progress
      exact verified_move unclosed rfl free unverified result verifier
    next => cases stepped
  | polled disconnected =>
    simp only [step] at stepped
    split at stepped
    next point =>
      cases stepped
      rw [Progress, point] at progress
      obtain ⟨unclosed, free, unverified⟩ := progress
      exact .outcome unclosed rfl (polled_outcome free unverified disconnected)
    next => cases stepped
  | persisted storage now =>
    simp only [step] at stepped
    split at stepped
    next terminal point =>
      cases stepped
      rw [Progress, point] at progress
      exact persisted_move progress.1 progress.2
    next => cases stepped
  | persistedCancelled storage now =>
    simp only [step] at stepped
    split at stepped
    next terminal point =>
      cases stepped
      rw [Progress, point] at progress
      exact .outcome progress.1 rfl ((interruptApply_outcome terminal).of_same rfl rfl)
    next => cases stepped
  | reported usage =>
    simp only [step] at stepped
    split at stepped
    next =>
      cases stepped
      exact meanwhile_move progress rfl rfl rfl rfl rfl
    next => cases stepped
  | leaseLost =>
    simp only [step] at stepped
    split at stepped
    next =>
      cases stepped
      exact meanwhile_move progress rfl rfl rfl rfl rfl
    next => cases stepped
  | others database =>
    simp only [step] at stepped
    split at stepped
    next =>
      cases stepped
      exact meanwhile_move progress rfl rfl rfl rfl rfl
    next => cases stepped

end EventGenerator

/-! ## The messages of a run -/

/-- The messages are the tokens of the answer, the verification if there was one, and what closes the
stream; the answer is the tokens put together, or what the verification made of them. -/
structure Broadcast.Tells (setup : StreamSetup) (opening : StreamMessage) (broadcast : Broadcast)
    (tokens : List String) (closing : List StreamMessage) : Prop where
  messages : broadcast.messages = opening :: (tokens.map StreamMessage.token ++
    (broadcast.generator.verification.map fun result =>
      StreamMessage.verification result.status result.verified result.reason).toList ++ closing)
  answer : broadcast.generator.accumulated =
    (broadcast.generator.verification.map VerificationResult.answer).getD (String.join tokens)
  progress : broadcast.generator.Progress setup closing

namespace Broadcast

open EventGenerator

variable {setup : StreamSetup} {opening : StreamMessage} {broadcast next : Broadcast} {tokens : List String}

/-- A step that keeps the answer, and sends what closes the stream. -/
theorem Tells.outcome {generator : EventGenerator} {signal : GeneratorSignal}
    (tells : broadcast.Tells setup opening tokens [])
    (outcome : Outcome setup broadcast.generator generator) (advancing : signal.advances = true) :
    (⟨generator, broadcast.sent ++ generator.sends signal⟩ : Broadcast).Tells setup opening tokens
      generator.closing where
  messages := by
    have told := tells.messages
    simp only [Broadcast.messages, List.filterMap_append, sends_of_silent advancing outcome.silent,
      outcome.verification] at told ⊢
    rw [told]
    simp
  answer := by
    show generator.accumulated = _
    rw [outcome.accumulated, tells.answer, outcome.verification]
  progress := outcome.progress

theorem Tells.token {content : String} (tells : broadcast.Tells setup opening tokens [])
    (free : broadcast.generator.terminal = none) (unverified : broadcast.generator.verification = none) :
    (⟨{ broadcast.generator with
        accumulated := broadcast.generator.accumulated ++ content, point := .yielded .token },
      broadcast.sent ++ [.told (.token content)]⟩ : Broadcast).Tells setup opening (tokens ++ [content]) [] where
  messages := by
    have told := tells.messages
    simp only [Broadcast.messages, List.filterMap_append, unverified] at told ⊢
    rw [told]
    simp [StreamFrame.message?]
  answer := by
    have answer := tells.answer
    simp only [unverified] at answer ⊢
    rw [answer]
    simp [String.join, List.foldl_append]
  progress := ⟨rfl, free, unverified⟩

theorem Tells.verified {generator : EventGenerator} {result : VerificationResult}
    (tells : broadcast.Tells setup opening tokens []) (unverified : broadcast.generator.verification = none)
    (point : generator.point = .yielded .verification) (free : generator.terminal = none)
    (verified : generator.verification = some result) (answer : generator.accumulated = result.answer) :
    (⟨generator, broadcast.sent ++ [.told (.verification result.status result.verified result.reason)]⟩ :
      Broadcast).Tells setup opening tokens [] where
  messages := by
    have told := tells.messages
    simp only [Broadcast.messages, List.filterMap_append, unverified, verified] at told ⊢
    rw [told]
    simp [StreamFrame.message?]
  answer := by
    show generator.accumulated = _
    simp only [verified, answer]
    rfl
  progress := by
    rw [Progress, point]
    exact ⟨rfl, free, Option.isSome_of_eq_some verified⟩

theorem Tells.stored {generator : EventGenerator} (tells : broadcast.Tells setup opening tokens [])
    (checked : broadcast.generator.Checked setup)
    (accumulated : generator.accumulated = broadcast.generator.accumulated)
    (verification : generator.verification = broadcast.generator.verification)
    (point : generator.point = .yielded .done) :
    (⟨generator, broadcast.sent ++ [.told generator.doneMessage]⟩ : Broadcast).Tells setup opening tokens
      [generator.doneMessage] where
  messages := by
    have told := tells.messages
    simp only [Broadcast.messages, List.filterMap_append, verification] at told ⊢
    rw [told]
    simp [StreamFrame.message?]
  answer := by
    show generator.accumulated = _
    rw [accumulated, tells.answer, verification]
  progress := by
    rw [Progress, point]
    refine ⟨rfl, ?_⟩
    unfold Checked
    rw [verification]
    exact checked

theorem Tells.silent {generator : EventGenerator} {closing : List StreamMessage}
    (tells : broadcast.Tells setup opening tokens closing)
    (accumulated : generator.accumulated = broadcast.generator.accumulated)
    (verification : generator.verification = broadcast.generator.verification)
    (progress : generator.Progress setup closing) :
    (⟨generator, broadcast.sent ++ []⟩ : Broadcast).Tells setup opening tokens closing where
  messages := by
    have told := tells.messages
    simp only [Broadcast.messages, List.append_nil, verification] at told ⊢
    exact told
  answer := by
    show generator.accumulated = _
    rw [accumulated, tells.answer, verification]
  progress := progress

theorem Tells.step {signal : GeneratorSignal} {closing : List StreamMessage}
    (tells : broadcast.Tells setup opening tokens closing) (stepped : broadcast.step setup signal = some next) :
    ∃ tokens closing, next.Tells setup opening tokens closing := by
  obtain ⟨generator, moved, rfl⟩ := Option.map_eq_some_iff.mp stepped
  cases step_move tells.progress moved with
  | outcome unclosed advancing outcome =>
    cases unclosed
    exact ⟨_, _, tells.outcome outcome advancing⟩
  | token unclosed event free unverified =>
    cases unclosed
    cases event
    exact ⟨_, _, tells.token free unverified⟩
  | @verification _ result unclosed advancing unverified point free verified answer =>
    cases unclosed
    have sent : generator.sends signal = [.told (.verification result.status result.verified result.reason)] := by
      rw [sends, advancing, point]
      show generator.yields signal .verification = _
      rw [yields, verified]
      rfl
    rw [sent]
    exact ⟨_, _, tells.verified unverified point free verified answer⟩
  | stored unclosed persisted checked written accumulated verification point =>
    cases unclosed
    cases persisted
    have sent : ∀ storage now, generator.sends (.persisted storage now) = [.told generator.doneMessage] := by
      intro storage now
      rw [sends, point]
      rfl
    rw [sent]
    exact ⟨_, _, tells.stored checked accumulated verification point⟩
  | silent accumulated verification progress sent =>
    rw [sent]
    exact ⟨_, _, tells.silent accumulated verification progress⟩

theorem initial_tells {storage : Storage} {before : Database} {start : Broadcast}
    (started : Broadcast.initial setup storage before opening = some start) : start.Tells setup opening [] [] := by
  obtain ⟨generator, begun, rfl⟩ := Option.map_eq_some_iff.mp started
  unfold EventGenerator.initial at begun
  split at begun
  · cases begun
    exact ⟨rfl, rfl, rfl, rfl, rfl⟩
  · cases begun

theorem run_tells {storage : Storage} {before : Database} {start final : Broadcast} {signals : List GeneratorSignal}
    (started : Broadcast.initial setup storage before opening = some start)
    (ran : run (Broadcast.step setup) start signals = some final) :
    ∃ tokens closing, final.Tells setup opening tokens closing :=
  Transition.run_invariant (fun broadcast => ∃ tokens closing, broadcast.Tells setup opening tokens closing)
    (fun _ _ _ ⟨_, _, tells⟩ stepped => tells.step stepped) ⟨_, _, initial_tells started⟩ ran

end Broadcast

/-! ## Every run -/

/-- What a completed `finalize` has stored. -/
theorem finalize_stores {storage : Storage} {database after : Database} {request : FinalizeRequest}
    {now : Instant} (completing : request.terminalStatus = "completed")
    (finalized : finalize storage database request now = (after, .ok true)) :
    ∃ execution ∈ after.executions, execution.executionId = request.executionId ∧
      execution.status = .terminal .completed ∧ ∃ message ∈ after.messages,
        execution.assistantMessageId = some message.id ∧ message.status = .terminal .completed ∧
          message.content = request.content := by
  have ended := finalize_ending storage database request now
  rw [finalized] at ended
  generalize result : (after, (.ok true : Except PersistenceError Bool)) = ending at ended
  cases ended with
  | unchanged unfinished =>
    cases result
    exact absurd rfl unfinished
  | @finalized terminal execution assistant record usage parsed located =>
    obtain ⟨rfl, _⟩ := Prod.mk.inj result
    have completed : terminal = .completed := by
      rw [completing] at parsed
      cases parsed
      rfl
    subst completed
    refine ⟨execution.finalized .completed request now, ?_, located.executionId, rfl,
      { assistant with status := .terminal .completed, content := request.content }, ?_, located.assistantId, rfl,
      rfl⟩
    · cases record <;> exact Rows.mem_replace_self located.executionMem rfl
    · cases record <;> exact Rows.mem_replace_self located.assistantMem rfl

section Runs

open EventGenerator

variable {setup : StreamSetup} {storage : Storage} {before : Database} {opening : StreamMessage}
  {start final : Broadcast} {signals : List GeneratorSignal}

theorem EventGenerator.Progress.closings {generator : EventGenerator} {closing : List StreamMessage}
    (progress : generator.Progress setup closing) :
    closing = [] ∨ closing = [.error] ∨ closing = [generator.doneMessage] ∧ generator.Checked setup := by
  cases point : generator.point with
  | yielded value => exact closed_of_yielded progress point
  | awaiting call => exact .inl (unclosed_of_awaiting progress point)
  | cleaning tasks exception =>
    rw [Progress, point] at progress
    exact progress
  | ended exception =>
    rw [Progress, point] at progress
    exact progress

/-- Whatever the provider and the verifier say, however the run goes on, and wherever beyond ASCII a
client ends its lines, what it reads of a stream are the messages told, all of them and in their order.
These are the first one, the tokens, the verification if there was one, and at most one message that
closes the stream: an error or the whole answer.  The answer is the tokens put together or what the
verification made of them, and one that was to be verified is not handed over without a verification. -/
theorem stream_read_back {breaks : Char → Bool} (newline : breaks '\n' = true)
    (printable : ∀ character, Printable character → breaks character = false) (float : String → JsonValue)
    (started : Broadcast.initial setup storage before opening = some start)
    (ran : run (Broadcast.step setup) start signals = some final) :
    (streamChat breaks final.sent).filterMap (fun line => (data? line).map fun payload =>
        loads float (String.ofList payload)) =
      final.messages.map (fun message => some message.payload) ∧
    ∃ (tokens : List String) (closing : List StreamMessage),
      let verification := final.generator.verification
      final.messages = opening :: (tokens.map StreamMessage.token ++
        (verification.map fun result =>
          StreamMessage.verification result.status result.verified result.reason).toList ++ closing) ∧
      final.generator.accumulated = (verification.map VerificationResult.answer).getD (String.join tokens) ∧
      (closing = [] ∨ closing = [.error] ∨
        closing = [.done final.generator.accumulated (verification.any (·.verified))
          (verification.map (·.status)) (verification.map (·.reason))] ∧
          (setup.payload.verify = true → verification.isSome = true)) := by
  obtain ⟨tokens, closing, tells⟩ := Broadcast.run_tells started ran
  exact ⟨payloads_streamChat newline printable float final.sent, tokens, closing, tells.messages, tells.answer,
    tells.progress.closings⟩

theorem printable_not_newline (character : Char) (printable : Printable character) :
    decide (character = '\n') = false := by
  refine decide_eq_false fun same => ?_
  subst same
  exact absurd printable (by decide)

def helloStart : StreamMessage := .start 1 1 2

theorem stream_read_back_hello :
    ∃ start final,
      Broadcast.initial leasedStream .available streamingExchange helloStart = some start ∧
      run (Broadcast.step leasedStream) start completedSignals = some final ∧
      (streamChat (· = '\n') final.sent).filterMap (fun line => (data? line).map fun payload =>
          loads (fun _ => .null) (String.ofList payload)) =
        [helloStart, .token "hi", .done "hi" false none none].map (fun message => some message.payload) :=
  ⟨_, _, rfl, rfl, (@stream_read_back leasedStream .available streamingExchange helloStart _ _ completedSignals
    (· = '\n') rfl printable_not_newline _ rfl rfl).1⟩

/-- A client is told that an answer is done at the step that stored this answer as the completed one. -/
theorem done_told_stored (started : Broadcast.initial setup storage before opening = some start)
    (ran : run (Broadcast.step setup) start signals = some final) {signal : GeneratorSignal}
    {next : EventGenerator} (stepped : final.generator.step setup signal = some next) {content : String}
    {verified : Bool} {status reason : Option String}
    (told : .told (.done content verified status reason) ∈ next.sends signal) :
    ∃ execution ∈ next.database.executions, execution.executionId = setup.executionId ∧
      execution.status = .terminal .completed ∧ ∃ message ∈ next.database.messages,
        execution.assistantMessageId = some message.id ∧ message.status = .terminal .completed ∧
          message.content = content := by
  obtain ⟨tokens, closing, tells⟩ := Broadcast.run_tells started ran
  have message : .done content verified status reason ∈ (next.sends signal).filterMap StreamFrame.message? :=
    List.mem_filterMap.mpr ⟨_, told, rfl⟩
  cases step_move tells.progress stepped with
  | outcome unclosed advancing outcome =>
    rw [sends_of_silent advancing outcome.silent] at message
    unfold EventGenerator.closing at message
    split at message <;> simp at message
  | token unclosed event free unverified =>
    cases event
    simp [sends, GeneratorSignal.advances, yields] at told
  | verification unclosed advancing unverified point free given answer =>
    simp [sends, advancing, point, yields, given] at told
  | stored unclosed persisted checked written accumulated verification point =>
    cases persisted
    simp only [sends, GeneratorSignal.advances, point, yields, doneMessage, List.mem_singleton,
      StreamFrame.told.injEq, StreamMessage.done.injEq] at told
    rw [told.1, accumulated]
    exact finalize_stores rfl written
  | silent accumulated verification progress sent =>
    rw [sent] at told
    cases told

theorem done_told_stored_hello :
    ∃ start final next,
      Broadcast.initial leasedStream .available streamingExchange helloStart = some start ∧
      run (Broadcast.step leasedStream) start (completedSignals.take 5) = some final ∧
      final.generator.step leasedStream (.persisted .available 1) = some next ∧
      ∃ execution ∈ next.database.executions, execution.executionId = leasedStream.executionId ∧
        execution.status = .terminal .completed ∧ ∃ message ∈ next.database.messages,
          execution.assistantMessageId = some message.id ∧ message.status = .terminal .completed ∧
            message.content = "hi" :=
  ⟨_, _, _, rfl, rfl, rfl, @done_told_stored leasedStream .available streamingExchange helloStart _ _
    (completedSignals.take 5) rfl rfl (.persisted .available 1) _ rfl "hi" false none none
    (List.mem_singleton.mpr rfl)⟩

end Runs

end Eiraos
