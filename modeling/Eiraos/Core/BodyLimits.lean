import Eiraos.Foundations.MessageStream
import Eiraos.Foundations.PythonText

/-! # Request bodies (`core/middleware.py`)

`RequestBodyLoggingMiddleware` reads a body within its limit and hands it over again: at once, or from
a spool in pieces.
-/

namespace Eiraos.BodyLimits

open MessageStream PythonText

abbrev Bytes := List UInt8

/-! ## Requests -/

/-- The settings that are read here. -/
structure Settings where
  apiV1Str : String
  maxRequestBodyBytes : Nat
  maxUploadRequestBodyBytes : Nat

/-- A request before its body; a header is Latin-1 text. -/
structure Request where
  method : String
  path : String
  contentLength : Option Bytes

/-- The content of `_problem`. -/
structure Problem where
  type : String
  title : String
  status : Nat
  detail : String
  instance' : String
  deriving DecidableEq, Repr

/-- The receiver that replaces the one of the client. -/
inductive Replay where
  /-- `receive`, with the body as long as it is not sent. -/
  | buffered (pending : Option Bytes)
  /-- `receive_upload`, with what is left of the spool. -/
  | spooled (rest : Bytes)
  deriving DecidableEq, Repr

/-- What the handler is called with. -/
structure Invocation where
  cachedBody : Option Bytes
  replay : Replay
  deriving DecidableEq, Repr

inductive Dispatched where
  | problem (problem : Problem)
  | invoked (invocation : Invocation)
  /-- `ClientDisconnect`. -/
  | disconnected
  deriving DecidableEq, Repr

def Settings.isDocumentUpload (settings : Settings) (request : Request) : Bool :=
  request.method = "POST" && request.path = settings.apiV1Str ++ "/documents/upload"

def Settings.bodyLimit (settings : Settings) (request : Request) : Nat :=
  if settings.isDocumentUpload request then settings.maxUploadRequestBodyBytes
  else settings.maxRequestBodyBytes

/-- `_problem`. -/
def problem (request : Request) (statusCode : Nat) (detail : String) : Dispatched :=
  .problem {
    type := "about:blank"
    title := if statusCode = 400 then "Bad Request" else "Payload Too Large"
    status := statusCode
    detail
    instance' := request.path }

/-! ## Reading -/

/-- The pieces of the spool. -/
def readSize : Nat := 1024 * 1024

/-- One call of the receiver. -/
def Replay.receive : Replay → Option (Message UInt8 × Replay)
  | .buffered pending => (once pending).map fun received => (received.1, .buffered received.2)
  | .spooled rest => (pieces readSize rest).map fun received => (received.1, .spooled received.2)

/-- The loop over the stream of an upload; `none` when the limit is passed. -/
def spoolChunks (bodyLimit : Nat) : Nat → Bytes → List Bytes → Option Bytes
  | _, spool, [] => some spool
  | total, spool, chunk :: chunks =>
    if bodyLimit < total + chunk.length then none
    else spoolChunks bodyLimit (total + chunk.length) (spool ++ chunk) chunks

/-- `dispatch` up to the size that is declared. -/
def checkDeclared (settings : Settings) (request : Request) : Except Dispatched Unit :=
  match request.contentLength with
  | none => .ok ()
  | some declared =>
    match intOfLatin1 declared with
    -- `int` raises a `ValueError`
    | none => .error (problem request 400 "Invalid Content-Length")
    | some declaredSize =>
      if declaredSize < 0 then .error (problem request 400 "Invalid Content-Length")
      else if settings.bodyLimit request < declaredSize then
        .error (problem request 413 "Request body too large")
      else .ok ()

/-- `dispatch` for the messages that the client sends. -/
def dispatch (settings : Settings) (request : Request) (messages : List (Message UInt8)) : Dispatched :=
  match checkDeclared settings request with
  | .error refused => refused
  | .ok () =>
    let (chunks, ended) := stream messages
    if settings.isDocumentUpload request then
      -- a body that is too large is refused even if its sender is gone by then
      match spoolChunks (settings.bodyLimit request) 0 [] chunks with
      | none => problem request 413 "Request body too large"
      | some spool => if ended then .invoked ⟨none, .spooled spool⟩ else .disconnected
    else
      match gather (settings.bodyLimit request) [] chunks with
      | none => problem request 413 "Request body too large"
      | some body => if ended then .invoked ⟨some body, .buffered (some body)⟩ else .disconnected

/-- `_body_digest`. -/
def bodyDigest (sha256 : Bytes → String) (cachedBody : Option Bytes) : String :=
  match cachedBody with
  | some raw => sha256 raw
  | none => ""

/-! ## What the handler receives -/

/-- The declared size, if any, and the size of the body are within the limit. -/
structure Admitted (settings : Settings) (request : Request) (body : Bytes) : Prop where
  declared : ∀ declared, request.contentLength = some declared →
    ∃ size : Int, intOfLatin1 declared = some size ∧ 0 ≤ size ∧ size ≤ settings.bodyLimit request
  size : body.length ≤ settings.bodyLimit request

/-- The handler is invoked for an admitted body only, and receives just this body. -/
structure HandsOver (sha256 : Bytes → String) (settings : Settings) (request : Request) (body : Bytes)
    (dispatched : Dispatched) : Prop where
  invoked : (∃ invocation, dispatched = .invoked invocation) ↔ Admitted settings request body
  received : ∀ invocation, dispatched = .invoked invocation →
    ∀ received, Delivers Replay.receive invocation.replay received ↔ received = body
  cached : ∀ invocation, dispatched = .invoked invocation → settings.isDocumentUpload request = false →
    invocation.cachedBody = some body ∧ bodyDigest sha256 invocation.cachedBody = sha256 body
  refused : ¬Admitted settings request body →
    ∃ problem, dispatched = .problem problem ∧ (problem.status = 400 ∨ problem.status = 413)

/-! ### The receivers -/

theorem delivers_replayed_body (body : Bytes) : Delivers Replay.receive (.buffered (some body)) body :=
  (delivers_once body).simulate Replay.buffered fun _ => rfl

theorem delivers_spool (body : Bytes) : Delivers Replay.receive (.spooled body) body :=
  (delivers_pieces (by decide) body).simulate Replay.spooled fun _ => rfl

/-- A receiver that delivers the body delivers nothing else. -/
theorem delivers_iff {replay : Replay} {body received : Bytes} (delivers : Delivers Replay.receive replay body) :
    Delivers Replay.receive replay received ↔ received = body := by
  constructor
  · intro other
    exact other.unique delivers
  · rintro rfl
    exact delivers

/-! ### The two loops -/

/-- The counter of an upload is the length of its spool. -/
theorem spoolChunks_eq_gather {bodyLimit : Nat} (spool : Bytes) (chunks : List Bytes) :
    spoolChunks bodyLimit spool.length spool chunks = gather bodyLimit spool chunks := by
  induction chunks generalizing spool with
  | nil => rfl
  | cons chunk chunks inductionHypothesis =>
    -- both grow by the chunk
    rw [spoolChunks, gather, ← List.length_append, inductionHypothesis]

theorem gather_stream (bodyLimit : Nat) (chunks : List Bytes) (last : Bytes) :
    gather bodyLimit [] (stream (split chunks last)).1 =
      if (chunks.flatten ++ last).length ≤ bodyLimit then some (chunks.flatten ++ last) else none := by
  rw [gather_eq (Nat.zero_le bodyLimit), List.nil_append, (stream_split chunks last).2]

/-! ### The declared size -/

theorem checkDeclared_eq_ok_iff {settings : Settings} {request : Request} :
    checkDeclared settings request = .ok () ↔ ∀ declared, request.contentLength = some declared →
      ∃ size : Int, intOfLatin1 declared = some size ∧ 0 ≤ size ∧ size ≤ settings.bodyLimit request := by
  unfold checkDeclared
  cases request.contentLength with
  | none => simp
  | some declared =>
    simp only [Option.some.injEq, forall_eq']
    cases intOfLatin1 declared with
    | none => simp
    | some size =>
      simp only [Option.some.injEq, exists_eq_left']
      split
      next negative => simp [Int.not_le.mpr negative]
      next natural =>
        split
        next tooLarge => simp [Int.not_le.mpr tooLarge]
        next within => simp [Int.not_lt.mp natural, Int.not_lt.mp within]

theorem checkDeclared_error {settings : Settings} {request : Request} {refused : Dispatched}
    (failed : checkDeclared settings request = .error refused) :
    ∃ problem, refused = .problem problem ∧ (problem.status = 400 ∨ problem.status = 413) := by
  unfold checkDeclared at failed
  split at failed
  · cases failed
  · split at failed
    · cases failed
      exact ⟨_, rfl, .inl rfl⟩
    · split at failed
      · cases failed
        exact ⟨_, rfl, .inl rfl⟩
      · split at failed
        · cases failed
          exact ⟨_, rfl, .inr rfl⟩
        · cases failed

/-! ### The whole of `dispatch` -/

/-- How an accepted body is handed over. -/
def invocationOf (settings : Settings) (request : Request) (body : Bytes) : Invocation :=
  if settings.isDocumentUpload request then ⟨none, .spooled body⟩ else ⟨some body, .buffered (some body)⟩

theorem dispatch_split (settings : Settings) (request : Request) (chunks : List Bytes) (last : Bytes) :
    dispatch settings request (split chunks last) =
      match checkDeclared settings request with
      | .error refused => refused
      | .ok () =>
        if (chunks.flatten ++ last).length ≤ settings.bodyLimit request then
          .invoked (invocationOf settings request (chunks.flatten ++ last))
        else problem request 413 "Request body too large" := by
  unfold dispatch invocationOf
  cases checkDeclared settings request with
  | error refused => rfl
  | ok _ =>
    have spooled : spoolChunks (settings.bodyLimit request) 0 [] (stream (split chunks last)).1 =
        gather (settings.bodyLimit request) [] (stream (split chunks last)).1 :=
      spoolChunks_eq_gather [] _
    simp only [spooled, gather_stream, (stream_split chunks last).1]
    by_cases within : (chunks.flatten ++ last).length ≤ settings.bodyLimit request
    · simp only [if_pos within]
      split <;> rfl
    · simp only [if_neg within]
      split <;> rfl

theorem delivers_invocationOf (settings : Settings) (request : Request) (body : Bytes) :
    Delivers Replay.receive (invocationOf settings request body).replay body := by
  unfold invocationOf
  split
  · exact delivers_spool body
  · exact delivers_replayed_body body

/-- The handler receives what the client sends. -/
theorem received_as_sent {settings : Settings} {request : Request} {chunks : List Bytes} {last received : Bytes}
    {invocation : Invocation} (invoked : dispatch settings request (split chunks last) = .invoked invocation) :
    Delivers Replay.receive invocation.replay received ↔ Delivers fromList (split chunks last) received := by
  have sent : Delivers fromList (split chunks last) received ↔ received = chunks.flatten ++ last := by
    constructor
    · intro other
      exact other.unique (delivers_split chunks last)
    · rintro rfl
      exact delivers_split chunks last
  rw [sent]
  rw [dispatch_split] at invoked
  cases declared : checkDeclared settings request with
  | error refused =>
    obtain ⟨problem, rfl, _⟩ := checkDeclared_error declared
    simp [declared] at invoked
  | ok _ =>
    rw [declared] at invoked
    dsimp only at invoked
    split at invoked
    · cases invoked
      exact delivers_iff (delivers_invocationOf settings request _)
    · cases invoked

/-- Whatever the chunks of the body, it is handed over as it was admitted. -/
theorem body_handed_over (sha256 : Bytes → String) (settings : Settings) (request : Request)
    (chunks : List Bytes) (last : Bytes) :
    HandsOver sha256 settings request (chunks.flatten ++ last)
      (dispatch settings request (split chunks last)) := by
  rw [dispatch_split]
  generalize chunks.flatten ++ last = body
  cases declared : checkDeclared settings request with
  | error refused =>
    -- refused before the first message is read
    have notAdmitted : ¬Admitted settings request body := by
      intro admitted
      rw [checkDeclared_eq_ok_iff.mpr admitted.declared] at declared
      cases declared
    obtain ⟨problem, rfl, status⟩ := checkDeclared_error declared
    constructor
    case invoked => exact iff_of_false (by simp) notAdmitted
    case received => simp
    case cached => simp
    case refused => exact fun _ => ⟨problem, rfl, status⟩
  | ok _ =>
    have size := checkDeclared_eq_ok_iff.mp declared
    by_cases within : body.length ≤ settings.bodyLimit request
    · dsimp only
      rw [if_pos within]
      constructor
      case invoked => exact iff_of_true ⟨_, rfl⟩ ⟨size, within⟩
      case received =>
        rintro invocation same
        cases same
        exact fun received => delivers_iff (delivers_invocationOf settings request body)
      case cached =>
        rintro invocation same ordinary
        cases same
        simp [invocationOf, ordinary, bodyDigest]
      case refused => exact fun notAdmitted => absurd ⟨size, within⟩ notAdmitted
    · -- The declared size may have been smaller, or absent; the loop stops at the limit.
      dsimp only
      rw [if_neg within]
      constructor
      case invoked => exact iff_of_false (by simp [problem]) fun admitted => within admitted.size
      case received => simp [problem]
      case cached => simp [problem]
      case refused => exact fun _ => ⟨_, rfl, .inr rfl⟩

end Eiraos.BodyLimits
