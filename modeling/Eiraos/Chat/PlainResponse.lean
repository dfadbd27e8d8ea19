import Eiraos.Chat.EventGenerator
import Eiraos.Providers.FailureIsolation

/-! # The plain response (`create_chat_completion` of `api/v1/chat.py`, `stream=False`)

The `try` block of the endpoint from the provider's call to its handlers.  `execute` returns what
its `validate` returned, and the endpoint passes `require_text(result.text)`.
-/

namespace Eiraos

open PythonJson

/-! ## What `execute` returns -/

/-- `completion` in the endpoint. -/
inductive PrimaryValue where
  | completion (completion : ProviderCompletion)
  | text (text : String)
  deriving DecidableEq, Repr

/-- The primary call: `validate=lambda result: require_text(result.text)` returns the text. -/
def primaryCall (outcome : Except Escape String) : Except Escape PrimaryValue := outcome.map .text

inductive PlainException where
  | isolated (kind : ProviderFailureKind)
  | cancelled
  | http (statusCode : Nat) (detail : String)
  | persistenceUnavailable
  | other
  deriving DecidableEq, Repr

/-- How the endpoint ends; `raised` is an exception that no handler catches. -/
inductive PlainAnswer where
  | payload (payload : JsonValue)
  | http (statusCode : Nat) (detail : String)
  | cancelled
  | raised

/-! ## The failure -/

def ProviderFailureKind.failureCode : ProviderFailureKind → FailureCode
  | .timeout => .providerTimeout
  | _ => .providerFailure

def ProviderFailureKind.responseStatus : ProviderFailureKind → Nat
  | .timeout => 504
  | _ => 502

def ProviderFailureKind.detail : ProviderFailureKind → String
  | .timeout => "AI provider timed out."
  | _ => "AI provider could not fulfil the request."

section

variable (setup : StreamSetup) (storage : Storage) (now : Instant)

/-- `account_primary`. -/
def accountPlain (output : String) : Option ExecutionCost :=
  (account setup.runtime.lowercase setup.payload.provider setup.payload.model .primary
    setup.context.messages output setup.context.systemPrompt).toOption

/-- The entries of `finalize_failure`; `none` when the accountant raises. -/
def failureEntries (entries : List ExecutionCost) : Option (List ExecutionCost) :=
  if entries.any fun entry => entry.operation = .primary then some entries
  else (accountPlain setup "").map fun entry => entries ++ [entry]

def failureRequest (code : FailureCode) (accounting : List ExecutionCost) : FinalizeRequest where
  executionId := setup.executionId
  terminalStatus := if code = .clientCancelled then "cancelled" else "failed"
  content := ""
  responseStatus := (failurePolicy code).responseStatus
  responseReference := "failed"
  leaseToken := setup.leaseToken
  failureCode := some code
  accounting

/-- `finalize_failure(code)`; `none` when the accountant raises. -/
def finalizeFailure (code : FailureCode) (database : Database) (entries : List ExecutionCost) :
    Database × Option (Except PersistenceError Bool) :=
  match failureEntries setup entries with
  | none => (database, none)
  | some accounting =>
    let ended := finalize storage database (failureRequest setup code accounting) now
    (ended.1, some ended.2)

def persistenceGone : PlainAnswer := .http 503 "Execution persistence is unavailable."

/-- A conflict is ignored, and what an unavailable persistence leads to is up to the handler. -/
def answerAfter (answer unavailable : PlainAnswer) : Option (Except PersistenceError Bool) → PlainAnswer
  | some (.ok _) | some (.error (.conflict _)) | some (.error (.retryLimitExceeded _)) => answer
  | some (.error (.unavailable _)) => unavailable
  | some (.error (.valueError _)) | none => .raised

/-- The `except` clauses. -/
def handlePlain (database : Database) (entries : List ExecutionCost) : PlainException → Database × PlainAnswer
  | .isolated kind =>
    let ended := finalizeFailure setup storage now kind.failureCode database entries
    (ended.1, answerAfter (.http kind.responseStatus kind.detail) persistenceGone ended.2)
  | .cancelled =>
    let ended := finalizeFailure setup storage now .clientCancelled database entries
    (ended.1, answerAfter .cancelled .cancelled ended.2)
  | .http statusCode detail =>
    let ended := finalizeFailure setup storage now .idempotencyLost database entries
    (ended.1, answerAfter (.http statusCode detail) (.http statusCode detail) ended.2)
  | .persistenceUnavailable => (database, persistenceGone)
  | .other =>
    let ended := finalizeFailure setup storage now .providerFailure database entries
    (ended.1, answerAfter (.http 502 "AI provider could not fulfil the request.") persistenceGone ended.2)

/-! ## The branch -/

/-- The `try` block once a completion has given its text. -/
abbrev PlainRest :=
  ProviderCompletion → Database → Database × List ExecutionCost × Except PlainException JsonValue

/-- The `try` block: `completion.text` is an `AttributeError` on a string. -/
def plainBody (rest : PlainRest) (database : Database) :
    Except Escape PrimaryValue → Database × List ExecutionCost × Except PlainException JsonValue
  | .error (.cancelled _) => (database, [], .error .cancelled)
  | .error (.isolated kind) => (database, [], .error (.isolated kind))
  | .ok (.text _) => (database, [], .error .other)
  | .ok (.completion completion) => rest completion database

def plainResponse (rest : PlainRest) (database : Database) (outcome : Except Escape String) :
    Database × PlainAnswer :=
  match plainBody rest database (primaryCall outcome) with
  | (after, _, .ok payload) => (after, .payload payload)
  | (after, entries, .error exception) => handlePlain setup storage now after entries exception

end

/-! ## No plain response is an answer -/

section

variable {setup : StreamSetup} {storage : Storage} {now : Instant}

/-- A failure is never written as completed. -/
theorem failureRequest_not_completed {code : FailureCode} {accounting : List ExecutionCost}
    {terminal : TerminalStatus}
    (parsed : TerminalStatus.parse? (failureRequest setup code accounting).terminalStatus = some terminal) :
    terminal ≠ .completed := by
  rintro rfl
  by_cases cancelled : code = .clientCancelled <;>
    simp [failureRequest, cancelled, TerminalStatus.parse?] at parsed

theorem finalizeFailure_completes_nothing {code : FailureCode} {database : Database}
    {entries : List ExecutionCost} {execution : ChatExecution}
    (mem : execution ∈ (finalizeFailure setup storage now code database entries).1.executions)
    (completed : execution.status = .terminal .completed) : execution ∈ database.executions := by
  unfold finalizeFailure at mem
  cases accounted : failureEntries setup entries with
  | none => simpa [accounted] using mem
  | some accounting =>
    simp only [accounted] at mem
    have ended := finalize_ending storage database (failureRequest setup code accounting) now
    generalize finalize storage database (failureRequest setup code accounting) now = ending at ended mem
    cases ended with
    | unchanged => exact mem
    | @finalized terminal located assistant record usage parsed =>
      have replaced : execution ∈ (database.updateExecution
          (located.finalized terminal (failureRequest setup code accounting) now)).executions := by
        cases record <;> exact mem
      obtain ⟨rfl, _⟩ | ⟨kept, _⟩ := Rows.mem_replace.mp replaced
      · cases completed
        exact absurd rfl (failureRequest_not_completed parsed)
      · exact kept

/-- At most the primary call is charged, as if it had answered nothing. -/
theorem finalizeFailure_usage {code : FailureCode} {database : Database} :
    (finalizeFailure setup storage now code database []).1.usage = database.usage ∨
      ∃ execution entry, accountPlain setup "" = some entry ∧
        (finalizeFailure setup storage now code database []).1.usage =
          database.usage ++ [ChatExecution.usageRow execution entry] := by
  unfold finalizeFailure
  cases accounted : accountPlain setup "" with
  | none => simp [failureEntries, accounted]
  | some entry =>
    simp only [failureEntries, accounted, List.any_nil, Bool.false_eq_true, if_false, Option.map_some,
      List.nil_append]
    have usage := finalize_usage storage database (failureRequest setup code [entry]) now
    cases finished : succeeded (finalize storage database (failureRequest setup code [entry]) now).2 with
    | false => exact .inl (usage.2 finished)
    | true =>
      obtain ⟨execution, _, _, recorded⟩ := usage.1 finished
      exact .inr ⟨execution, entry, rfl, recorded⟩

/-- A plain response is handled as a failure of one kind or another. -/
theorem plainResponse_handled (rest : PlainRest) (database : Database) (outcome : Except Escape String) :
    ∃ exception, plainResponse setup storage now rest database outcome =
      handlePlain setup storage now database [] exception ∧
        (∀ text, outcome = .ok text → exception = .other) := by
  cases outcome with
  | ok text => exact ⟨.other, rfl, fun _ _ => rfl⟩
  | error escape =>
    cases escape with
    | cancelled => exact ⟨.cancelled, rfl, fun _ same => by cases same⟩
    | isolated kind => exact ⟨.isolated kind, rfl, fun _ same => by cases same⟩

theorem answerAfter_not_payload {answer unavailable : PlainAnswer} {payload : JsonValue}
    (told : answer ≠ .payload payload) (gone : unavailable ≠ .payload payload)
    (result : Option (Except PersistenceError Bool)) : answerAfter answer unavailable result ≠ .payload payload := by
  unfold answerAfter
  split
  · exact told
  · exact told
  · exact told
  · exact gone
  · exact PlainAnswer.noConfusion
  · exact PlainAnswer.noConfusion

theorem handlePlain_not_payload (database : Database) (entries : List ExecutionCost)
    (exception : PlainException) (payload : JsonValue) :
    (handlePlain setup storage now database entries exception).2 ≠ .payload payload := by
  cases exception with
  | persistenceUnavailable => exact PlainAnswer.noConfusion
  | _ => exact answerAfter_not_payload PlainAnswer.noConfusion PlainAnswer.noConfusion _

/-- A handler writes nothing, or one failure. -/
theorem handlePlain_writes (database : Database) (entries : List ExecutionCost) (exception : PlainException) :
    (handlePlain setup storage now database entries exception).1 = database ∨
      ∃ code, (handlePlain setup storage now database entries exception).1 =
        (finalizeFailure setup storage now code database entries).1 := by
  cases exception with
  | persistenceUnavailable => exact .inl rfl
  | _ => exact .inr ⟨_, rfl⟩

end

/-- Whatever the provider answers and whatever the endpoint would do with a completion: no plain
response is a payload and none completes an execution.  A provider that answered is told as one that
failed, and of what it reported nothing is recorded. -/
theorem plain_answer_lost (setup : StreamSetup) (storage : Storage) (now : Instant) (rest : PlainRest)
    (database : Database) (outcome : Except Escape String) :
    let ended := plainResponse setup storage now rest database outcome
    (∀ payload, ended.2 ≠ .payload payload) ∧
      (∀ execution ∈ ended.1.executions, execution.status = .terminal .completed →
        execution ∈ database.executions) ∧
      (∀ text, outcome = .ok text →
        ended = plainResponse setup storage now rest database (.error (.isolated .internal))) ∧
      (ended.1.usage = database.usage ∨ ∃ execution entry, accountPlain setup "" = some entry ∧
        ended.1.usage = database.usage ++ [ChatExecution.usageRow execution entry]) := by
  obtain ⟨exception, handled, answered⟩ :=
    @plainResponse_handled setup storage now rest database outcome
  dsimp only
  rw [handled]
  refine ⟨handlePlain_not_payload database [] exception, ?_, ?_, ?_⟩
  · intro execution mem completed
    obtain same | ⟨code, written⟩ := @handlePlain_writes setup storage now database [] exception
    · rwa [same] at mem
    · rw [written] at mem
      exact finalizeFailure_completes_nothing mem completed
  · intro text same
    rw [answered text same]
    rfl
  · obtain same | ⟨code, written⟩ := @handlePlain_writes setup storage now database [] exception
    · exact .inl (by rw [same])
    · rw [written]
      exact finalizeFailure_usage

end Eiraos
