import Eiraos.Chat.Completion
import Eiraos.Foundations.Json
import Eiraos.Providers.Naming

/-! # The usage of a completed attempt (`api/v1/chat.py`, `business_features.py`)

The way to the completing call of `finalize`, with what the verifier's text is parsed into:
which entries it hands over, and which rows of the attempt the ledger holds afterwards.  Only
a stream gets there.
-/

namespace Eiraos

open PythonJson PythonText

/-! ## Verification -/

def VERIFIED_BADGE : String :=
  "\n\n*🛡️ [Svaret er dobbelttjekket og verificeret mod hallusinationer " ++
  "af AI-kvalitetskontrol]*"

def VERIFICATION_FAILED_BADGE : String :=
  "\n\n*⚠️ [AI-kvalitetskontrol kunne ikke verificere svaret; det er ikke markeret " ++
  "som verificeret]*"

structure VerificationResult where
  status : String
  reason : String
  answer : String
  verified : Bool
  providerOutput : Option String
  deriving DecidableEq, Repr

/-- The standard library and the Unicode tables the endpoint runs on. -/
structure Runtime where
  json : JsonLibrary
  lowercase : CaseTable
  uppercase : Char → List Char

/-- `_parse_verification`.  Only `JSONDecodeError`, `TypeError` and `ValueError` are caught. -/
def parseVerification (runtime : Runtime) (raw : String) : Except PythonError (String × String) :=
  let parsed := do
    let value ← runtime.json.loads raw
    let status ← value.get "status" (.string "UNCERTAIN")
    let reason ← value.get "reason" (.string "")
    return (upper runtime.uppercase (runtime.json.str status), strip (runtime.json.str reason))
  match parsed with
  | .error .valueError | .error .typeError =>
    .ok ("UNCERTAIN", "Verifierens output kunne ikke fortolkes sikkert.")
  | .error error => .error error
  | .ok (status, reason) =>
    .ok (if status ∈ ["PASS", "FAIL", "UNCERTAIN"] then status else "UNCERTAIN", reason)

/-- `verify_answer` once the verifier returned `raw`. -/
def verifyAnswer (runtime : Runtime) (primaryAnswer raw : String) :
    Except PythonError VerificationResult := do
  let (status, reason) ← parseVerification runtime raw
  if status = "PASS" then
    return ⟨status, reason, primaryAnswer ++ VERIFIED_BADGE, true, some raw⟩
  else
    return ⟨status, reason, primaryAnswer ++ VERIFICATION_FAILED_BADGE, false, some raw⟩

def verificationFailure (primaryAnswer reason : String) : VerificationResult :=
  ⟨"UNCERTAIN", reason, primaryAnswer ++ VERIFICATION_FAILED_BADGE, false, none⟩

/-- The result of every exception of the verification stage. -/
def verificationUnavailable (primaryAnswer : String) : VerificationResult :=
  verificationFailure primaryAnswer "Verifikationskontrollen kunne ikke gennemføres."

/-- The call of the verifier: there is none, it raised or timed out, or it returned text. -/
inductive VerifierCall where
  | unanswered
  | returned (answer : VerifierAnswer)
  deriving DecidableEq, Repr

/-! ## The way to completion -/

/-- What the environment decides for an attempt.  `tenant` says whether the budget was
reserved in Redis, `settles` whether the settlement returned; an interruption is a lost
lease, a disconnected client or a cancelled task. -/
structure ChatRun where
  context : ProviderContext
  primary : PrimaryOutcome
  tenant : Bool
  settles : Bool
  interrupted : Bool
  verifier : VerifierCall
  interruptedLater : Bool
  deriving DecidableEq, Repr

/-- What is handed to the completing call of `finalize`. -/
structure Completion where
  content : String
  verification : Option VerificationResult
  accounting : List ExecutionCost
  deriving DecidableEq, Repr

namespace ChatRun

variable (runtime : Runtime) (payload : ChatPayload) (run : ChatRun)

def accountPrimary (output : String) : Option ExecutionCost :=
  (account runtime.lowercase payload.provider payload.model .primary run.context.messages output
    run.context.systemPrompt).toOption

/-- The entries `settle_primary_usage` appends; `none` when it raises. -/
def settlePrimaryUsage (usage : ProviderUsage) : Option (List ExecutionCost) :=
  if run.tenant then
    match payload.reportedEntry runtime.lowercase usage with
    | .error _ => none
    | .ok entry => if run.settles then some [entry] else none
  else some []

/-- The entry of the verifier's call. -/
def accountVerification (primaryResponse : String) (answer : VerifierAnswer) : Option ExecutionCost :=
  (account runtime.lowercase answer.provider answer.model .verification
    (buildVerificationMessages payload.prompt primaryResponse) answer.output
    (some VERIFICATION_SYSTEM_PROMPT)).toOption

/-! ### The stream -/

/-- The accounting is outside the guarded stage: its exception fails the attempt. -/
def verifyStream (text : String) : Option (VerificationResult × List ExecutionCost) :=
  match run.verifier with
  | .unanswered => some (verificationUnavailable text, [])
  | .returned answer =>
    match verifyAnswer runtime text answer.output with
    | .error _ => some (verificationUnavailable text, [])
    | .ok result =>
      (accountVerification runtime payload text answer).map fun entry => (result, [entry])

/-- `apply_terminal`: without a primary entry the text is accounted. -/
def applyTerminal (text : String) (entries : List ExecutionCost) : Option (List ExecutionCost) :=
  if entries.any fun entry => entry.operation = .primary then some entries
  else (run.accountPrimary runtime payload text).map fun entry => entries ++ [entry]

/-- The entries before the verification; a stream without a reported usage has none. -/
def streamEntries : Option ProviderUsage → Option (List ExecutionCost)
  | none => some []
  | some usage => run.settlePrimaryUsage runtime payload usage

def completedStream : Option Completion :=
  match run.primary with
  | .failed _ => none
  | .completed text usage =>
    (run.streamEntries runtime payload usage).bind fun entries =>
      if run.interrupted || run.interruptedLater then none
      else if payload.verify then
        (run.verifyStream runtime payload text).bind fun (result, verification) =>
          (run.applyTerminal runtime payload text (entries ++ verification)).map fun accounting =>
            ⟨result.answer, some result, accounting⟩
      else (run.applyTerminal runtime payload text entries).map fun accounting => ⟨text, none, accounting⟩

/-- What reaches the completing call of `finalize`; `none` when the attempt does not.  A plain
response never does: `execute` answers with the text that `require_text` has returned, and
`completion.text` raises on it. -/
def completion? : Option Completion :=
  if payload.stream then run.completedStream runtime payload else none

end ChatRun

/-- `response_payload`. -/
def Completion.responsePayload (completion : Completion) : JsonValue :=
  .object
    [("role", .string "assistant"), ("content", .string completion.content), ("ai_marked", .bool true),
      ("verified", .bool (completion.verification.any VerificationResult.verified)),
      ("verification_status",
        (completion.verification.map fun result => .string result.status).getD .null),
      ("verification_reason",
        (completion.verification.map fun result => .string result.reason).getD .null)]

/-- The completing call. -/
def Completion.request (runtime : Runtime) (completion : Completion) (executionId : String)
    (leaseToken : Option String) : FinalizeRequest where
  executionId
  terminalStatus := "completed"
  content := completion.content
  responseStatus := 200
  responseReference := runtime.json.dumps completion.responsePayload
  leaseToken
  failureCode := none
  accounting := completion.accounting

/-! ## Rows and conditions -/

/-- The ledger rows of the current attempt with this operation. -/
def Database.attemptRows (database : Database) (execution : ChatExecution) (operation : Operation) :
    List ProviderUsageRecord :=
  database.usage.filter fun row =>
    row.chatExecutionId = execution.id ∧ row.attempt = execution.attemptCount ∧
      row.operation = operation

/-- The verifier provider was called and returned text. -/
def ChatRun.verifierReturned (payload : ChatPayload) (run : ChatRun) : Prop :=
  payload.verify = true ∧ ∃ answer, run.verifier = .returned answer

/-- One primary row, and a verification row exactly if the verifier returned text. -/
structure CompleteLedger (payload : ChatPayload) (run : ChatRun) (database : Database)
    (execution : ChatExecution) : Prop where
  primary : (database.attemptRows execution .primary).length = 1
  verification : database.attemptRows execution .verification ≠ [] ↔ run.verifierReturned payload

/-- The text parses as an object, or is rejected as no JSON. -/
def JsonLibrary.interprets (library : JsonLibrary) (raw : String) : Bool :=
  match library.loads raw with
  | .ok value => value.isObject
  | .error error => error = .valueError ∨ error = .typeError

/-- When the entries are complete: the verifier's text is accounted only if it can be
interpreted. -/
def ChatRun.Accountable (runtime : Runtime) (payload : ChatPayload) (run : ChatRun) : Prop :=
  payload.verify = true → ∀ answer, run.verifier = .returned answer →
    JsonLibrary.interprets runtime.json answer.output = true

/-! ## The ledger after the completing call -/

/-- A completing call leaves of the attempt the rows of its entries and no others. -/
theorem LedgerInvariant.attemptRows_finalized {database after : Database} {history : List LedgerEvent}
    (invariant : LedgerInvariant database history) {storage : Storage} {request : FinalizeRequest}
    {now : Instant} (finalized : finalize storage database request now = (after, .ok true))
    {execution : ChatExecution} (current : database.execution? request.executionId = some execution)
    (operation : Operation) (spent : operation ≠ .reservation) :
    after.attemptRows execution operation =
        (request.accounting.filter fun entry => entry.operation = operation).map execution.usageRow ∧
      (request.accounting.map ExecutionCost.operation).Nodup := by
  have ended := finalize_ending storage database request now
  rw [finalized] at ended
  generalize closed : (after, (Except.ok true : Except PersistenceError Bool)) = ending at ended
  cases ended with
  | unchanged unfinished =>
    cases closed
    exact absurd rfl unfinished
  | @finalized terminal located assistant record usage _ found running _ _ accounted =>
    cases closed
    obtain rfl : located = execution := by
      have same := invariant.execution?_eq found.executionMem found.executionId
      exact Option.some.inj (same.symm.trans current)
    obtain ⟨rfl, distinct, _, _⟩ := recordAccounting_eq_ok accounted
    refine ⟨?_, distinct⟩
    obtain ⟨reservation, entries, rows, accounts⟩ :=
      (invariant.represented located found.executionMem).accounts
    have earlier : database.attemptRows located operation = [] := by
      refine List.filter_eq_nil_iff.mpr fun row member selected => ?_
      obtain ⟨own, attempt, sameOperation⟩ := of_decide_eq_true selected
      have listed : row ∈ reservation :: entries := by
        rw [← rows]
        exact List.mem_filter.mpr ⟨member, decide_eq_true own⟩
      rcases List.mem_cons.mp listed with rfl | entered
      · exact spent (sameOperation.symm.trans accounts.reserves.1)
      · have before := (accounts.unfinalizedNow running).2 row entered
        rw [attempt] at before
        exact Nat.lt_irrefl _ before
    have view : (Database.finalized database located assistant record
        (database.usage ++ request.accounting.map located.usageRow) terminal request now).attemptRows
          located operation =
        database.attemptRows located operation ++
          (request.accounting.map located.usageRow).filter fun row =>
            row.chatExecutionId = located.id ∧ row.attempt = located.attemptCount ∧
              row.operation = operation := List.filter_append _ _
    rw [view, earlier, List.nil_append, List.filter_map]
    congr 1
    refine List.filter_congr fun entry _ => ?_
    simp [Function.comp, ChatExecution.usageRow]

/-! ## The entries of a completion -/

section Entries

variable {runtime : Runtime} {payload : ChatPayload} {run : ChatRun}

/-- `_parse_verification` returns on an object and on what is no JSON. -/
theorem parseVerification_isOk {raw : String} :
    (∃ parsed, parseVerification runtime raw = .ok parsed) ↔
      JsonLibrary.interprets runtime.json raw = true := by
  unfold parseVerification JsonLibrary.interprets
  cases runtime.json.loads raw with
  | error error => cases error <;> simp [bind, Except.bind]
  | ok value =>
    cases value <;>
      simp [bind, Except.bind, pure, Except.pure, JsonValue.get, JsonValue.isObject]

theorem verifyAnswer_isOk (primaryAnswer : String) {raw : String} :
    (∃ result, verifyAnswer runtime primaryAnswer raw = .ok result) ↔
      JsonLibrary.interprets runtime.json raw = true := by
  rw [← parseVerification_isOk]
  unfold verifyAnswer
  cases parseVerification runtime raw with
  | error => simp [bind, Except.bind]
  | ok parsed =>
    refine ⟨fun _ => ⟨parsed, rfl⟩, fun _ => ?_⟩
    simp only [bind, Except.bind]
    split <;> exact ⟨_, rfl⟩

namespace ChatRun

theorem accountPrimary_operation {output : String} {entry : ExecutionCost}
    (accounted : run.accountPrimary runtime payload output = some entry) :
    entry.operation = .primary := by
  rw [accountPrimary, Guarded.toOption_eq_some] at accounted
  exact (account_eq_ok accounted).2.2.1

theorem accountVerification_operation {text : String} {answer : VerifierAnswer} {entry : ExecutionCost}
    (accounted : accountVerification runtime payload text answer = some entry) :
    entry.operation = .verification := by
  rw [accountVerification, Guarded.toOption_eq_some] at accounted
  exact (account_eq_ok accounted).2.2.1

/-- A settlement that returns appended one primary entry, or none without a tenant. -/
theorem settlePrimaryUsage_eq_some {usage : ProviderUsage} {entries : List ExecutionCost}
    (settled : run.settlePrimaryUsage runtime payload usage = some entries) :
    (run.tenant = true ∧ ∃ entry : ExecutionCost, entry.operation = .primary ∧ entries = [entry]) ∨
      (run.tenant = false ∧ entries = []) := by
  unfold settlePrimaryUsage at settled
  split at settled
  next tenant =>
    split at settled
    next => cases settled
    next entry accounted =>
      split at settled
      next =>
        cases settled
        exact .inl ⟨tenant, entry, (accountReported_eq_ok accounted).2.2.1, rfl⟩
      next => cases settled
  next tenant =>
    cases settled
    exact .inr ⟨by simpa using tenant, rfl⟩

theorem verifyStream_entries {text : String} {result : VerificationResult} {entries : List ExecutionCost}
    (verified : run.verifyStream runtime payload text = some (result, entries)) :
    (∀ entry ∈ entries, entry.operation = .verification) ∧
      (entries ≠ [] ↔ ∃ answer, run.verifier = .returned answer ∧
        JsonLibrary.interprets runtime.json answer.output = true) := by
  unfold verifyStream at verified
  cases called : run.verifier with
  | unanswered =>
    rw [called] at verified
    cases verified
    simp
  | returned answer =>
    rw [called] at verified
    simp only [VerifierCall.returned.injEq, exists_eq_left', ← verifyAnswer_isOk text]
    cases answered : verifyAnswer runtime text answer.output with
    | error =>
      simp only [answered] at verified
      cases verified
      simp
    | ok =>
      simp only [answered] at verified
      obtain ⟨entry, accounted, same⟩ := Option.map_eq_some_iff.mp verified
      cases same
      simp [accountVerification_operation accounted]

end ChatRun

/-- The operations two stages contribute to the entries. -/
theorem operations_append {entries verification : List ExecutionCost}
    (verifies : ∀ entry ∈ verification, entry.operation = .verification)
    (primaries : ∀ entry ∈ entries, entry.operation = .primary) :
    ((∃ entry ∈ entries ++ verification, entry.operation = .primary) ↔ entries ≠ []) ∧
      ((∃ entry ∈ entries ++ verification, entry.operation = .verification) ↔ verification ≠ []) := by
  constructor
  · constructor
    · rintro ⟨entry, member, isPrimary⟩ rfl
      rw [List.nil_append] at member
      rw [verifies entry member] at isPrimary
      cases isPrimary
    · intro nonempty
      obtain ⟨entry, member⟩ := List.exists_mem_of_ne_nil entries nonempty
      exact ⟨entry, List.mem_append_left _ member, primaries entry member⟩
  · constructor
    · rintro ⟨entry, member, isVerification⟩ rfl
      rw [List.append_nil] at member
      rw [primaries entry member] at isVerification
      cases isVerification
    · intro nonempty
      obtain ⟨entry, member⟩ := List.exists_mem_of_ne_nil verification nonempty
      exact ⟨entry, List.mem_append_right _ member, verifies entry member⟩

namespace ChatRun

theorem streamEntries_eq_some {usage : Option ProviderUsage} {entries : List ExecutionCost}
    (accounted : run.streamEntries runtime payload usage = some entries) :
    ∀ entry ∈ entries, entry.operation = .primary := by
  cases usage with
  | none =>
    cases accounted
    exact fun _ member => nomatch member
  | some reported =>
    rw [streamEntries] at accounted
    rcases run.settlePrimaryUsage_eq_some accounted with ⟨_, entry, isPrimary, rfl⟩ | ⟨_, rfl⟩
    · simp [isPrimary]
    · simp

/-- The terminal write of a stream adds the primary entry that is missing, and nothing else. -/
theorem applyTerminal_eq_some {text : String} {entries accounting : List ExecutionCost}
    (applied : run.applyTerminal runtime payload text entries = some accounting) :
    (∃ entry ∈ accounting, entry.operation = .primary) ∧
      ((∃ entry ∈ accounting, entry.operation = .verification) ↔
        ∃ entry ∈ entries, entry.operation = .verification) := by
  unfold applyTerminal at applied
  split at applied
  next present =>
    cases applied
    obtain ⟨entry, member, isPrimary⟩ := List.any_eq_true.mp present
    exact ⟨⟨entry, member, of_decide_eq_true isPrimary⟩, Iff.rfl⟩
  next =>
    obtain ⟨entry, built, rfl⟩ := Option.map_eq_some_iff.mp applied
    have isPrimary := run.accountPrimary_operation built
    exact ⟨⟨entry, by simp, isPrimary⟩, by simp [or_and_right, exists_or, isPrimary]⟩

/-- What the entries of a completion hold. -/
theorem completion_entries {completion : Completion}
    (reached : run.completion? runtime payload = some completion) :
    (∃ entry ∈ completion.accounting, entry.operation = .primary) ∧
    ((∃ entry ∈ completion.accounting, entry.operation = .verification) ↔
      payload.verify = true ∧ ∃ answer, run.verifier = .returned answer ∧
        JsonLibrary.interprets runtime.json answer.output = true) := by
  unfold completion? at reached
  split at reached
  next =>
    unfold completedStream at reached
    cases answered : run.primary with
    | failed => simp [answered] at reached
    | completed text usage =>
      simp only [answered] at reached
      obtain ⟨entries, accounted, rest⟩ := Option.bind_eq_some_iff.mp reached
      have primaries := run.streamEntries_eq_some accounted
      split at rest
      · cases rest
      split at rest
      next verify =>
        obtain ⟨⟨result, verification⟩, verified, rest⟩ := Option.bind_eq_some_iff.mp rest
        obtain ⟨accounting, applied, rfl⟩ := Option.map_eq_some_iff.mp rest
        obtain ⟨verifies, read⟩ := run.verifyStream_entries verified
        obtain ⟨hasPrimary, hasVerification⟩ := run.applyTerminal_eq_some applied
        rw [(operations_append verifies primaries).2, read] at hasVerification
        simp [hasPrimary, hasVerification, verify]
      next unverified =>
        obtain ⟨accounting, applied, rfl⟩ := Option.map_eq_some_iff.mp rest
        obtain ⟨hasPrimary, hasVerification⟩ := run.applyTerminal_eq_some applied
        have silent := @operations_append _ [] (fun _ member => nomatch member) primaries
        rw [List.append_nil] at silent
        simp [hasPrimary, hasVerification, silent.2, unverified]
  next => cases reached

end ChatRun

end Entries

/-- An attempt that is completed leaves one primary row, and a verification row if and only
if the verifier returned text, exactly when that text can be interpreted. -/
theorem completed_ledger_complete_iff {clock : Instant} {labels : List LedgerLabel} {state : LedgerState}
    (reached : Transition.run LedgerState.step (LedgerState.initial clock) labels = some state)
    {runtime : Runtime} {payload : ChatPayload} {run : ChatRun} {completion : Completion}
    (completes : run.completion? runtime payload = some completion)
    {storage : Storage} {executionId : String} {leaseToken : Option String} {now : Instant}
    {after : Database}
    (finalized : finalize storage state.database (completion.request runtime executionId leaseToken) now =
      (after, .ok true))
    {execution : ChatExecution} (current : state.database.execution? executionId = some execution) :
    CompleteLedger payload run after execution ↔ run.Accountable runtime payload := by
  have invariant := Transition.run_invariant
    (fun state : LedgerState => LedgerInvariant state.database state.history)
    (fun _ _ _ invariant stepped => invariant.step stepped) (ledgerInvariant_initial clock) reached
  obtain ⟨primaryRows, distinct⟩ :=
    invariant.attemptRows_finalized finalized current .primary (by decide)
  obtain ⟨verificationRows, _⟩ :=
    invariant.attemptRows_finalized finalized current .verification (by decide)
  obtain ⟨hasPrimary, hasVerification⟩ := ChatRun.completion_entries completes
  have listed : ∀ operation, (completion.accounting.filter fun entry => entry.operation = operation) ≠ [] ↔
      ∃ entry ∈ completion.accounting, entry.operation = operation := by
    intro operation
    simp [List.filter_eq_nil_iff]
  -- The operations of the entries are distinct, so one primary entry is exactly one.
  have atMostOne : (completion.accounting.filter fun entry => entry.operation = .primary).length ≤ 1 := by
    have once := List.nodup_iff_count_le_one.mp distinct Operation.primary
    rw [List.count, List.countP_map, List.countP_eq_length_filter] at once
    refine le_trans (Nat.le_of_eq (congrArg List.length (List.filter_congr fun entry _ => ?_))) once
    by_cases isPrimary : entry.operation = .primary
    · simp [isPrimary]
    · simp [isPrimary]
  have onePrimary : (after.attemptRows execution .primary).length = 1 ↔
      ∃ entry ∈ completion.accounting, entry.operation = .primary := by
    rw [primaryRows, List.length_map, ← listed, ← List.length_pos_iff]
    exact ⟨fun one => one ▸ Nat.one_pos, fun positive => Nat.le_antisymm atMostOne positive⟩
  have someVerification : after.attemptRows execution .verification ≠ [] ↔
      ∃ entry ∈ completion.accounting, entry.operation = .verification := by
    rw [verificationRows, ne_eq, List.map_eq_nil_iff, ← ne_eq]
    exact listed .verification
  constructor
  · rintro ⟨-, verified⟩ verify answer returned
    obtain ⟨_, other, otherReturned, interprets⟩ :=
      hasVerification.mp (someVerification.mp (verified.mpr ⟨verify, answer, returned⟩))
    obtain rfl : answer = other := VerifierCall.returned.inj (returned.symm.trans otherReturned)
    exact interprets
  · intro interprets
    refine ⟨onePrimary.mpr hasPrimary, someVerification.trans (hasVerification.trans ?_)⟩
    constructor
    · rintro ⟨verify, answer, returned, _⟩
      exact ⟨verify, answer, returned⟩
    · rintro ⟨verify, answer, returned⟩
      exact ⟨verify, answer, returned, interprets verify answer returned⟩

/-! ## A verifier that answers with an array -/

/-- `[]` is JSON; `{"status": "PASS"}` is read as an object, anything else as no JSON. -/
def verifierJson : JsonLibrary where
  loads raw :=
    if raw = "[]" then .ok (.array [])
    else if raw = "\x7b\"status\": \"PASS\"\x7d" then .ok (.object [("status", .string "PASS")])
    else .error .valueError
  dumps _ := "response"
  repr _ := "None"

def verifierRuntime : Runtime where
  json := verifierJson
  lowercase := fun _ character _ => [character]
  uppercase := fun character => [character]

/-- A streamed answer of ten reported tokens, which the verifier answers with `output`. -/
def verifiedAttempt (output : String) : ChatRun where
  context := ⟨[⟨"user", "Hej"⟩], none⟩
  primary := .completed "Goddag" (some ⟨6, 4⟩)
  tenant := true
  settles := true
  interrupted := false
  verifier := .returned ⟨"anthropic", "claude-3-5-haiku-20241022", output⟩
  interruptedLater := false

def verifiedPayload : ChatPayload := ⟨"Hej", true, true, "openai", "gpt-4o"⟩

def preparedAttempt : List LedgerLabel :=
  [.prepareExchange .available
    { executionId := "execution"
      requestId := "request"
      conversationId := 1
      organizationId := 1
      userId := 2
      botId := 3
      botOrganizationId := 1
      provider := "openai"
      model := "gpt-4o"
      prompt := "Hej"
      idempotencyRecordId := none
      estimatedTokens := 1026
      estimatedCost := 0
      verification := true
      recover := false
      leaseToken := none
      maxAttempts := 3
      governanceDecisionId := none }]

theorem completed_ledger_complete_iff_verified :
    ∃ state completion after execution,
      Transition.run LedgerState.step (LedgerState.initial 0) preparedAttempt = some state ∧
      (verifiedAttempt "PASS").completion? verifierRuntime verifiedPayload = some completion ∧
      finalize .available state.database (completion.request verifierRuntime "execution" none) 0 =
        (after, .ok true) ∧
      state.database.execution? "execution" = some execution ∧
      (CompleteLedger verifiedPayload (verifiedAttempt "PASS") after execution ↔
        (verifiedAttempt "PASS").Accountable verifierRuntime verifiedPayload) :=
  ⟨_, _, _, _, rfl, rfl, rfl, rfl,
    @completed_ledger_complete_iff 0 preparedAttempt _ rfl verifierRuntime verifiedPayload
      (verifiedAttempt "PASS") _ rfl .available "execution" none 0 _ rfl _ rfl⟩

/-- The verifier answers `[]`, and its call is on no row. -/
theorem verifier_array_unaccounted :
    ¬∀ (clock : Instant) (labels : List LedgerLabel) (state : LedgerState),
      Transition.run LedgerState.step (LedgerState.initial clock) labels = some state →
      ∀ (runtime : Runtime) (payload : ChatPayload) (run : ChatRun) (completion : Completion),
      run.completion? runtime payload = some completion →
      ∀ (storage : Storage) (executionId : String) (leaseToken : Option String) (now : Instant)
        (after : Database),
      finalize storage state.database (completion.request runtime executionId leaseToken) now =
        (after, .ok true) →
      ∀ execution, state.database.execution? executionId = some execution →
        CompleteLedger payload run after execution := by
  intro complete
  have ledger := complete 0 preparedAttempt _ rfl verifierRuntime verifiedPayload (verifiedAttempt "[]") _
    rfl .available "execution" none 0 _ rfl _ rfl
  have verification := ledger.verification.mpr ⟨rfl, _, rfl⟩
  revert verification
  decide +kernel

end Eiraos
