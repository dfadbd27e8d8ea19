import Eiraos.Persistence.Requests
import Eiraos.Providers.Naming
import Mathlib.Algebra.Order.BigOperators.Group.List

/-! # What one attempt accounts (`api/v1/chat.py`)

From the first call of the provider to the last call of `finalize`: the entries collected in
`accounting_entries`, and which of them `finalize` records.  Both forms of the endpoint are
here, the plain response and the stream.  The providers' answers, interruptions and the
answers of `finalize` are choices of the environment.
-/

namespace Eiraos

/-! ## Providers and the verifier (`providers/base.py`, `business_features.py`) -/

/-- Counts are never negative. -/
structure ProviderUsage where
  inputTokens : Nat
  outputTokens : Nat
  deriving DecidableEq, Repr

def ProviderUsage.totalTokens (usage : ProviderUsage) : Nat := usage.inputTokens + usage.outputTokens

def VERIFICATION_SYSTEM_PROMPT : String :=
  "Du er en streng kvalitetskontrol- og verifikations-AI mod hallusinationer. " ++
  "Kontrollér det foreslåede svar op mod brugerens oprindelige spørgsmål. " ++
  "Returnér KUN et JSON-objekt med felterne status og reason. status skal være " ++
  "PASS, FAIL eller UNCERTAIN. PASS må kun bruges, hvis svaret er faktuelt " ++
  "underbygget og ikke indeholder væsentlige uunderbyggede påstande. FAIL " ++
  "bruges ved en konkret fejl. UNCERTAIN bruges, når du ikke kan afgøre " ++
  "korrektheden. Opfind ikke nye fakta."

def buildVerificationMessages (originalPrompt primaryAnswer : String) : List ChatMessage :=
  [⟨"user", "BRUGERENS SPØRGSMÅL:\n" ++ originalPrompt⟩,
    ⟨"assistant", "FORESLÅET SVAR, DER SKAL VERIFICERES:\n" ++ primaryAnswer⟩,
    ⟨"user", "Verificér nu det foreslåede svar. Returnér kun din kvalitetskontrol som JSON."⟩]

/-! ## One attempt -/

/-- The conversation as it is sent to the provider. -/
structure ProviderContext where
  messages : List ChatMessage
  systemPrompt : Option String
  deriving DecidableEq, Repr

/-- The primary call: an exception, with the text that was streamed before it, or an answer,
with the usage the provider reports. -/
inductive PrimaryOutcome where
  | failed (content : String)
  | completed (text : String) (usage : Option ProviderUsage)
  deriving DecidableEq, Repr

/-- The verifier's bot and its raw output, which was read. -/
structure VerifierAnswer where
  provider : String
  model : String
  output : String
  deriving DecidableEq, Repr

/-- What the payload and the bot fix for all attempts of an execution. -/
structure ChatPayload where
  prompt : String
  verify : Bool
  stream : Bool
  provider : String
  model : String
  deriving DecidableEq, Repr

/-- The entry of `settle_primary_usage`. -/
def ChatPayload.reportedEntry (table : PythonText.CaseTable) (payload : ChatPayload)
    (usage : ProviderUsage) : Except ProviderError ExecutionCost :=
  accountReported table payload.provider payload.model .primary usage.inputTokens usage.outputTokens

/-- What the environment decides for one attempt.  An interruption is a lost lease or a
disconnected client; `completes` and `fails` are the answers of the two calls of `finalize`. -/
structure CompletionRun where
  context : ProviderContext
  primary : PrimaryOutcome
  interrupted : Bool
  verification : Option VerifierAnswer
  interruptedLater : Bool
  completes : Except PersistenceError Bool
  fails : Except PersistenceError Bool
  deriving DecidableEq, Repr

namespace CompletionRun

variable (table : PythonText.CaseTable) (payload : ChatPayload) (run : CompletionRun)

/-- `account_primary`. -/
def accountPrimary (output : String) : Except ProviderError ExecutionCost :=
  account table payload.provider payload.model .primary run.context.messages output
    run.context.systemPrompt

/-- The entry for a verifier that answered. -/
def verificationEntries (primaryResponse : String) : Except ProviderError (List ExecutionCost) :=
  match payload.verify, run.verification with
  | true, some answer => do
    let entry ← account table answer.provider answer.model .verification
      (buildVerificationMessages payload.prompt primaryResponse) answer.output
      (some VERIFICATION_SYSTEM_PROMPT)
    return [entry]
  | _, _ => .ok []

/-- Every terminal write carries a primary entry. -/
def withPrimary (entries : List ExecutionCost) (content : String) :
    Except ProviderError (List ExecutionCost) :=
  if entries.any fun entry => entry.operation = .primary then .ok entries
  else do
    let entry ← run.accountPrimary table payload content
    return entries ++ [entry]

/-- What the terminal write after a failure records. -/
def finalizeFailure (entries : List ExecutionCost) (content : String) : List ExecutionCost :=
  match run.withPrimary table payload entries content with
  | .ok accounting => if succeeded run.fails then accounting else []
  | .error _ => []

/-! ### The plain response -/

/-- `execute` answers with the text that its validation has returned, and `completion.text`
raises on it.  So the attempt fails whether the provider answers or not, before its usage is
settled or its verifier is asked. -/
def response : List ExecutionCost := run.finalizeFailure table payload [] ""

/-! ### The stream -/

/-- After the end of the primary stream.  The finalizer applies one terminal state only. -/
def finishStream (text : String) (entries : List ExecutionCost) : List ExecutionCost :=
  if run.interrupted then run.finalizeFailure table payload entries text
  else
    match run.verificationEntries table payload text with
    | .error _ => run.finalizeFailure table payload entries text
    | .ok verification =>
      if run.interruptedLater then run.finalizeFailure table payload (entries ++ verification) text
      else
        match run.withPrimary table payload (entries ++ verification) text with
        | .ok accounting => if succeeded run.completes then accounting else []
        | .error _ => []

def streamed (settled : Bool) : List ExecutionCost :=
  match run.primary with
  | .failed content => run.finalizeFailure table payload [] content
  | .completed text none => run.finishStream table payload text []
  | .completed text (some usage) =>
    match payload.reportedEntry table usage with
    | .error _ => run.finalizeFailure table payload [] text
    | .ok entry =>
      if settled then run.finishStream table payload text [entry]
      else run.finalizeFailure table payload [entry] text

/-- The entries `finalize` records for the attempt. -/
def recordedEntries (settled : Bool) : List ExecutionCost :=
  if payload.stream then run.streamed table payload settled else run.response table payload

/-- The usage the attempt settles: one that the provider of a stream reported and the
accountant took. -/
def reportedUsage? : Option ProviderUsage :=
  match run.primary with
  | .completed _ (some usage) =>
    if payload.stream then
      match payload.reportedEntry table usage with
      | .ok _ => some usage
      | .error _ => none
    else none
  | _ => none

end CompletionRun

/-- What the flags of an attempt stand for: a call of `finalize` that answers `True` adds
the rows of the entries it was given, any other call leaves the ledger as it is. -/
theorem finalize_usage (storage : Storage) (database : Database) (request : FinalizeRequest)
    (now : Instant) :
    (succeeded (finalize storage database request now).2 = true →
      ∃ execution ∈ database.executions, execution.executionId = request.executionId ∧
        (finalize storage database request now).1.usage =
          database.usage ++ request.accounting.map execution.usageRow) ∧
    (succeeded (finalize storage database request now).2 = false →
      (finalize storage database request now).1.usage = database.usage) := by
  have ended := finalize_ending storage database request now
  generalize finalize storage database request now = ending at ended
  cases ended with
  | @unchanged result unfinished =>
    refine ⟨fun answered => ?_, fun _ => rfl⟩
    unfold succeeded at answered
    split at answered
    next isTrue => exact absurd isTrue unfinished
    next => contradiction
  | @finalized terminal execution _ record _ _ located _ _ _ accounted =>
    refine ⟨fun _ => ⟨execution, located.executionMem, located.executionId, ?_⟩, fun failed => by cases failed⟩
    rw [← (recordAccounting_eq_ok accounted).1]
    rfl

/-! ## The tokens of an attempt, by its inputs -/

/-- A quarter of the characters sent and a quarter of those received, each rounded up. -/
def exchangedTokens (messages : List ChatMessage) (systemPrompt : Option String) (output : String) : Nat :=
  tokensOf (inputCharacters messages systemPrompt) + tokensOf output.length

theorem exchangedTokens_pos {messages : List ChatMessage} {systemPrompt : Option String} {output : String}
    (answered : 0 < output.length) : 0 < exchangedTokens messages systemPrompt output := by
  rw [exchangedTokens, tokensOf, tokensOf]
  omega

/-- The catalog has a price for the model. -/
def isPriced (table : PythonText.CaseTable) (provider model : String) : Bool :=
  (pricedModel table provider model).isOk

/-- The tokens of the primary exchange and those of the verification. -/
structure AttemptTokens where
  primary : Nat
  verification : Nat
  deriving DecidableEq, Repr

def AttemptTokens.total (tokens : AttemptTokens) : Nat := tokens.primary + tokens.verification

namespace CompletionRun

variable (table : PythonText.CaseTable) (payload : ChatPayload) (run : CompletionRun)

def estimate (output : String) : Nat := exchangedTokens run.context.messages run.context.systemPrompt output

/-- Of a stream, what it reports or what it is estimated by; of a plain response, no output. -/
def primaryTokens : Nat :=
  if payload.stream then
    match run.primary with
    | .failed content => run.estimate content
    | .completed text none => run.estimate text
    | .completed _ (some usage) => usage.totalTokens
  else run.estimate ""

/-- The usage that the provider of a stream reports, its model having a price. -/
def reports? : Option ProviderUsage :=
  match run.primary with
  | .completed _ (some usage) =>
    if payload.stream ∧ isPriced table payload.provider payload.model then some usage else none
  | _ => none

/-- The text of a stream that has ended, its usage settled where one was reported. -/
def streamedText? (settled : Bool) : Option String :=
  match run.primary with
  | .failed _ => none
  | .completed text usage =>
    if payload.stream ∧ (usage = none ∨ settled) ∧ run.interrupted = false then some text else none

/-- `none` when the verifier's model has no price. -/
def verifierTokens? (text : String) : Option Nat :=
  match payload.verify, run.verification with
  | true, some answer =>
    if isPriced table answer.provider answer.model then
      some (exchangedTokens (buildVerificationMessages payload.prompt text)
        (some VERIFICATION_SYSTEM_PROMPT) answer.output)
    else none
  | _, _ => some 0

/-- The tokens that a terminal write with this answer leaves. -/
def writtenTokens? (verification : Nat) (answer : Except PersistenceError Bool) : Option AttemptTokens :=
  if isPriced table payload.provider payload.model ∧ succeeded answer then
    some ⟨run.primaryTokens payload, verification⟩
  else none

/-- The tokens that stay on the ledger; `none` when the attempt stores no row. -/
def storedTokens? (settled : Bool) : Option AttemptTokens :=
  match (run.streamedText? payload settled).bind (run.verifierTokens? table payload) with
  | none => run.writtenTokens? table payload 0 run.fails
  | some verification =>
    run.writtenTokens? table payload verification (if run.interruptedLater then run.fails else run.completes)

end CompletionRun

def totalTokens (entries : List ExecutionCost) : Int := (entries.map ExecutionCost.totalTokens).sum

theorem totalTokens_append (first second : List ExecutionCost) :
    totalTokens (first ++ second) = totalTokens first + totalTokens second := by
  simp [totalTokens]

section Accounted

variable {table : PythonText.CaseTable} {provider model : String}

theorem isPriced_eq_true : isPriced table provider model = true ↔
    ∃ priced, pricedModel table provider model = .ok priced := by
  unfold isPriced
  cases pricedModel table provider model with
  | error failure => simp [Except.isOk, Except.toBool]
  | ok priced => simp [Except.isOk, Except.toBool]

theorem pricedModel_of_unpriced (unpriced : isPriced table provider model ≠ true) :
    ∃ failure, pricedModel table provider model = .error failure := by
  cases priced : pricedModel table provider model with
  | error failure => exact ⟨failure, rfl⟩
  | ok listed => exact absurd (isPriced_eq_true.mpr ⟨listed, priced⟩) unpriced

/-- An exchange with a priced model is accounted at its estimate. -/
theorem account_of_priced (priced : isPriced table provider model = true) {operation : Operation}
    (supported : operation ≠ .reservation) (messages : List ChatMessage) (output : String)
    (systemPrompt : Option String) :
    ∃ entry, account table provider model operation messages output systemPrompt = .ok entry ∧
      entry.operation = operation ∧ entry.totalTokens = exchangedTokens messages systemPrompt output := by
  obtain ⟨listed, found⟩ := isPriced_eq_true.mp priced
  obtain ⟨named, inCatalog⟩ := pricedModel_eq_ok.mp found
  obtain ⟨entry, built⟩ := account_listed named inCatalog supported messages output systemPrompt
  refine ⟨entry, built, (account_eq_ok built).2.2.1, ?_⟩
  rw [account_tokens built, exchangedTokens]
  push_cast
  rfl

theorem account_of_unpriced (unpriced : isPriced table provider model ≠ true) (operation : Operation)
    (messages : List ChatMessage) (output : String) (systemPrompt : Option String) :
    ∃ failure, account table provider model operation messages output systemPrompt = .error failure := by
  obtain ⟨failure, missing⟩ := pricedModel_of_unpriced unpriced
  exact ⟨failure, by rw [account, missing]; rfl⟩

end Accounted

section Recorded

variable {table : PythonText.CaseTable} {payload : ChatPayload} {run : CompletionRun}

/-- A reported usage is accounted exactly when the model has a price. -/
theorem ChatPayload.reportedEntry_of_priced (priced : isPriced table payload.provider payload.model = true)
    (usage : ProviderUsage) : ∃ entry, payload.reportedEntry table usage = .ok entry ∧
      entry.operation = .primary ∧ entry.totalTokens = usage.totalTokens := by
  obtain ⟨listed, found⟩ := isPriced_eq_true.mp priced
  obtain ⟨named, inCatalog⟩ := pricedModel_eq_ok.mp found
  obtain ⟨entry, built⟩ := accountReported_listed named inCatalog (nofun : Operation.primary ≠ .reservation)
    ⟨Int.natCast_nonneg usage.inputTokens, Int.natCast_nonneg usage.outputTokens⟩
  obtain ⟨_, _, operation, tokens⟩ := accountReported_eq_ok built
  refine ⟨entry, built, operation, ?_⟩
  rw [tokens, ProviderUsage.totalTokens]
  push_cast
  rfl

theorem ChatPayload.reportedEntry_of_unpriced
    (unpriced : isPriced table payload.provider payload.model ≠ true) (usage : ProviderUsage) :
    ∃ failure, payload.reportedEntry table usage = .error failure := by
  obtain ⟨failure, missing⟩ := pricedModel_of_unpriced unpriced
  exact ⟨failure, by rw [reportedEntry, accountReported, missing]; rfl⟩

namespace CompletionRun

/-- Without a price of the verifier's model the entry cannot be built. -/
theorem verificationEntries_of_unpriced {text : String}
    (unpriced : run.verifierTokens? table payload text = none) :
    ∃ failure, run.verificationEntries table payload text = .error failure := by
  unfold verifierTokens? at unpriced
  split at unpriced
  next answer verify answered =>
    split at unpriced
    next => cases unpriced
    next missing =>
      obtain ⟨failure, rejected⟩ := account_of_unpriced missing .verification
        (buildVerificationMessages payload.prompt text) answer.output (some VERIFICATION_SYSTEM_PROMPT)
      exact ⟨failure, by simp only [verificationEntries, verify, answered, rejected, bind, Except.bind]⟩
  next => cases unpriced

theorem verificationEntries_of_priced {text : String} {tokens : Nat}
    (priced : run.verifierTokens? table payload text = some tokens) :
    ∃ entries, run.verificationEntries table payload text = .ok entries ∧
      (∀ entry ∈ entries, entry.operation = .verification) ∧ totalTokens entries = tokens := by
  unfold verifierTokens? at priced
  split at priced
  next answer verify answered =>
    split at priced
    next listed =>
      obtain ⟨entry, built, operation, total⟩ := account_of_priced listed
        (nofun : Operation.verification ≠ .reservation)
        (buildVerificationMessages payload.prompt text) answer.output (some VERIFICATION_SYSTEM_PROMPT)
      refine ⟨[entry], ?_, by simpa using operation, ?_⟩
      · rw [verificationEntries, verify, answered]
        exact Guarded.bind_eq_ok.mpr ⟨entry, built, rfl⟩
      · rw [← Option.some.inj priced, ← total]
        exact Int.add_zero _
    next => cases priced
  next unasked =>
    cases priced
    refine ⟨[], ?_, by simp, rfl⟩
    rw [verificationEntries]
    split
    next answer verify answered => exact absurd answered (unasked answer verify)
    next => rfl

/-- What an attempt has accounted of its primary exchange, for a text and some tokens: the
reported entry, or nothing yet. -/
inductive Accounted (run : CompletionRun) (text : String) : List ExecutionCost → Nat → Prop where
  | estimated : Accounted run text [] (run.estimate text)
  | reported {entry : ExecutionCost} {tokens : Nat} (operation : entry.operation = .primary)
      (same : entry.totalTokens = tokens) : Accounted run text [entry] tokens

variable {text : String} {entries verification : List ExecutionCost} {tokens : Nat}

/-- The terminal write of a priced attempt carries one primary entry beside the verification. -/
theorem Accounted.withPrimary (accounted : Accounted run text entries tokens)
    (priced : isPriced table payload.provider payload.model = true)
    (verifies : ∀ entry ∈ verification, entry.operation = .verification) :
    ∃ accounting, run.withPrimary table payload (entries ++ verification) text = .ok accounting ∧
      totalTokens accounting = tokens + totalTokens verification := by
  cases accounted with
  | estimated =>
    have absent : (verification.any fun entry => entry.operation = .primary) = false := by
      simp only [List.any_eq_false, decide_eq_true_eq]
      intro entry member isPrimary
      rw [verifies entry member] at isPrimary
      cases isPrimary
    obtain ⟨entry, built, -, same⟩ := account_of_priced priced
      (nofun : Operation.primary ≠ .reservation) run.context.messages text run.context.systemPrompt
    refine ⟨verification ++ [entry], ?_, ?_⟩
    · rw [List.nil_append, CompletionRun.withPrimary, absent, if_neg Bool.false_ne_true, accountPrimary, built]
      rfl
    · rw [totalTokens_append, estimate, ← same]
      simp [totalTokens, Int.add_comm]
  | @reported entry tokens operation same =>
    refine ⟨entry :: verification, ?_, by simp [totalTokens, same]⟩
    rw [CompletionRun.withPrimary, if_pos (by simp [operation])]
    rfl

theorem Accounted.finalizeFailure (accounted : Accounted run text entries tokens)
    (priced : isPriced table payload.provider payload.model = true)
    (verifies : ∀ entry ∈ verification, entry.operation = .verification) :
    totalTokens (run.finalizeFailure table payload (entries ++ verification) text) =
      if succeeded run.fails then tokens + totalTokens verification else 0 := by
  obtain ⟨accounting, built, same⟩ := accounted.withPrimary priced verifies
  rw [CompletionRun.finalizeFailure, built, ← same]
  dsimp only
  split
  · rfl
  · rfl

/-- Without a price there is no primary entry, and nothing is written. -/
theorem finalizeFailure_of_unpriced (unpriced : isPriced table payload.provider payload.model ≠ true)
    (verifies : ∀ entry ∈ entries, entry.operation = .verification) :
    (∃ failure, run.withPrimary table payload entries text = .error failure) ∧
      run.finalizeFailure table payload entries text = [] := by
  have absent : (entries.any fun entry => entry.operation = .primary) = false := by
    simp only [List.any_eq_false, decide_eq_true_eq]
    intro entry member isPrimary
    rw [verifies entry member] at isPrimary
    cases isPrimary
  obtain ⟨failure, missing⟩ := account_of_unpriced unpriced .primary run.context.messages text
    run.context.systemPrompt
  have refused : run.withPrimary table payload entries text = .error failure := by
    rw [withPrimary, absent, if_neg Bool.false_ne_true, accountPrimary, missing]
    rfl
  exact ⟨⟨failure, refused⟩, by rw [finalizeFailure, refused]⟩

/-- From the end of a priced stream on. -/
theorem Accounted.finishStream (accounted : Accounted run text entries tokens)
    (priced : isPriced table payload.provider payload.model = true) :
    totalTokens (run.finishStream table payload text entries) =
      match (if run.interrupted = false then some text else none).bind (run.verifierTokens? table payload) with
      | none => if succeeded run.fails then tokens else 0
      | some verification =>
        if succeeded (if run.interruptedLater then run.fails else run.completes) then tokens + verification
        else 0 := by
  have alone : totalTokens (run.finalizeFailure table payload entries text) =
      if succeeded run.fails then (tokens : Int) else 0 := by
    simpa [totalTokens] using @Accounted.finalizeFailure _ _ _ _ _ [] _ accounted priced (by simp)
  rw [CompletionRun.finishStream]
  cases run.interrupted with
  | true => simpa using alone
  | false =>
    cases verified : run.verifierTokens? table payload text with
    | none =>
      obtain ⟨failure, missing⟩ := verificationEntries_of_unpriced verified
      simpa [missing, verified] using alone
    | some verification =>
      obtain ⟨verifying, built, verifies, same⟩ := verificationEntries_of_priced verified
      obtain ⟨accounting, carried, total⟩ := accounted.withPrimary priced verifies
      cases later : run.interruptedLater with
      | true => simpa [built, verified, same] using accounted.finalizeFailure priced verifies
      | false =>
        simp only [built, verified, carried, Option.bind_some, if_true, Bool.false_eq_true, if_false]
        rw [← same, ← total]
        split
        · rfl
        · rfl

theorem finishStream_of_unpriced (unpriced : isPriced table payload.provider payload.model ≠ true) :
    run.finishStream table payload text [] = [] := by
  have vacuous : ∀ entry ∈ ([] : List ExecutionCost), entry.operation = .verification := by simp
  have alone : run.finalizeFailure table payload [] text = [] :=
    (finalizeFailure_of_unpriced unpriced vacuous).2
  rw [finishStream]
  cases run.interrupted with
  | true => rw [if_pos rfl, alone]
  | false =>
    cases verified : run.verifierTokens? table payload text with
    | none =>
      obtain ⟨failure, missing⟩ := verificationEntries_of_unpriced verified
      simpa [missing] using alone
    | some verification =>
      obtain ⟨verifying, built, verifies, -⟩ := verificationEntries_of_priced verified
      obtain ⟨⟨failure, refused⟩, nothing⟩ := @finalizeFailure_of_unpriced _ _ run text _ unpriced verifies
      simp [built, refused, nothing]

/-- Nothing is stored where the model has no price. -/
theorem storedTokens?_of_unpriced (unpriced : isPriced table payload.provider payload.model ≠ true)
    {settled : Bool} : run.storedTokens? table payload settled = none := by
  unfold storedTokens?
  split <;> simp [writtenTokens?, unpriced]

theorem recordedEntries_of_unpriced (unpriced : isPriced table payload.provider payload.model ≠ true)
    {settled : Bool} : run.recordedEntries table payload settled = [] := by
  have vacuous : ∀ entry ∈ ([] : List ExecutionCost), entry.operation = .verification := by simp
  have failed (content : String) : run.finalizeFailure table payload [] content = [] :=
    (finalizeFailure_of_unpriced unpriced vacuous).2
  unfold recordedEntries
  split
  next =>
    cases answered : run.primary with
    | failed content => simp [streamed, answered, failed]
    | completed text usage =>
      cases usage with
      | none => simp [streamed, answered, finishStream_of_unpriced unpriced]
      | some usage =>
        obtain ⟨failure, missing⟩ := payload.reportedEntry_of_unpriced unpriced usage
        simp [streamed, answered, missing, failed]
  next => exact failed ""

/-- A failure with nothing accounted, or only the reported entry. -/
theorem Accounted.failed (accounted : Accounted run text entries tokens)
    (priced : isPriced table payload.provider payload.model = true) :
    totalTokens (run.finalizeFailure table payload entries text) =
      ((if succeeded run.fails then some (AttemptTokens.mk tokens 0) else none).elim 0
        AttemptTokens.total : Nat) := by
  have vacuous : ∀ entry ∈ ([] : List ExecutionCost), entry.operation = .verification := by simp
  have total := accounted.finalizeFailure priced vacuous
  rw [List.append_nil] at total
  rw [total]
  split <;> simp [totalTokens, AttemptTokens.total]

/-- What is settled is what is reported. -/
theorem reportedUsage?_eq : run.reportedUsage? table payload = run.reports? table payload := by
  unfold reportedUsage? reports?
  split
  next usage answered =>
    by_cases priced : isPriced table payload.provider payload.model = true
    · obtain ⟨entry, built, -⟩ := payload.reportedEntry_of_priced priced usage
      simp [built, priced]
    · obtain ⟨failure, missing⟩ := payload.reportedEntry_of_unpriced priced usage
      simp [missing, priced]
  next => rfl

/-- Where a usage is reported and rows are stored, the primary one holds this usage. -/
theorem primary_of_reports {usage : ProviderUsage} (reported : run.reports? table payload = some usage)
    {settled : Bool} {stored : AttemptTokens}
    (stores : run.storedTokens? table payload settled = some stored) :
    stored.primary = usage.totalTokens := by
  have primary : run.primaryTokens payload = usage.totalTokens := by
    unfold reports? at reported
    split at reported
    next other answered =>
      split at reported
      next streamed =>
        cases reported
        simp only [primaryTokens, streamed.1, answered, if_true]
      next => cases reported
    next => cases reported
  have written {verification : Nat} {answer : Except PersistenceError Bool}
      (writes : run.writtenTokens? table payload verification answer = some stored) :
      stored.primary = run.primaryTokens payload := by
    unfold writtenTokens? at writes
    split at writes <;> cases writes
    rfl
  rw [← primary]
  unfold storedTokens? at stores
  cases verified : (run.streamedText? payload settled).bind (run.verifierTokens? table payload) with
  | none =>
    rw [verified] at stores
    exact written stores
  | some verification =>
    rw [verified] at stores
    exact written stores

/-- The rows of an attempt hold the tokens that its inputs say. -/
theorem totalTokens_recordedEntries (settled : Bool) :
    totalTokens (run.recordedEntries table payload settled) =
      ((run.storedTokens? table payload settled).elim 0 AttemptTokens.total : Nat) := by
  by_cases priced : isPriced table payload.provider payload.model = true
  · have finished {text : String} {entries : List ExecutionCost} (uses : payload.stream = true)
        (accounted : Accounted run text entries (run.primaryTokens payload))
        (ended : run.streamedText? payload settled = if run.interrupted = false then some text else none) :
        totalTokens (run.finishStream table payload text entries) =
          ((run.storedTokens? table payload settled).elim 0 AttemptTokens.total : Nat) := by
      rw [accounted.finishStream priced, storedTokens?, ended]
      split
      · by_cases writes : succeeded run.fails = true <;> simp [writtenTokens?, priced, writes, AttemptTokens.total]
      · by_cases writes : succeeded (if run.interruptedLater then run.fails else run.completes) = true <;>
          simp [writtenTokens?, priced, writes, AttemptTokens.total]
    have failed {text : String} {entries : List ExecutionCost}
        (accounted : Accounted run text entries (run.primaryTokens payload))
        (broken : run.streamedText? payload settled = none) :
        totalTokens (run.finalizeFailure table payload entries text) =
          ((run.storedTokens? table payload settled).elim 0 AttemptTokens.total : Nat) := by
      rw [accounted.failed priced, storedTokens?, broken]
      simp [writtenTokens?, priced]
    unfold recordedEntries
    cases uses : payload.stream with
    | false =>
      have accounted : Accounted run "" [] (run.primaryTokens payload) := by
        rw [primaryTokens, uses, if_neg Bool.false_ne_true]
        exact .estimated
      have broken : run.streamedText? payload settled = none := by
        unfold streamedText?
        split <;> simp [uses]
      rw [if_neg Bool.false_ne_true, response]
      exact failed accounted broken
    | true =>
      rw [if_pos rfl, streamed]
      cases answered : run.primary with
      | failed content =>
        have accounted : Accounted run content [] (run.primaryTokens payload) := by
          simp only [primaryTokens, uses, answered, if_true]
          exact .estimated
        exact failed accounted (by simp [streamedText?, answered])
      | completed text usage =>
        cases usage with
        | none =>
          have accounted : Accounted run text [] (run.primaryTokens payload) := by
            simp only [primaryTokens, uses, answered, if_true]
            exact .estimated
          exact finished uses accounted (by simp [streamedText?, answered, uses])
        | some usage =>
          obtain ⟨entry, built, operation, total⟩ := payload.reportedEntry_of_priced priced usage
          have accounted : Accounted run text [entry] (run.primaryTokens payload) := by
            simp only [primaryTokens, uses, answered, if_true]
            exact .reported operation total
          dsimp only
          rw [built]
          dsimp only
          cases settled with
          | true => exact finished uses accounted (by simp [streamedText?, answered, uses])
          | false => exact failed accounted (by simp [streamedText?, answered])
  · rw [recordedEntries_of_unpriced priced, storedTokens?_of_unpriced priced]
    rfl

/-- A settled stream that is verified and completed stores tokens beside the reported ones. -/
theorem storedTokens?_verified {usage : ProviderUsage} {text : String} {answer : VerifierAnswer}
    (reported : run.reports? table payload = some usage) (answered : run.primary = .completed text (some usage))
    (verify : payload.verify = true) (verified : run.verification = some answer)
    (output : 0 < answer.output.length) (priced : isPriced table answer.provider answer.model = true)
    (uninterrupted : run.interrupted = false) (uninterruptedLater : run.interruptedLater = false)
    (completes : run.completes = .ok true) :
    ∃ verification, 0 < verification ∧
      run.storedTokens? table payload true = some ⟨usage.totalTokens, verification⟩ := by
  have listed : payload.stream = true ∧ isPriced table payload.provider payload.model = true := by
    rw [reports?, answered] at reported
    dsimp only at reported
    split at reported
    next listed => exact listed
    next => cases reported
  refine ⟨_, @exchangedTokens_pos (buildVerificationMessages payload.prompt text)
    (some VERIFICATION_SYSTEM_PROMPT) _ output, ?_⟩
  simp [storedTokens?, streamedText?, verifierTokens?, writtenTokens?, primaryTokens, answered, listed,
    verify, verified, priced, uninterrupted, uninterruptedLater, completes, succeeded]

end CompletionRun

end Recorded

end Eiraos
