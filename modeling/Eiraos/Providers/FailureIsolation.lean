import Eiraos.Providers.HttpRetry
import Eiraos.Providers.Requests

/-! # Isolated provider calls (`application/provider_failure_isolation.py`, `chat_recovery.py`)

A completion from the policy check of `governed.py` to the failure that may cross into the
orchestration, over everything the upstream and the event loop do.
-/

namespace Eiraos

open PythonText

/-! ## The adapters and the governed provider -/

/-- The name an adapter gives to `upstream_failure`. -/
def Adapter.upstreamName : Adapter → String
  | .openAI => "OpenAI"
  | .anthropic => "Anthropic"
  | .gemini => "Gemini"

/-- `except httpx.HTTPError as exc: raise upstream_failure(name, exc)`. -/
def upstreamRaised (name : String) : CallFailure → CallFailure
  | .transient | .http => .adapter (.eiraos (upstreamFailure name none))
  | .adapter (.httpStatus status) => .adapter (.eiraos (upstreamFailure name (some status)))
  | failure => failure

/-- What one call meets: the attempts, and the way out of `async with` the client. -/
structure Upstream where
  float : String → Option PythonFloat
  settings : RetrySettings
  exchange : Nat → Exchange
  leave : Except CallFailure Unit

/-- What a call did, the requests it posted, and how it ends. -/
structure ProviderCall (Failure Value : Type) where
  events : List RetryEvent
  posts : List ProviderRequest
  outcome : Except Failure Value

section

variable {Value : Type}

/-- The `try` block of `complete` and of `complete_with_usage`; `decode` reads the response. -/
def adapterCall (upstream : Upstream) (adapter : Adapter) (request : ProviderRequest)
    (decode : CompletionResponse → Except AdapterFailure Value) : ProviderCall CallFailure Value :=
  let posted := postWithRetry upstream.float upstream.settings upstream.exchange
  let body := posted.2.bind fun response => (decode ⟨response.status, response.body⟩).mapError .adapter
  let left := match upstream.leave with
    | .ok _ => body
    | .error failure => .error failure
  ⟨posted.1, (posted.1.filterMap RetryEvent.posted?).map fun _ => request,
    left.mapError (upstreamRaised adapter.upstreamName)⟩

/-- What the policy raises. -/
def ProviderError.raised : ProviderError → CallFailure
  | .http _ detail => .exception detail
  | .valueError text | .costAccountingUnavailable text => .exception text

/-- `GovernedAIProvider.complete` and `complete_with_usage`: `call` gets the authorized model. -/
def GovernedAIProvider.authorized (governed : GovernedAIProvider) (table : CaseTable)
    (environment : Environment) (model : String) (call : String → ProviderCall CallFailure Value) :
    ProviderCall CallFailure Value :=
  match authorizeProviderModel table environment governed.providerName model with
  | .error error => ⟨[], [], .error error.raised⟩
  | .ok (providerName, authorizedModel) =>
    if providerName = governed.providerName then call authorizedModel
    else ⟨[], [], .error (.exception "Provider policy normalization mismatch")⟩

def GovernedAIProvider.completeWithUsage (governed : GovernedAIProvider) (table : CaseTable)
    (environment : Environment) (json : BodyDecoder) (upstream : Upstream) (arguments : CallArguments) :
    ProviderCall CallFailure ProviderCompletion :=
  governed.authorized table environment arguments.model fun authorizedModel =>
    adapterCall upstream governed.provider
      (governed.provider.request governed.apiKey .completeWithUsage { arguments with model := authorizedModel })
      (governed.provider.completeWithUsage json)

/-! ## The boundary -/

inductive ProviderFailureKind where
  | timeout
  | upstream
  | invalidResponse
  | internal
  deriving DecidableEq, Repr

/-- What `execute` may raise: a `CancelledError` or an `IsolatedProviderFailure`. -/
inductive Escape where
  | cancelled (canceller : Canceller)
  | isolated (kind : ProviderFailureKind)
  deriving DecidableEq, Repr

/-- `asyncio.wait_for`: the cancellation by its own deadline becomes a `TimeoutError`. -/
def waitFor : CallFailure → CallFailure
  | .cancelled .deadline => .timeout
  | failure => failure

def providerWithTimeout (call : ProviderCall CallFailure Value) (timeoutSeconds : ℚ) :
    ProviderCall CallFailure Value :=
  if timeoutSeconds ≤ 0 then ⟨[], [], .error (.exception "provider timeout must be positive")⟩
  else ⟨call.events, call.posts, call.outcome.mapError waitFor⟩

/-- The `except` clauses of `execute`. -/
def isolate : CallFailure → Escape
  | .cancelled canceller => .cancelled canceller
  | .timeout => .isolated .timeout
  | .adapter (.eiraos _) => .isolated .upstream
  | _ => .isolated .internal

def requireText (text : String) : Except Escape String :=
  if text = "" then .error (.isolated .invalidResponse) else .ok text

/-- `ProviderFailureIsolation.execute`. -/
def execute {Result : Type} (call : ProviderCall CallFailure Value) (timeoutSeconds : ℚ)
    (validate : Value → Except Escape Result) : ProviderCall Escape Result :=
  let answered := providerWithTimeout call timeoutSeconds
  ⟨answered.events, answered.posts, (answered.outcome.mapError isolate).bind validate⟩

end

/-- The primary call of a plain response. -/
def isolatedCompletion (governed : GovernedAIProvider) (table : CaseTable) (environment : Environment)
    (json : BodyDecoder) (upstream : Upstream) (arguments : CallArguments) (timeoutSeconds : ℚ) :
    ProviderCall Escape String :=
  execute (governed.completeWithUsage table environment json upstream arguments) timeoutSeconds
    fun completion => requireText completion.text

/-! ## What crosses the boundary -/

/-- An await of the last of the posts, or the way out of the client, ends in this failure. -/
def Upstream.Meets (upstream : Upstream) (posts : List ProviderRequest) (failure : CallFailure) : Prop :=
  posts ≠ [] ∧ (upstream.exchange posts.length).Raises failure ∨ upstream.leave = .error failure

/-- The last of the posts was answered by this response, which is kept: it is the last one allowed, or
none that is worth another attempt. -/
structure Upstream.Keeps (upstream : Upstream) (posts : List ProviderRequest) (response : HttpResponse) : Prop where
  posted : posts ≠ []
  answered : (upstream.exchange posts.length).post = .ok response
  final : (upstream.exchange posts.length).Transient → upstream.settings.maxAttempts = posts.length

/-- What becomes of a failure on its way out. -/
def crossing (adapter : Adapter) (failure : CallFailure) : Escape :=
  isolate (waitFor (upstreamRaised adapter.upstreamName failure))

section

variable {Value : Type} {governed : GovernedAIProvider} {table : CaseTable} {environment : Environment}
  {upstream : Upstream} {adapter : Adapter} {request : ProviderRequest}
  {decode : CompletionResponse → Except AdapterFailure Value}

/-- How a call of an adapter that made these posts may end. -/
inductive AdapterEnding (upstream : Upstream) (adapter : Adapter)
    (decode : CompletionResponse → Except AdapterFailure Value) (posts : List ProviderRequest) :
    Except CallFailure Value → Prop where
  | answered {response : HttpResponse} {value : Value} (kept : upstream.Keeps posts response)
      (decoded : decode ⟨response.status, response.body⟩ = .ok value) :
      AdapterEnding upstream adapter decode posts (.ok value)
  | undecoded {response : HttpResponse} {failure : AdapterFailure} (kept : upstream.Keeps posts response)
      (decoded : decode ⟨response.status, response.body⟩ = .error failure) :
      AdapterEnding upstream adapter decode posts (.error (upstreamRaised adapter.upstreamName (.adapter failure)))
  | met {failure : CallFailure} (met : upstream.Meets posts failure) :
      AdapterEnding upstream adapter decode posts (.error (upstreamRaised adapter.upstreamName failure))
  | misconfigured (invalid : ¬ upstream.settings.Valid) (text : String) :
      AdapterEnding upstream adapter decode posts (.error (.exception text))

/-- With valid settings a call has made some number of posts. -/
theorem adapterCall_retried (valid : upstream.settings.Valid) :
    (adapterCall upstream adapter request decode).posts ≠ [] ∧
      RetriedPosts upstream.settings upstream.exchange (adapterCall upstream adapter request decode).posts.length
        (postWithRetry upstream.float upstream.settings upstream.exchange).1
        (postWithRetry upstream.float upstream.settings upstream.exchange).2 := by
  obtain ⟨last, contract⟩ := @retriedPosts_of_valid upstream.float _ upstream.exchange valid
  have number : (adapterCall upstream adapter request decode).posts.length = last := by
    rw [adapterCall, List.length_map, contract.posts, List.length_range']
  rw [number]
  refine ⟨fun silent => ?_, contract⟩
  have positive := contract.made.1
  rw [silent, List.length_nil] at number
  omega

theorem adapterCall_ending :
    AdapterEnding upstream adapter decode (adapterCall upstream adapter request decode).posts
      (adapterCall upstream adapter request decode).outcome := by
  cases leaving : upstream.leave with
  | error failure =>
    have outcome : (adapterCall upstream adapter request decode).outcome =
        .error (upstreamRaised adapter.upstreamName failure) := by
      simp only [adapterCall, leaving]
      rfl
    rw [outcome]
    exact .met (.inr leaving)
  | ok =>
    have outcome : (adapterCall upstream adapter request decode).outcome =
        ((postWithRetry upstream.float upstream.settings upstream.exchange).2.bind fun response =>
          (decode ⟨response.status, response.body⟩).mapError .adapter).mapError
            (upstreamRaised adapter.upstreamName) := by
      simp only [adapterCall, leaving]
    rw [outcome]
    by_cases valid : upstream.settings.Valid
    · obtain ⟨posts, contract⟩ := @adapterCall_retried _ upstream adapter request decode valid
      cases posted : (postWithRetry upstream.float upstream.settings upstream.exchange).2 with
      | error failure => exact .met (.inl ⟨posts, contract.failed failure posted⟩)
      | ok response =>
        obtain ⟨answered, final⟩ := contract.answered response posted
        have kept : upstream.Keeps (adapterCall upstream adapter request decode).posts response :=
          ⟨posts, answered, final⟩
        cases decoded : decode ⟨response.status, response.body⟩ with
        | error failure =>
          simp only [Except.bind, decoded]
          exact .undecoded kept decoded
        | ok value =>
          simp only [Except.bind, decoded]
          exact .answered kept decoded
    · obtain ⟨text, rejected⟩ := @postWithRetry_of_not_valid upstream.float _ upstream.exchange valid
      rw [rejected]
      exact .misconfigured valid text

/-- No call posts more than three times, and always the same request. -/
theorem adapterCall_posts :
    (adapterCall upstream adapter request decode).posts.length ≤ 3 ∧
      ∀ posted ∈ (adapterCall upstream adapter request decode).posts, posted = request := by
  refine ⟨?_, by simp [adapterCall]⟩
  by_cases valid : upstream.settings.Valid
  · exact (@adapterCall_retried _ upstream adapter request decode valid).2.made.2.2
  · obtain ⟨text, rejected⟩ := @postWithRetry_of_not_valid upstream.float _ upstream.exchange valid
    simp [adapterCall, rejected]

theorem adapterCall_misconfigured (invalid : ¬ upstream.settings.Valid) :
    (adapterCall upstream adapter request decode).posts = [] := by
  obtain ⟨text, rejected⟩ := @postWithRetry_of_not_valid upstream.float _ upstream.exchange invalid
  simp [adapterCall, rejected]

end

/-! ## The completion behind the boundary -/

/-- Why a call is rejected before its first request: the policy refuses the model, or normalizes the
name of the provider to another one, the timeout is not positive or the settings of the retries are
invalid. -/
inductive Rejected (governed : GovernedAIProvider) (table : CaseTable) (environment : Environment)
    (settings : RetrySettings) (model : String) (timeoutSeconds : ℚ) : Prop where
  | refused {error : ProviderError}
      (policy : authorizeProviderModel table environment governed.providerName model = .error error)
  | renamed {providerName authorizedModel : String}
      (policy : authorizeProviderModel table environment governed.providerName model =
        .ok (providerName, authorizedModel))
      (other : providerName ≠ governed.providerName)
  | untimed (timeout : timeoutSeconds ≤ 0)
  | misconfigured (invalid : ¬ settings.Valid)

/-- What explains an escape: a failure met at the last post or on the way out, a response that cannot
be decoded or has no text, or a cause to reject the call before its first request. -/
inductive Explained (governed : GovernedAIProvider) (table : CaseTable) (environment : Environment)
    (json : BodyDecoder) (upstream : Upstream) (model : String) (timeoutSeconds : ℚ)
    (posts : List ProviderRequest) : Escape → Prop where
  | met {failure : CallFailure} (met : upstream.Meets posts failure) :
      Explained governed table environment json upstream model timeoutSeconds posts
        (crossing governed.provider failure)
  | undecoded {response : HttpResponse} {failure : AdapterFailure} (kept : upstream.Keeps posts response)
      (decoded : governed.provider.completeWithUsage json ⟨response.status, response.body⟩ = .error failure) :
      Explained governed table environment json upstream model timeoutSeconds posts
        (crossing governed.provider (.adapter failure))
  | empty {response : HttpResponse} {completion : ProviderCompletion} (kept : upstream.Keeps posts response)
      (decoded : governed.provider.completeWithUsage json ⟨response.status, response.body⟩ = .ok completion)
      (textless : completion.text = "") :
      Explained governed table environment json upstream model timeoutSeconds posts (.isolated .invalidResponse)
  | rejected (silent : posts = [])
      (cause : Rejected governed table environment upstream.settings model timeoutSeconds) :
      Explained governed table environment json upstream model timeoutSeconds posts (.isolated .internal)

section

variable {governed : GovernedAIProvider} {table : CaseTable} {environment : Environment}
  {json : BodyDecoder} {upstream : Upstream} {arguments : CallArguments} {timeoutSeconds : ℚ}

/-- The call of the adapter behind the policy. -/
def meteredCall (governed : GovernedAIProvider) (json : BodyDecoder) (upstream : Upstream)
    (arguments : CallArguments) : ProviderCall CallFailure ProviderCompletion :=
  adapterCall upstream governed.provider
    (governed.provider.request governed.apiKey .completeWithUsage arguments)
    (governed.provider.completeWithUsage json)

/-- A call is rejected by the policy, or it is the adapter's with the authorized model. -/
theorem completeWithUsage_cases :
    (Rejected governed table environment upstream.settings arguments.model timeoutSeconds ∧
      ∃ text, governed.completeWithUsage table environment json upstream arguments =
        ⟨[], [], .error (.exception text)⟩) ∨
    ∃ authorizedModel,
      authorizeProviderModel table environment governed.providerName arguments.model =
        .ok (governed.providerName, authorizedModel) ∧
      governed.completeWithUsage table environment json upstream arguments =
        meteredCall governed json upstream { arguments with model := authorizedModel } := by
  unfold GovernedAIProvider.completeWithUsage GovernedAIProvider.authorized
  cases authorization : authorizeProviderModel table environment governed.providerName arguments.model with
  | error error => cases error <;> exact .inl ⟨.refused authorization, _, rfl⟩
  | ok authorized =>
    obtain ⟨providerName, authorizedModel⟩ := authorized
    dsimp only
    by_cases same : providerName = governed.providerName
    · rw [if_pos same]
      exact .inr ⟨authorizedModel, by rw [same], rfl⟩
    · rw [if_neg same]
      exact .inl ⟨.renamed authorization same, _, rfl⟩

/-- What leaves the boundary is rejected before its first request, or it is the adapter's ending. -/
theorem isolatedCompletion_cases :
    (Rejected governed table environment upstream.settings arguments.model timeoutSeconds ∧
      (isolatedCompletion governed table environment json upstream arguments timeoutSeconds).posts = [] ∧
      (isolatedCompletion governed table environment json upstream arguments timeoutSeconds).outcome =
        .error (.isolated .internal)) ∨
    ∃ authorizedModel,
      authorizeProviderModel table environment governed.providerName arguments.model =
        .ok (governed.providerName, authorizedModel) ∧
      (isolatedCompletion governed table environment json upstream arguments timeoutSeconds).posts =
        (meteredCall governed json upstream { arguments with model := authorizedModel }).posts ∧
      (isolatedCompletion governed table environment json upstream arguments timeoutSeconds).outcome =
        (((meteredCall governed json upstream { arguments with model := authorizedModel }).outcome.mapError
          waitFor).mapError isolate).bind fun completion => requireText completion.text := by
  rw [isolatedCompletion, execute, providerWithTimeout]
  by_cases late : timeoutSeconds ≤ 0
  · rw [if_pos late]
    exact .inl ⟨.untimed late, rfl, rfl⟩
  · rw [if_neg late]
    obtain ⟨cause, text, rejected⟩ | ⟨authorizedModel, authorized, called⟩ :=
      @completeWithUsage_cases governed table environment json upstream arguments timeoutSeconds
    · rw [rejected]
      exact .inl ⟨cause, rfl, rfl⟩
    · rw [called]
      exact .inr ⟨authorizedModel, authorized, rfl, rfl⟩

/-- A rejected call posts nothing. -/
theorem isolatedCompletion_silent
    (cause : Rejected governed table environment upstream.settings arguments.model timeoutSeconds) :
    (isolatedCompletion governed table environment json upstream arguments timeoutSeconds).posts = [] := by
  obtain ⟨-, silent, -⟩ | ⟨authorizedModel, authorized, posts, -⟩ :=
    @isolatedCompletion_cases governed table environment json upstream arguments timeoutSeconds
  · exact silent
  cases cause with
  | refused policy => cases policy.symm.trans authorized
  | renamed policy other =>
    cases policy.symm.trans authorized
    exact absurd rfl other
  | untimed timeout => rw [isolatedCompletion, execute, providerWithTimeout, if_pos timeout]
  | misconfigured invalid => exact posts.trans (adapterCall_misconfigured invalid)

theorem requireText_eq_ok {text result : String} : requireText text = .ok result ↔ text ≠ "" ∧ text = result := by
  unfold requireText
  split <;> simp_all

theorem requireText_eq_error {text : String} {escape : Escape} :
    requireText text = .error escape ↔ text = "" ∧ .isolated .invalidResponse = escape := by
  unfold requireText
  split <;> simp_all

end

/-- A provider's completion, from the policy to what the orchestration sees of it. -/
theorem isolated_completion_accounted (governed : GovernedAIProvider) (table : CaseTable)
    (environment : Environment) (json : BodyDecoder) (upstream : Upstream) (arguments : CallArguments)
    (timeoutSeconds : ℚ) (turns : Conversational arguments.context) :
    let call := isolatedCompletion governed table environment json upstream arguments timeoutSeconds
    (call.posts.length ≤ 3 ∧ ∀ request ∈ call.posts, ∃ authorizedModel,
      authorizeProviderModel table environment governed.providerName arguments.model =
        .ok (governed.providerName, authorizedModel) ∧
      governed.provider.read request =
        some ⟨authorizedModel, arguments.context.messages, givenPrompt arguments.context.systemPrompt⟩) ∧
    (∀ text, call.outcome = .ok text → text ≠ "" ∧ ∃ response completion,
      upstream.Keeps call.posts response ∧
      governed.provider.completeWithUsage json ⟨response.status, response.body⟩ = .ok completion ∧
      completion.text = text) ∧
    (∀ escape, call.outcome = .error escape →
      Explained governed table environment json upstream arguments.model timeoutSeconds call.posts escape) ∧
    (Rejected governed table environment upstream.settings arguments.model timeoutSeconds → call.posts = []) := by
  intro call
  have rejects : Rejected governed table environment upstream.settings arguments.model timeoutSeconds →
      call.posts = [] := isolatedCompletion_silent
  obtain ⟨cause, -, rejected⟩ | ⟨authorizedModel, authorized, posts, outcome⟩ :=
    @isolatedCompletion_cases governed table environment json upstream arguments timeoutSeconds
  · have outcome : call.outcome = .error (.isolated .internal) := rejected
    refine ⟨by simp [rejects cause], by simp [outcome], fun escape escaped => ?_, rejects⟩
    rw [outcome] at escaped
    cases escaped
    exact .rejected (rejects cause) cause
  · have posts : call.posts = _ := posts
    have outcome : call.outcome = _ := outcome
    obtain ⟨few, same⟩ :
        (meteredCall governed json upstream { arguments with model := authorizedModel }).posts.length ≤ 3 ∧
        ∀ posted ∈ (meteredCall governed json upstream { arguments with model := authorizedModel }).posts,
          posted = governed.provider.request governed.apiKey .completeWithUsage
            { arguments with model := authorizedModel } :=
      adapterCall_posts
    have ending : AdapterEnding upstream governed.provider (governed.provider.completeWithUsage json)
        (meteredCall governed json upstream { arguments with model := authorizedModel }).posts
        (meteredCall governed json upstream { arguments with model := authorizedModel }).outcome :=
      adapterCall_ending
    rw [← posts] at few same ending
    generalize (meteredCall governed json upstream { arguments with model := authorizedModel }).outcome =
      ended at ending outcome
    refine ⟨⟨few, fun request posted => ?_⟩, ?_, ?_, rejects⟩
    · rw [same request posted]
      exact ⟨authorizedModel, authorized,
        @Adapter.read_request { arguments with model := authorizedModel } turns governed.provider
          governed.apiKey .completeWithUsage⟩
    · intro text answered
      rw [outcome] at answered
      cases ending with
      | @answered response completion kept decoded =>
        obtain ⟨written, same⟩ := requireText_eq_ok.mp answered
        exact ⟨same ▸ written, response, completion, kept, decoded, same⟩
      | _ => cases answered
    · intro escape escaped
      rw [outcome] at escaped
      cases ending with
      | answered kept decoded =>
        obtain ⟨textless, rfl⟩ := requireText_eq_error.mp escaped
        exact .empty kept decoded textless
      | undecoded kept decoded =>
        cases escaped
        exact .undecoded kept decoded
      | met met =>
        cases escaped
        exact .met met
      | misconfigured invalid =>
        cases escaped
        exact .rejected (rejects (.misconfigured invalid)) (.misconfigured invalid)

def greetingBody : List UInt8 :=
  "\x7b\"choices\":[\x7b\"message\":\x7b\"content\":\"Goddag\"\x7d\x7d]\x7d".toUTF8.toList

/-- `json.loads` on the one body that is decoded here. -/
def greetingDecoder : BodyDecoder := fun body =>
  if body = greetingBody then
    .ok (.object [("choices", .array [.object [("message", .object [("content", .string "Goddag")])]])])
  else .error .valueError

/-- A first response that asks to wait for a second, and one that is kept. -/
def busyUpstream : Upstream where
  float text := if text = "1" then some (.finite 1) else none
  settings := ⟨2, 1 / 10, 2⟩
  exchange attempt :=
    ⟨.ok (if attempt = 1 then ⟨503, some " 1", []⟩ else ⟨200, none, greetingBody⟩), .ok (), .ok (),
      fun _ => none⟩
  leave := .ok ()

def greetingArguments : CallArguments := ⟨⟨[⟨"user", "Hej"⟩], none⟩, "gpt-4o", .null, 1000⟩

theorem isolated_completion_accounted_busy :
    let call := isolatedCompletion ⟨.openAI, "key", "openai"⟩ (fun _ character _ => [character])
      (fun _ => none) greetingDecoder busyUpstream greetingArguments 60
    call.events = [.posted 1, .closed 1, .warned 1 (some 503) (.finite 1), .slept 1 (.finite 1), .posted 2] ∧
      call.outcome = .ok "Goddag" ∧ ∃ response completion, busyUpstream.Keeps call.posts response ∧
        OpenAI.completeWithUsage greetingDecoder ⟨response.status, response.body⟩ = .ok completion ∧
        completion.text = "Goddag" := by
  intro call
  have answered : call.outcome = .ok "Goddag" := by decide +kernel
  have accounted := isolated_completion_accounted ⟨.openAI, "key", "openai"⟩
    (fun _ character _ => [character]) (fun _ => none) greetingDecoder busyUpstream greetingArguments 60
    (by simp [Conversational, greetingArguments])
  exact ⟨by decide +kernel, answered, (accounted.2.1 "Goddag" answered).2⟩

end Eiraos
