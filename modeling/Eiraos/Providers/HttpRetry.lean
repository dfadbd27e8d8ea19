import Eiraos.Providers.Completions
import Eiraos.Foundations.AttemptLoop
import Eiraos.Foundations.PythonFloat
import Mathlib.Tactic.Positivity

/-! # The retried requests of the completions (`application/providers/http.py`)

`post_with_retry` over whatever the upstream, the clock and the event loop do at each attempt.
-/

namespace Eiraos

open AttemptLoop PythonText

/-! ## What may happen at an await -/

/-- Who cancels a task: the deadline of `asyncio.wait_for`, or anyone else. -/
inductive Canceller where
  | deadline
  | other
  deriving DecidableEq, Repr

/-- An exception on its way through a provider call. -/
inductive CallFailure where
  /-- One of `TRANSIENT_EXCEPTIONS`. -/
  | transient
  /-- Any other `httpx.HTTPError`. -/
  | http
  | adapter (failure : AdapterFailure)
  | cancelled (canceller : Canceller)
  | timeout
  /-- Any other `Exception`. -/
  | exception (text : String)
  deriving DecidableEq, Repr

/-- A response, with its `Retry-After` header. -/
structure HttpResponse where
  status : Nat
  retryAfter : Option String
  body : List UInt8
  deriving DecidableEq, Repr

/-- What the awaits of one attempt come to, and the seconds until a date that is read then. -/
structure Exchange where
  post : Except CallFailure HttpResponse
  aclose : Except CallFailure Unit
  sleep : Except CallFailure Unit
  /-- `none` where `parsedate_to_datetime` raises. -/
  secondsUntil : String → Option ℚ

/-! ## The delay -/

/-- `retry_delay`; `float` is `none` where it raises a `ValueError`. -/
def retryDelay (float : String → Option PythonFloat) (secondsUntil : String → Option ℚ)
    (response : Option HttpResponse) (fallback maximum : ℚ) : PythonFloat :=
  match response with
  | none => .min (.finite fallback) (.finite maximum)
  | some response =>
    let value := strip (response.retryAfter.getD "")
    if value = "" then .min (.finite fallback) (.finite maximum)
    else
      let seconds := (float value).getD (.finite ((secondsUntil value).getD fallback))
      .min (.max (.finite 0) seconds) (.finite maximum)

/-- Whatever the header says, the delay is between nothing and the cap. -/
theorem retryDelay_bounded {float : String → Option PythonFloat} {secondsUntil : String → Option ℚ}
    {response : Option HttpResponse} {fallback maximum : ℚ} (fallbackNonneg : 0 ≤ fallback)
    (maximumNonneg : 0 ≤ maximum) :
    ∃ seconds, retryDelay float secondsUntil response fallback maximum = .finite seconds ∧
      0 ≤ seconds ∧ seconds ≤ maximum := by
  have smaller : ∃ seconds, PythonFloat.min (.finite fallback) (.finite maximum) = .finite seconds ∧
      0 ≤ seconds ∧ seconds ≤ maximum := by
    refine ⟨_, PythonFloat.min_finite fallback maximum, ?_⟩
    split
    · exact ⟨maximumNonneg, le_rfl⟩
    next above => exact ⟨fallbackNonneg, not_lt.mp above⟩
  cases response with
  | none => exact smaller
  | some response =>
    simp only [retryDelay]
    split
    · exact smaller
    · exact PythonFloat.clamped maximumNonneg _

/-! ## The requests -/

def TRANSIENT_STATUSES : List Nat := [429, 502, 503, 504]

structure RetrySettings where
  maxAttempts : Int
  backoffSeconds : ℚ
  maxRetryAfterSeconds : ℚ
  deriving DecidableEq, Repr

inductive RetryEvent where
  | posted (attempt : Nat)
  | closed (attempt : Nat)
  /-- `provider_http_retry` in the log. -/
  | warned (attempt : Nat) (status : Option Nat) (delay : PythonFloat)
  | slept (attempt : Nat) (delay : PythonFloat)
  deriving DecidableEq, Repr

def RetryEvent.posted? : RetryEvent → Option Nat
  | .posted attempt => some attempt
  | _ => none

/-- A post or a pause, with the attempt it belongs to. -/
inductive Pace where
  | post (attempt : Nat)
  | pause (attempt : Nat)
  deriving DecidableEq, Repr

def RetryEvent.pace? : RetryEvent → Option Pace
  | .posted attempt => some (.post attempt)
  | .slept attempt _ => some (.pause attempt)
  | _ => none

abbrev RetryAttempt := Attempt RetryEvent (Except CallFailure HttpResponse)

section

variable (float : String → Option PythonFloat) (settings : RetrySettings) (exchange : Nat → Exchange)

def delayAfter (attempt : Nat) (response : Option HttpResponse) : PythonFloat :=
  retryDelay float (exchange attempt).secondsUntil response
    (settings.backoffSeconds * 2 ^ (attempt - 1)) settings.maxRetryAfterSeconds

/-- A response that is not kept is closed. -/
def closeResponse (attempt : Nat) : Option HttpResponse → Except CallFailure (List RetryEvent)
  | none => .ok []
  | some _ => (exchange attempt).aclose.map fun _ => [.closed attempt]

/-- The rest of an attempt after a transient failure. -/
def pauseAttempt (attempt : Nat) (response : Option HttpResponse) : RetryAttempt :=
  let delay := delayAfter float settings exchange attempt response
  match closeResponse exchange attempt response with
  | .error failure => ⟨[.posted attempt], some (.error failure)⟩
  | .ok closed =>
    let events := .posted attempt :: closed ++ [.warned attempt (response.map HttpResponse.status) delay]
    match (exchange attempt).sleep with
    | .error failure => ⟨events, some (.error failure)⟩
    | .ok _ => ⟨events ++ [.slept attempt delay], none⟩

/-- The body of the loop. -/
def postAttempt (attempt : Nat) : RetryAttempt :=
  match (exchange attempt).post with
  | .error failure =>
    if failure = .transient ∧ attempt < settings.maxAttempts then
      pauseAttempt float settings exchange attempt none
    else ⟨[.posted attempt], some (.error failure)⟩
  | .ok response =>
    if response.status ∈ TRANSIENT_STATUSES ∧ attempt < settings.maxAttempts then
      pauseAttempt float settings exchange attempt (some response)
    else ⟨[.posted attempt], some (.ok response)⟩

def postWithRetry : List RetryEvent × Except CallFailure HttpResponse :=
  if ¬ (1 ≤ settings.maxAttempts ∧ settings.maxAttempts ≤ 3) then
    ([], .error (.exception "provider HTTP attempts must be between 1 and 3"))
  else if settings.backoffSeconds < 0 ∨ settings.maxRetryAfterSeconds < 0 then
    ([], .error (.exception "provider retry delays must be non-negative"))
  else
    loop (postAttempt float settings exchange) (.error (.exception "provider retry loop exhausted"))
      1 settings.maxAttempts.toNat

end

/-! ## What an attempt may do -/

/-- The post ends in a failure that is worth another attempt. -/
def Exchange.Transient (exchange : Exchange) : Prop :=
  exchange.post = .error .transient ∨
    ∃ response, exchange.post = .ok response ∧ response.status ∈ TRANSIENT_STATUSES

/-- One of the awaits ends in this failure. -/
def Exchange.Raises (exchange : Exchange) (failure : CallFailure) : Prop :=
  exchange.post = .error failure ∨ exchange.aclose = .error failure ∨ exchange.sleep = .error failure

/-- A response is closed, unless the attempt returns it or fails to close it. -/
def Disposed (exchange : Exchange) (attempt : Nat) (events : List RetryEvent)
    (result : Option (Except CallFailure HttpResponse)) : Prop :=
  ∀ response, exchange.post = .ok response →
    .closed attempt ∈ events ∨ result = some (.ok response) ∨
      ∃ failure, exchange.aclose = .error failure ∧ result = some (.error failure)

section

variable {float : String → Option PythonFloat} {settings : RetrySettings} {exchange : Nat → Exchange}

/-- What one attempt does. -/
structure AttemptContract (settings : RetrySettings) (exchange : Exchange) (number : Nat)
    (attempt : RetryAttempt) : Prop where
  posts : attempt.events.filterMap RetryEvent.posted? = [number]
  paces : attempt.events.filterMap RetryEvent.pace? =
    if attempt.result = none then [.post number, .pause number] else [.post number]
  disposed : Disposed exchange number attempt.events attempt.result
  delays : ∀ slept delay, .slept slept delay ∈ attempt.events →
    ∃ seconds, delay = .finite seconds ∧ 0 ≤ seconds ∧ seconds ≤ settings.maxRetryAfterSeconds
  again : attempt.result = none → exchange.Transient ∧ number < settings.maxAttempts
  answered : ∀ response, attempt.result = some (.ok response) →
    exchange.post = .ok response ∧ (exchange.Transient → settings.maxAttempts ≤ number)
  failed : ∀ failure, attempt.result = some (.error failure) → exchange.Raises failure

theorem delayAfter_bounded (backoff : 0 ≤ settings.backoffSeconds) (cap : 0 ≤ settings.maxRetryAfterSeconds)
    (attempt : Nat) (response : Option HttpResponse) :
    ∃ seconds, delayAfter float settings exchange attempt response = .finite seconds ∧
      0 ≤ seconds ∧ seconds ≤ settings.maxRetryAfterSeconds :=
  retryDelay_bounded (by positivity) cap

theorem closeResponse_eq_error {attempt : Nat} {response : Option HttpResponse} {failure : CallFailure}
    (failed : closeResponse exchange attempt response = .error failure) :
    (exchange attempt).aclose = .error failure := by
  cases response with
  | none => simp [closeResponse] at failed
  | some response =>
    cases closing : (exchange attempt).aclose with
    | error raised => simpa [closeResponse, closing, Except.map] using failed
    | ok => simp [closeResponse, closing, Except.map] at failed

theorem closeResponse_eq_ok {attempt : Nat} {response : Option HttpResponse} {closed : List RetryEvent}
    (done : closeResponse exchange attempt response = .ok closed) :
    closed = response.toList.map fun _ => .closed attempt := by
  cases response with
  | none => simpa [closeResponse] using done.symm
  | some response =>
    cases closing : (exchange attempt).aclose with
    | error raised => simp [closeResponse, closing, Except.map] at done
    | ok => simpa [closeResponse, closing, Except.map] using done.symm

/-- A pause closes the response it is given, and asks for another attempt once it has slept. -/
theorem pauseAttempt_contract (backoff : 0 ≤ settings.backoffSeconds)
    (cap : 0 ≤ settings.maxRetryAfterSeconds) {attempt : Nat} {response : Option HttpResponse}
    (transient : (exchange attempt).Transient) (left : attempt < settings.maxAttempts)
    (held : ∀ received, (exchange attempt).post = .ok received → response = some received) :
    AttemptContract settings (exchange attempt) attempt
      (pauseAttempt float settings exchange attempt response) := by
  have bounded := @delayAfter_bounded float settings exchange backoff cap attempt response
  cases closing : closeResponse exchange attempt response with
  | error failure =>
    have raised := closeResponse_eq_error closing
    simp only [pauseAttempt, closing]
    exact {
      posts := rfl
      disposed := fun _ _ => .inr (.inr ⟨failure, raised, rfl⟩)
      paces := rfl
      delays := by simp
      again := by simp
      answered := by simp
      failed := fun other same => by
        cases same
        exact .inr (.inl raised) }
  | ok closed =>
    have closes := closeResponse_eq_ok closing
    have disposed : ∀ received, (exchange attempt).post = .ok received → .closed attempt ∈ closed := by
      intro received posted
      simp [closes, held received posted]
    have silent : closed.filterMap RetryEvent.posted? = [] := by
      cases response <;> simp [closes, RetryEvent.posted?]
    have idle : closed.filterMap RetryEvent.pace? = [] := by
      cases response <;> simp [closes, RetryEvent.pace?]
    have awake : ∀ slept delay, .slept slept delay ∉ closed := by
      intro slept delay
      simp [closes]
    cases sleeping : (exchange attempt).sleep with
    | error failure =>
      simp only [pauseAttempt, closing, sleeping]
      exact {
        posts := by simp [silent, RetryEvent.posted?]
        paces := by
          rw [List.filterMap_append, List.filterMap_cons, idle]
          rfl
        disposed := fun received posted => .inl (by simp [disposed received posted])
        delays := by simp [awake]
        again := by simp
        answered := by simp
        failed := fun other same => by
          cases same
          exact .inr (.inr sleeping) }
    | ok =>
      simp only [pauseAttempt, closing, sleeping]
      exact {
        posts := by simp [silent, RetryEvent.posted?]
        paces := by
          rw [List.filterMap_append, List.filterMap_append, List.filterMap_cons, idle]
          rfl
        disposed := fun received posted => .inl (by simp [disposed received posted])
        delays := by
          intro slept delay member
          have same : slept = attempt ∧ delay = delayAfter float settings exchange attempt response := by
            simpa [awake] using member
          exact same.2 ▸ bounded
        again := fun _ => ⟨transient, left⟩
        answered := by simp
        failed := by simp }

theorem postAttempt_contract (backoff : 0 ≤ settings.backoffSeconds)
    (cap : 0 ≤ settings.maxRetryAfterSeconds) (attempt : Nat) :
    AttemptContract settings (exchange attempt) attempt (postAttempt float settings exchange attempt) := by
  cases posted : (exchange attempt).post with
  | error failure =>
    simp only [postAttempt, posted]
    split
    next again =>
      refine pauseAttempt_contract backoff cap (.inl ?_) again.2 ?_
      · rw [posted, again.1]
      · simp [posted]
    · exact {
        posts := rfl
        disposed := by simp [Disposed, posted]
        paces := rfl
        delays := by simp
        again := by simp
        answered := by simp
        failed := fun other same => by
          cases same
          exact .inl posted }
  | ok response =>
    simp only [postAttempt, posted]
    split
    next again =>
      refine pauseAttempt_contract backoff cap (.inr ⟨response, posted, again.1⟩) again.2 ?_
      intro received same
      rw [posted] at same
      cases same
      rfl
    next final =>
      exact {
        posts := rfl
        disposed := by simp [Disposed, posted]
        paces := rfl
        delays := by simp
        again := by simp
        answered := fun received same => by
          cases same
          refine ⟨posted, fun transient => ?_⟩
          obtain failing | ⟨received, same, status⟩ := transient
          · simp [posted] at failing
          · rw [posted] at same
            cases same
            exact not_lt.mp fun below => final ⟨status, below⟩
        failed := by simp }

/-! ## What the whole call may do -/

structure RetrySettings.Valid (settings : RetrySettings) : Prop where
  attempts : 1 ≤ settings.maxAttempts ∧ settings.maxAttempts ≤ 3
  backoff : 0 ≤ settings.backoffSeconds
  cap : 0 ≤ settings.maxRetryAfterSeconds

theorem postWithRetry_of_valid (valid : settings.Valid) :
    postWithRetry float settings exchange =
      loop (postAttempt float settings exchange) (.error (.exception "provider retry loop exhausted"))
        1 settings.maxAttempts.toNat := by
  have nonneg : ¬ (settings.backoffSeconds < 0 ∨ settings.maxRetryAfterSeconds < 0) := by
    simp [valid.backoff, valid.cap]
  rw [postWithRetry, if_neg (not_not.mpr valid.attempts), if_neg nonneg]

theorem postWithRetry_of_not_valid (invalid : ¬ settings.Valid) :
    ∃ text, postWithRetry float settings exchange = ([], .error (.exception text)) := by
  unfold postWithRetry
  split
  · exact ⟨_, rfl⟩
  next attempts =>
    split
    · exact ⟨_, rfl⟩
    next nonneg =>
      simp only [not_or, not_lt] at nonneg
      exact absurd ⟨not_not.mp attempts, nonneg.1, nonneg.2⟩ invalid

/-- `last` posts were made, one after the other. -/
structure RetriedPosts (settings : RetrySettings) (exchange : Nat → Exchange) (last : Nat)
    (events : List RetryEvent) (result : Except CallFailure HttpResponse) : Prop where
  made : 1 ≤ last ∧ last ≤ settings.maxAttempts ∧ last ≤ 3
  posts : events.filterMap RetryEvent.posted? = List.range' 1 last
  /-- After each post but the last there was one pause. -/
  paces : events.filterMap RetryEvent.pace? =
    (List.range' 1 (last - 1)).flatMap (fun attempt => [.post attempt, .pause attempt]) ++ [.post last]
  delays : ∀ slept delay, .slept slept delay ∈ events →
    ∃ seconds, delay = .finite seconds ∧ 0 ≤ seconds ∧ seconds ≤ settings.maxRetryAfterSeconds
  retried : ∀ attempt, 1 ≤ attempt → attempt < last → (exchange attempt).Transient
  disposed : ∀ attempt, 1 ≤ attempt → attempt ≤ last →
    Disposed (exchange attempt) attempt events (if attempt = last then some result else none)
  answered : ∀ response, result = .ok response →
    (exchange last).post = .ok response ∧ ((exchange last).Transient → settings.maxAttempts = last)
  failed : ∀ failure, result = .error failure → (exchange last).Raises failure

/-- A call with valid settings makes some number of posts and keeps to the contract. -/
theorem retriedPosts_of_valid (valid : settings.Valid) :
    ∃ last, RetriedPosts settings exchange last (postWithRetry float settings exchange).1
      (postWithRetry float settings exchange).2 := by
  have contract := @postAttempt_contract float settings exchange valid.backoff valid.cap
  obtain ⟨positive, atMost⟩ := valid.attempts
  obtain ⟨left, attempts⟩ : ∃ left : Nat, settings.maxAttempts.toNat = left + 1 :=
    ⟨settings.maxAttempts.toNat - 1, by omega⟩
  -- The last attempt allowed asks for no other one.
  have ends : (postAttempt float settings exchange (1 + left)).result ≠ none := by
    intro again
    have := ((contract (1 + left)).again again).2
    omega
  rw [postWithRetry_of_valid valid, attempts]
  obtain ⟨before, bound, again, done, events⟩ := @loop_ends _ _ (postAttempt float settings exchange)
    (.error (.exception "provider retry loop exhausted")) 1 left ends
  have last := contract (1 + before)
  have numbers : List.range' 1 (1 + before) = List.range' 1 before ++ [1 + before] := by
    rw [Nat.add_comm 1 before, List.range'_concat]
    simp [Nat.add_comm]
  have asked : ∀ k, 1 ≤ k → k < 1 + before → (postAttempt float settings exchange k).result = none := by
    intro k above below
    simpa [Nat.add_sub_cancel' above] using again (k - 1) (by omega)
  refine ⟨1 + before, ?_⟩
  rw [events]
  generalize (loop (postAttempt float settings exchange) _ 1 (left + 1)).2 = result at done
  exact {
    made := by omega
    posts := by
      rw [List.filterMap_append, last.posts, numbers, tags_of_attempts 1 before fun k _ _ => (contract k).posts,
        List.flatMap_singleton']
    paces := by
      rw [List.filterMap_append, last.paces, done, if_neg (Option.some_ne_none _), Nat.add_sub_cancel_left,
        tags_of_attempts 1 before fun k above below => by
          rw [(contract k).paces, if_pos (asked k above below)]]
    delays := by
      intro slept delay member
      rw [List.mem_append, List.mem_flatMap] at member
      obtain ⟨k, _, member⟩ | member := member
      · exact (contract k).delays slept delay member
      · exact last.delays slept delay member
    retried := by
      intro attempt above below
      exact ((contract attempt).again (asked attempt above below)).1
    disposed := by
      intro attempt above below response posted
      by_cases isLast : attempt = 1 + before
      · subst isLast
        rw [if_pos rfl, ← done]
        exact (last.disposed response posted).imp_left (List.mem_append_right _)
      · have early := asked attempt above (by omega)
        obtain closed | returned | ⟨failure, _, raised⟩ := (contract attempt).disposed response posted
        · left
          refine List.mem_append_left _ (List.mem_flatMap.mpr ⟨attempt, ?_, closed⟩)
          simp only [List.mem_range'_1]
          omega
        · simp [early] at returned
        · simp [early] at raised
    answered := by
      intro response same
      obtain ⟨posted, final⟩ := last.answered response (by rw [done, same])
      refine ⟨posted, fun transient => ?_⟩
      have := final transient
      omega
    failed := fun failure same => last.failed failure (by rw [done, same]) }

/-- Whatever the upstream answers, however the clock reads and wherever the call is cut short: valid
settings make posts that keep to the contract, and others make none. -/
theorem posts_retried (float : String → Option PythonFloat) (settings : RetrySettings)
    (exchange : Nat → Exchange) :
    (settings.Valid → ∃ last, RetriedPosts settings exchange last
      (postWithRetry float settings exchange).1 (postWithRetry float settings exchange).2) ∧
    (¬ settings.Valid →
      ∃ text, postWithRetry float settings exchange = ([], .error (.exception text))) :=
  ⟨retriedPosts_of_valid, postWithRetry_of_not_valid⟩

end

end Eiraos
