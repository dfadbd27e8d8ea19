import Eiraos.Chat.ExecutionBoundary
import Eiraos.Persistence.Contract
import Eiraos.Usage.Charges
import Eiraos.Usage.ExecutionBudget

/-! # The preflight of one chat request (`api/v1/chat.py`)

The stages of the endpoint up to the first call of a provider, and `fail_preflight`, which
every handler of a failing stage calls.  What the stages get from elsewhere (the
authorization, the idempotency ledger, the tables, the provider and the knowledge base) is
a choice of the environment; between the request's own two scripts other requests change
Redis at will.
-/

namespace Eiraos

open Expiring

inductive PreflightError where
  | budgetExceeded (message : String)
  | budgetUnavailable (message : String)
  | persistence (error : PersistenceError)
  | sqlAlchemyError
  | contextBudgetExceeded
  | httpException (statusCode : Nat) (detail : String)
  | other
  deriving DecidableEq, Repr

structure PreflightFailure where
  statusCode : Nat
  failureCode : FailureCode
  detail : String
  deriving DecidableEq, Repr

/-- The handlers around `boundary.prepare`; a `ValueError` of the contract is not among the
exceptions they name. -/
def PreflightError.handled : PreflightError → PreflightFailure
  | .budgetExceeded _ => ⟨429, .budgetRejected, "Execution budget exceeded."⟩
  | .budgetUnavailable _ => ⟨503, .databaseFailure, "Execution budget unavailable."⟩
  | .persistence (.retryLimitExceeded _) => ⟨409, .retryExhausted, "Execution retry limit was reached."⟩
  | .persistence (.conflict _) => ⟨409, .idempotencyConflict, "Execution recovery was rejected."⟩
  | .persistence (.unavailable _) => ⟨503, .databaseFailure, "Execution persistence is unavailable."⟩
  | .persistence (.valueError _) => ⟨500, .providerFailure, "AI provider could not be initialized."⟩
  | .sqlAlchemyError => ⟨503, .databaseFailure, "Execution database is unavailable."⟩
  | .contextBudgetExceeded =>
    ⟨422, .contextRejected, "Conversation context exceeds the model window."⟩
  | .httpException statusCode detail => ⟨statusCode, .providerFailure, detail⟩
  | .other => ⟨500, .providerFailure, "AI provider could not be initialized."⟩

/-- The local variables of the request, its Redis, and what its own scripts have added to
each counter. -/
structure PreflightState where
  redis : Redis
  budgetedExecution : Option ExecutionReservation
  persistedExecution : Option PersistedChatExecution
  contribution : CounterKey → Int

/-- One request with everything its environment decides. -/
structure PreflightRun where
  userId : Nat
  organizationId : Nat
  prompt : String
  verify : Bool
  userLimit : Option Int
  organizationLimit : Option Int
  authorized : Except PreflightError Unit
  idempotency : Except PreflightError IdempotencyReservation
  executionId : Option String
  persisted : Except PreflightError PersistedChatExecution
  provider : Except PreflightError Unit
  reservedAt : Nat
  failedAt : Nat
  traffic : Redis → Redis

namespace PreflightRun

def initial (redis : Redis) : PreflightState := ⟨redis, none, none, fun _ => 0⟩

/-- The keys after one of the request's own scripts. -/
def wrote (state : PreflightState) (now : Nat) (before after : Redis) : PreflightState :=
  { state with
    redis := after
    contribution := fun counter =>
      state.contribution counter + (after.count now counter - before.count now counter) }

/-- What is asked of the budget, once the execution has an id and both limits are set. -/
def budgetRequest? (run : PreflightRun) : Option BudgetRequest :=
  match run.executionId, run.userLimit, run.organizationLimit with
  | some reservationId, some userLimit, some organizationLimit =>
    some ⟨reservationId, run.userId, run.organizationId, run.prompt, run.verify, userLimit,
      organizationLimit⟩
  | _, _, _ => none

def reserveBudget (run : PreflightRun) : Stage PreflightState PreflightError Unit := fun state =>
  match run.executionId, run.budgetRequest? with
  | none, _ => (state, .error (.persistence (.conflict "execution identity is missing")))
  | some _, none => (state, .error (.budgetUnavailable "Explicit token budget limits are required."))
  | some _, some request =>
    let ending := ExecutionBudget.default.reserve .answering state.redis run.reservedAt request
    let after := wrote state run.reservedAt state.redis ending.1
    match ending.2 with
    | .ok reservation => ({ after with budgetedExecution := some reservation }, .ok ())
    | .error (.denied _) => (after, .error (.budgetExceeded "Token budget exceeded."))
    | .error (.backendUnavailable _) =>
      (after, .error (.budgetUnavailable "Distributed token budget is unavailable."))
    | .error (.valueError _) => (after, .error .other)

def persistRequest (run : PreflightRun) : Stage PreflightState PreflightError Unit := fun state =>
  if state.budgetedExecution.isNone then
    (state, .error (.persistence (.conflict "budget reservation is missing")))
  else if run.executionId.isNone then
    (state, .error (.persistence (.conflict "execution identity is missing")))
  else
    match run.persisted with
    | .error error => (state, .error error)
    | .ok persisted => ({ state with persistedExecution := some persisted }, .ok ())

/-- The secret, the provider, the knowledge context and the conversation context. -/
def prepareProvider (run : PreflightRun) : Stage PreflightState PreflightError Unit := fun state =>
  (state, run.provider)

def boundary (run : PreflightRun) : ChatExecutionBoundary PreflightState PreflightError Unit Unit where
  authorize := fun state => (state, run.authorized)
  reserveIdempotency := fun state => (state, run.idempotency)
  reserveBudget := fun _ => run.reserveBudget
  persistRequest := fun _ => run.persistRequest
  prepareProvider := fun _ => run.prepareProvider

/-- What `fail_preflight` does to Redis: it releases a reservation while nothing has been
persisted. -/
def failPreflight (run : PreflightRun) (state : PreflightState) : PreflightState :=
  match state.persistedExecution, state.budgetedExecution with
  | none, some reservation =>
    let before := run.traffic state.redis
    wrote state run.failedAt before (releaseTenant .answering before run.failedAt reservation.tenant).1
  | _, _ => state

def preflight (run : PreflightRun) (redis : Redis) :
    PreflightState × Except PreflightFailure (PreparedChatExecution Unit Unit) :=
  match run.boundary.prepare (initial redis) with
  | (state, .ok prepared) => (state, .ok prepared)
  | (state, .error error) => (run.failPreflight state, .error error.handled)

/-- The request gets as far as the budget and is granted a new reservation there. -/
structure Charges (run : PreflightRun) (redis : Redis) (request : BudgetRequest) : Prop where
  authorized : run.authorized = .ok ()
  fresh : ∃ idempotency, run.idempotency = .ok idempotency ∧ idempotency.isReplay = false
  asked : run.budgetRequest? = some request
  affordable : Affordable ExecutionBudget.default redis run.reservedAt request

/-- The marker of the reservation is there and both counters hold its amount. -/
structure Undoable (redis : Redis) (now : Nat) (request : TenantRequest) : Prop where
  held : get redis.markers now request.markerKey = some (.identity request.identity)
  userCovers : (request.identity.amount : Int) ≤ redis.count now request.tenant.userKey
  organizationCovers : (request.identity.amount : Int) ≤ redis.count now request.tenant.organizationKey

/-- A newly charged request failed to persist, and can take its reservation back. -/
def Refunds (run : PreflightRun) (redis : Redis) : Prop :=
  ∀ request, run.Charges redis request →
    (∃ error, run.persisted = .error error) ∧
    Undoable (run.traffic (ExecutionBudget.default.charged redis run.reservedAt request)) run.failedAt
      (ExecutionBudget.default.tenantRequest request)

end PreflightRun

open PreflightRun

variable {run : PreflightRun} {redis : Redis} {request : BudgetRequest}

/-! ## The budget stage -/

theorem PreflightRun.wrote_unchanged (state : PreflightState) (now : Nat) :
    wrote state now state.redis state.redis = state := by
  simp [wrote]

@[simp] theorem PreflightRun.initial_redis : (initial redis).redis = redis := rfl

/-- The state after a reservation was returned. -/
def PreflightRun.reserved (run : PreflightRun) (redis after : Redis)
    (reservation : ExecutionReservation) : PreflightState :=
  { wrote (initial redis) run.reservedAt redis after with budgetedExecution := some reservation }

inductive BudgetStage (run : PreflightRun) (redis : Redis) :
    PreflightState × Except PreflightError Unit → Prop where
  | refused (error : PreflightError)
      (uncharged : ∀ request, run.budgetRequest? = some request →
        ¬Affordable ExecutionBudget.default redis run.reservedAt request) :
      BudgetStage run redis (initial redis, .error error)
  | replayed {request : BudgetRequest} (asked : run.budgetRequest? = some request)
      (uncharged : ¬Affordable ExecutionBudget.default redis run.reservedAt request) :
      BudgetStage run redis
        (run.reserved redis redis (ExecutionBudget.default.reservation request true), .ok ())
  | charged {request : BudgetRequest} (asked : run.budgetRequest? = some request)
      (affordable : Affordable ExecutionBudget.default redis run.reservedAt request) :
      BudgetStage run redis
        (run.reserved redis (ExecutionBudget.default.charged redis run.reservedAt request)
          (ExecutionBudget.default.reservation request false), .ok ())

theorem reserveBudget_stage (run : PreflightRun) (redis : Redis) :
    BudgetStage run redis (run.reserveBudget (initial redis)) := by
  unfold PreflightRun.reserveBudget
  cases identified : run.executionId with
  | none =>
    refine .refused _ fun request asked => ?_
    simp [budgetRequest?, identified] at asked
  | some executionId =>
    cases asked : run.budgetRequest? with
    | none =>
      refine .refused _ fun request other => ?_
      rw [asked] at other
      contradiction
    | some request =>
      by_cases affordable : Affordable ExecutionBudget.default redis run.reservedAt request
      · have granted : ExecutionBudget.default.reserve .answering redis run.reservedAt request =
            (ExecutionBudget.default.charged redis run.reservedAt request,
              .ok (ExecutionBudget.default.reservation request false)) :=
          ExecutionBudget.reserve_affordable (by decide) affordable
        simp only [initial_redis, granted]
        exact .charged asked affordable
      · -- Without a grant the script has written nothing.
        have ended := ExecutionBudget.default.reserve_ending .answering redis run.reservedAt request
        have uncharged : ∀ other, run.budgetRequest? = some other →
            ¬Affordable ExecutionBudget.default redis run.reservedAt other := by
          intro other same
          rw [asked, Option.some.injEq] at same
          exact same ▸ affordable
        have unwritten : wrote (initial redis) run.reservedAt redis redis = initial redis :=
          wrote_unchanged (initial redis) run.reservedAt
        simp only [initial_redis]
        generalize ExecutionBudget.default.reserve .answering redis run.reservedAt request = ending at ended
        cases ended with
        | refused error =>
          simp only [unwritten]
          cases error <;> exact .refused _ uncharged
        | replayed => exact .replayed asked affordable
        | granted granted => exact absurd granted affordable

/-- Past the first two stages, what is left are the budget, the tables and the provider. -/
theorem PreflightRun.prepare_eq {idempotency : IdempotencyReservation}
    (authorized : run.authorized = .ok ()) (found : run.idempotency = .ok idempotency)
    (fresh : idempotency.isReplay = false) :
    run.boundary.prepare (initial redis) =
      (run.reserveBudget.andThen fun _ => run.persistRequest.andThen fun _ =>
        run.prepareProvider.andThen fun providerContext =>
          .done ⟨some (), some providerContext, idempotency, none⟩) (initial redis) := by
  simp [ChatExecutionBoundary.prepare, boundary, Stage.andThen, authorized, found, fresh]

/-- The end of a run whose budget stage returned a reservation. -/
theorem PreflightRun.preflight_reserved {idempotency : IdempotencyReservation} {after : Redis}
    {reservation : ExecutionReservation} (authorized : run.authorized = .ok ())
    (found : run.idempotency = .ok idempotency) (fresh : idempotency.isReplay = false)
    (asked : run.budgetRequest? = some request)
    (staged : run.reserveBudget (initial redis) = (run.reserved redis after reservation, .ok ())) :
    run.preflight redis =
      match run.persisted, run.provider with
      | .error error, _ => (run.failPreflight (run.reserved redis after reservation), .error error.handled)
      | .ok persisted, .error error =>
        ({ run.reserved redis after reservation with persistedExecution := some persisted },
          .error error.handled)
      | .ok persisted, .ok context =>
        ({ run.reserved redis after reservation with persistedExecution := some persisted },
          .ok ⟨some (), some context, idempotency, none⟩) := by
  have identified : run.executionId.isNone = false := by
    cases missing : run.executionId with
    | none => simp [budgetRequest?, missing] at asked
    | some => rfl
  simp only [preflight, prepare_eq authorized found fresh, Stage.andThen_of_ok staged]
  cases persistence : run.persisted with
  | error error =>
    simp [Stage.andThen, persistRequest, reserved, identified, persistence]
  | ok persisted =>
    cases prepared : run.provider with
    | error error =>
      simp [Stage.andThen, persistRequest, prepareProvider, reserved, identified, persistence, prepared,
        failPreflight]
    | ok context =>
      simp [Stage.andThen, persistRequest, prepareProvider, reserved, identified, persistence, prepared,
        Stage.done]

/-- A run that does not charge the request ends with no contribution. -/
theorem PreflightRun.uncharged_preflight (uncharged : ∀ request, ¬run.Charges redis request)
    (counter : CounterKey) : (run.preflight redis).1.contribution counter = 0 := by
  cases authorized : run.authorized with
  | error error =>
    simp [preflight, ChatExecutionBoundary.prepare, boundary, Stage.andThen, authorized, failPreflight,
      initial]
  | ok done =>
    cases found : run.idempotency with
    | error error =>
      simp [preflight, ChatExecutionBoundary.prepare, boundary, Stage.andThen, authorized, found,
        failPreflight, initial]
    | ok idempotency =>
      cases fresh : idempotency.isReplay with
      | true =>
        simp [preflight, ChatExecutionBoundary.prepare, boundary, Stage.andThen, authorized, found,
          fresh, Stage.done, initial]
      | false =>
        have staged := reserveBudget_stage run redis
        generalize stagedAs : run.reserveBudget (initial redis) = ending at staged
        cases staged with
        | refused error =>
          simp only [preflight, prepare_eq authorized found fresh, Stage.andThen_of_error stagedAs]
          rfl
        | @replayed request asked =>
          -- A replayed reservation is never released.
          rw [preflight_reserved authorized found fresh asked stagedAs]
          split
          · simp [failPreflight, reserved, wrote, initial, ExecutionBudget.reservation,
              TenantRequest.reservation, releaseTenant]
          · simp [reserved, wrote, initial]
          · simp [reserved, wrote, initial]
        | charged asked affordable =>
          exact absurd ⟨authorized, ⟨idempotency, found, fresh⟩, asked, affordable⟩ (uncharged _)

/-! ## The contribution of a charged request -/

/-- A release takes a charge back from both counters exactly if it finds the marker and
neither counter is below the amount, where it would stop at zero. -/
theorem releaseTenant_undoes_iff {before : Redis} {now : Nat} {request : TenantRequest}
    (positive : 0 < request.identity.amount) :
    (∀ counter, (if request.identity.tenant.uses counter then (request.identity.amount : Int) else 0) +
        ((releaseTenant .answering before now (request.reservation false)).1.count now counter -
          before.count now counter) = 0) ↔ Undoable before now request := by
  by_cases held : get before.markers now request.markerKey = some (.identity request.identity)
  · have effect : (releaseTenant .answering before now (request.reservation false)).1 =
        before.released now request.markerKey request.identity := by
      have script : before.releaseScript now request.markerKey request.identity =
          (before.released now request.markerKey request.identity, 1) :=
        if_neg (not_not.mpr held)
      show (Backend.answering.eval before (before.releaseScript now request.markerKey request.identity)).1 = _
      rw [script]
      rfl
    simp only [effect, Redis.count_released]
    constructor
    -- The script stops at zero, so a counter that does not cover the charge keeps a part of it.
    · intro undone
      have user := undone request.identity.tenant.userKey
      have organization := undone request.identity.tenant.organizationKey
      rw [if_pos ((Tenant.uses_eq _ _).mpr (.inl rfl)), if_pos ((Tenant.uses_eq _ _).mpr (.inl rfl))] at user
      rw [if_pos ((Tenant.uses_eq _ _).mpr (.inr rfl)), if_pos ((Tenant.uses_eq _ _).mpr (.inr rfl))]
        at organization
      have userCovers : (request.identity.amount : Int) ≤ before.count now request.identity.tenant.userKey := by
        omega
      have organizationCovers : (request.identity.amount : Int) ≤
          before.count now request.identity.tenant.organizationKey := by
        omega
      exact ⟨held, userCovers, organizationCovers⟩
    · rintro ⟨_, userCovers, organizationCovers⟩ counter
      by_cases uses : request.identity.tenant.uses counter = true
      · have covers : (request.identity.amount : Int) ≤ before.count now counter := by
          rcases (Tenant.uses_eq _ _).mp uses with rfl | rfl
          · exact userCovers
          · exact organizationCovers
        rw [if_pos uses, if_pos uses]
        omega
      · rw [if_neg uses, if_neg uses]
        omega
  -- Without its marker the release does nothing, and the charge stays.
  · have nothing : (releaseTenant .answering before now (request.reservation false)).1 = before := by
      have script : before.releaseScript now request.markerKey request.identity = (before, 0) := if_pos held
      show (Backend.answering.eval before (before.releaseScript now request.markerKey request.identity)).1 = _
      rw [script]
      rfl
    constructor
    · intro undone
      have user := undone request.identity.tenant.userKey
      rw [nothing, if_pos ((Tenant.uses_eq _ _).mpr (.inl rfl))] at user
      omega
    · exact fun undoable => absurd undoable.held held

section Charged

variable (charges : run.Charges redis request)
include charges

theorem PreflightRun.charged_preflight :
    ∃ idempotency, run.preflight redis =
      match run.persisted, run.provider with
      | .error error, _ => (run.failPreflight (run.reserved redis
          (ExecutionBudget.default.charged redis run.reservedAt request)
          (ExecutionBudget.default.reservation request false)), .error error.handled)
      | .ok persisted, .error error =>
        ({ run.reserved redis (ExecutionBudget.default.charged redis run.reservedAt request)
            (ExecutionBudget.default.reservation request false) with
            persistedExecution := some persisted }, .error error.handled)
      | .ok persisted, .ok context =>
        ({ run.reserved redis (ExecutionBudget.default.charged redis run.reservedAt request)
            (ExecutionBudget.default.reservation request false) with
            persistedExecution := some persisted },
          .ok ⟨some (), some context, idempotency, none⟩) := by
  obtain ⟨authorized, ⟨idempotency, found, fresh⟩, asked, affordable⟩ := charges
  refine ⟨idempotency, preflight_reserved authorized found fresh asked ?_⟩
  have staged := reserveBudget_stage run redis
  generalize run.reserveBudget (initial redis) = ending at staged
  cases staged with
  | refused _ uncharged => exact absurd affordable (uncharged request asked)
  | replayed other uncharged =>
    rw [asked, Option.some.injEq] at other
    exact absurd (other ▸ affordable) uncharged
  | charged other =>
    rw [asked, Option.some.injEq] at other
    rw [other]

/-- What the request has added once it is charged. -/
theorem PreflightRun.reserved_contribution (reservation : ExecutionReservation) (counter : CounterKey) :
    (run.reserved redis (ExecutionBudget.default.charged redis run.reservedAt request)
        reservation).contribution counter =
      if (ExecutionBudget.default.tenantRequest request).identity.tenant.uses counter then
        ((ExecutionBudget.default.tenantRequest request).identity.amount : Int)
      else 0 := by
  have counted : (ExecutionBudget.default.charged redis run.reservedAt request).count run.reservedAt
      counter = redis.count run.reservedAt counter + _ :=
    Redis.count_granted charges.affordable.grantable.lasting
  simp only [reserved, wrote, initial, counted]
  omega

/-- A failed persist gives back what was charged exactly if the marker is still there and
both counters hold the amount. -/
theorem PreflightRun.released_contribution :
    (∀ counter, (run.failPreflight (run.reserved redis
        (ExecutionBudget.default.charged redis run.reservedAt request)
        (ExecutionBudget.default.reservation request false))).contribution counter = 0) ↔
      Undoable (run.traffic (ExecutionBudget.default.charged redis run.reservedAt request)) run.failedAt
        (ExecutionBudget.default.tenantRequest request) := by
  rw [← releaseTenant_undoes_iff charges.affordable.grantable.positive]
  refine forall_congr' fun counter => ?_
  rw [← reserved_contribution charges (ExecutionBudget.default.reservation request false) counter]
  rfl

end Charged

/-- A preflight that ends in an error has cost nothing exactly if the request was not newly
charged, or its persist failed and the release found the marker and both amounts. -/
theorem failed_preflight_costs_nothing_iff {failure : PreflightFailure}
    (failed : (run.preflight redis).2 = .error failure) :
    (∀ counter, (run.preflight redis).1.contribution counter = 0) ↔ run.Refunds redis := by
  by_cases charged : ∃ request, run.Charges redis request
  · obtain ⟨request, charges⟩ := charged
    obtain ⟨idempotency, ends⟩ := charged_preflight charges
    have only : ∀ other, run.Charges redis other → other = request := fun other otherCharges =>
      Option.some.inj (otherCharges.asked.symm.trans charges.asked)
    rw [ends] at failed ⊢
    cases persistence : run.persisted with
    | error error =>
      simp only [released_contribution charges]
      constructor
      · rintro undoable other otherCharges
        rw [only other otherCharges]
        exact ⟨⟨error, persistence⟩, undoable⟩
      · intro refunds
        exact (refunds request charges).2
    | ok persisted =>
      cases prepared : run.provider with
      | ok context => simp [persistence, prepared] at failed
      | error error =>
        -- The execution is persisted, so its reservation is kept.
        constructor
        · intro free
          have kept := reserved_contribution charges (ExecutionBudget.default.reservation request false)
            (ExecutionBudget.default.tenantRequest request).identity.tenant.userKey
          rw [if_pos ((Tenant.uses_eq _ _).mpr (.inl rfl))] at kept
          have positive := charges.affordable.grantable.positive
          have zero := free (ExecutionBudget.default.tenantRequest request).identity.tenant.userKey
          simp only at zero
          omega
        · intro refunds
          obtain ⟨⟨_, failedToPersist⟩, _⟩ := refunds request charges
          rw [persistence] at failedToPersist
          contradiction
  · have uncharged : ∀ request, ¬run.Charges redis request := fun request charges =>
      charged ⟨request, charges⟩
    constructor
    · intro _ request charges
      exact absurd charges (uncharged request)
    · intro _
      exact uncharged_preflight uncharged

/-- A first request whose persist is refused. -/
theorem failed_preflight_costs_nothing_iff_conflict :
    let run : PreflightRun :=
      ⟨2, 1, "hello", false, some 5000, some 10000, .ok (), .ok ⟨none, none, none, none, false⟩,
        some "execution", .error (.persistence (.conflict "execution identity is bound to another scope")),
        .ok (), 0, 0, id⟩
    (run.preflight Redis.empty).1.contribution (.user 1 2) = 0 ∧
      ((∀ counter, (run.preflight Redis.empty).1.contribution counter = 0) ↔ run.Refunds Redis.empty) :=
  ⟨by decide, failed_preflight_costs_nothing_iff rfl⟩

/-- A request that fails between its persist and the first call of the provider keeps its
charge: here the conversation does not fit the context window of the model. -/
theorem failed_preflight_keeps_charge :
    ¬∀ (run : PreflightRun) (redis : Redis) (failure : PreflightFailure),
      (∀ keys : Redis, keys.Steady run.reservedAt run.failedAt) →
      (run.preflight redis).2 = .error failure →
      ∀ counter, (run.preflight redis).1.contribution counter = 0 := by
  intro free
  have zero := free
    ⟨2, 1, "hello", false, some 5000, some 10000, .ok (), .ok ⟨none, none, none, none, false⟩,
      some "execution", .ok ⟨"execution", 0, 1, .prepared⟩, .error .contextBudgetExceeded, 0, 0, id⟩
    Redis.empty _ (fun _ => ⟨fun _ _ _ alive => alive, fun _ _ _ alive => alive⟩) rfl (.user 1 2)
  exact absurd zero (by decide)

end Eiraos
