import Eiraos.Usage.RedisReservation

/-! # The budget of one execution (`cost_estimator.py`, `execution_budget.py`)

The estimate is made from the prompt before anything runs; its total is what is reserved,
for an hour, under the execution's id.
-/

namespace Eiraos

open Expiring

structure CostEstimate where
  primaryTokens : Nat
  verifierTokens : Nat
  deriving DecidableEq, Repr

def CostEstimate.totalTokens (estimate : CostEstimate) : Nat :=
  estimate.primaryTokens + estimate.verifierTokens

structure CostEstimator where
  inputCharsPerToken : Nat
  outputTokens : Nat
  positive : 0 < inputCharsPerToken

/-- `CostEstimator()`. -/
def CostEstimator.default : CostEstimator := ⟨4, 1024, by decide⟩

def CostEstimator.estimate (estimator : CostEstimator) (prompt : String) (verify : Bool) : CostEstimate :=
  let inputTokens := (prompt.length + estimator.inputCharsPerToken - 1) / estimator.inputCharsPerToken
  let primary := inputTokens + estimator.outputTokens
  ⟨primary, if verify then primary else 0⟩

structure ExecutionReservation where
  estimate : CostEstimate
  tenant : TenantReservation
  deriving DecidableEq, Repr

structure ExecutionBudget where
  estimator : CostEstimator
  ttlSeconds : Int

/-- The budget as the chat endpoint builds it. -/
def ExecutionBudget.default : ExecutionBudget := ⟨CostEstimator.default, 3600⟩

/-- What one execution asks for. -/
structure BudgetRequest where
  reservationId : String
  userId : Nat
  organizationId : Nat
  prompt : String
  verify : Bool
  userLimit : Int
  organizationLimit : Int
  deriving DecidableEq, Repr

namespace ExecutionBudget

def estimateOf (budget : ExecutionBudget) (request : BudgetRequest) : CostEstimate :=
  budget.estimator.estimate request.prompt request.verify

def tenantRequest (budget : ExecutionBudget) (request : BudgetRequest) : TenantRequest :=
  ⟨request.reservationId, ⟨request.organizationId, request.userId⟩,
    (budget.estimateOf request).totalTokens, request.userLimit, request.organizationLimit, budget.ttlSeconds⟩

def reserve (budget : ExecutionBudget) (backend : Backend) (redis : Redis) (now : Nat)
    (request : BudgetRequest) : Redis × Except BudgetError ExecutionReservation :=
  let total : Int := (budget.estimateOf request).totalTokens
  if total > request.organizationLimit ∨ total > request.userLimit then
    (redis, .error (.denied "execution token budget exceeded"))
  else
    let ending := reserveTenant backend redis now (budget.tenantRequest request)
    match ending.2 with
    | .error error => (ending.1, .error error)
    | .ok tenant => (ending.1, .ok ⟨budget.estimateOf request, tenant⟩)

def settle (backend : Backend) (redis : Redis) (now : Nat) (reservation : ExecutionReservation)
    (actualTokens : Int) : Redis × Except BudgetError Bool :=
  settleTenant backend redis now reservation.tenant actualTokens

/-- The reservation a call returns for this request. -/
def reservation (budget : ExecutionBudget) (request : BudgetRequest) (replayed : Bool) :
    ExecutionReservation :=
  ⟨budget.estimateOf request, (budget.tenantRequest request).reservation replayed⟩

end ExecutionBudget

/-- The conditions under which an execution is granted a new reservation. -/
structure Affordable (budget : ExecutionBudget) (redis : Redis) (now : Nat) (request : BudgetRequest) :
    Prop where
  organizationLimit : ((budget.estimateOf request).totalTokens : Int) ≤ request.organizationLimit
  userLimit : ((budget.estimateOf request).totalTokens : Int) ≤ request.userLimit
  grantable : Grantable redis now (budget.tenantRequest request)

instance (budget : ExecutionBudget) (redis : Redis) (now : Nat) (request : BudgetRequest) :
    Decidable (Affordable budget redis now request) :=
  decidable_of_iff
    (((budget.estimateOf request).totalTokens : Int) ≤ request.organizationLimit ∧
      ((budget.estimateOf request).totalTokens : Int) ≤ request.userLimit ∧
      Grantable redis now (budget.tenantRequest request))
    ⟨fun ⟨organizationLimit, userLimit, grantable⟩ => ⟨organizationLimit, userLimit, grantable⟩,
      fun ⟨organizationLimit, userLimit, grantable⟩ => ⟨organizationLimit, userLimit, grantable⟩⟩

namespace ExecutionBudget

/-- The keys after a new reservation. -/
def charged (budget : ExecutionBudget) (redis : Redis) (now : Nat) (request : BudgetRequest) : Redis :=
  redis.granted now (budget.tenantRequest request).markerKey (budget.tenantRequest request).identity
    budget.ttlSeconds.toNat

end ExecutionBudget

inductive ExecutionReserveEnding (budget : ExecutionBudget) (redis : Redis) (now : Nat)
    (request : BudgetRequest) : Redis × Except BudgetError ExecutionReservation → Prop where
  | refused (error : BudgetError) : ExecutionReserveEnding budget redis now request (redis, .error error)
  | replayed (exists_ : get redis.markers now (budget.tenantRequest request).markerKey =
        some (.identity (budget.tenantRequest request).identity)) :
      ExecutionReserveEnding budget redis now request (redis, .ok (budget.reservation request true))
  | granted {result : Except BudgetError ExecutionReservation}
      (affordable : Affordable budget redis now request)
      (returned : ∀ reservation, result = .ok reservation → reservation = budget.reservation request false) :
      ExecutionReserveEnding budget redis now request (budget.charged redis now request, result)

theorem ExecutionBudget.reserve_ending (budget : ExecutionBudget) (backend : Backend) (redis : Redis)
    (now : Nat) (request : BudgetRequest) :
    ExecutionReserveEnding budget redis now request (budget.reserve backend redis now request) := by
  simp only [reserve]
  split
  · exact .refused _
  next within =>
    have ended := reserveTenant_ending backend redis now (budget.tenantRequest request)
    generalize reserveTenant backend redis now (budget.tenantRequest request) = ending at ended
    cases ended with
    | refused => exact .refused _
    | replayed exists_ => exact .replayed exists_
    | @granted result grantable returned =>
      have affordable : Affordable budget redis now request := ⟨by omega, by omega, grantable⟩
      cases result with
      | error => exact .granted affordable fun _ equal => by cases equal
      | ok tenant =>
        refine .granted affordable fun reservation equal => ?_
        cases equal
        rw [returned tenant rfl]
        rfl

theorem ExecutionBudget.reserve_affordable {budget : ExecutionBudget} {backend : Backend} {redis : Redis}
    {now : Nat} {request : BudgetRequest} (reached : backend ≠ .unreachable)
    (affordable : Affordable budget redis now request) :
    budget.reserve backend redis now request =
      (budget.charged redis now request, backend.answer (budget.reservation request false)) := by
  have within : ¬((budget.estimateOf request).totalTokens > request.organizationLimit ∨
      (budget.estimateOf request).totalTokens > request.userLimit) := by
    have := affordable.organizationLimit
    have := affordable.userLimit
    omega
  simp only [reserve, if_neg within, reserveTenant_grantable reached affordable.grantable]
  cases backend <;> rfl

/-- Under a marker of its own a request gets a replay, unless a limit is below the estimate
or the call is lost; nothing is written. -/
theorem ExecutionBudget.reserve_held {budget : ExecutionBudget} {backend : Backend} {redis : Redis}
    {now : Nat} {request : BudgetRequest} (named : request.reservationId ≠ "")
    (positive : 0 < (budget.estimateOf request).totalTokens) (lasting : 0 < budget.ttlSeconds)
    (held : get redis.markers now (budget.tenantRequest request).markerKey =
      some (.identity (budget.tenantRequest request).identity)) :
    (budget.reserve backend redis now request).1 = redis ∧
      if backend = .answering ∧ ((budget.estimateOf request).totalTokens : Int) ≤ request.userLimit ∧
          ((budget.estimateOf request).totalTokens : Int) ≤ request.organizationLimit then
        (budget.reserve backend redis now request).2 = .ok (budget.reservation request true)
      else ∃ error, (budget.reserve backend redis now request).2 = .error error := by
  simp only [reserve]
  by_cases within : ((budget.estimateOf request).totalTokens : Int) ≤ request.userLimit ∧
      ((budget.estimateOf request).totalTokens : Int) ≤ request.organizationLimit
  · have room : ¬(((budget.estimateOf request).totalTokens : Int) > request.organizationLimit ∨
        ((budget.estimateOf request).totalTokens : Int) > request.userLimit) := by omega
    have replay : reserveTenant backend redis now (budget.tenantRequest request) =
        (redis, backend.answer ((budget.tenantRequest request).reservation true)) :=
      reserveTenant_held named (by simpa [tenantRequest] using positive) lasting within.1 within.2 held
    rw [if_neg room, replay]
    cases backend with
    | answering => exact ⟨rfl, by rw [if_pos ⟨rfl, within⟩]; rfl⟩
    | unreachable => exact ⟨rfl, by rw [if_neg (by simp)]; exact ⟨_, rfl⟩⟩
    | unanswered => exact ⟨rfl, by rw [if_neg (by simp)]; exact ⟨_, rfl⟩⟩
  · have full : ((budget.estimateOf request).totalTokens : Int) > request.organizationLimit ∨
        ((budget.estimateOf request).totalTokens : Int) > request.userLimit := by omega
    rw [if_pos full, if_neg fun fits => within fits.2]
    exact ⟨rfl, _, rfl⟩

end Eiraos
