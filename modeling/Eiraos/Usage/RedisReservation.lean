import Eiraos.Foundations.ExpiringStore
import Eiraos.Usage.RedisKeys

/-! # Token reservations in Redis (`domains/usage/redis_reservation.py`)

The three scripts of `reserve_tenant`, `release_tenant` and `settle_tenant`, each one
atomic step on the keys of the budget, and the methods around them.  `now` is the clock of
the server in milliseconds.  Counters are integers; a server computes them exactly up to
the limits of its number format.
-/

namespace Eiraos

open Expiring

/-- The keys of the budget.  A counter key never holds a marker's value, nor the reverse. -/
structure Redis where
  counters : Store CounterKey Int
  markers : Store MarkerKey MarkerValue

namespace Redis

def empty : Redis := ⟨fun _ => none, fun _ => none⟩

def count (redis : Redis) (now : Nat) (counter : CounterKey) : Int :=
  number redis.counters now counter

/-- Nothing that is there now is gone later. -/
def Steady (redis : Redis) (now later : Nat) : Prop :=
  Expiring.Steady redis.counters now later ∧ Expiring.Steady redis.markers now later

/-! ## The scripts -/

/-- The keys after a granted reservation. -/
def granted (redis : Redis) (now : Nat) (marker : MarkerKey) (identity : Identity) (ttlSeconds : Nat) :
    Redis :=
  let deadline := now + ttlSeconds * 1000
  let incremented := incrBy (incrBy redis.counters now identity.tenant.userKey identity.amount) now
    identity.tenant.organizationKey identity.amount
  { counters := expireAt (expireAt incremented now identity.tenant.userKey deadline) now
      identity.tenant.organizationKey deadline
    markers := put redis.markers marker ⟨.identity identity, some deadline⟩ }

def reserveScript (redis : Redis) (now : Nat) (marker : MarkerKey) (identity : Identity)
    (userLimit organizationLimit : Int) (ttlSeconds : Nat) : Redis × Int :=
  match get redis.markers now marker with
  | some existing => (redis, if existing = .identity identity then 2 else -1)
  | none =>
    let userCurrent := redis.count now identity.tenant.userKey
    let organizationCurrent := redis.count now identity.tenant.organizationKey
    if userCurrent + identity.amount > userLimit then (redis, 0)
    else if organizationCurrent + identity.amount > organizationLimit then (redis, 0)
    else (redis.granted now marker identity ttlSeconds, 1)

/-- The keys after an effective release. -/
def released (redis : Redis) (now : Nat) (marker : MarkerKey) (identity : Identity) : Redis :=
  let userCurrent := redis.count now identity.tenant.userKey
  let organizationCurrent := redis.count now identity.tenant.organizationKey
  { counters := keepDeadline
      (keepDeadline redis.counters now identity.tenant.userKey (max 0 (userCurrent - identity.amount)))
      now identity.tenant.organizationKey (max 0 (organizationCurrent - identity.amount))
    markers := erase redis.markers marker }

def releaseScript (redis : Redis) (now : Nat) (marker : MarkerKey) (identity : Identity) : Redis × Int :=
  if get redis.markers now marker ≠ some (.identity identity) then (redis, 0)
  else (redis.released now marker identity, 1)

/-- The keys after an effective settlement, which lives as long as the marker. -/
def reconciled (redis : Redis) (now : Nat) (marker : MarkerKey) (identity : Identity)
    (actualAmount : Nat) : Redis :=
  let delta := (actualAmount : Int) - identity.amount
  { counters := incrBy (incrBy redis.counters now identity.tenant.userKey delta) now
      identity.tenant.organizationKey delta
    markers := put redis.markers marker.settlementKey
      ⟨.settled actualAmount, some (now + (remaining redis.markers now marker).toNat)⟩ }

def settleScript (redis : Redis) (now : Nat) (marker : MarkerKey) (identity : Identity)
    (actualAmount : Nat) : Redis × Int :=
  if get redis.markers now marker ≠ some (.identity identity) then (redis, -1)
  else
    match get redis.markers now marker.settlementKey with
    | some existing => (redis, if existing = .settled actualAmount then 0 else -2)
    | none =>
      if remaining redis.markers now marker ≤ 0 then (redis, -1)
      else (redis.reconciled now marker identity actualAmount, 1)

end Redis

/-! ## The methods -/

inductive BudgetError where
  | valueError (message : String)
  | backendUnavailable (message : String)
  | denied (message : String)
  deriving DecidableEq, Repr

/-- How the call of `eval` ends: with the script's result, or in an exception before or
after the script has run. -/
inductive Backend where
  | answering
  | unreachable
  | unanswered
  deriving DecidableEq, Repr

def Backend.eval (backend : Backend) (redis : Redis) (script : Redis × Int) :
    Redis × Except BudgetError Int :=
  match backend with
  | .answering => (script.1, .ok script.2)
  | .unreachable => (redis, .error (.backendUnavailable "budget backend unavailable"))
  | .unanswered => (script.1, .error (.backendUnavailable "budget backend unavailable"))

structure Reservation where
  key : CounterKey
  amount : Nat
  deriving DecidableEq, Repr

/-- A reservation holds the same amount under the two keys of its tenant. -/
structure TenantReservation where
  reservationId : String
  tenant : Tenant
  amount : Nat
  replayed : Bool
  deriving DecidableEq, Repr

namespace TenantReservation

def user (reservation : TenantReservation) : Reservation :=
  ⟨reservation.tenant.userKey, reservation.amount⟩

def organization (reservation : TenantReservation) : Reservation :=
  ⟨reservation.tenant.organizationKey, reservation.amount⟩

def markerKey (reservation : TenantReservation) : MarkerKey :=
  ⟨reservation.tenant.organizationId, reservation.reservationId⟩

def identity (reservation : TenantReservation) : Identity :=
  ⟨reservation.tenant, reservation.amount⟩

end TenantReservation

/-- The arguments of `reserve_tenant`, with the two keys given by their tenant. -/
structure TenantRequest where
  reservationId : String
  tenant : Tenant
  amount : Int
  userLimit : Int
  organizationLimit : Int
  ttlSeconds : Int
  deriving DecidableEq, Repr

namespace TenantRequest

def markerKey (request : TenantRequest) : MarkerKey :=
  ⟨request.tenant.organizationId, request.reservationId⟩

def identity (request : TenantRequest) : Identity :=
  ⟨request.tenant, request.amount.toNat⟩

def reservation (request : TenantRequest) (replayed : Bool) : TenantReservation :=
  ⟨request.reservationId, request.tenant, request.amount.toNat, replayed⟩

end TenantRequest

def reserveTenant (backend : Backend) (redis : Redis) (now : Nat) (request : TenantRequest) :
    Redis × Except BudgetError TenantReservation :=
  if request.reservationId = "" then
    (redis, .error (.valueError "tenant reservation identity is required"))
  else if min (min request.amount request.userLimit)
      (min request.organizationLimit request.ttlSeconds) ≤ 0 then
    (redis, .error (.valueError "tenant reservation values must be positive"))
  else
    let answer := backend.eval redis (redis.reserveScript now request.markerKey request.identity
      request.userLimit request.organizationLimit request.ttlSeconds.toNat)
    match answer.2 with
    | .error error => (answer.1, .error error)
    | .ok result =>
      if result = 0 then (answer.1, .error (.denied "tenant token budget exceeded"))
      else if result = 1 ∨ result = 2 then (answer.1, .ok (request.reservation (result = 2)))
      else (answer.1, .error (.denied "reservation identity conflict"))

def releaseTenant (backend : Backend) (redis : Redis) (now : Nat) (reservation : TenantReservation) :
    Redis × Except BudgetError Unit :=
  if reservation.replayed then (redis, .ok ())
  else
    let answer := backend.eval redis (redis.releaseScript now reservation.markerKey reservation.identity)
    match answer.2 with
    | .error error => (answer.1, .error error)
    | .ok _ => (answer.1, .ok ())

/-- `True` for a settlement, `False` for an identical replay. -/
def settleTenant (backend : Backend) (redis : Redis) (now : Nat) (reservation : TenantReservation)
    (actualAmount : Int) : Redis × Except BudgetError Bool :=
  if actualAmount < 0 then (redis, .error (.valueError "actual usage cannot be negative"))
  else
    let answer := backend.eval redis (redis.settleScript now reservation.markerKey reservation.identity
      actualAmount.toNat)
    match answer.2 with
    | .error error => (answer.1, .error error)
    | .ok result =>
      if result < 0 then (answer.1, .error (.denied "budget settlement identity conflict"))
      else (answer.1, .ok (result = 1))

/-! ## What one call can do -/

/-- The conditions under which the script grants a new reservation. -/
structure Grantable (redis : Redis) (now : Nat) (request : TenantRequest) : Prop where
  named : request.reservationId ≠ ""
  limited : 0 < request.userLimit ∧ 0 < request.organizationLimit
  absent : get redis.markers now request.markerKey = none
  positive : 0 < request.identity.amount
  lasting : 0 < request.ttlSeconds.toNat
  userFits : redis.count now request.tenant.userKey + request.identity.amount ≤ request.userLimit
  organizationFits :
    redis.count now request.tenant.organizationKey + request.identity.amount ≤ request.organizationLimit

instance (redis : Redis) (now : Nat) (request : TenantRequest) : Decidable (Grantable redis now request) :=
  decidable_of_iff
    (request.reservationId ≠ "" ∧ (0 < request.userLimit ∧ 0 < request.organizationLimit) ∧
      get redis.markers now request.markerKey = none ∧ 0 < request.identity.amount ∧
      0 < request.ttlSeconds.toNat ∧
      redis.count now request.tenant.userKey + request.identity.amount ≤ request.userLimit ∧
      redis.count now request.tenant.organizationKey + request.identity.amount ≤
        request.organizationLimit)
    ⟨fun ⟨named, limited, absent, positive, lasting, userFits, organizationFits⟩ =>
        ⟨named, limited, absent, positive, lasting, userFits, organizationFits⟩,
      fun ⟨named, limited, absent, positive, lasting, userFits, organizationFits⟩ =>
        ⟨named, limited, absent, positive, lasting, userFits, organizationFits⟩⟩

inductive ReserveEnding (redis : Redis) (now : Nat) (request : TenantRequest) :
    Redis × Except BudgetError TenantReservation → Prop where
  | refused (error : BudgetError) : ReserveEnding redis now request (redis, .error error)
  | replayed (exists_ : get redis.markers now request.markerKey = some (.identity request.identity)) :
      ReserveEnding redis now request (redis, .ok (request.reservation true))
  | granted {result : Except BudgetError TenantReservation} (grantable : Grantable redis now request)
      (returned : ∀ reservation, result = .ok reservation → reservation = request.reservation false) :
      ReserveEnding redis now request
        (redis.granted now request.markerKey request.identity request.ttlSeconds.toNat, result)

theorem reserveTenant_ending (backend : Backend) (redis : Redis) (now : Nat) (request : TenantRequest) :
    ReserveEnding redis now request (reserveTenant backend redis now request) := by
  unfold reserveTenant
  split
  · exact .refused _
  next named =>
  split
  · exact .refused _
  next valid =>
    have positive : 0 < request.identity.amount := by
      simp only [TenantRequest.identity]
      omega
    have lasting : 0 < request.ttlSeconds.toNat := by omega
    have limited : 0 < request.userLimit ∧ 0 < request.organizationLimit := by omega
    cases existing : get redis.markers now request.markerKey with
    | some value =>
      -- The marker is there: the script compares it and writes nothing.
      simp only [Redis.reserveScript, existing]
      cases backend with
      | unreachable => exact .refused _
      | unanswered => exact .refused _
      | answering =>
        by_cases same : value = .identity request.identity
        · simp only [Backend.eval, if_pos same]
          exact .replayed (same ▸ existing)
        · simp only [Backend.eval, if_neg same]
          exact .refused _
    | none =>
      simp only [Redis.reserveScript, existing]
      by_cases userFull : redis.count now request.identity.tenant.userKey + request.identity.amount >
          request.userLimit
      · simp only [if_pos userFull]
        cases backend <;> exact .refused _
      by_cases organizationFull : redis.count now request.identity.tenant.organizationKey +
          request.identity.amount > request.organizationLimit
      · simp only [if_neg userFull, if_pos organizationFull]
        cases backend <;> exact .refused _
      · simp only [if_neg userFull, if_neg organizationFull]
        have grantable : Grantable redis now request :=
          ⟨named, limited, existing, positive, lasting, Int.not_lt.mp userFull,
            Int.not_lt.mp organizationFull⟩
        cases backend with
        | unreachable => exact .refused _
        | unanswered => exact .granted grantable fun _ returned => by cases returned
        | answering => exact .granted grantable fun reservation returned => by cases returned; rfl

/-- What a call returns whose script has run: the value, or the exception of a lost answer. -/
def Backend.answer {Value : Type} (backend : Backend) (value : Value) : Except BudgetError Value :=
  if backend = .answering then .ok value
  else .error (.backendUnavailable "budget backend unavailable")

/-- Under these conditions a call that reaches Redis makes a new reservation. -/
theorem reserveTenant_grantable {backend : Backend} {redis : Redis} {now : Nat} {request : TenantRequest}
    (reached : backend ≠ .unreachable) (grantable : Grantable redis now request) :
    reserveTenant backend redis now request =
      (redis.granted now request.markerKey request.identity request.ttlSeconds.toNat,
        backend.answer (request.reservation false)) := by
  obtain ⟨named, limited, absent, positive, lasting, userFits, organizationFits⟩ := grantable
  have valid : ¬min (min request.amount request.userLimit)
      (min request.organizationLimit request.ttlSeconds) ≤ 0 := by
    simp only [TenantRequest.identity] at positive
    omega
  have script : redis.reserveScript now request.markerKey request.identity request.userLimit
      request.organizationLimit request.ttlSeconds.toNat =
        (redis.granted now request.markerKey request.identity request.ttlSeconds.toNat, 1) := by
    have userRoom : ¬redis.count now request.identity.tenant.userKey + request.identity.amount >
        request.userLimit := Int.not_lt.mpr userFits
    have organizationRoom : ¬redis.count now request.identity.tenant.organizationKey +
        request.identity.amount > request.organizationLimit := Int.not_lt.mpr organizationFits
    simp only [Redis.reserveScript, absent, if_neg userRoom, if_neg organizationRoom]
  simp only [reserveTenant, if_neg named, if_neg valid, script]
  cases backend with
  | unreachable => exact absurd rfl reached
  | unanswered => rfl
  | answering => rfl

/-- A call that finds its own marker replays the reservation. -/
theorem reserveTenant_held {backend : Backend} {redis : Redis} {now : Nat} {request : TenantRequest}
    (named : request.reservationId ≠ "") (positive : 0 < request.amount) (lasting : 0 < request.ttlSeconds)
    (userFits : request.amount ≤ request.userLimit)
    (organizationFits : request.amount ≤ request.organizationLimit)
    (held : get redis.markers now request.markerKey = some (.identity request.identity)) :
    reserveTenant backend redis now request = (redis, backend.answer (request.reservation true)) := by
  have valid : ¬min (min request.amount request.userLimit)
      (min request.organizationLimit request.ttlSeconds) ≤ 0 := by omega
  have script : redis.reserveScript now request.markerKey request.identity request.userLimit
      request.organizationLimit request.ttlSeconds.toNat = (redis, 2) := by
    simp only [Redis.reserveScript, held, if_true]
  simp only [reserveTenant, if_neg named, if_neg valid, script]
  cases backend <;> rfl

/-- With the marker absent, a call is denied for one reason only: one of the two counters
leaves no room. -/
theorem reserveTenant_denied {backend : Backend} {redis : Redis} {now : Nat} {request : TenantRequest}
    {message : String} (absent : get redis.markers now request.markerKey = none)
    (denied : (reserveTenant backend redis now request).2 = .error (.denied message)) :
    request.userLimit < redis.count now request.tenant.userKey + request.amount ∨
      request.organizationLimit < redis.count now request.tenant.organizationKey + request.amount := by
  unfold reserveTenant at denied
  split at denied
  · cases denied
  split at denied
  · cases denied
  have amountIs : (request.identity.amount : Int) = request.amount := by
    simp only [TenantRequest.identity]
    omega
  rw [← amountIs]
  by_cases userFull : redis.count now request.identity.tenant.userKey + request.identity.amount >
      request.userLimit
  · exact .inl userFull
  by_cases organizationFull : redis.count now request.identity.tenant.organizationKey +
      request.identity.amount > request.organizationLimit
  · exact .inr organizationFull
  · simp only [Redis.reserveScript, absent, if_neg userFull, if_neg organizationFull] at denied
    cases backend <;> cases denied

inductive ReleaseEnding (redis : Redis) (now : Nat) (reservation : TenantReservation) :
    Redis × Except BudgetError Unit → Prop where
  | unchanged (result : Except BudgetError Unit) : ReleaseEnding redis now reservation (redis, result)
  | released (result : Except BudgetError Unit) (fresh : reservation.replayed = false)
      (held : get redis.markers now reservation.markerKey = some (.identity reservation.identity)) :
      ReleaseEnding redis now reservation
        (redis.released now reservation.markerKey reservation.identity, result)

theorem releaseTenant_ending (backend : Backend) (redis : Redis) (now : Nat)
    (reservation : TenantReservation) :
    ReleaseEnding redis now reservation (releaseTenant backend redis now reservation) := by
  unfold releaseTenant
  split
  · exact .unchanged _
  next fresh =>
    by_cases held : get redis.markers now reservation.markerKey = some (.identity reservation.identity)
    · simp only [Redis.releaseScript, ne_eq, held, not_true_eq_false, if_false]
      cases backend with
      | unreachable => exact .unchanged _
      | unanswered => exact .released _ (by simpa using fresh) held
      | answering => exact .released _ (by simpa using fresh) held
    · simp only [Redis.releaseScript, ne_eq, held, not_false_eq_true, if_true]
      cases backend <;> exact .unchanged _

/-- The conditions under which the script settles. -/
structure Settleable (redis : Redis) (now : Nat) (reservation : TenantReservation) : Prop where
  held : get redis.markers now reservation.markerKey = some (.identity reservation.identity)
  unsettled : get redis.markers now reservation.markerKey.settlementKey = none
  lasting : 0 < remaining redis.markers now reservation.markerKey

inductive SettleEnding (redis : Redis) (now : Nat) (reservation : TenantReservation) (actualAmount : Int) :
    Redis × Except BudgetError Bool → Prop where
  | unchanged (result : Except BudgetError Bool) (unsettled : result ≠ .ok true) :
      SettleEnding redis now reservation actualAmount (redis, result)
  | settled (result : Except BudgetError Bool) (settleable : Settleable redis now reservation) :
      SettleEnding redis now reservation actualAmount
        (redis.reconciled now reservation.markerKey reservation.identity actualAmount.toNat, result)

theorem settleTenant_ending (backend : Backend) (redis : Redis) (now : Nat)
    (reservation : TenantReservation) (actualAmount : Int) :
    SettleEnding redis now reservation actualAmount
      (settleTenant backend redis now reservation actualAmount) := by
  unfold settleTenant
  split
  · exact .unchanged _ (nomatch ·)
  by_cases held : get redis.markers now reservation.markerKey = some (.identity reservation.identity)
  · cases existing : get redis.markers now reservation.markerKey.settlementKey with
    | some value =>
      simp only [Redis.settleScript, ne_eq, held, not_true_eq_false, if_false, existing]
      cases backend with
      | unreachable => exact .unchanged _ (nomatch ·)
      | unanswered => exact .unchanged _ (nomatch ·)
      | answering =>
        by_cases same : value = .settled actualAmount.toNat
        · simp only [Backend.eval, if_pos same]
          exact .unchanged _ (by simp)
        · simp only [Backend.eval, if_neg same]
          exact .unchanged _ (nomatch ·)
    | none =>
      by_cases lapsed : remaining redis.markers now reservation.markerKey ≤ 0
      · simp only [Redis.settleScript, ne_eq, held, not_true_eq_false, if_false, existing, if_pos lapsed]
        cases backend <;> exact .unchanged _ (nomatch ·)
      · simp only [Redis.settleScript, ne_eq, held, not_true_eq_false, if_false, existing, if_neg lapsed]
        have settleable : Settleable redis now reservation := ⟨held, existing, by omega⟩
        cases backend with
        | unreachable => exact .unchanged _ (nomatch ·)
        | unanswered => exact .settled _ settleable
        | answering => exact .settled _ settleable
  · simp only [Redis.settleScript, ne_eq, held, not_false_eq_true, if_true]
    cases backend <;> exact .unchanged _ (nomatch ·)

theorem settleTenant_unreachable {backend : Backend} {redis : Redis} {now : Nat}
    {reservation : TenantReservation} {actualAmount : Nat} (lost : backend = .unreachable) :
    settleTenant backend redis now reservation actualAmount =
      (redis, .error (.backendUnavailable "budget backend unavailable")) := by
  have nonneg : ¬(actualAmount : Int) < 0 := by omega
  simp only [settleTenant, if_neg nonneg, lost]
  rfl

theorem settleTenant_settleable {backend : Backend} {redis : Redis} {now : Nat}
    {reservation : TenantReservation} {actualAmount : Nat} (reached : backend ≠ .unreachable)
    (settleable : Settleable redis now reservation) :
    settleTenant backend redis now reservation actualAmount =
      (redis.reconciled now reservation.markerKey reservation.identity actualAmount, backend.answer true) := by
  obtain ⟨held, unsettled, lasting⟩ := settleable
  have script : redis.settleScript now reservation.markerKey reservation.identity actualAmount =
      (redis.reconciled now reservation.markerKey reservation.identity actualAmount, 1) := by
    simp only [Redis.settleScript, ne_eq, held, not_true_eq_false, if_false, unsettled,
      if_neg (Int.not_le.mpr lasting)]
  have nonneg : ¬(actualAmount : Int) < 0 := by omega
  simp only [settleTenant, if_neg nonneg, Int.toNat_natCast, script]
  cases backend with
  | unreachable => exact absurd rfl reached
  | unanswered => rfl
  | answering => rfl

/-- A second settlement writes nothing, and returns only for the amount settled already. -/
theorem settleTenant_settled {backend : Backend} {redis : Redis} {now : Nat}
    {reservation : TenantReservation} {actualAmount amount : Nat}
    (held : get redis.markers now reservation.markerKey = some (.identity reservation.identity))
    (settled : get redis.markers now reservation.markerKey.settlementKey = some (.settled amount)) :
    (settleTenant backend redis now reservation actualAmount).1 = redis ∧
      (settleTenant backend redis now reservation actualAmount).2.isOk =
        decide (backend = .answering ∧ amount = actualAmount) := by
  have nonneg : ¬(actualAmount : Int) < 0 := by omega
  simp only [settleTenant, if_neg nonneg, Int.toNat_natCast, Redis.settleScript, ne_eq, held,
    not_true_eq_false, if_false, settled, MarkerValue.settled.injEq]
  cases backend with
  | unreachable => exact ⟨rfl, rfl⟩
  | unanswered => exact ⟨rfl, rfl⟩
  | answering =>
    by_cases same : amount = actualAmount
    · simp [Backend.eval, same, Except.isOk, Except.toBool]
    · simp [Backend.eval, same, Except.isOk, Except.toBool]

end Eiraos
