import Eiraos.Usage.RedisReservation

/-! # What a reservation is charged

The charge of a marker in a counter is read off the keys: the settled amount where there is
one, the reserved amount otherwise, and nothing where the marker is gone or belongs to
another tenant.  Each script changes the charge of its own marker and the counters of its
own tenant by the same amount, and nothing else.
-/

namespace Eiraos

open Expiring

namespace Redis

/-- The reservation a marker stands for, while the marker exists. -/
def identity? (redis : Redis) (now : Nat) (marker : MarkerKey) : Option Identity :=
  match get redis.markers now marker with
  | some (.identity identity) => some identity
  | _ => none

def settledAmount? (redis : Redis) (now : Nat) (marker : MarkerKey) : Option Nat :=
  match get redis.markers now marker.settlementKey with
  | some (.settled amount) => some amount
  | _ => none

def charge (redis : Redis) (now : Nat) (counter : CounterKey) (marker : MarkerKey) : Nat :=
  match redis.identity? now marker with
  | none => 0
  | some identity =>
    if identity.tenant.uses counter then (redis.settledAmount? now marker).getD identity.amount else 0

end Redis

variable {redis : Redis} {now later : Nat} {marker other : MarkerKey} {identity : Identity}
  {counter : CounterKey}

@[simp] theorem Redis.identity?_eq_some :
    redis.identity? now marker = some identity ↔ get redis.markers now marker = some (.identity identity) := by
  unfold identity?
  split <;> simp_all

theorem Redis.settledAmount?_eq_some {amount : Nat} :
    redis.settledAmount? now marker = some amount ↔
      get redis.markers now marker.settlementKey = some (.settled amount) := by
  unfold settledAmount?
  split <;> simp_all

/-- What is settled of a marker stays as it is until it lapses. -/
theorem Redis.settledAmount?_later (order : now ≤ later)
    (lives : ∀ amount, redis.settledAmount? now marker = some amount →
      ∃ instant, deadline redis.markers now marker.settlementKey = some instant ∧ later < instant) :
    redis.settledAmount? later marker = redis.settledAmount? now marker := by
  cases settled : redis.settledAmount? now marker with
  | some amount =>
    obtain ⟨instant, ends, ahead⟩ := lives amount settled
    rw [settledAmount?_eq_some, get_eq_of_deadline ends ahead]
    exact settledAmount?_eq_some.mp settled
  | none =>
    cases settledLater : redis.settledAmount? later marker with
    | none => rfl
    | some amount =>
      have before := get_of_later order (settledAmount?_eq_some.mp settledLater)
      rw [settledAmount?_eq_some.mpr before] at settled
      contradiction

theorem Redis.identity?_eq_none_of_absent (absent : get redis.markers now marker = none) :
    redis.identity? now marker = none := by
  simp [identity?, absent]

theorem Redis.settledAmount?_eq_none_of_absent (absent : get redis.markers now marker.settlementKey = none) :
    redis.settledAmount? now marker = none := by
  simp [settledAmount?, absent]

theorem Redis.charge_of_absent (absent : get redis.markers now marker = none) :
    redis.charge now counter marker = 0 := by
  simp [charge, identity?_eq_none_of_absent absent]

/-- A charge is decided by what the marker and its settlement key hold. -/
theorem Redis.charge_congr {after : Redis}
    (sameIdentity : after.identity? later marker = redis.identity? now marker)
    (sameAmount : after.settledAmount? later marker = redis.settledAmount? now marker) :
    after.charge later counter marker = redis.charge now counter marker := by
  simp only [charge, sameIdentity, sameAmount]

theorem Tenant.uses_eq (tenant : Tenant) (counter : CounterKey) :
    tenant.uses counter = true ↔ counter = tenant.userKey ∨ counter = tenant.organizationKey := by
  simp [uses]

/-- A counter is the user's or the organization's, never both. -/
theorem Tenant.added_once (tenant : Tenant) (counter : CounterKey) (before amount : Int) :
    before + (if counter = tenant.userKey then amount else 0) +
        (if counter = tenant.organizationKey then amount else 0) =
      before + if tenant.uses counter then amount else 0 := by
  have distinct := tenant.userKey_ne_organizationKey
  by_cases isUser : counter = tenant.userKey
  · simp [isUser, distinct, uses]
  · by_cases isOrganization : counter = tenant.organizationKey
    · simp [isOrganization, distinct.symm, uses]
    · simp [isUser, isOrganization, uses]

/-! ## Granting -/

theorem Redis.count_granted {ttlSeconds : Nat} (lasting : 0 < ttlSeconds) :
    (redis.granted now marker identity ttlSeconds).count now counter =
      redis.count now counter + if identity.tenant.uses counter then (identity.amount : Int) else 0 := by
  have ahead : now < now + ttlSeconds * 1000 := by omega
  simp only [granted, count, number_expireAt ahead, number_incrBy]
  exact identity.tenant.added_once counter _ _

theorem Redis.get_granted_self {ttlSeconds : Nat} (lasting : 0 < ttlSeconds) :
    get (redis.granted now marker identity ttlSeconds).markers now marker = some (.identity identity) :=
  get_put_self (by simp [Entry.live]; omega)

theorem Redis.get_granted_of_ne {ttlSeconds : Nat} (differs : other ≠ marker) :
    get (redis.granted now marker identity ttlSeconds).markers now other = get redis.markers now other :=
  get_put_of_ne differs

/-- A new marker settles nobody: where it takes the name of another marker's settlement
key, that key was absent and now holds an identity. -/
theorem Redis.settledAmount?_granted {ttlSeconds : Nat} (lasting : 0 < ttlSeconds)
    (absent : get redis.markers now marker = none) :
    (redis.granted now marker identity ttlSeconds).settledAmount? now other =
      redis.settledAmount? now other := by
  by_cases collides : other.settlementKey = marker
  · have unsettled : redis.settledAmount? now other = none :=
      settledAmount?_eq_none_of_absent (collides ▸ absent)
    rw [unsettled, settledAmount?, collides, get_granted_self lasting]
  · simp only [settledAmount?, get_granted_of_ne collides]

theorem Redis.charge_granted_of_ne {ttlSeconds : Nat} (lasting : 0 < ttlSeconds)
    (absent : get redis.markers now marker = none) (differs : other ≠ marker) :
    (redis.granted now marker identity ttlSeconds).charge now counter other =
      redis.charge now counter other :=
  charge_congr (by simp only [identity?, get_granted_of_ne differs]) (settledAmount?_granted lasting absent)

theorem Redis.charge_granted_self {ttlSeconds : Nat} (lasting : 0 < ttlSeconds)
    (absent : get redis.markers now marker = none) (unsettled : redis.settledAmount? now marker = none) :
    (redis.granted now marker identity ttlSeconds).charge now counter marker =
      if identity.tenant.uses counter then identity.amount else 0 := by
  have held : (redis.granted now marker identity ttlSeconds).identity? now marker = some identity :=
    identity?_eq_some.mpr (get_granted_self lasting)
  simp [charge, held, settledAmount?_granted lasting absent, unsettled]

/-! ## Releasing -/

theorem Redis.count_released :
    (redis.released now marker identity).count now counter =
      if identity.tenant.uses counter then max 0 (redis.count now counter - identity.amount)
      else redis.count now counter := by
  simp only [released, count]
  have distinct := identity.tenant.userKey_ne_organizationKey
  by_cases isUser : counter = identity.tenant.userKey
  · simp [isUser, distinct, Tenant.uses]
  · by_cases isOrganization : counter = identity.tenant.organizationKey
    · simp [isOrganization, Tenant.uses]
    · simp [isUser, isOrganization, Tenant.uses]

theorem Redis.get_released_self : get (redis.released now marker identity).markers now marker = none :=
  get_erase_self

theorem Redis.get_released_of_ne (differs : other ≠ marker) :
    get (redis.released now marker identity).markers now other = get redis.markers now other :=
  get_erase_of_ne differs

theorem Redis.settledAmount?_released
    (held : get redis.markers now marker = some (.identity identity)) :
    (redis.released now marker identity).settledAmount? now other = redis.settledAmount? now other := by
  by_cases collides : other.settlementKey = marker
  · simp only [settledAmount?, collides, get_released_self, held]
  · simp only [settledAmount?, get_released_of_ne collides]

theorem Redis.charge_released_self : (redis.released now marker identity).charge now counter marker = 0 :=
  charge_of_absent get_released_self

theorem Redis.charge_released_of_ne (held : get redis.markers now marker = some (.identity identity))
    (differs : other ≠ marker) :
    (redis.released now marker identity).charge now counter other = redis.charge now counter other :=
  charge_congr (by simp only [identity?, get_released_of_ne differs]) (settledAmount?_released held)

/-! ## Settling -/

theorem Redis.count_reconciled {actualAmount : Nat} :
    (redis.reconciled now marker identity actualAmount).count now counter =
      redis.count now counter +
        if identity.tenant.uses counter then (actualAmount : Int) - identity.amount else 0 := by
  simp only [reconciled, count, number_incrBy]
  exact identity.tenant.added_once counter _ _

theorem Redis.get_reconciled_of_ne {actualAmount : Nat} (differs : other ≠ marker.settlementKey) :
    get (redis.reconciled now marker identity actualAmount).markers now other =
      get redis.markers now other :=
  get_put_of_ne differs

theorem Redis.get_reconciled_self {actualAmount : Nat} (lasting : 0 < remaining redis.markers now marker) :
    get (redis.reconciled now marker identity actualAmount).markers now marker.settlementKey =
      some (.settled actualAmount) :=
  get_put_self (by simp [Entry.live]; omega)

theorem Redis.settledAmount?_reconciled_self {actualAmount : Nat}
    (lasting : 0 < remaining redis.markers now marker) :
    (redis.reconciled now marker identity actualAmount).settledAmount? now marker = some actualAmount :=
  settledAmount?_eq_some.mpr (get_reconciled_self lasting)

theorem Redis.settledAmount?_reconciled_of_ne {actualAmount : Nat} (differs : other ≠ marker) :
    (redis.reconciled now marker identity actualAmount).settledAmount? now other =
      redis.settledAmount? now other := by
  have keys : other.settlementKey ≠ marker.settlementKey := fun same =>
    differs (MarkerKey.settlementKey_injective same)
  simp only [settledAmount?, get_reconciled_of_ne keys]

theorem Redis.identity?_reconciled {actualAmount : Nat} (lasting : 0 < remaining redis.markers now marker)
    (unsettled : get redis.markers now marker.settlementKey = none) :
    (redis.reconciled now marker identity actualAmount).identity? now other =
      redis.identity? now other := by
  by_cases collides : other = marker.settlementKey
  · rw [collides, identity?_eq_none_of_absent unsettled, identity?, get_reconciled_self lasting]
  · simp only [identity?, get_reconciled_of_ne collides]

theorem Redis.charge_reconciled_self {actualAmount : Nat}
    (held : get redis.markers now marker = some (.identity identity))
    (unsettled : get redis.markers now marker.settlementKey = none)
    (lasting : 0 < remaining redis.markers now marker) :
    (redis.reconciled now marker identity actualAmount).charge now counter marker =
      if identity.tenant.uses counter then actualAmount else 0 := by
  simp [charge, identity?_reconciled lasting unsettled, identity?_eq_some.mpr held,
    settledAmount?_reconciled_self lasting]

theorem Redis.charge_reconciled_of_ne {actualAmount : Nat} (differs : other ≠ marker)
    (unsettled : get redis.markers now marker.settlementKey = none)
    (lasting : 0 < remaining redis.markers now marker) :
    (redis.reconciled now marker identity actualAmount).charge now counter other =
      redis.charge now counter other :=
  charge_congr (identity?_reconciled lasting unsettled) (settledAmount?_reconciled_of_ne differs)

/-- The charge of a marker that is held and not settled is the reserved amount. -/
theorem Redis.charge_of_unsettled (held : get redis.markers now marker = some (.identity identity))
    (unsettled : redis.settledAmount? now marker = none) :
    redis.charge now counter marker = if identity.tenant.uses counter then identity.amount else 0 := by
  simp [charge, identity?_eq_some.mpr held, unsettled]

/-! ## The counters with their deadlines -/

theorem Redis.find_granted_of_uses {ttlSeconds : Nat} (lasting : 0 < ttlSeconds)
    (uses : identity.tenant.uses counter = true) :
    find (redis.granted now marker identity ttlSeconds).counters now counter =
      some ⟨redis.count now counter + identity.amount, some (now + ttlSeconds * 1000)⟩ := by
  have ahead : now < now + ttlSeconds * 1000 := by omega
  have distinct := identity.tenant.userKey_ne_organizationKey
  simp only [granted]
  rcases (Tenant.uses_eq _ _).mp uses with rfl | rfl
  · rw [find_expireAt_of_ne distinct, find_expireAt_self ahead, find_incrBy_of_ne distinct,
      find_incrBy_self]
    rfl
  · rw [find_expireAt_self ahead, find_expireAt_of_ne distinct.symm, find_incrBy_self, number_incrBy,
      if_neg distinct.symm, Int.add_zero]
    rfl

theorem Redis.find_granted_of_not_uses {ttlSeconds : Nat} (unused : ¬identity.tenant.uses counter = true) :
    find (redis.granted now marker identity ttlSeconds).counters now counter =
      find redis.counters now counter := by
  rw [Tenant.uses_eq, not_or] at unused
  simp [granted, unused]

theorem Redis.find_reconciled_of_uses {actualAmount : Nat} (uses : identity.tenant.uses counter = true) :
    find (redis.reconciled now marker identity actualAmount).counters now counter =
      some ⟨redis.count now counter + ((actualAmount : Int) - identity.amount),
        deadline redis.counters now counter⟩ := by
  have distinct := identity.tenant.userKey_ne_organizationKey
  simp only [reconciled]
  rcases (Tenant.uses_eq _ _).mp uses with rfl | rfl
  · rw [find_incrBy_of_ne distinct]
    exact find_incrBy_self
  · rw [find_incrBy_self, number_incrBy, if_neg distinct.symm, Int.add_zero, deadline_incrBy]
    rfl

theorem Redis.find_reconciled_of_not_uses {actualAmount : Nat}
    (unused : ¬identity.tenant.uses counter = true) :
    find (redis.reconciled now marker identity actualAmount).counters now counter =
      find redis.counters now counter := by
  rw [Tenant.uses_eq, not_or] at unused
  simp [reconciled, unused]

theorem Redis.count_of_find {entry : Entry Int} (found : find redis.counters now counter = some entry) :
    redis.count now counter = entry.value := by
  simp [count, number, Expiring.get, found]

theorem Redis.count_of_absent (absent : find redis.counters now counter = none) :
    redis.count now counter = 0 := by
  simp [count, number, Expiring.get, absent]

/-! ## While nothing expires -/

theorem Redis.Steady.count_eq (steady : redis.Steady now later) (order : now ≤ later) :
    redis.count later counter = redis.count now counter := by
  simp only [count, number, steady.1.get_eq order]

theorem Redis.Steady.get_eq (steady : redis.Steady now later) (order : now ≤ later) :
    get redis.markers later marker = get redis.markers now marker :=
  steady.2.get_eq order marker

theorem Redis.Steady.settledAmount?_eq (steady : redis.Steady now later) (order : now ≤ later) :
    redis.settledAmount? later marker = redis.settledAmount? now marker := by
  simp only [settledAmount?, steady.get_eq order]

theorem Redis.Steady.charge_eq (steady : redis.Steady now later) (order : now ≤ later) :
    redis.charge later counter marker = redis.charge now counter marker :=
  charge_congr (by simp only [identity?, steady.get_eq order]) (steady.settledAmount?_eq order)

end Eiraos
