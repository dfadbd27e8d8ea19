import Eiraos.Chat.ExecutionIdentity
import Eiraos.Foundations.Footprint
import Eiraos.Usage.ExecutionBudget
import Mathlib.Logic.Equiv.List

/-! # Whose keys a call touches

The marker of an execution is named by its execution id, its counters by its organization
and its user.  The texts of these keys are concatenated without escaping, with the client's
idempotency key in the digested part.  They are unambiguous all the same, and each of the
three calls is confined to the keys of its own execution.
-/

namespace Eiraos

open DelimitedText Expiring Footprint

inductive BudgetKey where
  | counter (key : CounterKey)
  | marker (key : MarkerKey)
  deriving DecidableEq, Repr

namespace BudgetKey

def render : BudgetKey → String
  | .counter key => key.render
  | .marker key => key.render

def organizationId : BudgetKey → Nat
  | .counter (.user organizationId _) => organizationId
  | .counter (.organization organizationId) => organizationId
  | .marker key => key.organizationId

theorem render_injective {first second : BudgetKey} (same : first.render = second.render) :
    first = second := by
  cases first with
  | counter first =>
    cases second with
    | counter second => exact congrArg BudgetKey.counter (CounterKey.render_injective same)
    | marker second => exact absurd same (first.render_ne_marker second)
  | marker first =>
    cases second with
    | counter second => exact absurd same.symm (second.render_ne_marker first)
    | marker second => exact congrArg BudgetKey.marker (MarkerKey.render_injective same)

end BudgetKey

/-! ## The footprint of the scripts -/

/-- What is stored under a key, alive or not. -/
def Redis.content (redis : Redis) : BudgetKey → Option (Entry Int) ⊕ Option (Entry MarkerValue)
  | .counter key => .inl (redis.counters key)
  | .marker key => .inr (redis.markers key)

/-- The keys that the scripts are given for this marker and this tenant are among the cells. -/
structure Owned (cells : Set BudgetKey) (marker : MarkerKey) (tenant : Tenant) : Prop where
  reserved : .marker marker ∈ cells
  settled : .marker marker.settlementKey ∈ cells
  user : .counter tenant.userKey ∈ cells
  organization : .counter tenant.organizationKey ∈ cells

theorem eqOn_content {cells : Set BudgetKey} {first second : Redis} :
    Set.EqOn first.content second.content cells ↔
      Set.EqOn first.counters second.counters (Set.preimage .counter cells) ∧
        Set.EqOn first.markers second.markers (Set.preimage .marker cells) := by
  constructor
  · intro agree
    exact ⟨fun key owned => Sum.inl_injective (agree owned), fun key owned => Sum.inr_injective (agree owned)⟩
  · rintro ⟨counters, markers⟩ key owned
    cases key with
    | counter key => exact congrArg Sum.inl (counters owned)
    | marker key => exact congrArg Sum.inr (markers owned)

section Scripts

variable {cells : Set BudgetKey} {first second : Redis} {marker : MarkerKey} {counter : CounterKey}
  {identity : Identity}

theorem get_marker_congr (agree : Set.EqOn first.content second.content cells)
    (owned : .marker marker ∈ cells) (now : Nat) :
    get first.markers now marker = get second.markers now marker :=
  get_congr ((eqOn_content.mp agree).2 owned)

theorem remaining_marker_congr (agree : Set.EqOn first.content second.content cells)
    (owned : .marker marker ∈ cells) (now : Nat) :
    remaining first.markers now marker = remaining second.markers now marker :=
  remaining_congr ((eqOn_content.mp agree).2 owned)

theorem count_congr (agree : Set.EqOn first.content second.content cells)
    (owned : .counter counter ∈ cells) (now : Nat) : first.count now counter = second.count now counter :=
  number_congr ((eqOn_content.mp agree).1 owned)

/-- A counter outside the cells is neither of the two that the scripts are given. -/
theorem Owned.other_counter (owned : Owned cells marker identity.tenant)
    (foreign : .counter counter ∉ cells) :
    counter ≠ identity.tenant.userKey ∧ counter ≠ identity.tenant.organizationKey :=
  ⟨fun same => foreign (same ▸ owned.user), fun same => foreign (same ▸ owned.organization)⟩

theorem granted_confined (owned : Owned cells marker identity.tenant) (now ttlSeconds : Nat) :
    Confined Redis.content cells fun redis => (redis.granted now marker identity ttlSeconds, (1 : Int)) := by
  refine .change 1 (fun redis key foreign => ?_) fun first second agree => ?_
  · cases key with
    | counter key =>
      obtain ⟨notUser, notOrganization⟩ := owned.other_counter foreign
      simp only [Redis.content, Redis.granted, expireAt_of_ne notUser, expireAt_of_ne notOrganization,
        incrBy_of_ne notUser, incrBy_of_ne notOrganization]
    | marker key =>
      have differs : key ≠ marker := fun same => foreign (same ▸ owned.reserved)
      simp only [Redis.content, Redis.granted, put_of_ne differs]
  · obtain ⟨counters, markers⟩ := eqOn_content.mp agree
    exact eqOn_content.mpr
      ⟨eqOn_expireAt (eqOn_expireAt (eqOn_incrBy (eqOn_incrBy counters owned.user) owned.organization)
        owned.user) owned.organization, eqOn_put markers⟩

theorem released_confined (owned : Owned cells marker identity.tenant) (now : Nat) :
    Confined Redis.content cells fun redis => (redis.released now marker identity, (1 : Int)) := by
  refine .change 1 (fun redis key foreign => ?_) fun first second agree => ?_
  · cases key with
    | counter key =>
      obtain ⟨notUser, notOrganization⟩ := owned.other_counter foreign
      simp only [Redis.content, Redis.released, keepDeadline_of_ne notUser,
        keepDeadline_of_ne notOrganization]
    | marker key =>
      have differs : key ≠ marker := fun same => foreign (same ▸ owned.reserved)
      simp only [Redis.content, Redis.released, erase_of_ne differs]
  · obtain ⟨counters, markers⟩ := eqOn_content.mp agree
    refine eqOn_content.mpr ⟨?_, eqOn_erase markers⟩
    simp only [Redis.released, count_congr agree owned.user, count_congr agree owned.organization]
    exact eqOn_keepDeadline (eqOn_keepDeadline counters owned.user) owned.organization

theorem reconciled_confined (owned : Owned cells marker identity.tenant) (now actualAmount : Nat) :
    Confined Redis.content cells fun redis =>
      (redis.reconciled now marker identity actualAmount, (1 : Int)) := by
  refine .change 1 (fun redis key foreign => ?_) fun first second agree => ?_
  · cases key with
    | counter key =>
      obtain ⟨notUser, notOrganization⟩ := owned.other_counter foreign
      simp only [Redis.content, Redis.reconciled, incrBy_of_ne notUser, incrBy_of_ne notOrganization]
    | marker key =>
      have differs : key ≠ marker.settlementKey := fun same => foreign (same ▸ owned.settled)
      simp only [Redis.content, Redis.reconciled, put_of_ne differs]
  · obtain ⟨counters, markers⟩ := eqOn_content.mp agree
    refine eqOn_content.mpr ⟨eqOn_incrBy (eqOn_incrBy counters owned.user) owned.organization, ?_⟩
    simp only [Redis.reconciled, remaining_marker_congr agree owned.reserved]
    exact eqOn_put markers

/-! Each script first reads the keys it is given, and that reading decides what it does. -/

theorem reserveScript_confined (identity : Identity) (owned : Owned cells marker identity.tenant)
    (now : Nat) (userLimit organizationLimit : Int) (ttlSeconds : Nat) :
    Confined Redis.content cells fun redis =>
      redis.reserveScript now marker identity userLimit organizationLimit ttlSeconds := by
  have decided : ∀ read : Option MarkerValue × Int × Int, Confined Redis.content cells fun redis =>
      read.1.elim
        (if read.2.1 + identity.amount > userLimit then (redis, 0)
        else if read.2.2 + identity.amount > organizationLimit then (redis, 0)
        else (redis.granted now marker identity ttlSeconds, 1))
        fun existing => (redis, if existing = .identity identity then 2 else -1) := by
    rintro ⟨existing, userCurrent, organizationCurrent⟩
    cases existing with
    | some existing => exact .pass _
    | none =>
      by_cases userFull : userCurrent + identity.amount > userLimit
      · simp only [if_pos userFull]
        exact .pass _
      by_cases organizationFull : organizationCurrent + identity.amount > organizationLimit
      · simp only [if_neg userFull, if_pos organizationFull]
        exact .pass _
      · simp only [if_neg userFull, if_neg organizationFull]
        exact granted_confined owned now ttlSeconds
  have determined : ∀ first second : Redis, Set.EqOn first.content second.content cells →
      (get first.markers now marker, first.count now identity.tenant.userKey,
          first.count now identity.tenant.organizationKey) =
        (get second.markers now marker, second.count now identity.tenant.userKey,
          second.count now identity.tenant.organizationKey) := by
    intro first second agree
    rw [get_marker_congr agree owned.reserved, count_congr agree owned.user,
      count_congr agree owned.organization]
  convert Confined.branch determined decided using 2 with redis
  simp only [Redis.reserveScript]
  cases get redis.markers now marker <;> rfl

theorem releaseScript_confined (identity : Identity) (owned : Owned cells marker identity.tenant)
    (now : Nat) :
    Confined Redis.content cells fun redis => redis.releaseScript now marker identity := by
  have decided : ∀ held : Option MarkerValue, Confined Redis.content cells fun redis =>
      if held ≠ some (.identity identity) then (redis, (0 : Int))
      else (redis.released now marker identity, 1) := by
    intro held
    split
    · exact .pass _
    · exact released_confined owned now
  exact .branch (fun first second agree => get_marker_congr agree owned.reserved now) decided

theorem settleScript_confined (identity : Identity) (owned : Owned cells marker identity.tenant)
    (now actualAmount : Nat) :
    Confined Redis.content cells fun redis => redis.settleScript now marker identity actualAmount := by
  have decided : ∀ read : Option MarkerValue × Option MarkerValue × Int,
      Confined Redis.content cells fun redis =>
        if read.1 ≠ some (.identity identity) then (redis, -1)
        else
          read.2.1.elim
            (if read.2.2 ≤ 0 then (redis, -1)
            else (redis.reconciled now marker identity actualAmount, 1))
            fun existing => (redis, if existing = .settled actualAmount then 0 else -2) := by
    rintro ⟨held, existing, ttl⟩
    split
    · exact .pass _
    cases existing with
    | some existing => exact .pass _
    | none =>
      by_cases gone : ttl ≤ 0
      · simp only [if_pos gone]
        exact .pass _
      · simp only [if_neg gone]
        exact reconciled_confined owned now actualAmount
  have determined : ∀ first second : Redis, Set.EqOn first.content second.content cells →
      (get first.markers now marker, get first.markers now marker.settlementKey,
          remaining first.markers now marker) =
        (get second.markers now marker, get second.markers now marker.settlementKey,
          remaining second.markers now marker) := by
    intro first second agree
    rw [get_marker_congr agree owned.reserved, get_marker_congr agree owned.settled,
      remaining_marker_congr agree owned.reserved]
  convert Confined.branch determined decided using 2 with redis
  simp only [Redis.settleScript]
  cases get redis.markers now marker.settlementKey <;> rfl

end Scripts

/-! ## The footprint of the methods -/

section Methods

variable {cells : Set BudgetKey}

/-- Whether the script has run does not depend on the keys, and neither does what a method
makes of the answer. -/
theorem Backend.method_confined {Value : Type} {script : Redis → Redis × Int}
    {method : Redis → Redis × Except BudgetError Value} (backend : Backend)
    (finish : Except BudgetError Int → Except BudgetError Value)
    (confined : Confined Redis.content cells script)
    (shape : ∀ redis, method redis = ((backend.eval redis (script redis)).1,
      finish (backend.eval redis (script redis)).2)) :
    Confined Redis.content cells method := by
  have evaluated : Confined Redis.content cells fun redis => backend.eval redis (script redis) := by
    cases backend with
    | answering => exact confined.map Except.ok
    -- the script has not run
    | unreachable => exact .pass _
    | unanswered => exact confined.map fun _ => Except.error _
  rw [funext shape]
  exact evaluated.map finish

theorem reserveTenant_confined {request : TenantRequest} (owned : Owned cells request.markerKey request.tenant)
    (backend : Backend) (now : Nat) :
    Confined Redis.content cells fun redis => reserveTenant backend redis now request := by
  by_cases unnamed : request.reservationId = ""
  · simp only [reserveTenant, if_pos unnamed]
    exact .pass _
  by_cases invalid : min (min request.amount request.userLimit)
      (min request.organizationLimit request.ttlSeconds) ≤ 0
  · simp only [reserveTenant, if_neg unnamed, if_pos invalid]
    exact .pass _
  refine backend.method_confined
    (Except.bind · fun result =>
      if result = 0 then .error (.denied "tenant token budget exceeded")
      else if result = 1 ∨ result = 2 then .ok (request.reservation (result = 2))
      else .error (.denied "reservation identity conflict"))
    (reserveScript_confined request.identity owned now request.userLimit
      request.organizationLimit request.ttlSeconds.toNat) fun redis => ?_
  simp only [reserveTenant, if_neg unnamed, if_neg invalid]
  cases (backend.eval redis (redis.reserveScript now request.markerKey request.identity
    request.userLimit request.organizationLimit request.ttlSeconds.toNat)).2 with
  | error error => rfl
  | ok result =>
    show _ = (_, if result = 0 then _ else if result = 1 ∨ result = 2 then _ else _)
    dsimp only
    split
    · rfl
    · split <;> rfl

theorem releaseTenant_confined {reservation : TenantReservation}
    (owned : Owned cells reservation.markerKey reservation.tenant) (backend : Backend) (now : Nat) :
    Confined Redis.content cells fun redis => releaseTenant backend redis now reservation := by
  by_cases replayed : reservation.replayed = true
  · simp only [releaseTenant, if_pos replayed]
    exact .pass _
  refine backend.method_confined
    (Except.map fun _ => ())
    (releaseScript_confined reservation.identity owned now) fun redis => ?_
  simp only [releaseTenant, if_neg replayed]
  cases (backend.eval redis (redis.releaseScript now reservation.markerKey reservation.identity)).2 <;> rfl

theorem settleTenant_confined {reservation : TenantReservation}
    (owned : Owned cells reservation.markerKey reservation.tenant) (backend : Backend) (now : Nat)
    (actualAmount : Int) :
    Confined Redis.content cells fun redis => settleTenant backend redis now reservation actualAmount := by
  by_cases negative : actualAmount < 0
  · simp only [settleTenant, if_pos negative]
    exact .pass _
  refine backend.method_confined
    (Except.bind · fun result =>
      if result < 0 then .error (.denied "budget settlement identity conflict") else .ok (result = 1))
    (settleScript_confined reservation.identity owned now actualAmount.toNat) fun redis => ?_
  simp only [settleTenant, if_neg negative]
  cases (backend.eval redis (redis.settleScript now reservation.markerKey reservation.identity
    actualAmount.toNat)).2 with
  | error error => rfl
  | ok result =>
    show _ = (_, if result < 0 then _ else _)
    dsimp only
    split <;> rfl

theorem ExecutionBudget.reserve_confined {budget : ExecutionBudget} {request : BudgetRequest}
    (owned : Owned cells (budget.tenantRequest request).markerKey (budget.tenantRequest request).tenant)
    (backend : Backend) (now : Nat) :
    Confined Redis.content cells fun redis => budget.reserve backend redis now request := by
  have reserved := (reserveTenant_confined owned backend now).map
    (Except.map (ExecutionReservation.mk (budget.estimateOf request)))
  by_cases full : ((budget.estimateOf request).totalTokens : Int) > request.organizationLimit ∨
      ((budget.estimateOf request).totalTokens : Int) > request.userLimit
  · simp only [reserve, if_pos full]
    exact .pass _
  convert reserved using 2 with redis
  simp only [reserve, if_neg full]
  cases (reserveTenant backend redis now (budget.tenantRequest request)).2 <;> rfl

end Methods

/-! ## Executions -/

/-- What the digest of `hashlib.sha256(...).hexdigest()` is relied on for. -/
structure HexDigest (digest : String → String) : Prop where
  collisionFree : Function.Injective digest
  hexadecimal : ∀ text, ∀ character ∈ (digest text).toList, character ∈ "0123456789abcdef".toList

/-- The arguments of `execution_identity`, with `0` for a missing record. -/
structure KeyedExecution where
  organizationId : Nat
  userId : Nat
  idempotencyKey : String
  idempotencyRecordId : Nat
  keyed : idempotencyKey ≠ ""

namespace KeyedExecution

variable (digest : String → String)

def executionId (execution : KeyedExecution) : String :=
  executionIdentity digest (execution.organizationId, execution.userId, execution.idempotencyKey)
    execution.idempotencyRecordId

def tenant (execution : KeyedExecution) : Tenant := ⟨execution.organizationId, execution.userId⟩

def markerKey (execution : KeyedExecution) : MarkerKey :=
  ⟨execution.organizationId, execution.executionId digest⟩

/-- The texts the scripts are given as `KEYS` when they run for this execution. -/
def keyTexts (execution : KeyedExecution) : List String :=
  [(execution.markerKey digest).render, (execution.markerKey digest).settlementKey.render,
    execution.tenant.userKey.render, execution.tenant.organizationKey.render]

/-- The keys under these texts. -/
def cells (execution : KeyedExecution) : Set BudgetKey :=
  {key | key.render ∈ execution.keyTexts digest}

theorem owned (execution : KeyedExecution) :
    Owned (execution.cells digest) (execution.markerKey digest) execution.tenant where
  reserved := by simp [cells, keyTexts, BudgetKey.render]
  settled := by simp [cells, keyTexts, BudgetKey.render]
  user := by simp [cells, keyTexts, BudgetKey.render]
  organization := by simp [cells, keyTexts, BudgetKey.render]

variable {digest}

theorem mem_cells {execution : KeyedExecution} {key : BudgetKey} :
    key ∈ execution.cells digest ↔
      key = .marker (execution.markerKey digest) ∨ key = .marker (execution.markerKey digest).settlementKey ∨
        key = .counter execution.tenant.userKey ∨ key = .counter execution.tenant.organizationKey := by
  constructor
  · intro member
    simp only [cells, keyTexts, Set.mem_ofPred_eq, List.mem_cons, List.not_mem_nil, or_false] at member
    rcases member with same | same | same | same
    · exact .inl (BudgetKey.render_injective same)
    · exact .inr (.inl (BudgetKey.render_injective same))
    · exact .inr (.inr (.inl (BudgetKey.render_injective same)))
    · exact .inr (.inr (.inr (BudgetKey.render_injective same)))
  · have owned := execution.owned digest
    rintro (rfl | rfl | rfl | rfl)
    · exact owned.reserved
    · exact owned.settled
    · exact owned.user
    · exact owned.organization

theorem executionId_injective (hex : HexDigest digest) {first second : KeyedExecution}
    (same : first.executionId digest = second.executionId digest) : first = second := by
  obtain ⟨identities, records⟩ := executionIdentity_injective hex.collisionFree same
  obtain ⟨firstOrganization, firstUser, firstKey, firstRecord, _⟩ := first
  obtain ⟨secondOrganization, secondUser, secondKey, secondRecord, _⟩ := second
  simp only [Prod.mk.injEq] at identities
  obtain ⟨rfl, rfl, rfl⟩ := identities
  obtain rfl : firstRecord = secondRecord := records
  rfl

/-- An execution id holds no colon, so that it is no other id with `:settled` appended. -/
theorem markerKey_ne_settlementKey (hex : HexDigest digest) (first second : KeyedExecution) :
    first.markerKey digest ≠ (second.markerKey digest).settlementKey := by
  intro same
  have names := congrArg (fun key => key.name.toList) same
  have colon : ':' ∈ (first.executionId digest).toList := by
    show ':' ∈ (first.markerKey digest).name.toList
    rw [names]
    simp [MarkerKey.settlementKey]
  have digit := hex.hexadecimal _ ':' colon
  simp at digit

theorem markerKey_injective (hex : HexDigest digest) {firstOrganization secondOrganization : Nat}
    {first second : KeyedExecution}
    (same : (⟨firstOrganization, first.executionId digest⟩ : MarkerKey) =
      ⟨secondOrganization, second.executionId digest⟩) :
    firstOrganization = secondOrganization ∧ first = second := by
  rw [MarkerKey.mk.injEq] at same
  exact ⟨same.1, executionId_injective hex same.2⟩

theorem organizationId_of_mem_cells {execution : KeyedExecution} {key : BudgetKey}
    (member : key ∈ execution.cells digest) : key.organizationId = execution.organizationId := by
  rcases mem_cells.mp member with rfl | rfl | rfl | rfl <;> rfl

/-- The cells of an execution hold no marker and no settlement but its own. -/
theorem foreign_markers (hex : HexDigest digest) {execution other : KeyedExecution}
    (differs : other ≠ execution) :
    .marker (other.markerKey digest) ∉ execution.cells digest ∧
      .marker (other.markerKey digest).settlementKey ∉ execution.cells digest := by
  have separate : ¬other.markerKey digest = execution.markerKey digest :=
    fun same => differs (markerKey_injective hex same).2
  have unsettled := markerKey_ne_settlementKey hex
  refine ⟨fun member => ?_, fun member => ?_⟩
  · have := mem_cells.mp member
    simp [separate, unsettled] at this
  · have := mem_cells.mp member
    -- another settlement is neither this marker nor this settlement
    simp only [BudgetKey.marker.injEq, reduceCtorEq, or_false] at this
    rcases this with same | same
    · exact unsettled execution other same.symm
    · exact separate (MarkerKey.settlementKey_injective same)

end KeyedExecution

theorem budget_keys_separate {digest : String → String} (hex : HexDigest digest) :
    (∀ first second : KeyedExecution, first ≠ second →
      first.executionId digest ≠ second.executionId digest) ∧
    (∀ (firstOrganization secondOrganization : Nat) (first second : KeyedExecution),
      (firstOrganization, first) ≠ (secondOrganization, second) →
      MarkerKey.render ⟨firstOrganization, first.executionId digest⟩ ≠
        MarkerKey.render ⟨secondOrganization, second.executionId digest⟩) ∧
    (∀ (first second : KeyedExecution) (counter : CounterKey),
      (first.markerKey digest).render ≠ (second.markerKey digest).settlementKey.render ∧
      (first.markerKey digest).render ≠ counter.render ∧
      (first.markerKey digest).settlementKey.render ≠ counter.render) ∧
    ∀ execution : KeyedExecution,
      (∀ key : BudgetKey, key.organizationId ≠ execution.organizationId →
        key.render ∉ execution.keyTexts digest) ∧
      (∀ other : KeyedExecution, other ≠ execution →
        (other.markerKey digest).render ∉ execution.keyTexts digest ∧
        (other.markerKey digest).settlementKey.render ∉ execution.keyTexts digest) ∧
      ∀ (backend : Backend) (now : Nat),
        (∀ (budget : ExecutionBudget) (prompt : String) (verify : Bool) (userLimit organizationLimit : Int),
          Confined Redis.content (execution.cells digest) fun redis =>
            budget.reserve backend redis now ⟨execution.executionId digest, execution.userId,
              execution.organizationId, prompt, verify, userLimit, organizationLimit⟩) ∧
        (∀ amount userLimit organizationLimit ttlSeconds : Int,
          Confined Redis.content (execution.cells digest) fun redis =>
            reserveTenant backend redis now ⟨execution.executionId digest, execution.tenant, amount,
              userLimit, organizationLimit, ttlSeconds⟩) ∧
        ∀ (amount : Nat) (replayed : Bool),
          (Confined Redis.content (execution.cells digest) fun redis =>
            releaseTenant backend redis now
              ⟨execution.executionId digest, execution.tenant, amount, replayed⟩) ∧
          ∀ actualAmount : Int, Confined Redis.content (execution.cells digest) fun redis =>
            settleTenant backend redis now
              ⟨execution.executionId digest, execution.tenant, amount, replayed⟩ actualAmount := by
  refine ⟨?distinct, ?markers, ?families, fun execution => ⟨?organizations, ?executions, ?calls⟩⟩
  case distinct => exact fun first second differ same => differ (KeyedExecution.executionId_injective hex same)
  case markers =>
    intro firstOrganization secondOrganization first second differ same
    obtain ⟨organizations, executions⟩ :=
      KeyedExecution.markerKey_injective hex (MarkerKey.render_injective same)
    exact differ (Prod.ext organizations executions)
  case families =>
    intro first second counter
    refine ⟨fun same => ?_, (counter.render_ne_marker _).symm, (counter.render_ne_marker _).symm⟩
    exact KeyedExecution.markerKey_ne_settlementKey hex first second (MarkerKey.render_injective same)
  case organizations =>
    intro key foreign member
    have owned : key ∈ execution.cells digest := member
    exact foreign (KeyedExecution.organizationId_of_mem_cells owned)
  case executions => exact fun other differs => KeyedExecution.foreign_markers hex differs
  case calls =>
    intro backend now
    have owned := execution.owned digest
    exact ⟨fun budget prompt verify userLimit organizationLimit =>
        ExecutionBudget.reserve_confined owned backend now,
      fun amount userLimit organizationLimit ttlSeconds => reserveTenant_confined owned backend now,
      fun amount replayed => ⟨releaseTenant_confined owned backend now,
        fun actualAmount => settleTenant_confined owned backend now actualAmount⟩⟩

/-- SHA-256 on two texts that differ by a colon, and a text of its own for any other. -/
def colonDigest (text : String) : String :=
  if text = "1:2:3:4:" then "fb627a75a9747512b5edfc6a8a37c0942442e74461df0441f490373cd62d343a"
  else if text = "1:2:3:4" then "cea0885b3e474f022aff420581077beb922d20ecf5e8a213b14322ad3077169c"
  else String.ofList (List.replicate (Encodable.encode (text.toList.map Char.toNat)) '0')

theorem colonDigest_hex : HexDigest colonDigest where
  collisionFree := by
    -- Both digests have a letter, and a padded text has none.
    have padded : ∀ (text : String) (length : Nat), 'a' ∈ text.toList →
        text ≠ String.ofList (List.replicate length '0') := by
      rintro text length letter rfl
      simp at letter
    have codes : ∀ first second : String,
        String.ofList (List.replicate (Encodable.encode (first.toList.map Char.toNat)) '0') =
          String.ofList (List.replicate (Encodable.encode (second.toList.map Char.toNat)) '0') →
        first = second := by
      intro first second same
      have lengths := congrArg (fun text => text.toList.length) same
      simp only [String.toList_ofList, List.length_replicate] at lengths
      have points := Encodable.encode_injective lengths
      exact String.toList_injective (List.map_injective_iff.mpr (fun _ _ => Char.toNat_inj.mp) points)
    intro first second same
    unfold colonDigest at same
    split at same
    next isFirst =>
      split at same
      · simp_all
      split at same
      · simp at same
      · exact absurd same (padded _ _ (by decide))
    next =>
      split at same
      next =>
        split at same
        · simp at same
        split at same
        · simp_all
        · exact absurd same (padded _ _ (by decide))
      next =>
        split at same
        · exact absurd same.symm (padded _ _ (by decide))
        split at same
        · exact absurd same.symm (padded _ _ (by decide))
        · exact codes first second same
  hexadecimal := by
    intro text character member
    unfold colonDigest at member
    split at member
    · exact among_of_all (by decide +kernel) character member
    split at member
    · exact among_of_all (by decide +kernel) character member
    · simp at member
      simp [member]

/-- The keys `"3:4"` without a record and `"3"` with record 4. -/
theorem budget_keys_separate_colon :
    colonDigest "1:2:3:4:" ≠ colonDigest "1:2:3:4" ∧
      Confined Redis.content (KeyedExecution.cells colonDigest ⟨1, 2, "3:4", 0, by decide⟩) (fun redis =>
        reserveTenant .answering redis 0 ⟨colonDigest "1:2:3:4:", ⟨1, 2⟩, 10, 100, 100, 3600⟩) := by
  have material : identityMaterial (1, 2, "3:4") 0 = "1:2:3:4:" := by decide +kernel
  have otherMaterial : identityMaterial (1, 2, "3") 4 = "1:2:3:4" := by decide +kernel
  obtain ⟨distinct, _, _, frames⟩ := budget_keys_separate colonDigest_hex
  have ids := distinct ⟨1, 2, "3:4", 0, by decide⟩ ⟨1, 2, "3", 4, by decide⟩ (by simp)
  obtain ⟨_, _, calls⟩ := frames ⟨1, 2, "3:4", 0, by decide⟩
  have reserved := (calls .answering 0).2.1 10 100 100 3600
  simp only [KeyedExecution.executionId, executionIdentity, material, otherMaterial] at ids reserved
  exact ⟨ids, reserved⟩

end Eiraos
