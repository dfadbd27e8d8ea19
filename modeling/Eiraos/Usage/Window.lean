import Eiraos.Foundations.Run
import Eiraos.Foundations.Sums
import Eiraos.Usage.Charges

/-! # The token budget as a window

Reservations and settlements under constant limits and a constant lifetime, with a clock.
Each grant gives both counters a new deadline, while its own marker keeps the old one: a
counter lives on as long as there is traffic, and with it every charge made since it was
created.  `grants` is the history of the granted reservations with what was settled of
them, and `since` the instant each counter was last created.
-/

namespace Eiraos

open Expiring

structure BudgetLimits where
  user : Int
  organization : Int
  ttlSeconds : Int
  deriving DecidableEq, Repr

structure BudgetGrant where
  time : Nat
  marker : MarkerKey
  identity : Identity
  settled : Option Nat
  deriving DecidableEq, Repr

namespace BudgetGrant

def key (grant : BudgetGrant) : MarkerKey × Nat := (grant.marker, grant.time)

/-- The tokens of a reservation: settled, or reserved if unsettled. -/
def held (grant : BudgetGrant) : Nat := grant.settled.getD grant.identity.amount

def uses (grant : BudgetGrant) (counter : CounterKey) : Bool := grant.identity.tenant.uses counter

def lapses (limits : BudgetLimits) (grant : BudgetGrant) : Nat := grant.time + limits.ttlSeconds.toNat * 1000

/-- Granted when the counter, created at this instant, was there. -/
def countedIn (counter : CounterKey) (since : Nat) (grant : BudgetGrant) : Bool :=
  grant.uses counter ∧ since ≤ grant.time

/-- Granted within the window that ends at this instant. -/
def inWindow (limits : BudgetLimits) (counter : CounterKey) (now : Nat) (grant : BudgetGrant) : Bool :=
  grant.uses counter ∧ now < grant.lapses limits

end BudgetGrant

structure WindowState where
  redis : Redis
  now : Nat
  grants : List BudgetGrant
  since : CounterKey → Nat

inductive WindowLabel where
  | elapse (milliseconds : Nat)
  | reserve (backend : Backend) (reservationId : String) (tenant : Tenant) (amount : Int)
  | settle (backend : Backend) (reservation : TenantReservation) (actualAmount : Int)
  deriving DecidableEq, Repr

def BudgetLimits.request (limits : BudgetLimits) (reservationId : String) (tenant : Tenant)
    (amount : Int) : TenantRequest :=
  ⟨reservationId, tenant, amount, limits.user, limits.organization, limits.ttlSeconds⟩

namespace WindowState

def initial (now : Nat) : WindowState := ⟨Redis.empty, now, [], fun _ => now⟩

def recordGrant (state : WindowState) (request : TenantRequest) (after : Redis) : WindowState :=
  { redis := after
    now := state.now
    grants := state.grants ++ [⟨state.now, request.markerKey, request.identity, none⟩]
    since := fun counter =>
      if request.tenant.uses counter ∧ find state.redis.counters state.now counter = none then state.now
      else state.since counter }

/-- The grant the marker stands for now. -/
def current? (limits : BudgetLimits) (state : WindowState) (marker : MarkerKey) : Option BudgetGrant :=
  state.grants.find? fun grant => grant.marker = marker ∧ state.now < grant.lapses limits

def recordSettlement (state : WindowState) (grant : BudgetGrant) (amount : Nat) (after : Redis) : WindowState :=
  { redis := after
    now := state.now
    grants := Rows.replace BudgetGrant.key { grant with settled := some amount } state.grants
    since := state.since }

/-- A grant shows in a marker that was not there, a settlement in an amount that was not. -/
def step (limits : BudgetLimits) (state : WindowState) : WindowLabel → Option WindowState
  | .elapse milliseconds => some { state with now := state.now + milliseconds }
  | .reserve backend reservationId tenant amount =>
    let request := limits.request reservationId tenant amount
    let after := (reserveTenant backend state.redis state.now request).1
    if state.redis.identity? state.now request.markerKey = none ∧
        after.identity? state.now request.markerKey ≠ none then
      some (state.recordGrant request after)
    else some { state with redis := after }
  | .settle backend reservation actualAmount =>
    let after := (settleTenant backend state.redis state.now reservation actualAmount).1
    match state.redis.settledAmount? state.now reservation.markerKey,
      after.settledAmount? state.now reservation.markerKey,
      state.current? limits reservation.markerKey with
    | none, some amount, some grant => some (state.recordSettlement grant amount after)
    | _, _, _ => some { state with redis := after }

/-- The tokens charged to a counter since it was created. -/
def counted (state : WindowState) (counter : CounterKey) : Nat :=
  ((state.grants.filter (BudgetGrant.countedIn counter (state.since counter))).map BudgetGrant.held).sum

/-- The tokens held by the reservations of the window that ends now. -/
def heldInWindow (limits : BudgetLimits) (state : WindowState) (counter : CounterKey) : Nat :=
  ((state.grants.filter (BudgetGrant.inWindow limits counter state.now)).map BudgetGrant.held).sum

end WindowState

open WindowState

structure Windowed (limits : BudgetLimits) (state : WindowState) : Prop where
  keys : Rows.Unique BudgetGrant.key state.grants
  past : ∀ grant ∈ state.grants, grant.time ≤ state.now
  counted : ∀ counter entry, find state.redis.counters state.now counter = some entry →
    entry.value = state.counted counter ∧ ∃ deadline, entry.deadline = some deadline ∧
      ∀ grant ∈ state.grants, grant.uses counter = true → state.since counter ≤ grant.time →
        grant.lapses limits ≤ deadline
  absent : ∀ counter, find state.redis.counters state.now counter = none →
    ∀ grant ∈ state.grants, grant.uses counter = true → grant.lapses limits ≤ state.now
  created : ∀ counter, state.since counter ≤ state.now
  outlived : ∀ counter, ∀ grant ∈ state.grants, grant.uses counter = true →
    grant.time < state.since counter → grant.lapses limits ≤ state.since counter
  live : ∀ grant ∈ state.grants, state.now < grant.lapses limits →
    find state.redis.markers state.now grant.marker =
      some ⟨.identity grant.identity, some (grant.lapses limits)⟩ ∧
    state.redis.settledAmount? state.now grant.marker = grant.settled
  listed : ∀ marker identity, get state.redis.markers state.now marker = some (.identity identity) →
    ∃ grant ∈ state.grants, grant.marker = marker ∧ state.now < grant.lapses limits
  settledBy : ∀ marker amount, state.redis.settledAmount? state.now marker = some amount →
    ∃ grant ∈ state.grants, grant.marker = marker ∧
      deadline state.redis.markers state.now marker.settlementKey = some (grant.lapses limits)

namespace Windowed

variable {limits : BudgetLimits} {state : WindowState}

theorem initial (now : Nat) : Windowed limits (initial now) where
  keys := List.nodup_nil
  past := fun _ member => by cases member
  counted := fun _ _ found => by cases found
  absent := fun _ _ _ member => by cases member
  created := fun _ => Nat.le_refl _
  outlived := fun _ _ member => by cases member
  live := fun _ member => by cases member
  listed := fun _ _ held => by cases held
  settledBy := fun _ _ settled => by cases settled

/-- At most one grant of a marker is alive. -/
theorem live_unique (windowed : Windowed limits state) {first second : BudgetGrant}
    (firstMem : first ∈ state.grants) (secondMem : second ∈ state.grants)
    (same : first.marker = second.marker) (firstLive : state.now < first.lapses limits)
    (secondLive : state.now < second.lapses limits) : first = second := by
  have firstFound := (windowed.live first firstMem firstLive).1
  have secondFound := (windowed.live second secondMem secondLive).1
  rw [same, secondFound, Option.some.injEq, Entry.mk.injEq] at firstFound
  have times : first.time = second.time := by
    have ends := Option.some.inj firstFound.2
    simp only [BudgetGrant.lapses] at ends
    omega
  exact windowed.keys.eq firstMem secondMem (Prod.ext same times)

theorem current?_eq (windowed : Windowed limits state) {grant : BudgetGrant} (member : grant ∈ state.grants)
    (alive : state.now < grant.lapses limits) : state.current? limits grant.marker = some grant := by
  cases found : state.current? limits grant.marker with
  | none =>
    have none := List.find?_eq_none.mp found grant member
    simp [alive] at none
  | some other =>
    have chosen : other.marker = grant.marker ∧ state.now < other.lapses limits := by
      simpa using List.find?_some found
    rw [windowed.live_unique (List.mem_of_find?_eq_some found) member chosen.1 chosen.2 alive]

/-- Every grant of a marker that is gone has lapsed. -/
theorem lapsed_of_missing (windowed : Windowed limits state) {marker : MarkerKey}
    (missing : get state.redis.markers state.now marker = none) {grant : BudgetGrant}
    (member : grant ∈ state.grants) (same : grant.marker = marker) : grant.lapses limits ≤ state.now := by
  by_contra alive
  have found := (windowed.live grant member (by omega)).1
  rw [same, get_eq_none.mp missing] at found
  contradiction

/-- Nothing is settled of a marker that is gone. -/
theorem unsettled_of_missing (windowed : Windowed limits state) {marker : MarkerKey}
    (missing : get state.redis.markers state.now marker = none) :
    state.redis.settledAmount? state.now marker = none := by
  by_contra settled
  obtain ⟨amount, settled⟩ := Option.ne_none_iff_exists'.mp settled
  obtain ⟨grant, member, same, ends⟩ := windowed.settledBy _ _ settled
  have := windowed.lapsed_of_missing missing member same
  have := lt_of_deadline ends
  omega

/-! ## The clock -/

/-- A settled amount lives exactly as long as the marker it belongs to. -/
theorem settledAmount?_later (windowed : Windowed limits state) {later : Nat} (order : state.now ≤ later)
    {grant : BudgetGrant} (member : grant ∈ state.grants) (alive : later < grant.lapses limits) :
    state.redis.settledAmount? later grant.marker = state.redis.settledAmount? state.now grant.marker := by
  refine Redis.settledAmount?_later order fun amount settled => ?_
  obtain ⟨settler, settlerMem, sameMarker, ends⟩ := windowed.settledBy _ _ settled
  have isGrant := windowed.live_unique settlerMem member sameMarker (lt_of_deadline ends) (by omega)
  exact ⟨grant.lapses limits, isGrant ▸ ends, alive⟩

theorem elapse (windowed : Windowed limits state) (milliseconds : Nat) :
    Windowed limits { state with now := state.now + milliseconds } := by
  have order : state.now ≤ state.now + milliseconds := Nat.le_add_right _ _
  constructor
  case keys => exact windowed.keys
  case outlived => exact windowed.outlived
  case past =>
    intro grant member
    exact Nat.le_trans (windowed.past grant member) order
  case counted =>
    intro counter entry found
    exact windowed.counted counter entry (find_of_later order found)
  case absent =>
    intro counter missing grant member uses
    dsimp only at missing ⊢
    -- A counter that expires meanwhile has outlived every grant that it counts.
    cases found : find state.redis.counters state.now counter with
    | none => exact Nat.le_trans (windowed.absent counter found grant member uses) order
    | some entry =>
      obtain ⟨_, instant, ends, covers⟩ := windowed.counted counter entry found
      have ahead : instant ≤ state.now + milliseconds := by
        by_contra ahead
        rw [find_before_deadline found ends (by omega)] at missing
        contradiction
      by_cases early : state.since counter ≤ grant.time
      · exact Nat.le_trans (covers grant member uses early) ahead
      · have := windowed.outlived counter grant member uses (by omega)
        have := windowed.created counter
        omega
  case created =>
    intro counter
    exact Nat.le_trans (windowed.created counter) order
  case live =>
    intro grant member alive
    dsimp only at alive ⊢
    obtain ⟨found, settled⟩ := windowed.live grant member (by omega)
    exact ⟨find_before_deadline found rfl alive,
      (windowed.settledAmount?_later order member alive).trans settled⟩
  case listed =>
    intro marker identity held
    dsimp only at held ⊢
    obtain ⟨grant, member, sameMarker, alive⟩ :=
      windowed.listed marker identity (get_of_later order held)
    refine ⟨grant, member, sameMarker, ?_⟩
    rw [← sameMarker] at held
    have found := find_of_get_later order held (windowed.live grant member alive).1
    exact lt_of_deadline (deadline_eq_some.mpr ⟨_, found, rfl⟩)
  case settledBy =>
    intro marker amount settled
    dsimp only at settled ⊢
    have held := Redis.settledAmount?_eq_some.mp settled
    obtain ⟨grant, member, sameMarker, ends⟩ :=
      windowed.settledBy marker amount (Redis.settledAmount?_eq_some.mpr (get_of_later order held))
    exact ⟨grant, member, sameMarker, deadline_of_get_later order held ends⟩

/-! ## A grant -/

section Granting

variable {request : TenantRequest} {after : Redis}

@[simp] theorem recordGrant_redis : (state.recordGrant request after).redis = after := rfl

@[simp] theorem recordGrant_now : (state.recordGrant request after).now = state.now := rfl

theorem mem_recordGrant {grant : BudgetGrant} : grant ∈ (state.recordGrant request after).grants ↔
    grant ∈ state.grants ∨ grant = ⟨state.now, request.markerKey, request.identity, none⟩ := by
  simp [recordGrant]

/-- The new grant is the only one counted where the counter is created by it, and one more
where the counter was alive. -/
theorem counted_recordGrant (windowed : Windowed limits state) (lasting : 0 < limits.ttlSeconds.toNat)
    (counter : CounterKey) (uses : request.tenant.uses counter = true) :
    ((state.recordGrant request after).counted counter : Int) =
      state.redis.count state.now counter + request.identity.amount := by
  have usesNew : (BudgetGrant.mk state.now request.markerKey request.identity none).uses counter = true := uses
  cases found : find state.redis.counters state.now counter with
  | none =>
    have created : (state.recordGrant request after).since counter = state.now := if_pos ⟨uses, found⟩
    have fresh : state.grants.filter (BudgetGrant.countedIn counter state.now) = [] := by
      rw [List.filter_eq_nil_iff]
      intro grant member both
      simp only [BudgetGrant.countedIn, decide_eq_true_eq] at both
      have exceeds := windowed.absent counter found grant member both.1
      simp only [BudgetGrant.lapses] at exceeds
      omega
    simp only [WindowState.counted, created]
    simp only [recordGrant, List.filter_append, fresh, List.nil_append]
    simp [BudgetGrant.countedIn, usesNew, BudgetGrant.held, Redis.count_of_absent found]
  | some entry =>
    have kept : (state.recordGrant request after).since counter = state.since counter :=
      if_neg (by simp [found])
    have early := windowed.created counter
    have value := (windowed.counted counter entry found).1
    rw [Redis.count_of_find found, value]
    simp only [WindowState.counted, kept]
    simp [recordGrant, List.filter_append, BudgetGrant.countedIn, usesNew, early, BudgetGrant.held]

theorem since_recordGrant_of_not_uses {counter : CounterKey}
    (unused : ¬request.identity.tenant.uses counter = true) :
    (state.recordGrant request after).since counter = state.since counter :=
  if_neg fun both => unused both.1

theorem counted_recordGrant_of_not_uses (counter : CounterKey)
    (unused : ¬request.identity.tenant.uses counter = true) :
    (state.recordGrant request after).counted counter = state.counted counter := by
  have unusedNew : (BudgetGrant.mk state.now request.markerKey request.identity none).uses counter = false := by
    simpa [BudgetGrant.uses] using unused
  simp only [WindowState.counted, since_recordGrant_of_not_uses unused]
  simp [recordGrant, List.filter_append, BudgetGrant.countedIn, unusedNew]

theorem grant (windowed : Windowed limits state) (ttl : request.ttlSeconds = limits.ttlSeconds)
    (grantable : Grantable state.redis state.now request) :
    Windowed limits (state.recordGrant request
      (state.redis.granted state.now request.markerKey request.identity request.ttlSeconds.toNat)) := by
  obtain ⟨_, _, missing, positive, lasting, _, _⟩ := grantable
  have lastingLimits : 0 < limits.ttlSeconds.toNat := ttl ▸ lasting
  have unsettled := windowed.unsettled_of_missing missing
  have newLapses : (BudgetGrant.mk state.now request.markerKey request.identity none).lapses limits =
      state.now + request.ttlSeconds.toNat * 1000 := by
    rw [ttl]
    rfl
  have unusedNew : ∀ counter, ¬request.tenant.uses counter = true →
      ¬(BudgetGrant.mk state.now request.markerKey request.identity none).uses counter = true :=
    fun _ unused => unused
  constructor
  case keys =>
    -- An earlier grant of the marker has lapsed, so it was made at another time.
    refine windowed.keys.append fun old member same => ?_
    have markers : old.marker = request.markerKey := congrArg Prod.fst same
    have times : old.time = state.now := congrArg Prod.snd same
    have := windowed.lapsed_of_missing missing member markers
    simp only [BudgetGrant.lapses] at this
    omega
  case past =>
    intro grant member
    rcases mem_recordGrant.mp member with member | rfl
    · exact windowed.past grant member
    · exact Nat.le_refl _
  case counted =>
    intro counter entry found
    simp only [recordGrant_redis, recordGrant_now] at found
    by_cases uses : request.identity.tenant.uses counter = true
    · rw [Redis.find_granted_of_uses lasting uses, Option.some.injEq] at found
      subst found
      -- The expiry is set anew, and no grant made so far lapses later than one made now.
      refine ⟨(windowed.counted_recordGrant lastingLimits counter uses).symm, _, rfl, ?_⟩
      intro grant member _ _
      rcases mem_recordGrant.mp member with member | rfl
      · have := windowed.past grant member
        simp only [BudgetGrant.lapses, ttl]
        omega
      · rw [newLapses]
    · rw [Redis.find_granted_of_not_uses uses] at found
      obtain ⟨value, instant, ends, covers⟩ := windowed.counted counter entry found
      refine ⟨?_, instant, ends, ?_⟩
      · rw [counted_recordGrant_of_not_uses counter uses]
        exact value
      · intro grant member usesCounter early
        rcases mem_recordGrant.mp member with member | rfl
        · rw [since_recordGrant_of_not_uses uses] at early
          exact covers grant member usesCounter early
        · exact absurd usesCounter (unusedNew counter uses)
  case absent =>
    intro counter gone grant member usesCounter
    simp only [recordGrant_redis, recordGrant_now] at gone
    by_cases uses : request.identity.tenant.uses counter = true
    · rw [Redis.find_granted_of_uses lasting uses] at gone
      contradiction
    · rw [Redis.find_granted_of_not_uses uses] at gone
      rcases mem_recordGrant.mp member with member | rfl
      · exact windowed.absent counter gone grant member usesCounter
      · exact absurd usesCounter (unusedNew counter uses)
  case created =>
    intro counter
    simp only [recordGrant]
    split
    · exact Nat.le_refl _
    · exact windowed.created counter
  case outlived =>
    intro counter grant member uses early
    have created := windowed.created counter
    rcases mem_recordGrant.mp member with member | rfl
    · simp only [recordGrant] at early ⊢
      split
      -- The counter starts now because it was gone, and every grant counted in it had lapsed.
      next newly => exact windowed.absent counter newly.2 grant member uses
      next kept =>
        rw [if_neg kept] at early
        exact windowed.outlived counter grant member uses early
    · -- The new grant is not older than the counter it is counted in.
      simp only [recordGrant] at early
      split at early <;> omega
  case live =>
    intro grant member alive
    simp only [recordGrant_redis, recordGrant_now] at alive ⊢
    rcases mem_recordGrant.mp member with member | rfl
    -- The marker of a live grant is there, and the requested one was missing.
    · have differs : grant.marker ≠ request.markerKey := by
        intro same
        have := windowed.lapsed_of_missing missing member same
        omega
      obtain ⟨found, settled⟩ := windowed.live grant member alive
      exact ⟨(find_put_of_ne differs).trans found,
        (Redis.settledAmount?_granted lasting missing).trans settled⟩
    · rw [newLapses]
      refine ⟨find_put_self (by simp [Entry.live]; omega), ?_⟩
      exact (Redis.settledAmount?_granted lasting missing).trans unsettled
  case listed =>
    intro marker identity held
    simp only [recordGrant_redis, recordGrant_now] at held ⊢
    by_cases same : marker = request.markerKey
    · refine ⟨_, mem_recordGrant.mpr (.inr rfl), same.symm, ?_⟩
      rw [newLapses]
      omega
    · rw [Redis.get_granted_of_ne same] at held
      obtain ⟨grant, member, sameMarker, alive⟩ := windowed.listed marker identity held
      exact ⟨grant, mem_recordGrant.mpr (.inl member), sameMarker, alive⟩
  case settledBy =>
    intro marker amount settled
    simp only [recordGrant_redis, recordGrant_now] at settled ⊢
    rw [Redis.settledAmount?_granted lasting missing] at settled
    obtain ⟨grant, member, sameMarker, ends⟩ := windowed.settledBy marker amount settled
    have differs : marker.settlementKey ≠ request.markerKey := by
      intro same
      have held := Redis.settledAmount?_eq_some.mp settled
      rw [same, missing] at held
      contradiction
    refine ⟨grant, mem_recordGrant.mpr (.inl member), sameMarker, ?_⟩
    rw [← ends]
    exact congrArg (Option.bind · Entry.deadline) (find_put_of_ne differs)

end Granting

/-! ## A settlement -/

section Settling

variable {reservation : TenantReservation} {actualAmount : Nat} {settledGrant : BudgetGrant}

/-- Recording what was settled of a grant changes the sums it is in by the difference. -/
theorem counted_recordSettlement {after : Redis} (windowed : Windowed limits state)
    (member : settledGrant ∈ state.grants) (unsettled : settledGrant.settled = none)
    (counter : CounterKey) :
    ((state.recordSettlement settledGrant actualAmount after).counted counter : Int) =
      state.counted counter +
        if settledGrant.countedIn counter (state.since counter) then
          (actualAmount : Int) - settledGrant.identity.amount
        else 0 := by
  have sameCondition : ∀ old ∈ state.grants,
      BudgetGrant.key old = BudgetGrant.key { settledGrant with settled := some actualAmount } →
        BudgetGrant.countedIn counter (state.since counter) old =
          BudgetGrant.countedIn counter (state.since counter)
            { settledGrant with settled := some actualAmount } := by
    intro old oldMem same
    rw [windowed.keys.eq oldMem member same]
    rfl
  simp only [WindowState.counted, recordSettlement]
  rw [Rows.filter_replace _ sameCondition]
  split
  next chosen =>
    have present : settledGrant ∈ state.grants.filter
        (BudgetGrant.countedIn counter (state.since counter)) :=
      List.mem_filter.mpr ⟨member, chosen⟩
    have sums : ((Rows.replace BudgetGrant.key { settledGrant with settled := some actualAmount } _).map
        BudgetGrant.held).sum + settledGrant.held = _ :=
      Sums.sum_replace BudgetGrant.held (windowed.keys.filter _) present rfl
    simp only [BudgetGrant.held, unsettled, Option.getD_none, Option.getD_some] at sums ⊢
    omega
  next other =>
    rw [Rows.replace_of_absent, Int.add_zero]
    intro old oldMem same
    obtain ⟨oldMem, chosen⟩ := List.mem_filter.mp oldMem
    rw [windowed.keys.eq oldMem member same] at chosen
    exact other chosen

/-- The grants after a settlement are the grants before it, one of them with an amount. -/
theorem mem_recordSettlement {after : Redis} {grant : BudgetGrant}
    (member : grant ∈ (state.recordSettlement settledGrant actualAmount after).grants) :
    (grant = { settledGrant with settled := some actualAmount } ∧
      ∃ old ∈ state.grants, old.key = settledGrant.key) ∨
    (grant ∈ state.grants ∧ grant.key ≠ settledGrant.key) :=
  Rows.mem_replace.mp member

/-- A grant after a settlement was there before it, but for its amount. -/
theorem carried_recordSettlement {after : Redis} (limits : BudgetLimits) (present : settledGrant ∈ state.grants)
    {grant : BudgetGrant} (member : grant ∈ (state.recordSettlement settledGrant actualAmount after).grants) :
    ∃ old ∈ state.grants, old.time = grant.time ∧ old.uses = grant.uses ∧
      old.lapses limits = grant.lapses limits := by
  rcases mem_recordSettlement member with ⟨rfl, _⟩ | ⟨member, _⟩
  · exact ⟨settledGrant, present, rfl, rfl, rfl⟩
  · exact ⟨grant, member, rfl, rfl, rfl⟩

theorem kept_recordSettlement {grant : BudgetGrant} (member : grant ∈ state.grants)
    (windowed : Windowed limits state) (present : settledGrant ∈ state.grants) :
    ∃ kept ∈ Rows.replace BudgetGrant.key { settledGrant with settled := some actualAmount } state.grants,
      kept.marker = grant.marker ∧ kept.lapses limits = grant.lapses limits := by
  by_cases same : grant.key = settledGrant.key
  · obtain rfl := windowed.keys.eq member present same
    exact ⟨_, Rows.mem_replace_self member rfl, rfl, rfl⟩
  · exact ⟨grant, Rows.mem_replace_of_ne member same, rfl, rfl⟩

/-- The grant that a settlement is for: the live one of its marker, which nothing has settled. -/
structure SettledFor (limits : BudgetLimits) (state : WindowState) (reservation : TenantReservation)
    (grant : BudgetGrant) : Prop where
  present : grant ∈ state.grants
  marker : grant.marker = reservation.markerKey
  alive : state.now < grant.lapses limits
  unsettled : grant.settled = none
  identity : reservation.identity = grant.identity
  /-- The settled amount is written to live as long as the marker. -/
  ends : state.now + (remaining state.redis.markers state.now reservation.markerKey).toNat =
    grant.lapses limits

theorem exists_settledFor (windowed : Windowed limits state)
    (settleable : Settleable state.redis state.now reservation) :
    ∃ grant, SettledFor limits state reservation grant := by
  obtain ⟨held, unsettledKey, lasting⟩ := settleable
  obtain ⟨grant, present, sameMarker, alive⟩ := windowed.listed _ _ held
  obtain ⟨found, settledAs⟩ := windowed.live grant present alive
  rw [sameMarker] at found
  refine ⟨grant, present, sameMarker, alive, ?_, ?_, ?_⟩
  · rw [← settledAs, sameMarker]
    exact Redis.settledAmount?_eq_none_of_absent unsettledKey
  · obtain ⟨entry, foundHeld, value⟩ := get_eq_some.mp held
    rw [found] at foundHeld
    cases foundHeld
    exact (MarkerValue.identity.inj value).symm
  · obtain ⟨instant, read, reaches⟩ := remaining_pos lasting
    rw [reaches]
    obtain ⟨entry, foundRead, entryEnds⟩ := deadline_eq_some.mp read
    rw [found] at foundRead
    cases foundRead
    exact (Option.some.inj entryEnds).symm

namespace SettledFor

variable (settled : SettledFor limits state reservation settledGrant)

include settled

theorem uses_eq (counter : CounterKey) :
    reservation.identity.tenant.uses counter = settledGrant.uses counter := by
  rw [settled.identity]
  rfl

/-- A live grant is counted in each counter that it uses: no counter was created after it. -/
theorem countedIn_eq (windowed : Windowed limits state) (counter : CounterKey) :
    settledGrant.countedIn counter (state.since counter) = settledGrant.uses counter := by
  cases uses : settledGrant.uses counter with
  | false => simp [BudgetGrant.countedIn, uses]
  | true =>
    have created := windowed.created counter
    have alive := settled.alive
    have early : state.since counter ≤ settledGrant.time := by
      by_contra late
      have := windowed.outlived counter settledGrant settled.present uses (by omega)
      omega
    simp [BudgetGrant.countedIn, uses, early]

/-- What a counter holds after the settlement is what it counts, until the same deadline. -/
theorem find_reconciled (windowed : Windowed limits state) {counter : CounterKey} {entry : Entry Int}
    (found : find (state.redis.reconciled state.now reservation.markerKey reservation.identity
      actualAmount).counters state.now counter = some entry) (after : Redis) :
    entry.value = (state.recordSettlement settledGrant actualAmount after).counted counter ∧
      ∃ before, find state.redis.counters state.now counter = some before ∧ entry.deadline = before.deadline := by
  rw [windowed.counted_recordSettlement settled.present settled.unsettled counter,
    settled.countedIn_eq windowed, ← settled.uses_eq]
  by_cases uses : reservation.identity.tenant.uses counter = true
  · rw [Redis.find_reconciled_of_uses uses, Option.some.injEq] at found
    subst found
    cases there : find state.redis.counters state.now counter with
    | none =>
      -- the counter of a live grant is there
      have usesGrant : settledGrant.uses counter = true := settled.uses_eq counter ▸ uses
      have := windowed.absent counter there settledGrant settled.present usesGrant
      have := settled.alive
      omega
    | some before =>
      refine ⟨?_, before, rfl, by simp [deadline, there]⟩
      rw [if_pos uses, Redis.count_of_find there, (windowed.counted counter before there).1,
        settled.identity]
  · rw [Redis.find_reconciled_of_not_uses uses] at found
    refine ⟨?_, entry, found, rfl⟩
    rw [if_neg uses, (windowed.counted counter entry found).1, Int.add_zero]

end SettledFor

theorem settle (windowed : Windowed limits state)
    (settleable : Settleable state.redis state.now reservation) :
    ∃ grant, state.current? limits reservation.markerKey = some grant ∧
      Windowed limits (state.recordSettlement grant actualAmount
        (state.redis.reconciled state.now reservation.markerKey reservation.identity actualAmount)) := by
  obtain ⟨grant, settled⟩ := windowed.exists_settledFor settleable
  have ⟨present, sameMarker, alive, _, _, ends⟩ := settled
  obtain ⟨_, unsettledKey, lasting⟩ := settleable
  refine ⟨grant, sameMarker ▸ windowed.current?_eq present alive, ?_⟩
  constructor
  case keys => exact windowed.keys.replace fun old _ same => same
  case past =>
    intro other member
    obtain ⟨old, oldMem, times, _⟩ := carried_recordSettlement limits present member
    exact times ▸ windowed.past old oldMem
  case counted =>
    intro counter entry found
    obtain ⟨value, before, there, same⟩ := settled.find_reconciled windowed found _
    obtain ⟨_, instant, beforeEnds, covers⟩ := windowed.counted counter before there
    refine ⟨value, instant, same.trans beforeEnds, ?_⟩
    intro other member usesOther early
    obtain ⟨old, oldMem, times, uses, lapses⟩ := carried_recordSettlement limits present member
    rw [← uses] at usesOther
    rw [← times] at early
    exact lapses ▸ covers old oldMem usesOther early
  case absent =>
    intro counter gone other member usesOther
    simp only [recordSettlement] at gone ⊢
    obtain ⟨old, oldMem, _, uses, lapses⟩ := carried_recordSettlement limits present member
    rw [← uses] at usesOther
    by_cases usesOwn : reservation.identity.tenant.uses counter = true
    · rw [Redis.find_reconciled_of_uses usesOwn] at gone
      contradiction
    · rw [Redis.find_reconciled_of_not_uses usesOwn] at gone
      exact lapses ▸ windowed.absent counter gone old oldMem usesOther
  case created => exact windowed.created
  case outlived =>
    intro counter other member usesOther early
    obtain ⟨old, oldMem, times, uses, lapses⟩ := carried_recordSettlement limits present member
    rw [← uses] at usesOther
    rw [← times] at early
    exact lapses ▸ windowed.outlived counter old oldMem usesOther early
  case live =>
    intro other member aliveOther
    simp only [recordSettlement] at aliveOther ⊢
    rcases mem_recordSettlement member with ⟨rfl, _⟩ | ⟨member, otherKey⟩
    -- The script writes under the settlement key, so the marker itself stays.
    · refine ⟨?_, ?_⟩
      · have apart : grant.marker ≠ reservation.markerKey.settlementKey :=
          sameMarker ▸ reservation.markerKey.settlementKey_ne.symm
        exact (find_put_of_ne apart).trans (windowed.live grant present alive).1
      · rw [sameMarker]
        exact Redis.settledAmount?_reconciled_self lasting
    · obtain ⟨foundOther, settledOther⟩ := windowed.live other member aliveOther
      have differs : other.marker ≠ reservation.markerKey := by
        intro same
        exact otherKey (congrArg BudgetGrant.key
          (windowed.live_unique member present (same.trans sameMarker.symm) aliveOther alive))
      refine ⟨?_, (Redis.settledAmount?_reconciled_of_ne differs).trans settledOther⟩
      rw [← foundOther]
      -- The settlement key was free, so no live grant has it for its marker.
      refine find_put_of_ne fun collides => ?_
      rw [collides, get_eq_none.mp unsettledKey] at foundOther
      contradiction
  case listed =>
    intro marker identity heldAfter
    simp only [recordSettlement] at heldAfter ⊢
    rw [← Redis.identity?_eq_some, Redis.identity?_reconciled lasting unsettledKey,
      Redis.identity?_eq_some] at heldAfter
    obtain ⟨old, oldMem, oldMarker, oldAlive⟩ := windowed.listed marker identity heldAfter
    obtain ⟨kept, keptMem, keptMarker, keptLapses⟩ := kept_recordSettlement oldMem windowed present
    exact ⟨kept, keptMem, keptMarker.trans oldMarker, keptLapses ▸ oldAlive⟩
  case settledBy =>
    intro marker amount settled
    simp only [recordSettlement] at settled ⊢
    by_cases same : marker = reservation.markerKey
    · obtain ⟨kept, keptMem, keptMarker, keptLapses⟩ := kept_recordSettlement present windowed present
      refine ⟨kept, keptMem, keptMarker.trans (sameMarker.trans same.symm), ?_⟩
      rw [same, keptLapses, ← ends]
      -- The settled amount is written with the time the marker has left.
      exact deadline_eq_some.mpr ⟨_, find_put_self (by simp [Entry.live]; omega), rfl⟩
    · rw [Redis.settledAmount?_reconciled_of_ne same] at settled
      obtain ⟨old, oldMem, oldMarker, oldEnds⟩ := windowed.settledBy marker amount settled
      obtain ⟨kept, keptMem, keptMarker, keptLapses⟩ := kept_recordSettlement oldMem windowed present
      refine ⟨kept, keptMem, keptMarker.trans oldMarker, ?_⟩
      rw [keptLapses, ← oldEnds]
      exact congrArg (Option.bind · Entry.deadline)
        (find_put_of_ne fun equal => same (MarkerKey.settlementKey_injective equal))

end Settling

theorem step {next : WindowState} {label : WindowLabel} (windowed : Windowed limits state)
    (stepped : WindowState.step limits state label = some next) : Windowed limits next := by
  cases label with
  | elapse milliseconds =>
    cases stepped
    exact windowed.elapse milliseconds
  | reserve backend reservationId tenant amount =>
    simp only [WindowState.step] at stepped
    have ended := reserveTenant_ending backend state.redis state.now
      (limits.request reservationId tenant amount)
    generalize reserveTenant backend state.redis state.now (limits.request reservationId tenant amount) =
      ending at ended stepped
    cases ended with
    -- Only a marker that was not there before records a grant.
    | refused =>
      rw [if_neg fun both => both.2 both.1] at stepped
      cases stepped
      exact windowed
    | replayed =>
      rw [if_neg fun both => both.2 both.1] at stepped
      cases stepped
      exact windowed
    | granted grantable =>
      have newly : (state.redis.granted state.now (limits.request reservationId tenant amount).markerKey
          (limits.request reservationId tenant amount).identity
          (limits.request reservationId tenant amount).ttlSeconds.toNat).identity? state.now
            (limits.request reservationId tenant amount).markerKey ≠ none := by
        rw [Redis.identity?_eq_some.mpr (Redis.get_granted_self grantable.lasting)]
        exact Option.some_ne_none _
      rw [if_pos ⟨Redis.identity?_eq_none_of_absent grantable.absent, newly⟩] at stepped
      cases stepped
      exact windowed.grant rfl grantable
  | settle backend reservation actualAmount =>
    simp only [WindowState.step] at stepped
    have ended := settleTenant_ending backend state.redis state.now reservation actualAmount
    generalize settleTenant backend state.redis state.now reservation actualAmount = ending
      at ended stepped
    cases ended with
    | unchanged =>
      split at stepped
      -- Nothing is written, so no settled amount appears.
      next before after _ =>
        rw [before] at after
        contradiction
      · cases stepped
        exact windowed
    | settled _ settleable =>
      obtain ⟨grant, current, kept⟩ := @settle _ _ reservation actualAmount.toNat windowed settleable
      rw [Redis.settledAmount?_eq_none_of_absent settleable.unsettled,
        Redis.settledAmount?_reconciled_self settleable.lasting, current] at stepped
      cases stepped
      exact kept

end Windowed

/-- What the counter still counts of the reservations older than the window is nothing. -/
def CountsWindowOnly (limits : BudgetLimits) (state : WindowState) (counter : CounterKey) : Prop :=
  ∀ grant ∈ state.grants, grant.countedIn counter (state.since counter) = true →
    grant.lapses limits ≤ state.now → grant.held = 0

theorem Windowed.count_le {limits : BudgetLimits} {state : WindowState} (windowed : Windowed limits state)
    {counter : CounterKey} (windowOnly : CountsWindowOnly limits state counter) :
    state.redis.count state.now counter ≤ state.heldInWindow limits counter := by
  cases found : find state.redis.counters state.now counter with
  | none =>
    rw [Redis.count_of_absent found]
    omega
  | some entry =>
    rw [Redis.count_of_find found, (windowed.counted counter entry found).1]
    have covered : state.counted counter ≤ state.heldInWindow limits counter := by
      refine Sums.sum_filter_le BudgetGrant.held fun grant member counted => ?_
      -- A counted grant is in the window, or it is older and holds nothing.
      by_cases recent : state.now < grant.lapses limits
      · refine .inl ?_
        simp only [BudgetGrant.countedIn, BudgetGrant.inWindow, decide_eq_true_eq] at counted ⊢
        exact ⟨counted.1, recent⟩
      · exact .inr (windowOnly grant member counted (by omega))
    omega

/-- In every run, a new reservation is denied only if the window of its user or of its
organization leaves no room for it, provided neither counter still counts tokens that were
reserved before the window. -/
theorem denied_only_over_window {limits : BudgetLimits} {now : Nat} {labels : List WindowLabel}
    {state : WindowState} {backend : Backend} {reservationId : String} {tenant : Tenant} {amount : Int}
    {message : String}
    (ran : Transition.run (WindowState.step limits) (WindowState.initial now) labels = some state)
    (userWindow : CountsWindowOnly limits state tenant.userKey)
    (organizationWindow : CountsWindowOnly limits state tenant.organizationKey)
    (fresh : get state.redis.markers state.now ⟨tenant.organizationId, reservationId⟩ = none)
    (denied : (reserveTenant backend state.redis state.now
      (limits.request reservationId tenant amount)).2 = .error (.denied message)) :
    limits.user < state.heldInWindow limits tenant.userKey + amount ∨
      limits.organization < state.heldInWindow limits tenant.organizationKey + amount := by
  have windowed : Windowed limits state :=
    Transition.run_invariant (Windowed limits) (fun _ _ _ windowed stepped => windowed.step stepped)
      (Windowed.initial now) ran
  rcases reserveTenant_denied fresh denied with userFull | organizationFull
  · have := windowed.count_le userWindow
    have full : limits.user < state.redis.count state.now tenant.userKey + amount := userFull
    omega
  · have := windowed.count_le organizationWindow
    have full : limits.organization < state.redis.count state.now tenant.organizationKey + amount :=
      organizationFull
    omega

/-- Sixty tokens are reserved; ten seconds later fifty more do not fit into a hundred. -/
theorem denied_only_over_window_sixty :
    ∃ state, Transition.run (WindowState.step ⟨100, 1000, 3600⟩) (WindowState.initial 0)
        [.reserve .answering "a" ⟨1, 2⟩ 60, .elapse 10000] = some state ∧
      ((100 : Int) < state.heldInWindow ⟨100, 1000, 3600⟩ (.user 1 2) + 50 ∨
        (1000 : Int) < state.heldInWindow ⟨100, 1000, 3600⟩ (.organization 1) + 50) :=
  ⟨_, rfl, @denied_only_over_window ⟨100, 1000, 3600⟩ 0
    [.reserve .answering "a" ⟨1, 2⟩ 60, .elapse 10000] _ .answering "b" ⟨1, 2⟩ 50
    "tenant token budget exceeded" rfl (by unfold CountsWindowOnly; decide)
    (by unfold CountsWindowOnly; decide) rfl rfl⟩

/-- Tokens reserved before the window do cause denials: 60 at the start and 10 after 3599
seconds keep the counter at 70, and 40 two seconds later do not fit into a hundred. -/
theorem denied_by_older_tokens :
    ¬∀ (limits : BudgetLimits) (now : Nat) (labels : List WindowLabel) (state : WindowState)
        (reservationId : String) (tenant : Tenant) (amount : Int) (message : String),
      Transition.run (WindowState.step limits) (WindowState.initial now) labels = some state →
      get state.redis.markers state.now ⟨tenant.organizationId, reservationId⟩ = none →
      (reserveTenant .answering state.redis state.now
        (limits.request reservationId tenant amount)).2 = .error (.denied message) →
      limits.user < state.heldInWindow limits tenant.userKey + amount ∨
        limits.organization < state.heldInWindow limits tenant.organizationKey + amount := by
  intro windowed
  have exceeds := windowed ⟨100, 1000, 3600⟩ 0
    [.reserve .answering "a" ⟨1, 2⟩ 60, .elapse 3599000, .reserve .answering "b" ⟨1, 2⟩ 10,
      .elapse 2000] _ "c" ⟨1, 2⟩ 40 "tenant token budget exceeded" rfl rfl rfl
  exact absurd exceeds (by decide)

end Eiraos
