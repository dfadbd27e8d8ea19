import Eiraos.Chat.ExecutionIdentity
import Eiraos.Persistence.Running
import Eiraos.Usage.Conservation
import Eiraos.Usage.Coverage
import Eiraos.Usage.ExecutionBudget

/-! # Reservations of running executions

Chat requests interleave on the tables and on Redis.  Requests with the same key work on
one record, derive one execution id and share one reservation: the first is granted it,
the others find its marker and replay it.  Each decides from what it remembers itself
whether its failed preflight releases the reservation.
-/

namespace Eiraos

open Expiring RequestState

/-- How long a marker lives, in milliseconds. -/
def RESERVATION_LIFETIME : Nat := ExecutionBudget.default.ttlSeconds.toNat * 1000

/-- The `budgeted_execution` of a request; `cleaned` once its failed preflight was through
with it. -/
structure BudgetedRequest where
  token : String
  reservation : ExecutionReservation
  cleaned : Bool
  deriving DecidableEq, Repr

def BudgetedRequest.markerKey (budget : BudgetedRequest) : MarkerKey :=
  budget.reservation.tenant.markerKey

/-- `written` and `markers` are ghost state: when each marker was last written, and the
names that were written. -/
structure ChatState where
  ledger : RequestState
  redis : Redis
  budgets : List BudgetedRequest
  written : MarkerKey → Option Nat
  markers : Finset MarkerKey

inductive ChatLabel where
  | ledger (label : RequestLabel)
  | reserveBudget (token : String) (backend : Backend) (prompt : String) (verify : Bool)
      (userLimit organizationLimit : Int)
  | releaseBudget (token : String) (backend : Backend)
  | settle (token : String) (backend : Backend) (actualTokens : Int)
  deriving DecidableEq, Repr

def ChatExecution.markerKey (execution : ChatExecution) : MarkerKey :=
  ⟨execution.organizationId, execution.executionId⟩

def ChatExecution.tenant (execution : ChatExecution) : Tenant :=
  ⟨execution.organizationId, execution.userId⟩

def LeasedRequest.tenant (caller : LeasedRequest) : Tenant :=
  ⟨caller.request.organizationId, caller.request.userId⟩

namespace ChatState

def initial (clock : Instant) : ChatState :=
  ⟨RequestState.initial clock, Redis.empty, [], fun _ => none, ∅⟩

/-- The clock of Redis counts milliseconds. -/
def now (state : ChatState) : Nat := state.ledger.clock / 1000

def budget? (state : ChatState) (token : String) : Option BudgetedRequest :=
  state.budgets.find? fun budget => budget.token = token

/-- `prepare_exchange` is called once the request has a reservation; its failed preflight
is recorded after the reservation was dealt with. -/
def allows (state : ChatState) : RequestLabel → Bool
  | .prepareExchange token _ _ =>
    ((state.ledger.caller? token).any fun caller => !caller.persisted) &&
      (state.budget? token).any fun budget => !budget.cleaned
  | .failPreflight token _ _ => (state.budget? token).all BudgetedRequest.cleaned
  | _ => true

def budgeted (token : String) : Except BudgetError ExecutionReservation → List BudgetedRequest
  | .ok reservation => [⟨token, reservation, false⟩]
  | .error _ => []

/-- Remember when a marker was written. -/
def wrote (state : ChatState) (after : Redis) (marker : MarkerKey) : ChatState :=
  if get state.redis.markers state.now marker = none ∧ get after.markers state.now marker ≠ none then
    { state with
      redis := after
      written := Function.update state.written marker (some state.now)
      markers := insert marker state.markers }
  else { state with redis := after }

section Step

variable (executionIdentity : Nat × Nat × String → Nat → String)

def markerOf (caller : LeasedRequest) : MarkerKey :=
  ⟨caller.request.organizationId, executionOf executionIdentity caller⟩

def budgetRequestOf (caller : LeasedRequest) (prompt : String) (verify : Bool)
    (userLimit organizationLimit : Int) : BudgetRequest :=
  ⟨executionOf executionIdentity caller, caller.request.userId, caller.request.organizationId, prompt,
    verify, userLimit, organizationLimit⟩

def step (state : ChatState) : ChatLabel → Option ChatState
  | .ledger label =>
    if state.allows label then
      (RequestState.step executionIdentity state.ledger label).map fun ledger => { state with ledger }
    else none
  | .reserveBudget token backend prompt verify userLimit organizationLimit =>
    (state.ledger.caller? token).bind fun caller =>
      if caller.persisted ∨ (state.budget? token).isSome then none
      else
        let ending := ExecutionBudget.default.reserve backend state.redis state.now
          (budgetRequestOf executionIdentity caller prompt verify userLimit organizationLimit)
        some { state.wrote ending.1 (markerOf executionIdentity caller) with
          budgets := state.budgets ++ budgeted token ending.2 }
  | .releaseBudget token backend =>
    (state.ledger.caller? token).bind fun caller =>
      (state.budget? token).bind fun budget =>
        if caller.persisted ∨ budget.cleaned then none
        else
          some { state with
            redis := (releaseTenant backend state.redis state.now budget.reservation.tenant).1
            budgets := Rows.replace BudgetedRequest.token { budget with cleaned := true } state.budgets }
  | .settle token backend actualTokens =>
    (state.ledger.caller? token).bind fun caller =>
      (state.budget? token).bind fun budget =>
        if caller.persisted then
          some { state with
            redis := (ExecutionBudget.settle backend state.redis state.now budget.reservation
              actualTokens).1 }
        else none

end Step

/-- Nobody else has a reservation under this marker. -/
def Sole (state : ChatState) (budget : BudgetedRequest) : Prop :=
  ∀ other ∈ state.budgets, other.markerKey = budget.markerKey → other.token = budget.token

/-- The request still holds the lease of its record, or shares its reservation with nobody. -/
def Exclusive (state : ChatState) (budget : BudgetedRequest) : Prop :=
  ¬Unheld state.ledger.database budget.token ∨ state.Sole budget

end ChatState

/-- An execution of this marker is prepared or streaming. -/
def Database.RunsUnder (database : Database) (marker : MarkerKey) : Prop :=
  ∃ execution ∈ database.executions,
    execution.status.isTerminal = false ∧ execution.markerKey = marker

section Condition

variable (executionIdentity : Nat × Nat × String → Nat → String)

open ChatState

/-- Where the code goes by what the request remembers, the lease agrees: the execution is
inserted by a request that has its reservation for itself, a reservation is granted anew
only while nothing runs under it, and a release that takes effect is one of an unsettled
reservation that the request has for itself. -/
def Orderly (state : ChatState) : ChatLabel → Prop
  | .ledger (.prepareExchange token _ _) =>
    ∀ caller ∈ state.ledger.requests, ∀ budget ∈ state.budgets, caller.token = token →
      budget.token = token →
        (∀ execution ∈ state.ledger.database.executions,
          execution.executionId ≠ executionOf executionIdentity caller) → state.Exclusive budget
  | .ledger _ => True
  | .reserveBudget token _ prompt verify userLimit organizationLimit =>
    ∀ caller ∈ state.ledger.requests, caller.token = token →
      Affordable ExecutionBudget.default state.redis state.now
        (budgetRequestOf executionIdentity caller prompt verify userLimit organizationLimit) →
          ¬state.ledger.database.RunsUnder (markerOf executionIdentity caller)
  | .releaseBudget token _ =>
    ∀ budget ∈ state.budgets, budget.token = token →
      Releases state.redis state.now budget.reservation.tenant →
        state.Exclusive budget ∧ state.redis.settledAmount? state.now budget.markerKey = none
  | .settle _ _ _ => True

instance (database : Database) (token : String) : Decidable (Unheld database token) :=
  inferInstanceAs (Decidable (∀ record ∈ database.idempotency.rows, record.leaseToken ≠ some token))

instance (state : ChatState) (budget : BudgetedRequest) : Decidable (state.Exclusive budget) :=
  inferInstanceAs (Decidable (_ ∨ ∀ other ∈ state.budgets, _ → _))

instance (database : Database) (marker : MarkerKey) : Decidable (database.RunsUnder marker) :=
  inferInstanceAs (Decidable (∃ execution ∈ database.executions, _ ∧ _))

instance (redis : Redis) (now : Nat) (reservation : TenantReservation) :
    Decidable (Releases redis now reservation) :=
  inferInstanceAs (Decidable (_ ∧ _))

instance (state : ChatState) : ∀ label, Decidable (Orderly executionIdentity state label)
  | .ledger (.prepareExchange token _ _) =>
    inferInstanceAs (Decidable (∀ caller ∈ state.ledger.requests, ∀ budget ∈ state.budgets,
      caller.token = token → budget.token = token → _ → _))
  | .ledger (.tick _) | .ledger (.begin _ _ _) | .ledger (.renew _) | .ledger (.failPreflight _ _ _)
  | .ledger .cleanup | .ledger (.assertRecoveryAllowed _ _) | .ledger (.markStreaming _ _)
  | .ledger (.finalize _ _ _) => .isTrue trivial
  | .reserveBudget _ _ _ _ _ _ =>
    inferInstanceAs (Decidable (∀ caller ∈ state.ledger.requests, _ → _ → _))
  | .releaseBudget _ _ =>
    inferInstanceAs (Decidable (∀ budget ∈ state.budgets, _ → _ → _))
  | .settle _ _ _ => .isTrue trivial

end Condition

/-! ## The invariant -/

section Invariant

open ChatState

variable {executionIdentity : Nat × Nat × String → Nat → String} {state next : ChatState}

/-- The request is still to persist its exchange under the reservation it got. -/
structure Pending (state : ChatState) (caller : LeasedRequest) (budget : BudgetedRequest) : Prop where
  callerMem : caller ∈ state.ledger.requests
  budgetMem : budget ∈ state.budgets
  token : caller.token = budget.token
  unpersisted : caller.persisted = false
  uncleaned : budget.cleaned = false
  exclusive : state.Exclusive budget

/-- The marker lives out its lifetime. -/
def ChatState.Kept (state : ChatState) (marker : MarkerKey) : Prop :=
  MarkerKept state.redis state.now RESERVATION_LIFETIME state.written marker

structure ReservationInvariant (executionIdentity : Nat × Nat × String → Nat → String)
    (state : ChatState) : Prop where
  requests : RequestInvariant state.ledger.database state.ledger.requests
  covering : Covering state.redis state.now RESERVATION_LIFETIME state.markers state.written
  budgets : Rows.Unique BudgetedRequest.token state.budgets
  owned : ∀ budget ∈ state.budgets, ∃ caller ∈ state.ledger.requests,
    caller.token = budget.token ∧ markerOf executionIdentity caller = budget.markerKey
  identified : ∀ marker identity, get state.redis.markers state.now marker = some (.identity identity) →
    ∃ caller ∈ state.ledger.requests,
      markerOf executionIdentity caller = marker ∧ caller.tenant = identity.tenant
  executed : ∀ execution ∈ state.ledger.database.executions, ∃ caller ∈ state.ledger.requests,
    markerOf executionIdentity caller = execution.markerKey ∧ caller.request.userId = execution.userId
  pending : ∀ caller budget, Pending state caller budget → state.Kept budget.markerKey
  unprepared : ∀ caller budget, Pending state caller budget →
    budget.reservation.tenant.replayed = false →
      ¬state.ledger.database.RunsUnder budget.markerKey
  running : ∀ execution ∈ state.ledger.database.executions, execution.status.isTerminal = false →
    state.Kept execution.markerKey

theorem reservationInvariant_initial (clock : Instant) :
    ReservationInvariant executionIdentity (ChatState.initial clock) where
  requests := requestInvariant_initial clock
  covering := .empty _ _
  budgets := List.nodup_nil
  owned := fun _ member => nomatch member
  identified := fun _ _ held => nomatch held
  executed := fun _ member => nomatch member
  pending := fun _ _ pending => nomatch pending.budgetMem
  unprepared := fun _ _ pending => nomatch pending.budgetMem
  running := fun _ member => nomatch member

/-- A token on a row is that of the request the row was handed to. -/
theorem RequestInvariant.row_of_held {database : Database} {requests : List LeasedRequest}
    {caller : LeasedRequest} (invariant : RequestInvariant database requests)
    (member : caller ∈ requests) (held : ¬Unheld database caller.token) :
    ∃ record ∈ database.idempotency.rows, record.leaseToken = some caller.token ∧
      caller.recordId = record.id := by
  simp only [Unheld, not_forall] at held
  obtain ⟨record, recordMem, carried⟩ := held
  have carried : record.leaseToken = some caller.token := not_not.mp carried
  obtain ⟨holder, holderMem, handed, sameId⟩ := invariant.held record recordMem
  have isCaller : holder = caller :=
    invariant.tokens.eq holderMem member (Option.some.inj (handed.symm.trans carried))
  exact ⟨record, recordMem, carried, isCaller ▸ sameId⟩

/-- At most one request has the reservation of a marker for itself. -/
theorem ReservationInvariant.exclusive_unique (distinct : Function.Injective2 executionIdentity)
    (invariant : ReservationInvariant executionIdentity state) {first second : BudgetedRequest}
    (firstMem : first ∈ state.budgets) (secondMem : second ∈ state.budgets)
    (firstExclusive : state.Exclusive first) (secondExclusive : state.Exclusive second)
    (sameMarker : first.markerKey = second.markerKey) : first = second := by
  refine invariant.budgets.eq firstMem secondMem ?_
  rcases firstExclusive with firstHeld | sole
  · rcases secondExclusive with secondHeld | sole
    · -- Both hold the lease of the record their execution id is made of.
      obtain ⟨caller, callerMem, callerToken, callerMarker⟩ := invariant.owned first firstMem
      obtain ⟨other, otherMem, otherToken, otherMarker⟩ := invariant.owned second secondMem
      rw [← callerToken] at firstHeld
      rw [← otherToken] at secondHeld
      obtain ⟨record, recordMem, carried, handed⟩ := invariant.requests.row_of_held callerMem firstHeld
      obtain ⟨row, rowMem, rowCarried, rowHanded⟩ := invariant.requests.row_of_held otherMem secondHeld
      have sameName : markerOf executionIdentity caller = markerOf executionIdentity other :=
        callerMarker.trans (sameMarker.trans otherMarker.symm)
      have sameRecord : caller.recordId = other.recordId :=
        (distinct (congrArg MarkerKey.name sameName)).2
      have sameRow : record = row := invariant.requests.wellFormed.ids.eq recordMem rowMem
        (handed.symm.trans (sameRecord.trans rowHanded))
      rw [sameRow] at carried
      rw [← callerToken, ← otherToken]
      exact Option.some.inj (carried.symm.trans rowCarried)
    · exact sole first firstMem sameMarker
  · exact (sole second secondMem sameMarker.symm).symm

/-! ## What a step leaves of the requests and their reservations -/

/-- Requests and reservations only join, and no superseded request gets its lease back. -/
structure Pursued (state next : ChatState) : Prop where
  callers : ∀ caller ∈ state.ledger.requests, ∃ later ∈ next.ledger.requests, caller.Advanced later
  tokens : Rows.Unique LeasedRequest.token next.ledger.requests
  unheld : ∀ caller ∈ state.ledger.requests, Unheld state.ledger.database caller.token →
    Unheld next.ledger.database caller.token
  budgets : ∀ budget ∈ state.budgets, ∃ later ∈ next.budgets,
    later.token = budget.token ∧ later.markerKey = budget.markerKey

theorem LeasedRequest.Advanced.markerOf {caller later : LeasedRequest} (advanced : caller.Advanced later) :
    markerOf executionIdentity later = markerOf executionIdentity caller := by
  simp only [ChatState.markerOf, executionOf, advanced.request, advanced.recordId]

/-- A request that is pending after the step was pending before it. -/
theorem Pending.before (pursued : Pursued state next)
    (invariant : ReservationInvariant executionIdentity state) {later : LeasedRequest}
    {budget laterBudget : BudgetedRequest} (pending : Pending next later laterBudget)
    (budgetMem : budget ∈ state.budgets) (sameToken : laterBudget.token = budget.token)
    (sameMarker : laterBudget.markerKey = budget.markerKey)
    (cleaned : budget.cleaned = true → laterBudget.cleaned = true) :
    ∃ caller, Pending state caller budget ∧ caller.Advanced later := by
  obtain ⟨caller, callerMem, callerToken, _⟩ := invariant.owned budget budgetMem
  obtain ⟨advanced, advancedMem, advances⟩ := pursued.callers caller callerMem
  have isLater : advanced = later := pursued.tokens.eq advancedMem pending.callerMem
    (advances.token.trans (callerToken.trans (sameToken.symm.trans pending.token.symm)))
  rw [isLater] at advances
  refine ⟨caller, ⟨callerMem, budgetMem, callerToken, ?_, ?_, ?_⟩, advances⟩
  · by_contra persisted
    have := advances.persisted (by simpa using persisted)
    rw [pending.unpersisted] at this
    contradiction
  · by_contra isCleaned
    have := cleaned (by simpa using isCleaned)
    rw [pending.uncleaned] at this
    contradiction
  · rcases pending.exclusive with held | sole
    · left
      intro unheld
      rw [← callerToken] at unheld
      rw [sameToken, ← callerToken] at held
      exact held (pursued.unheld caller callerMem unheld)
    · right
      intro other otherMem otherMarker
      obtain ⟨otherLater, otherLaterMem, otherToken, otherSame⟩ := pursued.budgets other otherMem
      have same := sole otherLater otherLaterMem (otherSame.trans (otherMarker.trans sameMarker.symm))
      exact otherToken.symm.trans (same.trans sameToken)

theorem Pursued.owned (pursued : Pursued state next)
    (invariant : ReservationInvariant executionIdentity state) {budget : BudgetedRequest}
    (budgetMem : budget ∈ state.budgets) : ∃ caller ∈ next.ledger.requests,
      caller.token = budget.token ∧ markerOf executionIdentity caller = budget.markerKey := by
  obtain ⟨caller, callerMem, callerToken, callerMarker⟩ := invariant.owned budget budgetMem
  obtain ⟨later, laterMem, advances⟩ := pursued.callers caller callerMem
  exact ⟨later, laterMem, advances.token.trans callerToken, advances.markerOf.trans callerMarker⟩

/-- Where the requests and the tables stay as they are, requests are only pursued. -/
theorem Pursued.of_same_ledger (invariant : ReservationInvariant executionIdentity state)
    (sameLedger : next.ledger = state.ledger)
    (budgets : ∀ budget ∈ state.budgets, ∃ later ∈ next.budgets,
      later.token = budget.token ∧ later.markerKey = budget.markerKey) : Pursued state next where
  callers := fun caller member => ⟨caller, sameLedger ▸ member, .refl caller⟩
  tokens := sameLedger ▸ invariant.requests.tokens
  unheld := fun _ _ unheld => sameLedger ▸ unheld
  budgets := budgets

/-! ## Steps of the tables -/

/-- The request whose attempt is started was pending. -/
theorem StartedAttempt.pending {label : RequestLabel} {ledger : RequestState} {caller : LeasedRequest}
    {after : ChatExecution} (invariant : ReservationInvariant executionIdentity state)
    (allowed : state.allows label = true) (orderly : Orderly executionIdentity state (.ledger label))
    (started : StartedAttempt executionIdentity state.ledger label ledger caller after) :
    ∃ budget, Pending state caller budget ∧ budget.markerKey = after.markerKey := by
  obtain ⟨⟨storage, exchange, rfl⟩, callerMem, _, executionId, organizationId, _, entitled⟩ := started
  have found := caller?_of_mem invariant.requests.tokens callerMem
  simp only [allows, found, Option.any_some, Bool.and_eq_true] at allowed
  obtain ⟨unpersisted, budgeted⟩ := allowed
  cases selected : state.budget? caller.token with
  | none => simp [selected] at budgeted
  | some budget =>
    have budgetMem : budget ∈ state.budgets := List.mem_of_find?_eq_some selected
    have budgetToken : budget.token = caller.token := by simpa using List.find?_some selected
    obtain ⟨owner, ownerMem, ownerToken, ownerMarker⟩ := invariant.owned budget budgetMem
    have isCaller : owner = caller :=
      invariant.requests.tokens.eq ownerMem callerMem (ownerToken.trans budgetToken)
    refine ⟨budget, ⟨callerMem, budgetMem, budgetToken.symm, by simpa using unpersisted,
      by simpa [selected] using budgeted, ?_⟩, ?_⟩
    · rcases entitled with ⟨existing, record, owner⟩ | absent
      · left
        intro unheld
        exact unheld record owner.recordMem (budgetToken ▸ owner.owned)
      · exact orderly caller callerMem budget budgetMem rfl budgetToken absent
    · rw [← ownerMarker, isCaller, ChatExecution.markerKey, executionId, organizationId]
      rfl

theorem ReservationInvariant.ledger (distinct : Function.Injective2 executionIdentity)
    (invariant : ReservationInvariant executionIdentity state) {label : RequestLabel}
    {ledger : RequestState} (allowed : state.allows label = true)
    (orderly : Orderly executionIdentity state (.ledger label))
    (stepped : RequestState.step executionIdentity state.ledger label = some ledger) :
    ReservationInvariant executionIdentity { state with ledger } := by
  have nextRequests := invariant.requests.step stepped
  have order : state.now ≤ ChatState.now { state with ledger } :=
    Nat.div_le_div_right (RequestState.step_clock invariant.requests stepped)
  have executions := RequestState.step_executions invariant.requests stepped
  have pursued : Pursued state { state with ledger } :=
    { callers := fun caller member => RequestState.step_requests invariant.requests stepped member
      tokens := nextRequests.tokens
      unheld := fun caller member unheld =>
        (SupersededRequest.step ⟨invariant.requests, ⟨caller, member, rfl⟩, unheld⟩ stepped).unheld
      budgets := fun budget member => ⟨budget, member, rfl, rfl⟩ }
  have kept : ∀ {marker}, state.Kept marker → ChatState.Kept { state with ledger } marker :=
    fun kept => kept.elapse order
  constructor
  case requests => exact nextRequests
  case covering => exact invariant.covering.elapse order
  case budgets => exact invariant.budgets
  case owned =>
    intro budget member
    exact pursued.owned invariant member
  case identified =>
    intro marker identity held
    obtain ⟨caller, callerMem, isMarker, isTenant⟩ :=
      invariant.identified marker identity (get_of_later order held)
    obtain ⟨later, laterMem, advances⟩ := pursued.callers caller callerMem
    refine ⟨later, laterMem, advances.markerOf.trans isMarker, ?_⟩
    rw [← isTenant, LeasedRequest.tenant, advances.request]
    rfl
  -- An execution goes on from one before, or the call has started it for its caller.
  case executed =>
    intro execution executionMem
    rcases executions execution executionMem with ⟨before, beforeMem, continues⟩ | ⟨caller, started⟩
    · obtain ⟨caller, callerMem, isMarker, isUser⟩ := invariant.executed before beforeMem
      obtain ⟨later, laterMem, advances⟩ := pursued.callers caller callerMem
      refine ⟨later, laterMem, ?_, ?_⟩
      · rw [advances.markerOf, isMarker, ChatExecution.markerKey, ChatExecution.markerKey,
          continues.executionId, continues.organizationId]
      · rw [advances.request, isUser, continues.userId]
    · obtain ⟨later, laterMem, advances⟩ := pursued.callers caller started.callerMem
      refine ⟨later, laterMem, ?_, ?_⟩
      · rw [advances.markerOf, ChatExecution.markerKey, started.executionId, started.organizationId]
        rfl
      · rw [advances.request, started.userId]
  case pending =>
    intro later budget pending
    obtain ⟨caller, before, _⟩ := pending.before pursued invariant pending.budgetMem rfl rfl id
    exact kept (invariant.pending caller budget before)
  case unprepared =>
    rintro later budget pending fresh ⟨execution, executionMem, running, isMarker⟩
    obtain ⟨caller, before, advances⟩ := pending.before pursued invariant pending.budgetMem rfl rfl id
    rcases executions execution executionMem with ⟨earlier, earlierMem, continues⟩ | ⟨starter, started⟩
    · refine invariant.unprepared caller budget before fresh
        ⟨earlier, earlierMem, continues.running running, ?_⟩
      rw [← isMarker, ChatExecution.markerKey, ChatExecution.markerKey, continues.executionId,
        continues.organizationId]
    · -- The attempt was started by the one request that had the reservation for itself.
      obtain ⟨started', starterPending, starterMarker⟩ := started.pending invariant allowed orderly
      have same : budget = started' := invariant.exclusive_unique distinct before.budgetMem
        starterPending.budgetMem before.exclusive starterPending.exclusive
        (isMarker.symm.trans starterMarker.symm)
      have isStarter : later = { starter with persisted := true } := by
        refine nextRequests.tokens.eq pending.callerMem ?_ ?_
        · rw [started.persisted]
          exact Rows.mem_replace_self started.callerMem rfl
        · exact pending.token.trans (same ▸ starterPending.token.symm)
      have := pending.unpersisted
      rw [isStarter] at this
      contradiction
  case running =>
    intro execution executionMem running
    rcases executions execution executionMem with ⟨before, beforeMem, continues⟩ | ⟨caller, started⟩
    · have := kept (invariant.running before beforeMem (continues.running running))
      rwa [ChatExecution.markerKey, ← continues.executionId, ← continues.organizationId] at this
    · obtain ⟨budget, pending, isMarker⟩ := started.pending invariant allowed orderly
      exact kept (isMarker ▸ invariant.pending caller budget pending)

/-! ## Steps of the store -/

/-- The markers somebody counts on. -/
def Needed (state : ChatState) (marker : MarkerKey) : Prop :=
  (∃ caller budget, Pending state caller budget ∧ budget.markerKey = marker) ∨
    state.ledger.database.RunsUnder marker

theorem ReservationInvariant.kept (invariant : ReservationInvariant executionIdentity state)
    {marker : MarkerKey} (needed : Needed state marker) : state.Kept marker := by
  rcases needed with ⟨caller, budget, pending, rfl⟩ | ⟨execution, executionMem, running, rfl⟩
  · exact invariant.pending caller budget pending
  · exact invariant.running execution executionMem running

/-- The store may change under the requests as long as the markers they need are kept. -/
theorem ReservationInvariant.rewrite (invariant : ReservationInvariant executionIdentity state)
    {redis : Redis} {written : MarkerKey → Option Nat} {markers : Finset MarkerKey}
    (covering : Covering redis state.now RESERVATION_LIFETIME markers written)
    (identified : ∀ marker identity, get redis.markers state.now marker = some (.identity identity) →
      ∃ caller ∈ state.ledger.requests,
        markerOf executionIdentity caller = marker ∧ caller.tenant = identity.tenant)
    (kept : ∀ marker, Needed state marker →
      MarkerKept redis state.now RESERVATION_LIFETIME written marker) :
    ReservationInvariant executionIdentity { state with redis, written, markers } := by
  have before : ∀ {caller budget}, Pending { state with redis, written, markers } caller budget →
      Pending state caller budget := fun pending =>
    ⟨pending.callerMem, pending.budgetMem, pending.token, pending.unpersisted, pending.uncleaned,
      pending.exclusive⟩
  refine ⟨invariant.requests, covering, invariant.budgets, invariant.owned, identified,
    invariant.executed, ?_, ?_, ?_⟩
  · intro caller budget pending
    exact kept _ (.inl ⟨caller, budget, before pending, rfl⟩)
  · intro caller budget pending
    exact invariant.unprepared caller budget (before pending)
  · intro execution executionMem running
    exact kept _ (.inr ⟨execution, executionMem, running, rfl⟩)

theorem ChatState.wrote_unchanged (state : ChatState) (marker : MarkerKey) :
    state.wrote state.redis marker = state :=
  if_neg fun both => both.2 both.1

/-- A reservation granted anew to one of the requests. -/
theorem ReservationInvariant.grant (invariant : ReservationInvariant executionIdentity state)
    {caller : LeasedRequest} {request : BudgetRequest} (callerMem : caller ∈ state.ledger.requests)
    (affordable : Affordable ExecutionBudget.default state.redis state.now request)
    (marker : (ExecutionBudget.default.tenantRequest request).markerKey = markerOf executionIdentity caller)
    (tenant : (ExecutionBudget.default.tenantRequest request).tenant = caller.tenant) :
    ReservationInvariant executionIdentity
        (state.wrote (ExecutionBudget.default.charged state.redis state.now request)
          (markerOf executionIdentity caller)) ∧
      (state.wrote (ExecutionBudget.default.charged state.redis state.now request)
          (markerOf executionIdentity caller)).Kept (markerOf executionIdentity caller) := by
  obtain ⟨_, _, _, _, absent, _, lasting, _, _⟩ := affordable
  have held : get (ExecutionBudget.default.charged state.redis state.now request).markers state.now
      (ExecutionBudget.default.tenantRequest request).markerKey =
        some (.identity (ExecutionBudget.default.tenantRequest request).identity) :=
    Redis.get_granted_self lasting
  have wroteAs : state.wrote (ExecutionBudget.default.charged state.redis state.now request)
      (markerOf executionIdentity caller) =
        { state with
          redis := ExecutionBudget.default.charged state.redis state.now request
          written := Function.update state.written (markerOf executionIdentity caller) (some state.now)
          markers := insert (markerOf executionIdentity caller) state.markers } := by
    refine if_pos ⟨marker ▸ absent, ?_⟩
    rw [← marker, held]
    exact Option.some_ne_none _
  rw [wroteAs, ← marker]
  refine ⟨invariant.rewrite (invariant.covering.grant absent lasting rfl) ?_ ?_, ?_⟩
  · intro other identity otherHeld
    by_cases same : other = (ExecutionBudget.default.tenantRequest request).markerKey
    · rw [same, held, Option.some.injEq, MarkerValue.identity.injEq] at otherHeld
      refine ⟨caller, callerMem, marker.symm.trans same.symm, ?_⟩
      rw [← otherHeld, ← tenant]
      rfl
    · rw [ExecutionBudget.charged, Redis.get_granted_of_ne same] at otherHeld
      exact invariant.identified other identity otherHeld
  · intro other needed
    exact MarkerKept.grant lasting rfl fun _ => invariant.kept needed
  · exact MarkerKept.grant lasting rfl fun differs => absurd rfl differs

/-- A request gets a reservation whose marker is there. -/
theorem ReservationInvariant.join (invariant : ReservationInvariant executionIdentity state)
    {caller : LeasedRequest} {budget : BudgetedRequest} (callerMem : caller ∈ state.ledger.requests)
    (token : budget.token = caller.token) (unbudgeted : state.budget? caller.token = none)
    (marker : budget.markerKey = markerOf executionIdentity caller) (kept : state.Kept budget.markerKey)
    (idle : budget.reservation.tenant.replayed = false →
      ¬state.ledger.database.RunsUnder budget.markerKey) :
    ReservationInvariant executionIdentity { state with budgets := state.budgets ++ [budget] } := by
  have pursued : Pursued state { state with budgets := state.budgets ++ [budget] } :=
    .of_same_ledger invariant rfl fun budget member =>
      ⟨budget, List.mem_append_left _ member, rfl, rfl⟩
  have fresh : ∀ old ∈ state.budgets, old.token ≠ budget.token := by
    intro old oldMem
    rw [token]
    simpa using List.find?_eq_none.mp unbudgeted old oldMem
  refine ⟨invariant.requests, invariant.covering, invariant.budgets.append fresh, ?_,
    invariant.identified, invariant.executed, ?_, ?_, invariant.running⟩
  · intro other member
    rcases List.mem_append.mp member with member | member
    · exact invariant.owned other member
    · rw [List.mem_singleton.mp member]
      exact ⟨caller, callerMem, token.symm, marker.symm⟩
  · intro later other pending
    rcases List.mem_append.mp pending.budgetMem with member | member
    · obtain ⟨_, before, _⟩ := pending.before pursued invariant member rfl rfl id
      exact invariant.pending _ other before
    · rw [List.mem_singleton.mp member]
      exact kept
  · intro later other pending
    rcases List.mem_append.mp pending.budgetMem with member | member
    · obtain ⟨_, before, _⟩ := pending.before pursued invariant member rfl rfl id
      exact invariant.unprepared _ other before
    · rw [List.mem_singleton.mp member]
      exact idle

theorem ReservationInvariant.reserve (invariant : ReservationInvariant executionIdentity state)
    {caller : LeasedRequest} (callerMem : caller ∈ state.ledger.requests)
    (unbudgeted : state.budget? caller.token = none) (prompt : String) (verify : Bool)
    (userLimit organizationLimit : Int)
    (idle : Affordable ExecutionBudget.default state.redis state.now
      (budgetRequestOf executionIdentity caller prompt verify userLimit organizationLimit) →
        ¬state.ledger.database.RunsUnder (markerOf executionIdentity caller))
    {ending : Redis × Except BudgetError ExecutionReservation}
    (ended : ExecutionReserveEnding ExecutionBudget.default state.redis state.now
      (budgetRequestOf executionIdentity caller prompt verify userLimit organizationLimit) ending) :
    ReservationInvariant executionIdentity
      { state.wrote ending.1 (markerOf executionIdentity caller) with
        budgets := state.budgets ++ budgeted caller.token ending.2 } := by
  cases ended with
  | refused =>
    rw [ChatState.wrote_unchanged, budgeted, List.append_nil]
    exact invariant
  -- A marker that is already there is joined, and nothing is charged.
  | replayed exists_ =>
    rw [ChatState.wrote_unchanged]
    exact invariant.join callerMem rfl unbudgeted rfl (invariant.covering.kept exists_)
      fun fresh => by cases fresh
  | @granted result affordable returned =>
    obtain ⟨granted, kept⟩ := invariant.grant callerMem affordable rfl rfl
    have sameBudgets : (state.wrote (ExecutionBudget.default.charged state.redis state.now
        (budgetRequestOf executionIdentity caller prompt verify userLimit organizationLimit))
        (markerOf executionIdentity caller)).budgets = state.budgets := by
      unfold ChatState.wrote
      split <;> rfl
    have sameLedger : (state.wrote (ExecutionBudget.default.charged state.redis state.now
        (budgetRequestOf executionIdentity caller prompt verify userLimit organizationLimit))
        (markerOf executionIdentity caller)).ledger = state.ledger := by
      unfold ChatState.wrote
      split <;> rfl
    cases result with
    -- The charge was made and the answer lost: the marker stays, and no caller holds it.
    | error =>
      rw [budgeted, List.append_nil, ← sameBudgets]
      exact granted
    | ok reservation =>
      rw [returned reservation rfl, ← sameBudgets]
      refine granted.join (sameLedger ▸ callerMem) rfl ?_ rfl kept fun _ => ?_
      · rw [ChatState.budget?, sameBudgets]
        exact unbudgeted
      · rw [sameLedger]
        exact idle affordable

/-- A failed preflight is through with its reservation. -/
theorem ReservationInvariant.clean (invariant : ReservationInvariant executionIdentity state)
    {budget : BudgetedRequest} (budgetMem : budget ∈ state.budgets) :
    ReservationInvariant executionIdentity
        { state with
          budgets := Rows.replace BudgetedRequest.token { budget with cleaned := true } state.budgets } ∧
      ∀ caller other, Pending { state with
          budgets := Rows.replace BudgetedRequest.token { budget with cleaned := true } state.budgets }
          caller other → other.token ≠ budget.token ∧ Pending state caller other := by
  have pursued : Pursued state { state with
      budgets := Rows.replace BudgetedRequest.token { budget with cleaned := true } state.budgets } := by
    refine .of_same_ledger invariant rfl fun old oldMem => ?_
    by_cases same : old.token = budget.token
    · rw [invariant.budgets.eq oldMem budgetMem same]
      exact ⟨_, Rows.mem_replace_self budgetMem rfl, rfl, rfl⟩
    · exact ⟨old, Rows.mem_replace_of_ne oldMem same, rfl, rfl⟩
  have before : ∀ caller other, Pending { state with
      budgets := Rows.replace BudgetedRequest.token { budget with cleaned := true } state.budgets }
      caller other → other.token ≠ budget.token ∧ Pending state caller other := by
    intro caller other pending
    rcases Rows.mem_replace.mp pending.budgetMem with ⟨rfl, _⟩ | ⟨otherMem, differs⟩
    · exact absurd pending.uncleaned (by simp)
    · obtain ⟨earlier, before, _⟩ := pending.before pursued invariant otherMem rfl rfl id
      have isCaller : earlier = caller := invariant.requests.tokens.eq before.callerMem
        pending.callerMem (before.token.trans pending.token.symm)
      exact ⟨differs, isCaller ▸ before⟩
  refine ⟨⟨invariant.requests, invariant.covering, invariant.budgets.replace fun _ _ same => same, ?_,
    invariant.identified, invariant.executed, ?_, ?_, invariant.running⟩, before⟩
  · exact Rows.forall_replace (invariant.owned budget budgetMem) invariant.owned
  · intro caller other pending
    exact invariant.pending caller other (before caller other pending).2
  · intro caller other pending
    exact invariant.unprepared caller other (before caller other pending).2

/-- Nobody needs the marker of a new reservation that its request gives up, where the
request had it for itself. -/
theorem ReservationInvariant.unneeded (distinct : Function.Injective2 executionIdentity)
    (invariant : ReservationInvariant executionIdentity state) {caller : LeasedRequest}
    {budget : BudgetedRequest} (pending : Pending state caller budget)
    (fresh : budget.reservation.tenant.replayed = false) :
    ¬Needed { state with
      budgets := Rows.replace BudgetedRequest.token { budget with cleaned := true } state.budgets }
      budget.markerKey := by
  rintro (⟨other, otherBudget, otherPending, sameMarker⟩ | runs)
  · obtain ⟨differs, before⟩ := (invariant.clean pending.budgetMem).2 other otherBudget otherPending
    refine differs (congrArg BudgetedRequest.token ?_)
    exact invariant.exclusive_unique distinct before.budgetMem pending.budgetMem before.exclusive
      pending.exclusive sameMarker
  · exact invariant.unprepared caller budget pending fresh runs

theorem ReservationInvariant.release (distinct : Function.Injective2 executionIdentity)
    (invariant : ReservationInvariant executionIdentity state) {caller : LeasedRequest}
    {budget : BudgetedRequest} (callerMem : caller ∈ state.ledger.requests)
    (budgetMem : budget ∈ state.budgets) (token : caller.token = budget.token)
    (unpersisted : caller.persisted = false) (uncleaned : budget.cleaned = false)
    (orderly : Releases state.redis state.now budget.reservation.tenant →
      state.Exclusive budget ∧ state.redis.settledAmount? state.now budget.markerKey = none)
    {ending : Redis × Except BudgetError Unit}
    (ended : ReleaseEnding state.redis state.now budget.reservation.tenant ending) :
    ReservationInvariant executionIdentity
      { state with
        redis := ending.1
        budgets := Rows.replace BudgetedRequest.token { budget with cleaned := true } state.budgets } := by
  have cleaned := (invariant.clean budgetMem).1
  cases ended with
  | unchanged => exact cleaned
  | released _ fresh held =>
    obtain ⟨exclusive, unsettled⟩ := orderly ⟨fresh, held⟩
    have unneeded := invariant.unneeded distinct
      ⟨callerMem, budgetMem, token, unpersisted, uncleaned, exclusive⟩ fresh
    refine cleaned.rewrite (invariant.covering.release held unsettled) ?_ ?_
    · intro other identity otherHeld
      have otherHeld : get (state.redis.released state.now budget.markerKey
          budget.reservation.tenant.identity).markers state.now other = some (.identity identity) :=
        otherHeld
      by_cases same : other = budget.markerKey
      · rw [same, Redis.get_released_self] at otherHeld
        contradiction
      · rw [Redis.get_released_of_ne same] at otherHeld
        exact invariant.identified other identity otherHeld
    · intro other needed
      have differs : other ≠ budget.markerKey := fun same => unneeded (same ▸ needed)
      exact (cleaned.kept needed).release differs

theorem ReservationInvariant.settle (invariant : ReservationInvariant executionIdentity state)
    {reservation : TenantReservation} {actualAmount : Int}
    {ending : Redis × Except BudgetError Bool}
    (ended : SettleEnding state.redis state.now reservation actualAmount ending) :
    ReservationInvariant executionIdentity { state with redis := ending.1 } := by
  cases ended with
  | unchanged => exact invariant
  | settled _ settleable =>
    refine invariant.rewrite (invariant.covering.settle settleable) ?_ ?_
    · intro other identity held
      rw [← Redis.identity?_eq_some, Redis.identity?_reconciled settleable.lasting settleable.unsettled,
        Redis.identity?_eq_some] at held
      exact invariant.identified other identity held
    · intro other needed
      exact (invariant.kept needed).settle settleable

theorem ChatState.budget?_some {token : String} {budget : BudgetedRequest}
    (selected : state.budget? token = some budget) : budget ∈ state.budgets ∧ budget.token = token :=
  ⟨List.mem_of_find?_eq_some selected, by simpa using List.find?_some selected⟩

/-- A cleanup is made by a request that has persisted nothing and has not cleaned up yet. -/
theorem ChatState.step_releaseBudget {token : String} {backend : Backend}
    (stepped : ChatState.step executionIdentity state (.releaseBudget token backend) = some next) :
    ∃ caller ∈ state.ledger.requests, ∃ budget ∈ state.budgets,
      caller.token = token ∧ budget.token = token ∧ caller.persisted = false ∧ budget.cleaned = false ∧
      next = { state with
        redis := (releaseTenant backend state.redis state.now budget.reservation.tenant).1
        budgets := Rows.replace BudgetedRequest.token { budget with cleaned := true } state.budgets } := by
  obtain ⟨caller, found, asked⟩ := Option.bind_eq_some_iff.mp stepped
  obtain ⟨budget, selected, called⟩ := Option.bind_eq_some_iff.mp asked
  obtain ⟨callerMem, sameCaller⟩ := caller?_some found
  obtain ⟨budgetMem, sameBudget⟩ := budget?_some selected
  split at called
  · contradiction
  next open_ =>
    cases called
    obtain ⟨unpersisted, uncleaned⟩ := not_or.mp open_
    exact ⟨caller, callerMem, budget, budgetMem, sameCaller, sameBudget, by simpa using unpersisted,
      by simpa using uncleaned, rfl⟩

theorem ReservationInvariant.step (distinct : Function.Injective2 executionIdentity)
    (invariant : ReservationInvariant executionIdentity state) {label : ChatLabel}
    (orderly : Orderly executionIdentity state label)
    (stepped : ChatState.step executionIdentity state label = some next) :
    ReservationInvariant executionIdentity next := by
  cases label with
  | ledger label =>
    simp only [ChatState.step] at stepped
    split at stepped
    next allowed =>
      obtain ⟨ledger, advanced, rfl⟩ := Option.map_eq_some_iff.mp stepped
      exact invariant.ledger distinct allowed orderly advanced
    next => contradiction
  | reserveBudget token backend prompt verify userLimit organizationLimit =>
    obtain ⟨caller, found, called⟩ := Option.bind_eq_some_iff.mp stepped
    obtain ⟨callerMem, rfl⟩ := caller?_some found
    split at called
    · contradiction
    next unasked =>
      cases called
      have unbudgeted : state.budget? caller.token = none := by simpa using (not_or.mp unasked).2
      exact invariant.reserve callerMem unbudgeted prompt verify userLimit organizationLimit
        (orderly caller callerMem rfl) (ExecutionBudget.reserve_ending _ _ _ _ _)
  | releaseBudget token backend =>
    obtain ⟨caller, callerMem, budget, budgetMem, rfl, sameToken, unpersisted, uncleaned, rfl⟩ :=
      step_releaseBudget stepped
    exact invariant.release distinct callerMem budgetMem sameToken.symm unpersisted uncleaned
      (orderly budget budgetMem sameToken) (releaseTenant_ending _ _ _ _)
  | settle token backend actualTokens =>
    obtain ⟨caller, _, asked⟩ := Option.bind_eq_some_iff.mp stepped
    obtain ⟨budget, _, called⟩ := Option.bind_eq_some_iff.mp asked
    split at called
    · cases called
      exact invariant.settle (settleTenant_ending _ _ _ _ _)
    · contradiction

/-! ## Running executions and their reservations -/

/-- The execution's marker is there for its user and its organization, and both counters
cover its charge next to all others. -/
structure ReservationCounted (state : ChatState) (execution : ChatExecution) : Prop where
  held : ∃ identity, get state.redis.markers state.now execution.markerKey = some (.identity identity) ∧
    identity.tenant = execution.tenant
  counted : ∀ counter, execution.tenant.uses counter = true → ∀ markers : Finset MarkerKey,
    execution.markerKey ∈ markers →
      ((∑ marker ∈ markers, state.redis.charge state.now counter marker : Nat) : Int) ≤
        state.redis.count state.now counter

/-- The cleanup of a failed preflight touches no marker an execution runs under. -/
def SparesRunning (executionIdentity : Nat × Nat × String → Nat → String) (state : ChatState)
    (label : ChatLabel) : Prop :=
  ∀ token backend, label = .releaseBudget token backend → ∀ next,
    ChatState.step executionIdentity state label = some next →
      ∀ execution ∈ state.ledger.database.executions, execution.status.isTerminal = false →
        find next.redis.markers next.now execution.markerKey =
          find state.redis.markers state.now execution.markerKey

theorem ReservationInvariant.counted (distinct : Function.Injective2 executionIdentity)
    (invariant : ReservationInvariant executionIdentity state) {execution : ChatExecution}
    (executionMem : execution ∈ state.ledger.database.executions)
    (running : execution.status.isTerminal = false) {instant : Nat}
    (wrote : state.written execution.markerKey = some instant)
    (recent : state.now < instant + RESERVATION_LIFETIME) : ReservationCounted state execution := by
  obtain ⟨identity, held⟩ := (invariant.running execution executionMem running).get wrote recent
  refine ⟨⟨identity, held, ?_⟩, ?_⟩
  · -- The request that wrote the marker and the one that prepared the execution are the same user's.
    obtain ⟨writer, _, writerMarker, writerTenant⟩ := invariant.identified _ identity held
    obtain ⟨preparer, _, preparerMarker, preparerUser⟩ := invariant.executed execution executionMem
    have sameMarker := writerMarker.trans preparerMarker.symm
    have sameIdentity := (distinct (congrArg MarkerKey.name sameMarker)).1
    have sameUser : writer.request.userId = preparer.request.userId :=
      congrArg (fun identity => identity.2.1) sameIdentity
    have sameOrganization : writer.request.organizationId = execution.organizationId :=
      congrArg MarkerKey.organizationId writerMarker
    rw [← writerTenant, LeasedRequest.tenant, ChatExecution.tenant, sameOrganization, sameUser,
      preparerUser]
  · intro counter _ markers _
    have covered := invariant.covering.covered counter
    have charged : ∑ marker ∈ markers, state.redis.charge state.now counter marker ≤
        ∑ marker ∈ state.markers, state.redis.charge state.now counter marker := by
      refine Finset.sum_le_sum_of_ne_zero fun marker _ charges => ?_
      cases known : state.redis.identity? state.now marker with
      | none => exact absurd (by simp [Redis.charge, known]) charges
      | some identity => exact invariant.covering.listed marker identity (Redis.identity?_eq_some.mp known)
    omega

theorem ReservationInvariant.spares
    (invariant : ReservationInvariant executionIdentity state) {label : ChatLabel}
    (orderly : Orderly executionIdentity state label) : SparesRunning executionIdentity state label := by
  rintro token backend rfl next stepped execution executionMem running
  obtain ⟨caller, callerMem, budget, budgetMem, rfl, sameToken, unpersisted, uncleaned, rfl⟩ :=
    step_releaseBudget stepped
  have ended := releaseTenant_ending backend state.redis state.now budget.reservation.tenant
  dsimp only
  generalize releaseTenant backend state.redis state.now budget.reservation.tenant = ending at ended
  cases ended with
  | unchanged => rfl
  | released _ fresh held =>
    obtain ⟨exclusive, _⟩ := orderly budget budgetMem sameToken ⟨fresh, held⟩
    have idle := invariant.unprepared caller budget
      ⟨callerMem, budgetMem, sameToken.symm, unpersisted, uncleaned, exclusive⟩ fresh
    have differs : execution.markerKey ≠ budget.markerKey := fun same =>
      idle ⟨execution, executionMem, running, same⟩
    exact find_erase_of_ne differs

end Invariant

/-- In every run whose steps are orderly, an execution that is prepared or streaming keeps
its reservation for the lifetime of its marker, and no failed preflight releases it. -/
theorem running_executions_reserved {digest : String → String} (collisionFree : Function.Injective digest)
    {clock : Instant} {labels : List ChatLabel} {state : ChatState}
    (reached : Transition.run (ChatState.step (executionIdentity digest)) (ChatState.initial clock) labels =
      some state)
    (orderly : Transition.Throughout (ChatState.step (executionIdentity digest))
      (Orderly (executionIdentity digest)) (ChatState.initial clock) labels) :
    (∀ execution ∈ state.ledger.database.executions, execution.status.isTerminal = false →
      ∀ instant, state.written execution.markerKey = some instant →
        state.now < instant + RESERVATION_LIFETIME → ReservationCounted state execution) ∧
    Transition.Throughout (ChatState.step (executionIdentity digest))
      (SparesRunning (executionIdentity digest)) (ChatState.initial clock) labels := by
  have distinct := executionIdentity_injective collisionFree
  have preserved : ∀ state label next, ReservationInvariant (executionIdentity digest) state →
      Orderly (executionIdentity digest) state label →
        ChatState.step (executionIdentity digest) state label = some next →
          ReservationInvariant (executionIdentity digest) next :=
    fun _ _ _ invariant orderly stepped => invariant.step distinct orderly stepped
  have invariant := Transition.run_invariant_throughout
    (ReservationInvariant (executionIdentity digest)) preserved (reservationInvariant_initial clock)
    orderly reached
  refine ⟨?_, ?_⟩
  · intro execution executionMem running instant wrote recent
    exact invariant.counted distinct executionMem running wrote recent
  · exact Transition.throughout_of_invariant (ReservationInvariant (executionIdentity digest)) preserved
      (fun _ _ invariant orderly => invariant.spares orderly)
      (reservationInvariant_initial clock) orderly

/-- SHA-256 on the text of the one execution of the runs below, and without collisions. -/
def sampleDigest : String → String :=
  Equiv.swap "1:2:key:" "0a92678e6247b7af4095a3ba99409c54649f4de1b8c0f66346ebc91235e1530f"

def sampleExchange (recover : Bool) : ExchangeRequest :=
  ⟨"", "request", 1, 0, 0, 3, 1, "openai", "gpt-4o", "hello", none, 1026, 0, false, recover, none, 3, none⟩

/-- A request takes over a lapsed lease, finds the database unavailable and fails. -/
theorem running_executions_reserved_unavailable :
    ∃ state, Transition.run (ChatState.step (executionIdentity sampleDigest)) (ChatState.initial 0)
        [.ledger (.begin ⟨1, 2, "key", "digest"⟩ 0 "a"),
          .reserveBudget "a" .answering "hello" false 10000 10000,
          .ledger (.prepareExchange "a" .available (sampleExchange false)),
          .ledger (.tick (seconds 121)),
          .ledger (.begin ⟨1, 2, "key", "digest"⟩ 0 "b"),
          .reserveBudget "b" .answering "hello" false 10000 10000,
          .ledger (.prepareExchange "b" ⟨false, true, true⟩ (sampleExchange true)),
          .releaseBudget "b" .answering] = some state ∧
      ∃ execution ∈ state.ledger.database.executions, execution.status = .prepared ∧
        ReservationCounted state execution := by
  have ran : ((Transition.run (ChatState.step (executionIdentity sampleDigest)) (ChatState.initial 0)
        [.ledger (.begin ⟨1, 2, "key", "digest"⟩ 0 "a"),
          .reserveBudget "a" .answering "hello" false 10000 10000,
          .ledger (.prepareExchange "a" .available (sampleExchange false)),
          .ledger (.tick (seconds 121)),
          .ledger (.begin ⟨1, 2, "key", "digest"⟩ 0 "b"),
          .reserveBudget "b" .answering "hello" false 10000 10000,
          .ledger (.prepareExchange "b" ⟨false, true, true⟩ (sampleExchange true)),
          .releaseBudget "b" .answering]).any fun state =>
      state.ledger.database.executions.any fun execution =>
        execution.status = .prepared ∧ state.written execution.markerKey = some 0 ∧
          state.now < 0 + RESERVATION_LIFETIME) = true := by
    decide +kernel
  obtain ⟨state, reached, found⟩ := (Option.any_eq_true _ _).mp ran
  obtain ⟨execution, executionMem, held⟩ := List.any_eq_true.mp found
  obtain ⟨prepared, wrote, recent⟩ := of_decide_eq_true held
  have running : execution.status.isTerminal = false := by rw [prepared]; rfl
  exact ⟨state, reached, execution, executionMem, prepared,
    (running_executions_reserved (Equiv.injective _) reached (by decide +kernel)).1 execution executionMem
      running 0 wrote recent⟩

/-- A running execution may lose its reservation: its preflight shared one with a request
whose lease had lapsed, and which then failed to persist and released it. -/
theorem running_execution_loses_reservation :
    ¬∀ (digest : String → String) (_ : Function.Injective digest) (clock : Instant)
        (labels : List ChatLabel) (state : ChatState),
      Transition.run (ChatState.step (executionIdentity digest)) (ChatState.initial clock) labels =
        some state →
      ∀ execution ∈ state.ledger.database.executions, execution.status.isTerminal = false →
        ∀ instant, state.written execution.markerKey = some instant →
          state.now < instant + RESERVATION_LIFETIME → ReservationCounted state execution := by
  intro reserved
  have ran : ((Transition.run (ChatState.step (executionIdentity sampleDigest)) (ChatState.initial 0)
        [.ledger (.begin ⟨1, 2, "key", "digest"⟩ 0 "a"),
          .reserveBudget "a" .answering "hello" false 10000 10000,
          .ledger (.tick (seconds 121)),
          .ledger (.begin ⟨1, 2, "key", "digest"⟩ 0 "b"),
          .ledger (.assertRecoveryAllowed "b" .available),
          .reserveBudget "b" .answering "hello" false 10000 10000,
          .ledger (.prepareExchange "b" .available (sampleExchange true)),
          .ledger (.prepareExchange "a" .available (sampleExchange false)),
          .releaseBudget "a" .answering]).any fun state =>
      state.ledger.database.executions.any fun execution =>
        execution.status = .prepared ∧ state.written execution.markerKey = some 0 ∧
          state.now < 0 + RESERVATION_LIFETIME ∧
            get state.redis.markers state.now execution.markerKey = none) = true := by
    decide +kernel
  obtain ⟨state, reached, found⟩ := (Option.any_eq_true _ _).mp ran
  obtain ⟨execution, executionMem, held⟩ := List.any_eq_true.mp found
  obtain ⟨prepared, wrote, recent, released⟩ := of_decide_eq_true held
  have running : execution.status.isTerminal = false := by rw [prepared]; rfl
  obtain ⟨identity, present, _⟩ := (reserved sampleDigest (Equiv.injective _) 0 _ state reached execution
    executionMem running 0 wrote recent).held
  rw [released] at present
  contradiction

end Eiraos
