import Eiraos.Foundations.Run
import Eiraos.Foundations.Sums
import Eiraos.Usage.Charges

/-! # The token counters are conserved

Calls of the three methods in any order on any reservations, with the clock moving between
them.  A counter is the sum of the charges of the markers, as long as nothing expires and
no release takes effect on a reservation that was settled: `release_tenant` subtracts the
reserved amount whatever was settled, and leaves the settled amount behind for the next
reservation of the same name.
-/

namespace Eiraos

open Expiring

/-- `reservations` are the objects `reserve_tenant` has returned; `markers` are the names it
was called for and `settlements` those of the settlements that took effect. -/
structure BudgetState where
  redis : Redis
  now : Nat
  reservations : List TenantReservation
  markers : Finset MarkerKey
  settlements : List MarkerKey

inductive BudgetLabel where
  | elapse (milliseconds : Nat)
  | reserve (backend : Backend) (request : TenantRequest)
  | release (backend : Backend) (reservation : TenantReservation)
  | settle (backend : Backend) (reservation : TenantReservation) (actualAmount : Int)
  deriving DecidableEq, Repr

namespace BudgetState

def initial (now : Nat) : BudgetState := ⟨Redis.empty, now, [], ∅, []⟩

def returned : Except BudgetError TenantReservation → List TenantReservation
  | .ok reservation => [reservation]
  | .error _ => []

def newlySettled (before after : Redis) (now : Nat) (marker : MarkerKey) : List MarkerKey :=
  if before.settledAmount? now marker = none ∧ after.settledAmount? now marker ≠ none then [marker] else []

/-- Releases and settlements are of reservations that were returned. -/
def step (state : BudgetState) : BudgetLabel → Option BudgetState
  | .elapse milliseconds => some { state with now := state.now + milliseconds }
  | .reserve backend request =>
    let ending := reserveTenant backend state.redis state.now request
    some { state with
      redis := ending.1
      reservations := state.reservations ++ returned ending.2
      markers := insert request.markerKey state.markers }
  | .release backend reservation =>
    if reservation ∈ state.reservations then
      some { state with redis := (releaseTenant backend state.redis state.now reservation).1 }
    else none
  | .settle backend reservation actualAmount =>
    if reservation ∈ state.reservations then
      let ending := settleTenant backend state.redis state.now reservation actualAmount
      some { state with
        redis := ending.1
        settlements := state.settlements ++
          newlySettled state.redis ending.1 state.now reservation.markerKey }
    else none

end BudgetState

open BudgetState

/-- The release finds its marker and was not a replay. -/
def Releases (redis : Redis) (now : Nat) (reservation : TenantReservation) : Prop :=
  reservation.replayed = false ∧ get redis.markers now reservation.markerKey = some (.identity reservation.identity)

def NothingExpires (state : BudgetState) : BudgetLabel → Prop
  | .elapse milliseconds => state.redis.Steady state.now (state.now + milliseconds)
  | _ => True

/-- Nothing expires, and no settled reservation is released. -/
def Conserving (state : BudgetState) (label : BudgetLabel) : Prop :=
  NothingExpires state label ∧
    match label with
    | .release _ reservation =>
      Releases state.redis state.now reservation →
        state.redis.settledAmount? state.now reservation.markerKey = none
    | _ => True

structure Conserved (state : BudgetState) : Prop where
  balance : ∀ counter, state.redis.count state.now counter =
    (∑ marker ∈ state.markers, state.redis.charge state.now counter marker : Nat)
  listed : ∀ marker identity,
    get state.redis.markers state.now marker = some (.identity identity) → marker ∈ state.markers
  settledHeld : ∀ marker amount, state.redis.settledAmount? state.now marker = some amount →
    ∃ identity, get state.redis.markers state.now marker = some (.identity identity)
  settled : ∀ marker ∈ state.settlements, state.redis.settledAmount? state.now marker ≠ none
  once : state.settlements.Nodup

namespace Conserved

variable {state : BudgetState}

theorem initial (now : Nat) : Conserved (initial now) where
  balance := fun _ => rfl
  listed := fun _ _ held => by cases held
  settledHeld := fun _ _ amount => by cases amount
  settled := fun _ member => by cases member
  once := List.nodup_nil

theorem elapse (conserved : Conserved state) {milliseconds : Nat}
    (steady : state.redis.Steady state.now (state.now + milliseconds)) :
    Conserved { state with now := state.now + milliseconds } := by
  have order : state.now ≤ state.now + milliseconds := Nat.le_add_right _ _
  refine ⟨?_, ?_, ?_, ?_, conserved.once⟩
  · intro counter
    simp only [steady.count_eq order, steady.charge_eq order]
    exact conserved.balance counter
  · simp only [steady.get_eq order]
    exact conserved.listed
  · simp only [steady.get_eq order, steady.settledAmount?_eq order]
    exact conserved.settledHeld
  · simp only [steady.settledAmount?_eq order]
    exact conserved.settled

/-- A name that was asked for without effect counts for nothing. -/
theorem ask (conserved : Conserved state) (marker : MarkerKey) (reservations : List TenantReservation) :
    Conserved { state with reservations, markers := insert marker state.markers } := by
  refine ⟨?_, ?_, conserved.settledHeld, conserved.settled, conserved.once⟩
  · intro counter
    have unlisted : marker ∉ state.markers → state.redis.charge state.now counter marker = 0 := by
      intro absent
      cases held : state.redis.identity? state.now marker with
      | none => simp [Redis.charge, held]
      | some identity => exact absurd (conserved.listed marker identity (by simpa using held)) absent
    rw [Finset.sum_insert_of_eq_zero_if_notMem unlisted]
    exact conserved.balance counter
  · intro other identity held
    exact Finset.mem_insert_of_mem (conserved.listed other identity held)

theorem grant (conserved : Conserved state) {request : TenantRequest}
    (grantable : Grantable state.redis state.now request) (listed : request.markerKey ∈ state.markers) :
    Conserved { state with
      redis := state.redis.granted state.now request.markerKey request.identity
        request.ttlSeconds.toNat } := by
  obtain ⟨_, _, absent, positive, lasting, _, _⟩ := grantable
  -- An amount is only settled beside its marker, and this marker is not there.
  have unsettled : state.redis.settledAmount? state.now request.markerKey = none := by
    by_contra settled
    obtain ⟨amount, settled⟩ := Option.ne_none_iff_exists'.mp settled
    obtain ⟨identity, held⟩ := conserved.settledHeld _ _ settled
    rw [absent] at held
    contradiction
  refine ⟨?_, ?_, ?_, ?_, conserved.once⟩
  · intro counter
    dsimp only
    have balance := conserved.balance counter
    have sums := Sums.sum_add_eq_of_off (state.redis.charge state.now counter)
      ((state.redis.granted state.now request.markerKey request.identity request.ttlSeconds.toNat).charge
        state.now counter) listed
      fun other _ differs => Redis.charge_granted_of_ne lasting absent differs
    rw [Redis.charge_granted_self lasting absent unsettled, Redis.charge_of_absent absent] at sums
    rw [Redis.count_granted lasting]
    by_cases uses : request.identity.tenant.uses counter = true
    · rw [if_pos uses] at sums ⊢
      omega
    · rw [if_neg uses] at sums ⊢
      omega
  · intro marker identity held
    by_cases same : marker = request.markerKey
    · exact same ▸ listed
    · rw [Redis.get_granted_of_ne same] at held
      exact conserved.listed marker identity held
  · intro marker amount settled
    rw [Redis.settledAmount?_granted lasting absent] at settled
    obtain ⟨identity, held⟩ := conserved.settledHeld marker amount settled
    have differs : marker ≠ request.markerKey := by
      intro same
      rw [same, absent] at held
      contradiction
    exact ⟨identity, (Redis.get_granted_of_ne differs).trans held⟩
  · intro marker member
    rw [Redis.settledAmount?_granted lasting absent]
    exact conserved.settled marker member

/-- A release that takes effect on an unsettled reservation takes back its charge. -/
theorem count_released (conserved : Conserved state) {marker : MarkerKey} {identity : Identity}
    (held : get state.redis.markers state.now marker = some (.identity identity))
    (unsettled : state.redis.settledAmount? state.now marker = none) (counter : CounterKey) :
    (state.redis.released state.now marker identity).count state.now counter =
      state.redis.count state.now counter - state.redis.charge state.now counter marker := by
  have charged : state.redis.charge state.now counter marker = _ :=
    Redis.charge_of_unsettled held unsettled
  have member := conserved.listed marker identity held
  -- The counter covers the charge of every single marker.
  have covered : state.redis.charge state.now counter marker ≤
      ∑ marker ∈ state.markers, state.redis.charge state.now counter marker :=
    Finset.single_le_sum (f := state.redis.charge state.now counter) (fun _ _ => Nat.zero_le _) member
  have balance := conserved.balance counter
  rw [Redis.count_released]
  split
  next uses =>
    rw [if_pos uses] at charged
    omega
  next unused =>
    rw [if_neg unused] at charged
    omega

theorem release (conserved : Conserved state) {marker : MarkerKey} {identity : Identity}
    (held : get state.redis.markers state.now marker = some (.identity identity))
    (unsettled : state.redis.settledAmount? state.now marker = none) :
    Conserved { state with redis := state.redis.released state.now marker identity } := by
  refine ⟨?_, ?_, ?_, ?_, conserved.once⟩
  · intro counter
    dsimp only
    have balance := conserved.balance counter
    have sums := Sums.sum_add_eq_of_off (state.redis.charge state.now counter)
      ((state.redis.released state.now marker identity).charge state.now counter)
      (conserved.listed marker identity held)
      fun other _ differs => Redis.charge_released_of_ne held differs
    rw [Redis.charge_released_self] at sums
    have undone := conserved.count_released held unsettled counter
    omega
  · intro other otherIdentity otherHeld
    by_cases same : other = marker
    · rw [same, Redis.get_released_self] at otherHeld
      contradiction
    · rw [Redis.get_released_of_ne same] at otherHeld
      exact conserved.listed other otherIdentity otherHeld
  · intro other amount settled
    rw [Redis.settledAmount?_released held] at settled
    have differs : other ≠ marker := by
      intro same
      rw [same, unsettled] at settled
      contradiction
    rw [Redis.get_released_of_ne differs]
    exact conserved.settledHeld other amount settled
  · intro other member
    rw [Redis.settledAmount?_released held]
    exact conserved.settled other member

theorem settle (conserved : Conserved state) {reservation : TenantReservation} {actualAmount : Nat}
    (settleable : Settleable state.redis state.now reservation) :
    Conserved { state with
      redis := state.redis.reconciled state.now reservation.markerKey reservation.identity actualAmount
      settlements := state.settlements ++ [reservation.markerKey] } := by
  obtain ⟨held, unsettled, lasting⟩ := settleable
  have before := Redis.settledAmount?_eq_none_of_absent unsettled
  refine ⟨?_, ?_, ?_, ?_, ?_⟩
  · intro counter
    dsimp only
    have balance := conserved.balance counter
    -- Of all charges only the one of the settled reservation changes.
    have sums := Sums.sum_add_eq_of_off (state.redis.charge state.now counter)
      ((state.redis.reconciled state.now reservation.markerKey reservation.identity actualAmount).charge
        state.now counter) (conserved.listed _ _ held)
      fun other _ differs => Redis.charge_reconciled_of_ne differs unsettled lasting
    rw [Redis.charge_reconciled_self held unsettled lasting, Redis.charge_of_unsettled held before] at sums
    rw [Redis.count_reconciled]
    by_cases uses : reservation.identity.tenant.uses counter = true
    · rw [if_pos uses, if_pos uses] at sums
      rw [if_pos uses]
      omega
    · rw [if_neg uses, if_neg uses] at sums
      rw [if_neg uses]
      omega
  · intro other identity otherHeld
    rw [← Redis.identity?_eq_some, Redis.identity?_reconciled lasting unsettled,
      Redis.identity?_eq_some] at otherHeld
    exact conserved.listed other identity otherHeld
  · intro other amount settled
    simp only [← Redis.identity?_eq_some, Redis.identity?_reconciled lasting unsettled]
    simp only [Redis.identity?_eq_some]
    by_cases same : other = reservation.markerKey
    · exact ⟨_, same ▸ held⟩
    · rw [Redis.settledAmount?_reconciled_of_ne same] at settled
      exact conserved.settledHeld other amount settled
  · intro other member
    by_cases same : other = reservation.markerKey
    · rw [same, Redis.settledAmount?_reconciled_self lasting]
      exact Option.some_ne_none _
    · rw [Redis.settledAmount?_reconciled_of_ne same]
      rcases List.mem_append.mp member with member | member
      · exact conserved.settled other member
      · exact absurd (List.mem_singleton.mp member) same
  · rw [List.nodup_append]
    refine ⟨conserved.once, List.nodup_singleton _, ?_⟩
    intro earlier member other singleton same
    rw [List.mem_singleton.mp singleton] at same
    exact conserved.settled earlier member (same ▸ before)

theorem step {next : BudgetState} {label : BudgetLabel} (conserved : Conserved state)
    (met : Conserving state label) (stepped : BudgetState.step state label = some next) :
    Conserved next := by
  cases label with
  | elapse milliseconds =>
    cases stepped
    exact conserved.elapse met.1
  | reserve backend request =>
    cases stepped
    have ended := reserveTenant_ending backend state.redis state.now request
    generalize reserveTenant backend state.redis state.now request = ending at ended
    have asked := conserved.ask request.markerKey (state.reservations ++ returned ending.2)
    cases ended with
    | refused => exact asked
    | replayed => exact asked
    | granted grantable => exact asked.grant grantable (Finset.mem_insert_self _ _)
  | release backend reservation =>
    simp only [BudgetState.step] at stepped
    split at stepped
    · cases stepped
      have ended := releaseTenant_ending backend state.redis state.now reservation
      generalize releaseTenant backend state.redis state.now reservation = ending at ended
      cases ended with
      | unchanged => exact conserved
      | released _ fresh held => exact conserved.release held (met.2 ⟨fresh, held⟩)
    · contradiction
  | settle backend reservation actualAmount =>
    simp only [BudgetState.step] at stepped
    split at stepped
    · cases stepped
      have ended := settleTenant_ending backend state.redis state.now reservation actualAmount
      generalize settleTenant backend state.redis state.now reservation actualAmount = ending at ended
      cases ended with
      | unchanged =>
        have nothing : newlySettled state.redis state.redis state.now reservation.markerKey = [] :=
          if_neg fun both => both.2 both.1
        simp only [nothing, List.append_nil]
        exact conserved
      | settled _ settleable =>
        have newly : newlySettled state.redis (state.redis.reconciled state.now reservation.markerKey
            reservation.identity actualAmount.toNat) state.now reservation.markerKey =
              [reservation.markerKey] := by
          refine if_pos ⟨Redis.settledAmount?_eq_none_of_absent settleable.unsettled, ?_⟩
          rw [Redis.settledAmount?_reconciled_self settleable.lasting]
          exact Option.some_ne_none _
        simp only [newly]
        exact conserved.settle settleable
    · contradiction

end Conserved

/-- In every run in which nothing expires and no settled reservation is released, each
counter is the sum of the charges of the markers that exist, every settlement took effect
once, and a release takes back the charge. -/
theorem counters_conserved {now : Nat} {labels : List BudgetLabel} {state : BudgetState}
    (ran : Transition.run BudgetState.step (BudgetState.initial now) labels = some state)
    (conditioned : Transition.Throughout BudgetState.step Conserving (BudgetState.initial now) labels) :
    (∀ counter, state.redis.count state.now counter =
      (∑ marker ∈ state.markers, state.redis.charge state.now counter marker : Nat)) ∧
    (∀ marker identity, get state.redis.markers state.now marker = some (.identity identity) →
      marker ∈ state.markers) ∧
    state.settlements.Nodup ∧
    ∀ reservation, Conserving state (.release .answering reservation) →
      Releases state.redis state.now reservation → ∀ counter,
        (releaseTenant .answering state.redis state.now reservation).1.count state.now counter =
          state.redis.count state.now counter -
            state.redis.charge state.now counter reservation.markerKey := by
  have conserved : Conserved state :=
    Transition.run_invariant_throughout Conserved (fun _ _ _ conserved met stepped =>
      conserved.step met stepped) (Conserved.initial now) conditioned ran
  refine ⟨conserved.balance, conserved.listed, conserved.once, ?_⟩
  rintro reservation ⟨_, unsettled⟩ ⟨fresh, held⟩ counter
  have effect : (releaseTenant .answering state.redis state.now reservation).1 =
      state.redis.released state.now reservation.markerKey reservation.identity := by
    simp [releaseTenant, fresh, Redis.releaseScript, held, Backend.eval]
  rw [effect]
  exact conserved.count_released held (unsettled ⟨fresh, held⟩) counter

/-- A settlement, a replay and a release over two reservations. -/
theorem counters_conserved_settled :
    ∃ state, Transition.run BudgetState.step (BudgetState.initial 0)
        [.reserve .answering ⟨"a", ⟨1, 2⟩, 100, 1000, 1000, 3600⟩,
          .reserve .answering ⟨"b", ⟨1, 3⟩, 70, 1000, 1000, 3600⟩,
          .settle .answering ⟨"a", ⟨1, 2⟩, 100, false⟩ 50,
          .settle .answering ⟨"a", ⟨1, 2⟩, 100, false⟩ 50,
          .release .answering ⟨"b", ⟨1, 3⟩, 70, false⟩] = some state ∧
      state.redis.count state.now (.organization 1) =
        (∑ marker ∈ state.markers, state.redis.charge state.now (.organization 1) marker : Nat) ∧
      state.redis.count state.now (.organization 1) = 50 :=
  ⟨_, rfl, (@counters_conserved 0
    [.reserve .answering ⟨"a", ⟨1, 2⟩, 100, 1000, 1000, 3600⟩,
      .reserve .answering ⟨"b", ⟨1, 3⟩, 70, 1000, 1000, 3600⟩,
      .settle .answering ⟨"a", ⟨1, 2⟩, 100, false⟩ 50,
      .settle .answering ⟨"a", ⟨1, 2⟩, 100, false⟩ 50,
      .release .answering ⟨"b", ⟨1, 3⟩, 70, false⟩] _ rfl
    ⟨⟨trivial, trivial⟩, ⟨trivial, trivial⟩, ⟨trivial, trivial⟩, ⟨trivial, trivial⟩,
      ⟨trivial, fun _ => rfl⟩, trivial⟩).1 _, by decide⟩

/-- Releasing a settled reservation unbalances the counters: of 100 tokens settled at 50 and
100 tokens reserved by another execution, the release of the first leaves 50. -/
theorem counters_not_conserved :
    ¬∀ (now : Nat) (labels : List BudgetLabel) (state : BudgetState),
      Transition.run BudgetState.step (BudgetState.initial now) labels = some state →
      Transition.Throughout BudgetState.step NothingExpires (BudgetState.initial now) labels →
      ∀ counter, state.redis.count state.now counter =
        (∑ marker ∈ state.markers, state.redis.charge state.now counter marker : Nat) := by
  intro balanced
  have balance := balanced 0
    [.reserve .answering ⟨"a", ⟨1, 2⟩, 100, 1000, 1000, 3600⟩,
      .settle .answering ⟨"a", ⟨1, 2⟩, 100, false⟩ 50,
      .reserve .answering ⟨"b", ⟨1, 2⟩, 100, 1000, 1000, 3600⟩,
      .release .answering ⟨"a", ⟨1, 2⟩, 100, false⟩] _ rfl
    ⟨trivial, trivial, trivial, trivial, trivial⟩ (.user 1 2)
  exact absurd balance (by decide)

end Eiraos
