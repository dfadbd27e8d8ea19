import Eiraos.Foundations.Sums
import Eiraos.Usage.Charges

/-! # The counters cover the live reservations

With a constant lifetime and keys that do expire, a counter is at least the sum of the
charges of the markers that are alive: a grant renews the deadline of its counters, so no
marker outlives a counter it is charged to, and a settled amount lives exactly as long as
its marker.
-/

namespace Eiraos

open Expiring

/-- The marker is there until its lifetime, counted from its last writing, has passed. -/
def MarkerKept (redis : Redis) (now lifetime : Nat) (written : MarkerKey → Option Nat)
    (marker : MarkerKey) : Prop :=
  ∀ instant, written marker = some instant → now < instant + lifetime →
    ∃ identity, find redis.markers now marker = some ⟨.identity identity, some (instant + lifetime)⟩

/-- `markers` are the names in use, `written` says when each marker was last written. -/
structure Covering (redis : Redis) (now lifetime : Nat) (markers : Finset MarkerKey)
    (written : MarkerKey → Option Nat) : Prop where
  covered : ∀ counter,
    ((∑ marker ∈ markers, redis.charge now counter marker : Nat) : Int) ≤ redis.count now counter
  listed : ∀ marker identity, get redis.markers now marker = some (.identity identity) → marker ∈ markers
  past : ∀ marker instant, written marker = some instant → instant ≤ now
  dated : ∀ marker identity, get redis.markers now marker = some (.identity identity) →
    ∃ instant, written marker = some instant ∧
      find redis.markers now marker = some ⟨.identity identity, some (instant + lifetime)⟩
  outlives : ∀ marker identity instant,
    find redis.markers now marker = some ⟨.identity identity, some instant⟩ →
    ∀ counter, identity.tenant.uses counter = true →
      ∃ deadline, Expiring.deadline redis.counters now counter = some deadline ∧ instant ≤ deadline
  settledWith : ∀ marker amount, redis.settledAmount? now marker = some amount →
    ∃ identity instant, find redis.markers now marker = some ⟨.identity identity, some instant⟩ ∧
      deadline redis.markers now marker.settlementKey = some instant

theorem MarkerKept.get {redis : Redis} {now lifetime instant : Nat} {written : MarkerKey → Option Nat}
    {marker : MarkerKey} (kept : MarkerKept redis now lifetime written marker)
    (wrote : written marker = some instant) (recent : now < instant + lifetime) :
    ∃ identity, get redis.markers now marker = some (.identity identity) := by
  obtain ⟨identity, found⟩ := kept instant wrote recent
  exact ⟨identity, get_eq_some.mpr ⟨_, found, rfl⟩⟩

namespace Covering

variable {redis : Redis} {now lifetime : Nat} {markers : Finset MarkerKey}
  {written : MarkerKey → Option Nat} {marker : MarkerKey}

theorem empty (now lifetime : Nat) : Covering Redis.empty now lifetime ∅ fun _ => none where
  covered := fun _ => Int.le_refl _
  listed := fun _ _ held => by cases held
  past := fun _ _ wrote => by cases wrote
  dated := fun _ _ held => by cases held
  outlives := fun _ _ _ found => by cases found
  settledWith := fun _ _ settled => by cases settled

/-- A marker that is there is kept. -/
theorem kept (covering : Covering redis now lifetime markers written) {identity : Identity}
    (held : get redis.markers now marker = some (.identity identity)) :
    MarkerKept redis now lifetime written marker := by
  obtain ⟨instant, wrote, found⟩ := covering.dated marker identity held
  intro other otherWrote _
  rw [wrote, Option.some.injEq] at otherWrote
  exact ⟨identity, otherWrote ▸ found⟩

/-! ## The clock -/

section Clock

variable {later : Nat}

/-- While the marker is there, what was settled of it stays readable. -/
theorem settledAmount?_later (covering : Covering redis now lifetime markers written)
    (order : now ≤ later) {identity : Identity}
    (held : get redis.markers later marker = some (.identity identity)) :
    redis.settledAmount? later marker = redis.settledAmount? now marker := by
  refine Redis.settledAmount?_later order fun amount settled => ?_
  obtain ⟨_, instant, found, ends⟩ := covering.settledWith marker amount settled
  have foundLater := find_of_get_later order held found
  exact ⟨instant, ends, lt_of_deadline (deadline_eq_some.mpr ⟨_, foundLater, rfl⟩)⟩

theorem charge_later (covering : Covering redis now lifetime markers written) (order : now ≤ later)
    (counter : CounterKey) : redis.charge later counter marker ≤ redis.charge now counter marker := by
  cases held : redis.identity? later marker with
  | none => simp [Redis.charge, held]
  | some identity =>
    have heldLater := Redis.identity?_eq_some.mp held
    refine Nat.le_of_eq (Redis.charge_congr ?_ (covering.settledAmount?_later order heldLater))
    rw [held]
    exact (Redis.identity?_eq_some.mpr (get_of_later order heldLater)).symm

theorem elapse (covering : Covering redis now lifetime markers written) (order : now ≤ later) :
    Covering redis later lifetime markers written := by
  constructor
  case covered =>
    intro counter
    have charges : ∑ marker ∈ markers, redis.charge later counter marker ≤
        ∑ marker ∈ markers, redis.charge now counter marker :=
      Finset.sum_le_sum fun marker _ => covering.charge_later order counter
    have covered := covering.covered counter
    cases foundLater : find redis.counters later counter with
    | some entry =>
      rw [Redis.count_of_find foundLater, ← Redis.count_of_find (find_of_later order foundLater)]
      omega
    | none =>
      -- The counter is gone, and with it every marker that was charged to it.
      have nothing : ∀ marker ∈ markers, redis.charge later counter marker = 0 := by
        intro marker _
        by_contra charged
        cases held : redis.identity? later marker with
        | none => exact charged (by simp [Redis.charge, held])
        | some identity =>
          have uses : identity.tenant.uses counter = true := by
            by_contra unused
            exact charged (by simp [Redis.charge, held, unused])
          have heldLater := Redis.identity?_eq_some.mp held
          obtain ⟨instant, _, found⟩ := covering.dated marker identity (get_of_later order heldLater)
          have markerLater := find_of_get_later order heldLater found
          have ahead : later < instant + lifetime :=
            lt_of_deadline (deadline_eq_some.mpr ⟨_, markerLater, rfl⟩)
          obtain ⟨deadline, ends, outlived⟩ := covering.outlives marker identity _ found counter uses
          obtain ⟨_, counterFound, _⟩ := deadline_eq_some.mp ends
          rw [find_eq_of_deadline ends (by omega), counterFound] at foundLater
          contradiction
      rw [Finset.sum_eq_zero nothing, Redis.count_of_absent foundLater]
      exact Int.le_refl _
  case listed =>
    intro marker identity held
    exact covering.listed marker identity (get_of_later order held)
  case past =>
    intro marker instant wrote
    exact Nat.le_trans (covering.past marker instant wrote) order
  case dated =>
    intro marker identity held
    obtain ⟨instant, wrote, found⟩ := covering.dated marker identity (get_of_later order held)
    exact ⟨instant, wrote, find_of_get_later order held found⟩
  case outlives =>
    intro marker identity instant found counter uses
    obtain ⟨deadline, ends, outlived⟩ :=
      covering.outlives marker identity instant (find_of_later order found) counter uses
    have ahead : later < instant := lt_of_deadline (deadline_eq_some.mpr ⟨_, found, rfl⟩)
    exact ⟨deadline, deadline_eq_of_deadline ends (by omega), outlived⟩
  case settledWith =>
    intro marker amount settled
    have held := Redis.settledAmount?_eq_some.mp settled
    obtain ⟨identity, instant, found, ends⟩ :=
      covering.settledWith marker amount (Redis.settledAmount?_eq_some.mpr (get_of_later order held))
    have endsLater := deadline_of_get_later order held ends
    exact ⟨identity, instant, find_before_deadline found rfl (lt_of_deadline endsLater), endsLater⟩

end Clock

/-! ## The scripts -/

section Scripts

variable {identity : Identity}

/-- A marker that is there carries its deadline. -/
theorem found (covering : Covering redis now lifetime markers written)
    (held : get redis.markers now marker = some (.identity identity)) :
    ∃ instant, find redis.markers now marker = some ⟨.identity identity, some instant⟩ := by
  obtain ⟨instant, _, found⟩ := covering.dated marker identity held
  exact ⟨_, found⟩

/-- An absent marker has not been settled. -/
theorem unsettled_of_absent (covering : Covering redis now lifetime markers written)
    (absent : get redis.markers now marker = none) : redis.settledAmount? now marker = none := by
  by_contra settled
  obtain ⟨amount, settled⟩ := Option.ne_none_iff_exists'.mp settled
  obtain ⟨_, _, found, _⟩ := covering.settledWith marker amount settled
  rw [get_eq_none.mp absent] at found
  contradiction

theorem grant {ttlSeconds : Nat} (covering : Covering redis now lifetime markers written)
    (absent : get redis.markers now marker = none) (lasting : 0 < ttlSeconds)
    (lifetimeIs : lifetime = ttlSeconds * 1000) :
    Covering (redis.granted now marker identity ttlSeconds) now lifetime (insert marker markers)
      (Function.update written marker (some now)) := by
  have unsettled := covering.unsettled_of_absent absent
  have foundSelf : find (redis.granted now marker identity ttlSeconds).markers now marker =
      some ⟨.identity identity, some (now + lifetime)⟩ := by
    rw [lifetimeIs]
    exact find_put_self (by simp [Entry.live]; omega)
  have foundOther : ∀ {other}, other ≠ marker →
      find (redis.granted now marker identity ttlSeconds).markers now other =
        find redis.markers now other := fun differs => find_put_of_ne differs
  constructor
  case covered =>
    intro counter
    have covered := covering.covered counter
    have unlisted : marker ∉ markers → redis.charge now counter marker = 0 := fun _ =>
      Redis.charge_of_absent absent
    rw [← Finset.sum_insert_of_eq_zero_if_notMem unlisted] at covered
    have sums := Sums.sum_add_eq_of_off (redis.charge now counter)
      ((redis.granted now marker identity ttlSeconds).charge now counter)
      (Finset.mem_insert_self marker markers)
      fun other _ differs => Redis.charge_granted_of_ne lasting absent differs
    rw [Redis.charge_granted_self lasting absent unsettled, Redis.charge_of_absent absent] at sums
    rw [Redis.count_granted lasting]
    by_cases uses : identity.tenant.uses counter = true
    · rw [if_pos uses] at sums ⊢
      omega
    · rw [if_neg uses] at sums ⊢
      omega
  case listed =>
    intro other otherIdentity held
    by_cases same : other = marker
    · exact same ▸ Finset.mem_insert_self _ _
    · rw [Redis.get_granted_of_ne same] at held
      exact Finset.mem_insert_of_mem (covering.listed other otherIdentity held)
  case past =>
    intro other instant wrote
    by_cases same : other = marker
    · rw [same, Function.update_self, Option.some.injEq] at wrote
      omega
    · rw [Function.update_of_ne same] at wrote
      exact covering.past other instant wrote
  case dated =>
    intro other otherIdentity held
    by_cases same : other = marker
    · subst same
      rw [Redis.get_granted_self lasting, Option.some.injEq, MarkerValue.identity.injEq] at held
      exact ⟨now, Function.update_self _ _ _, held ▸ foundSelf⟩
    · rw [Redis.get_granted_of_ne same] at held
      rw [Function.update_of_ne same, foundOther same]
      exact covering.dated other otherIdentity held
  case outlives =>
    intro other otherIdentity instant found counter uses
    -- No marker written so far lasts longer than one written now.
    have latest : instant ≤ now + lifetime ∧ (other ≠ marker → ∀ entry,
        otherIdentity = entry → find redis.markers now other = some ⟨.identity entry, some instant⟩) := by
      by_cases same : other = marker
      · rw [same, foundSelf] at found
        cases found
        exact ⟨Nat.le_refl _, fun differs => absurd same differs⟩
      · rw [foundOther same] at found
        obtain ⟨earlier, wrote, foundAs⟩ :=
          covering.dated other otherIdentity (get_eq_some.mpr ⟨_, found, rfl⟩)
        have written := covering.past other earlier wrote
        rw [found] at foundAs
        cases foundAs
        exact ⟨by omega, fun _ entry sameEntry => sameEntry ▸ found⟩
    by_cases renewed : identity.tenant.uses counter = true
    · refine ⟨now + lifetime, ?_, latest.1⟩
      rw [lifetimeIs]
      exact deadline_eq_some.mpr ⟨_, Redis.find_granted_of_uses lasting renewed, rfl⟩
    · have differs : other ≠ marker := by
        intro same
        rw [same, foundSelf] at found
        cases found
        exact renewed uses
      simp only [deadline, Redis.find_granted_of_not_uses renewed]
      exact covering.outlives other otherIdentity instant (latest.2 differs _ rfl) counter uses
  case settledWith =>
    intro other amount settled
    rw [Redis.settledAmount?_granted lasting absent] at settled
    obtain ⟨otherIdentity, instant, found, ends⟩ := covering.settledWith other amount settled
    have absent := get_eq_none.mp absent
    have differs : other ≠ marker := by
      intro same
      rw [same, absent] at found
      contradiction
    have keyDiffers : other.settlementKey ≠ marker := by
      intro same
      rw [deadline, same, absent] at ends
      contradiction
    refine ⟨otherIdentity, instant, (foundOther differs).trans found, ?_⟩
    rw [deadline, foundOther keyDiffers]
    exact ends

theorem release (covering : Covering redis now lifetime markers written)
    (held : get redis.markers now marker = some (.identity identity))
    (unsettled : redis.settledAmount? now marker = none) :
    Covering (redis.released now marker identity) now lifetime markers written := by
  have foundOther : ∀ {other}, other ≠ marker →
      find (redis.released now marker identity).markers now other = find redis.markers now other :=
    fun differs => find_erase_of_ne differs
  have differsOf : ∀ {other value}, get (redis.released now marker identity).markers now other =
      some value → other ≠ marker := by
    intro other value present same
    rw [same, Redis.get_released_self] at present
    contradiction
  constructor
  case past => exact covering.past
  case covered =>
    intro counter
    have covered := covering.covered counter
    have sums := Sums.sum_add_eq_of_off (redis.charge now counter)
      ((redis.released now marker identity).charge now counter) (covering.listed marker identity held)
      fun other _ differs => Redis.charge_released_of_ne held differs
    rw [Redis.charge_released_self, Redis.charge_of_unsettled held unsettled] at sums
    rw [Redis.count_released]
    by_cases uses : identity.tenant.uses counter = true
    · rw [if_pos uses] at sums ⊢
      omega
    · rw [if_neg uses] at sums ⊢
      omega
  case listed =>
    intro other otherIdentity otherHeld
    have differs := differsOf otherHeld
    rw [Redis.get_released_of_ne differs] at otherHeld
    exact covering.listed other otherIdentity otherHeld
  case dated =>
    intro other otherIdentity otherHeld
    have differs := differsOf otherHeld
    rw [Redis.get_released_of_ne differs] at otherHeld
    rw [foundOther differs]
    exact covering.dated other otherIdentity otherHeld
  case outlives =>
    intro other otherIdentity instant found counter uses
    have differs := differsOf (get_eq_some.mpr ⟨_, found, rfl⟩)
    rw [foundOther differs] at found
    rw [Redis.released, deadline_keepDeadline, deadline_keepDeadline]
    exact covering.outlives other otherIdentity instant found counter uses
  case settledWith =>
    intro other amount settled
    have present := differsOf (Redis.settledAmount?_eq_some.mp settled)
    rw [Redis.settledAmount?_released held] at settled
    have differs : other ≠ marker := by
      intro same
      rw [same, unsettled] at settled
      contradiction
    rw [foundOther differs, deadline, foundOther present]
    exact covering.settledWith other amount settled

theorem settle {reservation : TenantReservation} {actualAmount : Nat}
    (covering : Covering redis now lifetime markers written)
    (settleable : Settleable redis now reservation) :
    Covering (redis.reconciled now reservation.markerKey reservation.identity actualAmount) now lifetime
      markers written := by
  obtain ⟨held, unsettled, lasting⟩ := settleable
  have foundOther : ∀ {other}, other ≠ reservation.markerKey.settlementKey →
      find (redis.reconciled now reservation.markerKey reservation.identity actualAmount).markers now
        other = find redis.markers now other := fun differs => find_put_of_ne differs
  have differsOf : ∀ {other identity}, get redis.markers now other = some (.identity identity) →
      other ≠ reservation.markerKey.settlementKey := by
    intro other otherIdentity present same
    rw [same, unsettled] at present
    contradiction
  have heldBefore : ∀ {other identity}, get (redis.reconciled now reservation.markerKey
      reservation.identity actualAmount).markers now other = some (.identity identity) →
        get redis.markers now other = some (.identity identity) := by
    intro other otherIdentity present
    rwa [← Redis.identity?_eq_some, Redis.identity?_reconciled lasting unsettled,
      Redis.identity?_eq_some] at present
  constructor
  case past => exact covering.past
  case covered =>
    intro counter
    have covered := covering.covered counter
    have sums := Sums.sum_add_eq_of_off (redis.charge now counter)
      ((redis.reconciled now reservation.markerKey reservation.identity actualAmount).charge now counter)
      (covering.listed _ _ held) fun other _ differs => Redis.charge_reconciled_of_ne differs unsettled lasting
    rw [Redis.charge_reconciled_self held unsettled lasting,
      Redis.charge_of_unsettled held (Redis.settledAmount?_eq_none_of_absent unsettled)] at sums
    rw [Redis.count_reconciled]
    by_cases uses : reservation.identity.tenant.uses counter = true
    · simp only [if_pos uses] at sums ⊢
      omega
    · simp only [if_neg uses] at sums ⊢
      omega
  case listed =>
    intro other otherIdentity present
    exact covering.listed other otherIdentity (heldBefore present)
  case dated =>
    intro other otherIdentity present
    rw [foundOther (differsOf (heldBefore present))]
    exact covering.dated other otherIdentity (heldBefore present)
  case outlives =>
    intro other otherIdentity instant found counter uses
    have present := heldBefore (get_eq_some.mpr ⟨_, found, rfl⟩)
    rw [foundOther (differsOf present)] at found
    rw [Redis.reconciled, deadline_incrBy, deadline_incrBy]
    exact covering.outlives other otherIdentity instant found counter uses
  case settledWith =>
    intro other amount settled
    by_cases same : other = reservation.markerKey
    · -- The settlement takes over the deadline its marker has.
      obtain ⟨instant, foundMarker⟩ := covering.found held
      obtain ⟨ends, markerEnds, expires⟩ := remaining_pos lasting
      have sameEnd : some ends = some instant := by
        rw [← markerEnds, deadline, foundMarker]
        rfl
      cases sameEnd
      subst same
      refine ⟨reservation.identity, instant, ?_, ?_⟩
      · rw [foundOther reservation.markerKey.settlementKey_ne.symm, foundMarker]
      · refine deadline_eq_some.mpr ⟨⟨.settled actualAmount, some instant⟩, ?_, rfl⟩
        rw [Redis.reconciled, expires]
        exact find_put_self (by simp [Entry.live]; omega)
    · rw [Redis.settledAmount?_reconciled_of_ne same] at settled
      obtain ⟨otherIdentity, instant, found, ends⟩ := covering.settledWith other amount settled
      have keyDiffers : other.settlementKey ≠ reservation.markerKey.settlementKey := fun sameKey =>
        same (MarkerKey.settlementKey_injective sameKey)
      have present := differsOf (get_eq_some.mpr ⟨_, found, rfl⟩)
      rw [foundOther present, deadline, foundOther keyDiffers]
      exact ⟨otherIdentity, instant, found, ends⟩

end Scripts

end Covering

section Kept

variable {redis : Redis} {now lifetime : Nat} {written : MarkerKey → Option Nat}
  {marker other : MarkerKey}

theorem MarkerKept.grant {identity : Identity} {ttlSeconds : Nat} (lasting : 0 < ttlSeconds)
    (lifetimeIs : lifetime = ttlSeconds * 1000)
    (kept : other ≠ marker → MarkerKept redis now lifetime written other) :
    MarkerKept (redis.granted now marker identity ttlSeconds) now lifetime
      (Function.update written marker (some now)) other := by
  intro instant wrote recent
  by_cases same : other = marker
  · subst same
    rw [Function.update_self, Option.some.injEq] at wrote
    subst wrote lifetimeIs
    exact ⟨identity, find_put_self (by simp [Entry.live]; omega)⟩
  · rw [Function.update_of_ne same] at wrote
    obtain ⟨otherIdentity, found⟩ := kept same instant wrote recent
    exact ⟨otherIdentity, (find_put_of_ne same).trans found⟩

theorem MarkerKept.release {identity : Identity} (kept : MarkerKept redis now lifetime written other)
    (differs : other ≠ marker) :
    MarkerKept (redis.released now marker identity) now lifetime written other := by
  intro instant wrote recent
  obtain ⟨otherIdentity, found⟩ := kept instant wrote recent
  exact ⟨otherIdentity, (find_erase_of_ne differs).trans found⟩

theorem MarkerKept.settle {reservation : TenantReservation} {actualAmount : Nat}
    (kept : MarkerKept redis now lifetime written other) (settleable : Settleable redis now reservation) :
    MarkerKept (redis.reconciled now reservation.markerKey reservation.identity actualAmount) now lifetime
      written other := by
  intro instant wrote recent
  obtain ⟨identity, found⟩ := kept instant wrote recent
  have differs : other ≠ reservation.markerKey.settlementKey := by
    intro same
    rw [same, get_eq_none.mp settleable.unsettled] at found
    contradiction
  exact ⟨identity, (find_put_of_ne differs).trans found⟩

end Kept

theorem MarkerKept.elapse {redis : Redis} {now later lifetime : Nat} {written : MarkerKey → Option Nat}
    {marker : MarkerKey} (kept : MarkerKept redis now lifetime written marker) (order : now ≤ later) :
    MarkerKept redis later lifetime written marker := by
  intro instant wrote recent
  obtain ⟨identity, found⟩ := kept instant wrote (by omega)
  exact ⟨identity, find_before_deadline found rfl recent⟩

end Eiraos
