import Eiraos.Persistence.RecordStates

/-! # Stored responses and their replay

Requests that obtained a lease complete it at most once, with `complete_idempotency` or
with `finalize`; a request that is told `completed` reads the response in a transaction of
its own.  The leases are ghost state: when each was granted, whether it took over a record
that had not failed, and the response it stored as a success.  Every record is held by the
lease whose token it carries.
-/

namespace Eiraos

open IdempotencyTable

structure IssuedLease where
  token : String
  request : IdempotencyRequest
  grantedAt : Instant
  reclaimed : Bool
  closed : Bool
  stored : Option String
  deriving DecidableEq, Repr

/-- The lease after its completion was accepted. -/
def IssuedLease.completed (lease : IssuedLease) (responseStatus : Nat) (reference : String) : IssuedLease :=
  { lease with
    closed := true
    stored := if isSuccess responseStatus then some reference else none }

/-- `readers` have been told `completed` and have not read the response yet. -/
structure ReplayState where
  database : Database
  clock : Instant
  leases : List IssuedLease
  readers : List IdempotencyRequest
  deriving DecidableEq, Repr

inductive ReplayLabel where
  | tick (elapsed : Nat)
  | begin (request : IdempotencyRequest) (attempts : Nat) (token : String)
  | read (request : IdempotencyRequest)
  | renew (request : IdempotencyRequest) (token : String)
  | complete (token : String) (responseStatus : Nat) (reference : String)
  | cleanup
  | finalize (token : String) (storage : Storage) (request : FinalizeRequest)
  | assertRecoveryAllowed (token : String) (storage : Storage) (executionId : String) (recordId : Nat)
  | elsewhere (database : Database)
  deriving DecidableEq, Repr

namespace ReplayState

def initial (clock : Instant) : ReplayState := ⟨Database.empty, clock, [], []⟩

def table (state : ReplayState) : IdempotencyTable := state.database.idempotency

def lease? (state : ReplayState) (token : String) : Option IssuedLease :=
  state.leases.find? fun lease => lease.token = token

/-- A lease for this request takes over a record whose holder has neither failed nor
stored a response. -/
def reclaims (state : ReplayState) (request : IdempotencyRequest) : Bool :=
  (state.table.select? request).any fun record => record.status ≠ .failed

def issued (state : ReplayState) (request : IdempotencyRequest) : BeginResult → List IssuedLease
  | .returned ⟨.processing, some token, _, _⟩ =>
    [⟨token, request, state.clock, state.reclaims request, false, none⟩]
  | _ => []

def waiting (request : IdempotencyRequest) : BeginResult → List IdempotencyRequest
  | .returned ⟨.completed, _, _, _⟩ => [request]
  | _ => []

def close (state : ReplayState) (lease : IssuedLease) (responseStatus : Nat) (reference : String) :
    List IssuedLease :=
  Rows.replace IssuedLease.token (lease.completed responseStatus reference) state.leases

/-- One transaction.  Tokens are fresh, a lease is completed once, and a success stores a
response that is not empty. -/
def step (state : ReplayState) : ReplayLabel → Option ReplayState
  | .tick elapsed => some { state with clock := state.clock + elapsed }
  | .begin request attempts token =>
    if state.leases.any fun lease => lease.token = token then none
    else
      let ending := beginIdempotency state.table request attempts state.clock token
      some { state with
        database := state.database.withIdempotency ending.1
        leases := state.leases ++ state.issued request ending.2
        readers := state.readers ++ waiting request ending.2 }
  | .read request =>
    if request ∈ state.readers then some { state with readers := state.readers.erase request } else none
  | .renew request token =>
    some { state with
      database := state.database.withIdempotency
        (renewIdempotencyLease state.table request state.clock token).1 }
  | .complete token responseStatus reference =>
    (state.lease? token).bind fun lease =>
      if lease.closed ∨ (isSuccess responseStatus ∧ reference = "") then none
      else
        let ending := completeIdempotency state.table lease.request state.clock responseStatus reference
          (some token)
        some { state with
          database := state.database.withIdempotency ending.1
          leases := if ending.2 then state.close lease responseStatus reference else state.leases }
  | .cleanup =>
    some { state with
      database := state.database.withIdempotency (cleanupExpiredRecords state.table state.clock).1 }
  | .finalize token storage request =>
    (state.lease? token).bind fun lease =>
      if isSuccess request.effectiveStatus ∧ request.responseReference = "" then none
      else
        -- An execution without a record leaves the ledger as it is.
        let ending := Eiraos.finalize storage state.database { request with leaseToken := some token }
          state.clock
        some { state with
          database := ending.1
          leases :=
            if ending.1.idempotency ≠ state.table then
              state.close lease request.effectiveStatus request.responseReference
            else state.leases }
  | .assertRecoveryAllowed token storage executionId recordId =>
    some { state with
      database := (Eiraos.assertRecoveryAllowed storage state.database executionId recordId (some token)
        state.clock).1 }
  | .elsewhere database => some { state with database := { database with idempotency := state.table } }

end ReplayState

open ReplayState

/-! ## The invariant -/

/-- The record is held under this lease. -/
structure IssuedLease.Holds (lease : IssuedLease) (record : IdempotencyRecord) : Prop where
  token : record.leaseToken = some lease.token
  identity : record.identity = lease.request.identity
  digest : record.requestHash = lease.request.digest
  expiry : lease.reclaimed = false →
    record.expiresAt = some (lease.grantedAt + seconds DEFAULT_TTL_SECONDS)
  inherited : lease.reclaimed = true → ∃ expiry, record.expiresAt = some expiry ∧
    expiry + seconds LEASE_SECONDS < lease.grantedAt + seconds DEFAULT_TTL_SECONDS
  closed : lease.closed = true → record.status ≠ .processing
  stored : record.status = .completed → lease.stored = record.responseReference

/-- A lease that was just issued holds its record. -/
theorem IssuedLease.Holds.unfinished {lease : IssuedLease} {record : IdempotencyRecord}
    (token : record.leaseToken = some lease.token) (identity : record.identity = lease.request.identity)
    (digest : record.requestHash = lease.request.digest)
    (expiry : lease.reclaimed = false →
      record.expiresAt = some (lease.grantedAt + seconds DEFAULT_TTL_SECONDS))
    (inherited : lease.reclaimed = true → ∃ expiry, record.expiresAt = some expiry ∧
      expiry + seconds LEASE_SECONDS < lease.grantedAt + seconds DEFAULT_TTL_SECONDS)
    (unclosed : lease.closed = false) (unfinished : record.status = .processing) :
    lease.Holds record where
  token := token
  identity := identity
  digest := digest
  expiry := expiry
  inherited := inherited
  closed := fun closed => by simp [unclosed] at closed
  stored := fun completed => by simp [unfinished] at completed

/-- An expiry is set when a lease begins, so no lease of the record ends before it does by
more than the time to live exceeds a lease. -/
structure IdempotencyRecord.Timed (record : IdempotencyRecord) (clock : Instant) (expiry : Instant) :
    Prop where
  expires : record.expiresAt = some expiry
  set : expiry ≤ clock + seconds DEFAULT_TTL_SECONDS
  leased : ∀ lease, record.leaseUntil = some lease →
    expiry + seconds LEASE_SECONDS ≤ lease + seconds DEFAULT_TTL_SECONDS

/-- Every record is held, and a lease that stored a response keeps it for its whole time,
unless it took the record over. -/
structure ReplayInvariant (table : IdempotencyTable) (clock : Instant) (leases : List IssuedLease) :
    Prop where
  sound : table.Sound
  timed : ∀ record ∈ table.rows, ∃ expiry, record.Timed clock expiry
  tokens : Rows.Unique IssuedLease.token leases
  held : ∀ record ∈ table.rows, ∃ lease ∈ leases, lease.Holds record
  closed : ∀ lease ∈ leases, lease.closed = false → lease.stored = none
  kept : ∀ lease ∈ leases, lease.stored ≠ none → lease.reclaimed = false →
    clock < lease.grantedAt + seconds DEFAULT_TTL_SECONDS →
    ∃ record ∈ table.rows, lease.Holds record ∧ record.status = .completed

namespace IdempotencyRecord

theorem Timed.restart (record : IdempotencyRecord) (clock : Instant) (token : String) :
    (record.restart clock token).Timed clock (clock + seconds DEFAULT_TTL_SECONDS) where
  expires := rfl
  set := Nat.le_refl _
  leased := fun lease leased => by
    cases leased
    exact Nat.le_of_eq (Nat.add_right_comm _ _ _)

variable {record : IdempotencyRecord} {clock expiry : Instant}

/-- A new lease on the same expiry. -/
theorem Timed.renew (timed : record.Timed clock expiry) :
    { record with leaseUntil := some (clock + seconds LEASE_SECONDS) }.Timed clock expiry where
  expires := timed.expires
  set := timed.set
  leased := fun lease leased => by
    cases leased
    calc expiry + seconds LEASE_SECONDS
        ≤ clock + seconds DEFAULT_TTL_SECONDS + seconds LEASE_SECONDS := Nat.add_le_add_right timed.set _
      _ = clock + seconds LEASE_SECONDS + seconds DEFAULT_TTL_SECONDS := Nat.add_right_comm _ _ _

theorem Timed.lease (timed : record.Timed clock expiry) (token : String) :
    (record.lease clock token).Timed clock expiry :=
  ⟨timed.expires, timed.set, timed.renew.leased⟩

/-- A lease that has lapsed leaves less than the time to live. -/
theorem Timed.lapsed (timed : record.Timed clock expiry) (lapsed : record.leaseLapsed clock = true) :
    expiry + seconds LEASE_SECONDS < clock + seconds DEFAULT_TTL_SECONDS := by
  unfold leaseLapsed at lapsed
  split at lapsed
  · contradiction
  next lease leased =>
    have ended : lease < clock := of_decide_eq_true lapsed
    exact Nat.lt_of_le_of_lt (timed.leased lease leased) (Nat.add_lt_add_right ended _)

end IdempotencyRecord

theorem replayInvariant_empty (clock : Instant) : ReplayInvariant ⟨[], 0⟩ clock [] where
  sound := ⟨wellFormed_empty, nofun⟩
  timed := nofun
  tokens := List.nodup_nil
  held := nofun
  closed := nofun
  kept := nofun

theorem IdempotencyRecord.complete_completed {record : IdempotencyRecord} {responseStatus : Nat}
    {reference : String} :
    (record.complete responseStatus reference).status = .completed ↔ isSuccess responseStatus = true := by
  by_cases success : 200 ≤ responseStatus ∧ responseStatus < 300
  · simp [IdempotencyRecord.complete, isSuccess, success]
  · simp [IdempotencyRecord.complete, isSuccess, success]

theorem IssuedLease.Holds.completed {lease : IssuedLease} {record : IdempotencyRecord}
    (holds : lease.Holds record) {responseStatus : Nat} {reference : String} :
    (lease.completed responseStatus reference).Holds (record.complete responseStatus reference) where
  token := holds.token
  identity := holds.identity
  digest := holds.digest
  expiry := holds.expiry
  inherited := holds.inherited
  closed := fun _ processing => by
    by_cases success : 200 ≤ responseStatus ∧ responseStatus < 300
    · simp [IdempotencyRecord.complete, success] at processing
    · simp [IdempotencyRecord.complete, success] at processing
  stored := fun completed => by
    have success := IdempotencyRecord.complete_completed.mp completed
    simp [IssuedLease.completed, IdempotencyRecord.complete, success]

/-- A record kept by its lease has not expired. -/
theorem IssuedLease.Holds.unexpired {lease : IssuedLease} {record : IdempotencyRecord} {now : Instant}
    (holds : lease.Holds record) (fresh : lease.reclaimed = false)
    (within : now < lease.grantedAt + seconds DEFAULT_TTL_SECONDS) : record.expiredAt now = false := by
  simp only [IdempotencyRecord.expiredAt, holds.expiry fresh, decide_eq_false_iff_not]
  exact Nat.not_lt.mpr (Nat.le_of_lt within)

section Preserved

variable {table : IdempotencyTable} {clock : Instant} {leases : List IssuedLease}

theorem ReplayInvariant.elapse (invariant : ReplayInvariant table clock leases) (elapsed : Nat) :
    ReplayInvariant table (clock + elapsed) leases where
  sound := invariant.sound
  timed := fun record member =>
    (invariant.timed record member).imp fun _ timed =>
      ⟨timed.expires, Nat.le_trans timed.set (Nat.add_le_add_right (Nat.le_add_right _ _) _), timed.leased⟩
  tokens := invariant.tokens
  held := invariant.held
  closed := invariant.closed
  kept := fun lease member stored fresh within =>
    invariant.kept lease member stored fresh (Nat.lt_of_le_of_lt (Nat.le_add_right _ _) within)

/-- A token names one lease, so it holds one record. -/
theorem ReplayInvariant.holder_unique (invariant : ReplayInvariant table clock leases)
    {first second : IssuedLease} {record : IdempotencyRecord} (firstMem : first ∈ leases)
    (secondMem : second ∈ leases) (firstHolds : first.Holds record)
    (token : record.leaseToken = some second.token) : first = second := by
  apply invariant.tokens.eq firstMem secondMem
  have same := firstHolds.token.symm.trans token
  exact Option.some.inj same

/-- Deleting expired records. -/
theorem ReplayInvariant.filter (invariant : ReplayInvariant table clock leases)
    (condition : IdempotencyRecord → Bool)
    (keeps : ∀ record ∈ table.rows, record.expiredAt clock = false → condition record = true) :
    ReplayInvariant { table with rows := table.rows.filter condition } clock leases where
  sound := invariant.sound.filter condition
  timed := fun record member => invariant.timed record (List.mem_of_mem_filter member)
  tokens := invariant.tokens
  held := fun record member => invariant.held record (List.mem_of_mem_filter member)
  closed := invariant.closed
  kept := by
    intro lease member stored fresh within
    obtain ⟨record, recordMem, holds, completed⟩ := invariant.kept lease member stored fresh within
    have stays := keeps record recordMem (holds.unexpired fresh within)
    exact ⟨record, List.mem_filter.mpr ⟨recordMem, stays⟩, holds, completed⟩

/-- A new record under a new lease. -/
theorem ReplayInvariant.insert (invariant : ReplayInvariant table clock leases)
    {request : IdempotencyRequest} {token : String}
    (absent : ∀ record ∈ table.rows, record.identity ≠ request.identity)
    (unused : ∀ lease ∈ leases, lease.token ≠ token) :
    ReplayInvariant ⟨table.rows ++ [request.freshRecord table.nextId clock token], table.nextId + 1⟩ clock
      (leases ++ [⟨token, request, clock, false, false, none⟩]) where
  sound := by
    refine ⟨invariant.sound.wellFormed.insert absent rfl, fun record member => ?_⟩
    rcases List.mem_append.mp member with member | member
    · exact invariant.sound.records record member
    · rw [List.mem_singleton.mp member]
      exact ⟨fun _ => by simp [IdempotencyRequest.freshRecord], fun completed => by cases completed⟩
  timed := by
    intro record member
    rcases List.mem_append.mp member with member | member
    · exact invariant.timed record member
    · rw [List.mem_singleton.mp member]
      exact ⟨_, rfl, Nat.le_refl _, fun lease leased => by
        cases leased
        exact Nat.le_of_eq (Nat.add_right_comm _ _ _)⟩
  tokens := invariant.tokens.append unused
  held := by
    intro record member
    rcases List.mem_append.mp member with member | member
    · obtain ⟨lease, leaseMem, holds⟩ := invariant.held record member
      exact ⟨lease, List.mem_append_left _ leaseMem, holds⟩
    · rw [List.mem_singleton.mp member]
      refine ⟨_, List.mem_append_right _ (List.mem_singleton.mpr rfl), ?_⟩
      exact .unfinished rfl rfl rfl (fun _ => rfl) (fun reclaimed => by cases reclaimed) rfl rfl
  closed := by
    intro lease member unclosed
    rcases List.mem_append.mp member with member | member
    · exact invariant.closed lease member unclosed
    · rw [List.mem_singleton.mp member]
  kept := by
    intro lease member stored fresh within
    rcases List.mem_append.mp member with member | member
    · obtain ⟨record, recordMem, holds⟩ := invariant.kept lease member stored fresh within
      exact ⟨record, List.mem_append_left _ recordMem, holds⟩
    · rw [List.mem_singleton.mp member] at stored
      exact absurd rfl stored

/-- A record that stores no response is handed to a new lease. -/
theorem ReplayInvariant.reissue (invariant : ReplayInvariant table clock leases)
    {existing record : IdempotencyRecord} {lease : IssuedLease} (present : existing ∈ table.rows)
    (unfinished : existing.status ≠ .completed) (sameId : record.id = existing.id)
    (sameIdentity : record.identity = existing.identity) (sound : record.Sound)
    (timed : ∃ expiry, record.Timed clock expiry) (holds : lease.Holds record)
    (unused : ∀ other ∈ leases, other.token ≠ lease.token) (unstored : lease.stored = none) :
    ReplayInvariant (table.update record) clock (leases ++ [lease]) where
  sound := invariant.sound.update present sameId sameIdentity sound
  timed := Rows.forall_replace timed invariant.timed
  tokens := invariant.tokens.append unused
  held := by
    intro member memberMem
    rcases Rows.mem_replace.mp memberMem with ⟨rfl, _⟩ | ⟨memberMem, _⟩
    · exact ⟨lease, List.mem_append_right _ (List.mem_singleton.mpr rfl), holds⟩
    · obtain ⟨holder, holderMem, holderHolds⟩ := invariant.held member memberMem
      exact ⟨holder, List.mem_append_left _ holderMem, holderHolds⟩
  closed := by
    intro other member unclosed
    rcases List.mem_append.mp member with member | member
    · exact invariant.closed other member unclosed
    · rw [List.mem_singleton.mp member]
      exact unstored
  kept := by
    intro other member stored fresh within
    rcases List.mem_append.mp member with member | member
    · obtain ⟨keptRecord, keptMem, keptHolds, completed⟩ := invariant.kept other member stored fresh within
      refine ⟨keptRecord, Rows.mem_replace_of_ne keptMem fun same => ?_, keptHolds, completed⟩
      -- The kept record is completed, the one that changes hands is not.
      rw [invariant.sound.wellFormed.ids.eq keptMem present (same.trans sameId)] at completed
      exact unfinished completed
    · rw [List.mem_singleton.mp member] at stored
      exact absurd unstored stored

/-- A processing record is amended under its lease, and stores no response. -/
theorem ReplayInvariant.amend (invariant : ReplayInvariant table clock leases)
    {existing record : IdempotencyRecord} (present : existing ∈ table.rows)
    (processing : existing.status = .processing) (sameId : record.id = existing.id)
    (sameIdentity : record.identity = existing.identity) (sound : record.Sound)
    (timed : ∃ expiry, record.Timed clock expiry) (uncompleted : record.status ≠ .completed)
    (same : record.leaseToken = existing.leaseToken ∧ record.requestHash = existing.requestHash ∧
      record.expiresAt = existing.expiresAt) : ReplayInvariant (table.update record) clock leases where
  sound := invariant.sound.update present sameId sameIdentity sound
  timed := Rows.forall_replace timed invariant.timed
  tokens := invariant.tokens
  held := by
    intro member memberMem
    rcases Rows.mem_replace.mp memberMem with ⟨rfl, _⟩ | ⟨memberMem, _⟩
    · obtain ⟨holder, holderMem, holds⟩ := invariant.held existing present
      refine ⟨holder, holderMem, same.1.trans holds.token, sameIdentity.trans holds.identity,
        same.2.1.trans holds.digest, fun fresh => same.2.2.trans (holds.expiry fresh), ?_, fun closed => ?_,
        fun completed => absurd completed uncompleted⟩
      · rw [same.2.2]
        exact holds.inherited
      · exact absurd processing (holds.closed closed)
    · exact invariant.held member memberMem
  closed := invariant.closed
  kept := by
    intro lease member stored fresh within
    obtain ⟨keptRecord, keptMem, keptHolds, completed⟩ := invariant.kept lease member stored fresh within
    refine ⟨keptRecord, Rows.mem_replace_of_ne keptMem fun equal => ?_, keptHolds, completed⟩
    rw [invariant.sound.wellFormed.ids.eq keptMem present (equal.trans sameId), processing] at completed
    cases completed

/-- The holder's completion: a success is stored on the record and remembered. -/
theorem ReplayInvariant.close (invariant : ReplayInvariant table clock leases)
    {existing : IdempotencyRecord} {lease : IssuedLease} (present : existing ∈ table.rows)
    (member : lease ∈ leases) (holds : lease.Holds existing) (unclosed : lease.closed = false)
    {responseStatus : Nat} {reference : String}
    (referenced : isSuccess responseStatus = true → reference ≠ "") :
    ReplayInvariant (table.update (existing.complete responseStatus reference)) clock
      (Rows.replace IssuedLease.token (lease.completed responseStatus reference) leases) where
  sound := invariant.sound.update present rfl rfl (.complete existing referenced)
  timed := by
    intro member memberMem
    rcases Rows.mem_replace.mp memberMem with ⟨rfl, _⟩ | ⟨memberMem, _⟩
    · obtain ⟨expiry, timed⟩ := invariant.timed existing present
      exact ⟨expiry, timed.expires, timed.set, nofun⟩
    · exact invariant.timed member memberMem
  tokens := invariant.tokens.replace fun _ _ same => same
  held := by
    intro record recordMem
    rcases Rows.mem_replace.mp recordMem with ⟨rfl, _⟩ | ⟨recordMem, differs⟩
    · exact ⟨_, Rows.mem_replace_self member rfl, holds.completed⟩
    · obtain ⟨holder, holderMem, holderHolds⟩ := invariant.held record recordMem
      refine ⟨holder, Rows.mem_replace_of_ne holderMem fun same => differs ?_, holderHolds⟩
      -- A second record of the lease would have its unique columns.
      obtain rfl : holder = lease := invariant.tokens.eq holderMem member same
      have sameRecord : record = existing := invariant.sound.wellFormed.identities.eq recordMem present
        (holderHolds.identity.trans holds.identity.symm)
      rw [sameRecord]
      rfl
  closed := by
    intro other otherMem open_
    rcases Rows.mem_replace.mp otherMem with ⟨rfl, _⟩ | ⟨otherMem, _⟩
    · cases open_
    · exact invariant.closed other otherMem open_
  kept := by
    intro other otherMem stored fresh within
    rcases Rows.mem_replace.mp otherMem with ⟨rfl, _⟩ | ⟨otherMem, differs⟩
    · refine ⟨_, Rows.mem_replace_self present rfl, holds.completed, ?_⟩
      apply IdempotencyRecord.complete_completed.mpr
      by_contra failed
      simp [IssuedLease.completed, failed] at stored
    · obtain ⟨keptRecord, keptMem, keptHolds, completed⟩ := invariant.kept other otherMem stored fresh within
      refine ⟨keptRecord, Rows.mem_replace_of_ne keptMem fun same => differs ?_, keptHolds, completed⟩
      have sameRecord : keptRecord = existing := invariant.sound.wellFormed.ids.eq keptMem present same
      rw [sameRecord] at keptHolds
      have sameLease : other = lease := invariant.holder_unique otherMem member keptHolds holds.token
      rw [sameLease]
      rfl

theorem ReplayState.issued_of_unreturned {state : ReplayState} {request : IdempotencyRequest}
    {result : BeginResult} (unreturned : ∀ outcome, result ≠ .returned outcome) :
    state.issued request result = [] := by
  unfold issued
  split
  · exact absurd rfl (unreturned _)
  · rfl

theorem ReplayInvariant.begin {state : ReplayState}
    (invariant : ReplayInvariant state.table state.clock state.leases) {request : IdempotencyRequest}
    {token : String} (attempts : Nat) (unused : ∀ lease ∈ state.leases, lease.token ≠ token) :
    ReplayInvariant (beginIdempotency state.table request attempts state.clock token).1 state.clock
      (state.leases ++
        state.issued request (beginIdempotency state.table request attempts state.clock token).2) := by
  have begun := beginIdempotency_begun state.table request attempts state.clock token
  generalize beginIdempotency state.table request attempts state.clock token = ending at begun
  cases begun with
  | inserted absent =>
    have selected : state.table.select? request = none :=
      List.find?_eq_none.mpr fun record member => by simpa using absent record member
    simp only [issued, reclaims, selected, Option.any_none]
    exact invariant.insert absent unused
  | expired present same completed lapsed unreturned =>
    rw [issued_of_unreturned unreturned, List.append_nil]
    refine invariant.filter _ fun record member unexpired => decide_eq_true fun sameId => ?_
    -- Only the expired record has this id.
    rw [invariant.sound.wellFormed.ids.eq member present sameId, lapsed] at unexpired
    cases unexpired
  | refused unreturned =>
    rw [issued_of_unreturned unreturned, List.append_nil]
    exact invariant
  | replayed =>
    rw [issued, List.append_nil]
    · exact invariant
    · simp
  | @restarted existing present same digest failed =>
    have selected : state.table.select? request = some existing := by
      have found := invariant.sound.wellFormed.identities.find?_eq_some present
      simpa only [select?, same] using found
    have fresh : state.reclaims request = false := by simp [reclaims, selected, failed]
    have unfinished : existing.status ≠ .completed := by simp [failed]
    simp only [issued, fresh]
    refine invariant.reissue present unfinished rfl rfl (.restart existing _ token)
      ⟨_, .restart existing _ token⟩ ?_ unused rfl
    exact .unfinished rfl same digest (fun _ => rfl) (fun reclaimed => by cases reclaimed) rfl rfl
  | @reclaimed existing present same digest unreplayable unfailed lapsed =>
    have selected : state.table.select? request = some existing := by
      have found := invariant.sound.wellFormed.identities.find?_eq_some present
      simpa only [select?, same] using found
    have taken : state.reclaims request = true := by simp [reclaims, selected, unfailed]
    have unfinished : existing.status ≠ .completed := fun completed =>
      unreplayable ⟨completed, (invariant.sound.records existing present).referenced completed⟩
    simp only [issued, taken]
    obtain ⟨expiry, timed⟩ := invariant.timed existing present
    refine invariant.reissue present unfinished rfl rfl (.lease existing _ token)
      ⟨expiry, timed.lease token⟩ ?_ unused rfl
    exact .unfinished rfl same digest (fun reclaimed => by cases reclaimed)
      (fun _ => ⟨expiry, timed.expires, timed.lapsed lapsed⟩) rfl rfl

theorem ReplayInvariant.renew (invariant : ReplayInvariant table clock leases)
    (request : IdempotencyRequest) (token : String) :
    ReplayInvariant (renewIdempotencyLease table request clock token).1 clock leases := by
  rcases renewIdempotencyLease_cases table request clock token with
    unchanged | ⟨record, present, _, processing, _, renewed⟩
  · rw [unchanged]
    exact invariant
  · rw [renewed]
    have uncompleted : record.status ≠ .completed := by simp [processing]
    obtain ⟨expiry, timed⟩ := invariant.timed record present
    exact invariant.amend present processing rfl rfl
      ⟨fun _ => by simp, fun completed => absurd completed uncompleted⟩ ⟨expiry, timed.renew⟩ uncompleted
      ⟨rfl, rfl, rfl⟩

/-- `complete_idempotency` under the token of a lease that was not completed yet. -/
theorem ReplayInvariant.complete {state : ReplayState}
    (invariant : ReplayInvariant state.table state.clock state.leases) {lease : IssuedLease}
    (member : lease ∈ state.leases) (unclosed : lease.closed = false) {responseStatus : Nat}
    {reference : String} (referenced : isSuccess responseStatus = true → reference ≠ "") :
    let ending := completeIdempotency state.table lease.request state.clock responseStatus reference
      (some lease.token)
    ReplayInvariant ending.1 state.clock
      (if ending.2 then state.close lease responseStatus reference else state.leases) := by
  intro ending
  rcases completeIdempotency_cases state.table lease.request state.clock responseStatus reference
    lease.token with unchanged | ⟨record, present, _, owned, _, completed⟩
  · simp only [ending, unchanged]
    exact invariant
  · simp only [ending, completed, if_true]
    obtain ⟨holder, holderMem, holds⟩ := invariant.held record present
    have token : record.leaseToken = some lease.token :=
      owned.resolve_left fun unleased => by simp [holds.token] at unleased
    obtain rfl : holder = lease := invariant.holder_unique holderMem member holds token
    exact invariant.close present member holds unclosed referenced

theorem ReplayInvariant.finalize {state : ReplayState}
    (invariant : ReplayInvariant state.table state.clock state.leases) {lease : IssuedLease}
    (member : lease ∈ state.leases) (storage : Storage) (request : FinalizeRequest)
    (referenced : isSuccess request.effectiveStatus = true → request.responseReference ≠ "") :
    let ending := Eiraos.finalize storage state.database { request with leaseToken := some lease.token }
      state.clock
    ReplayInvariant ending.1.idempotency state.clock
      (if ending.1.idempotency ≠ state.table then
        state.close lease request.effectiveStatus request.responseReference
      else state.leases) := by
  intro ending
  have ended : FinalizeEnding _ _ _ ending := finalize_ending storage state.database
    { request with leaseToken := some lease.token } state.clock
  clear_value ending
  by_cases written : ending.1.idempotency ≠ state.table
  · rw [if_pos written]
    cases ended with
    | unchanged => exact absurd rfl written
    | finalized _ _ _ _ owner =>
      rcases owner with ⟨_, rfl⟩ | ⟨record, rfl, owner⟩
      · exact absurd rfl written
      · obtain ⟨holder, holderMem, holds⟩ := invariant.held record owner.recordMem
        obtain rfl : holder = lease := invariant.holder_unique holderMem member holds owner.owned
        have unclosed : holder.closed = false := by
          by_contra closed
          exact holds.closed (by simpa using closed) owner.processing
        exact invariant.close owner.recordMem member holds unclosed referenced
  · rw [if_neg written]
    rw [ne_eq, not_not] at written
    rw [written]
    exact invariant

theorem ReplayInvariant.assertRecoveryAllowed {state : ReplayState}
    (invariant : ReplayInvariant state.table state.clock state.leases) (storage : Storage)
    (executionId : String) (recordId : Nat) (leaseToken : Option String) :
    ReplayInvariant
      (Eiraos.assertRecoveryAllowed storage state.database executionId recordId leaseToken
        state.clock).1.idempotency state.clock state.leases := by
  have ended := assertRecoveryAllowed_ending storage state.database executionId recordId leaseToken
    state.clock
  generalize Eiraos.assertRecoveryAllowed storage state.database executionId recordId leaseToken
    state.clock = ending at ended
  cases ended with
  | unchanged => exact invariant
  | @exhausted _ _ record _ _ owner =>
    obtain ⟨expiry, timed⟩ := invariant.timed record owner.recordMem
    exact invariant.amend owner.recordMem owner.processing rfl rfl (.exhausted record)
      ⟨expiry, timed.expires, timed.set, nofun⟩ nofun ⟨rfl, rfl, rfl⟩

end Preserved

theorem ReplayState.lease?_some {state : ReplayState} {token : String} {lease : IssuedLease}
    (found : state.lease? token = some lease) : lease ∈ state.leases ∧ lease.token = token :=
  ⟨List.mem_of_find?_eq_some found, by simpa using List.find?_some found⟩

/-- What a step does, with what it needs. -/
inductive ReplayMove (state : ReplayState) : ReplayLabel → ReplayState → Prop where
  | tick (elapsed : Nat) : ReplayMove state (.tick elapsed) { state with clock := state.clock + elapsed }
  | begin {request : IdempotencyRequest} {attempts : Nat} {token : String} {ending : IdempotencyTable × BeginResult}
      (unused : ∀ lease ∈ state.leases, lease.token ≠ token)
      (ran : beginIdempotency state.table request attempts state.clock token = ending) :
      ReplayMove state (.begin request attempts token)
        { state with
          database := state.database.withIdempotency ending.1
          leases := state.leases ++ state.issued request ending.2
          readers := state.readers ++ waiting request ending.2 }
  | read (request : IdempotencyRequest) :
      ReplayMove state (.read request) { state with readers := state.readers.erase request }
  | renew (request : IdempotencyRequest) (token : String) :
      ReplayMove state (.renew request token)
        { state with
          database := state.database.withIdempotency
            (renewIdempotencyLease state.table request state.clock token).1 }
  | complete {lease : IssuedLease} {responseStatus : Nat} {reference : String}
      {ending : IdempotencyTable × Bool} (member : lease ∈ state.leases) (unclosed : lease.closed = false)
      (stored : isSuccess responseStatus = true → reference ≠ "")
      (ran : completeIdempotency state.table lease.request state.clock responseStatus reference
        (some lease.token) = ending) :
      ReplayMove state (.complete lease.token responseStatus reference)
        { state with
          database := state.database.withIdempotency ending.1
          leases := if ending.2 then state.close lease responseStatus reference else state.leases }
  | cleanup :
      ReplayMove state .cleanup
        { state with
          database := state.database.withIdempotency (cleanupExpiredRecords state.table state.clock).1 }
  | finalize {lease : IssuedLease} {storage : Storage} {request : FinalizeRequest}
      (member : lease ∈ state.leases)
      (stored : isSuccess request.effectiveStatus = true → request.responseReference ≠ "") :
      ReplayMove state (.finalize lease.token storage request)
        { state with
          database := (Eiraos.finalize storage state.database
            { request with leaseToken := some lease.token } state.clock).1
          leases :=
            if (Eiraos.finalize storage state.database { request with leaseToken := some lease.token }
                state.clock).1.idempotency ≠ state.table then
              state.close lease request.effectiveStatus request.responseReference
            else state.leases }
  | assertRecoveryAllowed (token : String) (storage : Storage) (executionId : String) (recordId : Nat) :
      ReplayMove state (.assertRecoveryAllowed token storage executionId recordId)
        { state with
          database := (Eiraos.assertRecoveryAllowed storage state.database executionId recordId (some token)
            state.clock).1 }
  | elsewhere (database : Database) :
      ReplayMove state (.elsewhere database) { state with database := { database with idempotency := state.table } }

theorem ReplayState.step_move {state next : ReplayState} {label : ReplayLabel}
    (stepped : state.step label = some next) : ReplayMove state label next := by
  cases label with
  | tick elapsed =>
    cases stepped
    exact .tick elapsed
  | begin request attempts token =>
    simp only [ReplayState.step] at stepped
    split at stepped
    · contradiction
    next unused =>
      cases stepped
      exact .begin (fun lease member same =>
        unused (List.any_eq_true.mpr ⟨lease, member, decide_eq_true same⟩)) rfl
  | read request =>
    simp only [ReplayState.step] at stepped
    split at stepped
    · cases stepped
      exact .read request
    · contradiction
  | renew request token =>
    cases stepped
    exact .renew request token
  | complete token responseStatus reference =>
    obtain ⟨lease, found, stepped⟩ := Option.bind_eq_some_iff.mp stepped
    obtain ⟨member, rfl⟩ := lease?_some found
    split at stepped
    · contradiction
    next enabled =>
      cases stepped
      simp only [not_or, not_and, Bool.not_eq_true] at enabled
      exact .complete member enabled.1 enabled.2 rfl
  | cleanup =>
    cases stepped
    exact .cleanup
  | finalize token storage request =>
    obtain ⟨lease, found, stepped⟩ := Option.bind_eq_some_iff.mp stepped
    obtain ⟨member, rfl⟩ := lease?_some found
    split at stepped
    · contradiction
    next enabled =>
      cases stepped
      simp only [not_and] at enabled
      exact .finalize member enabled
  | assertRecoveryAllowed token storage executionId recordId =>
    cases stepped
    exact .assertRecoveryAllowed token storage executionId recordId
  | elsewhere database =>
    cases stepped
    exact .elsewhere database

theorem ReplayInvariant.step {state next : ReplayState} {label : ReplayLabel}
    (invariant : ReplayInvariant state.table state.clock state.leases)
    (stepped : state.step label = some next) : ReplayInvariant next.table next.clock next.leases := by
  cases state.step_move stepped with
  | tick elapsed => exact invariant.elapse elapsed
  | @begin _ attempts _ _ unused ran =>
    subst ran
    exact invariant.begin attempts unused
  | read => exact invariant
  | renew request token => exact invariant.renew request token
  | complete member unclosed stored ran =>
    subst ran
    exact invariant.complete member unclosed stored
  | cleanup => exact invariant.filter _ fun record _ unexpired => by simp [unexpired]
  | @finalize _ storage request member stored => exact invariant.finalize member storage request stored
  | assertRecoveryAllowed token storage executionId recordId =>
    exact invariant.assertRecoveryAllowed storage executionId recordId (some token)
  | elsewhere => exact invariant

theorem replayInvariant_reached {labels : List ReplayLabel} {clock : Instant} {state : ReplayState}
    (ran : Transition.run ReplayState.step (initial clock) labels = some state) :
    ReplayInvariant state.table state.clock state.leases := by
  refine Transition.run_invariant
    (fun state => ReplayInvariant state.table state.clock state.leases) ?_ ?_ ran
  · exact fun _ _ _ invariant stepped => invariant.step stepped
  · exact replayInvariant_empty clock

/-! ## Replay for the whole time to live -/

/-- The response is replayed: its record is there, outlives a cleanup, and a request with
the lease's body is told `completed`. -/
def ReplayState.Replays (state : ReplayState) (lease : IssuedLease) (response : String) : Prop :=
  ∃ record ∈ state.table.rows, record.identity = lease.request.identity ∧
    record.responseReference = some response ∧
    record ∈ (cleanupExpiredRecords state.table state.clock).1.rows ∧
    ∀ attempts token, beginIdempotency state.table lease.request attempts state.clock token =
      (state.table, .returned ⟨.completed, none, some record.id, false⟩)

/-- A completed record that has not expired is replayed to its own body. -/
theorem beginIdempotency_completed {table : IdempotencyTable} (sound : table.Sound)
    {record : IdempotencyRecord} (present : record ∈ table.rows) (completed : record.status = .completed)
    {request : IdempotencyRequest} (same : record.identity = request.identity)
    (digest : record.requestHash = request.digest) {now : Instant} (unexpired : record.expiredAt now = false)
    (attempts : Nat) (token : String) :
    beginIdempotency table request attempts now token =
      (table, .returned ⟨.completed, none, some record.id, false⟩) := by
  have selected : table.select? request = some record := by
    have found := sound.wellFormed.identities.find?_eq_some present
    simpa only [select?, same] using found
  have conflict : table.insertOnConflictDoNothing (request.freshRecord table.nextId now token) = none :=
    if_pos (List.any_eq_true.mpr ⟨record, present, decide_eq_true same⟩)
  have referenced := (sound.records record present).referenced completed
  simp [beginIdempotency, conflict, selected, completed, unexpired, digest, referenced]

theorem ReplayInvariant.replays {state : ReplayState}
    (invariant : ReplayInvariant state.table state.clock state.leases) {lease : IssuedLease}
    (member : lease ∈ state.leases) {response : String} (stored : lease.stored = some response)
    (fresh : lease.reclaimed = false)
    (within : state.clock < lease.grantedAt + seconds DEFAULT_TTL_SECONDS) :
    state.Replays lease response := by
  obtain ⟨record, present, holds, completed⟩ := invariant.kept lease member (by simp [stored]) fresh within
  have unexpired := holds.unexpired fresh within
  refine ⟨record, present, holds.identity, (holds.stored completed).symm.trans stored, ?_, ?_⟩
  · exact List.mem_filter.mpr ⟨present, by simp [unexpired]⟩
  · exact beginIdempotency_completed invariant.sound present completed holds.identity holds.digest unexpired

/-- A completed record that has expired is not replayed. -/
theorem beginIdempotency_expired {table : IdempotencyTable} (wellFormed : table.WellFormed)
    {record : IdempotencyRecord} (present : record ∈ table.rows) (completed : record.status = .completed)
    {request : IdempotencyRequest} (same : record.identity = request.identity) {now : Instant}
    (expired : record.expiredAt now = true) (token : String) :
    beginIdempotency table request 0 now token = (table.delete record.id, .again) := by
  have selected : table.select? request = some record := by
    have found := wellFormed.identities.find?_eq_some present
    simpa only [select?, same] using found
  have conflict : table.insertOnConflictDoNothing (request.freshRecord table.nextId now token) = none :=
    if_pos (List.any_eq_true.mpr ⟨record, present, decide_eq_true same⟩)
  simp [beginIdempotency, conflict, selected, completed, expired]

/-- A lease that was completed is never completed again. -/
theorem ReplayInvariant.closed_step {state next : ReplayState} {label : ReplayLabel}
    (invariant : ReplayInvariant state.table state.clock state.leases)
    (stepped : state.step label = some next) {lease : IssuedLease} (member : lease ∈ state.leases)
    (closed : lease.closed = true) : lease ∈ next.leases := by
  cases state.step_move stepped with
  | begin => exact List.mem_append_left _ member
  | tick | read | renew | cleanup | assertRecoveryAllowed | elsewhere => exact member
  | complete otherMem unclosed =>
    dsimp only
    split
    · refine Rows.mem_replace_of_ne member fun same => ?_
      rw [invariant.tokens.eq member otherMem same, unclosed] at closed
      cases closed
    · exact member
  | @finalize other storage request otherMem =>
    dsimp only
    split
    next written =>
      have ended := finalize_ending storage state.database { request with leaseToken := some other.token }
        state.clock
      refine Rows.mem_replace_of_ne member fun same => ?_
      obtain rfl : lease = other := invariant.tokens.eq member otherMem same
      generalize Eiraos.finalize storage state.database { request with leaseToken := some lease.token }
        state.clock = ending at ended written
      cases ended with
      | unchanged => exact written rfl
      | finalized _ _ _ _ owner =>
        rcases owner with ⟨_, rfl⟩ | ⟨record, rfl, owner⟩
        · exact written rfl
        · -- The record is processing, so its holder has not completed it.
          obtain ⟨holder, holderMem, holds⟩ := invariant.held record owner.recordMem
          obtain rfl := invariant.holder_unique holderMem member holds owner.owned
          exact holds.closed closed owner.processing
    · exact member

theorem ReplayState.step_clock {state next : ReplayState} {label : ReplayLabel}
    (stepped : state.step label = some next) : state.clock ≤ next.clock := by
  cases state.step_move stepped with
  | tick elapsed => exact Nat.le_add_right _ _
  | _ => exact Nat.le_refl _

/-- The instant right after an expiry that comes before the limit. -/
theorem advance_past {now expiry limit lead : Nat} (within : now < limit)
    (early : expiry + lead < limit) (positive : 0 < lead) :
    now + (expiry + 1 - now) < limit ∧ expiry < now + (expiry + 1 - now) := by
  omega

/-- From its completion on, a response is replayed for the time to live of its lease exactly
when the lease did not take the record over, or that time has passed already. -/
theorem success_replayed_iff {labels : List ReplayLabel} {clock : Instant} {state : ReplayState}
    (ran : Transition.run ReplayState.step (initial clock) labels = some state)
    {record : IdempotencyRecord} (present : record ∈ state.table.rows) {lease : IssuedLease}
    (member : lease ∈ state.leases) (held : record.leaseToken = some lease.token)
    (completed : record.status = .completed) {response : String}
    (stored : record.responseReference = some response) :
    (∀ later final, Transition.run ReplayState.step state later = some final →
        final.clock < lease.grantedAt + seconds DEFAULT_TTL_SECONDS → final.Replays lease response) ↔
      (lease.reclaimed = false ∨ lease.grantedAt + seconds DEFAULT_TTL_SECONDS ≤ state.clock) := by
  have invariant := replayInvariant_reached ran
  have holds : lease.Holds record := by
    obtain ⟨holder, holderMem, holds⟩ := invariant.held record present
    rwa [invariant.holder_unique holderMem member holds held] at holds
  have remembered : lease.stored = some response := (holds.stored completed).trans stored
  constructor
  · intro replays
    by_contra neither
    simp only [not_or, Bool.not_eq_false, Nat.not_le] at neither
    obtain ⟨reclaimed, within⟩ := neither
    obtain ⟨expiry, expires, inherited⟩ := holds.inherited reclaimed
    -- One instant after the expiry the record taken over is gone.
    have tick : Transition.run ReplayState.step state [.tick (expiry + 1 - state.clock)] =
        some { state with clock := state.clock + (expiry + 1 - state.clock) } := rfl
    obtain ⟨later, past⟩ := advance_past within inherited (by decide)
    obtain ⟨other, otherMem, same, _, _, replayed⟩ := replays _ _ tick later
    have expired : record.expiredAt (state.clock + (expiry + 1 - state.clock)) = true := by
      simpa [IdempotencyRecord.expiredAt, expires] using past
    have gone := beginIdempotency_expired invariant.sound.wellFormed present completed holds.identity
      expired ""
    have different := congrArg Prod.snd (gone.symm.trans (replayed 0 ""))
    cases different
  · intro condition later final continued within
    have closed : lease.closed = true := by
      by_contra unclosed
      rw [invariant.closed lease member (by simpa using unclosed)] at remembered
      cases remembered
    -- The lease stays as it is, and the clock never goes back.
    have continues := Transition.run_invariant
      (fun reached => ReplayInvariant reached.table reached.clock reached.leases ∧
        lease ∈ reached.leases ∧ state.clock ≤ reached.clock)
      (fun _ _ _ holds stepped =>
        ⟨holds.1.step stepped, holds.1.closed_step stepped holds.2.1 closed,
          Nat.le_trans holds.2.2 (step_clock stepped)⟩)
      ⟨invariant, member, Nat.le_refl _⟩ continued
    obtain ⟨finalInvariant, finalMember, advanced⟩ := continues
    rcases condition with fresh | passed
    · exact finalInvariant.replays finalMember remembered fresh within
    · exact absurd (Nat.lt_of_le_of_lt advanced within) (Nat.not_lt.mpr passed)

/-- A response stored five seconds after its fresh lease. -/
theorem success_replayed_iff_fresh :
    ∃ state, Transition.run ReplayState.step (initial 0)
        [.begin ⟨1, 2, "key", "digest"⟩ 0 "a", .tick (seconds 5), .complete "a" 200 "response"] = some state ∧
      ∃ record ∈ state.table.rows, ∃ lease ∈ state.leases, record.leaseToken = some lease.token ∧
        ((∀ later final, Transition.run ReplayState.step state later = some final →
            final.clock < lease.grantedAt + seconds DEFAULT_TTL_SECONDS → final.Replays lease "response") ↔
          (lease.reclaimed = false ∨ lease.grantedAt + seconds DEFAULT_TTL_SECONDS ≤ state.clock)) := by
  refine ⟨_, rfl, _, List.mem_singleton.mpr rfl, _, List.mem_singleton.mpr rfl, rfl, ?_⟩
  exact @success_replayed_iff
    [.begin ⟨1, 2, "key", "digest"⟩ 0 "a", .tick (seconds 5), .complete "a" 200 "response"] 0 _ rfl _
    (List.mem_singleton.mpr rfl) _ (List.mem_singleton.mpr rfl) rfl rfl _ rfl

/-- A lease that takes over a stale record just before it expires stores a response that is
gone two seconds later. -/
theorem reclaimed_success_forgotten :
    ¬∀ (labels : List ReplayLabel) (clock : Instant) (state : ReplayState),
      Transition.run ReplayState.step (initial clock) labels = some state →
      ∀ lease ∈ state.leases, ∀ response, lease.stored = some response →
        state.clock < lease.grantedAt + seconds DEFAULT_TTL_SECONDS → state.Replays lease response := by
  intro replayed
  have replays := replayed
    [.begin ⟨1, 2, "key", "digest"⟩ 0 "a", .tick (seconds 86399), .begin ⟨1, 2, "key", "digest"⟩ 0 "b",
      .complete "b" 200 "response", .tick (seconds 2)]
    0 _ rfl ⟨"b", ⟨1, 2, "key", "digest"⟩, seconds 86399, true, true, some "response"⟩ (by decide +kernel)
    "response" rfl (by decide +kernel)
  obtain ⟨record, _, _, _, stays, _⟩ := replays
  exact List.ne_nil_of_mem stays (by decide +kernel)

/-! ## Reading the response in a second transaction -/

namespace ReplayState

/-- What this token would store is the response to the body of every request that waits. -/
def SparesReaders (state : ReplayState) (token : String) : Prop :=
  ∀ record ∈ state.table.rows, record.leaseToken = some token → record.leaseLapsed state.clock = false →
    ∀ reader ∈ state.readers, record.identity = reader.identity → record.requestHash = reader.digest

instance (state : ReplayState) (token : String) : Decidable (state.SparesReaders token) :=
  inferInstanceAs (Decidable (∀ record ∈ state.table.rows, _))

/-- No success of another body is stored while a request waits to read. -/
def Spares (state : ReplayState) : ReplayLabel → Prop
  | .complete token responseStatus _ => isSuccess responseStatus = true → state.SparesReaders token
  | .finalize token _ request => isSuccess request.effectiveStatus = true → state.SparesReaders token
  | _ => True

instance (state : ReplayState) (label : ReplayLabel) : Decidable (state.Spares label) := by
  unfold Spares
  split <;> infer_instance

end ReplayState

/-- What a waiting request would read is the response to its own body. -/
def ReadersServed (table : IdempotencyTable) (readers : List IdempotencyRequest) : Prop :=
  ∀ reader ∈ readers, ∀ record ∈ table.rows, record.identity = reader.identity →
    record.status = .completed → record.requestHash = reader.digest

section Readers

variable {table : IdempotencyTable} {readers : List IdempotencyRequest} {record : IdempotencyRecord}

theorem ReadersServed.filter (served : ReadersServed table readers) (condition : IdempotencyRecord → Bool) :
    ReadersServed { table with rows := table.rows.filter condition } readers :=
  fun reader member record recordMem => served reader member record (List.mem_of_mem_filter recordMem)

/-- A record that is not completed is not read. -/
theorem ReadersServed.update (served : ReadersServed table readers)
    (own : record.status = .completed → ∀ reader ∈ readers, record.identity = reader.identity →
      record.requestHash = reader.digest) : ReadersServed (table.update record) readers := by
  intro reader member other otherMem same completed
  rcases Rows.mem_replace.mp otherMem with ⟨rfl, _⟩ | ⟨otherMem, _⟩
  · exact own completed reader member same
  · exact served reader member other otherMem same completed

theorem ReadersServed.begin (wellFormed : table.WellFormed) (served : ReadersServed table readers)
    (request : IdempotencyRequest) (attempts : Nat) (now : Instant) (token : String) :
    ReadersServed (beginIdempotency table request attempts now token).1
      (readers ++ waiting request (beginIdempotency table request attempts now token).2) := by
  have begun := beginIdempotency_begun table request attempts now token
  generalize beginIdempotency table request attempts now token = ending at begun
  have nobody : ∀ {result : BeginResult}, (∀ outcome, result ≠ .returned outcome) →
      readers ++ waiting request result = readers := by
    intro result unreturned
    unfold waiting
    split
    · exact absurd rfl (unreturned _)
    · exact List.append_nil _
  cases begun with
  | inserted absent =>
    simp only [waiting, List.append_nil]
    intro reader member record recordMem same completed
    rcases List.mem_append.mp recordMem with recordMem | recordMem
    · exact served reader member record recordMem same completed
    · rw [List.mem_singleton.mp recordMem] at completed
      cases completed
  | expired _ _ _ _ unreturned =>
    rw [nobody unreturned]
    exact served.filter _
  | refused unreturned =>
    rw [nobody unreturned]
    exact served
  | @replayed existing present same digest =>
    intro reader member record recordMem sameIdentity completed
    rcases List.mem_append.mp member with member | member
    · exact served reader member record recordMem sameIdentity completed
    · rw [List.mem_singleton.mp member] at sameIdentity ⊢
      rw [wellFormed.identities.eq recordMem present (sameIdentity.trans same.symm)]
      exact digest
  | restarted =>
    simp only [waiting, List.append_nil]
    exact served.update nofun
  | reclaimed =>
    simp only [waiting, List.append_nil]
    exact served.update nofun

theorem ReadersServed.renew (served : ReadersServed table readers) (request : IdempotencyRequest)
    (now : Instant) (token : String) :
    ReadersServed (renewIdempotencyLease table request now token).1 readers := by
  rcases renewIdempotencyLease_cases table request now token with
    unchanged | ⟨record, _, _, processing, _, renewed⟩
  · rw [unchanged]
    exact served
  · rw [renewed]
    refine served.update fun completed => ?_
    rw [processing] at completed
    cases completed

theorem ReadersServed.complete {state : ReplayState} (served : ReadersServed state.table state.readers)
    (lease : IssuedLease) {responseStatus : Nat} (reference : String)
    (spares : isSuccess responseStatus = true → state.SparesReaders lease.token)
    (leased : ∀ record ∈ state.table.rows, record.leaseToken ≠ none) :
    ReadersServed (completeIdempotency state.table lease.request state.clock responseStatus reference
      (some lease.token)).1 state.readers := by
  rcases completeIdempotency_cases state.table lease.request state.clock responseStatus reference
    lease.token with unchanged | ⟨record, present, _, owned, live, completed⟩
  · rw [unchanged]
    exact served
  · rw [completed]
    refine served.update fun success reader member same => ?_
    exact spares (IdempotencyRecord.complete_completed.mp success) record present
      (owned.resolve_left (leased record present)) live reader member same

theorem ReadersServed.finalize {state : ReplayState} (served : ReadersServed state.table state.readers)
    (storage : Storage) (request : FinalizeRequest) (token : String)
    (spares : isSuccess request.effectiveStatus = true → state.SparesReaders token) :
    ReadersServed (Eiraos.finalize storage state.database { request with leaseToken := some token }
      state.clock).1.idempotency state.readers := by
  have ended := finalize_ending storage state.database { request with leaseToken := some token } state.clock
  generalize Eiraos.finalize storage state.database { request with leaseToken := some token }
    state.clock = ending at ended
  cases ended with
  | unchanged => exact served
  | finalized _ _ _ _ owner =>
    rcases owner with ⟨_, rfl⟩ | ⟨record, rfl, owner⟩
    · exact served
    · refine ReadersServed.update served fun success reader member same => ?_
      exact spares (IdempotencyRecord.complete_completed.mp success) record owner.recordMem owner.owned
        owner.live reader member same

theorem ReadersServed.assertRecoveryAllowed {state : ReplayState}
    (served : ReadersServed state.table state.readers) (storage : Storage) (executionId : String)
    (recordId : Nat) (leaseToken : Option String) :
    ReadersServed (Eiraos.assertRecoveryAllowed storage state.database executionId recordId leaseToken
      state.clock).1.idempotency state.readers := by
  have ended := assertRecoveryAllowed_ending storage state.database executionId recordId leaseToken
    state.clock
  generalize Eiraos.assertRecoveryAllowed storage state.database executionId recordId leaseToken
    state.clock = ending at ended
  cases ended with
  | unchanged => exact served
  | exhausted => exact ReadersServed.update served nofun

end Readers

theorem ReadersServed.step {state next : ReplayState} {label : ReplayLabel}
    (invariant : ReplayInvariant state.table state.clock state.leases)
    (served : ReadersServed state.table state.readers) (spares : state.Spares label)
    (stepped : state.step label = some next) : ReadersServed next.table next.readers := by
  cases state.step_move stepped with
  | tick => exact served
  | @begin request attempts token _ _ ran =>
    subst ran
    exact served.begin invariant.sound.wellFormed request attempts state.clock token
  | read => exact fun reader member => served reader (List.mem_of_mem_erase member)
  | renew request token => exact served.renew request state.clock token
  | @complete lease _ reference _ _ _ _ ran =>
    subst ran
    refine served.complete lease reference spares fun record present unleased => ?_
    obtain ⟨holder, _, holds⟩ := invariant.held record present
    simp [holds.token] at unleased
  | cleanup => exact served.filter _
  | @finalize lease storage request => exact served.finalize storage request lease.token spares
  | assertRecoveryAllowed token storage executionId recordId =>
    exact served.assertRecoveryAllowed storage executionId recordId (some token)
  | elsewhere => exact served

/-- While no success of another body is stored for a waiting request, what it reads was
stored for its own body, on a record of its organization, user and key. -/
theorem readers_served_own_body {labels : List ReplayLabel} {clock : Instant} {state : ReplayState}
    (ran : Transition.run ReplayState.step (initial clock) labels = some state)
    (spared : Transition.Throughout ReplayState.step ReplayState.Spares (initial clock) labels)
    {reader : IdempotencyRequest} (waits : reader ∈ state.readers) {response : String}
    (answered : readCachedResponse state.table reader = some response) :
    ∃ record ∈ state.table.rows, record.identity = reader.identity ∧
      record.requestHash = reader.digest ∧ record.responseReference = some response ∧
      ∃ lease ∈ state.leases, lease.request.identity = reader.identity ∧
        lease.request.digest = reader.digest ∧ lease.stored = some response := by
  have reached := Transition.run_invariant_throughout
    (fun state => ReplayInvariant state.table state.clock state.leases ∧
      ReadersServed state.table state.readers)
    (fun _ _ _ holds spares stepped => ⟨holds.1.step stepped, holds.2.step holds.1 spares stepped⟩)
    ⟨replayInvariant_empty clock, fun _ waiting => by cases waiting⟩ spared ran
  obtain ⟨invariant, served⟩ := reached
  unfold readCachedResponse at answered
  split at answered
  · contradiction
  next record found =>
    have present := List.mem_of_find?_eq_some found
    have selected : record.identity = reader.identity ∧ record.status = .completed := by
      simpa using List.find?_some found
    have own := served reader waits record present selected.1 selected.2
    obtain ⟨lease, member, holds⟩ := invariant.held record present
    refine ⟨record, present, selected.1, own, answered, lease, member, ?_, ?_, ?_⟩
    · exact holds.identity.symm.trans selected.1
    · exact holds.digest.symm.trans own
    · exact (holds.stored selected.2).trans answered

/-- A replay read while nothing else happens. -/
theorem readers_served_own_body_replayed :
    ∃ state, Transition.run ReplayState.step (initial 0)
        [.begin ⟨1, 2, "key", "digest"⟩ 0 "a", .complete "a" 200 "response",
          .begin ⟨1, 2, "key", "digest"⟩ 0 "b"] = some state ∧
      ∃ record ∈ state.table.rows, record.identity = (1, 2, "key") ∧ record.requestHash = "digest" ∧
        record.responseReference = some "response" ∧
        ∃ lease ∈ state.leases, lease.request.identity = (1, 2, "key") ∧
          lease.request.digest = "digest" ∧ lease.stored = some "response" :=
  ⟨_, rfl, @readers_served_own_body
    [.begin ⟨1, 2, "key", "digest"⟩ 0 "a", .complete "a" 200 "response",
      .begin ⟨1, 2, "key", "digest"⟩ 0 "b"]
    0 _ rfl (by decide +kernel) ⟨1, 2, "key", "digest"⟩ (by decide +kernel) "response" rfl⟩

/-- A request told `completed` at the last instant reads the response to another body that
was stored after the record expired. -/
theorem reader_served_other_body :
    ¬∀ (labels : List ReplayLabel) (clock : Instant) (state : ReplayState),
      Transition.run ReplayState.step (initial clock) labels = some state →
      ∀ reader ∈ state.readers, ∀ response, readCachedResponse state.table reader = some response →
        ∃ lease ∈ state.leases, lease.request.identity = reader.identity ∧
          lease.request.digest = reader.digest ∧ lease.stored = some response := by
  intro served
  have own := served
    [.begin ⟨1, 2, "key", "first"⟩ 0 "a", .complete "a" 200 "one", .tick (seconds DEFAULT_TTL_SECONDS),
      .begin ⟨1, 2, "key", "first"⟩ 0 "b", .tick 1, .begin ⟨1, 2, "key", "second"⟩ 0 "c",
      .begin ⟨1, 2, "key", "second"⟩ 1 "d", .complete "d" 200 "two"]
    0 _ rfl ⟨1, 2, "key", "first"⟩ (by decide +kernel) "two" (by decide +kernel)
  revert own
  decide +kernel

end Eiraos
