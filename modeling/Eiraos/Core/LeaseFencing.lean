import Eiraos.Core.IdempotencySteps
import Eiraos.Foundations.Run

/-! # Leases are exclusive and fenced

Any number of workers call the four ledger operations in any order, one transaction at a
time, under a clock that never goes back and with tokens that never repeat.  The state
remembers every token handed out as a `Grant`: the last `lease_until` written for it and
whether its owner has completed it.  `LeaseInvariant` ties the rows to their grants: a row
carries its newest grant, and every older grant of the row was completed or had lapsed.
-/

namespace Eiraos

open IdempotencyTable

/-- One token handed out by `begin_idempotency`. -/
structure Grant where
  identity : Nat × Nat × String
  recordId : Nat
  token : String
  leaseUntil : Instant
  completed : Bool
  deriving DecidableEq, Repr

structure LeaseState where
  table : IdempotencyTable
  clock : Instant
  issued : List Grant
  deriving DecidableEq, Repr

inductive LeaseLabel where
  | tick (elapsed : Nat)
  | begin (request : IdempotencyRequest) (attempts : Nat) (token : String)
  | renew (request : IdempotencyRequest) (token : String)
  | complete (request : IdempotencyRequest) (responseStatus : Nat) (reference token : String)
  | cleanup
  deriving DecidableEq, Repr

namespace LeaseState

def initial (clock : Instant) : LeaseState := ⟨⟨[], 0⟩, clock, []⟩

/-- The grants of `token` rewritten. -/
def amend (issued : List Grant) (token : String) (change : Grant → Grant) : List Grant :=
  issued.map fun grant => if grant.token = token then change grant else grant

/-- The grant a returned outcome stands for. -/
def granted (request : IdempotencyRequest) (now : Instant) : BeginResult → Option Grant
  | .returned ⟨.processing, some token, some recordId, _⟩ =>
    some ⟨request.identity, recordId, token, now + seconds LEASE_SECONDS, false⟩
  | _ => none

/-- One transaction; `begin` is enabled for tokens that were never handed out. -/
def step (state : LeaseState) : LeaseLabel → Option LeaseState
  | .tick elapsed => some { state with clock := state.clock + elapsed }
  | .begin request attempts token =>
    if state.issued.any fun grant => grant.token = token then none
    else
      let ending := beginIdempotency state.table request attempts state.clock token
      some { state with
        table := ending.1
        issued := (granted request state.clock ending.2).toList ++ state.issued }
  | .renew request token =>
    let ending := renewIdempotencyLease state.table request state.clock token
    some { state with
      table := ending.1
      issued :=
        if ending.2 then
          amend state.issued token fun grant =>
            { grant with leaseUntil := state.clock + seconds LEASE_SECONDS }
        else state.issued }
  | .complete request responseStatus reference token =>
    let ending :=
      completeIdempotency state.table request state.clock responseStatus reference (some token)
    some { state with
      table := ending.1
      issued :=
        if ending.2 then amend state.issued token fun grant => { grant with completed := true }
        else state.issued }
  | .cleanup => some { state with table := (cleanupExpiredRecords state.table state.clock).1 }

end LeaseState

open LeaseState

/-- A grant that no longer protects its row: completed by its owner, or lapsed. -/
def Grant.Spent (grant : Grant) (clock : Instant) : Prop :=
  grant.completed = true ∨ grant.leaseUntil < clock

/-- The row carries this grant. -/
structure Grant.Holds (grant : Grant) (record : IdempotencyRecord) : Prop where
  recordId : grant.recordId = record.id
  token : record.leaseToken = some grant.token
  lease : record.status = .processing → record.leaseUntil = some grant.leaseUntil
  closed : record.status ≠ .processing → grant.completed = true

structure LeaseInvariant (state : LeaseState) : Prop where
  wellFormed : state.table.WellFormed
  tokens : Rows.Unique Grant.token state.issued
  bounded : ∀ grant ∈ state.issued, grant.recordId < state.table.nextId
  identities : ∀ grant ∈ state.issued, ∀ record ∈ state.table.rows,
    grant.recordId = record.id → grant.identity = record.identity
  held : ∀ record ∈ state.table.rows, ∃ grant ∈ state.issued, grant.Holds record
  older : ∀ grant ∈ state.issued, ∀ record ∈ state.table.rows, grant.recordId = record.id →
    grant.Holds record ∨ grant.Spent state.clock

theorem Grant.Spent.mono {grant : Grant} {clock later : Instant} (spent : grant.Spent clock)
    (advances : clock ≤ later) : grant.Spent later :=
  spent.imp_right fun lapsed => Nat.lt_of_lt_of_le lapsed advances

theorem leaseInvariant_initial (clock : Instant) : LeaseInvariant (initial clock) where
  wellFormed := wellFormed_empty
  tokens := List.nodup_nil
  bounded := fun _ member => by cases member
  identities := fun _ member => by cases member
  held := fun _ member => by cases member
  older := fun _ member => by cases member

/-- Rows may disappear, and grants stay as they are. -/
theorem LeaseInvariant.filter {state : LeaseState} (invariant : LeaseInvariant state)
    (condition : IdempotencyRecord → Bool) :
    LeaseInvariant { state with
      table := { state.table with rows := state.table.rows.filter condition } } where
  wellFormed := invariant.wellFormed.filter condition
  tokens := invariant.tokens
  bounded := invariant.bounded
  identities := fun grant member record recordMem =>
    invariant.identities grant member record (List.mem_of_mem_filter recordMem)
  held := fun record recordMem => invariant.held record (List.mem_of_mem_filter recordMem)
  older := fun grant member record recordMem =>
    invariant.older grant member record (List.mem_of_mem_filter recordMem)

/-- A new row with a new grant. -/
theorem LeaseInvariant.insert {state : LeaseState} (invariant : LeaseInvariant state)
    {request : IdempotencyRequest} {token : String}
    (absent : ∀ record ∈ state.table.rows, record.identity ≠ request.identity)
    (fresh : ∀ grant ∈ state.issued, grant.token ≠ token) :
    LeaseInvariant { state with
      table := ⟨state.table.rows ++ [request.freshRecord state.table.nextId state.clock token],
        state.table.nextId + 1⟩
      issued := ⟨request.identity, state.table.nextId, token,
        state.clock + seconds LEASE_SECONDS, false⟩ :: state.issued } where
  wellFormed := invariant.wellFormed.insert absent rfl
  tokens := invariant.tokens.cons fresh
  bounded := by
    intro grant member
    rcases List.mem_cons.mp member with rfl | member
    · exact Nat.lt_succ_self _
    · exact Nat.lt_succ_of_lt (invariant.bounded grant member)
  identities := by
    -- Old rows and grants have ids below the one that is drawn.
    intro grant member record recordMem same
    rcases List.mem_append.mp recordMem with recordMem | recordMem <;>
      rcases List.mem_cons.mp member with rfl | member
    · have := invariant.wellFormed.bounded record recordMem
      simp only at same
      omega
    · exact invariant.identities grant member record recordMem same
    · rw [List.mem_singleton.mp recordMem]
      rfl
    · have := invariant.bounded grant member
      rw [List.mem_singleton.mp recordMem] at same
      simp only [IdempotencyRequest.freshRecord] at same
      omega
  held := by
    intro record recordMem
    rcases List.mem_append.mp recordMem with recordMem | recordMem
    · obtain ⟨grant, member, holds⟩ := invariant.held record recordMem
      exact ⟨grant, List.mem_cons_of_mem _ member, holds⟩
    · rw [List.mem_singleton.mp recordMem]
      exact ⟨_, List.mem_cons_self, rfl, rfl, fun _ => rfl, fun open_ => absurd rfl open_⟩
  older := by
    intro grant member record recordMem same
    rcases List.mem_append.mp recordMem with recordMem | recordMem <;>
      rcases List.mem_cons.mp member with rfl | member
    · have := invariant.wellFormed.bounded record recordMem
      simp only at same
      omega
    · exact invariant.older grant member record recordMem same
    · rw [List.mem_singleton.mp recordMem]
      exact .inl ⟨rfl, rfl, fun _ => rfl, fun open_ => absurd rfl open_⟩
    · have := invariant.bounded grant member
      rw [List.mem_singleton.mp recordMem] at same
      simp only [IdempotencyRequest.freshRecord] at same
      omega

/-- An existing row changes hands once its holder is spent. -/
theorem LeaseInvariant.reissue {state : LeaseState} (invariant : LeaseInvariant state)
    {existing record : IdempotencyRecord} {token : String}
    (present : existing ∈ state.table.rows)
    (sameId : record.id = existing.id) (sameIdentity : record.identity = existing.identity)
    (status : record.status = .processing) (leased : record.leaseToken = some token)
    (lease : record.leaseUntil = some (state.clock + seconds LEASE_SECONDS))
    (spent : ∀ grant ∈ state.issued, grant.Holds existing → grant.Spent state.clock)
    (fresh : ∀ grant ∈ state.issued, grant.token ≠ token) :
    LeaseInvariant { state with
      table := state.table.update record
      issued := ⟨existing.identity, existing.id, token,
        state.clock + seconds LEASE_SECONDS, false⟩ :: state.issued } where
  wellFormed := invariant.wellFormed.update present sameId sameIdentity
  tokens := invariant.tokens.cons fresh
  bounded := by
    intro grant member
    rcases List.mem_cons.mp member with rfl | member
    · exact invariant.wellFormed.bounded existing present
    · exact invariant.bounded grant member
  identities := by
    intro grant member other otherMem same
    rcases Rows.mem_replace.mp otherMem with ⟨rfl, _⟩ | ⟨otherMem, differs⟩ <;>
      rcases List.mem_cons.mp member with rfl | member
    · exact sameIdentity.symm
    · rw [invariant.identities grant member existing present (same.trans sameId), sameIdentity]
    · exact absurd (same.symm.trans sameId.symm) differs
    · exact invariant.identities grant member other otherMem same
  held := by
    intro other otherMem
    rcases Rows.mem_replace.mp otherMem with ⟨rfl, _⟩ | ⟨otherMem, _⟩
    · exact ⟨_, List.mem_cons_self, sameId.symm, leased, fun _ => lease,
        fun open_ => absurd status open_⟩
    · obtain ⟨grant, member, holds⟩ := invariant.held other otherMem
      exact ⟨grant, List.mem_cons_of_mem _ member, holds⟩
  older := by
    intro grant member other otherMem same
    rcases Rows.mem_replace.mp otherMem with ⟨rfl, _⟩ | ⟨otherMem, differs⟩ <;>
      rcases List.mem_cons.mp member with rfl | member
    · exact .inl ⟨sameId.symm, leased, fun _ => lease, fun open_ => absurd status open_⟩
    -- The former holder is spent now, every other grant of the row was spent before.
    · rcases invariant.older grant member existing present (same.trans sameId) with holds | lapsed
      · exact .inr (spent grant member holds)
      · exact .inr lapsed
    · exact absurd (same.symm.trans sameId.symm) differs
    · exact invariant.older grant member other otherMem same

/-- The holder of a row rewrites the row and its own grant. -/
theorem LeaseInvariant.amend {state : LeaseState} (invariant : LeaseInvariant state)
    {existing record : IdempotencyRecord} {token : String} {change : Grant → Grant}
    (present : existing ∈ state.table.rows) (owned : existing.leaseToken = some token)
    (sameId : record.id = existing.id) (sameIdentity : record.identity = existing.identity)
    (changeToken : ∀ grant, (change grant).token = grant.token)
    (changeId : ∀ grant, (change grant).recordId = grant.recordId)
    (changeIdentity : ∀ grant, (change grant).identity = grant.identity)
    (holds : ∀ grant : Grant, grant.Holds existing → (change grant).Holds record) :
    LeaseInvariant { state with
      table := state.table.update record
      issued := LeaseState.amend state.issued token change } := by
  obtain ⟨holder, holderMem, holderHolds⟩ := invariant.held existing present
  have holderToken : holder.token = token :=
    Option.some.inj (holderHolds.token.symm.trans owned)
  -- Tokens are unique, so the rewritten grant is the holder's and no other.
  have isHolder : ∀ grant ∈ state.issued, grant.token = token → grant = holder :=
    fun grant member same => invariant.tokens.eq member holderMem (same.trans holderToken.symm)
  refine ⟨invariant.wellFormed.update present sameId sameIdentity, ?_, ?_, ?_, ?_, ?_⟩
  · have tokensKept : (LeaseState.amend state.issued token change).map Grant.token =
        state.issued.map Grant.token := by
      simp only [LeaseState.amend, List.map_map]
      refine List.map_congr_left fun grant _ => ?_
      simp only [Function.comp]
      split
      · exact changeToken grant
      · rfl
    unfold Rows.Unique
    rw [tokensKept]
    exact invariant.tokens
  · intro grant member
    obtain ⟨old, oldMem, rfl⟩ := List.mem_map.mp member
    have bound := invariant.bounded old oldMem
    split
    · rw [changeId]
      exact bound
    · exact bound
  · intro grant member other otherMem same
    obtain ⟨old, oldMem, rfl⟩ := List.mem_map.mp member
    have oldSame : old.recordId = other.id := by
      split at same
      · rw [← changeId]
        exact same
      · exact same
    have oldIdentity : old.identity = other.identity := by
      rcases Rows.mem_replace.mp otherMem with ⟨rfl, _⟩ | ⟨otherMem, _⟩
      · rw [invariant.identities old oldMem existing present (oldSame.trans sameId), sameIdentity]
      · exact invariant.identities old oldMem other otherMem oldSame
    split
    · rw [changeIdentity]
      exact oldIdentity
    · exact oldIdentity
  · intro other otherMem
    rcases Rows.mem_replace.mp otherMem with ⟨rfl, _⟩ | ⟨otherMem, differs⟩
    · exact ⟨change holder, List.mem_map.mpr ⟨holder, holderMem, if_pos holderToken⟩,
        holds holder holderHolds⟩
    · obtain ⟨grant, member, grantHolds⟩ := invariant.held other otherMem
      refine ⟨grant, List.mem_map.mpr ⟨grant, member, if_neg fun same => ?_⟩, grantHolds⟩
      rw [isHolder grant member same] at grantHolds
      exact differs (grantHolds.recordId.symm.trans (holderHolds.recordId.trans sameId.symm))
  · intro grant member other otherMem same
    obtain ⟨old, oldMem, rfl⟩ := List.mem_map.mp member
    -- The rewritten grant is the holder; another grant of its row was spent before.
    by_cases rewritten : old.token = token
    · rw [if_pos rewritten, isHolder old oldMem rewritten] at same ⊢
      rcases Rows.mem_replace.mp otherMem with ⟨rfl, _⟩ | ⟨_, differs⟩
      · exact .inl (holds holder holderHolds)
      · rw [changeId, holderHolds.recordId] at same
        exact absurd (same.symm.trans sameId.symm) differs
    · rw [if_neg rewritten] at same ⊢
      rcases Rows.mem_replace.mp otherMem with ⟨rfl, _⟩ | ⟨otherMem, _⟩
      · rcases invariant.older old oldMem existing present (same.trans sameId) with oldHolds | spent
        · exact absurd (Option.some.inj (oldHolds.token.symm.trans owned)) rewritten
        · exact .inr spent
      · exact invariant.older old oldMem other otherMem same

theorem LeaseState.granted_of_unreturned {request : IdempotencyRequest} {clock : Instant} {result : BeginResult}
    (unreturned : ∀ outcome, result ≠ .returned outcome) : granted request clock result = none := by
  cases result with
  | returned outcome => exact absurd rfl (unreturned outcome)
  | again => rfl
  | raised statusCode detail => rfl

theorem LeaseInvariant.step {state next : LeaseState} {label : LeaseLabel}
    (invariant : LeaseInvariant state) (stepped : LeaseState.step state label = some next) :
    LeaseInvariant next := by
  cases label with
  | tick elapsed =>
    simp only [LeaseState.step, Option.some.injEq] at stepped
    subst next
    exact { invariant with
      older := fun grant member record recordMem same =>
        (invariant.older grant member record recordMem same).imp_right
          fun spent => spent.mono (Nat.le_add_right _ _) }
  | begin request attempts token =>
    simp only [LeaseState.step] at stepped
    split at stepped
    · contradiction
    next unissued =>
      have fresh : ∀ grant ∈ state.issued, grant.token ≠ token := by
        simpa using unissued
      simp only [Option.some.injEq] at stepped
      subst next
      have begun := beginIdempotency_begun state.table request attempts state.clock token
      generalize beginIdempotency state.table request attempts state.clock token = ending at begun ⊢
      cases begun with
      | inserted absent => exact invariant.insert absent fresh
      | expired _ _ _ _ unreturned =>
        rw [granted_of_unreturned unreturned]
        exact invariant.filter _
      | refused unreturned =>
        rw [granted_of_unreturned unreturned]
        exact invariant
      | replayed => exact invariant
      | restarted present same digest failed =>
        simp only [granted, ← same]
        refine invariant.reissue present rfl rfl rfl rfl rfl (fun grant _ holds => ?_) fresh
        exact .inl (holds.closed (by rw [failed]; decide))
      | @reclaimed existing present same digest unreplayable unfailed lapsed =>
        simp only [granted, ← same]
        refine invariant.reissue present rfl rfl rfl rfl rfl (fun grant _ holds => ?_) fresh
        -- The lease of a processing row has lapsed, any other row was closed by its holder.
        by_cases processing : existing.status = .processing
        · have lease := holds.lease processing
          simp only [IdempotencyRecord.leaseLapsed, lease, decide_eq_true_eq] at lapsed
          exact .inr lapsed
        · exact .inl (holds.closed processing)
  | renew request token =>
    simp only [LeaseState.step, Option.some.injEq] at stepped
    subst next
    rcases renewIdempotencyLease_cases state.table request state.clock token with
      unchanged | ⟨record, present, _, processing, owned, renewed⟩
    · rw [unchanged]
      exact invariant
    · rw [renewed]
      refine invariant.amend present owned rfl rfl (fun _ => rfl) (fun _ => rfl) (fun _ => rfl) ?_
      intro grant holds
      exact ⟨holds.recordId, holds.token, fun _ => rfl, holds.closed⟩
  | complete request responseStatus reference token =>
    simp only [LeaseState.step, Option.some.injEq] at stepped
    subst next
    rcases completeIdempotency_cases state.table request state.clock responseStatus reference token
      with unchanged | ⟨record, present, _, owned, _, completed⟩
    · rw [unchanged]
      exact invariant
    · rw [completed]
      obtain ⟨holder, _, holderHolds⟩ := invariant.held record present
      -- A row always carries a token, so the completion has compared it.
      have held : record.leaseToken = some token := by
        rcases owned with unowned | owned
        · rw [holderHolds.token] at unowned
          contradiction
        · exact owned
      refine invariant.amend present held rfl rfl (fun _ => rfl) (fun _ => rfl) (fun _ => rfl) ?_
      intro grant holds
      refine ⟨holds.recordId, holds.token, fun processing => ?_, fun _ => rfl⟩
      simp only [IdempotencyRecord.complete] at processing
      split at processing <;> contradiction
  | cleanup =>
    simp only [LeaseState.step, Option.some.injEq] at stepped
    subst next
    exact invariant.filter _

theorem leaseInvariant_reached {clock : Instant} {labels : List LeaseLabel} {state : LeaseState}
    (reached : Transition.run LeaseState.step (initial clock) labels = some state) :
    LeaseInvariant state :=
  Transition.run_invariant LeaseInvariant (fun _ _ _ invariant stepped => invariant.step stepped)
    (leaseInvariant_initial clock) reached

/-! ## Superseded tokens -/

/-- The token was handed out and no row carries it any more. -/
structure LeaseState.Superseded (state : LeaseState) (token : String) : Prop where
  issued : ∃ grant ∈ state.issued, grant.token = token
  unheld : ∀ record ∈ state.table.rows, record.leaseToken ≠ some token

theorem LeaseState.amend_issued {issued : List Grant} {token stale : String} {change : Grant → Grant}
    (changeToken : ∀ grant, (change grant).token = grant.token)
    (known : ∃ grant ∈ issued, grant.token = stale) :
    ∃ grant ∈ amend issued token change, grant.token = stale := by
  obtain ⟨grant, member, same⟩ := known
  refine ⟨_, List.mem_map.mpr ⟨grant, member, rfl⟩, ?_⟩
  split
  · rw [changeToken]
    exact same
  · exact same

/-- An update that writes another token, or keeps the one the row had, revives no token. -/
theorem unheld_update {table : IdempotencyTable} {record : IdempotencyRecord} {stale : String}
    (unheld : ∀ other ∈ table.rows, other.leaseToken ≠ some stale)
    (differs : record.leaseToken ≠ some stale) :
    ∀ other ∈ (table.update record).rows, other.leaseToken ≠ some stale :=
  Rows.forall_replace differs unheld

/-- Handing out a fresh token leaves a superseded one superseded. -/
theorem LeaseState.Superseded.begin {state : LeaseState} {stale token : String}
    {request : IdempotencyRequest} {ending : IdempotencyTable × BeginResult}
    (superseded : state.Superseded stale) (differs : token ≠ stale)
    (begun : Begun state.table request state.clock token ending) :
    ∀ record ∈ ending.1.rows, record.leaseToken ≠ some stale := by
  cases begun with
  | inserted =>
    intro record recordMem
    rcases List.mem_append.mp recordMem with recordMem | recordMem
    · exact superseded.unheld record recordMem
    · rw [List.mem_singleton.mp recordMem]
      exact fun same => differs (Option.some.inj same)
  | expired =>
    exact fun record recordMem => superseded.unheld record (List.mem_of_mem_filter recordMem)
  | refused => exact superseded.unheld
  | replayed => exact superseded.unheld
  | restarted => exact unheld_update superseded.unheld fun same => differs (Option.some.inj same)
  | reclaimed => exact unheld_update superseded.unheld fun same => differs (Option.some.inj same)

theorem LeaseState.Superseded.step {state next : LeaseState} {label : LeaseLabel} {stale : String}
    (superseded : state.Superseded stale)
    (stepped : LeaseState.step state label = some next) : next.Superseded stale := by
  cases label with
  | tick elapsed =>
    simp only [LeaseState.step, Option.some.injEq] at stepped
    subst next
    exact ⟨superseded.issued, superseded.unheld⟩
  | begin request attempts token =>
    simp only [LeaseState.step] at stepped
    split at stepped
    · contradiction
    next unissued =>
      simp only [Option.some.injEq] at stepped
      subst next
      obtain ⟨grant, member, same⟩ := superseded.issued
      have differs : token ≠ stale := by
        rintro rfl
        exact unissued (List.any_eq_true.mpr ⟨grant, member, by simpa using same⟩)
      refine ⟨⟨grant, List.mem_append_right _ member, same⟩, ?_⟩
      exact superseded.begin differs (beginIdempotency_begun _ request attempts _ token)
  | renew request token =>
    simp only [LeaseState.step, Option.some.injEq] at stepped
    subst next
    rcases renewIdempotencyLease_cases state.table request state.clock token with
      unchanged | ⟨record, present, _, _, _, renewed⟩
    · rw [unchanged]
      exact ⟨superseded.issued, superseded.unheld⟩
    · rw [renewed]
      exact ⟨amend_issued (fun _ => rfl) superseded.issued,
        unheld_update superseded.unheld (superseded.unheld record present)⟩
  | complete request responseStatus reference token =>
    simp only [LeaseState.step, Option.some.injEq] at stepped
    subst next
    rcases completeIdempotency_cases state.table request state.clock responseStatus reference token
      with unchanged | ⟨record, present, _, _, _, completed⟩
    · rw [unchanged]
      exact ⟨superseded.issued, superseded.unheld⟩
    · rw [completed]
      exact ⟨amend_issued (fun _ => rfl) superseded.issued,
        unheld_update superseded.unheld (superseded.unheld record present)⟩
  | cleanup =>
    simp only [LeaseState.step, Option.some.injEq] at stepped
    subst next
    exact ⟨superseded.issued,
      fun record recordMem => superseded.unheld record (List.mem_of_mem_filter recordMem)⟩

/-- A superseded token can neither renew nor complete anything. -/
theorem superseded_refused {state : LeaseState} {stale : String} (invariant : LeaseInvariant state)
    (superseded : state.Superseded stale) (request : IdempotencyRequest) (now : Instant)
    (responseStatus : Nat) (reference : String) :
    renewIdempotencyLease state.table request now stale = (state.table, false) ∧
      completeIdempotency state.table request now responseStatus reference (some stale) =
        (state.table, false) := by
  constructor
  · rcases renewIdempotencyLease_cases state.table request now stale with
      unchanged | ⟨record, present, _, _, owned, _⟩
    · exact unchanged
    · exact absurd owned (superseded.unheld record present)
  · rcases completeIdempotency_cases state.table request now responseStatus reference stale with
      unchanged | ⟨record, present, _, owned, _⟩
    · exact unchanged
    · obtain ⟨holder, _, holds⟩ := invariant.held record present
      rcases owned with unowned | owned
      · rw [holds.token] at unowned
        contradiction
      · exact absurd owned (superseded.unheld record present)

/-- What granting a lease says about the earlier grants of the key: each is spent or its
record is gone, and its token is on no row. -/
theorem earlier_grants_closed {state : LeaseState} {request : IdempotencyRequest} {attempts : Nat}
    {token : String} {outcome : IdempotencyOutcome} (invariant : LeaseInvariant state)
    (fresh : ∀ grant ∈ state.issued, grant.token ≠ token)
    (returned : (beginIdempotency state.table request attempts state.clock token).2 =
      .returned outcome)
    (processing : outcome.status = .processing)
    {grant : Grant} (member : grant ∈ state.issued) (same : grant.identity = request.identity) :
    (grant.Spent state.clock ∨ ∀ record ∈
        (beginIdempotency state.table request attempts state.clock token).1.rows,
        record.id ≠ grant.recordId) ∧
      ∀ record ∈ (beginIdempotency state.table request attempts state.clock token).1.rows,
        record.leaseToken ≠ some grant.token := by
  -- A row with the token of this grant has its id, hence its key.
  have heldByGrant : ∀ record ∈ state.table.rows, record.leaseToken = some grant.token →
      record.identity = request.identity := by
    intro record recordMem owned
    obtain ⟨holder, holderMem, holds⟩ := invariant.held record recordMem
    have isGrant : holder = grant := invariant.tokens.eq holderMem member
      (Option.some.inj (holds.token.symm.trans owned))
    rw [isGrant] at holds
    rw [← invariant.identities grant member record recordMem holds.recordId, same]
  have rowsOfKey : ∀ record ∈ state.table.rows, grant.recordId = record.id →
      record.identity = request.identity := fun record recordMem sameId =>
    (invariant.identities grant member record recordMem sameId).symm.trans same
  have otherToken : some token ≠ some grant.token := fun equal =>
    fresh grant member (Option.some.inj equal).symm
  -- The row the lease is granted on is the only row of the key.
  have updated : ∀ existing record : IdempotencyRecord, existing ∈ state.table.rows →
      existing.identity = request.identity → record.id = existing.id →
      record.leaseToken = some token →
      (grant.Holds existing → grant.Spent state.clock) →
      (grant.Spent state.clock ∨ ∀ other ∈ (state.table.update record).rows,
          other.id ≠ grant.recordId) ∧
        ∀ other ∈ (state.table.update record).rows, other.leaseToken ≠ some grant.token := by
    intro existing record present sameKey sameId leased spent
    constructor
    · by_cases ofRow : grant.recordId = existing.id
      · exact .inl ((invariant.older grant member existing present ofRow).elim spent id)
      · refine .inr fun other otherMem sameOther => ?_
        rcases Rows.mem_replace.mp otherMem with ⟨rfl, _⟩ | ⟨otherMem, _⟩
        · exact ofRow (sameOther.symm.trans sameId)
        · have : other = existing := invariant.wellFormed.identities.eq otherMem present
            ((rowsOfKey other otherMem sameOther.symm).trans sameKey.symm)
          exact ofRow (by rw [← this, sameOther])
    · intro other otherMem owned
      rcases Rows.mem_replace.mp otherMem with ⟨rfl, _⟩ | ⟨otherMem, differs⟩
      · exact otherToken (leased.symm.trans owned)
      · have : other = existing := invariant.wellFormed.identities.eq otherMem present
          ((heldByGrant other otherMem owned).trans sameKey.symm)
        exact differs (by rw [this, sameId])
  have begun := beginIdempotency_begun state.table request attempts state.clock token
  generalize beginIdempotency state.table request attempts state.clock token = ending at begun returned ⊢
  cases begun with
  | inserted absent =>
    constructor
    · refine .inr fun record recordMem sameId => ?_
      rcases List.mem_append.mp recordMem with recordMem | recordMem
      · exact absent record recordMem (rowsOfKey record recordMem sameId.symm)
      · have := invariant.bounded grant member
        rw [List.mem_singleton.mp recordMem] at sameId
        simp only [IdempotencyRequest.freshRecord] at sameId
        omega
    · intro record recordMem owned
      rcases List.mem_append.mp recordMem with recordMem | recordMem
      · exact absent record recordMem (heldByGrant record recordMem owned)
      · rw [List.mem_singleton.mp recordMem] at owned
        exact otherToken owned
  | expired _ _ _ _ unreturned => exact absurd returned (unreturned outcome)
  | refused unreturned => exact absurd returned (unreturned outcome)
  | replayed =>
    cases returned
    contradiction
  | restarted present sameKey digest failed =>
    refine updated _ _ present sameKey rfl rfl fun holds => ?_
    exact .inl (holds.closed (by rw [failed]; decide))
  | @reclaimed existing present sameKey digest unreplayable unfailed lapsed =>
    refine updated _ _ present sameKey rfl rfl fun holds => ?_
    by_cases stillProcessing : existing.status = .processing
    · have lease := holds.lease stillProcessing
      simp only [IdempotencyRecord.leaseLapsed, lease, decide_eq_true_eq] at lapsed
      exact .inr lapsed
    · exact .inl (holds.closed stillProcessing)

/-- Whenever `begin_idempotency` hands out a lease, every token handed out before for the
key was completed by its owner, belongs to a deleted record, or had lapsed strictly before;
and from then on none of them renews or completes anything. -/
theorem leases_exclusive_and_fenced {clock : Instant} {labels later : List LeaseLabel}
    {state next final : LeaseState} {request : IdempotencyRequest} {attempts : Nat} {token : String}
    {outcome : IdempotencyOutcome}
    (reached : Transition.run LeaseState.step (initial clock) labels = some state)
    (begun : LeaseState.step state (.begin request attempts token) = some next)
    (returned : (beginIdempotency state.table request attempts state.clock token).2 =
      .returned outcome)
    (processing : outcome.status = .processing)
    (continued : Transition.run LeaseState.step next later = some final) :
    ∀ grant ∈ state.issued, grant.identity = request.identity →
      (grant.completed = true ∨ (∀ record ∈ next.table.rows, record.id ≠ grant.recordId) ∨
        grant.leaseUntil < state.clock) ∧
      ∀ now responseStatus reference,
        renewIdempotencyLease final.table request now grant.token = (final.table, false) ∧
        completeIdempotency final.table request now responseStatus reference (some grant.token) =
          (final.table, false) := by
  intro grant member same
  have invariant := leaseInvariant_reached reached
  have nextInvariant := invariant.step begun
  simp only [LeaseState.step] at begun
  split at begun
  · contradiction
  next unissued =>
    have fresh : ∀ grant ∈ state.issued, grant.token ≠ token := by simpa using unissued
    obtain ⟨closed, unheld⟩ :=
      earlier_grants_closed invariant fresh returned processing member same
    simp only [Option.some.injEq] at begun
    subst next
    constructor
    · rcases closed with (completed | lapsed) | deleted
      · exact .inl completed
      · exact .inr (.inr lapsed)
      · exact .inr (.inl deleted)
    · have superseded := Transition.run_invariant (fun state => state.Superseded grant.token)
        (fun _ _ _ superseded stepped => superseded.step stepped)
        ⟨⟨grant, List.mem_append_right _ member, rfl⟩, unheld⟩ continued
      have finalInvariant := Transition.run_invariant LeaseInvariant
        (fun _ _ _ invariant stepped => invariant.step stepped) nextInvariant continued
      intro now responseStatus reference
      exact superseded_refused finalInvariant superseded request now responseStatus reference

/-- A lease reclaimed after 121 seconds, renewed by its new holder. -/
theorem leases_exclusive_and_fenced_reclaimed :
    ∃ state next final : LeaseState,
      Transition.run LeaseState.step (initial 0)
        [.begin ⟨1, 2, "key", "digest"⟩ 0 "a", .tick (seconds 121)] = some state ∧
      LeaseState.step state (.begin ⟨1, 2, "key", "digest"⟩ 0 "b") = some next ∧
      Transition.run LeaseState.step next [.renew ⟨1, 2, "key", "digest"⟩ "b"] = some final ∧
      ∀ grant ∈ state.issued, grant.identity = (1, 2, "key") →
        (grant.completed = true ∨ (∀ record ∈ next.table.rows, record.id ≠ grant.recordId) ∨
          grant.leaseUntil < state.clock) ∧
        ∀ now responseStatus reference,
          renewIdempotencyLease final.table ⟨1, 2, "key", "digest"⟩ now grant.token =
            (final.table, false) ∧
          completeIdempotency final.table ⟨1, 2, "key", "digest"⟩ now responseStatus reference
            (some grant.token) = (final.table, false) :=
  ⟨_, _, _, rfl, rfl, rfl,
    @leases_exclusive_and_fenced 0
      [.begin ⟨1, 2, "key", "digest"⟩ 0 "a", .tick (seconds 121)]
      [.renew ⟨1, 2, "key", "digest"⟩ "b"] _ _ _ ⟨1, 2, "key", "digest"⟩ 0 "b"
      ⟨.processing, some "b", some 0, true⟩ rfl rfl rfl rfl rfl⟩

end Eiraos
