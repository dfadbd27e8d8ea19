import Eiraos.Foundations.Run
import Eiraos.Persistence.Endings

/-! # The states of an idempotency record

Every operation that writes the ledger, in any order, with any clock and under any token.
A record that is processing carries the end of its lease, and a completed one carries its
response: so `begin_idempotency` always finds a way on, unless a lease has not ended yet.
-/

namespace Eiraos

open IdempotencyTable

/-- The statuses `complete_idempotency` and `finalize` store as a success. -/
def isSuccess (responseStatus : Nat) : Bool := 200 ≤ responseStatus ∧ responseStatus < 300

/-- An operation that writes the ledger; `elsewhere` is anything that writes other tables. -/
inductive LedgerOperation where
  | begin (request : IdempotencyRequest) (attempts : Nat) (now : Instant) (token : String)
  | renew (request : IdempotencyRequest) (now : Instant) (token : String)
  | complete (request : IdempotencyRequest) (now : Instant) (responseStatus : Nat) (reference : String)
      (leaseToken : Option String)
  | cleanup (now : Instant)
  | finalize (storage : Storage) (request : FinalizeRequest) (now : Instant)
  | assertRecoveryAllowed (storage : Storage) (executionId : String) (recordId : Nat)
      (leaseToken : Option String) (now : Instant)
  | elsewhere (database : Database)
  deriving DecidableEq, Repr

namespace LedgerOperation

/-- A success stores a response that is not empty. -/
def wellReferenced : LedgerOperation → Bool
  | .complete _ _ responseStatus reference _ => !isSuccess responseStatus || reference ≠ ""
  | .finalize _ request _ => !isSuccess request.effectiveStatus || request.responseReference ≠ ""
  | _ => true

def perform (database : Database) : LedgerOperation → Database
  | .begin request attempts now token =>
    database.withIdempotency (beginIdempotency database.idempotency request attempts now token).1
  | .renew request now token =>
    database.withIdempotency (renewIdempotencyLease database.idempotency request now token).1
  | .complete request now responseStatus reference leaseToken =>
    database.withIdempotency
      (completeIdempotency database.idempotency request now responseStatus reference leaseToken).1
  | .cleanup now => database.withIdempotency (cleanupExpiredRecords database.idempotency now).1
  | .finalize storage request now => (Eiraos.finalize storage database request now).1
  | .assertRecoveryAllowed storage executionId recordId leaseToken now =>
    (Eiraos.assertRecoveryAllowed storage database executionId recordId leaseToken now).1
  | .elsewhere other => { other with idempotency := database.idempotency }

def step (database : Database) (operation : LedgerOperation) : Option Database :=
  if operation.wellReferenced then some (operation.perform database) else none

end LedgerOperation

/-- A whole call of `begin_idempotency` that no other transaction comes between; each
attempt reads its own clock and draws its own token. -/
def beginCall (request : IdempotencyRequest) (readings : Nat → Instant × String) :
    Nat → IdempotencyTable → IdempotencyTable × BeginResult
  | 0, table => (table, .again)
  | remaining + 1, table =>
    let attempts := 2 - remaining
    match beginIdempotency table request attempts (readings attempts).1 (readings attempts).2 with
    | (after, .again) => beginCall request readings remaining after
    | ending => ending

/-! ## What a record can be -/

structure IdempotencyRecord.Sound (record : IdempotencyRecord) : Prop where
  leased : record.status = .processing → record.leaseUntil ≠ none
  referenced : record.status = .completed → record.hasReference = true

/-- The lease of the record has not ended. -/
def IdempotencyRecord.InProgress (record : IdempotencyRecord) (now : Instant) : Prop :=
  record.status = .processing ∧ ∃ lease ∈ record.leaseUntil, now ≤ lease

instance (record : IdempotencyRecord) (now : Instant) : Decidable (record.InProgress now) :=
  inferInstanceAs (Decidable (_ ∧ _))

structure IdempotencyTable.Sound (table : IdempotencyTable) : Prop where
  wellFormed : table.WellFormed
  records : ∀ record ∈ table.rows, record.Sound

namespace IdempotencyRecord

theorem Sound.lease (record : IdempotencyRecord) (now : Instant) (token : String) :
    (record.lease now token).Sound :=
  ⟨fun _ => by simp [IdempotencyRecord.lease], fun completed => by cases completed⟩

theorem Sound.restart (record : IdempotencyRecord) (now : Instant) (token : String) :
    (record.restart now token).Sound :=
  ⟨fun _ => by simp [IdempotencyRecord.restart, IdempotencyRecord.lease], fun completed => by cases completed⟩

theorem Sound.complete (record : IdempotencyRecord) {responseStatus : Nat} {reference : String}
    (referenced : isSuccess responseStatus = true → reference ≠ "") :
    (record.complete responseStatus reference).Sound := by
  by_cases success : 200 ≤ responseStatus ∧ responseStatus < 300
  · have present := referenced (by simp [isSuccess, success])
    exact ⟨fun processing => by simp [IdempotencyRecord.complete, success] at processing,
      fun _ => by simpa [IdempotencyRecord.complete, hasReference] using present⟩
  · exact ⟨fun processing => by simp [IdempotencyRecord.complete, success] at processing,
      fun completed => by simp [IdempotencyRecord.complete, success] at completed⟩

theorem Sound.exhausted (record : IdempotencyRecord) : record.exhausted.Sound :=
  ⟨nofun, nofun⟩

end IdempotencyRecord

namespace IdempotencyTable

variable {table : IdempotencyTable}

theorem Sound.update (sound : table.Sound) {old record : IdempotencyRecord} (present : old ∈ table.rows)
    (sameId : record.id = old.id) (sameIdentity : record.identity = old.identity)
    (recordSound : record.Sound) : (table.update record).Sound where
  wellFormed := sound.wellFormed.update present sameId sameIdentity
  records := Rows.forall_replace recordSound sound.records

theorem Sound.filter (sound : table.Sound) (condition : IdempotencyRecord → Bool) :
    Sound { table with rows := table.rows.filter condition } where
  wellFormed := sound.wellFormed.filter condition
  records := fun record member => sound.records record (List.mem_of_mem_filter member)

end IdempotencyTable

theorem beginIdempotency_sound {table : IdempotencyTable} (sound : table.Sound)
    (request : IdempotencyRequest) (attempts : Nat) (now : Instant) (token : String) :
    (beginIdempotency table request attempts now token).1.Sound := by
  have begun := beginIdempotency_begun table request attempts now token
  generalize beginIdempotency table request attempts now token = ending at begun
  cases begun with
  | inserted absent =>
    refine ⟨sound.wellFormed.insert absent rfl, fun record member => ?_⟩
    rcases List.mem_append.mp member with member | member
    · exact sound.records record member
    · rw [List.mem_singleton.mp member]
      exact ⟨fun _ => by simp [IdempotencyRequest.freshRecord], fun completed => by cases completed⟩
  | expired => exact sound.filter _
  | refused => exact sound
  | replayed => exact sound
  | restarted present => exact sound.update present rfl rfl (.restart _ now token)
  | reclaimed present => exact sound.update present rfl rfl (.lease _ now token)

theorem renewIdempotencyLease_sound {table : IdempotencyTable} (sound : table.Sound)
    (request : IdempotencyRequest) (now : Instant) (token : String) :
    (renewIdempotencyLease table request now token).1.Sound := by
  rcases renewIdempotencyLease_cases table request now token with
    unchanged | ⟨record, present, _, processing, _, renewed⟩
  · rw [unchanged]
    exact sound
  · rw [renewed]
    refine sound.update present rfl rfl ⟨fun _ => by simp, fun completed => ?_⟩
    rw [processing] at completed
    cases completed

theorem completeIdempotency_sound {table : IdempotencyTable} (sound : table.Sound)
    (request : IdempotencyRequest) (now : Instant) {responseStatus : Nat} {reference : String}
    (leaseToken : Option String) (referenced : isSuccess responseStatus = true → reference ≠ "") :
    (completeIdempotency table request now responseStatus reference leaseToken).1.Sound := by
  unfold completeIdempotency
  split
  next => exact sound
  next record found =>
    have closed : (table.update (record.complete responseStatus reference)).Sound :=
      sound.update (select?_some found).1 rfl rfl (.complete record referenced)
    -- Whatever decides the refusal, a refused completion writes nothing.
    have either : ∀ refused : Bool, (if refused = true then (table, false)
        else (table.update (record.complete responseStatus reference), true)).1.Sound := by
      intro refused
      cases refused with
      | true => exact sound
      | false => exact closed
    exact either _

theorem finalize_sound {database : Database} (sound : database.idempotency.Sound) (storage : Storage)
    (request : FinalizeRequest) (now : Instant)
    (referenced : isSuccess request.effectiveStatus = true → request.responseReference ≠ "") :
    (finalize storage database request now).1.idempotency.Sound := by
  have ended := finalize_ending storage database request now
  generalize finalize storage database request now = ending at ended
  cases ended with
  | unchanged => exact sound
  | finalized _ _ _ _ owner =>
    rcases owner with ⟨_, rfl⟩ | ⟨held, rfl, owner⟩
    · exact sound
    · exact sound.update owner.recordMem rfl rfl (.complete held referenced)

theorem assertRecoveryAllowed_sound {database : Database} (sound : database.idempotency.Sound)
    (storage : Storage) (executionId : String) (recordId : Nat) (leaseToken : Option String)
    (now : Instant) :
    (assertRecoveryAllowed storage database executionId recordId leaseToken now).1.idempotency.Sound := by
  have ended := assertRecoveryAllowed_ending storage database executionId recordId leaseToken now
  generalize assertRecoveryAllowed storage database executionId recordId leaseToken now = ending at ended
  cases ended with
  | unchanged => exact sound
  | @exhausted _ _ record _ _ owner =>
    exact sound.update owner.recordMem rfl rfl (IdempotencyRecord.Sound.exhausted record)

/-- Every operation leaves sound records. -/
theorem LedgerOperation.step_sound {database next : Database} {operation : LedgerOperation}
    (sound : database.idempotency.Sound) (stepped : step database operation = some next) :
    next.idempotency.Sound := by
  unfold step at stepped
  split at stepped
  next referenced =>
    cases stepped
    cases operation with
    | begin request attempts now token => exact beginIdempotency_sound sound request attempts now token
    | renew request now token => exact renewIdempotencyLease_sound sound request now token
    | complete request now responseStatus reference leaseToken =>
      refine completeIdempotency_sound sound request now leaseToken fun success => ?_
      simpa [wellReferenced, success] using referenced
    | cleanup now => exact sound.filter _
    | finalize storage request now =>
      refine finalize_sound sound storage request now fun success => ?_
      simpa [wellReferenced, success] using referenced
    | assertRecoveryAllowed storage executionId recordId leaseToken now =>
      exact assertRecoveryAllowed_sound sound storage executionId recordId leaseToken now
    | elsewhere other => exact sound
  · contradiction

/-! ## What `begin_idempotency` finds -/

/-- The record is a response that has not expired. -/
def IdempotencyRecord.Replayable (record : IdempotencyRecord) (now : Instant) : Prop :=
  record.status = .completed ∧ record.expiredAt now = false

instance (record : IdempotencyRecord) (now : Instant) : Decidable (record.Replayable now) :=
  inferInstanceAs (Decidable (_ ∧ _))

/-- The call hands the key to `token` at `now`: the row of the key is the one it returns, leased
until the end of the lease, and the rows of all other keys stay. -/
structure IssuesLease (table : IdempotencyTable) (request : IdempotencyRequest) (now : Instant)
    (token : String) (ending : IdempotencyTable × BeginResult) : Prop where
  leased : ∃ record isRecovery,
    ending.2 = .returned ⟨.processing, some token, some record.id, isRecovery⟩ ∧
      ending.1.select? request = some record ∧ record.status = .processing ∧
      record.leaseToken = some token ∧ record.leaseUntil = some (now + seconds LEASE_SECONDS)
  others : ∀ other : IdempotencyRecord, other.identity ≠ request.identity →
    (other ∈ ending.1.rows ↔ other ∈ table.rows)

section Leases

variable {table : IdempotencyTable} {request : IdempotencyRequest} {record : IdempotencyRecord}

theorem IssuesLease.inserted (absent : ∀ old ∈ table.rows, old.identity ≠ request.identity)
    (now : Instant) (token : String) :
    IssuesLease table request now token
      (⟨table.rows ++ [request.freshRecord table.nextId now token], table.nextId + 1⟩,
        .returned ⟨.processing, some token, some table.nextId, false⟩) where
  leased := by
    refine ⟨request.freshRecord table.nextId now token, false, rfl, ?_, rfl, rfl, rfl⟩
    have unfound : table.rows.find? (fun old => old.identity = request.identity) = none :=
      List.find?_eq_none.mpr fun old present => by simpa using absent old present
    simp only [select?, List.find?_append, unfound]
    simp [IdempotencyRequest.freshRecord, IdempotencyRecord.identity, IdempotencyRequest.identity]
  others := by
    intro other differs
    have fresh : other ≠ request.freshRecord table.nextId now token := by
      rintro rfl
      exact differs rfl
    simp [fresh]

/-- The row of the key is written back with a lease. -/
theorem IssuesLease.updated (wellFormed : table.WellFormed) (present : record ∈ table.rows)
    (same : record.identity = request.identity) {leased : IdempotencyRecord} {now : Instant}
    {token : String} (sameId : record.id = leased.id) (sameIdentity : leased.identity = request.identity)
    (processing : leased.status = .processing) (held : leased.leaseToken = some token)
    (ends : leased.leaseUntil = some (now + seconds LEASE_SECONDS)) :
    IssuesLease table request now token
      (table.update leased, .returned ⟨.processing, some token, some record.id, true⟩) where
  leased := by
    have selected := select?_update (wellFormed.select? present same) sameId sameIdentity
    exact ⟨leased, true, by rw [sameId], selected, processing, held, ends⟩
  others := by
    intro other differs
    have written : other ≠ leased := by
      rintro rfl
      exact differs sameIdentity
    have kept : other ∈ table.rows → other.id ≠ leased.id := by
      intro otherMem equal
      rw [wellFormed.ids.eq otherMem present (equal.trans sameId.symm)] at differs
      exact differs same
    constructor
    · intro otherMem
      rcases Rows.mem_replace.mp otherMem with ⟨equal, _⟩ | ⟨otherMem, _⟩
      · exact absurd equal written
      · exact otherMem
    · exact fun otherMem => Rows.mem_replace_of_ne otherMem (kept otherMem)

/-- A lease issued after the row of the key was deleted. -/
theorem IssuesLease.after_delete (wellFormed : table.WellFormed) (present : record ∈ table.rows)
    (same : record.identity = request.identity) {now : Instant} {token : String}
    {ending : IdempotencyTable × BeginResult}
    (issued : IssuesLease (table.delete record.id) request now token ending) :
    IssuesLease table request now token ending where
  leased := issued.leased
  others := by
    intro other differs
    rw [issued.others other differs]
    refine Rows.mem_delete.trans (and_iff_left_of_imp fun otherMem equal => ?_)
    rw [wellFormed.ids.eq otherMem present equal] at differs
    exact differs same

/-- With no row for the key, an attempt inserts one. -/
theorem beginIdempotency_absent (absent : ∀ record ∈ table.rows, record.identity ≠ request.identity)
    (attempts : Nat) (now : Instant) (token : String) :
    beginIdempotency table request attempts now token =
      (⟨table.rows ++ [request.freshRecord table.nextId now token], table.nextId + 1⟩,
        .returned ⟨.processing, some token, some table.nextId, false⟩) := by
  have inserted : table.insertOnConflictDoNothing (request.freshRecord table.nextId now token) =
      some ⟨table.rows ++ [request.freshRecord table.nextId now token], table.nextId + 1⟩ := by
    refine if_neg fun taken => ?_
    obtain ⟨old, oldMem, equal⟩ := List.any_eq_true.mp taken
    exact absent old oldMem (of_decide_eq_true equal)
  simp only [beginIdempotency, inserted]

/-- With a sound row of the same body, an attempt is refused for a lease that has not ended
only; it starts over once it has deleted an expired response. -/
theorem beginIdempotency_present (wellFormed : table.WellFormed) (present : record ∈ table.rows)
    (sound : record.Sound) (same : record.identity = request.identity)
    (digest : record.requestHash = request.digest) (attempts : Nat) (now : Instant) (token : String) :
    let ending := beginIdempotency table request attempts now token
    if record.InProgress now then
      ending = (table, .raised 409 "A request with this idempotency key is already in progress.")
    else if record.Replayable now then
      ending = (table, .returned ⟨.completed, none, some record.id, false⟩)
    else
      ending.2 ≠ .again ∧ IssuesLease table request now token ending ∨
        ending = (table.delete record.id,
          if 2 ≤ attempts then .raised 503 "Idempotency renewal failed after retries." else .again) := by
  have conflict : table.insertOnConflictDoNothing (request.freshRecord table.nextId now token) = none := by
    have taken : (table.rows.any fun old =>
        old.identity = (request.freshRecord table.nextId now token).identity) = true :=
      List.any_eq_true.mpr ⟨record, present, decide_eq_true same⟩
    rw [insertOnConflictDoNothing, if_pos taken]
  simp only [beginIdempotency, conflict, wellFormed.select? present same]
  cases status : record.status with
  | completed =>
    have idle : ¬record.InProgress now := fun progress => by simp [progress.1] at status
    have reference := sound.referenced status
    cases expired : record.expiredAt now with
    | true => simp [IdempotencyRecord.Replayable, status, expired, idle]
    | false => simp [IdempotencyRecord.Replayable, status, expired, idle, digest, reference]
  | failed =>
    have idle : ¬record.InProgress now := fun progress => by simp [progress.1] at status
    have issued : IssuesLease table request now token
        (table.update (record.restart now token), .returned ⟨.processing, some token, some record.id, true⟩) :=
      .updated wellFormed present same rfl same rfl rfl rfl
    simp [IdempotencyRecord.Replayable, status, idle, digest, issued]
  | processing =>
    obtain ⟨lease, leased⟩ := Option.ne_none_iff_exists'.mp (sound.leased status)
    by_cases lapsed : lease < now
    · have idle : ¬record.InProgress now := by
        rintro ⟨_, other, same, ahead⟩
        rw [leased] at same
        cases same
        exact absurd ahead (Nat.not_le.mpr lapsed)
      have issued : IssuesLease table request now token
          (table.update (record.lease now token), .returned ⟨.processing, some token, some record.id, true⟩) :=
        .updated wellFormed present same rfl same rfl rfl rfl
      simp [IdempotencyRecord.Replayable, status, idle, digest, IdempotencyRecord.leaseLapsed, leased,
        lapsed, issued]
    · have progress : record.InProgress now := ⟨status, lease, leased, Nat.not_lt.mp lapsed⟩
      simp [progress, digest, IdempotencyRecord.leaseLapsed, leased, lapsed]

end Leases

/-- A call ends with its first attempt that does not start over. -/
theorem beginCall_of_ended {request : IdempotencyRequest} {readings : Nat → Instant × String}
    {remaining : Nat} {table : IdempotencyTable}
    (final : (beginIdempotency table request (2 - remaining) (readings (2 - remaining)).1
      (readings (2 - remaining)).2).2 ≠ .again) :
    beginCall request readings (remaining + 1) table =
      beginIdempotency table request (2 - remaining) (readings (2 - remaining)).1
        (readings (2 - remaining)).2 := by
  simp only [beginCall]
  split
  next again =>
    rw [again] at final
    exact absurd rfl final
  next => rfl

theorem beginCall_of_again {request : IdempotencyRequest} {readings : Nat → Instant × String}
    {remaining : Nat} {table after : IdempotencyTable}
    (again : beginIdempotency table request (2 - remaining) (readings (2 - remaining)).1
      (readings (2 - remaining)).2 = (after, .again)) :
    beginCall request readings (remaining + 1) table = beginCall request readings remaining after := by
  simp only [beginCall, again]

/-- No key is wedged: with the body of its record, `begin_idempotency` is refused only while
the lease of a processing record has not ended.  A response that has not expired is replayed,
and otherwise a lease is issued: at the first attempt, or at the second once the first has
deleted an expired response. -/
theorem refused_only_in_progress {labels : List LedgerOperation} {database : Database}
    (ran : Transition.run LedgerOperation.step Database.empty labels = some database)
    {record : IdempotencyRecord} (present : record ∈ database.idempotency.rows)
    (request : IdempotencyRequest) (same : record.identity = request.identity)
    (digest : record.requestHash = request.digest) (readings : Nat → Instant × String) :
    let ending := beginCall request readings 3 database.idempotency
    if record.InProgress (readings 0).1 then
      ending = (database.idempotency,
        .raised 409 "A request with this idempotency key is already in progress.")
    else if record.Replayable (readings 0).1 then
      ending = (database.idempotency, .returned ⟨.completed, none, some record.id, false⟩)
    else
      ∃ attempt ≤ 1,
        IssuesLease database.idempotency request (readings attempt).1 (readings attempt).2 ending := by
  have sound : database.idempotency.Sound := by
    refine Transition.run_invariant (fun database => database.idempotency.Sound) ?_ ?_ ran
    · exact fun _ _ _ sound stepped => LedgerOperation.step_sound sound stepped
    · exact ⟨wellFormed_empty, nofun⟩
  intro ending
  have attempted := beginIdempotency_present sound.wellFormed present (sound.records record present) same
    digest 0 (readings 0).1 (readings 0).2
  dsimp only at attempted
  split at attempted
  · next progress =>
    rw [if_pos progress, ← attempted]
    exact beginCall_of_ended (by simp [attempted])
  split at attempted
  · next idle replayable =>
    rw [if_neg idle, if_pos replayable, ← attempted]
    exact beginCall_of_ended (by simp [attempted])
  · next idle unreplayable =>
    rw [if_neg idle, if_neg unreplayable]
    rcases attempted with ⟨final, issued⟩ | expired
    · have ended : ending = beginIdempotency database.idempotency request 0 (readings 0).1 (readings 0).2 :=
        beginCall_of_ended final
      refine ⟨0, Nat.zero_le 1, ?_⟩
      rwa [ended]
    · -- The expired response is gone, and the second attempt finds the key free.
      have absent : ∀ other ∈ (database.idempotency.delete record.id).rows,
          other.identity ≠ request.identity := by
        intro other otherMem equal
        obtain ⟨otherMem, differs⟩ := Rows.mem_delete.mp otherMem
        exact differs
          (congrArg _ (sound.wellFormed.identities.eq otherMem present (equal.trans same.symm)))
      have inserted := beginIdempotency_absent absent 1 (readings 1).1 (readings 1).2
      have ended : ending = beginIdempotency (database.idempotency.delete record.id) request 1
          (readings 1).1 (readings 1).2 :=
        (beginCall_of_again expired).trans (beginCall_of_ended (by simp [inserted]))
      refine ⟨1, le_rfl, ?_⟩
      rw [ended, inserted]
      exact (IssuesLease.inserted absent _ _).after_delete sound.wellFormed present same

/-- Refused five microseconds after a lease was granted, and leased anew once it has ended. -/
theorem refused_only_in_progress_leased :
    ∃ database, Transition.run LedgerOperation.step Database.empty [.begin ⟨1, 2, "key", "digest"⟩ 0 0 "a"] =
        some database ∧
      beginCall ⟨1, 2, "key", "digest"⟩ (fun _ => (5, "b")) 3 database.idempotency =
        (database.idempotency, .raised 409 "A request with this idempotency key is already in progress.") ∧
      IssuesLease database.idempotency ⟨1, 2, "key", "digest"⟩ (seconds 121) "b"
        (beginCall ⟨1, 2, "key", "digest"⟩ (fun _ => (seconds 121, "b")) 3 database.idempotency) := by
  have ended := @refused_only_in_progress [.begin ⟨1, 2, "key", "digest"⟩ 0 0 "a"] _ rfl
    ((IdempotencyRequest.mk 1 2 "key" "digest").freshRecord 0 0 "a") (by decide)
    ⟨1, 2, "key", "digest"⟩ rfl rfl
  refine ⟨_, rfl, ?_, ?_⟩
  · have refused := ended fun _ => (5, "b")
    rwa [if_pos (by decide)] at refused
  · have issued := ended fun _ => (seconds 121, "b")
    rw [if_neg (by decide), if_neg (by decide)] at issued
    exact issued.elim fun _ atMost => atMost.2

end Eiraos
