import Eiraos.Core.Idempotency

/-! # What one transaction of the idempotency ledger can do

`Begun` lists the endings of `beginIdempotency` with everything its branch checked; the
other operations either leave the table alone or update the one row they selected.
`WellFormed` is the unique constraints and the id sequence, kept by all of them.
-/

namespace Eiraos

open IdempotencyTable

/-- The unique constraints of `idempotency_records` and its id sequence. -/
structure IdempotencyTable.WellFormed (table : IdempotencyTable) : Prop where
  ids : Rows.Unique IdempotencyRecord.id table.rows
  identities : Rows.Unique IdempotencyRecord.identity table.rows
  bounded : ∀ record ∈ table.rows, record.id < table.nextId

/-- The endings of one attempt of `begin_idempotency`. -/
inductive Begun (table : IdempotencyTable) (request : IdempotencyRequest) (now : Instant)
    (token : String) : IdempotencyTable × BeginResult → Prop where
  | inserted
      (absent : ∀ record ∈ table.rows, record.identity ≠ request.identity) :
      Begun table request now token
        (⟨table.rows ++ [request.freshRecord table.nextId now token], table.nextId + 1⟩,
          .returned ⟨.processing, some token, some table.nextId, false⟩)
  | expired {existing : IdempotencyRecord} {result : BeginResult}
      (present : existing ∈ table.rows) (same : existing.identity = request.identity)
      (completed : existing.status = .completed) (lapsed : existing.expiredAt now = true)
      (unreturned : ∀ outcome, result ≠ .returned outcome) :
      Begun table request now token (table.delete existing.id, result)
  | refused {result : BeginResult} (unreturned : ∀ outcome, result ≠ .returned outcome) :
      Begun table request now token (table, result)
  | replayed {existing : IdempotencyRecord}
      (present : existing ∈ table.rows) (same : existing.identity = request.identity)
      (digest : existing.requestHash = request.digest)
      (completed : existing.status = .completed) (reference : existing.hasReference = true) :
      Begun table request now token
        (table, .returned ⟨.completed, none, some existing.id, false⟩)
  | restarted {existing : IdempotencyRecord}
      (present : existing ∈ table.rows) (same : existing.identity = request.identity)
      (digest : existing.requestHash = request.digest) (failed : existing.status = .failed) :
      Begun table request now token
        (table.update (existing.restart now token),
          .returned ⟨.processing, some token, some existing.id, true⟩)
  | reclaimed {existing : IdempotencyRecord}
      (present : existing ∈ table.rows) (same : existing.identity = request.identity)
      (digest : existing.requestHash = request.digest)
      (unreplayable : ¬(existing.status = .completed ∧ existing.hasReference = true))
      (unfailed : existing.status ≠ .failed) (lapsed : existing.leaseLapsed now = true) :
      Begun table request now token
        (table.update (existing.lease now token),
          .returned ⟨.processing, some token, some existing.id, true⟩)

theorem IdempotencyTable.select?_some {table : IdempotencyTable} {request : IdempotencyRequest}
    {record : IdempotencyRecord} (found : table.select? request = some record) :
    record ∈ table.rows ∧ record.identity = request.identity :=
  ⟨List.mem_of_find?_eq_some found, by simpa using List.find?_some found⟩

theorem IdempotencyTable.selectById?_some {table : IdempotencyTable} {id : Nat}
    {record : IdempotencyRecord} (found : table.selectById? id = some record) :
    record ∈ table.rows ∧ record.id = id :=
  ⟨List.mem_of_find?_eq_some found, by simpa using List.find?_some found⟩

theorem insertOnConflictDoNothing_some {table inserted : IdempotencyTable}
    {record : IdempotencyRecord} (done : table.insertOnConflictDoNothing record = some inserted) :
    (∀ old ∈ table.rows, old.identity ≠ record.identity) ∧
      inserted = ⟨table.rows ++ [record], table.nextId + 1⟩ := by
  unfold insertOnConflictDoNothing at done
  split at done
  · contradiction
  next unconflicted =>
    refine ⟨fun old present same => unconflicted ?_, by simpa using done.symm⟩
    exact List.any_eq_true.mpr ⟨old, present, by simpa using same⟩

theorem beginIdempotency_begun (table : IdempotencyTable) (request : IdempotencyRequest)
    (attempts : Nat) (now : Instant) (token : String) :
    Begun table request now token (beginIdempotency table request attempts now token) := by
  unfold beginIdempotency
  split
  next inserted done =>
    obtain ⟨absent, rfl⟩ := insertOnConflictDoNothing_some done
    exact .inserted absent
  next =>
    split
    next => exact .refused (by split <;> simp)
    next existing found =>
      obtain ⟨present, same⟩ := select?_some found
      split
      next lapsed => exact .expired present same lapsed.1 lapsed.2 (by split <;> simp)
      split
      next => exact .refused (by simp)
      next digest =>
        have digestEqual : existing.requestHash = request.digest := by simpa using digest
        split
        next replayable => exact .replayed present same digestEqual replayable.1 replayable.2
        next unreplayable =>
          split
          next failed => exact .restarted present same digestEqual failed
          next unfailed =>
            split
            next lapsed => exact .reclaimed present same digestEqual unreplayable unfailed lapsed
            next => exact .refused (by simp)

/-- A renewal either does nothing or extends the lease of the row that holds the token. -/
theorem renewIdempotencyLease_cases (table : IdempotencyTable) (request : IdempotencyRequest)
    (now : Instant) (token : String) :
    renewIdempotencyLease table request now token = (table, false) ∨
      ∃ record ∈ table.rows, record.identity = request.identity ∧ record.status = .processing ∧
        record.leaseToken = some token ∧
        renewIdempotencyLease table request now token =
          (table.update { record with leaseUntil := some (now + seconds LEASE_SECONDS) }, true) := by
  unfold renewIdempotencyLease
  split
  next => exact .inl rfl
  next record found =>
    obtain ⟨present, same⟩ := select?_some found
    split
    next owned => exact .inr ⟨record, present, same, owned.1, owned.2, rfl⟩
    next => exact .inl rfl

/-- A completion by a token either does nothing or closes the row that holds the token, or
a row that holds none. -/
theorem completeIdempotency_cases (table : IdempotencyTable) (request : IdempotencyRequest)
    (now : Instant) (responseStatus : Nat) (reference : String) (token : String) :
    completeIdempotency table request now responseStatus reference (some token) = (table, false) ∨
      ∃ record ∈ table.rows, record.identity = request.identity ∧
        (record.leaseToken = none ∨ record.leaseToken = some token) ∧
        record.leaseLapsed now = false ∧
        completeIdempotency table request now responseStatus reference (some token) =
          (table.update (record.complete responseStatus reference), true) := by
  unfold completeIdempotency
  split
  next => exact .inl rfl
  next record found =>
    obtain ⟨present, same⟩ := select?_some found
    dsimp only
    split
    next => exact .inl rfl
    next accepted =>
      simp only [decide_eq_true_eq, not_or, not_and, not_not, Bool.not_eq_true] at accepted
      refine .inr ⟨record, present, same, ?_, accepted.2, rfl⟩
      by_cases unowned : record.leaseToken = none
      · exact .inl unowned
      · exact .inr (accepted.1 unowned)

namespace IdempotencyTable

variable {table : IdempotencyTable}

/-- Writing back a row that keeps its id and its unique columns. -/
theorem WellFormed.update (wellFormed : table.WellFormed) {old record : IdempotencyRecord}
    (present : old ∈ table.rows) (sameId : record.id = old.id)
    (sameIdentity : record.identity = old.identity) : (table.update record).WellFormed where
  ids := wellFormed.ids.replace fun _ _ same => same
  identities := wellFormed.identities.replace fun other otherMem same => by
    rw [wellFormed.ids.eq otherMem present (same.trans sameId), sameIdentity]
  bounded := by
    intro member memberMem
    rcases Rows.mem_replace.mp memberMem with ⟨rfl, _⟩ | ⟨memberMem, _⟩
    · rw [sameId]
      exact wellFormed.bounded old present
    · exact wellFormed.bounded member memberMem

theorem WellFormed.insert (wellFormed : table.WellFormed) {record : IdempotencyRecord}
    (fresh : ∀ old ∈ table.rows, old.identity ≠ record.identity) (id : record.id = table.nextId) :
    WellFormed ⟨table.rows ++ [record], table.nextId + 1⟩ where
  ids := wellFormed.ids.append fun old present same => by
    have := wellFormed.bounded old present
    omega
  identities := wellFormed.identities.append fresh
  bounded := by
    intro member memberMem
    rcases List.mem_append.mp memberMem with memberMem | memberMem
    · exact Nat.lt_succ_of_lt (wellFormed.bounded member memberMem)
    · rw [List.mem_singleton.mp memberMem, id]
      exact Nat.lt_succ_self _

theorem WellFormed.filter (wellFormed : table.WellFormed) (condition : IdempotencyRecord → Bool) :
    WellFormed { table with rows := table.rows.filter condition } where
  ids := wellFormed.ids.filter condition
  identities := wellFormed.identities.filter condition
  bounded := fun member memberMem => wellFormed.bounded member (List.mem_of_mem_filter memberMem)

theorem wellFormed_empty : WellFormed ⟨[], 0⟩ where
  ids := List.nodup_nil
  identities := List.nodup_nil
  bounded := fun _ member => by cases member

end IdempotencyTable

/-- The unique columns make the row of a request the one that is selected. -/
theorem IdempotencyTable.WellFormed.select? {table : IdempotencyTable} (wellFormed : table.WellFormed)
    {request : IdempotencyRequest} {record : IdempotencyRecord} (present : record ∈ table.rows)
    (same : record.identity = request.identity) : table.select? request = some record := by
  unfold IdempotencyTable.select?
  rw [← same]
  exact wellFormed.identities.find?_eq_some present

/-- The row that is written back is selected in its place. -/
theorem IdempotencyTable.select?_update {table : IdempotencyTable} {request : IdempotencyRequest}
    {old record : IdempotencyRecord} (found : table.select? request = some old)
    (sameId : old.id = record.id) (sameIdentity : record.identity = request.identity) :
    (table.update record).select? request = some record :=
  Rows.find?_replace found sameId (by simpa using sameIdentity)

theorem readCachedResponse_of_completed {table : IdempotencyTable} {request : IdempotencyRequest}
    {record : IdempotencyRecord} (found : table.select? request = some record)
    (completed : record.status = .completed) :
    readCachedResponse table request = record.responseReference := by
  have present : table.rows.find? (fun record =>
      record.identity = request.identity ∧ record.status = .completed) = some record := by
    unfold IdempotencyTable.select? at found
    generalize table.rows = rows at found ⊢
    induction rows with
    | nil => cases found
    | cons head tail inductionHypothesis =>
      by_cases same : head.identity = request.identity
      · rw [List.find?_cons_of_pos (by simpa using same)] at found
        cases found
        rw [List.find?_cons_of_pos (by simp [same, completed])]
      · rw [List.find?_cons_of_neg (by simpa using same)] at found
        rw [List.find?_cons_of_neg (by simp [same])]
        exact inductionHypothesis found
  rw [readCachedResponse, present]

theorem beginIdempotency_wellFormed {table : IdempotencyTable} (wellFormed : table.WellFormed)
    (request : IdempotencyRequest) (attempts : Nat) (now : Instant) (token : String) :
    (beginIdempotency table request attempts now token).1.WellFormed := by
  have begun := beginIdempotency_begun table request attempts now token
  generalize beginIdempotency table request attempts now token = ending at begun
  cases begun with
  | inserted absent => exact wellFormed.insert absent rfl
  | expired => exact wellFormed.filter _
  | refused => exact wellFormed
  | replayed => exact wellFormed
  | restarted present => exact wellFormed.update present rfl rfl
  | reclaimed present => exact wellFormed.update present rfl rfl

end Eiraos
