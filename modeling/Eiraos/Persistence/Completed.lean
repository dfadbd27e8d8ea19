import Eiraos.Persistence.Requests

/-! # A completed execution is final

`RequestInvariant` couples the two ledgers: an execution with status `completed` whose
record still exists has a completed record with a reference, closed under the token of a
request that is past its preflight.  No recovery finds such a record processing, no retry
finds it failed, and nobody else holds its token; so no transaction rewrites either row.
-/

namespace Eiraos

open IdempotencyTable RequestState

/-- A record closed by the success of a request that is past its preflight. -/
structure Closed (requests : List LeasedRequest) (record : IdempotencyRecord) : Prop where
  completed : record.status = .completed
  reference : record.hasReference = true
  engaged : ∀ holder ∈ requests, record.leaseToken = some holder.token → holder.engaged = true

/-- Every row carries the token of a request that was handed this row. -/
def Held (requests : List LeasedRequest) (table : IdempotencyTable) : Prop :=
  ∀ record ∈ table.rows, ∃ holder ∈ requests,
    record.leaseToken = some holder.token ∧ holder.recordId = record.id

structure RequestInvariant (database : Database) (requests : List LeasedRequest) : Prop where
  wellFormed : database.idempotency.WellFormed
  ledger : ∃ history, LedgerInvariant database history
  recordIds : ∀ first ∈ database.executions, ∀ second ∈ database.executions, ∀ recordId,
    first.idempotencyRecordId = some recordId → second.idempotencyRecordId = some recordId →
      first = second
  tokens : Rows.Unique LeasedRequest.token requests
  held : Held requests database.idempotency
  closed : ∀ execution ∈ database.executions, execution.status = .terminal .completed →
    ∀ recordId, execution.idempotencyRecordId = some recordId →
      ∃ record ∈ database.idempotency.rows, record.id = recordId ∧ Closed requests record

/-! ## Transactions of the idempotency ledger -/

/-- What the operations of the idempotency ledger do, as far as closed rows are concerned. -/
structure LedgerChange (requests requests' : List LeasedRequest) (table table' : IdempotencyTable) :
    Prop where
  wellFormed : table'.WellFormed
  tokens : Rows.Unique LeasedRequest.token requests'
  held : Held requests' table'
  kept : ∀ holder ∈ requests, holder ∈ requests'
  fresh : ∀ holder ∈ requests', holder ∈ requests ∨ ∀ old ∈ requests, old.token ≠ holder.token
  sequence : table.nextId ≤ table'.nextId
  origin : ∀ after ∈ table'.rows, after.id < table.nextId → ∃ record ∈ table.rows, record.id = after.id
  untouched : ∀ record ∈ table.rows, Closed requests record → ∀ after ∈ table'.rows,
    after.id = record.id → after = record
  carried : ∀ after ∈ table'.rows, (∃ record ∈ table.rows, record.leaseToken = after.leaseToken) ∨
    ∀ old ∈ requests, after.leaseToken ≠ some old.token

section LedgerChange

variable {requests : List LeasedRequest} {table : IdempotencyTable}

/-- A row after an update has the id of a row before it. -/
theorem origin_update {old record after : IdempotencyRecord} (present : old ∈ table.rows)
    (sameId : record.id = old.id) (member : after ∈ (table.update record).rows) :
    ∃ before ∈ table.rows, before.id = after.id := by
  rcases Rows.mem_replace.mp member with ⟨rfl, _⟩ | ⟨member, _⟩
  · exact ⟨old, present, sameId.symm⟩
  · exact ⟨after, member, rfl⟩

/-- An update leaves every row but the one it is made to. -/
theorem untouched_update {old record other after : IdempotencyRecord} (wellFormed : table.WellFormed)
    (present : old ∈ table.rows) (sameId : record.id = old.id) (otherMem : other ∈ table.rows)
    (differs : other ≠ old) (member : after ∈ (table.update record).rows) (same : after.id = other.id) :
    after = other := by
  rcases Rows.mem_replace.mp member with ⟨rfl, _⟩ | ⟨member, _⟩
  · exact absurd (wellFormed.ids.eq otherMem present (same.symm.trans sameId)) differs
  · exact wellFormed.ids.eq member otherMem same

/-- A row is rewritten for its holder, who is not past its preflight or finds it open. -/
theorem LedgerChange.update (wellFormed : table.WellFormed)
    (tokens : Rows.Unique LeasedRequest.token requests) (held : Held requests table)
    {old record : IdempotencyRecord} (present : old ∈ table.rows) (sameId : record.id = old.id)
    (sameIdentity : record.identity = old.identity) (sameToken : record.leaseToken = old.leaseToken)
    (unclosed : ¬Closed requests old) :
    LedgerChange requests requests table (table.update record) where
  wellFormed := wellFormed.update present sameId sameIdentity
  tokens := tokens
  held := by
    intro other otherMem
    rcases Rows.mem_replace.mp otherMem with ⟨rfl, _⟩ | ⟨otherMem, _⟩
    · rw [sameToken, sameId]
      exact held old present
    · exact held other otherMem
  kept := fun _ member => member
  fresh := fun _ member => .inl member
  sequence := Nat.le_refl _
  origin := fun _ member _ => origin_update present sameId member
  untouched := by
    intro closedRecord closedMem closed after member same
    refine untouched_update wellFormed present sameId closedMem ?_ member same
    rintro rfl
    exact unclosed closed
  carried := by
    intro after member
    rcases Rows.mem_replace.mp member with ⟨rfl, _⟩ | ⟨member, _⟩
    · exact .inl ⟨old, present, sameToken.symm⟩
    · exact .inl ⟨after, member, rfl⟩

theorem LedgerChange.refl (wellFormed : table.WellFormed)
    (tokens : Rows.Unique LeasedRequest.token requests) (held : Held requests table) :
    LedgerChange requests requests table table where
  wellFormed := wellFormed
  tokens := tokens
  held := held
  kept := fun _ member => member
  fresh := fun _ member => .inl member
  sequence := Nat.le_refl _
  origin := fun after member _ => ⟨after, member, rfl⟩
  untouched := fun _ recordMem _ _ member same => wellFormed.ids.eq member recordMem same
  carried := fun after member => .inl ⟨after, member, rfl⟩

theorem LedgerChange.filter (wellFormed : table.WellFormed)
    (tokens : Rows.Unique LeasedRequest.token requests) (held : Held requests table)
    (condition : IdempotencyRecord → Bool) :
    LedgerChange requests requests table { table with rows := table.rows.filter condition } where
  wellFormed := wellFormed.filter condition
  tokens := tokens
  held := fun record member => held record (List.mem_of_mem_filter member)
  kept := fun _ member => member
  fresh := fun _ member => .inl member
  sequence := Nat.le_refl _
  origin := fun after member _ => ⟨after, List.mem_of_mem_filter member, rfl⟩
  untouched := fun _ recordMem _ _ member same =>
    wellFormed.ids.eq (List.mem_of_mem_filter member) recordMem same
  carried := fun after member => .inl ⟨after, List.mem_of_mem_filter member, rfl⟩

/-- A row changes hands: it was not closed, and the new holder's token is fresh. -/
theorem LedgerChange.reissue (wellFormed : table.WellFormed)
    (tokens : Rows.Unique LeasedRequest.token requests) (held : Held requests table)
    {old record : IdempotencyRecord} {holder : LeasedRequest} (present : old ∈ table.rows)
    (sameId : record.id = old.id) (sameIdentity : record.identity = old.identity)
    (leased : record.leaseToken = some holder.token) (recordId : holder.recordId = old.id)
    (unissued : ∀ other ∈ requests, other.token ≠ holder.token)
    (unclosed : ¬(old.status = .completed ∧ old.hasReference = true)) :
    LedgerChange requests (requests ++ [holder]) table (table.update record) where
  wellFormed := wellFormed.update present sameId sameIdentity
  tokens := tokens.append unissued
  held := by
    intro other otherMem
    rcases Rows.mem_replace.mp otherMem with ⟨rfl, _⟩ | ⟨otherMem, _⟩
    · exact ⟨holder, List.mem_append_right _ (List.mem_singleton_self _), leased,
        recordId.trans sameId.symm⟩
    · obtain ⟨holder, member, carried⟩ := held other otherMem
      exact ⟨holder, List.mem_append_left _ member, carried⟩
  kept := fun _ member => List.mem_append_left _ member
  fresh := by
    intro other otherMem
    rcases List.mem_append.mp otherMem with otherMem | otherMem
    · exact .inl otherMem
    · rw [List.mem_singleton.mp otherMem]
      exact .inr unissued
  sequence := Nat.le_refl _
  origin := fun _ member _ => origin_update present sameId member
  untouched := by
    intro closedRecord closedMem closed after member same
    refine untouched_update wellFormed present sameId closedMem ?_ member same
    rintro rfl
    exact unclosed ⟨closed.completed, closed.reference⟩
  carried := by
    intro after member
    rcases Rows.mem_replace.mp member with ⟨rfl, _⟩ | ⟨member, _⟩
    · rw [leased]
      exact .inr fun other otherMem same => unissued other otherMem (Option.some.inj same).symm
    · exact .inl ⟨after, member, rfl⟩

theorem begin_change (wellFormed : table.WellFormed)
    (tokens : Rows.Unique LeasedRequest.token requests) (held : Held requests table)
    (request : IdempotencyRequest) (attempts : Nat) (now : Instant) (token : String)
    (unissued : ∀ old ∈ requests, old.token ≠ token) :
    LedgerChange requests
      (requests ++ leased request (beginIdempotency table request attempts now token).2)
      table (beginIdempotency table request attempts now token).1 := by
  have silent : ∀ result : BeginResult, (∀ outcome, result ≠ .returned outcome) →
      leased request result = [] := by
    intro result unreturned
    cases result with
    | returned outcome => exact absurd rfl (unreturned outcome)
    | again => rfl
    | raised => rfl
  have begun := beginIdempotency_begun table request attempts now token
  generalize beginIdempotency table request attempts now token = ending at begun
  cases begun with
  | inserted absent =>
    refine ⟨wellFormed.insert absent rfl, tokens.append unissued, ?_,
      fun _ member => List.mem_append_left _ member, ?_, Nat.le_succ _, ?_, ?_, ?_⟩
    · intro record member
      rcases List.mem_append.mp member with member | member
      · obtain ⟨holder, holderMem, carried⟩ := held record member
        exact ⟨holder, List.mem_append_left _ holderMem, carried⟩
      · rw [List.mem_singleton.mp member]
        exact ⟨_, List.mem_append_right _ (List.mem_singleton_self _), rfl, rfl⟩
    · intro holder member
      rcases List.mem_append.mp member with member | member
      · exact .inl member
      · rw [List.mem_singleton.mp member]
        exact .inr unissued
    -- The inserted row has the next id, and no row before it has that.
    · intro after member older
      rcases List.mem_append.mp member with member | member
      · exact ⟨after, member, rfl⟩
      · rw [List.mem_singleton.mp member] at older
        exact absurd older (Nat.lt_irrefl _)
    · intro record recordMem _ after member same
      rcases List.mem_append.mp member with member | member
      · exact wellFormed.ids.eq member recordMem same
      · rw [List.mem_singleton.mp member] at same
        exact absurd same.symm (Nat.ne_of_lt (wellFormed.bounded record recordMem))
    · intro after member
      rcases List.mem_append.mp member with member | member
      · exact .inl ⟨after, member, rfl⟩
      · rw [List.mem_singleton.mp member]
        exact .inr fun other otherMem same => unissued other otherMem (Option.some.inj same).symm
  | expired _ _ _ _ unreturned =>
    rw [silent _ unreturned, List.append_nil]
    exact .filter wellFormed tokens held _
  | refused unreturned =>
    rw [silent _ unreturned, List.append_nil]
    exact .refl wellFormed tokens held
  | replayed =>
    simp only [leased, List.append_nil]
    exact .refl wellFormed tokens held
  | restarted present _ _ failed =>
    exact .reissue wellFormed tokens held present rfl rfl rfl rfl unissued fun closed => by
      rw [failed] at closed
      exact absurd closed.1 (by decide)
  | reclaimed present _ _ unreplayable =>
    exact .reissue wellFormed tokens held present rfl rfl rfl rfl unissued unreplayable

theorem renew_change (wellFormed : table.WellFormed)
    (tokens : Rows.Unique LeasedRequest.token requests) (held : Held requests table)
    (request : IdempotencyRequest) (now : Instant) (token : String) :
    LedgerChange requests requests table (renewIdempotencyLease table request now token).1 := by
  rcases renewIdempotencyLease_cases table request now token with
    unchanged | ⟨record, present, _, processing, _, renewed⟩
  · rw [unchanged]
    exact .refl wellFormed tokens held
  · rw [renewed]
    refine .update wellFormed tokens held present rfl rfl rfl fun closed => ?_
    rw [closed.completed] at processing
    contradiction

/-- The preflight failure of a request that is not past its preflight closes only a row it
holds itself, which is no row of a completed execution. -/
theorem complete_change (wellFormed : table.WellFormed)
    (tokens : Rows.Unique LeasedRequest.token requests) (held : Held requests table)
    {caller : LeasedRequest} (member : caller ∈ requests) (preflight : caller.engaged = false)
    (request : IdempotencyRequest) (now : Instant) (responseStatus : Nat) (reference : String) :
    LedgerChange requests requests table
      (completeIdempotency table request now responseStatus reference (some caller.token)).1 := by
  rcases completeIdempotency_cases table request now responseStatus reference caller.token with
    unchanged | ⟨record, present, _, owned, _, completed⟩
  · rw [unchanged]
    exact .refl wellFormed tokens held
  · rw [completed]
    refine .update wellFormed tokens held present rfl rfl rfl fun closed => ?_
    obtain ⟨holder, _, carried, _⟩ := held record present
    rcases owned with unowned | owned
    · rw [carried] at unowned
      contradiction
    · have engaged := closed.engaged caller member owned
      rw [preflight] at engaged
      contradiction

end LedgerChange

section Invariant

variable {database : Database} {requests : List LeasedRequest}

/-- A closed row stays closed for the requests that join. -/
theorem Closed.join {requests' : List LeasedRequest} {table table' : IdempotencyTable}
    {record : IdempotencyRecord} (closed : Closed requests record) (held : Held requests table)
    (present : record ∈ table.rows) (change : LedgerChange requests requests' table table') :
    Closed requests' record where
  completed := closed.completed
  reference := closed.reference
  engaged := by
    intro holder member carried
    rcases change.fresh holder member with old | unissued
    · exact closed.engaged holder old carried
    · obtain ⟨owner, ownerMem, owned, _⟩ := held record present
      exact absurd (Option.some.inj (owned.symm.trans carried)) (unissued owner ownerMem)

theorem mem_withIdempotency {table : IdempotencyTable} {after : ChatExecution}
    (member : after ∈ (database.withIdempotency table).executions) :
    ∃ execution ∈ database.executions, ∃ recordId, after = { execution with
        idempotencyRecordId := recordId } ∧
      ∀ id, recordId = some id → execution.idempotencyRecordId = some id ∧
        ∃ record ∈ table.rows, record.id = id := by
  obtain ⟨execution, executionMem, rfl⟩ := List.mem_map.mp member
  refine ⟨execution, executionMem, _, rfl, fun id kept => ?_⟩
  obtain ⟨bound, present⟩ := Option.filter_eq_some_iff.mp kept
  exact ⟨bound, by simpa using present⟩

theorem RequestInvariant.ledgerChange {requests' : List LeasedRequest} {table : IdempotencyTable}
    (invariant : RequestInvariant database requests)
    (change : LedgerChange requests requests' database.idempotency table) :
    RequestInvariant (database.withIdempotency table) requests' where
  wellFormed := change.wellFormed
  ledger := by
    obtain ⟨history, ledger⟩ := invariant.ledger
    exact ⟨history, ledger.withIdempotency table⟩
  recordIds := by
    intro first firstMem second secondMem recordId firstBound secondBound
    obtain ⟨execution, executionMem, firstId, rfl, firstKept⟩ := mem_withIdempotency firstMem
    obtain ⟨other, otherMem, secondId, rfl, secondKept⟩ := mem_withIdempotency secondMem
    have firstBound : firstId = some recordId := firstBound
    have secondBound : secondId = some recordId := secondBound
    rw [invariant.recordIds execution executionMem other otherMem recordId
      (firstKept recordId firstBound).1 (secondKept recordId secondBound).1, firstBound, secondBound]
  tokens := change.tokens
  held := change.held
  closed := by
    intro after afterMem completed recordId bound
    obtain ⟨execution, executionMem, kept, rfl, present⟩ := mem_withIdempotency afterMem
    obtain ⟨formerly, row, rowMem, rowId⟩ := present recordId bound
    obtain ⟨record, recordMem, sameId, closed⟩ :=
      invariant.closed execution executionMem completed recordId formerly
    have unchanged := change.untouched record recordMem closed row rowMem (rowId.trans sameId.symm)
    exact ⟨row, rowMem, rowId, unchanged ▸ closed.join invariant.held recordMem change⟩

/-! ## Calls of the contract -/

/-- The row an execution's lease owner works on is not the row of a completed execution. -/
theorem RequestInvariant.owner_uncompleted {execution : ChatExecution} {leaseToken : Option String}
    {now : Instant} {record : IdempotencyRecord} (invariant : RequestInvariant database requests)
    (executionMem : execution ∈ database.executions)
    (owner : LeaseOwner database execution leaseToken now record) :
    execution.status ≠ .terminal .completed := by
  intro completed
  obtain ⟨closedRecord, closedMem, sameId, closed⟩ :=
    invariant.closed execution executionMem completed record.id owner.bound
  have processing := owner.processing
  rw [← invariant.wellFormed.ids.eq closedMem owner.recordMem sameId, closed.completed] at processing
  contradiction

/-- Whoever may rewrite an execution finds it uncompleted. -/
theorem RequestInvariant.entitled_uncompleted {execution : ChatExecution} {leaseToken : Option String}
    {now : Instant} (invariant : RequestInvariant database requests)
    (executionMem : execution ∈ database.executions)
    (entitled : execution.status.isTerminal = false ∨
      ∃ record, LeaseOwner database execution leaseToken now record) :
    execution.status ≠ .terminal .completed := by
  rcases entitled with running | ⟨record, owner⟩
  · intro completed
    rw [completed] at running
    contradiction
  · exact invariant.owner_uncompleted executionMem owner

/-- A request may be marked as being past its preflight, and nothing else of it is looked at. -/
theorem RequestInvariant.mark {caller marked : LeasedRequest} (invariant : RequestInvariant database requests)
    (member : caller ∈ requests) (sameToken : marked.token = caller.token)
    (sameRecord : marked.recordId = caller.recordId)
    (engages : caller.engaged = true → marked.engaged = true) :
    RequestInvariant database (Rows.replace LeasedRequest.token marked requests) where
  wellFormed := invariant.wellFormed
  ledger := invariant.ledger
  recordIds := invariant.recordIds
  tokens := invariant.tokens.replace fun _ _ same => same
  held := by
    intro record recordMem
    obtain ⟨holder, holderMem, carried, handed⟩ := invariant.held record recordMem
    by_cases isCaller : holder.token = marked.token
    · have : holder = caller := invariant.tokens.eq holderMem member (isCaller.trans sameToken)
      refine ⟨marked, Rows.mem_replace_self member sameToken.symm, by rw [carried, isCaller], ?_⟩
      rw [sameRecord, ← this]
      exact handed
    · exact ⟨holder, Rows.mem_replace_of_ne holderMem isCaller, carried, handed⟩
  closed := by
    intro execution executionMem completed recordId bound
    obtain ⟨record, recordMem, sameId, closed⟩ :=
      invariant.closed execution executionMem completed recordId bound
    refine ⟨record, recordMem, sameId, closed.completed, closed.reference, fun holder holderMem carried => ?_⟩
    rcases Rows.mem_replace.mp holderMem with ⟨rfl, _⟩ | ⟨holderMem, _⟩
    · exact engages (closed.engaged caller member (by rw [carried, sameToken]))
    · exact closed.engaged holder holderMem carried

/-- A fresh execution is not completed, and no other one has its record. -/
theorem RequestInvariant.insert {request : ExchangeRequest} {decisions : List GovernanceDecisionRecord}
    (invariant : RequestInvariant database requests) (admitted : database.admits request = true)
    (ledger : ∃ history, LedgerInvariant { database.inserted request with decisions } history) :
    RequestInvariant { database.inserted request with decisions } requests where
  wellFormed := invariant.wellFormed
  ledger := ledger
  recordIds := by
    have unbound : ∀ execution ∈ database.executions, ∀ recordId,
        execution.idempotencyRecordId = some recordId → request.idempotencyRecordId ≠ some recordId := by
      intro execution executionMem recordId bound requested
      simp only [Database.admits, requested, Bool.and_eq_true, List.all_eq_true,
        decide_eq_true_eq] at admitted
      exact admitted.2.2 execution executionMem bound
    intro first firstMem second secondMem recordId firstBound secondBound
    rcases List.mem_append.mp firstMem with firstMem | firstMem <;>
      rcases List.mem_append.mp secondMem with secondMem | secondMem
    · exact invariant.recordIds first firstMem second secondMem recordId firstBound secondBound
    · rw [List.mem_singleton.mp secondMem] at secondBound
      exact absurd secondBound (unbound first firstMem recordId firstBound)
    · rw [List.mem_singleton.mp firstMem] at firstBound
      exact absurd firstBound (unbound second secondMem recordId secondBound)
    · rw [List.mem_singleton.mp firstMem, List.mem_singleton.mp secondMem]
  tokens := invariant.tokens
  held := invariant.held
  closed := by
    intro execution executionMem completed recordId bound
    rcases List.mem_append.mp executionMem with executionMem | executionMem
    · exact invariant.closed execution executionMem completed recordId bound
    · rw [List.mem_singleton.mp executionMem] at completed
      cases completed

section Rewriting

variable {after : Database} {execution next : ChatExecution}

/-- The rewritten execution stands where the old one stood. -/
theorem replaced_execution (executionMem : execution ∈ database.executions)
    (executions : after.executions = Rows.replace ChatExecution.id next database.executions)
    (sameBound : next.idempotencyRecordId = execution.idempotencyRecordId) {other : ChatExecution}
    (otherMem : other ∈ after.executions) :
    ∃ before ∈ database.executions, before.idempotencyRecordId = other.idempotencyRecordId ∧
      ((other = next ∧ before = execution) ∨ before = other) := by
  rw [executions] at otherMem
  rcases Rows.mem_replace.mp otherMem with ⟨rfl, _⟩ | ⟨otherMem, _⟩
  · exact ⟨execution, executionMem, sameBound.symm, .inl ⟨rfl, rfl⟩⟩
  · exact ⟨other, otherMem, rfl, .inr rfl⟩

theorem RequestInvariant.rewritten_recordIds (invariant : RequestInvariant database requests)
    (executionMem : execution ∈ database.executions)
    (executions : after.executions = Rows.replace ChatExecution.id next database.executions)
    (sameId : next.id = execution.id)
    (sameBound : next.idempotencyRecordId = execution.idempotencyRecordId)
    (ids : Rows.Unique ChatExecution.id after.executions) :
    ∀ first ∈ after.executions, ∀ second ∈ after.executions, ∀ recordId,
      first.idempotencyRecordId = some recordId → second.idempotencyRecordId = some recordId →
        first = second := by
  intro first firstMem second secondMem recordId firstBound secondBound
  obtain ⟨before, beforeMem, beforeBound, beforeIs⟩ :=
    replaced_execution executionMem executions sameBound firstMem
  obtain ⟨other, otherMem, otherBound, otherIs⟩ :=
    replaced_execution executionMem executions sameBound secondMem
  have same : before = other := invariant.recordIds before beforeMem other otherMem recordId
    (beforeBound.trans firstBound) (otherBound.trans secondBound)
  have firstId : first.id = before.id := by
    rcases beforeIs with ⟨rfl, rfl⟩ | rfl
    · exact sameId
    · rfl
  have secondId : second.id = other.id := by
    rcases otherIs with ⟨rfl, rfl⟩ | rfl
    · exact sameId
    · rfl
  refine ids.eq firstMem secondMem ?_
  rw [firstId, secondId, same]

/-- The row of a lease owner is rewritten together with its execution. -/
theorem RequestInvariant.rewriteRecord {caller : LeasedRequest} {now : Instant}
    {record changed : IdempotencyRecord} (invariant : RequestInvariant database requests)
    (member : caller ∈ requests) (executionMem : execution ∈ database.executions)
    (executions : after.executions = Rows.replace ChatExecution.id next database.executions)
    (sameId : next.id = execution.id)
    (sameBound : next.idempotencyRecordId = execution.idempotencyRecordId)
    (ledger : ∃ history, LedgerInvariant after history)
    (owner : LeaseOwner database execution (some caller.token) now record)
    (changedId : changed.id = record.id) (changedIdentity : changed.identity = record.identity)
    (changedToken : changed.leaseToken = record.leaseToken)
    (updated : after.idempotency = database.idempotency.update changed)
    (closes : next.status = .terminal .completed →
      changed.status = .completed ∧ changed.hasReference = true ∧ caller.engaged = true) :
    RequestInvariant after requests where
  wellFormed := updated ▸ invariant.wellFormed.update owner.recordMem changedId changedIdentity
  ledger := ledger
  recordIds := by
    obtain ⟨_, ledger⟩ := ledger
    exact invariant.rewritten_recordIds executionMem executions sameId sameBound ledger.ids
  tokens := invariant.tokens
  held := by
    rw [updated]
    intro other otherMem
    rcases Rows.mem_replace.mp otherMem with ⟨rfl, _⟩ | ⟨otherMem, _⟩
    · rw [changedToken, changedId]
      exact invariant.held record owner.recordMem
    · exact invariant.held other otherMem
  closed := by
    intro other otherMem completed recordId bound
    rw [updated]
    obtain ⟨before, beforeMem, beforeBound, ⟨rfl, rfl⟩ | rfl⟩ :=
      replaced_execution executionMem executions sameBound otherMem
    · have isRecord : recordId = record.id :=
        Option.some.inj ((beforeBound.trans bound).symm.trans owner.bound)
      obtain ⟨changedCompleted, changedReference, engaged⟩ := closes completed
      refine ⟨changed, Rows.mem_replace_self owner.recordMem changedId.symm,
        changedId.trans isRecord.symm, changedCompleted, changedReference, ?_⟩
      intro holder holderMem carried
      have isCaller : holder = caller := invariant.tokens.eq holderMem member
        (Option.some.inj (carried.symm.trans (changedToken.trans owner.owned)))
      rw [isCaller]
      exact engaged
    · -- A row that is processing is not the row of a completed execution.
      obtain ⟨closedRecord, closedMem, sameRecordId, closed⟩ :=
        invariant.closed before beforeMem completed recordId bound
      refine ⟨closedRecord, Rows.mem_replace_of_ne closedMem fun same => ?_, sameRecordId, closed⟩
      have isRecord := invariant.wellFormed.ids.eq closedMem owner.recordMem (same.trans changedId)
      have processing := owner.processing
      rw [← isRecord, closed.completed] at processing
      contradiction

/-- An execution without a record is rewritten alone. -/
theorem RequestInvariant.rewriteAlone (invariant : RequestInvariant database requests)
    (executionMem : execution ∈ database.executions)
    (executions : after.executions = Rows.replace ChatExecution.id next database.executions)
    (sameId : next.id = execution.id)
    (sameBound : next.idempotencyRecordId = execution.idempotencyRecordId)
    (ledger : ∃ history, LedgerInvariant after history) (sameTable : after.idempotency = database.idempotency)
    (detached : next.status = .terminal .completed → next.idempotencyRecordId = none) :
    RequestInvariant after requests where
  wellFormed := sameTable ▸ invariant.wellFormed
  ledger := ledger
  recordIds := by
    obtain ⟨_, ledger⟩ := ledger
    exact invariant.rewritten_recordIds executionMem executions sameId sameBound ledger.ids
  tokens := invariant.tokens
  held := sameTable ▸ invariant.held
  closed := by
    intro other otherMem completed recordId bound
    obtain ⟨before, beforeMem, beforeBound, ⟨rfl, rfl⟩ | rfl⟩ :=
      replaced_execution executionMem executions sameBound otherMem
    · rw [detached completed] at bound
      contradiction
    · rw [sameTable]
      exact invariant.closed before beforeMem completed recordId bound

end Rewriting

/-- A call of the contract by a request, which is marked for it. -/
theorem RequestInvariant.touched {after : Database} {caller marked : LeasedRequest} {now : Instant}
    {completes : Prop} (invariant : RequestInvariant database requests)
    (member : caller ∈ requests) (sameToken : marked.token = caller.token)
    (sameRecord : marked.recordId = caller.recordId)
    (engages : caller.engaged = true ∨ completes → marked.engaged = true)
    (ledger : ∃ history, LedgerInvariant after history)
    (touched : Touched database (some caller.token) now completes after) :
    RequestInvariant after (Rows.replace LeasedRequest.token marked requests) := by
  have marking : RequestInvariant database (Rows.replace LeasedRequest.token marked requests) :=
    invariant.mark member sameToken sameRecord fun engaged => engages (.inl engaged)
  have markedMem : marked ∈ Rows.replace LeasedRequest.token marked requests :=
    Rows.mem_replace_self member sameToken.symm
  rw [← sameToken] at touched
  cases touched with
  | unchanged => exact marking
  | inserted _ admitted => exact marking.insert admitted ledger
  | rewritten located executions _ sameExecution _ completing _ table =>
    obtain ⟨sameId, _, sameBound⟩ := sameExecution
    rcases table with ⟨sameTable, detached⟩ |
      ⟨record, changed, owner, changedId, changedIdentity, changedToken, updated, closes⟩
    · exact marking.rewriteAlone located.executionMem executions sameId sameBound ledger sameTable detached
    · refine marking.rewriteRecord markedMem located.executionMem executions sameId sameBound ledger owner
        changedId changedIdentity changedToken updated fun completed => ?_
      obtain ⟨changedCompleted, changedReference⟩ := closes completed
      exact ⟨changedCompleted, changedReference, engages (.inr (completing completed))⟩

end Invariant

/-! ## Steps -/

/-- The transition of the ledger system behind a step of the requests. -/
theorem RequestState.step_refines {executionIdentity : Nat × Nat × String → Nat → String}
    {state next : RequestState} {label : RequestLabel}
    (stepped : RequestState.step executionIdentity state label = some next) (history : List LedgerEvent) :
    ∃ ledgerLabel history', LedgerState.step ⟨state.database, state.clock, history⟩ ledgerLabel =
      some ⟨next.database, next.clock, history'⟩ := by
  cases label with
  | tick elapsed =>
    cases stepped
    exact ⟨.tick elapsed, history, rfl⟩
  | begin request attempts token =>
    simp only [RequestState.step] at stepped
    split at stepped
    · contradiction
    · cases stepped
      exact ⟨.leaseChange _, history, rfl⟩
  | renew token =>
    obtain ⟨caller, _, rfl⟩ := Option.map_eq_some_iff.mp stepped
    exact ⟨.leaseChange _, history, rfl⟩
  | failPreflight token responseStatus reference =>
    obtain ⟨caller, _, called⟩ := Option.bind_eq_some_iff.mp stepped
    split at called
    · contradiction
    · cases called
      exact ⟨.leaseChange _, history, rfl⟩
  | cleanup =>
    cases stepped
    exact ⟨.leaseChange _, history, rfl⟩
  | assertRecoveryAllowed token storage =>
    obtain ⟨caller, _, rfl⟩ := Option.map_eq_some_iff.mp stepped
    exact ⟨.assertRecoveryAllowed storage _ _ _, history, rfl⟩
  | prepareExchange token storage exchange =>
    obtain ⟨caller, _, called⟩ := Option.bind_eq_some_iff.mp stepped
    split at called
    · contradiction
    next positive =>
      cases called
      exact ⟨.prepareExchange storage (exchangeOf executionIdentity caller exchange), _, if_neg positive⟩
  | markStreaming token storage =>
    obtain ⟨caller, _, rfl⟩ := Option.map_eq_some_iff.mp stepped
    exact ⟨.markStreaming storage _, history, rfl⟩
  | finalize token storage request =>
    obtain ⟨caller, _, called⟩ := Option.bind_eq_some_iff.mp stepped
    split at called
    · cases called
      exact ⟨.finalize storage _, _, rfl⟩
    · contradiction

/-- The three kinds of steps. -/
inductive Moved (state : RequestState) : RequestState → Prop where
  | ticked (elapsed : Nat) : Moved state { state with clock := state.clock + elapsed }
  | ledger {table : IdempotencyTable} {requests : List LeasedRequest}
      (change : LedgerChange state.requests requests state.database.idempotency table) :
      Moved state { state with database := state.database.withIdempotency table, requests }
  | called {after : Database} {caller marked : LeasedRequest} {completes : Prop}
      (member : caller ∈ state.requests)
      (same : caller.Advanced marked)
      (engages : caller.engaged = true ∨ completes → marked.engaged = true)
      (touched : Touched state.database (some caller.token) state.clock completes after) :
      Moved state { state with
        database := after, requests := Rows.replace LeasedRequest.token marked state.requests }

theorem RequestState.caller?_some {state : RequestState} {token : String} {caller : LeasedRequest}
    (found : state.caller? token = some caller) : caller ∈ state.requests ∧ caller.token = token :=
  ⟨List.mem_of_find?_eq_some found, by simpa using List.find?_some found⟩

theorem RequestState.step_moved {executionIdentity : Nat × Nat × String → Nat → String}
    {state next : RequestState} {label : RequestLabel}
    (invariant : RequestInvariant state.database state.requests)
    (stepped : RequestState.step executionIdentity state label = some next) : Moved state next := by
  obtain ⟨wellFormed, _, _, tokens, held, _⟩ := invariant
  cases label with
  | tick elapsed =>
    cases stepped
    exact .ticked elapsed
  | begin request attempts token =>
    simp only [RequestState.step] at stepped
    split at stepped
    · contradiction
    next unissued =>
      cases stepped
      exact .ledger (begin_change wellFormed tokens held request attempts state.clock token
        (by simpa using unissued))
  | renew token =>
    obtain ⟨caller, _, rfl⟩ := Option.map_eq_some_iff.mp stepped
    exact .ledger (renew_change wellFormed tokens held _ _ _)
  | failPreflight token responseStatus reference =>
    obtain ⟨caller, found, called⟩ := Option.bind_eq_some_iff.mp stepped
    obtain ⟨member, rfl⟩ := caller?_some found
    split at called
    · contradiction
    next preflight =>
      cases called
      exact .ledger (complete_change wellFormed tokens held member
        (by simpa using (not_or.mp preflight).1) _ _ _ _)
  | cleanup =>
    cases stepped
    exact .ledger (.filter wellFormed tokens held _)
  | assertRecoveryAllowed token storage =>
    obtain ⟨caller, found, rfl⟩ := Option.map_eq_some_iff.mp stepped
    obtain ⟨member, rfl⟩ := caller?_some found
    -- The caller is written back as it was: this call engages nobody.
    have touched := assertRecoveryAllowed_touched storage state.database
      (executionOf executionIdentity caller) caller.recordId (some caller.token) state.clock
    have moved := Moved.called member (.refl caller) (fun engaged => engaged.elim id False.elim) touched
    rwa [Rows.replace_self tokens member] at moved
  | prepareExchange token storage exchange =>
    obtain ⟨caller, found, called⟩ := Option.bind_eq_some_iff.mp stepped
    obtain ⟨member, rfl⟩ := caller?_some found
    split at called
    · contradiction
    · cases called
      refine .called member ⟨rfl, rfl, rfl, fun before => by simp [before]⟩ ?_
        (prepareExchange_touched storage state.database (exchangeOf executionIdentity caller exchange) state.clock)
      rintro (engaged | impossible)
      · simp only [LeasedRequest.engaged, Bool.or_eq_true] at engaged ⊢
        exact engaged.imp_left .inl
      · contradiction
  | markStreaming token storage =>
    obtain ⟨caller, found, rfl⟩ := Option.map_eq_some_iff.mp stepped
    obtain ⟨member, rfl⟩ := caller?_some found
    have touched := markStreaming_touched storage state.database (executionOf executionIdentity caller)
      (some caller.token) state.clock
    have moved := Moved.called member (.refl caller) (fun engaged => engaged.elim id False.elim) touched
    rwa [Rows.replace_self tokens member] at moved
  | finalize token storage request =>
    obtain ⟨caller, found, called⟩ := Option.bind_eq_some_iff.mp stepped
    obtain ⟨member, rfl⟩ := caller?_some found
    split at called
    next formed =>
      cases called
      refine .called member ⟨rfl, rfl, rfl, id⟩ ?_ (finalize_touched storage state.database
        (finalizeOf executionIdentity caller request) state.clock formed)
      simp only [LeasedRequest.engaged, Bool.or_eq_true]
      rintro ((persisted | finalized) | completes)
      · exact .inl persisted
      · exact .inr (.inl finalized)
      · exact .inr (.inr completes)
    · contradiction

theorem RequestInvariant.step {executionIdentity : Nat × Nat × String → Nat → String}
    {state next : RequestState} {label : RequestLabel}
    (invariant : RequestInvariant state.database state.requests)
    (stepped : RequestState.step executionIdentity state label = some next) :
    RequestInvariant next.database next.requests := by
  obtain ⟨history, ledger⟩ := invariant.ledger
  obtain ⟨ledgerLabel, history', refined⟩ := step_refines stepped history
  have ledgerAfter : LedgerInvariant next.database history' :=
    @LedgerInvariant.step ⟨state.database, state.clock, history⟩ _ _ ledger refined
  cases step_moved invariant stepped with
  | ticked => exact invariant
  | ledger change => exact invariant.ledgerChange change
  | called member same engages touched =>
    exact invariant.touched member same.token same.recordId engages ⟨history', ledgerAfter⟩ touched

theorem requestInvariant_initial (clock : Instant) :
    RequestInvariant (RequestState.initial clock).database (RequestState.initial clock).requests where
  wellFormed := wellFormed_empty
  ledger := ⟨[], ledgerInvariant_initial clock⟩
  recordIds := fun _ member => nomatch member
  tokens := List.nodup_nil
  held := fun _ member => nomatch member
  closed := fun _ member => nomatch member

theorem requestInvariant_reached {executionIdentity : Nat × Nat × String → Nat → String}
    {clock : Instant} {labels : List RequestLabel} {state : RequestState}
    (reached : Transition.run (RequestState.step executionIdentity) (RequestState.initial clock) labels =
      some state) : RequestInvariant state.database state.requests :=
  Transition.run_invariant (fun state : RequestState => RequestInvariant state.database state.requests)
    (fun _ _ _ invariant stepped => invariant.step stepped) (requestInvariant_initial clock) reached

/-! ## Finality -/

/-- The execution was completed in `origin`, and since then it lost at most its record:
its messages and the record's row, where it exists, are those of `origin`. -/
structure Settled (origin : Database) (execution : ChatExecution) (database : Database) : Prop where
  current : ∃ current ∈ database.executions, current.executionId = execution.executionId ∧
    current.status = .terminal .completed ∧
    (current.idempotencyRecordId = execution.idempotencyRecordId ∨
      current.idempotencyRecordId = none ∧ ∀ recordId, execution.idempotencyRecordId = some recordId →
        recordId < database.idempotency.nextId ∧
          ∀ record ∈ database.idempotency.rows, record.id ≠ recordId)
  messages : ∀ message ∈ origin.messages, message.executionId = execution.executionId →
    message ∈ database.messages
  record : ∀ recordId, execution.idempotencyRecordId = some recordId →
    ∀ before ∈ origin.idempotency.rows, before.id = recordId →
      ∀ after ∈ database.idempotency.rows, after.id = recordId → after = before

section Settled

variable {origin database : Database} {execution : ChatExecution} {requests : List LeasedRequest}

theorem Settled.ledgerChange {requests' : List LeasedRequest} {table : IdempotencyTable}
    (settled : Settled origin execution database) (invariant : RequestInvariant database requests)
    (change : LedgerChange requests requests' database.idempotency table) :
    Settled origin execution (database.withIdempotency table) := by
  obtain ⟨current, currentMem, sameId, completed, bound⟩ := settled.current
  -- The row of the execution, if it is still there, is the one from before.
  have kept : ∀ recordId, execution.idempotencyRecordId = some recordId →
      ∀ after ∈ table.rows, after.id = recordId →
        current.idempotencyRecordId = some recordId ∧ after ∈ database.idempotency.rows := by
    intro recordId formerly after afterMem afterId
    rcases bound with sameBound | ⟨_, gone⟩
    · obtain ⟨record, recordMem, sameRecordId, closed⟩ := invariant.closed current currentMem completed
        recordId (sameBound.trans formerly)
      have unchanged := change.untouched record recordMem closed after afterMem
        (afterId.trans sameRecordId.symm)
      exact ⟨sameBound.trans formerly, unchanged ▸ recordMem⟩
    · obtain ⟨older, absent⟩ := gone recordId formerly
      obtain ⟨record, recordMem, sameRecordId⟩ := change.origin after afterMem (afterId ▸ older)
      exact absurd (sameRecordId.trans afterId) (absent record recordMem)
  refine ⟨⟨_, List.mem_map.mpr ⟨current, currentMem, rfl⟩, sameId, completed, ?_⟩, settled.messages, ?_⟩
  · by_cases present : ∃ recordId, execution.idempotencyRecordId = some recordId ∧
        ∃ after ∈ table.rows, after.id = recordId
    · obtain ⟨recordId, formerly, after, afterMem, afterId⟩ := present
      have currentBound := (kept recordId formerly after afterMem afterId).1
      refine .inl ?_
      simp only [currentBound, formerly]
      refine Option.filter_eq_some_iff.mpr ⟨rfl, ?_⟩
      exact List.any_eq_true.mpr ⟨after, afterMem, by simpa using afterId⟩
    · have absent : ∀ recordId, execution.idempotencyRecordId = some recordId →
          ∀ after ∈ table.rows, after.id ≠ recordId := fun recordId formerly after afterMem afterId =>
        present ⟨recordId, formerly, after, afterMem, afterId⟩
      refine .inr ⟨?_, fun recordId formerly => ⟨?_, absent recordId formerly⟩⟩
      · rcases bound with sameBound | ⟨detached, _⟩
        · refine Option.filter_eq_none_iff.mpr fun recordId currentBound found => ?_
          obtain ⟨after, afterMem, afterId⟩ := List.any_eq_true.mp found
          exact absent recordId (sameBound.symm.trans currentBound) after afterMem (by simpa using afterId)
        · rw [detached]
          rfl
      · refine Nat.lt_of_lt_of_le ?_ change.sequence
        rcases bound with sameBound | ⟨_, gone⟩
        · obtain ⟨record, recordMem, sameRecordId, _⟩ := invariant.closed current currentMem completed
            recordId (sameBound.trans formerly)
          exact sameRecordId ▸ invariant.wellFormed.bounded record recordMem
        · exact (gone recordId formerly).1
  · intro recordId formerly before beforeMem beforeId after afterMem afterId
    exact settled.record recordId formerly before beforeMem beforeId after
      (kept recordId formerly after afterMem afterId).2 afterId

theorem Settled.touched {after : Database} {leaseToken : Option String} {now : Instant}
    {completes : Prop} (settled : Settled origin execution database)
    (invariant : RequestInvariant database requests)
    (touched : Touched database leaseToken now completes after) :
    Settled origin execution after := by
  obtain ⟨current, currentMem, sameId, completed, bound⟩ := settled.current
  cases touched with
  | unchanged => exact settled
  | inserted =>
    exact ⟨⟨current, List.mem_append_left _ currentMem, sameId, completed, bound⟩,
      fun message member same => List.mem_append_left _ (settled.messages message member same),
      settled.record⟩
  | @rewritten after _ other next assistant written located executions messages sameExecution sameMessage
      _ entitled table =>
    obtain ⟨history, ledger⟩ := invariant.ledger
    -- Nobody is entitled to write a completed execution.
    have differs : current ≠ other := by
      rintro rfl
      exact invariant.entitled_uncompleted located.executionMem entitled completed
    have differsId : current.executionId ≠ other.executionId := fun same =>
      differs (ledger.executionIds.eq currentMem located.executionMem same)
    refine ⟨⟨current, ?_, sameId, completed, ?_⟩, ?_, ?_⟩
    · rw [executions]
      refine Rows.mem_replace_of_ne currentMem fun same => differs ?_
      exact ledger.ids.eq currentMem located.executionMem (same.trans sameExecution.1)
    · refine bound.imp_right fun ⟨detached, gone⟩ => ⟨detached, fun recordId formerly => ?_⟩
      obtain ⟨older, absent⟩ := gone recordId formerly
      rcases table with ⟨sameTable, _⟩ | ⟨record, changed, owner, changedId, _, _, updated, _⟩
      · rw [sameTable]
        exact ⟨older, absent⟩
      · rw [updated]
        refine ⟨older, fun row rowMem => ?_⟩
        rcases Rows.mem_replace.mp rowMem with ⟨rfl, _⟩ | ⟨rowMem, _⟩
        · rw [changedId]
          exact absent record owner.recordMem
        · exact absent row rowMem
    · intro message member same
      rw [messages]
      refine Rows.mem_replace_of_ne (settled.messages message member same) fun sameMessageId => ?_
      have isAssistant : message = assistant := ledger.messageIds.eq
        (settled.messages message member same) located.assistantMem (sameMessageId.trans sameMessage)
      rw [isAssistant, located.assistantExecution] at same
      exact differsId (sameId.trans same.symm)
    · intro recordId formerly before beforeMem beforeId row rowMem rowId
      rcases table with ⟨sameTable, _⟩ | ⟨record, changed, owner, changedId, _, _, updated, _⟩
      · rw [sameTable] at rowMem
        exact settled.record recordId formerly before beforeMem beforeId row rowMem rowId
      · rw [updated] at rowMem
        rcases Rows.mem_replace.mp rowMem with ⟨rfl, _⟩ | ⟨rowMem, _⟩
        -- The changed record is the one of the execution that is written, not of this one.
        · rcases bound with sameBound | ⟨_, gone⟩
          · have otherBound := owner.bound
            rw [← changedId, rowId] at otherBound
            exact absurd (invariant.recordIds current currentMem other located.executionMem recordId
              (sameBound.trans formerly) otherBound) differs
          · exact absurd (changedId.symm.trans rowId) ((gone recordId formerly).2 record owner.recordMem)
        · exact settled.record recordId formerly before beforeMem beforeId row rowMem rowId

end Settled

/-- Once an execution is completed, its status and its assistant message never change, and
its idempotency record, while it exists, stays the completed record with its reference. -/
theorem completed_execution_final {executionIdentity : Nat × Nat × String → Nat → String}
    {clock : Instant} {labels later : List RequestLabel} {state final : RequestState}
    (reached : Transition.run (RequestState.step executionIdentity) (RequestState.initial clock) labels =
      some state)
    (continued : Transition.run (RequestState.step executionIdentity) state later = some final)
    {execution : ChatExecution} (present : execution ∈ state.database.executions)
    (completed : execution.status = .terminal .completed) :
    (∃ current, final.database.execution? execution.executionId = some current ∧
      current.status = .terminal .completed) ∧
    messagesOf final.database.messages execution.executionId .assistant =
      messagesOf state.database.messages execution.executionId .assistant ∧
    ∀ recordId, execution.idempotencyRecordId = some recordId →
      ∃ record ∈ state.database.idempotency.rows, record.id = recordId ∧ record.status = .completed ∧
        record.hasReference = true ∧
        ∀ after ∈ final.database.idempotency.rows, after.id = recordId →
          after.status = .completed ∧ after.responseReference = record.responseReference := by
  have invariant := requestInvariant_reached reached
  have finalInvariant := requestInvariant_reached (Transition.run_trans reached continued)
  have settledNow : Settled state.database execution state.database :=
    ⟨⟨execution, present, rfl, completed, .inl rfl⟩, fun _ member _ => member,
      fun _ _ before beforeMem beforeId after afterMem afterId =>
        invariant.wellFormed.ids.eq afterMem beforeMem (afterId.trans beforeId.symm)⟩
  have settled : Settled state.database execution final.database := by
    refine (Transition.run_invariant (fun state' : RequestState =>
      RequestInvariant state'.database state'.requests ∧
        Settled state.database execution state'.database) ?_ ⟨invariant, settledNow⟩ continued).2
    rintro current label next ⟨held, settled⟩ stepped
    refine ⟨held.step stepped, ?_⟩
    cases RequestState.step_moved held stepped with
    | ticked => exact settled
    | ledger change => exact settled.ledgerChange held change
    | called _ _ _ touched => exact settled.touched held touched
  obtain ⟨current, currentMem, sameId, stillCompleted, _⟩ := settled.current
  obtain ⟨history, ledger⟩ := invariant.ledger
  obtain ⟨finalHistory, finalLedger⟩ := finalInvariant.ledger
  refine ⟨⟨current, finalLedger.execution?_eq currentMem sameId, stillCompleted⟩, ?_, ?_⟩
  · obtain ⟨message, single, _⟩ := (ledger.represented execution present).assistant
    obtain ⟨finalMessage, finalSingle, _⟩ := (finalLedger.represented current currentMem).assistant
    rw [sameId] at finalSingle
    obtain ⟨messageMem, selected⟩ := List.mem_filter.mp (single ▸ List.mem_singleton_self message)
    have kept : message ∈ messagesOf final.database.messages execution.executionId .assistant :=
      List.mem_filter.mpr ⟨settled.messages message messageMem (of_decide_eq_true selected).1, selected⟩
    rw [finalSingle, List.mem_singleton] at kept
    rw [single, finalSingle, kept]
  · intro recordId bound
    obtain ⟨record, recordMem, sameRecordId, closed⟩ :=
      invariant.closed execution present completed recordId bound
    refine ⟨record, recordMem, sameRecordId, closed.completed, closed.reference, ?_⟩
    intro after afterMem afterId
    rw [settled.record recordId bound record recordMem sameRecordId after afterMem afterId]
    exact ⟨closed.completed, rfl⟩

/-- A streamed completion, its expired record deleted by the next request on the key. -/
theorem completed_execution_final_expired :
    ∃ state final : RequestState, ∃ execution ∈ state.database.executions,
      Transition.run (RequestState.step fun _ _ => "execution") (RequestState.initial 0)
        [.begin ⟨1, 2, "key", "digest"⟩ 0 "a",
          .prepareExchange "a" .available ⟨"", "request", 1, 0, 0, 3, 1, "openai", "gpt-4o", "hello",
            none, 1026, 0, false, false, none, 3, none⟩,
          .markStreaming "a" .available,
          .finalize "a" .available ⟨"", "completed", "answer", 200, "reference", none, none, []⟩] =
        some state ∧
      Transition.run (RequestState.step fun _ _ => "execution") state
        [.tick (seconds 90000), .begin ⟨1, 2, "key", "digest"⟩ 0 "b"] = some final ∧
      (∃ current, final.database.execution? execution.executionId = some current ∧
        current.status = .terminal .completed) ∧
      messagesOf final.database.messages execution.executionId .assistant =
        messagesOf state.database.messages execution.executionId .assistant ∧
      ∀ recordId, execution.idempotencyRecordId = some recordId →
        ∃ record ∈ state.database.idempotency.rows, record.id = recordId ∧
          record.status = .completed ∧ record.hasReference = true ∧
          ∀ after ∈ final.database.idempotency.rows, after.id = recordId →
            after.status = .completed ∧ after.responseReference = record.responseReference :=
  ⟨_, _, _, List.mem_singleton_self _, rfl, rfl,
    @completed_execution_final (fun _ _ => "execution") 0
      [.begin ⟨1, 2, "key", "digest"⟩ 0 "a",
        .prepareExchange "a" .available ⟨"", "request", 1, 0, 0, 3, 1, "openai", "gpt-4o", "hello",
          none, 1026, 0, false, false, none, 3, none⟩,
        .markStreaming "a" .available,
        .finalize "a" .available ⟨"", "completed", "answer", 200, "reference", none, none, []⟩]
      [.tick (seconds 90000), .begin ⟨1, 2, "key", "digest"⟩ 0 "b"] _ _ rfl rfl _
      (List.mem_singleton_self _) rfl⟩

end Eiraos
