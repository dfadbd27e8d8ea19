import Eiraos.Documents.Ingest
import Mathlib.Logic.Equiv.List
import Mathlib.Tactic.DeriveEncodable

/-! # One document for one key

As long as every request inserts its document while no earlier one of the key is alive and
nobody has been answered, all answers name one document and no other one is alive.
-/

namespace Eiraos.Documents

open IdempotencyTable

/-! ## What a step does -/

inductive IngestEndpoint.Moves (endpoint : IngestEndpoint) (state : IngestState) :
    IngestLabel → IngestState → Prop
  | ticked (elapsed : Nat)
      (unexpired : ∀ record, state.ledger.select? endpoint.request = some record →
        record.expiredAt (state.clock + elapsed) = false) :
      Moves endpoint state (.tick elapsed) { state with clock := state.clock + elapsed }
  | began (request attempts : Nat) (token : String)
      (point : state.requests request = .beginning attempts) (fresh : token ∉ state.tokens) :
      Moves endpoint state (.act request (.began token))
        { state.go request (.begun attempts
            (beginIdempotency state.ledger endpoint.request attempts state.clock token).2) with
          tokens := token :: state.tokens
          ledger := (beginIdempotency state.ledger endpoint.request attempts state.clock token).1 }
  | read (request : Nat) (point : state.requests request = .reading) :
      Moves endpoint state (.act request .read)
        (state.go request (.returning (endpoint.cachedResponse state.ledger)))
  | inserted (request : Nat) (leaseToken : Option String) (document : Document) (tables : Tables)
      (point : state.requests request = .inserting leaseToken)
      (stored : state.tables.insertDocument endpoint.organizationId endpoint.title .queued
        (some endpoint.userId) = some (document, tables)) :
      Moves endpoint state (.act request .inserted)
        { state.go request (.enqueueing leaseToken document.id) with
          tables := tables
          created := document.id :: state.created }
  | enqueued (request : Nat) (leaseToken : Option String) (documentId : Nat) (outcome : EnqueueOutcome)
      (point : state.requests request = .enqueueing leaseToken documentId) :
      Moves endpoint state (.act request (.enqueued outcome))
        (state.go request (endpoint.enqueued leaseToken documentId outcome))
  | failed (request : Nat) (leaseToken : Option String) (documentId : Nat) (recorded : Bool)
      (point : state.requests request = .failing leaseToken documentId recorded) :
      Moves endpoint state (.act request .committed)
        { state.go request
            (if recorded then .recordingFailure leaseToken documentId else .ended none) with
          tables := state.tables.setStatus documentId .failed }
  | recorded (request : Nat) (leaseToken : Option String) (documentId : Nat)
      (point : state.requests request = .recordingFailure leaseToken documentId) :
      Moves endpoint state (.act request .completed)
        { state.go request (.ended none) with
          ledger := endpoint.complete state 503 (.unavailable documentId endpoint.title) leaseToken }
  | processing (request : Nat) (leaseToken : Option String) (documentId : Nat)
      (point : state.requests request = .processing leaseToken documentId) :
      Moves endpoint state (.act request .committed)
        { state.go request (.storing leaseToken documentId) with
          tables := state.tables.setStatus documentId .processing }
  | stored (request : Nat) (leaseToken : Option String) (documentId : Nat)
      (embed : String → Option Embedding) (inserted : Tables)
      (point : state.requests request = .storing leaseToken documentId)
      (written : state.tables.insertChunks (endpoint.fallbackChunks embed documentId) = some inserted) :
      Moves endpoint state (.act request (.stored embed))
        { state.go request (.completing leaseToken (.stored
            (if 0 < (endpoint.fallbackChunks embed documentId).length then .ready else .failed)
            documentId (endpoint.fallbackChunks embed documentId).length endpoint.title)) with
          tables := inserted.setStatus documentId
            (if 0 < (endpoint.fallbackChunks embed documentId).length then .ready else .failed) }
  | completed (request : Nat) (leaseToken : Option String) (response : IngestResponse)
      (point : state.requests request = .completing leaseToken response) :
      Moves endpoint state (.act request .completed)
        { state.go request (.returning response) with
          ledger := endpoint.complete state 202 response leaseToken }
  | returned (request : Nat) (response : IngestResponse)
      (point : state.requests request = .returning response) :
      Moves endpoint state (.act request .returned) (state.go request (.ended (some response)))
  | crashed (request : Nat) (running : ∀ answer, state.requests request ≠ .ended answer) :
      Moves endpoint state (.act request .crashed) (state.go request (.ended none))

theorem IngestEndpoint.moves_of_step {endpoint : IngestEndpoint} {state next : IngestState}
    {label : IngestLabel} (stepped : endpoint.step state label = some next) :
    endpoint.Moves state label next := by
  cases label with
  | tick elapsed =>
    simp only [step] at stepped
    split at stepped
    next => cases stepped
    next unexpired =>
      cases stepped
      refine .ticked elapsed fun record found => ?_
      simpa [found] using unexpired
  | act request signal =>
    simp only [step] at stepped
    generalize point : state.requests request = here at stepped
    cases signal with
    | crashed =>
      cases here <;> simp only [act, Option.some.injEq, reduceCtorEq] at stepped <;> subst stepped <;>
        exact .crashed request (by simp [point])
    | began token =>
      cases here with
      | beginning attempts =>
        simp only [act] at stepped
        split at stepped
        next => cases stepped
        next fresh =>
          cases stepped
          exact .began request attempts token point fresh
      | _ => cases stepped
    | read =>
      cases here with
      | reading =>
        cases stepped
        exact .read request point
      | _ => cases stepped
    | inserted =>
      cases here with
      | inserting leaseToken =>
        simp only [act, Option.bind_eq_bind, Option.bind_eq_some_iff, Option.pure_def,
          Option.some.injEq] at stepped
        obtain ⟨⟨document, tables⟩, stored, rfl⟩ := stepped
        exact .inserted request leaseToken document tables point stored
      | _ => cases stepped
    | enqueued outcome =>
      cases here with
      | enqueueing leaseToken documentId =>
        cases stepped
        exact .enqueued request leaseToken documentId outcome point
      | _ => cases stepped
    | committed =>
      cases here with
      -- Both commits write a status of the document, failed or processing.
      | failing leaseToken documentId recorded =>
        cases stepped
        exact .failed request leaseToken documentId recorded point
      | processing leaseToken documentId =>
        cases stepped
        exact .processing request leaseToken documentId point
      | _ => cases stepped
    | stored embed =>
      cases here with
      | storing leaseToken documentId =>
        simp only [act, Option.bind_eq_bind, Option.bind_eq_some_iff, Option.pure_def,
          Option.some.injEq] at stepped
        obtain ⟨inserted, written, rfl⟩ := stepped
        exact .stored request leaseToken documentId embed inserted point written
      | _ => cases stepped
    | completed =>
      cases here with
      | recordingFailure leaseToken documentId =>
        cases stepped
        exact .recorded request leaseToken documentId point
      | completing leaseToken response =>
        cases stepped
        exact .completed request leaseToken response point
      | _ => cases stepped
    | returned =>
      cases here with
      | returning response =>
        cases stepped
        exact .returned request response point
      | _ => cases stepped

/-! ## One document -/

/-- One document is behind every answer, and no other one is alive. -/
def OneDocument (state : IngestState) : Prop :=
  ∃ id, (∀ document ∈ state.alive, document.id = id) ∧
    ∀ request response, state.requests request = .ended (some response) →
      response.documentId = some id

/-- Nobody has been answered with success. -/
def Unanswered (state : IngestState) : Prop :=
  ∀ request response, state.requests request ≠ .ended (some response)

/-- A request inserts its document while no other one is alive and nobody has been answered,
and one that answers with a failed document finds no other one alive or in an answer. -/
def Alone (state : IngestState) : IngestLabel → Prop
  | .act _ .inserted => state.alive = [] ∧ Unanswered state
  | .act request .returned =>
    ∀ response id, state.requests request = .returning response → response.documentId = some id →
      (∃ document ∈ state.alive, document.id = id) ∨
        ((∀ document ∈ state.alive, document.id = id) ∧
          ∀ other answer, state.requests other = .ended (some answer) → answer.documentId = some id)
  | _ => True

/-! ## The invariant -/

namespace IngestPoint

/-- The lease the request still acts under. -/
def lease? : IngestPoint → Option (Option String)
  | .inserting leaseToken => some leaseToken
  | .enqueueing leaseToken _ => some leaseToken
  | .failing leaseToken _ _ => some leaseToken
  | .recordingFailure leaseToken _ => some leaseToken
  | .processing leaseToken _ => some leaseToken
  | .storing leaseToken _ => some leaseToken
  | .completing leaseToken _ => some leaseToken
  | _ => none

/-- The document whose status the request may still change. -/
def working? : IngestPoint → Option Nat
  | .enqueueing _ documentId => some documentId
  | .failing _ documentId _ => some documentId
  | .processing _ documentId => some documentId
  | .storing _ documentId => some documentId
  | _ => none

/-- The response that the request is about to give, or has given. -/
def response? : IngestPoint → Option IngestResponse
  | .completing _ response => some response
  | .returning response => some response
  | .ended answer => answer
  | _ => none

end IngestPoint

/-- The ledger's row of the key. -/
structure KeyRecord (endpoint : IngestEndpoint) (state : IngestState) (record : IdempotencyRecord) :
    Prop where
  digest : record.requestHash = endpoint.digest
  unexpired : record.expiredAt state.clock = false
  token : ∃ token ∈ state.tokens, record.leaseToken = some token
  reference : record.status = .completed → ∃ response, ∃ id ∈ state.created,
    record.responseReference = some (endpoint.json.dumps response) ∧ response.documentId = some id
  released : record.status = .completed →
    ∀ request, (state.requests request).lease? ≠ some record.leaseToken

structure OneKey (endpoint : IngestEndpoint) (state : IngestState) : Prop where
  below : ∀ document ∈ state.tables.documents, document.id < state.tables.documentSequence
  createdBelow : ∀ id ∈ state.created, id < state.tables.documentSequence
  working : ∀ request id, (state.requests request).working? = some id → id ∈ state.created ∧
    ∀ document ∈ state.tables.documents, document.id = id → document.status ≠ .failed
  distinct : ∀ first second id, (state.requests first).working? = some id →
    (state.requests second).working? = some id → first = second
  named : ∀ request response, (state.requests request).response? = some response →
    ∃ id ∈ state.created, response.documentId = some id
  wellFormed : state.ledger.WellFormed
  record : ∀ record, state.ledger.select? endpoint.request = some record →
    KeyRecord endpoint state record
  reading : ∀ request, state.requests request = .reading →
    ∃ record, state.ledger.select? endpoint.request = some record ∧ record.status = .completed
  held : ∀ request lease, (state.requests request).lease? = some lease →
    ∃ token ∈ state.tokens, lease = some token
  leases : ∀ first second lease, (state.requests first).lease? = some lease →
    (state.requests second).lease? = some lease → first = second
  single : OneDocument state

variable {endpoint : IngestEndpoint} {state next : IngestState}

@[simp] theorem IngestState.go_requests (request other : Nat) (point : IngestPoint) :
    (state.go request point).requests other =
      if other = request then point else state.requests other := by
  simp [IngestState.go, Function.update_apply]

/-- Where a request goes on without a new lease or a new document. -/
structure Onward (endpoint : IngestEndpoint) (state : IngestState) (request : Nat) (point : IngestPoint) :
    Prop where
  lease : ∀ lease, point.lease? = some lease → (state.requests request).lease? = some lease
  working : ∀ id, point.working? = some id → (state.requests request).working? = some id
  named : ∀ response, point.response? = some response →
    ∃ id ∈ state.created, response.documentId = some id
  reading : point = .reading →
    ∃ record, state.ledger.select? endpoint.request = some record ∧ record.status = .completed

/-- A point without a lease, a document or a response. -/
theorem Onward.idle {request : Nat} {point : IngestPoint}
    (idle : point = .ended none ∨ ∃ attempts, point = .beginning attempts) :
    Onward endpoint state request point := by
  cases idle with
  | inl ended =>
    subst ended
    constructor <;> simp [IngestPoint.lease?, IngestPoint.working?, IngestPoint.response?]
  | inr beginning =>
    obtain ⟨attempts, rfl⟩ := beginning
    constructor <;> simp [IngestPoint.lease?, IngestPoint.working?, IngestPoint.response?]

theorem OneKey.goTo (inv : OneKey endpoint state) {request : Nat} {point : IngestPoint}
    (onward : Onward endpoint state request point) (single : OneDocument (state.go request point)) :
    OneKey endpoint (state.go request point) where
  below := inv.below
  createdBelow := inv.createdBelow
  working other id works := by
    rw [IngestState.go_requests] at works
    -- What the request has at its new point it had already at the old one.
    split at works
    · exact inv.working request id (onward.working id works)
    · exact inv.working other id works
  distinct first second id firstWorks secondWorks := by
    rw [IngestState.go_requests] at firstWorks secondWorks
    split at firstWorks <;> split at secondWorks
    · omega
    · have := inv.distinct request second id (onward.working id firstWorks) secondWorks
      omega
    · have := inv.distinct first request id firstWorks (onward.working id secondWorks)
      omega
    · exact inv.distinct first second id firstWorks secondWorks
  named other response given := by
    rw [IngestState.go_requests] at given
    split at given
    · exact onward.named response given
    · exact inv.named other response given
  wellFormed := inv.wellFormed
  record record found :=
    { inv.record record found with
      released completed other holds := by
        rw [IngestState.go_requests] at holds
        split at holds
        · exact (inv.record record found).released completed request (onward.lease _ holds)
        · exact (inv.record record found).released completed other holds }
  reading other read := by
    rw [IngestState.go_requests] at read
    split at read
    · exact onward.reading read
    · exact inv.reading other read
  held other lease holds := by
    rw [IngestState.go_requests] at holds
    split at holds
    · exact inv.held request lease (onward.lease lease holds)
    · exact inv.held other lease holds
  leases first second lease firstHolds secondHolds := by
    rw [IngestState.go_requests] at firstHolds secondHolds
    split at firstHolds <;> split at secondHolds
    · omega
    · have := inv.leases request second lease (onward.lease lease firstHolds) secondHolds
      omega
    · have := inv.leases first request lease firstHolds (onward.lease lease secondHolds)
      omega
    · exact inv.leases first second lease firstHolds secondHolds
  single := single

/-- The request gives no answer. -/
theorem OneKey.go (inv : OneKey endpoint state) {request : Nat} {point : IngestPoint}
    (onward : Onward endpoint state request point)
    (unanswered : ∀ response, point ≠ .ended (some response)) :
    OneKey endpoint (state.go request point) := by
  apply inv.goTo onward
  obtain ⟨id, alive, answers⟩ := inv.single
  refine ⟨id, alive, fun other response given => ?_⟩
  rw [IngestState.go_requests] at given
  split at given
  · exact absurd given (unanswered response)
  · exact answers other response given

/-- The ledger may change as long as its row of the key stays in order. -/
theorem OneKey.ledger (inv : OneKey endpoint state) {ledger : IdempotencyTable}
    (wellFormed : ledger.WellFormed)
    (record : ∀ record, ledger.select? endpoint.request = some record → KeyRecord endpoint state record)
    (reading : ∀ request, state.requests request = .reading →
      ∃ record, ledger.select? endpoint.request = some record ∧ record.status = .completed) :
    OneKey endpoint { state with ledger } where
  below := inv.below
  createdBelow := inv.createdBelow
  working := inv.working
  distinct := inv.distinct
  named := inv.named
  wellFormed := wellFormed
  record found selected := { record found selected with }
  reading := reading
  held := inv.held
  leases := inv.leases
  single := inv.single

theorem mem_setStatus {tables : Tables} {documentId : Nat} {status : DocumentStatus} {document : Document}
    (mem : document ∈ (tables.setStatus documentId status).documents) :
    ∃ old ∈ tables.documents, old.id = document.id ∧
      document.status = if document.id = documentId then status else old.status := by
  obtain ⟨old, there, rfl⟩ := List.mem_map.mp mem
  refine ⟨old, there, ?_⟩
  split
  next same => simp [same]
  next => simp

/-- A document fails that no request works on, or goes on that has not failed. -/
theorem OneKey.setStatus (inv : OneKey endpoint state) {documentId : Nat} {status : DocumentStatus}
    {tables : Tables} (documents : tables.documents = (state.tables.setStatus documentId status).documents)
    (sequence : tables.documentSequence = state.tables.documentSequence)
    (mends : status = .failed → ∀ request, (state.requests request).working? ≠ some documentId)
    (unfailed : status ≠ .failed → ∀ document ∈ state.tables.documents, document.id = documentId →
      document.status ≠ .failed) :
    OneKey endpoint { state with tables } where
  below document mem := by
    rw [documents] at mem
    obtain ⟨old, there, same, -⟩ := mem_setStatus mem
    rw [sequence, ← same]
    exact inv.below old there
  createdBelow id mem := by
    rw [sequence]
    exact inv.createdBelow id mem
  working request id works := by
    refine ⟨(inv.working request id works).1, fun document mem named => ?_⟩
    rw [documents] at mem
    obtain ⟨old, there, same, now⟩ := mem_setStatus mem
    rw [now]
    split
    next own =>
      intro failed
      exact mends failed request (by rw [works, ← own, named])
    next other => exact (inv.working request id works).2 old there (same.trans named)
  distinct := inv.distinct
  named := inv.named
  wellFormed := inv.wellFormed
  record found selected := { inv.record found selected with }
  reading := inv.reading
  held := inv.held
  leases := inv.leases
  single := by
    obtain ⟨id, alive, answers⟩ := inv.single
    refine ⟨id, fun document mem => ?_, answers⟩
    obtain ⟨there, created, status⟩ : document ∈ tables.documents ∧ document.id ∈ state.created ∧
        document.status ≠ .failed := by simpa [IngestState.alive] using mem
    rw [documents] at there
    obtain ⟨old, oldMem, same, now⟩ := mem_setStatus there
    -- A document that is alive now was alive before, so it is the one that was.
    have oldAlive : old.status ≠ .failed := by
      by_cases own : document.id = documentId
      · rw [now, if_pos own] at status
        exact unfailed status old oldMem (same.trans own)
      · rw [now, if_neg own] at status
        exact status
    have := alive old (by simp [IngestState.alive, oldMem, same, created, oldAlive])
    rw [← same, this]

/-! ## The ledger's steps -/

/-- A completion by a lease that no request holds any more. -/
theorem OneKey.complete (inv : OneKey endpoint state) {token : String} {response : IngestResponse}
    (responseStatus : Nat)
    (released : ∀ request, (state.requests request).lease? ≠ some (some token))
    (uncompleted : ∀ record, state.ledger.select? endpoint.request = some record →
      record.leaseToken = some token → record.status ≠ .completed)
    (named : 200 ≤ responseStatus ∧ responseStatus < 300 →
      ∃ id ∈ state.created, response.documentId = some id) :
    OneKey endpoint { state with
      ledger := endpoint.complete state responseStatus response (some token) } := by
  unfold IngestEndpoint.complete
  cases completeIdempotency_cases state.ledger endpoint.request state.clock responseStatus
      (endpoint.json.dumps response) token with
  | inl unchanged =>
    rw [unchanged]
    exact inv
  | inr accepted =>
    obtain ⟨record, present, same, owner, lapsed, done⟩ := accepted
    have found := inv.wellFormed.select? present same
    have key := inv.record record found
    have owned : record.leaseToken = some token := by
      obtain ⟨other, _, holds⟩ := key.token
      cases owner with
      | inl unowned => rw [unowned] at holds; cases holds
      | inr owned => exact owned
    rw [done]
    have written : (state.ledger.update (record.complete responseStatus
        (endpoint.json.dumps response))).select? endpoint.request =
          some (record.complete responseStatus (endpoint.json.dumps response)) :=
      select?_update found rfl same
    have kept : (state.ledger.update (record.complete responseStatus
        (endpoint.json.dumps response))).WellFormed := inv.wellFormed.update present rfl rfl
    refine inv.ledger kept ?_ ?_
    · intro other selected
      rw [written, Option.some.injEq] at selected
      subst selected
      refine ⟨key.digest, key.unexpired, key.token, fun completed => ?_, fun _ request holds => ?_⟩
      · have success : 200 ≤ responseStatus ∧ responseStatus < 300 := by
          by_contra failure
          simp [IdempotencyRecord.complete, failure] at completed
        obtain ⟨id, created, named⟩ := named success
        exact ⟨response, id, created, rfl, named⟩
      · have holds : (state.requests request).lease? = some record.leaseToken := holds
        rw [owned] at holds
        exact released request holds
    -- Nobody reads yet: the record was not completed before.
    · intro request read
      obtain ⟨other, selected, completed⟩ := inv.reading request read
      rw [found, Option.some.injEq] at selected
      subst selected
      exact absurd completed (uncompleted record found owned)

/-- One more token has been drawn. -/
theorem OneKey.issue (inv : OneKey endpoint state) (token : String) :
    OneKey endpoint { state with tokens := token :: state.tokens } :=
  { inv with
    record := fun record found =>
      { inv.record record found with
        token := by
          obtain ⟨drawn, there, holds⟩ := (inv.record record found).token
          exact ⟨drawn, List.mem_cons_of_mem _ there, holds⟩ }
    held := fun request lease holds => by
      obtain ⟨drawn, there, same⟩ := inv.held request lease holds
      exact ⟨drawn, List.mem_cons_of_mem _ there, same⟩ }

/-- A request gets a new lease, with a row that carries it. -/
theorem OneKey.lease (inv : OneKey endpoint state) (request : Nat) {token : String}
    (fresh : token ∉ state.tokens) {ledger : IdempotencyTable} {record : IdempotencyRecord}
    (wellFormed : ledger.WellFormed) (found : ledger.select? endpoint.request = some record)
    (digest : record.requestHash = endpoint.digest) (unexpired : record.expiredAt state.clock = false)
    (holds : record.leaseToken = some token) (processing : record.status = .processing)
    (unread : ∀ other, state.requests other ≠ .reading) :
    OneKey endpoint { state.go request (.inserting (some token)) with
      tokens := token :: state.tokens
      ledger := ledger } where
  below := inv.below
  createdBelow := inv.createdBelow
  working other id works := by
    simp only [IngestState.go_requests] at works
    split at works
    · cases works
    · exact inv.working other id works
  distinct first second id firstWorks secondWorks := by
    simp only [IngestState.go_requests] at firstWorks secondWorks
    split at firstWorks
    · cases firstWorks
    · split at secondWorks
      · cases secondWorks
      · exact inv.distinct first second id firstWorks secondWorks
  named other response given := by
    simp only [IngestState.go_requests] at given
    split at given
    · cases given
    · exact inv.named other response given
  wellFormed := wellFormed
  record other selected := by
    have same : other = record := Option.some.inj (selected.symm.trans found)
    rw [same]
    refine ⟨digest, unexpired, ⟨token, List.mem_cons_self, holds⟩, ?_, ?_⟩ <;>
      (rw [processing]; intro completed; cases completed)
  reading other read := by
    simp only [IngestState.go_requests] at read
    split at read
    · cases read
    · exact absurd read (unread other)
  held other lease holds := by
    simp only [IngestState.go_requests] at holds
    split at holds
    · cases holds
      exact ⟨token, List.mem_cons_self, rfl⟩
    · obtain ⟨drawn, there, same⟩ := inv.held other lease holds
      exact ⟨drawn, List.mem_cons_of_mem _ there, same⟩
  leases first second lease firstHolds secondHolds := by
    simp only [IngestState.go_requests] at firstHolds secondHolds
    -- an older lease is not the fresh token
    have older : ∀ other, (state.requests other).lease? = some lease → lease ≠ some token := by
      intro other holds same
      obtain ⟨drawn, there, equal⟩ := inv.held other lease holds
      rw [same, Option.some.injEq] at equal
      exact fresh (equal ▸ there)
    split at firstHolds <;> split at secondHolds
    · omega
    · cases firstHolds
      exact absurd rfl (older second secondHolds)
    · cases secondHolds
      exact absurd rfl (older first firstHolds)
    · exact inv.leases first second lease firstHolds secondHolds
  single := by
    obtain ⟨id, alive, answers⟩ := inv.single
    refine ⟨id, alive, fun other response given => ?_⟩
    simp only [IngestState.go_requests] at given
    split at given
    · cases given
    · exact answers other response given

/-- A completed record is neither expired nor without a reference, so no step of
`begin_idempotency` but the replay is taken while a request reads it. -/
theorem OneKey.unread (inv : OneKey endpoint state)
    (unreplayable : ∀ record, state.ledger.select? endpoint.request = some record →
      ¬(record.status = .completed ∧ record.hasReference = true)) (other : Nat) :
    state.requests other ≠ .reading := by
  intro read
  obtain ⟨record, found, completed⟩ := inv.reading other read
  obtain ⟨response, id, _, reference, _⟩ := (inv.record record found).reference completed
  apply unreplayable record found
  refine ⟨completed, ?_⟩
  simp [IdempotencyRecord.hasReference, reference, endpoint.json.dumps_ne]

theorem OneKey.began (inv : OneKey endpoint state) (request attempts : Nat) {token : String}
    (fresh : token ∉ state.tokens) :
    OneKey endpoint
      { state.go request (.begun attempts
          (beginIdempotency state.ledger endpoint.request attempts state.clock token).2) with
        tokens := token :: state.tokens
        ledger := (beginIdempotency state.ledger endpoint.request attempts state.clock token).1 } := by
  have kept := beginIdempotency_wellFormed inv.wellFormed endpoint.request attempts state.clock token
  have begun := beginIdempotency_begun state.ledger endpoint.request attempts state.clock token
  generalize beginIdempotency state.ledger endpoint.request attempts state.clock token = ending
    at begun kept
  cases begun with
  | inserted absent =>
    apply inv.lease request fresh kept (kept.select? (List.mem_append_right _ List.mem_cons_self) rfl) rfl
      (by simp [IdempotencyRecord.expiredAt, IdempotencyRequest.freshRecord]) rfl rfl
    apply inv.unread
    intro record found
    obtain ⟨present, same⟩ := select?_some found
    exact absurd same (absent record present)
  | expired present same completed lapsed =>
    -- The record of the key does not expire while these requests run.
    have unexpired := (inv.record _ (inv.wellFormed.select? present same)).unexpired
    rw [lapsed] at unexpired
    cases unexpired
  | @refused result unreturned =>
    cases result with
    | returned outcome => exact absurd rfl (unreturned outcome)
    | again => exact (inv.go (.idle (by simp [IngestPoint.begun])) (by simp [IngestPoint.begun])).issue token
    | raised => exact (inv.go (.idle (by simp [IngestPoint.begun])) (by simp [IngestPoint.begun])).issue token
  | @replayed existing present same digest completed reference =>
    have found := inv.wellFormed.select? present same
    have onward : Onward endpoint state request .reading :=
      ⟨by simp [IngestPoint.lease?], by simp [IngestPoint.working?], by simp [IngestPoint.response?],
        fun _ => ⟨existing, found, completed⟩⟩
    exact (inv.go onward (by simp)).issue token
  | @restarted existing present same digest failed =>
    have found := inv.wellFormed.select? present same
    apply inv.lease request fresh kept (select?_update found rfl same) digest
      (by simp [IdempotencyRecord.expiredAt, IdempotencyRecord.restart]) rfl rfl
    apply inv.unread
    intro record selected
    rw [found, Option.some.injEq] at selected
    simp [← selected, failed]
  | @reclaimed existing present same digest unreplayable unfailed lapsed =>
    have found := inv.wellFormed.select? present same
    apply inv.lease request fresh kept (select?_update found rfl same) digest
      (inv.record existing found).unexpired rfl rfl
    apply inv.unread
    intro record selected
    rw [found, Option.some.injEq] at selected
    exact selected ▸ unreplayable

/-! ## A step of a request -/

theorem OneKey.cachedResponse (inv : OneKey endpoint state) {request : Nat}
    (read : state.requests request = .reading) :
    ∃ id ∈ state.created, (endpoint.cachedResponse state.ledger).documentId = some id := by
  obtain ⟨record, found, completed⟩ := inv.reading request read
  obtain ⟨response, id, created, reference, named⟩ := (inv.record record found).reference completed
  refine ⟨id, created, ?_⟩
  rw [IngestEndpoint.cachedResponse, readCachedResponse_of_completed found completed, reference]
  simp [endpoint.json.dumps_ne, endpoint.json.loads_dumps, named]

/-- A new document, while no other one is alive and nobody has been answered. -/
theorem OneKey.inserted (inv : OneKey endpoint state) {request : Nat} {leaseToken : Option String}
    {document : Document} {tables : Tables} (point : state.requests request = .inserting leaseToken)
    (alone : state.alive = [] ∧ Unanswered state)
    (stored : state.tables.insertDocument endpoint.organizationId endpoint.title .queued
      (some endpoint.userId) = some (document, tables)) :
    OneKey endpoint { state.go request (.enqueueing leaseToken document.id) with
      tables := tables
      created := document.id :: state.created } := by
  obtain ⟨-, fresh, rfl⟩ := Tables.insertDocument_eq_some.mp stored
  have named : document.id = state.tables.documentSequence := by rw [fresh]
  -- the request keeps its lease
  have held : ∀ other lease, ((state.go request (.enqueueing leaseToken document.id)).requests
      other).lease? = some lease → (state.requests other).lease? = some lease := by
    intro other lease holds
    rw [IngestState.go_requests] at holds
    split at holds
    next same =>
      subst same
      rw [point]
      exact holds
    next => exact holds
  have unheld : ∀ other, (state.requests other).working? ≠ some document.id := by
    intro other works
    have := inv.createdBelow document.id (inv.working other document.id works).1
    omega
  exact
  { below := by
      intro other mem
      cases List.mem_append.mp mem with
      | inl old => exact Nat.lt_succ_of_lt (inv.below other old)
      | inr new => rw [List.mem_singleton.mp new, named]; exact Nat.lt_succ_self _
    createdBelow := by
      intro other mem
      cases List.mem_cons.mp mem with
      | inl new => rw [new, named]; exact Nat.lt_succ_self _
      | inr old => exact Nat.lt_succ_of_lt (inv.createdBelow other old)
    working := by
      intro other id works
      simp only [IngestState.go_requests] at works
      split at works
      · cases works
        refine ⟨List.mem_cons_self, fun row mem same => ?_⟩
        cases List.mem_append.mp mem with
        | inl old => exact absurd same (Nat.ne_of_lt (named ▸ inv.below row old))
        | inr new => simp [List.mem_singleton.mp new, fresh]
      · obtain ⟨there, unfailed⟩ := inv.working other id works
        refine ⟨List.mem_cons_of_mem _ there, fun row mem same => ?_⟩
        cases List.mem_append.mp mem with
        | inl old => exact unfailed row old same
        | inr new => simp [List.mem_singleton.mp new, fresh]
    distinct := by
      intro first second id firstWorks secondWorks
      simp only [IngestState.go_requests] at firstWorks secondWorks
      split at firstWorks <;> split at secondWorks
      · omega
      · cases firstWorks
        exact absurd secondWorks (unheld second)
      · cases secondWorks
        exact absurd firstWorks (unheld first)
      · exact inv.distinct first second id firstWorks secondWorks
    named := by
      intro other response given
      simp only [IngestState.go_requests] at given
      split at given
      · cases given
      · obtain ⟨named, there, same⟩ := inv.named other response given
        exact ⟨named, List.mem_cons_of_mem _ there, same⟩
    wellFormed := inv.wellFormed
    record := by
      intro record found
      have key := inv.record record found
      refine ⟨key.digest, key.unexpired, key.token, fun completed => ?_, fun completed other holds => ?_⟩
      · obtain ⟨response, id, there, reference⟩ := key.reference completed
        exact ⟨response, id, List.mem_cons_of_mem _ there, reference⟩
      · exact key.released completed other (held other _ holds)
    reading := by
      intro other read
      simp only [IngestState.go_requests] at read
      split at read
      · cases read
      · exact inv.reading other read
    held := fun other lease holds => inv.held other lease (held other lease holds)
    leases := fun first second lease firstHolds secondHolds =>
      inv.leases first second lease (held first lease firstHolds) (held second lease secondHolds)
    single := by
      obtain ⟨nothing, unanswered⟩ := alone
      refine ⟨document.id, fun other mem => ?_, fun other response given => ?_⟩
      · obtain ⟨there, created, unfailed⟩ :
            (other ∈ state.tables.documents ∨ other = document) ∧
              (other.id = document.id ∨ other.id ∈ state.created) ∧ other.status ≠ .failed := by
          simpa [IngestState.alive, ← or_and_right] using mem
        cases there with
        | inr new => rw [new]
        | inl old =>
          cases created with
          | inl same => exact same
          | inr created =>
            have alive : other ∈ state.alive := by simp [IngestState.alive, old, created, unfailed]
            simp [nothing] at alive
      · simp only [IngestState.go_requests] at given
        split at given
        · cases given
        · exact absurd given (unanswered other response) }

/-- The request gives up its lease with a completion. -/
theorem OneKey.released (inv : OneKey endpoint state) {request : Nat} {leaseToken : Option String}
    {point : IngestPoint} {responseStatus : Nat} {response : IngestResponse}
    (onward : Onward endpoint state request point)
    (unanswered : ∀ response, point ≠ .ended (some response)) (released : point.lease? = none)
    (holds : (state.requests request).lease? = some leaseToken)
    (named : 200 ≤ responseStatus ∧ responseStatus < 300 →
      ∃ id ∈ state.created, response.documentId = some id) :
    OneKey endpoint { state.go request point with
      ledger := endpoint.complete state responseStatus response leaseToken } := by
  obtain ⟨token, -, rfl⟩ := inv.held request leaseToken holds
  apply (inv.go onward unanswered).complete responseStatus _ _ named
  · intro other otherHolds
    rw [IngestState.go_requests] at otherHolds
    split at otherHolds
    · rw [released] at otherHolds
      cases otherHolds
    next different => exact different (inv.leases other request _ otherHolds holds)
  · intro record found owned completed
    exact (inv.record record found).released completed request (by rw [holds, owned])

theorem Onward.enqueued {request documentId : Nat} {leaseToken : Option String}
    (point : state.requests request = .enqueueing leaseToken documentId) (outcome : EnqueueOutcome)
    (created : documentId ∈ state.created) :
    Onward endpoint state request (endpoint.enqueued leaseToken documentId outcome) := by
  cases outcome with
  | job =>
    constructor <;>
      simp [IngestEndpoint.enqueued, point, IngestPoint.lease?, IngestPoint.working?,
        IngestPoint.response?, IngestResponse.documentId, created]
  | raised =>
    constructor <;>
      simp [IngestEndpoint.enqueued, point, IngestPoint.lease?, IngestPoint.working?, IngestPoint.response?]
  | unavailable =>
    unfold IngestEndpoint.enqueued
    cases endpoint.allowSyncIngestFallback <;> constructor <;>
      simp [point, IngestPoint.lease?, IngestPoint.working?, IngestPoint.response?]

/-- An answer with a document that is alive, or with the only one there is. -/
theorem OneDocument.returned (single : OneDocument state) {request id : Nat} {response : IngestResponse}
    (named : response.documentId = some id)
    (only : (∃ document ∈ state.alive, document.id = id) ∨
      ((∀ document ∈ state.alive, document.id = id) ∧
        ∀ other answer, state.requests other = .ended (some answer) → answer.documentId = some id)) :
    OneDocument (state.go request (.ended (some response))) := by
  obtain ⟨one, alive, answers⟩ : ∃ one, (∀ document ∈ state.alive, document.id = one) ∧
      (∀ other answer, state.requests other = .ended (some answer) → answer.documentId = some one) ∧
        one = id := by
    cases only with
    | inl present =>
      obtain ⟨document, there, same⟩ := present
      obtain ⟨one, alive, answers⟩ := single
      exact ⟨one, alive, answers, (alive document there).symm.trans same⟩
    | inr both => exact ⟨id, both.1, both.2, rfl⟩
  obtain ⟨answers, rfl⟩ := answers
  refine ⟨one, alive, fun other answer given => ?_⟩
  rw [IngestState.go_requests] at given
  split at given
  · cases given
    exact named
  · exact answers other answer given

/-- A step of a request that is alone keeps the invariant. -/
theorem OneKey.step {label : IngestLabel} (inv : OneKey endpoint state) (alone : Alone state label)
    (moved : endpoint.Moves state label next) : OneKey endpoint next := by
  cases moved with
  | ticked elapsed unexpired =>
    exact { inv with
      record := fun record found => { inv.record record found with unexpired := unexpired record found } }
  | began request attempts token point fresh => exact inv.began request attempts fresh
  | read request point =>
    refine inv.go ⟨by simp [IngestPoint.lease?], by simp [IngestPoint.working?], ?_, by simp⟩ (by simp)
    rintro response ⟨⟩
    exact inv.cachedResponse point
  | inserted request leaseToken document tables point stored => exact inv.inserted point alone stored
  | enqueued request leaseToken documentId outcome point =>
    obtain ⟨created, -⟩ := inv.working request documentId (by rw [point]; rfl)
    apply inv.go (.enqueued point outcome created)
    cases outcome with
    | unavailable => simp only [IngestEndpoint.enqueued]; split <;> simp
    | job | raised => simp [IngestEndpoint.enqueued]
  | failed request leaseToken documentId recorded point =>
    have works : (state.requests request).working? = some documentId := by rw [point]; rfl
    have moved : OneKey endpoint (state.go request
        (if recorded then .recordingFailure leaseToken documentId else .ended none)) := by
      cases recorded with
      | false => exact inv.go (.idle (.inl rfl)) (by simp)
      | true =>
        apply inv.go _ (by simp)
        constructor <;> simp [point, IngestPoint.lease?, IngestPoint.working?, IngestPoint.response?]
    apply moved.setStatus rfl rfl _ (by simp)
    -- nobody else works on the document
    intro _ other otherWorks
    rw [IngestState.go_requests] at otherWorks
    split at otherWorks
    · cases recorded <;> cases otherWorks
    next different => exact different (inv.distinct other request documentId otherWorks works)
  | recorded request leaseToken documentId point =>
    apply inv.released (.idle (.inl rfl)) (by simp) rfl (by rw [point]; rfl)
    omega
  | processing request leaseToken documentId point =>
    obtain ⟨_, unfailed⟩ := inv.working request documentId (by rw [point]; rfl)
    have moved : OneKey endpoint (state.go request (.storing leaseToken documentId)) := by
      apply inv.go _ (by simp)
      constructor <;> simp [point, IngestPoint.lease?, IngestPoint.working?, IngestPoint.response?]
    exact moved.setStatus rfl rfl (by simp) fun _ => unfailed
  | stored request leaseToken documentId embed inserted point written =>
    obtain ⟨-, rfl⟩ := Tables.insertChunks_eq_some.mp written
    have works : (state.requests request).working? = some documentId := by rw [point]; rfl
    obtain ⟨created, unfailed⟩ := inv.working request documentId works
    generalize (if 0 < (endpoint.fallbackChunks embed documentId).length then DocumentStatus.ready
      else .failed) = status
    have moved : OneKey endpoint (state.go request (.completing leaseToken (.stored status documentId
        (endpoint.fallbackChunks embed documentId).length endpoint.title))) := by
      apply inv.go _ (by simp)
      constructor <;>
        simp [point, IngestPoint.lease?, IngestPoint.working?, IngestPoint.response?,
          IngestResponse.documentId, created]
    have left : ∀ other, ((state.go request (.completing leaseToken (.stored status documentId
        (endpoint.fallbackChunks embed documentId).length endpoint.title))).requests
          other).working? ≠ some documentId := by
      intro other otherWorks
      rw [IngestState.go_requests] at otherWorks
      split at otherWorks
      · cases otherWorks
      next different => exact different (inv.distinct other request documentId otherWorks works)
    exact moved.setStatus rfl rfl (fun _ => left) fun _ => unfailed
  | completed request leaseToken response point =>
    have given := inv.named request response (by rw [point]; rfl)
    apply inv.released _ (by simp) rfl (by rw [point]; rfl) (fun _ => given)
    constructor <;> simp [point, IngestPoint.lease?, IngestPoint.working?, IngestPoint.response?, given]
  | returned request response point =>
    obtain ⟨id, created, named⟩ := inv.named request response (by rw [point]; rfl)
    apply inv.goTo
    · constructor <;>
        simp [IngestPoint.lease?, IngestPoint.working?, IngestPoint.response?, named, created]
    · apply inv.single.returned named
      exact alone response id point named
  | crashed request running => exact inv.go (.idle (.inl rfl)) (by simp)

/-- A document beside another one, or beside an answer that names another one. -/
theorem OneKey.broken {label : IngestLabel} (inv : OneKey endpoint state)
    (crowded : ¬Alone state label) (moved : endpoint.Moves state label next) : ¬OneDocument next := by
  rintro ⟨one, alive, answers⟩
  cases moved with
  | inserted request leaseToken document tables point stored =>
    obtain ⟨-, fresh, rfl⟩ := Tables.insertDocument_eq_some.mp stored
    have named : document.id = state.tables.documentSequence := by rw [fresh]
    -- The new document is alive, so it has to be the one.
    have new : document.id = one := by
      apply alive
      simp [IngestState.alive, fresh]
    apply crowded
    refine ⟨List.eq_nil_iff_forall_not_mem.mpr fun other mem => ?_, fun other response given => ?_⟩
    · obtain ⟨there, created, unfailed⟩ : other ∈ state.tables.documents ∧ other.id ∈ state.created ∧
          other.status ≠ .failed := by simpa [IngestState.alive] using mem
      have same : other.id = one := by
        apply alive
        simp [IngestState.alive, there, created, unfailed]
      have := inv.below other there
      omega
    -- An answer that was given names a document from before.
    · obtain ⟨id, created, same⟩ := inv.named other response (by rw [given]; rfl)
      have answer : response.documentId = some one := by
        apply answers other response
        rw [IngestState.go_requests, if_neg]
        · exact given
        · rintro rfl
          rw [point] at given
          cases given
      rw [same, Option.some.injEq] at answer
      have := inv.createdBelow id created
      omega
  | returned request response point =>
    apply crowded
    intro given id here named
    have same : response = given := by simpa using point.symm.trans here
    have answer : response.documentId = some one := answers request response (by simp)
    rw [same, named, Option.some.injEq] at answer
    subst answer
    refine .inr ⟨alive, fun other answer earlier => ?_⟩
    apply answers other answer
    rw [IngestState.go_requests, if_neg]
    · exact earlier
    · rintro rfl
      rw [point] at earlier
      cases earlier
  | ticked | began | read | enqueued | failed | recorded | processing | stored | completed | crashed =>
    exact crowded trivial

/-! ## Runs -/

/-- The key is new, and the ids of the documents have been given out. -/
structure IngestEndpoint.Unused (endpoint : IngestEndpoint) (ledger : IdempotencyTable) (tables : Tables) :
    Prop where
  wellFormed : ledger.WellFormed
  unrecorded : ledger.select? endpoint.request = none
  below : ∀ document ∈ tables.documents, document.id < tables.documentSequence

theorem OneKey.start {clock : Instant} {ledger : IdempotencyTable} {tables : Tables}
    (unused : endpoint.Unused ledger tables) : OneKey endpoint (.start clock ledger tables) where
  below := unused.below
  createdBelow _ mem := by cases mem
  working _ _ works := by cases works
  distinct _ _ _ works := by cases works
  named _ _ given := by cases given
  wellFormed := unused.wellFormed
  record record found := by
    rw [IngestState.start, unused.unrecorded] at found
    cases found
  reading _ read := by cases read
  held _ _ holds := by cases holds
  leases _ _ _ holds := by cases holds
  single := ⟨0, by simp [IngestState.start, IngestState.alive], fun _ _ given => by cases given⟩

/-- In every state of a run there is one document for the key, exactly when every request of
it was alone. -/
theorem ingest_one_document_iff (endpoint : IngestEndpoint) (clock : Instant) (ledger : IdempotencyTable)
    (tables : Tables) (unused : endpoint.Unused ledger tables) (labels : List IngestLabel)
    (final : IngestState)
    (ran : Transition.run endpoint.step (.start clock ledger tables) labels = some final) :
    Transition.Always endpoint.step OneDocument (.start clock ledger tables) labels ↔
      Transition.Throughout endpoint.step Alone (.start clock ledger tables) labels :=
  (Transition.throughout_iff_always_of_run (OneKey endpoint) OneDocument
    (fun _ _ _ inv alone stepped => inv.step alone (IngestEndpoint.moves_of_step stepped))
    (fun _ inv => inv.single)
    (fun _ _ _ inv crowded stepped => inv.broken crowded (IngestEndpoint.moves_of_step stepped))
    (OneKey.start unused) ran).symm

/-! ## A lease that lapses before the document is queued -/

instance encodableChar : Encodable Char := Encodable.ofLeftInverse Char.toNat Char.ofNat Char.ofNat_toNat

instance encodableString : Encodable String := Encodable.ofLeftInverse String.toList String.ofList (by simp)

deriving instance Encodable for DocumentStatus

deriving instance Encodable for IngestResponse

def tidesAnswer : IngestResponse := .queued 2 "document-ingest:1:2" "Tides"

def tidesText : String :=
  "\x7b\"status\": \"queued\", \"document_id\": 2, \"job_id\": \"document-ingest:1:2\", " ++
    "\"mode\": \"async\", \"title\": \"Tides\"\x7d"

/-- The text of `tidesAnswer`, and a text of its own for each other response. -/
def tidesJson : IngestJson where
  dumps response :=
    if response = tidesAnswer then tidesText
    else String.ofList (List.replicate (Encodable.encode response + 1) '0')
  loads text :=
    if text = tidesText then some tidesAnswer else Encodable.decode (text.toList.length - 1)
  loads_dumps response := by
    by_cases answer : response = tidesAnswer
    · simp [answer]
    · have head : tidesText.toList.head? ≠ some '0' := by decide +kernel
      have other : String.ofList (List.replicate (Encodable.encode response + 1) '0') ≠ tidesText := by
        intro same
        apply head
        rw [← same]
        simp [List.replicate_succ]
      simp [answer, other]
  dumps_ne response := by
    split
    · decide +kernel
    · intro same
      simp [List.replicate_succ] at same

def tidesEndpoint : IngestEndpoint :=
  ⟨1, 1, "tides", "digest", "Tides", "High tide at noon.", false, tidesJson⟩

def shelf : Tables := { documents := [⟨1, 1, "Moon", .ready, some 1⟩], documentSequence := 2 }

theorem shelf_unused : tidesEndpoint.Unused ⟨[], 0⟩ shelf :=
  ⟨wellFormed_empty, rfl, by decide⟩

def tidesIngest : List IngestLabel :=
  [.act 0 (.began "first"), .act 0 .inserted, .act 0 (.enqueued .job), .act 0 .completed, .act 0 .returned,
    .act 1 (.began "second"), .act 1 .read, .act 1 .returned]

theorem tidesIngest_alone :
    Transition.Throughout tidesEndpoint.step Alone (.start 0 ⟨[], 0⟩ shelf) tidesIngest := by
  refine ⟨trivial, ?_⟩
  show Alone _ _ ∧ True ∧ True ∧ Alone _ _ ∧ True ∧ True ∧ Alone _ _ ∧ True
  refine ⟨⟨by decide +kernel, ?_⟩, trivial, trivial, ?_, trivial, trivial, ?_, trivial⟩
  · intro request response
    by_cases own : request = 0
    · subst own
      intro given
      cases given
    · rw [IngestState.go_requests, if_neg own]
      simp [IngestState.start]
  · intro response id given named
    cases given
    cases named
    exact .inl (by decide +kernel)
  · intro response id given named
    have same : IngestPoint.returning response = .returning tidesAnswer :=
      given.symm.trans (by decide +kernel)
    cases same
    cases named
    exact .inl (by decide +kernel)

theorem ingest_one_document_iff_tides :
    ∃ final, Transition.run tidesEndpoint.step (.start 0 ⟨[], 0⟩ shelf) tidesIngest = some final ∧
      final.requests 0 = .ended (some tidesAnswer) ∧ final.requests 1 = .ended (some tidesAnswer) ∧
      Transition.Always tidesEndpoint.step OneDocument (.start 0 ⟨[], 0⟩ shelf) tidesIngest := by
  have answers : (Transition.run tidesEndpoint.step (.start 0 ⟨[], 0⟩ shelf) tidesIngest).map
      (fun state => (state.requests 0, state.requests 1)) =
        some (.ended (some tidesAnswer), .ended (some tidesAnswer)) := by decide +kernel
  obtain ⟨final, ran, given⟩ := Option.map_eq_some_iff.mp answers
  have ⟨first, second⟩ := Prod.mk.inj given
  exact ⟨final, ran, first, second, (ingest_one_document_iff tidesEndpoint 0 ⟨[], 0⟩ shelf shelf_unused
    tidesIngest final ran).mpr tidesIngest_alone⟩

/-- The second request takes over a lease that has lapsed, and inserts a second document. -/
theorem lapsed_lease_two_documents :
    ¬∀ (endpoint : IngestEndpoint) (clock : Instant) (ledger : IdempotencyTable) (tables : Tables),
      endpoint.Unused ledger tables → ∀ labels : List IngestLabel,
        Transition.Always endpoint.step OneDocument (.start clock ledger tables) labels := by
  intro always
  let labels : List IngestLabel :=
    [.act 0 (.began "first"), .act 0 .inserted, .tick (121 * 1000000), .act 1 (.began "second"),
      .act 1 .inserted]
  have ids : (Transition.run tidesEndpoint.step (.start 0 ⟨[], 0⟩ shelf) labels).map
      (fun state => state.alive.map Document.id) = some [2, 3] := by decide +kernel
  obtain ⟨final, ran, written⟩ := Option.map_eq_some_iff.mp ids
  obtain ⟨one, alive, -⟩ := always tidesEndpoint 0 ⟨[], 0⟩ shelf shelf_unused labels labels
    (List.prefix_refl labels) final ran
  have both : ∀ id ∈ final.alive.map Document.id, id = one := by simpa using alive
  rw [written] at both
  have first := both 2 (by simp)
  have second := both 3 (by simp)
  omega

end Eiraos.Documents
