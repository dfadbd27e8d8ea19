import Eiraos.Persistence.Completed

/-! # Calls under a superseded token

Once a newer token is handed out for a record, the older one is on no row and never comes
back to one.  Every branch of the contract that checks the lease then refuses; three
branches check none: streaming a prepared execution, the first persist of a record, and
finalizing an execution whose record was deleted.  `fenced` says that a call is not about
to take one of them.
-/

namespace Eiraos

open IdempotencyTable RequestState

def Unheld (database : Database) (token : String) : Prop :=
  ∀ record ∈ database.idempotency.rows, record.leaseToken ≠ some token

/-- The calls of the contract made by the request with this token. -/
def RequestLabel.calledBy (token : String) : RequestLabel → Bool
  | .assertRecoveryAllowed caller _ => caller = token
  | .prepareExchange caller _ _ => caller = token
  | .markStreaming caller _ => caller = token
  | .finalize caller _ _ => caller = token
  | _ => false

section Fenced

variable (executionIdentity : Nat × Nat × String → Nat → String)

/-- The call does not reach a branch that writes without a lease check. -/
def fenced (state : RequestState) : RequestLabel → Bool
  | .prepareExchange token _ exchange =>
    (state.caller? token).all fun caller =>
      (state.database.execution? (executionOf executionIdentity caller)).isSome ||
        !state.database.admits (exchangeOf executionIdentity caller exchange)
  | .markStreaming token _ =>
    (state.caller? token).all fun caller =>
      (state.database.execution? (executionOf executionIdentity caller)).all fun execution =>
        execution.status ≠ .prepared
  | .finalize token _ _ =>
    (state.caller? token).all fun caller =>
      (state.database.execution? (executionOf executionIdentity caller)).all fun execution =>
        execution.status.isTerminal || execution.idempotencyRecordId.isSome
  | _ => true

end Fenced

/-! ## A superseded token stays superseded -/

section Unheld

variable {database : Database} {requests : List LeasedRequest} {caller : LeasedRequest}

theorem Unheld.ledgerChange {requests' : List LeasedRequest} {table : IdempotencyTable}
    (unheld : Unheld database caller.token) (member : caller ∈ requests)
    (change : LedgerChange requests requests' database.idempotency table) :
    Unheld (database.withIdempotency table) caller.token := by
  intro after afterMem same
  rcases change.carried after afterMem with ⟨record, recordMem, carried⟩ | unissued
  · exact unheld record recordMem (carried.trans same)
  · exact unissued caller member same

theorem Unheld.touched {after : Database} {leaseToken : Option String} {now : Instant}
    {completes : Prop} {token : String} (unheld : Unheld database token)
    (touched : Touched database leaseToken now completes after) : Unheld after token := by
  cases touched with
  | unchanged => exact unheld
  | inserted => exact unheld
  | rewritten _ _ _ _ _ _ _ table =>
    unfold Unheld
    rcases table with ⟨sameTable, _⟩ | ⟨record, changed, owner, _, _, changedToken, updated, _⟩
    · rw [sameTable]
      exact unheld
    · rw [updated]
      exact unheld_update unheld (by rw [changedToken]; exact unheld record owner.recordMem)

/-- A lease owner's token is on a row. -/
theorem Unheld.no_owner {execution : ChatExecution} {now : Instant} {record : IdempotencyRecord}
    {token : String} (unheld : Unheld database token) :
    ¬LeaseOwner database execution (some token) now record :=
  fun owner => unheld record owner.recordMem owner.owned

end Unheld

/-- The request was superseded: it is known, and its token is on no row. -/
structure SupersededRequest (state : RequestState) (token : String) : Prop where
  invariant : RequestInvariant state.database state.requests
  known : ∃ caller ∈ state.requests, caller.token = token
  unheld : Unheld state.database token

theorem SupersededRequest.step {executionIdentity : Nat × Nat × String → Nat → String}
    {state next : RequestState} {label : RequestLabel} {token : String}
    (superseded : SupersededRequest state token)
    (stepped : RequestState.step executionIdentity state label = some next) :
    SupersededRequest next token := by
  obtain ⟨invariant, ⟨caller, member, rfl⟩, unheld⟩ := superseded
  refine ⟨invariant.step stepped, ?_, ?_⟩
  · cases step_moved invariant stepped with
    | ticked => exact ⟨caller, member, rfl⟩
    | ledger change => exact ⟨caller, change.kept caller member, rfl⟩
    | @called _ _ marked _ _ _ _ _ =>
      by_cases isMarked : caller.token = marked.token
      · exact ⟨marked, Rows.mem_replace_self member isMarked, isMarked.symm⟩
      · exact ⟨caller, Rows.mem_replace_of_ne member isMarked, rfl⟩
  · cases step_moved invariant stepped with
    | ticked => exact unheld
    | ledger change => exact unheld.ledgerChange member change
    | called _ _ _ touched => exact unheld.touched touched

/-! ## What a superseded call can do -/

/-- Streaming an execution that is streaming already writes what is there. -/
theorem LedgerInvariant.streamed_eq {database : Database} {history : List LedgerEvent}
    {executionId : String} {execution : ChatExecution} {assistant : Message}
    (invariant : LedgerInvariant database history)
    (located : Located database executionId execution assistant)
    (streaming : execution.status = .streaming) : database.streamed execution assistant = database := by
  have agree := ((invariant.represented execution located.executionMem).located_eq located).2.status
  rw [streaming] at agree
  have sameExecution : { execution with status := .streaming } = execution := by
    rw [← streaming]
  have sameAssistant : { assistant with status := .streaming } = assistant := by
    have agree : assistant.status = .streaming := agree
    rw [← agree]
  have executions := Rows.replace_self invariant.ids located.executionMem
  have messages := Rows.replace_self invariant.messageIds located.assistantMem
  simp only [Database.streamed, Database.updateExecution, Database.updateMessage, sameExecution,
    sameAssistant, executions, messages]

theorem caller?_of_mem {state : RequestState} {caller : LeasedRequest}
    (tokens : Rows.Unique LeasedRequest.token state.requests) (member : caller ∈ state.requests) :
    state.caller? caller.token = some caller :=
  tokens.find?_eq_some member

/-- A fenced call under a superseded token leaves every table as it was. -/
theorem SupersededRequest.call_unchanged {executionIdentity : Nat × Nat × String → Nat → String}
    {state next : RequestState} {label : RequestLabel} {token : String}
    (superseded : SupersededRequest state token) (calledBy : label.calledBy token = true)
    (isFenced : fenced executionIdentity state label = true)
    (stepped : RequestState.step executionIdentity state label = some next) :
    next.database = state.database := by
  obtain ⟨invariant, ⟨holder, holderMem, rfl⟩, unheld⟩ := superseded
  have found := caller?_of_mem invariant.tokens holderMem
  obtain ⟨history, ledger⟩ := invariant.ledger
  cases label with
  | tick => contradiction
  | begin => contradiction
  | renew => contradiction
  | failPreflight => contradiction
  | cleanup => contradiction
  | assertRecoveryAllowed token storage =>
    obtain rfl : token = holder.token := of_decide_eq_true calledBy
    simp only [RequestState.step, found, Option.map_some, Option.some.injEq] at stepped
    subst next
    have ended := assertRecoveryAllowed_ending storage state.database
      (executionOf executionIdentity holder) holder.recordId (some holder.token) state.clock
    generalize assertRecoveryAllowed storage state.database (executionOf executionIdentity holder)
      holder.recordId (some holder.token) state.clock = ending at ended
    cases ended with
    | unchanged => rfl
    | exhausted _ owner => exact absurd owner unheld.no_owner
  | prepareExchange token storage exchange =>
    obtain rfl : token = holder.token := of_decide_eq_true calledBy
    simp only [RequestState.step, found, Option.bind_some] at stepped
    split at stepped
    · contradiction
    · cases stepped
      have ended := prepareExchange_ending storage state.database
        (exchangeOf executionIdentity holder exchange) state.clock
      generalize prepareExchange storage state.database (exchangeOf executionIdentity holder exchange)
        state.clock = ending at ended
      cases ended with
      | refused => rfl
      | exhausted _ owner => exact absurd owner unheld.no_owner
      | recovered _ _ owner => exact absurd owner unheld.no_owner
      -- The fence has found the execution, and an insert finds none.
      | inserted absent admitted =>
        simp only [fenced, found, Option.all_some, admitted, Bool.not_true, Bool.or_false] at isFenced
        obtain ⟨execution, selected⟩ := Option.isSome_iff_exists.mp isFenced
        obtain ⟨executionMem, same⟩ := Database.execution?_some selected
        exact absurd same (absent execution executionMem)
  | markStreaming token storage =>
    obtain rfl : token = holder.token := of_decide_eq_true calledBy
    simp only [RequestState.step, found, Option.map_some, Option.some.injEq] at stepped
    subst next
    have ended := markStreaming_ending storage state.database (executionOf executionIdentity holder)
    generalize markStreaming storage state.database (executionOf executionIdentity holder) = ending
      at ended
    cases ended with
    | unchanged => rfl
    | @streamed execution assistant located running =>
      have selected := ledger.execution?_eq located.executionMem located.executionId
      simp only [fenced, found, Option.all_some, selected, decide_eq_true_eq] at isFenced
      -- Marking a streaming execution once more writes what is there.
      refine ledger.streamed_eq located ?_
      cases status : execution.status with
      | prepared => exact absurd status isFenced
      | streaming => rfl
      | terminal => rw [status] at running; contradiction
  | finalize token storage request =>
    obtain rfl : token = holder.token := of_decide_eq_true calledBy
    simp only [RequestState.step, found, Option.bind_some] at stepped
    split at stepped
    · cases stepped
      have ended := finalize_ending storage state.database
        (finalizeOf executionIdentity holder request) state.clock
      generalize finalize storage state.database (finalizeOf executionIdentity holder request)
        state.clock = ending at ended
      cases ended with
      | unchanged => rfl
      | finalized _ located running _ owner =>
        rcases owner with ⟨unbound, _⟩ | ⟨_, _, owner⟩
        -- Nothing checks the token on an unbound execution; the fence leaves that case out.
        · have selected := ledger.execution?_eq located.executionMem located.executionId
          simp only [finalizeOf] at selected
          simp [fenced, found, selected, running, unbound] at isFenced
        · exact absurd owner unheld.no_owner
    · contradiction

/-- Handing out a newer token for a record takes the older one off the row. -/
theorem superseded_by_begin {executionIdentity : Nat × Nat × String → Nat → String}
    {state next : RequestState} {request : IdempotencyRequest} {attempts : Nat} {token : String}
    {caller newer : LeasedRequest} (invariant : RequestInvariant state.database state.requests)
    (member : caller ∈ state.requests)
    (begun : RequestState.step executionIdentity state (.begin request attempts token) = some next)
    (granted : next.requests = state.requests ++ [newer]) (sameRecord : newer.recordId = caller.recordId) :
    SupersededRequest next caller.token := by
  have nextInvariant := invariant.step begun
  refine ⟨nextInvariant, ⟨caller, granted ▸ List.mem_append_left _ member, rfl⟩, ?_⟩
  intro row rowMem stale
  obtain ⟨holder, holderMem, carried, handed⟩ := nextInvariant.held row rowMem
  have isCaller : holder = caller := nextInvariant.tokens.eq holderMem
    (granted ▸ List.mem_append_left _ member) (Option.some.inj (carried.symm.trans stale))
  rw [isCaller] at handed
  simp only [RequestState.step] at begun
  split at begun
  · contradiction
  next unissued =>
    cases begun
    have leasedIs := List.append_cancel_left granted
    have differs : caller.token ≠ token := fun same =>
      unissued (List.any_eq_true.mpr ⟨caller, member, by simpa using same⟩)
    have wellFormed := nextInvariant.wellFormed
    -- The row the lease was granted on carries the newer token, and it is this row.
    have carriesNewer : ∀ record : IdempotencyRecord, record ∈ (state.database.withIdempotency
        (beginIdempotency state.database.idempotency request attempts state.clock token).1).idempotency.rows →
        record.leaseToken = some token → newer.recordId = record.id → False := by
      intro record recordMem leasedTo newerId
      have isRow : record = row :=
        wellFormed.ids.eq recordMem rowMem (newerId.symm.trans (sameRecord.trans handed))
      rw [isRow, stale] at leasedTo
      exact differs (Option.some.inj leasedTo)
    have begunAs := beginIdempotency_begun state.database.idempotency request attempts state.clock token
    generalize beginIdempotency state.database.idempotency request attempts state.clock token = ending
      at begunAs leasedIs carriesNewer
    cases begunAs with
    | inserted =>
      cases leasedIs
      exact carriesNewer _ (List.mem_append_right _ (List.mem_singleton_self _)) rfl rfl
    | @expired _ result _ _ _ _ unreturned =>
      cases result with
      | returned outcome => exact unreturned outcome rfl
      | again => cases leasedIs
      | raised => cases leasedIs
    | @refused result unreturned =>
      cases result with
      | returned outcome => exact unreturned outcome rfl
      | again => cases leasedIs
      | raised => cases leasedIs
    | replayed => cases leasedIs
    | restarted present =>
      cases leasedIs
      exact carriesNewer _ (Rows.mem_replace_self present rfl) rfl rfl
    | reclaimed present =>
      cases leasedIs
      exact carriesNewer _ (Rows.mem_replace_self present rfl) rfl rfl

/-- In every run after a newer token was handed out for the record of a request, whose
calls by that request are all fenced, none of these calls changes any table. -/
theorem superseded_calls_change_nothing {executionIdentity : Nat × Nat × String → Nat → String}
    {clock : Instant} {labels later : List RequestLabel} {state next : RequestState}
    {request : IdempotencyRequest} {attempts : Nat} {token : String} {caller newer : LeasedRequest}
    (reached : Transition.run (RequestState.step executionIdentity) (RequestState.initial clock) labels =
      some state)
    (member : caller ∈ state.requests)
    (begun : RequestState.step executionIdentity state (.begin request attempts token) = some next)
    (granted : next.requests = state.requests ++ [newer]) (sameRecord : newer.recordId = caller.recordId)
    (conditioned : Transition.Throughout (RequestState.step executionIdentity)
      (fun state label => label.calledBy caller.token = true →
        fenced executionIdentity state label = true) next later) :
    Transition.Throughout (RequestState.step executionIdentity)
      (fun state label => label.calledBy caller.token = true →
        ∀ after, RequestState.step executionIdentity state label = some after →
          after.database = state.database) next later :=
  Transition.throughout_of_invariant (fun state => SupersededRequest state caller.token)
    (fun _ _ _ superseded _ stepped => superseded.step stepped)
    (fun _ _ superseded isFenced calledBy _ stepped =>
      superseded.call_unchanged calledBy (isFenced calledBy) stepped)
    (superseded_by_begin (requestInvariant_reached reached) member begun granted sameRecord) conditioned

/-- A request whose lease was reclaimed tries to resume its execution. -/
theorem superseded_calls_change_nothing_recovery :
    ∃ state next : RequestState, ∃ caller ∈ state.requests, caller.token = "a" ∧
      Transition.run (RequestState.step fun _ _ => "execution") (RequestState.initial 0)
        [.begin ⟨1, 2, "key", "digest"⟩ 0 "a",
          .prepareExchange "a" .available ⟨"", "request", 1, 0, 0, 3, 1, "openai", "gpt-4o", "hello",
            none, 1026, 0, false, false, none, 3, none⟩,
          .tick (seconds 121)] = some state ∧
      RequestState.step (fun _ _ => "execution") state (.begin ⟨1, 2, "key", "digest"⟩ 0 "b") =
        some next ∧
      Transition.Throughout (RequestState.step fun _ _ => "execution")
        (fun state label => label.calledBy caller.token = true →
          ∀ after, RequestState.step (fun _ _ => "execution") state label = some after →
            after.database = state.database) next
        [.assertRecoveryAllowed "a" .available,
          .finalize "a" .available ⟨"", "completed", "answer", 200, "reference", none, none, []⟩] :=
  ⟨_, _, ⟨"a", ⟨1, 2, "key", "digest"⟩, 0, true, false⟩, List.mem_singleton_self _, rfl, rfl, rfl,
    @superseded_calls_change_nothing (fun _ _ => "execution") 0
      [.begin ⟨1, 2, "key", "digest"⟩ 0 "a",
        .prepareExchange "a" .available ⟨"", "request", 1, 0, 0, 3, 1, "openai", "gpt-4o", "hello",
          none, 1026, 0, false, false, none, 3, none⟩,
        .tick (seconds 121)]
      [.assertRecoveryAllowed "a" .available,
        .finalize "a" .available ⟨"", "completed", "answer", 200, "reference", none, none, []⟩]
      _ _ ⟨1, 2, "key", "digest"⟩ 0 "b" _ ⟨"b", ⟨1, 2, "key", "digest"⟩, 0, false, false⟩ rfl
      (List.mem_singleton_self _) rfl rfl rfl
      ⟨fun _ => rfl, fun _ => rfl, trivial⟩⟩

/-- Calls under a superseded token do change the tables: a worker that lost its lease after
its first persist still marks the execution as streaming. -/
theorem superseded_call_streams :
    ¬∀ (executionIdentity : Nat × Nat × String → Nat → String) (clock : Instant)
        (labels : List RequestLabel) (state next after : RequestState) (request : IdempotencyRequest)
        (attempts : Nat) (token : String) (caller newer : LeasedRequest) (label : RequestLabel),
      Transition.run (RequestState.step executionIdentity) (RequestState.initial clock) labels =
        some state → caller ∈ state.requests →
      RequestState.step executionIdentity state (.begin request attempts token) = some next →
      next.requests = state.requests ++ [newer] → newer.recordId = caller.recordId →
      label.calledBy caller.token = true →
      RequestState.step executionIdentity next label = some after →
      after.database = next.database := by
  intro unchanged
  have sameTables := unchanged (fun _ _ => "execution") 0
    [.begin ⟨1, 2, "key", "digest"⟩ 0 "a",
      .prepareExchange "a" .available ⟨"", "request", 1, 0, 0, 3, 1, "openai", "gpt-4o", "hello", none,
        1026, 0, false, false, none, 3, none⟩,
      .tick (seconds 121)] _ _ _ ⟨1, 2, "key", "digest"⟩ 0 "b"
    ⟨"a", ⟨1, 2, "key", "digest"⟩, 0, true, false⟩ ⟨"b", ⟨1, 2, "key", "digest"⟩, 0, false, false⟩
    (.markStreaming "a" .available) rfl (List.mem_singleton_self _) rfl rfl rfl rfl rfl
  have statuses := congrArg (fun database => database.executions.map ChatExecution.status) sameTables
  exact absurd statuses (by decide)

end Eiraos
