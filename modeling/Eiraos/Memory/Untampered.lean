import Eiraos.Foundations.Run
import Eiraos.Memory.Noninterference

/-! # A store that only `create` and `delete` write

Records keep what `create` has bound them to: their own digest, and a source that was there
before them.  The one exception is a record with two sources, whose only source digest is that of
the message while a trace compares it with the memory.
-/

namespace Eiraos.Memory

open Guarded PythonJson PythonText BoundedWalk

/-! ## Runs -/

inductive MemoryAction where
  | create (caller : Caller) (request : CreateRequest) (itemId : String) (now : Nat)
  | delete (caller : Caller) (itemId actorRole : String) (now : Nat)
  /-- The chat tables move on; completed messages stay. -/
  | chat (ledger : MessageLedger)

def memoryStep (runtime : MemoryRuntime) (database : MemoryDatabase) :
    MemoryAction → Option MemoryDatabase
  | .create caller request itemId now =>
    some (perform runtime caller database (.create request itemId now)).2
  | .delete caller itemId actorRole now =>
    some (perform runtime caller database (.delete itemId actorRole now)).2
  | .chat ledger =>
    if ∀ message ∈ database.ledger.messages, message.status = "completed" → message ∈ ledger.messages then
      some { database with ledger }
    else none

/-- A `create` with a message and a memory as its sources finds the same digest in both. -/
def SourcesAgree (runtime : MemoryRuntime) (database : MemoryDatabase) : MemoryAction → Prop
  | .create caller request _ _ =>
    ∀ message source, request.message database.ledger caller = .ok (some message) →
      request.source database.table caller = .ok (some source) →
        runtime.sha256 message.content = runtime.sha256 source.content
  | _ => True

/-- `json.loads` gives back the strings that `json.dumps` wrote. -/
def ReadsBack (runtime : MemoryRuntime) (members : List (String × JsonValue)) : Prop :=
  ∃ back, runtime.loads (runtime.dumps (.object members)) = .ok (.object back) ∧
    ∀ key text, JsonValue.member? members key = some (.string text) →
      JsonValue.member? back key = some (.string text)

/-- The provenance that a `create` writes can be read back. -/
def WritesReadable (runtime : MemoryRuntime) (database : MemoryDatabase) : MemoryAction → Prop
  | .create caller request _ _ =>
    ∀ message source members, request.message database.ledger caller = .ok message →
      request.source database.table caller = .ok source →
      MemoryRuntime.mergedProvenance (runtime.authoritativeProvenance caller request.content source message)
        request.provenance = some members →
      ReadsBack runtime members
  | _ => True

/-! ## The invariant -/

variable {runtime : MemoryRuntime} {database : MemoryDatabase}

/-- The provenance of a record holds a digest under a key. -/
def Digest (runtime : MemoryRuntime) (record : MemoryRecord) (key content : String) : Prop :=
  ∃ provenance, runtime.provenance record = .ok provenance ∧
    (provenance.field key).isText (runtime.sha256 content) = true

/-- What `create` has established for the record at a place of the table. -/
structure Bound (runtime : MemoryRuntime) (database : MemoryDatabase) (place : Nat)
    (record : MemoryRecord) : Prop where
  own : Digest runtime record "content_sha256" record.content
  memory : ∀ itemId, record.sourceItem? = some itemId →
    ∃ earlier < place, ∃ source, database.table.records[earlier]? = some source ∧
      source.itemId = itemId ∧ Digest runtime record "source_sha256" source.content
  message : record.sourceItem? = none → ∀ messageId, record.sourceMessage? = some messageId →
    ∃ message ∈ database.ledger.messages, message.id = messageId ∧ message.status = "completed" ∧
      Digest runtime record "source_sha256" message.content

def Untampered (runtime : MemoryRuntime) (database : MemoryDatabase) : Prop :=
  ∀ place record, database.table.records[place]? = some record → Bound runtime database place record

/-! ## One step -/

/-- The strings of the authoritative provenance are found in what is written. -/
theorem member?_merged {authoritative : List (String × JsonValue)} {argument : ProvenanceArgument}
    {members : List (String × JsonValue)} {key : String} {value : JsonValue}
    (merged : MemoryRuntime.mergedProvenance authoritative argument = some members)
    (own : JsonValue.member? authoritative key = some value) :
    JsonValue.member? members key = some value := by
  unfold MemoryRuntime.mergedProvenance at merged
  split at merged
  next =>
    obtain ⟨kept, _, made⟩ := Option.bind_eq_some_iff.mp merged
    cases made
    unfold JsonValue.member? at own ⊢
    obtain ⟨member, found, rfl⟩ := Option.map_eq_some_iff.mp own
    rw [List.find?_append, found]
    rfl
  next => cases merged

/-- A digest that `create` has written is the one that a trace reads. -/
theorem digest_of_written {record : MemoryRecord} {members : List (String × JsonValue)}
    {key content : String} (reads : ReadsBack runtime members)
    (written : record.provenanceJson = runtime.dumps (.object members))
    (own : JsonValue.member? members key = some (.string (runtime.sha256 content))) :
    Digest runtime record key content := by
  obtain ⟨back, loaded, same⟩ := reads
  refine ⟨.object back, ?_, ?_⟩
  · rw [MemoryRuntime.provenance, written, loaded]
    rfl
  · simp [JsonValue.field, same key _ own, JsonValue.isText]

section Create

variable {caller : Caller} {request : CreateRequest} {itemId : String} {now : Nat} {record : MemoryRecord}

/-- What `prepare` has read before it makes the record. -/
structure Prepared (runtime : MemoryRuntime) (database : MemoryDatabase) (caller : Caller)
    (request : CreateRequest) (itemId : String) (now : Nat) (record : MemoryRecord)
    (message : Option LedgerMessage) (source : Option MemoryRecord)
    (members : List (String × JsonValue)) : Prop where
  loaded : request.message database.ledger caller = .ok message
  got : request.source database.table caller = .ok source
  merged : MemoryRuntime.mergedProvenance
    (runtime.authoritativeProvenance caller request.content source message) request.provenance = some members
  made : record =
    MemoryRuntime.newRecord caller request source (runtime.dumps (.object members)) itemId now

theorem prepare_eq_ok (prepared : runtime.prepare database caller request itemId now = .ok record) :
    ∃ message source members,
      Prepared runtime database caller request itemId now record message source members := by
  obtain ⟨_, _, rest⟩ := bind_eq_ok.mp prepared
  obtain ⟨_, _, rest⟩ := bind_eq_ok.mp rest
  obtain ⟨message, loaded, rest⟩ := bind_eq_ok.mp rest
  obtain ⟨source, got, rest⟩ := bind_eq_ok.mp rest
  obtain ⟨members, merged, rest⟩ := bind_eq_ok.mp rest
  exact ⟨message, source, members, loaded, got, required_eq_ok.mp merged, (pure_eq_ok.mp rest).symm⟩

theorem source_eq_ok {table : MemoryTable} {source : Option MemoryRecord}
    (got : request.source table caller = .ok source) :
    ∀ found ∈ source, found ∈ table.records := by
  unfold CreateRequest.source at got
  split at got
  next =>
    cases got
    simp
  next itemId named =>
    obtain ⟨found, looked, made⟩ := bind_eq_ok.mp got
    rw [← pure_eq_ok.mp made]
    have known := MemoryTable.find?_eq_some (required_eq_ok.mp looked)
    simpa using known.1

theorem message_eq_ok {ledger : MessageLedger} {message : Option LedgerMessage}
    (loaded : request.message ledger caller = .ok message) {messageId : Int}
    (named : request.sourceMessageId = some messageId) :
    ∃ found ∈ ledger.messages, message = some found ∧ found.id = messageId ∧ found.status = "completed" := by
  unfold CreateRequest.message at loaded
  rw [named] at loaded
  obtain ⟨found, looked, made⟩ := bind_eq_ok.mp loaded
  have selected := List.find?_some (required_eq_ok.mp looked)
  simp only [Bool.and_eq_true, decide_eq_true_eq] at selected
  exact ⟨found, List.mem_of_find?_eq_some (required_eq_ok.mp looked), (pure_eq_ok.mp made).symm,
    selected.1, selected.2.2.1⟩

/-- The new record is bound to its sources. -/
theorem Prepared.bound {message : Option LedgerMessage} {source : Option MemoryRecord}
    {members : List (String × JsonValue)}
    (prepared : Prepared runtime database caller request itemId now record message source members)
    (agrees : SourcesAgree runtime database (.create caller request itemId now))
    (reads : ReadsBack runtime members) :
    Bound runtime database database.table.records.length record := by
  have written : record.provenanceJson = runtime.dumps (.object members) := by
    rw [prepared.made]
    rfl
  constructor
  case own =>
    have content : record.content = strip request.content := by
      rw [prepared.made]
      rfl
    rw [content]
    apply digest_of_written reads written
    exact member?_merged prepared.merged rfl
  case memory =>
    intro sourceItem named
    have origin : record.sourceMemoryItemId = source.map MemoryRecord.itemId := by
      rw [prepared.made]
      rfl
    rw [MemoryRecord.sourceItem?, origin] at named
    cases source with
    | none => cases named
    | some found =>
      have known := source_eq_ok prepared.got found rfl
      obtain ⟨earlier, before, at_earlier⟩ := List.getElem_of_mem known
      have same : found.itemId = sourceItem := by
        have := (Option.filter_eq_some_iff.mp named).1
        exact Option.some.inj this
      refine ⟨earlier, before, found, ?_, same, ?_⟩
      · rw [List.getElem?_eq_getElem before, at_earlier]
      · apply digest_of_written reads written
        apply member?_merged prepared.merged
        cases message with
        | none => rfl
        | some other =>
          -- Of two sources the digest is the message's, and the memory has the same.
          rw [← agrees other found prepared.loaded prepared.got]
          rfl
  case message =>
    intro _ messageId named
    have origin : record.sourceMessageId = request.sourceMessageId := by
      rw [prepared.made]
      rfl
    rw [MemoryRecord.sourceMessage?, origin] at named
    have requested := (Option.filter_eq_some_iff.mp named).1
    obtain ⟨found, known, same, isIt, completed⟩ := message_eq_ok prepared.loaded requested
    subst same
    refine ⟨found, known, isIt, completed, ?_⟩
    apply digest_of_written reads written
    exact member?_merged prepared.merged rfl

end Create

/-- A record stays bound while the rows before it and the completed messages stay. -/
theorem Bound.mono {later : MemoryDatabase} {place : Nat} {record changed : MemoryRecord}
    (bound : Bound runtime database place record)
    (same : ∃ deletedAt, changed = { record with deletedAt })
    (rows : ∀ earlier < place, ∀ source, database.table.records[earlier]? = some source →
      ∃ deletedAt, later.table.records[earlier]? = some { source with deletedAt })
    (messages : ∀ message ∈ database.ledger.messages, message.status = "completed" →
      message ∈ later.ledger.messages) : Bound runtime later place changed := by
  obtain ⟨deletedAt, rfl⟩ := same
  refine ⟨bound.own, ?_, ?_⟩
  · intro itemId named
    obtain ⟨earlier, before, source, there, isIt, digest⟩ := bound.memory itemId named
    obtain ⟨marked, now⟩ := rows earlier before source there
    exact ⟨earlier, before, _, now, isIt, digest⟩
  · intro noMemory messageId named
    obtain ⟨message, known, isIt, completed, digest⟩ := bound.message noMemory messageId named
    exact ⟨message, messages message known completed, isIt, completed, digest⟩

theorem Untampered.create {caller : Caller} {request : CreateRequest} {itemId : String} {now : Nat}
    (untampered : Untampered runtime database)
    (agrees : SourcesAgree runtime database (.create caller request itemId now))
    (readable : WritesReadable runtime database (.create caller request itemId now)) :
    Untampered runtime (perform runtime caller database (.create request itemId now)).2 := by
  dsimp only [perform]
  cases created : runtime.create database caller request itemId now with
  | error error => exact untampered
  | ok result =>
    obtain ⟨record, prepared, rest⟩ := bind_eq_ok.mp created
    obtain ⟨_, _, rest⟩ := bind_eq_ok.mp rest
    obtain ⟨table, inserted, made⟩ := bind_eq_ok.mp rest
    rw [← pure_eq_ok.mp made]
    obtain ⟨message, source, members, known⟩ := prepare_eq_ok prepared
    have records := (insert_eq_ok inserted).2
    have rows : ∀ earlier < database.table.records.length, ∀ source,
        database.table.records[earlier]? = some source →
          ∃ deletedAt, table.records[earlier]? = some { source with deletedAt } := by
      intro earlier before source there
      refine ⟨source.deletedAt, ?_⟩
      rw [records, List.getElem?_append_left before]
      exact there
    intro place other there
    have there : (database.table.records ++ [record])[place]? = some other := records ▸ there
    by_cases old : place < database.table.records.length
    · rw [List.getElem?_append_left old] at there
      apply (untampered place other there).mono ⟨other.deletedAt, rfl⟩
      · intro earlier before
        exact rows earlier (Nat.lt_trans before old)
      · exact fun message known _ => known
    · -- the new row is the last one
      rw [List.getElem?_append_right (Nat.le_of_not_lt old)] at there
      obtain ⟨last, isIt⟩ := List.getElem?_eq_some_iff.mp there
      have place_eq : place = database.table.records.length := by
        simp only [List.length_singleton] at last
        omega
      have isNew : record = other := by
        rw [← isIt]
        simp
      rw [place_eq, ← isNew]
      apply (known.bound agrees (readable _ _ _ known.loaded known.got known.merged)).mono
        ⟨record.deletedAt, rfl⟩ rows
      exact fun message known _ => known

theorem Untampered.delete {caller : Caller} {itemId actorRole : String} {now : Nat}
    (untampered : Untampered runtime database) :
    Untampered runtime (perform runtime caller database (.delete itemId actorRole now)).2 := by
  dsimp only [perform, MemoryTable.delete]
  cases found : database.table.get caller itemId with
  | none => exact untampered
  | some record =>
    dsimp only
    cases assertMutationScope record.scopeKind actorRole with
    | error error => exact untampered
    | ok done =>
      have known := MemoryTable.find?_eq_some found
      -- only the deletion time of a row is written
      have rows : ∀ (place : Nat) (old : MemoryRecord), database.table.records[place]? = some old →
          ∃ deletedAt, (database.table.markDeleted record now).records[place]? =
            some { old with deletedAt } := by
        intro place old there
        show ∃ deletedAt, (List.map _ database.table.records)[place]? = _
        rw [List.getElem?_map, there]
        by_cases same : old.itemId = record.itemId
        · refine ⟨some now, ?_⟩
          have isIt := database.table.uniqueItems.eq (List.mem_of_getElem? there) known.1 same
          simp [isIt]
        · refine ⟨old.deletedAt, ?_⟩
          simp [same]
      intro place changed there
      have there : (List.map _ database.table.records)[place]? = some changed := there
      have length : place < database.table.records.length := by
        have := (List.getElem?_eq_some_iff.mp there).1
        rwa [List.length_map] at this
      have old := List.getElem?_eq_getElem length
      obtain ⟨deletedAt, now⟩ := rows place _ old
      have same : some changed = some _ := there.symm.trans now
      apply (untampered place _ old).mono ⟨deletedAt, Option.some.inj same⟩
      · intro earlier _ source before
        exact rows earlier source before
      · exact fun message known _ => known

theorem untampered_step {action : MemoryAction} {next : MemoryDatabase}
    (untampered : Untampered runtime database) (agrees : SourcesAgree runtime database action)
    (readable : WritesReadable runtime database action)
    (stepped : memoryStep runtime database action = some next) : Untampered runtime next := by
  cases action with
  | create caller request itemId now =>
    cases stepped
    exact untampered.create agrees readable
  | delete caller itemId actorRole now =>
    cases stepped
    exact untampered.delete
  | chat ledger =>
    dsimp only [memoryStep] at stepped
    split at stepped
    next stays =>
      cases stepped
      intro place record there
      apply (untampered place record there).mono ⟨record.deletedAt, rfl⟩
      · exact fun earlier _ source before => ⟨source.deletedAt, before⟩
      · exact stays
    next => cases stepped

/-! ## Traces of an untampered store -/

/-- Nothing the trace reports is a mismatch, and it does not end in one or in a cycle. -/
structure CleanTrace (trace : ProvenanceTrace) : Prop where
  integrity : ∀ node ∈ trace.nodes, node.integrity ≠ "mismatch" ∧ node.integrity ≠ "source_mismatch"
  termination : trace.termination ≠ .integrityFailure ∧ trace.termination ≠ .cycle

section Traces

variable {caller : Caller} {record source : MemoryRecord}

theorem Untampered.of_mem (untampered : Untampered runtime database)
    (known : record ∈ database.table.records) :
    ∃ place, database.table.records[place]? = some record ∧ Bound runtime database place record := by
  obtain ⟨place, there⟩ := List.getElem?_of_mem known
  exact ⟨place, there, untampered place record there⟩

/-- The source that a trace finds is the one the record was bound to. -/
theorem Untampered.sourceDigest (untampered : Untampered runtime database)
    (known : record ∈ database.table.records) {itemId : String} (named : record.sourceItem? = some itemId)
    (found : database.table.find? caller itemId true = some source) :
    Digest runtime record "source_sha256" source.content ∧
      database.table.records.idxOf source < database.table.records.idxOf record := by
  have distinct : database.table.records.Nodup := database.table.uniqueItems.of_map _
  obtain ⟨place, there, bound⟩ := untampered.of_mem known
  obtain ⟨earlier, before, bound_source, at_earlier, isIt, digest⟩ := bound.memory itemId named
  have looked := MemoryTable.find?_eq_some found
  have same : bound_source = source :=
    database.table.uniqueItems.eq (List.mem_of_getElem? at_earlier) looked.1 (isIt.trans looked.2.2.symm)
  subst same
  refine ⟨digest, ?_⟩
  obtain ⟨inTable, isRecord⟩ := List.getElem?_eq_some_iff.mp there
  obtain ⟨_, isSource⟩ := List.getElem?_eq_some_iff.mp at_earlier
  rw [← isRecord, ← isSource, distinct.idxOf_getElem, distinct.idxOf_getElem]
  exact before

theorem Untampered.links_nodup (untampered : Untampered runtime database)
    (known : record ∈ database.table.records) {maxDepth : Nat} :
    (links (runtime.sourceLink database caller) maxDepth record).Nodup := by
  have downwards := @nodup_links MemoryRecord (runtime.sourceLink database caller) maxDepth record
    (fun record => record ∈ database.table.records) database.table.records.idxOf known
  apply (downwards _).1
  intro before after inTable link
  refine ⟨(sourceLink_sees link).1, ?_⟩
  unfold MemoryRuntime.sourceLink at link
  obtain ⟨itemId, named, rest⟩ := Option.bind_eq_some_iff.mp link
  obtain ⟨found, looked, rest⟩ := Option.bind_eq_some_iff.mp rest
  obtain ⟨provenance, _, rest⟩ := Option.bind_eq_some_iff.mp rest
  split at rest
  next =>
    cases rest
    exact (untampered.sourceDigest inTable named looked).2
  next => cases rest

theorem Untampered.nodeOf_verified (untampered : Untampered runtime database)
    (known : record ∈ database.table.records) : (runtime.nodeOf record).integrity = "verified" := by
  obtain ⟨_, _, bound⟩ := untampered.of_mem known
  obtain ⟨provenance, read, agrees⟩ := bound.own
  rw [MemoryRuntime.nodeOf, read]
  show (if (provenance.field "content_sha256").isText (runtime.sha256 record.content) = true then
    "verified" else "mismatch") = "verified"
  rw [if_pos agrees]

theorem Untampered.ends_clean (untampered : Untampered runtime database)
    (known : record ∈ database.table.records) {provenance : JsonValue}
    (read : runtime.provenance record = .ok provenance) {closing : List ProvenanceNode}
    {termination : Termination}
    (followed : Followed runtime database caller provenance record (.ends closing termination)) :
    (∀ node ∈ closing, node.integrity = "verified" ∨ node.integrity = "unavailable") ∧
      termination ≠ .integrityFailure := by
  generalize same : Continuation.ends closing termination = continuation at followed
  cases followed with
  | linked => cases same
  | mismatch named found differs =>
    obtain ⟨other, again, agrees⟩ := (untampered.sourceDigest known named found).1
    rw [read] at again
    cases again
    rw [differs] at agrees
    cases agrees
  | hiddenMemory =>
    cases same
    exact ⟨by simp [ProvenanceNode.integrity], by decide⟩
  | @message messageId message noMemory named found =>
    cases same
    obtain ⟨_, _, bound⟩ := untampered.of_mem known
    obtain ⟨bound_message, inLedger, isIt, _, digest⟩ := bound.message noMemory messageId named
    have selected := List.find?_some found
    simp only [Bool.and_eq_true, decide_eq_true_eq] at selected
    have same : bound_message = message := database.ledger.uniqueMessages.eq inLedger
      (List.mem_of_find?_eq_some found) (isIt.trans selected.1.symm)
    subst same
    obtain ⟨other, again, agrees⟩ := digest
    rw [read] at again
    cases again
    exact ⟨by simp [ProvenanceNode.integrity, agrees], by decide⟩
  | hiddenMessage =>
    cases same
    exact ⟨by simp [ProvenanceNode.integrity], by decide⟩
  | declared =>
    cases same
    exact ⟨by simp, by decide⟩

theorem Untampered.trace_clean (untampered : Untampered runtime database)
    {resolver : ProvenanceResolver} {itemId : String}
    (visible : database.table.find? caller itemId false = some record) :
    ∃ trace, resolver.trace runtime database caller itemId = .ok trace ∧ CleanTrace trace := by
  have known := MemoryTable.find?_eq_some visible
  have inTable : ∀ visited ∈ (runtime.visit database caller resolver.maxDepth [] record).1,
      visited ∈ database.table.records :=
    fun visited mem => (links_visible known.1 known.2.1 visited (List.IsPrefix.subset walk_prefix mem)).1
  have readable : ∀ visited ∈ (runtime.visit database caller resolver.maxDepth [] record).1,
      runtime.Readable visited := by
    intro visited mem
    obtain ⟨_, _, bound⟩ := untampered.of_mem (inTable visited mem)
    obtain ⟨provenance, read, _⟩ := bound.own
    exact readable_iff.mpr ⟨provenance, read⟩
  -- A source is an earlier row, so the walk never comes back to a record.
  have acyclic : (runtime.visit database caller resolver.maxDepth [] record).2 ≠ .repeated := by
    intro repeated
    exact (visit_repeated_iff known.1 known.2.1).mp repeated (untampered.links_nodup known.1)
  obtain ⟨closing, termination, traced, closes⟩ := traceFrom_of_readable readable
  have ends : (∀ node ∈ closing, node.integrity = "verified" ∨ node.integrity = "unavailable") ∧
      termination ≠ .integrityFailure ∧ termination ≠ .cycle := by
    generalize runtime.visit database caller resolver.maxDepth [] record = walked at closes acyclic inTable
    cases closes with
    | repeated => exact absurd rfl acyclic
    | exhausted => exact ⟨by simp, by decide, by decide⟩
    | @stopped before last provenance closing termination read ends =>
      have followed := follow_followed runtime database caller provenance last
      rw [ends] at followed
      have clean := untampered.ends_clean (inTable last (by simp)) read followed
      exact ⟨clean.1, clean.2, followed.ends_visible.2.1⟩
  refine ⟨⟨record.itemId, (runtime.visit database caller resolver.maxDepth [] record).1.map
    runtime.nodeOf ++ closing, termination⟩, ?_, ?_⟩
  · unfold ProvenanceResolver.trace
    rw [visible]
    dsimp only
    rw [traced]
  · refine ⟨?_, ends.2⟩
    intro node mem
    have clean : node.integrity = "verified" ∨ node.integrity = "unavailable" := by
      cases List.mem_append.mp mem with
      | inl own =>
        obtain ⟨visited, there, rfl⟩ := List.mem_map.mp own
        exact .inl (untampered.nodeOf_verified (inTable visited there))
      | inr last => exact ends.1 node last
    cases clean with
    | inl verified => rw [verified]; decide
    | inr unavailable => rw [unavailable]; decide

end Traces

/-- In a run in which no record is given two sources of different content, every trace is clean. -/
theorem untampered_traces_clean {actions : List MemoryAction} {start final : MemoryDatabase}
    (empty : start.table.records = [])
    (agree : Transition.Throughout (memoryStep runtime) (SourcesAgree runtime) start actions)
    (readable : Transition.Throughout (memoryStep runtime) (WritesReadable runtime) start actions)
    (ran : Transition.run (memoryStep runtime) start actions = some final)
    {resolver : ProvenanceResolver} {caller : Caller} {itemId : String} {root : MemoryRecord}
    (visible : final.table.find? caller itemId false = some root) :
    ∃ trace, resolver.trace runtime final caller itemId = .ok trace ∧ CleanTrace trace := by
  have initially : Untampered runtime start := by
    intro place record there
    rw [empty] at there
    cases there
  have untampered : Untampered runtime final := by
    apply Transition.run_invariant_throughout (Untampered runtime) _ initially (agree.and readable) ran
    intro database action next holds met stepped
    exact untampered_step holds met.1 met.2 stepped
  exact untampered.trace_clean visible

/-! ## A record with two sources -/

def flowRequest : CreateRequest := { ebbRequest with
  content := "Flow at noon."
  sourceMemoryItemId := some "ebb" }

def flowLedger : MessageLedger where
  conversations := [⟨1, 1, 1⟩]
  messages := [⟨7, 1, 1, "user", "Flow is at noon.", "completed"⟩]
  uniqueMessages := List.nodup_singleton _

def flowStart : MemoryDatabase := ⟨flowLedger, ⟨[], List.nodup_nil⟩⟩

/-- SHA-256 on the three contents. -/
def flowDigest (content : String) : String :=
  if content = "Ebb follows flow." then "21c781c62611585c3f3d2bf9135e70db6a9228a9498905304b85ff51cb475f16"
  else if content = "Flow at noon." then "c222c57fb57a7ad7626077e06f8c1ab970b62d92fc7ddb3efd675c35f1a992ec"
  else if content = "Flow is at noon." then "28435a1dae5a4f2959a6920cdb8eea43feedf3a9fdf8d71453cf770a76c2f0cb"
  else ""

/-! The provenance of a record without a source, of one with a memory as its source, and of one
with a message besides. -/

def ebbText : String :=
  "\x7b\"actor_user_id\":1," ++
  "\"content_sha256\":\"21c781c62611585c3f3d2bf9135e70db6a9228a9498905304b85ff51cb475f16\"," ++
  "\"source\":\"explicit\",\"source_class\":null,\"source_memory_item_id\":null," ++
  "\"source_message_id\":null,\"source_sha256\":null," ++
  "\"source_type\":\"declared\"\x7d"

def flowText : String :=
  "\x7b\"actor_user_id\":1," ++
  "\"content_sha256\":\"c222c57fb57a7ad7626077e06f8c1ab970b62d92fc7ddb3efd675c35f1a992ec\"," ++
  "\"source\":\"explicit\",\"source_class\":\"persistent_memory\"," ++
  "\"source_memory_item_id\":\"ebb\",\"source_message_id\":null," ++
  "\"source_sha256\":\"21c781c62611585c3f3d2bf9135e70db6a9228a9498905304b85ff51cb475f16\"," ++
  "\"source_type\":\"memory\"\x7d"

def bothText : String :=
  "\x7b\"actor_user_id\":1," ++
  "\"content_sha256\":\"c222c57fb57a7ad7626077e06f8c1ab970b62d92fc7ddb3efd675c35f1a992ec\"," ++
  "\"source\":\"explicit\",\"source_class\":\"persistent_memory\"," ++
  "\"source_memory_item_id\":\"ebb\",\"source_message_id\":7," ++
  "\"source_sha256\":\"28435a1dae5a4f2959a6920cdb8eea43feedf3a9fdf8d71453cf770a76c2f0cb\"," ++
  "\"source_type\":\"message\"\x7d"

def ebbMembers : List (String × JsonValue) := [
  ("actor_user_id", .int 1), ("content_sha256", .string (flowDigest "Ebb follows flow.")),
  ("source_type", .string "declared"), ("source_message_id", .null), ("source_memory_item_id", .null),
  ("source_class", .null), ("source_sha256", .null), ("source", .string "explicit")]

def flowMembers : List (String × JsonValue) := [
  ("actor_user_id", .int 1), ("content_sha256", .string (flowDigest "Flow at noon.")),
  ("source_type", .string "memory"), ("source_message_id", .null),
  ("source_memory_item_id", .string "ebb"), ("source_class", .string "persistent_memory"),
  ("source_sha256", .string (flowDigest "Ebb follows flow.")), ("source", .string "explicit")]

def bothMembers : List (String × JsonValue) := [
  ("actor_user_id", .int 1), ("content_sha256", .string (flowDigest "Flow at noon.")),
  ("source_type", .string "message"), ("source_message_id", .int 7),
  ("source_memory_item_id", .string "ebb"), ("source_class", .string "persistent_memory"),
  ("source_sha256", .string (flowDigest "Flow is at noon.")), ("source", .string "explicit")]

/-- `json.dumps` on these three dictionaries, and `json.loads` on their texts. -/
def flowRuntime : MemoryRuntime where
  sha256 := flowDigest
  loads text :=
    if text = ebbText then .ok (.object ebbMembers)
    else if text = flowText then .ok (.object flowMembers)
    else if text = bothText then .ok (.object bothMembers)
    else .error .valueError
  dumps value :=
    if (value.field "source_type").isText "declared" then ebbText
    else if (value.field "source_type").isText "memory" then flowText
    else bothText
  admits _ := true

def flowActions : List MemoryAction :=
  [.create ⟨1, 1⟩ ebbRequest "ebb" 2, .create ⟨1, 1⟩ flowRequest "flow" 3]

theorem readsBack_ebb : ReadsBack flowRuntime ebbMembers := by
  have written : flowRuntime.dumps (.object ebbMembers) = ebbText := rfl
  have loaded : flowRuntime.loads ebbText = .ok (.object ebbMembers) := by simp [flowRuntime]
  exact ⟨ebbMembers, by rw [written, loaded], fun _ _ own => own⟩

theorem readsBack_flow : ReadsBack flowRuntime flowMembers := by
  have written : flowRuntime.dumps (.object flowMembers) = flowText := rfl
  have loaded : flowRuntime.loads flowText = .ok (.object flowMembers) := by
    have other : flowText ≠ ebbText := by decide +kernel
    simp [flowRuntime, other]
  exact ⟨flowMembers, by rw [written, loaded], fun _ _ own => own⟩

theorem ebb_written : MemoryRuntime.mergedProvenance
    (flowRuntime.authoritativeProvenance ⟨1, 1⟩ ebbRequest.content none none) ebbRequest.provenance =
      some ebbMembers := by
  have content : strip ebbRequest.content = "Ebb follows flow." := by decide +kernel
  unfold MemoryRuntime.authoritativeProvenance
  rw [content]
  rfl

/-- The record of the first action. -/
def ebbRecord : MemoryRecord where
  itemId := "ebb"
  organizationId := 1
  ownerUserId := some 1
  actorUserId := 1
  memoryClass := "persistent_memory"
  scopeKind := "user"
  content := "Ebb follows flow."
  provenanceJson := ebbText
  sourceMessageId := none
  sourceMemoryItemId := none
  reason := "remember"
  createdAt := 2
  deletedAt := none

/-- The database after it. -/
def afterEbb : MemoryDatabase := ⟨flowLedger, ⟨[ebbRecord], List.nodup_singleton _⟩⟩

theorem flow_written : MemoryRuntime.mergedProvenance
    (flowRuntime.authoritativeProvenance ⟨1, 1⟩ flowRequest.content (some ebbRecord) none)
      flowRequest.provenance = some flowMembers := by
  have content : strip flowRequest.content = "Flow at noon." := by decide +kernel
  unfold MemoryRuntime.authoritativeProvenance
  rw [content]
  rfl

theorem ebb_prepared : flowRuntime.prepare flowStart ⟨1, 1⟩ ebbRequest "ebb" 2 = .ok ebbRecord := by
  apply toOption_eq_some.mp
  decide +kernel

theorem ebb_created : (perform flowRuntime ⟨1, 1⟩ flowStart (.create ebbRequest "ebb" 2)).2 = afterEbb := by
  have lacks : flowStart.table.Lacks ebbRecord.itemId := fun record mem => by cases mem
  have admitted : flowRuntime.admits ebbRecord = true := rfl
  simp only [perform, MemoryRuntime.create, ebb_prepared, bind, Except.bind, ensure, if_pos admitted,
    insert_of_lacks lacks, pure, Except.pure]
  rfl

theorem ebb_stepped :
    memoryStep flowRuntime flowStart (.create ⟨1, 1⟩ ebbRequest "ebb" 2) = some afterEbb :=
  congrArg some ebb_created

theorem ebb_readable :
    WritesReadable flowRuntime flowStart (.create ⟨1, 1⟩ ebbRequest "ebb" 2) := by
  intro message source members loaded got merged
  cases loaded
  cases got
  rw [ebb_written] at merged
  cases merged
  exact readsBack_ebb

theorem flow_traces_clean : ∃ final trace,
    Transition.run (memoryStep flowRuntime) flowStart flowActions = some final ∧
    defaultResolver.trace flowRuntime final ⟨1, 1⟩ "flow" = .ok trace ∧ CleanTrace trace := by
  have agree : Transition.Throughout (memoryStep flowRuntime) (SourcesAgree flowRuntime) flowStart
      flowActions := by
    refine ⟨?_, ?_⟩
    · intro message source loaded
      cases loaded
    · rw [ebb_stepped]
      refine ⟨?_, trivial⟩
      intro message source loaded
      cases loaded
  have readable : Transition.Throughout (memoryStep flowRuntime) (WritesReadable flowRuntime) flowStart
      flowActions := by
    refine ⟨ebb_readable, ?_⟩
    · rw [ebb_stepped]
      refine ⟨?_, trivial⟩
      intro message source members loaded got merged
      have looked : flowRequest.source afterEbb.table ⟨1, 1⟩ = .ok (some ebbRecord) := by
        apply toOption_eq_some.mp
        decide +kernel
      rw [looked] at got
      cases loaded
      cases got
      rw [flow_written] at merged
      cases merged
      exact readsBack_flow
  have ran : Transition.run (memoryStep flowRuntime) flowStart flowActions =
      some (perform flowRuntime ⟨1, 1⟩ afterEbb (.create flowRequest "flow" 3)).2 := by
    unfold flowActions
    rw [Transition.run, ebb_stepped]
    rfl
  have visible : ((perform flowRuntime ⟨1, 1⟩ afterEbb (.create flowRequest "flow" 3)).2.table.find?
      ⟨1, 1⟩ "flow" false).isSome = true := by
    decide +kernel
  obtain ⟨root, visible⟩ := Option.isSome_iff_exists.mp visible
  obtain ⟨trace, traced, clean⟩ := untampered_traces_clean rfl agree readable ran visible
  exact ⟨_, trace, ran, traced, clean⟩

/-! The message is given as well: the record keeps one source digest, that of the message. -/

def bothRequest : CreateRequest := { flowRequest with
  sourceMessageId := some 7 }

theorem both_written : MemoryRuntime.mergedProvenance
    (flowRuntime.authoritativeProvenance ⟨1, 1⟩ bothRequest.content (some ebbRecord)
      (some ⟨7, 1, 1, "user", "Flow is at noon.", "completed"⟩)) bothRequest.provenance =
      some bothMembers := by
  have content : strip bothRequest.content = "Flow at noon." := by decide +kernel
  unfold MemoryRuntime.authoritativeProvenance
  rw [content]
  rfl

theorem readsBack_both : ReadsBack flowRuntime bothMembers := by
  have written : flowRuntime.dumps (.object bothMembers) = bothText := rfl
  have loaded : flowRuntime.loads bothText = .ok (.object bothMembers) := by
    have other : bothText ≠ ebbText ∧ bothText ≠ flowText := by decide +kernel
    simp [flowRuntime, other]
  exact ⟨bothMembers, by rw [written, loaded], fun _ _ own => own⟩

theorem two_sources_fail_integrity : ∃ (runtime : MemoryRuntime) (start final : MemoryDatabase)
    (actions : List MemoryAction) (trace : ProvenanceTrace),
    start.table.records = [] ∧
    Transition.Throughout (memoryStep runtime) (WritesReadable runtime) start actions ∧
    Transition.run (memoryStep runtime) start actions = some final ∧
    defaultResolver.trace runtime final ⟨1, 1⟩ "both" = .ok trace ∧ ¬CleanTrace trace := by
  have failed : (defaultResolver.trace flowRuntime
      (perform flowRuntime ⟨1, 1⟩ afterEbb (.create bothRequest "both" 3)).2 ⟨1, 1⟩ "both").toOption.map
        ProvenanceTrace.termination = some .integrityFailure := by
    decide +kernel
  obtain ⟨trace, traced, termination⟩ := Option.map_eq_some_iff.mp failed
  refine ⟨flowRuntime, flowStart, _, [.create ⟨1, 1⟩ ebbRequest "ebb" 2,
    .create ⟨1, 1⟩ bothRequest "both" 3], trace, rfl, ⟨ebb_readable, ?_⟩, ?_, toOption_eq_some.mp traced, ?_⟩
  · rw [ebb_stepped]
    refine ⟨?_, trivial⟩
    intro message source members loaded got merged
    have sent : bothRequest.message afterEbb.ledger ⟨1, 1⟩ =
        .ok (some ⟨7, 1, 1, "user", "Flow is at noon.", "completed"⟩) := by
      apply toOption_eq_some.mp
      decide +kernel
    have looked : bothRequest.source afterEbb.table ⟨1, 1⟩ = .ok (some ebbRecord) := by
      apply toOption_eq_some.mp
      decide +kernel
    rw [sent] at loaded
    rw [looked] at got
    cases loaded
    cases got
    rw [both_written] at merged
    cases merged
    exact readsBack_both
  · rw [Transition.run, ebb_stepped]
    rfl
  · intro clean
    exact clean.termination.1 termination

end Eiraos.Memory
