import Eiraos.Memory.Tracing

/-! # The digests of a trace

Three digests are compared on the way.  Only that of a source memory ends the trace; the other two
are written into their nodes.
-/

namespace Eiraos.Memory

open Guarded PythonJson BoundedWalk

variable {runtime : MemoryRuntime} {database : MemoryDatabase} {caller : Caller}

/-! ## Comparisons -/

namespace MemoryRuntime

variable (runtime : MemoryRuntime)

/-- `_provenance(record).get(name)`. -/
def recordedDigest (record : MemoryRecord) (name : String) : JsonValue :=
  ((runtime.provenance record).toOption.getD (.object [])).field name

/-- The record is what its provenance says. -/
def contentAgrees (record : MemoryRecord) : Bool :=
  (runtime.recordedDigest record "content_sha256").isText (runtime.sha256 record.content)

/-- The source of a record, with this content, is what the provenance of the record says. -/
def sourceAgrees (record : MemoryRecord) (content : String) : Bool :=
  (runtime.recordedDigest record "source_sha256").isText (runtime.sha256 content)

end MemoryRuntime

/-- The source memory that a trace finds for a record. -/
def MemoryDatabase.sourceMemory? (database : MemoryDatabase) (caller : Caller) (record : MemoryRecord) :
    Option MemoryRecord := do
  let itemId ← record.sourceItem?
  database.table.find? caller itemId true

/-- The source message that a trace finds for a record, which has no source memory. -/
def MemoryDatabase.sourceMessage? (database : MemoryDatabase) (caller : Caller) (record : MemoryRecord) :
    Option LedgerMessage :=
  match record.sourceItem? with
  | some _ => none
  | none => do
    let messageId ← record.sourceMessage?
    database.ledger.message? caller.organizationId messageId

/-- Some record on the way names a source memory that has changed. -/
def SourceChanged (runtime : MemoryRuntime) (database : MemoryDatabase) (caller : Caller)
    (visited : List MemoryRecord) : Prop :=
  ∃ record ∈ visited, ∃ source,
    database.sourceMemory? caller record = some source ∧ runtime.sourceAgrees record source.content = false

/-! ## What an answer promises -/

/-- The answer ends in an integrity failure. -/
structure ProvenanceTrace.Fails (trace : ProvenanceTrace) : Prop where
  incomplete : trace.complete = false
  termination : trace.termination.text = "integrity_failure"

/-- A complete answer is a verified one, and every mismatch ends in an integrity failure. -/
structure VerifiedAnswer (runtime : MemoryRuntime) (database : MemoryDatabase) (caller : Caller)
    (visited : List MemoryRecord) (trace : ProvenanceTrace) : Prop where
  verified : trace.complete = true → ∀ node ∈ trace.nodes, node.integrity = "verified"
  content : ∀ record ∈ visited, runtime.contentAgrees record = false → trace.Fails
  memory : ∀ record ∈ visited, ∀ source, database.sourceMemory? caller record = some source →
    runtime.sourceAgrees record source.content = false → trace.Fails
  message : ∀ record ∈ visited, ∀ message, database.sourceMessage? caller record = some message →
    runtime.sourceAgrees record message.content = false → trace.Fails

/-- Records that changed have a changed source memory at the end of the way, and a source message has
not changed. -/
structure Intact (runtime : MemoryRuntime) (database : MemoryDatabase) (caller : Caller)
    (visited : List MemoryRecord) : Prop where
  content : (∃ record ∈ visited, runtime.contentAgrees record = false) →
    SourceChanged runtime database caller visited
  message : ∀ record ∈ visited, ∀ message, database.sourceMessage? caller record = some message →
    runtime.sourceAgrees record message.content = true

theorem Termination.text_eq_iff {termination : Termination} :
    termination.text = "integrity_failure" ↔ termination = .integrityFailure := by
  cases termination <;> decide

theorem ProvenanceTrace.fails_iff {trace : ProvenanceTrace} :
    trace.Fails ↔ trace.termination = .integrityFailure := by
  constructor
  · intro fails
    exact Termination.text_eq_iff.mp fails.termination
  · intro failure
    refine ⟨?_, Termination.text_eq_iff.mpr failure⟩
    simp [ProvenanceTrace.complete, failure]

/-! ## The end of the walk -/

theorem sourceLink_eq_none {record source : MemoryRecord} (named : database.sourceMemory? caller record = some source)
    (differs : runtime.sourceAgrees record source.content = false) :
    runtime.sourceLink database caller record = none := by
  unfold MemoryDatabase.sourceMemory? at named
  obtain ⟨itemId, item, found⟩ := Option.bind_eq_some_iff.mp named
  unfold MemoryRuntime.sourceAgrees MemoryRuntime.recordedDigest at differs
  unfold MemoryRuntime.sourceLink
  cases read : runtime.provenance record with
  | error error => simp [item, Except.toOption]
  | ok provenance =>
    rw [read] at differs
    simpa [item, found, Except.toOption] using differs

theorem recordedDigest_of_read {record : MemoryRecord} {provenance : JsonValue}
    (read : runtime.provenance record = .ok provenance) (name : String) :
    runtime.recordedDigest record name = provenance.field name := by
  rw [MemoryRuntime.recordedDigest, read]
  rfl

/-- How the last record of a stopped walk closes it. -/
inductive Closed (runtime : MemoryRuntime) (database : MemoryDatabase) (caller : Caller)
    (record : MemoryRecord) : List ProvenanceNode → Termination → Prop
  | unavailable {kind : NodeKind} (noMemory : database.sourceMemory? caller record = none)
      (noMessage : database.sourceMessage? caller record = none) :
      Closed runtime database caller record [.unavailable kind] .unavailable
  | integrityFailure {source : MemoryRecord} (named : database.sourceMemory? caller record = some source)
      (noMessage : database.sourceMessage? caller record = none)
      (differs : runtime.sourceAgrees record source.content = false) :
      Closed runtime database caller record [.sourceMismatch source.itemId] .integrityFailure
  -- the comparison is written into the node and leaves the termination alone
  | source {message : LedgerMessage} (noMemory : database.sourceMemory? caller record = none)
      (named : database.sourceMessage? caller record = some message) :
      Closed runtime database caller record
        [.message message.id message.role (runtime.sha256 message.content)
          (runtime.sourceAgrees record message.content)] .source
  | declared (noMemory : database.sourceMemory? caller record = none)
      (noMessage : database.sourceMessage? caller record = none) :
      Closed runtime database caller record [] .declared

theorem closed_of_ends {record : MemoryRecord} {provenance : JsonValue} {closing : List ProvenanceNode}
    {termination : Termination} (read : runtime.provenance record = .ok provenance)
    (ends : runtime.follow database caller provenance record = .ends closing termination) :
    Closed runtime database caller record closing termination := by
  have digest := recordedDigest_of_read read "source_sha256"
  have followed := follow_followed runtime database caller provenance record
  rw [ends] at followed
  generalize same : Continuation.ends closing termination = continuation at followed
  cases followed with
  | linked => cases same
  | mismatch named found differs =>
    cases same
    apply Closed.integrityFailure
    · simp [MemoryDatabase.sourceMemory?, named, found]
    · simp [MemoryDatabase.sourceMessage?, named]
    · simpa [MemoryRuntime.sourceAgrees, digest] using differs
  | hiddenMemory named absent =>
    cases same
    apply Closed.unavailable
    · simp [MemoryDatabase.sourceMemory?, named, absent]
    · simp [MemoryDatabase.sourceMessage?, named]
  | message noMemory named found =>
    cases same
    rw [← digest]
    apply Closed.source
    · simp [MemoryDatabase.sourceMemory?, noMemory]
    · simp [MemoryDatabase.sourceMessage?, noMemory, named, found]
  | hiddenMessage noMemory named absent =>
    cases same
    apply Closed.unavailable
    · simp [MemoryDatabase.sourceMemory?, noMemory]
    · simp [MemoryDatabase.sourceMessage?, noMemory, named, absent]
  | declared noMemory noMessage =>
    cases same
    apply Closed.declared
    · simp [MemoryDatabase.sourceMemory?, noMemory]
    · simp [MemoryDatabase.sourceMessage?, noMemory, noMessage]

section Walk

variable {maxDepth : Nat} {root : MemoryRecord} {closing : List ProvenanceNode} {termination : Termination}

/-- A visited record without a link closes the trace in one of these ways. -/
theorem Closes.closed (closes : Closes runtime database caller (runtime.visit database caller maxDepth [] root)
      closing termination)
    {record : MemoryRecord} (visited : record ∈ (runtime.visit database caller maxDepth [] root).1)
    (stop : runtime.sourceLink database caller record = none) :
    Closed runtime database caller record closing termination := by
  obtain ⟨provenance, read, ends⟩ := closes.of_stop visited stop
  exact closed_of_ends read ends

/-- An integrity failure tells of a changed source memory and of nothing else. -/
theorem Closes.integrityFailure_iff
    (closes : Closes runtime database caller (runtime.visit database caller maxDepth [] root)
      closing termination) :
    termination = .integrityFailure ↔
      SourceChanged runtime database caller (runtime.visit database caller maxDepth [] root).1 := by
  constructor
  · intro failure
    generalize runtime.visit database caller maxDepth [] root = walked at closes
    cases closes with
    | repeated => cases failure
    | exhausted => cases failure
    | @stopped before last provenance closing termination read ends =>
      cases closed_of_ends read ends with
      | integrityFailure named _ differs => exact ⟨last, by simp, _, named, differs⟩
      | unavailable => cases failure
      | source => cases failure
      | declared => cases failure
  · rintro ⟨record, visited, source, named, differs⟩
    cases closes.closed visited (sourceLink_eq_none named differs) with
    | integrityFailure => rfl
    | unavailable noMemory => rw [named] at noMemory; cases noMemory
    | source noMemory => rw [named] at noMemory; cases noMemory
    | declared noMemory => rw [named] at noMemory; cases noMemory

/-- A visited record with a source message is the last one. -/
theorem Closes.source_of_message
    (closes : Closes runtime database caller (runtime.visit database caller maxDepth [] root)
      closing termination)
    {record : MemoryRecord} {message : LedgerMessage}
    (visited : record ∈ (runtime.visit database caller maxDepth [] root).1)
    (named : database.sourceMessage? caller record = some message) : termination = .source := by
  have stop : runtime.sourceLink database caller record = none := by
    unfold MemoryDatabase.sourceMessage? at named
    unfold MemoryRuntime.sourceLink
    cases item : record.sourceItem? with
    | none => rfl
    | some itemId =>
      rw [item] at named
      cases named
  cases closes.closed visited stop with
  | source => rfl
  | unavailable _ noMessage => rw [named] at noMessage; cases noMessage
  | integrityFailure _ noMessage => rw [named] at noMessage; cases noMessage
  | declared _ noMessage => rw [named] at noMessage; cases noMessage

/-- The closing nodes of a complete trace with an unchanged source message are verified. -/
theorem Closes.closing_verified
    (closes : Closes runtime database caller (runtime.visit database caller maxDepth [] root)
      closing termination)
    (message : ∀ record ∈ (runtime.visit database caller maxDepth [] root).1, ∀ message,
      database.sourceMessage? caller record = some message →
        runtime.sourceAgrees record message.content = true)
    (complete : termination = .source ∨ termination = .declared ∨ termination = .root) :
    ∀ node ∈ closing, node.integrity = "verified" := by
  generalize runtime.visit database caller maxDepth [] root = walked at closes message
  cases closes with
  | repeated => simp
  | exhausted => simp
  | @stopped before last provenance closing termination read ends =>
    cases closed_of_ends read ends with
    | source _ named =>
      intro node mem
      have agrees := message last (by simp) _ named
      rw [List.mem_singleton.mp mem, agrees]
      rfl
    | declared => simp
    | unavailable => simp at complete
    | integrityFailure => simp at complete

end Walk

/-! ## The exact condition -/

theorem nodeOf_integrity (record : MemoryRecord) :
    (runtime.nodeOf record).integrity = if runtime.contentAgrees record then "verified" else "mismatch" :=
  rfl

/-- An answer keeps its promise exactly if a changed record leads to a changed source memory and the
source message is unchanged. -/
theorem answer_verified_iff {resolver : ProvenanceResolver} {itemId : String} {root : MemoryRecord}
    {trace : ProvenanceTrace} (visible : database.table.find? caller itemId false = some root)
    (returned : resolver.trace runtime database caller itemId = .ok trace) :
    VerifiedAnswer runtime database caller (runtime.visit database caller resolver.maxDepth [] root).1 trace ↔
      Intact runtime database caller (runtime.visit database caller resolver.maxDepth [] root).1 := by
  unfold ProvenanceResolver.trace at returned
  rw [visible] at returned
  dsimp only at returned
  -- An answer was returned, so everything on the way was readable.
  have readable : ∀ record ∈ (runtime.visit database caller resolver.maxDepth [] root).1,
      runtime.Readable record := by
    intro record visited
    by_contra unreadable
    obtain ⟨error, failed⟩ := traceFrom_of_unreadable visited unreadable
    rw [failed] at returned
    cases returned
  obtain ⟨closing, termination, traced, closes⟩ := traceFrom_of_readable readable
  rw [traced] at returned
  cases returned
  have failure := closes.integrityFailure_iff
  constructor
  · -- A failed answer ends in an integrity failure, and only a changed source memory does that.
    intro answer
    constructor
    case content =>
      rintro ⟨record, visited, differs⟩
      exact failure.mp (ProvenanceTrace.fails_iff.mp (answer.content record visited differs))
    case message =>
      intro record visited message named
      by_contra differs
      have fails := answer.message record visited message named (by simpa using differs)
      have source : termination = .source := closes.source_of_message visited named
      have other : termination = .integrityFailure := ProvenanceTrace.fails_iff.mp fails
      rw [other] at source
      cases source
  · intro intact
    have ended : SourceChanged runtime database caller
        (runtime.visit database caller resolver.maxDepth [] root).1 → ProvenanceTrace.Fails
          ⟨root.itemId, (runtime.visit database caller resolver.maxDepth [] root).1.map runtime.nodeOf ++ closing,
            termination⟩ :=
      fun changed => ProvenanceTrace.fails_iff.mpr (failure.mpr changed)
    constructor
    case content =>
      intro record visited differs
      exact ended (intact.content ⟨record, visited, differs⟩)
    case memory =>
      intro record visited source named differs
      exact ended ⟨record, visited, source, named, differs⟩
    case message =>
      intro record visited message named differs
      rw [intact.message record visited message named] at differs
      cases differs
    case verified =>
      intro complete node mem
      cases List.mem_append.mp mem with
      | inl own =>
        obtain ⟨record, visited, rfl⟩ := List.mem_map.mp own
        rw [nodeOf_integrity]
        apply if_pos
        by_contra differs
        have fails := ended (intact.content ⟨record, visited, by simpa using differs⟩)
        rw [fails.incomplete] at complete
        cases complete
      | inr last =>
        simp only [ProvenanceTrace.complete, Bool.or_eq_true, decide_eq_true_eq, or_assoc] at complete
        exact closes.closing_verified intact.message complete node last

/-! ## A changed record -/

/-- The tide record after its content was changed in the table. -/
def changedMemory : MemoryRecord := { tideMemory with content := "Low tide is at nine." }

def changedDatabase : MemoryDatabase := ⟨quietLedger, ⟨[changedMemory], List.nodup_singleton _⟩⟩

/-- The digest of the changed content beside those of the two records. -/
def changedRuntime : MemoryRuntime := { pierRuntime with
  sha256 := fun text =>
    if text = "Low tide is at nine." then "ab826fd596bb35ab62577977af12f4db30588216989f684255d315591fc853fc"
    else pierRuntime.sha256 text }

/-- `trace` on the changed record. -/
def changedTrace : ProvenanceTrace where
  rootItemId := "tide"
  nodes := [.memory "tide" "user_org_knowledge" "organization" 1 "tide table" false
    "ab826fd596bb35ab62577977af12f4db30588216989f684255d315591fc853fc" false]
  termination := .declared

theorem changed_visible : changedDatabase.table.find? ⟨1, 1⟩ "tide" false = some changedMemory := by decide +kernel

theorem changed_returned :
    defaultResolver.trace changedRuntime changedDatabase ⟨1, 1⟩ "tide" = .ok changedTrace := by decide +kernel

theorem changed_answer_verified_iff :
    VerifiedAnswer changedRuntime changedDatabase ⟨1, 1⟩
        (changedRuntime.visit changedDatabase ⟨1, 1⟩ defaultResolver.maxDepth [] changedMemory).1 changedTrace ↔
      Intact changedRuntime changedDatabase ⟨1, 1⟩
        (changedRuntime.visit changedDatabase ⟨1, 1⟩ defaultResolver.maxDepth [] changedMemory).1 :=
  answer_verified_iff changed_visible changed_returned

/-- The answer about the changed record is complete although its only node is not verified. -/
theorem changed_record_complete : ¬∀ (runtime : MemoryRuntime) (database : MemoryDatabase) (caller : Caller)
    (resolver : ProvenanceResolver) (itemId : String) (root : MemoryRecord) (trace : ProvenanceTrace),
    database.table.find? caller itemId false = some root →
    resolver.trace runtime database caller itemId = .ok trace →
    VerifiedAnswer runtime database caller (runtime.visit database caller resolver.maxDepth [] root).1 trace := by
  intro claim
  have answer := claim changedRuntime changedDatabase ⟨1, 1⟩ defaultResolver "tide" changedMemory changedTrace
    changed_visible changed_returned
  have verified := answer.verified rfl _ (List.mem_singleton_self _)
  revert verified
  decide

end Eiraos.Memory
