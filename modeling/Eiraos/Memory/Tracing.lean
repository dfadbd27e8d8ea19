import Eiraos.Memory.Provenance

/-! # What a trace visits

The loop of `trace` is a bounded walk along the source links; its closing node and its
termination follow from the last record of the walk.
-/

namespace Eiraos.Memory

open Guarded PythonJson BoundedWalk

variable {runtime : MemoryRuntime} {database : MemoryDatabase} {caller : Caller}

/-! ## Links -/

namespace MemoryRuntime

variable (runtime : MemoryRuntime)

/-- `json.loads` raises nothing on the record but what `_provenance` catches. -/
def Readable (record : MemoryRecord) : Prop :=
  ∀ error, runtime.loads record.provenanceJson = .error error → error = .typeError ∨ error = .valueError

/-- A visible source whose digest is the recorded one. -/
def sourceLink (database : MemoryDatabase) (caller : Caller) (record : MemoryRecord) :
    Option MemoryRecord := do
  let itemId ← record.sourceItem?
  let source ← database.table.find? caller itemId true
  let provenance ← (runtime.provenance record).toOption
  if (provenance.field "source_sha256").isText (runtime.sha256 source.content) then some source else none

/-- The node of a record in any trace that visits it. -/
def nodeOf (record : MemoryRecord) : ProvenanceNode :=
  runtime.memoryNode ((runtime.provenance record).toOption.getD (.object [])) record

/-- The walk of a trace. -/
def visit (database : MemoryDatabase) (caller : Caller) (maxDepth : Nat) (seen : List String)
    (root : MemoryRecord) : List MemoryRecord × Ending :=
  walk MemoryRecord.ref (runtime.sourceLink database caller) maxDepth seen root

end MemoryRuntime

theorem readable_iff {record : MemoryRecord} :
    runtime.Readable record ↔ ∃ provenance, runtime.provenance record = .ok provenance := by
  unfold MemoryRuntime.Readable MemoryRuntime.provenance
  cases runtime.loads record.provenanceJson with
  | ok value => simp
  | error error => cases error <;> simp

/-- The six ways the loop can take after a node. -/
inductive Followed (runtime : MemoryRuntime) (database : MemoryDatabase) (caller : Caller)
    (provenance : JsonValue) (current : MemoryRecord) : Continuation → Prop
  | linked {itemId : String} {source : MemoryRecord} (named : current.sourceItem? = some itemId)
      (found : database.table.find? caller itemId true = some source)
      (agrees : (provenance.field "source_sha256").isText (runtime.sha256 source.content) = true) :
      Followed runtime database caller provenance current (.goesOn source)
  | mismatch {itemId : String} {source : MemoryRecord} (named : current.sourceItem? = some itemId)
      (found : database.table.find? caller itemId true = some source)
      (differs : (provenance.field "source_sha256").isText (runtime.sha256 source.content) = false) :
      Followed runtime database caller provenance current
        (.ends [.sourceMismatch source.itemId] .integrityFailure)
  | hiddenMemory {itemId : String} (named : current.sourceItem? = some itemId)
      (absent : database.table.find? caller itemId true = none) :
      Followed runtime database caller provenance current (.ends [.unavailable .memory] .unavailable)
  | message {messageId : Int} {message : LedgerMessage} (noMemory : current.sourceItem? = none)
      (named : current.sourceMessage? = some messageId)
      (found : database.ledger.message? caller.organizationId messageId = some message) :
      Followed runtime database caller provenance current
        (.ends [.message message.id message.role (runtime.sha256 message.content)
          ((provenance.field "source_sha256").isText (runtime.sha256 message.content))] .source)
  | hiddenMessage {messageId : Int} (noMemory : current.sourceItem? = none)
      (named : current.sourceMessage? = some messageId)
      (absent : database.ledger.message? caller.organizationId messageId = none) :
      Followed runtime database caller provenance current (.ends [.unavailable .message] .unavailable)
  | declared (noMemory : current.sourceItem? = none) (noMessage : current.sourceMessage? = none) :
      Followed runtime database caller provenance current (.ends [] .declared)

theorem follow_followed (runtime : MemoryRuntime) (database : MemoryDatabase) (caller : Caller)
    (provenance : JsonValue) (current : MemoryRecord) :
    Followed runtime database caller provenance current
      (runtime.follow database caller provenance current) := by
  unfold MemoryRuntime.follow
  cases named : current.sourceItem? with
  | none =>
    cases message : current.sourceMessage? with
    | none => exact .declared named message
    | some messageId =>
      dsimp only
      cases found : database.ledger.message? caller.organizationId messageId with
      | none => exact .hiddenMessage named message found
      | some source => exact .message named message found
  | some itemId =>
    dsimp only
    cases found : database.table.find? caller itemId true with
    | none => exact .hiddenMemory named found
    | some source =>
      dsimp only
      split
      next agrees => exact .linked named found agrees
      next differs => exact .mismatch named found (by simpa using differs)

/-- The loop goes on exactly along a link. -/
theorem follow_goesOn_iff {record source : MemoryRecord} {provenance : JsonValue}
    (read : runtime.provenance record = .ok provenance) :
    runtime.follow database caller provenance record = .goesOn source ↔
      runtime.sourceLink database caller record = some source := by
  have followed := follow_followed runtime database caller provenance record
  unfold MemoryRuntime.sourceLink
  rw [read]
  generalize runtime.follow database caller provenance record = continuation at followed
  cases followed with
  | linked named found agrees => simp [named, found, agrees, Except.toOption]
  | mismatch named found differs => simp [named, found, differs, Except.toOption]
  | hiddenMemory named absent => simp [named, absent]
  | message noMemory => simp [noMemory]
  | hiddenMessage noMemory => simp [noMemory]
  | declared noMemory => simp [noMemory]

/-! ## The loop as a walk -/

/-- How a trace closes after its walk. -/
inductive Closes (runtime : MemoryRuntime) (database : MemoryDatabase) (caller : Caller) :
    List MemoryRecord × Ending → List ProvenanceNode → Termination → Prop
  | repeated {visited : List MemoryRecord} :
      Closes runtime database caller (visited, .repeated) [] .cycle
  | exhausted {visited : List MemoryRecord} :
      Closes runtime database caller (visited, .exhausted) [] .depthLimit
  | stopped {before : List MemoryRecord} {last : MemoryRecord} {provenance : JsonValue}
      {closing : List ProvenanceNode} {termination : Termination}
      (read : runtime.provenance last = .ok provenance)
      (ends : runtime.follow database caller provenance last = .ends closing termination) :
      Closes runtime database caller (before ++ [last], .stopped) closing termination

theorem Closes.cons {visited : List MemoryRecord} {ending : Ending} {closing : List ProvenanceNode}
    {termination : Termination} (closes : Closes runtime database caller (visited, ending) closing termination)
    (first : MemoryRecord) : Closes runtime database caller (first :: visited, ending) closing termination := by
  generalize same : (visited, ending) = walked at closes
  cases closes with
  | repeated =>
    cases same
    exact .repeated
  | exhausted =>
    cases same
    exact .exhausted
  | @stopped before last provenance closing termination read ends =>
    cases same
    rw [← List.cons_append]
    exact .stopped read ends

theorem traceFrom_of_readable {remaining : Nat} {seen : List String} {root : MemoryRecord}
    (readable : ∀ record ∈ (runtime.visit database caller remaining seen root).1, runtime.Readable record) :
    ∃ closing termination, runtime.traceFrom database caller remaining seen root =
        .ok ((runtime.visit database caller remaining seen root).1.map runtime.nodeOf ++ closing, termination) ∧
      Closes runtime database caller (runtime.visit database caller remaining seen root) closing termination := by
  induction remaining generalizing seen root with
  | zero => exact ⟨[], .depthLimit, rfl, .exhausted⟩
  | succ remaining inductionHypothesis =>
    unfold MemoryRuntime.visit walk at readable ⊢
    unfold MemoryRuntime.traceFrom
    by_cases again : root.ref ∈ seen
    · rw [if_pos again, if_pos again]
      exact ⟨[], .cycle, rfl, .repeated⟩
    · rw [if_neg again] at readable ⊢
      rw [if_neg again]
      -- Whether the walk goes on or not, it begins with this record.
      have here : runtime.Readable root := by
        apply readable
        cases runtime.sourceLink database caller root <;> simp
      obtain ⟨provenance, read⟩ := readable_iff.mp here
      have node : runtime.memoryNode provenance root = runtime.nodeOf root := by
        rw [MemoryRuntime.nodeOf, read]
        rfl
      rw [read]
      cases link : runtime.sourceLink database caller root with
      | none =>
        cases followed : runtime.follow database caller provenance root with
        | goesOn source =>
          rw [(follow_goesOn_iff read).mp followed] at link
          cases link
        | ends closing termination =>
          refine ⟨closing, termination, ?_, ?_⟩
          · simp [node, followed, bind, Except.bind, pure, Except.pure]
          · rw [show [root] = [] ++ [root] from rfl]
            exact .stopped read followed
      | some source =>
        rw [link] at readable
        have followed := (follow_goesOn_iff read).mpr link
        obtain ⟨closing, termination, later, closes⟩ := inductionHypothesis
          fun record mem => readable record (List.mem_cons_of_mem _ mem)
        refine ⟨closing, termination, ?_, closes.cons root⟩
        simp only [bind, Except.bind, followed, later, node, pure, Except.pure]
        rfl

theorem traceFrom_of_unreadable {remaining : Nat} {seen : List String} {root record : MemoryRecord}
    (visited : record ∈ (runtime.visit database caller remaining seen root).1)
    (unreadable : ¬runtime.Readable record) :
    ∃ error, runtime.traceFrom database caller remaining seen root = .error error := by
  induction remaining generalizing seen root with
  | zero => cases visited
  | succ remaining inductionHypothesis =>
    unfold MemoryRuntime.visit walk at visited
    unfold MemoryRuntime.traceFrom
    by_cases again : root.ref ∈ seen
    · rw [if_pos again] at visited
      cases visited
    · rw [if_neg again] at visited ⊢
      cases read : runtime.provenance root with
      | error error => exact ⟨error, rfl⟩
      | ok provenance =>
        have here : record ≠ root := by
          rintro rfl
          exact unreadable (readable_iff.mpr ⟨provenance, read⟩)
        cases link : runtime.sourceLink database caller root with
        | none =>
          rw [link] at visited
          exact absurd (List.mem_singleton.mp visited) here
        | some source =>
          rw [link] at visited
          cases List.mem_cons.mp visited with
          | inl same => exact absurd same here
          | inr later =>
            obtain ⟨error, failed⟩ := inductionHypothesis later
            refine ⟨error, ?_⟩
            simp only [bind, Except.bind, (follow_goesOn_iff read).mpr link, failed]

/-! ## What a caller gets to see -/

theorem MemoryTable.find?_eq_some {table : MemoryTable} {itemId : String} {includeDeleted : Bool}
    {record : MemoryRecord} (found : table.find? caller itemId includeDeleted = some record) :
    record ∈ table.records ∧ caller.sees record = true ∧ record.itemId = itemId := by
  have selected := List.find?_some found
  simp only [Bool.and_eq_true, decide_eq_true_eq] at selected
  exact ⟨List.mem_of_find?_eq_some found, selected.1, selected.2.1⟩

theorem sourceLink_sees {record source : MemoryRecord}
    (link : runtime.sourceLink database caller record = some source) :
    source ∈ database.table.records ∧ caller.sees source = true := by
  unfold MemoryRuntime.sourceLink at link
  obtain ⟨itemId, _, rest⟩ := Option.bind_eq_some_iff.mp link
  obtain ⟨found, looked, rest⟩ := Option.bind_eq_some_iff.mp rest
  obtain ⟨provenance, _, rest⟩ := Option.bind_eq_some_iff.mp rest
  split at rest
  next =>
    cases rest
    have known := MemoryTable.find?_eq_some looked
    exact ⟨known.1, known.2.1⟩
  next => cases rest

/-- Nothing a node names is outside the caller's scope. -/
structure NamesVisible (database : MemoryDatabase) (caller : Caller) (node : ProvenanceNode) : Prop where
  record : ∀ itemId ∈ node.itemId?, ∃ record ∈ database.table.records,
    record.itemId = itemId ∧ caller.sees record = true
  message : ∀ id ∈ node.messageId?, ∃ message ∈ database.ledger.messages,
    message.id = id ∧ message.organizationId = caller.organizationId

theorem namesVisible_unavailable {kind : NodeKind} : NamesVisible database caller (.unavailable kind) where
  record itemId mem := by cases mem
  message id mem := by cases mem

theorem Followed.ends_visible {provenance : JsonValue} {current : MemoryRecord}
    {closing : List ProvenanceNode} {termination : Termination}
    (followed : Followed runtime database caller provenance current (.ends closing termination)) :
    closing.length ≤ 1 ∧ termination ≠ .cycle ∧ termination ≠ .depthLimit ∧
      ∀ node ∈ closing, NamesVisible database caller node := by
  generalize same : Continuation.ends closing termination = continuation at followed
  cases followed with
  | linked => cases same
  | mismatch named found differs =>
    cases same
    refine ⟨Nat.le_refl 1, by decide, by decide, ?_⟩
    intro node mem
    rw [List.mem_singleton.mp mem]
    have known := MemoryTable.find?_eq_some found
    refine ⟨?_, fun id named => by cases named⟩
    intro itemId named
    exact ⟨_, known.1, Option.some.inj named, known.2.1⟩
  | hiddenMemory =>
    cases same
    refine ⟨Nat.le_refl 1, by decide, by decide, ?_⟩
    intro node mem
    rw [List.mem_singleton.mp mem]
    exact namesVisible_unavailable
  | message noMemory named found =>
    cases same
    refine ⟨Nat.le_refl 1, by decide, by decide, ?_⟩
    intro node mem
    rw [List.mem_singleton.mp mem]
    have selected := List.find?_some found
    simp only [Bool.and_eq_true, decide_eq_true_eq] at selected
    refine ⟨fun itemId named => (by cases named), ?_⟩
    intro id named
    exact ⟨_, List.mem_of_find?_eq_some found, Option.some.inj named, selected.2⟩
  | hiddenMessage =>
    cases same
    refine ⟨Nat.le_refl 1, by decide, by decide, ?_⟩
    intro node mem
    rw [List.mem_singleton.mp mem]
    exact namesVisible_unavailable
  | declared =>
    cases same
    refine ⟨Nat.zero_le 1, by decide, by decide, ?_⟩
    intro node mem
    cases mem

/-! ## The contract of a trace -/

/-- A trace that visits some records and then closes, with the promises of `trace`. -/
structure TraceContract (runtime : MemoryRuntime) (database : MemoryDatabase) (caller : Caller)
    (maxDepth : Nat) (root : MemoryRecord) (trace : ProvenanceTrace) (visited : List MemoryRecord)
    (closing : List ProvenanceNode) : Prop where
  nodes : trace.nodes = visited.map runtime.nodeOf ++ closing
  inOrder : visited <+: links (runtime.sourceLink database caller) maxDepth root
  bounded : visited.length ≤ maxDepth
  distinct : (visited.map MemoryRecord.ref).Nodup
  visible : ∀ record ∈ visited, record ∈ database.table.records ∧ caller.sees record = true
  closingNode : closing.length ≤ 1
  named : ∀ node ∈ trace.nodes, NamesVisible database caller node
  hiddenMemory : ∀ record ∈ visited, ∀ itemId, record.sourceItem? = some itemId →
    database.table.find? caller itemId true = none →
      closing = [.unavailable .memory] ∧ trace.termination = .unavailable
  hiddenMessage : ∀ record ∈ visited, ∀ messageId, record.sourceItem? = none →
    record.sourceMessage? = some messageId →
    database.ledger.message? caller.organizationId messageId = none →
      closing = [.unavailable .message] ∧ trace.termination = .unavailable
  cycle : trace.termination = .cycle ↔
    ¬(links (runtime.sourceLink database caller) maxDepth root).Nodup
  depthLimit : trace.termination = .depthLimit ↔
    (links (runtime.sourceLink database caller) (maxDepth + 1) root).length = maxDepth + 1 ∧
      (links (runtime.sourceLink database caller) maxDepth root).Nodup

/-- References tell the rows of the table apart. -/
theorem ref_injective {first second : MemoryRecord} (firstMem : first ∈ database.table.records)
    (secondMem : second ∈ database.table.records) (same : first.ref = second.ref) : first = second := by
  apply database.table.uniqueItems.eq firstMem secondMem
  have items := congrArg String.toList same
  simp only [MemoryRecord.ref, String.toList_append] at items
  exact String.toList_inj.mp (List.append_cancel_left items)

section Contract

variable {maxDepth : Nat} {root : MemoryRecord}

theorem links_visible (known : root ∈ database.table.records) (sees : caller.sees root = true) :
    ∀ record ∈ links (runtime.sourceLink database caller) maxDepth root,
      record ∈ database.table.records ∧ caller.sees record = true :=
  forall_links ⟨known, sees⟩ fun _ _ _ link => sourceLink_sees link

theorem visit_repeated_iff (known : root ∈ database.table.records) (sees : caller.sees root = true) :
    (runtime.visit database caller maxDepth [] root).2 = .repeated ↔
      ¬(links (runtime.sourceLink database caller) maxDepth root).Nodup := by
  have visible : ∀ record ∈ links (runtime.sourceLink database caller) maxDepth root, _ :=
    links_visible known sees
  unfold MemoryRuntime.visit
  rw [walk_repeated_iff]
  apply not_congr
  constructor
  · intro fresh
    exact fresh.1.of_map _
  · intro distinct
    refine ⟨distinct.map_on ?_, by simp⟩
    intro first firstMem second secondMem same
    exact ref_injective (visible first firstMem).1 (visible second secondMem).1 same

/-- A visited record without a link is the last one and closes the trace. -/
theorem Closes.of_stop {closing : List ProvenanceNode} {termination : Termination}
    (closes : Closes runtime database caller (runtime.visit database caller maxDepth [] root)
      closing termination)
    {record : MemoryRecord} (visited : record ∈ (runtime.visit database caller maxDepth [] root).1)
    (stop : runtime.sourceLink database caller record = none) :
    ∃ provenance, runtime.provenance record = .ok provenance ∧
      runtime.follow database caller provenance record = .ends closing termination := by
  obtain ⟨before, whole⟩ := walk_stop visited stop
  unfold MemoryRuntime.visit at closes
  rw [whole] at closes
  generalize same : (before ++ [record], Ending.stopped) = walked at closes
  cases closes with
  | repeated => cases same
  | exhausted => cases same
  | @stopped others last provenance closing termination read ends =>
    have lasts : record = last := by
      have lists := (Prod.mk.injEq _ _ _ _ ▸ same).1
      exact (List.append_inj' lists rfl).2 |> List.singleton_inj.mp
    rw [lasts]
    exact ⟨provenance, read, ends⟩

theorem trace_contract (known : root ∈ database.table.records) (sees : caller.sees root = true)
    {closing : List ProvenanceNode} {termination : Termination}
    (closes : Closes runtime database caller (runtime.visit database caller maxDepth [] root)
      closing termination) :
    TraceContract runtime database caller maxDepth root
      ⟨root.itemId, (runtime.visit database caller maxDepth [] root).1.map runtime.nodeOf ++ closing,
        termination⟩ (runtime.visit database caller maxDepth [] root).1 closing := by
  have visible : ∀ record ∈ links (runtime.sourceLink database caller) maxDepth root, _ :=
    links_visible known sees
  have visited : (runtime.visit database caller maxDepth [] root).1 <+:
      links (runtime.sourceLink database caller) maxDepth root := walk_prefix
  have repeated : (runtime.visit database caller maxDepth [] root).2 = .repeated ↔ _ :=
    visit_repeated_iff known sees
  have exhausted : (runtime.visit database caller maxDepth [] root).2 = .exhausted ↔ _ := walk_exhausted_iff
  rw [ne_eq, show (walk _ _ _ _ _).2 = _ ↔ _ from repeated, not_not] at exhausted
  -- Of the closing node it only matters how the walk has ended.
  have ending : closing.length ≤ 1 ∧ (∀ node ∈ closing, NamesVisible database caller node) ∧
      (termination = .cycle ↔ (runtime.visit database caller maxDepth [] root).2 = .repeated) ∧
      (termination = .depthLimit ↔ (runtime.visit database caller maxDepth [] root).2 = .exhausted) := by
    generalize runtime.visit database caller maxDepth [] root = walked at closes
    cases closes with
    | repeated => simp
    | exhausted => simp
    | @stopped before last provenance closing termination read ends =>
      have followed := follow_followed runtime database caller provenance last
      rw [ends] at followed
      obtain ⟨one, noCycle, noLimit, names⟩ := followed.ends_visible
      simp [one, noCycle, noLimit]
      exact names
  constructor
  case nodes => rfl
  case inOrder => exact visited
  case bounded => exact visited.length_le.trans length_links_le
  case distinct => exact walk_fresh.1
  case visible => exact fun record mem => visible record (visited.subset mem)
  case closingNode => exact ending.1
  case named =>
    intro node mem
    cases List.mem_append.mp mem with
    | inl own =>
      obtain ⟨record, there, rfl⟩ := List.mem_map.mp own
      have scope := visible record (visited.subset there)
      refine ⟨?_, fun id named => by cases named⟩
      intro itemId named
      exact ⟨record, scope.1, Option.some.inj named, scope.2⟩
    | inr last => exact ending.2.1 node last
  case hiddenMemory =>
    intro record mem itemId named absent
    -- A source that is not there stops the walk, so this is its last record.
    have stop : runtime.sourceLink database caller record = none := by
      simp [MemoryRuntime.sourceLink, named, absent]
    obtain ⟨provenance, _, ends⟩ := closes.of_stop mem stop
    have followed := follow_followed runtime database caller provenance record
    rw [ends] at followed
    generalize same : Continuation.ends closing termination = continuation at followed
    -- Every other reading needs the source, or names none.
    cases followed with
    | hiddenMemory => cases same; exact ⟨rfl, rfl⟩
    | linked => cases same
    | mismatch other found => rw [named] at other; cases other; rw [absent] at found; cases found
    | message noMemory => rw [named] at noMemory; cases noMemory
    | hiddenMessage noMemory => rw [named] at noMemory; cases noMemory
    | declared noMemory => rw [named] at noMemory; cases noMemory
  case hiddenMessage =>
    intro record mem messageId noMemory named absent
    have stop : runtime.sourceLink database caller record = none := by
      simp [MemoryRuntime.sourceLink, noMemory]
    obtain ⟨provenance, _, ends⟩ := closes.of_stop mem stop
    have followed := follow_followed runtime database caller provenance record
    rw [ends] at followed
    generalize same : Continuation.ends closing termination = continuation at followed
    cases followed with
    | hiddenMessage => cases same; exact ⟨rfl, rfl⟩
    | linked => cases same
    | mismatch other => rw [noMemory] at other; cases other
    | hiddenMemory other => rw [noMemory] at other; cases other
    | message _ other found => rw [named] at other; cases other; rw [absent] at found; cases found
    | declared _ noMessage => rw [named] at noMessage; cases noMessage
  case cycle => exact ending.2.2.1.trans repeated
  case depthLimit => exact ending.2.2.2.trans exhausted

end Contract

/-- A visible root is traced as promised exactly if the provenance of every record on the way can
be read. -/
theorem trace_bounded_iff {resolver : ProvenanceResolver} {itemId : String} {root : MemoryRecord}
    (visible : database.table.find? caller itemId false = some root) :
    (∃ trace visited closing, resolver.trace runtime database caller itemId = .ok trace ∧
      TraceContract runtime database caller resolver.maxDepth root trace visited closing) ↔
      ∀ record ∈ (runtime.visit database caller resolver.maxDepth [] root).1, runtime.Readable record := by
  have known := MemoryTable.find?_eq_some visible
  unfold ProvenanceResolver.trace
  rw [visible]
  dsimp only
  constructor
  · rintro ⟨trace, visited, closing, traced, _⟩
    by_contra unreadable
    push Not at unreadable
    obtain ⟨record, mem, unreadable⟩ := unreadable
    obtain ⟨error, failed⟩ := traceFrom_of_unreadable mem unreadable
    rw [failed] at traced
    cases traced
  · intro readable
    obtain ⟨closing, termination, traced, closes⟩ := traceFrom_of_readable readable
    rw [traced]
    exact ⟨_, _, closing, rfl, trace_contract known.1 known.2.1 closes⟩

/-! ## Two records -/

def tideMemory : MemoryRecord where
  itemId := "tide"
  organizationId := 1
  ownerUserId := none
  actorUserId := 1
  memoryClass := "user_org_knowledge"
  scopeKind := "organization"
  content := "Low tide is at six."
  provenanceJson := "\x7b\"content_sha256\":\"d9beeffdbb66524b70e03ec867df27cb3e2e496736d7772f6192861c351abdd3\"\x7d"
  sourceMessageId := none
  sourceMemoryItemId := none
  reason := "tide table"
  createdAt := 0
  deletedAt := none

def pierMemory : MemoryRecord where
  itemId := "pier"
  organizationId := 1
  ownerUserId := some 1
  actorUserId := 1
  memoryClass := "persistent_memory"
  scopeKind := "user"
  content := "The pier is dry at six."
  provenanceJson :=
    "\x7b\"content_sha256\":\"9d951ce9cce19e64bfa2b573f9956a80e20cf3cd470f00f0ea7ecf49e9f0abce\",\"source_sha256\":\"d9beeffdbb66524b70e03ec867df27cb3e2e496736d7772f6192861c351abdd3\"\x7d"
  sourceMessageId := none
  sourceMemoryItemId := some "tide"
  reason := "derived"
  createdAt := 1
  deletedAt := none

/-- The digests and the JSON texts of the two records. -/
def pierRuntime : MemoryRuntime where
  sha256 text :=
    if text = "Low tide is at six." then "d9beeffdbb66524b70e03ec867df27cb3e2e496736d7772f6192861c351abdd3"
    else if text = "The pier is dry at six." then "9d951ce9cce19e64bfa2b573f9956a80e20cf3cd470f00f0ea7ecf49e9f0abce"
    else ""
  loads text :=
    if text = tideMemory.provenanceJson then
      .ok (.object [("content_sha256", .string "d9beeffdbb66524b70e03ec867df27cb3e2e496736d7772f6192861c351abdd3")])
    else if text = pierMemory.provenanceJson then
      .ok (.object [
        ("content_sha256", .string "9d951ce9cce19e64bfa2b573f9956a80e20cf3cd470f00f0ea7ecf49e9f0abce"),
        ("source_sha256", .string "d9beeffdbb66524b70e03ec867df27cb3e2e496736d7772f6192861c351abdd3")])
    else .error .valueError
  dumps _ := "\x7b\x7d"
  admits _ := true

def quietLedger : MessageLedger := ⟨[], [], List.nodup_nil⟩

theorem uniqueItems_pier : Rows.Unique MemoryRecord.itemId [tideMemory, pierMemory] := by
  unfold Rows.Unique
  decide

def pierDatabase : MemoryDatabase := ⟨quietLedger, ⟨[tideMemory, pierMemory], uniqueItems_pier⟩⟩

def defaultResolver : ProvenanceResolver := ⟨20, by decide⟩

theorem pier_trace_bounded_iff :
    (∃ trace visited closing, defaultResolver.trace pierRuntime pierDatabase ⟨1, 1⟩ "pier" = .ok trace ∧
      TraceContract pierRuntime pierDatabase ⟨1, 1⟩ defaultResolver.maxDepth pierMemory trace visited
        closing) ↔
      ∀ record ∈ (pierRuntime.visit pierDatabase ⟨1, 1⟩ defaultResolver.maxDepth [] pierMemory).1,
        pierRuntime.Readable record := by
  have visible : pierDatabase.table.find? ⟨1, 1⟩ "pier" false = some pierMemory := by decide +kernel
  exact trace_bounded_iff visible

/-- A record whose provenance is nested too deeply for `json.loads`. -/
def nestedMemory : MemoryRecord := { tideMemory with
  provenanceJson := String.ofList (List.replicate 100000 '[') }

/-- `json.loads` on that text. -/
def nestedRuntime : MemoryRuntime := { pierRuntime with
  loads := fun _ => .error .recursionError }

def nestedDatabase : MemoryDatabase := ⟨quietLedger, ⟨[nestedMemory], List.nodup_singleton _⟩⟩

theorem nested_provenance_raises : ∃ (runtime : MemoryRuntime) (database : MemoryDatabase) (caller : Caller)
    (itemId : String) (root : MemoryRecord),
    database.table.find? caller itemId false = some root ∧
    ¬∃ trace visited closing, defaultResolver.trace runtime database caller itemId = .ok trace ∧
      TraceContract runtime database caller defaultResolver.maxDepth root trace visited closing := by
  have visible : nestedDatabase.table.find? ⟨1, 1⟩ "tide" false = some nestedMemory := by rfl
  refine ⟨nestedRuntime, nestedDatabase, ⟨1, 1⟩, "tide", nestedMemory, visible, ?_⟩
  rintro ⟨trace, visited, closing, traced, _⟩
  have raised : defaultResolver.trace nestedRuntime nestedDatabase ⟨1, 1⟩ "tide" =
      .error (.python .recursionError) := by
    unfold ProvenanceResolver.trace
    rw [visible]
    rfl
  rw [raised] at traced
  cases traced

end Eiraos.Memory
