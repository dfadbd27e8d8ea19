import Eiraos.Documents.Worker
import Eiraos.Foundations.Run

/-! # Deliveries of one ingestion job

Any number of deliveries of the same job overlap at the granularity of their transactions.
The chunks of the document are written once exactly as long as no commit finds chunks that
another delivery has committed, and no failing delivery has chunks in its session.
-/

namespace Eiraos.Documents

/-- The arguments of the job. -/
structure IngestionJob where
  documentId : Nat
  organizationId : Nat
  content : String
  knowledgeScope : String
  deriving DecidableEq, Repr

/-- A delivery after its first commit: the document it holds and the chunks it has added. -/
structure IngestionSession where
  document : Document
  added : List NewChunk := []
  deriving DecidableEq, Repr

/-- The committed tables and every delivery so far; `none` is one that is over. -/
structure Ingesting where
  tables : Tables
  deliveries : List (Option IngestionSession) := []
  deriving DecidableEq, Repr

inductive IngestionStep where
  | delivered
  | added (delivery : Nat) (embedding : Option Embedding)
  | finished (delivery : Nat)
  | raised (delivery : Nat) (errorType : String)
  | crashed (delivery : Nat)
  deriving DecidableEq, Repr

namespace Ingesting

/-- The session of a delivery that is not over. -/
def session? (state : Ingesting) (delivery : Nat) : Option IngestionSession :=
  (state.deliveries[delivery]?).join

theorem mem_of_session? {state : Ingesting} {delivery : Nat} {session : IngestionSession}
    (running : state.session? delivery = some session) : some session ∈ state.deliveries :=
  List.mem_of_getElem? (Option.join_eq_some_iff.mp running)

/-- The delivery is over, with these tables. -/
def ended (state : Ingesting) (delivery : Nat) (tables : Tables) : Ingesting :=
  ⟨tables, state.deliveries.set delivery none⟩

@[simp] theorem ended_tables (state : Ingesting) (delivery : Nat) (tables : Tables) :
    (state.ended delivery tables).tables = tables := rfl

end Ingesting

namespace IngestionJob

variable (job : IngestionJob)

/-- A commit that the database refuses is not enabled: the job then raises, which is a crash. -/
def step (state : Ingesting) : IngestionStep → Option Ingesting
  | .delivered =>
    match state.tables.beginIngestion job.documentId job.organizationId with
    | .error _ => some { state with deliveries := state.deliveries ++ [none] }
    | .ok (document, tables) => some ⟨tables, state.deliveries ++ [some ⟨document, []⟩]⟩
  | .added delivery embedding => do
    let session ← state.session? delivery
    let position := session.added.length
    let chunkText ← (intelligentChunking job.content)[position]?
    let chunk := newChunk job.organizationId job.documentId session.document.title job.knowledgeScope
      position chunkText embedding
    return { state with
      deliveries := state.deliveries.set delivery
        (some { session with added := session.added ++ [chunk] }) }
  | .finished delivery => do
    let session ← state.session? delivery
    -- the loop is over
    guard (session.added.length = (intelligentChunking job.content).length)
    let (_, tables) ← state.tables.finishIngestion job.documentId session.added
    return state.ended delivery tables
  | .raised delivery errorType => do
    let session ← state.session? delivery
    let (_, tables) ← state.tables.failIngestion job.documentId session.added errorType
    return state.ended delivery tables
  | .crashed delivery => do
    let _ ← state.session? delivery
    return state.ended delivery state.tables

/-! ## What a step does -/

/-- The five things that can happen. -/
inductive Moves (state : Ingesting) : IngestionStep → Ingesting → Prop
  | ignored (result : IngestionResult)
      (known : state.tables.beginIngestion job.documentId job.organizationId = .error result) :
      Moves state .delivered { state with deliveries := state.deliveries ++ [none] }
  | begun (document : Document) (tables : Tables)
      (taken : state.tables.beginIngestion job.documentId job.organizationId = .ok (document, tables)) :
      Moves state .delivered ⟨tables, state.deliveries ++ [some ⟨document, []⟩]⟩
  | added (delivery : Nat) (embedding : Option Embedding) (session : IngestionSession)
      (chunkText : String) (running : state.session? delivery = some session)
      (next : (intelligentChunking job.content)[session.added.length]? = some chunkText) :
      Moves state (.added delivery embedding) { state with
        deliveries := state.deliveries.set delivery (some { session with
          added := session.added ++ [newChunk job.organizationId job.documentId session.document.title
            job.knowledgeScope session.added.length chunkText embedding] }) }
  | finished (delivery : Nat) (session : IngestionSession) (inserted : Tables)
      (running : state.session? delivery = some session)
      (whole : session.added.length = (intelligentChunking job.content).length)
      (stored : state.tables.insertChunks session.added = some inserted) :
      Moves state (.finished delivery) (state.ended delivery
        (inserted.setStatus job.documentId (if 0 < session.added.length then .ready else .failed)))
  | raised (delivery : Nat) (errorType : String) (session : IngestionSession) (inserted : Tables)
      (running : state.session? delivery = some session)
      (stored : state.tables.insertChunks session.added = some inserted) :
      Moves state (.raised delivery errorType)
        (state.ended delivery (inserted.setStatus job.documentId .failed))
  | crashed (delivery : Nat) (session : IngestionSession)
      (running : state.session? delivery = some session) :
      Moves state (.crashed delivery) (state.ended delivery state.tables)

variable {job}

theorem moves_of_step {state next : Ingesting} {label : IngestionStep}
    (stepped : job.step state label = some next) : job.Moves state label next := by
  cases label with
  | delivered =>
    simp only [step] at stepped
    split at stepped
    next result known =>
      cases stepped
      exact .ignored result known
    next document tables taken =>
      cases stepped
      exact .begun document tables taken
  | added delivery embedding =>
    simp only [step, Option.bind_eq_bind, Option.bind_eq_some_iff, Option.pure_def,
      Option.some.injEq] at stepped
    obtain ⟨session, running, chunkText, text, rfl⟩ := stepped
    exact .added delivery embedding session chunkText running text
  | finished delivery =>
    simp only [step, Option.bind_eq_bind, Option.bind_eq_some_iff, Option.pure_def,
      Option.some.injEq, Tables.finishIngestion, Option.map_eq_some_iff, Option.guard_eq_some',
      exists_const] at stepped
    obtain ⟨session, running, whole, ending, ⟨inserted, stored, rfl⟩, rfl⟩ := stepped
    exact .finished delivery session inserted running whole stored
  | raised delivery errorType =>
    simp only [step, Option.bind_eq_bind, Option.bind_eq_some_iff, Option.pure_def,
      Option.some.injEq, Tables.failIngestion, Option.map_eq_some_iff] at stepped
    obtain ⟨session, running, ending, ⟨inserted, stored, rfl⟩, rfl⟩ := stepped
    exact .raised delivery errorType session inserted running stored
  | crashed delivery =>
    simp only [step, Option.bind_eq_bind, Option.bind_eq_some_iff, Option.pure_def,
      Option.some.injEq] at stepped
    obtain ⟨session, running, rfl⟩ := stepped
    exact .crashed delivery session running

/-! ## Exactly once -/

/-- The contents of the committed chunks of the document, in the order of their ids. -/
def texts (job : IngestionJob) (tables : Tables) : List String :=
  (tables.chunks.filter fun chunk => chunk.documentId = job.documentId).map fun chunk => chunk.content

def status? (job : IngestionJob) (tables : Tables) : Option DocumentStatus :=
  (tables.document? job.documentId job.organizationId).map Document.status

/-- No chunk or all of them, each once and in order; and `ready` says that there are chunks. -/
def ExactlyOnce (job : IngestionJob) (state : Ingesting) : Prop :=
  (job.texts state.tables = [] ∨ job.texts state.tables = intelligentChunking job.content) ∧
    (job.status? state.tables = some .ready ↔
      job.texts state.tables = intelligentChunking job.content ∧ job.texts state.tables ≠ [])

/-- A commit finds no chunk of the document, and a delivery that fails has added none. -/
def Orderly (job : IngestionJob) (state : Ingesting) : IngestionStep → Prop
  | .finished _ => job.texts state.tables = []
  | .raised delivery _ =>
    job.texts state.tables = [] ∧ ∀ session ∈ state.session? delivery, session.added = []
  | _ => True

instance (job : IngestionJob) (state : Ingesting) : ∀ step, Decidable (job.Orderly state step)
  | .delivered => .isTrue trivial
  | .added _ _ => .isTrue trivial
  | .finished _ => inferInstanceAs (Decidable (_ = _))
  | .raised _ _ => inferInstanceAs (Decidable (_ ∧ _))
  | .crashed _ => .isTrue trivial

/-- The document is queued and has no chunks. -/
def Queued (job : IngestionJob) (tables : Tables) : Prop :=
  job.status? tables = some .queued ∧ job.texts tables = []

/-- What a session has added is a prefix of the chunks. -/
def Adding (job : IngestionJob) (session : IngestionSession) : Prop :=
  session.added.map NewChunk.content = (intelligentChunking job.content).take session.added.length ∧
    ∀ chunk ∈ session.added, chunk.documentId = job.documentId

structure Ingests (job : IngestionJob) (state : Ingesting) : Prop where
  present : (job.status? state.tables).isSome
  exact : job.ExactlyOnce state
  adding : ∀ session, some session ∈ state.deliveries → job.Adding session

/-! ## Texts and status after a step -/

theorem texts_setStatus (tables : Tables) (documentId : Nat) (status : DocumentStatus) :
    job.texts (tables.setStatus documentId status) = job.texts tables := rfl

theorem status?_setStatus (tables : Tables) (status : DocumentStatus) :
    job.status? (tables.setStatus job.documentId status) = (job.status? tables).map fun _ => status := by
  unfold status? Tables.document? Tables.setStatus
  rw [List.find?_map]
  have same : ((fun document : Document =>
        decide (document.id = job.documentId ∧ document.organizationId = job.organizationId)) ∘
      fun document => if document.id = job.documentId then { document with status } else document) =
      fun document => decide (document.id = job.documentId ∧
        document.organizationId = job.organizationId) := by
    funext document
    simp only [Function.comp]
    split <;> rfl
  rw [same]
  cases found : tables.documents.find? _ with
  | none => rfl
  | some document =>
    have named := List.find?_some found
    simp only [decide_eq_true_eq] at named
    simp [named.1]

theorem texts_numbered {added : List NewChunk}
    (own : ∀ chunk ∈ added, chunk.documentId = job.documentId) (sequence : Nat) :
    ((Tables.numbered sequence added).filter fun chunk => chunk.documentId = job.documentId).map
      (fun chunk => chunk.content) = added.map NewChunk.content := by
  induction added generalizing sequence with
  | nil => rfl
  | cons chunk added inductionHypothesis =>
    have rest := inductionHypothesis (fun other mem => own other (List.mem_cons_of_mem _ mem)) (sequence + 1)
    simp [Tables.numbered, own chunk List.mem_cons_self, rest]

theorem texts_insertChunks {tables inserted : Tables} {added : List NewChunk}
    (own : ∀ chunk ∈ added, chunk.documentId = job.documentId)
    (stored : tables.insertChunks added = some inserted) :
    job.texts inserted = job.texts tables ++ added.map NewChunk.content := by
  obtain ⟨-, rfl⟩ := Tables.insertChunks_eq_some.mp stored
  simp only [texts, List.filter_append, List.map_append, texts_numbered own]

theorem status?_insertChunks {tables inserted : Tables} {added : List NewChunk}
    (stored : tables.insertChunks added = some inserted) :
    job.status? inserted = job.status? tables := by
  obtain ⟨-, rfl⟩ := Tables.insertChunks_eq_some.mp stored
  rfl

theorem Ingests.ended {state : Ingesting} (inv : job.Ingests state) (delivery : Nat)
    {session : IngestionSession} (tables : Tables)
    (mem : some session ∈ (state.ended delivery tables).deliveries) : job.Adding session := by
  cases List.mem_or_eq_of_mem_set mem with
  | inl old => exact inv.adding session old
  | inr new => cases new

/-- The status after a commit is the one it sets. -/
theorem Ingests.status_commit {state : Ingesting} (inv : job.Ingests state) {added : List NewChunk}
    {inserted : Tables} (stored : state.tables.insertChunks added = some inserted)
    (status : DocumentStatus) :
    job.status? (inserted.setStatus job.documentId status) = some status := by
  obtain ⟨before, present⟩ := Option.isSome_iff_exists.mp inv.present
  rw [status?_setStatus, status?_insertChunks stored, present]
  rfl

/-- A document that is not ready has no chunk. -/
theorem Ingests.texts_of_begun {state : Ingesting} (inv : job.Ingests state) {document : Document}
    {tables : Tables}
    (taken : state.tables.beginIngestion job.documentId job.organizationId = .ok (document, tables)) :
    job.texts state.tables = [] ∧ tables = state.tables.setStatus job.documentId .processing := by
  unfold Tables.beginIngestion at taken
  split at taken
  next => cases taken
  next found present =>
    split at taken
    next => cases taken
    next unready =>
      cases taken
      refine ⟨?_, rfl⟩
      cases inv.exact.1 with
      | inl unwritten => exact unwritten
      | inr whole =>
        by_contra filled
        have ready := inv.exact.2.mpr ⟨whole, filled⟩
        simp only [status?, present, Option.map_some, Option.some.injEq] at ready
        exact unready ready

/-- An orderly step keeps the invariant. -/
theorem Ingests.step {state next : Ingesting} {label : IngestionStep} (inv : job.Ingests state)
    (orderly : job.Orderly state label) (moved : job.Moves state label next) : job.Ingests next := by
  cases moved with
  | ignored result known =>
    refine ⟨inv.present, inv.exact, ?_⟩
    intro session mem
    exact inv.adding session (by simpa using mem)
  | begun document tables taken =>
    obtain ⟨unwritten, rfl⟩ := inv.texts_of_begun taken
    refine ⟨?_, ⟨.inl unwritten, ?_⟩, ?_⟩
    · rw [status?_setStatus, Option.isSome_map]
      exact inv.present
    · obtain ⟨status, present⟩ := Option.isSome_iff_exists.mp inv.present
      simp [status?_setStatus, present, texts_setStatus, unwritten]
    · intro session mem
      cases List.mem_append.mp mem with
      | inl old => exact inv.adding session old
      | inr new =>
        simp only [List.mem_singleton, Option.some.injEq] at new
        rw [new]
        exact ⟨rfl, by simp⟩
  | added delivery embedding session chunkText running text =>
    refine ⟨inv.present, inv.exact, ?_⟩
    intro other mem
    cases List.mem_or_eq_of_mem_set mem with
    | inl old => exact inv.adding other old
    | inr new =>
      obtain ⟨prefixed, own⟩ := inv.adding session (Ingesting.mem_of_session? running)
      cases new
      constructor
      · simp [prefixed, List.take_add_one, text, newChunk]
      · intro chunk added
        cases List.mem_append.mp added with
        | inl old => exact own chunk old
        | inr new =>
          rw [List.mem_singleton.mp new]
          rfl
  | finished delivery session inserted running whole stored =>
    obtain ⟨prefixed, own⟩ := inv.adding session (Ingesting.mem_of_session? running)
    -- No other delivery has stored its texts in between.
    have unwritten : job.texts state.tables = [] := orderly
    have texts : job.texts inserted = intelligentChunking job.content := by
      rw [texts_insertChunks own stored, unwritten, prefixed, whole, List.take_length, List.nil_append]
    refine ⟨?_, ⟨.inr texts, ?_⟩, fun session => inv.ended delivery _⟩
    · simp [inv.status_commit stored]
    · rw [Ingesting.ended_tables, inv.status_commit stored, texts_setStatus, texts, whole]
      cases intelligentChunking job.content <;> simp
  | raised delivery errorType session inserted running stored =>
    obtain ⟨unwritten, unadded⟩ := orderly
    have empty : session.added = [] := unadded session running
    have texts : job.texts inserted = [] := by
      rw [texts_insertChunks (by simp [empty]) stored, unwritten, empty]
      rfl
    refine ⟨?_, ⟨.inl texts, ?_⟩, fun session => inv.ended delivery _⟩
    · simp [inv.status_commit stored]
    · simp [inv.status_commit stored, texts_setStatus, texts]
  | crashed delivery session running =>
    exact ⟨inv.present, inv.exact, fun session => inv.ended delivery _⟩

/-- A step that is not orderly breaks the property. -/
theorem Ingests.broken {state next : Ingesting} {label : IngestionStep} (inv : job.Ingests state)
    (disorderly : ¬job.Orderly state label) (moved : job.Moves state label next) :
    ¬job.ExactlyOnce next := by
  cases moved with
  | ignored => exact absurd trivial disorderly
  | begun => exact absurd trivial disorderly
  | added => exact absurd trivial disorderly
  | crashed => exact absurd trivial disorderly
  | finished delivery session inserted running whole stored =>
    -- all chunks are there, and come once more
    obtain ⟨prefixed, own⟩ := inv.adding session (Ingesting.mem_of_session? running)
    have filled : job.texts state.tables ≠ [] := disorderly
    have all : job.texts state.tables = intelligentChunking job.content :=
      inv.exact.1.resolve_left filled
    have texts : job.texts inserted = intelligentChunking job.content ++ intelligentChunking job.content := by
      rw [texts_insertChunks own stored, all, prefixed, whole, List.take_length]
    rintro ⟨either, -⟩
    rw [Ingesting.ended_tables, texts_setStatus, texts] at either
    rw [all] at filled
    simp [filled] at either
  | raised delivery errorType session inserted running stored =>
    -- chunks are there while the document has failed
    obtain ⟨-, own⟩ := inv.adding session (Ingesting.mem_of_session? running)
    have filled : job.texts inserted ≠ [] := by
      rw [texts_insertChunks own stored]
      intro empty
      obtain ⟨unwritten, unadded⟩ := List.append_eq_nil_iff.mp empty
      apply disorderly
      refine ⟨unwritten, fun other held => ?_⟩
      rw [running] at held
      cases held
      exact List.map_eq_nil_iff.mp unadded
    rintro ⟨either, ready⟩
    rw [Ingesting.ended_tables, texts_setStatus] at either
    have marked := ready.mpr ⟨either.resolve_left filled, filled⟩
    rw [Ingesting.ended_tables, inv.status_commit stored] at marked
    cases marked

/-- In every state of a run the chunks are there once or not at all, and `ready` tells which,
exactly when every step of the run is orderly. -/
theorem ingestion_exactly_once_iff (job : IngestionJob) (tables : Tables) (queued : job.Queued tables)
    (steps : List IngestionStep) (final : Ingesting)
    (ran : Transition.run job.step ⟨tables, []⟩ steps = some final) :
    Transition.Always job.step job.ExactlyOnce ⟨tables, []⟩ steps ↔
      Transition.Throughout job.step job.Orderly ⟨tables, []⟩ steps := by
  obtain ⟨status, unwritten⟩ := queued
  have start : job.Ingests ⟨tables, []⟩ :=
    ⟨by simp [status], ⟨.inl unwritten, by simp [status, unwritten]⟩, by simp⟩
  exact (Transition.throughout_iff_always_of_run job.Ingests job.ExactlyOnce
    (fun _ _ _ inv orderly stepped => inv.step orderly (moves_of_step stepped))
    (fun _ inv => inv.exact)
    (fun _ _ _ inv disorderly stepped => inv.broken disorderly (moves_of_step stepped))
    start ran).symm

/-! ## One delivery alone -/

/-- The loop of a single delivery, from the chunks it has added so far. -/
theorem run_added (embed : String → Option Embedding) (tables : Tables) (document : Document)
    (before after : List String) (split : intelligentChunking job.content = before ++ after) :
    Transition.run job.step ⟨tables, [some ⟨document, before.zipIdx.map fun chunk =>
        newChunk job.organizationId job.documentId document.title job.knowledgeScope chunk.2 chunk.1
          (embed chunk.1)⟩]⟩ (after.map fun chunkText => .added 0 (embed chunkText)) =
      some ⟨tables, [some ⟨document, newChunks embed job.organizationId job.documentId document.title
        job.content job.knowledgeScope⟩]⟩ := by
  induction after generalizing before with
  | nil => simp [newChunks, split]
  | cons chunkText after inductionHypothesis =>
    have rest := inductionHypothesis (before ++ [chunkText]) (by simpa using split)
    rw [List.map_cons, Transition.run]
    have text : (intelligentChunking job.content)[before.length]? = some chunkText := by simp [split]
    simp only [step, Ingesting.session?, List.length_map, List.length_zipIdx, List.getElem?_cons_zero,
      Option.join_some, Option.bind_eq_bind, Option.bind_some, text, Option.pure_def, List.set_cons_zero]
    rw [← rest]
    simp [List.zipIdx_append]

/-- An uninterrupted delivery is a run of the job. -/
theorem processDocumentIngestion_run (embed : String → Option Embedding) {tables begun finished : Tables}
    {document : Document} {result : IngestionResult}
    (taken : tables.beginIngestion job.documentId job.organizationId = .ok (document, begun))
    (stored : begun.finishIngestion job.documentId (newChunks embed job.organizationId job.documentId
      document.title job.content job.knowledgeScope) = some (result, finished)) :
    processDocumentIngestion embed tables job.documentId job.organizationId job.content
        job.knowledgeScope = (some result, finished) ∧
      Transition.run job.step ⟨tables, []⟩
        (.delivered :: ((intelligentChunking job.content).map fun chunkText => .added 0 (embed chunkText)) ++
          [.finished 0]) = some ⟨finished, [none]⟩ := by
  constructor
  · simp [processDocumentIngestion, taken, stored]
  · have first : job.step ⟨tables, []⟩ .delivered = some ⟨begun, [some ⟨document, []⟩]⟩ := by
      simp [step, taken]
    have last : job.step ⟨begun, [some ⟨document, newChunks embed job.organizationId job.documentId
        document.title job.content job.knowledgeScope⟩]⟩ (.finished 0) = some ⟨finished, [none]⟩ := by
      have whole : (newChunks embed job.organizationId job.documentId document.title job.content
          job.knowledgeScope).length = (intelligentChunking job.content).length := by simp [newChunks]
      simp [step, Ingesting.session?, stored, Ingesting.ended, whole]
    rw [List.cons_append, Transition.run, first]
    apply Transition.run_trans (run_added embed begun document [] _ rfl)
    simp [Transition.run, last]

/-! ## Overlapping deliveries -/

def tidesJob : IngestionJob := ⟨1, 1, "tides", "organization"⟩

def tidesTables : Tables := { documents := [⟨1, 1, "tides.txt", .queued, some 1⟩], documentSequence := 2 }

theorem ingestion_exactly_once_iff_tides :
    ∃ final, Transition.run tidesJob.step ⟨tidesTables, []⟩ [.delivered, .added 0 none, .finished 0] =
        some final ∧ tidesJob.texts final.tables = ["tides"] ∧
      Transition.Always tidesJob.step tidesJob.ExactlyOnce ⟨tidesTables, []⟩
        [.delivered, .added 0 none, .finished 0] := by
  have texts : (Transition.run tidesJob.step ⟨tidesTables, []⟩
      [.delivered, .added 0 none, .finished 0]).map (fun state => tidesJob.texts state.tables) =
        some ["tides"] := by decide +kernel
  obtain ⟨final, ran, written⟩ := Option.map_eq_some_iff.mp texts
  refine ⟨final, ran, written, ?_⟩
  apply (ingestion_exactly_once_iff tidesJob tidesTables ⟨by decide +kernel, by decide +kernel⟩ _ final ran).mpr
  decide +kernel

/-- Both deliveries take the document before either has committed its chunks. -/
theorem overlapping_deliveries_duplicate :
    ¬∀ (job : IngestionJob) (tables : Tables), job.Queued tables → ∀ steps : List IngestionStep,
      Transition.Always job.step job.ExactlyOnce ⟨tables, []⟩ steps := by
  intro always
  let steps : List IngestionStep :=
    [.delivered, .delivered, .added 0 none, .added 1 none, .finished 0, .finished 1]
  have texts : (Transition.run tidesJob.step ⟨tidesTables, []⟩ steps).map
      (fun state => tidesJob.texts state.tables) = some ["tides", "tides"] := by decide +kernel
  obtain ⟨final, ran, written⟩ := Option.map_eq_some_iff.mp texts
  have once := (always tidesJob tidesTables ⟨by decide +kernel, by decide +kernel⟩ steps steps
    (List.prefix_refl steps) final ran).1
  rw [written] at once
  revert once
  decide +kernel

end IngestionJob

end Eiraos.Documents
