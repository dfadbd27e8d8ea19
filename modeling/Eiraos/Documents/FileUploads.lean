import Eiraos.Documents.FileStorage
import Eiraos.Documents.Ingestion

/-! # Concurrent uploads

Any number of requests to `upload_document` and of deliveries of their jobs, at the granularity of the
statements that touch the files, the tables and the queue.  A request is known by the `uuid4` that it
draws, which is never drawn twice.
-/

namespace Eiraos.Documents

open PythonText Guarded Transition

/-! ## States -/

/-- Where a request stands. -/
inductive UploadPhase where
  | opening
  | writing (total : Nat) (rest : Bytes)
  | written (size : Nat)
  /-- A `ValueError` was raised and the handler has yet to unlink the file. -/
  | discarding (detail : String)
  | extracted (size : Nat) (text : String)
  | queueing (size : Nat) (text : String) (documentId : Nat)
  | accepted (response : UploadResponse)
  /-- The document is failed, or could not even be failed. -/
  | unqueued (documentId : Nat)
  | refused (exception : HttpException)
  /-- An exception that nothing catches; before or after the document was committed. -/
  | raised (documentId : Option Nat)
  deriving DecidableEq, Repr

def UploadPhase.documentId? : UploadPhase → Option Nat
  | .queueing _ _ documentId => some documentId
  | .accepted response => some response.documentId
  | .unqueued documentId => some documentId
  | .raised documentId => documentId
  | _ => none

/-- A request that has passed its checks. -/
structure PlacedUpload where
  form : UploadForm
  resolve : PosixPath → Option PosixPath
  place : UploadPlace

structure FileUpload extends PlacedUpload where
  phase : UploadPhase

/-- The columns of `documents` that only an upload fills. -/
structure FileColumns where
  documentId : Nat
  source : String
  mimeType : String
  deriving DecidableEq, Repr

structure StorageState where
  files : Files
  tables : Tables := {}
  columns : List FileColumns := []
  jobs : List IngestionJob := []
  uploads : UuidHex → Option FileUpload := fun _ => none

/-- What happens next; `answers` tells that no `OSError` or database error gets in the way. -/
inductive StorageLabel where
  | received (hex : UuidHex) (form : UploadForm) (resolve : PosixPath → Option PosixPath) (directory : Bool)
  | opened (hex : UuidHex) (answers : Bool)
  | round (hex : UuidHex) (answers : Bool)
  | parsed (hex : UuidHex) (answers : Bool) (pdf : Except FileError String)
  | discarded (hex : UuidHex) (answers : Bool)
  | committed (hex : UuidHex) (answers : Bool)
  /-- `stored` tells whether a job whose `enqueue_job` raised is in the queue. -/
  | enqueued (hex : UuidHex) (pool : PoolAnswer) (stored answers : Bool)
  | worked (job : IngestionJob) (embed : String → Option Embedding)

namespace StorageState

def initial (files : Files) : StorageState := { files }

/-- The request goes on with these files. -/
def advance (state : StorageState) (hex : UuidHex) (upload : FileUpload) (phase : UploadPhase) (files : Files) :
    StorageState :=
  { state with files, uploads := Function.update state.uploads hex (some { upload with phase }) }

end StorageState

namespace PlacedUpload

variable (upload : PlacedUpload)

/-- `target.open("xb")`; a NUL in the name is a `ValueError` whose handler fails over the same name. -/
def opened (files : Files) (answers : Bool) : UploadPhase × Files :=
  if answers ∧ storable upload.place.target.asPosix then
    match files.create? upload.place.target with
    | none => (.raised none, files)
    | some created => (.writing 0 upload.form.content, created)
  else (.raised none, files)

/-- One round of `write_upload`. -/
def round (files : Files) (total : Nat) (rest : Bytes) (answers : Bool) : UploadPhase × Files :=
  if answers then
    match writeRound total rest with
    | .finished => (.written total, files)
    | .tooLarge => (.discarding "Document exceeds the permitted size", files.unlink upload.place.target)
    | .wrote piece rest => (.writing (total + piece.length) rest, files.append upload.place.target piece)
  else (.raised none, files)

/-- `validate_upload` and `extract_file_text`. -/
def parsedText (table : CaseTable) (files : Files) (size : Nat) (answers : Bool) (pdf : Except FileError String) :
    Except FileError String := do
  let _ ← validateUpload table upload.form.name size
  ensure (answers = true) FileError.other
  let data ← required FileError.other (files upload.place.target)
  extractData pdf data upload.place.extension

def parsed (table : CaseTable) (files : Files) (size : Nat) (answers : Bool) (pdf : Except FileError String) :
    UploadPhase :=
  match upload.parsedText table files size answers pdf with
  | .ok text => .extracted size text
  | .error (.valueError detail) => .discarding detail
  | .error .other => .raised none

/-- The handler of the `ValueError`. -/
def discarded (files : Files) (detail : String) (answers : Bool) : UploadPhase × Files :=
  if answers then (.refused ⟨422, detail⟩, files.unlink upload.place.target) else (.raised none, files)

/-- The row of the document; `none` when the database refuses it. -/
def insert (tables : Tables) (answers : Bool) : Option (Document × Tables) :=
  if answers ∧ storable upload.place.relative.asPosix ∧ storable upload.form.mimeType then
    tables.insertDocument upload.form.organizationId upload.form.title .queued (some upload.form.userId)
  else none

def job (text : String) (documentId : Nat) : IngestionJob :=
  ⟨documentId, upload.form.organizationId, text, upload.place.scope⟩

end PlacedUpload

namespace FileUpload

variable (upload : FileUpload)

/-- The commit of the document. -/
def commit (state : StorageState) (hex : UuidHex) (size : Nat) (text : String) (answers : Bool) : StorageState :=
  match upload.insert state.tables answers with
  | none => state.advance hex upload (.raised none) state.files
  | some (document, tables) =>
    { state.advance hex upload (.queueing size text document.id) state.files with
      tables
      columns := state.columns ++ [⟨document.id, upload.place.relative.asPosix, upload.form.mimeType⟩] }

/-- `enqueue_document_ingestion` and the answer. -/
def enqueue (state : StorageState) (hex : UuidHex) (size : Nat) (text : String) (documentId : Nat)
    (pool : PoolAnswer) (stored answers : Bool) : StorageState :=
  match enqueueDocumentIngestion pool upload.form.organizationId documentId with
  | .error _ =>
    { state.advance hex upload (.raised (some documentId)) state.files with
      jobs := if stored then state.jobs ++ [upload.job text documentId] else state.jobs }
  | .ok none =>
    { state.advance hex upload (.unqueued documentId) state.files with
      tables := if answers then state.tables.setStatus documentId .failed else state.tables }
  | .ok (some jobId) =>
    { state.advance hex upload
        (.accepted ⟨documentId, jobId, upload.place.scope, upload.place.relative.asPosix, size⟩) state.files with
      jobs := state.jobs ++ [upload.job text documentId] }

end FileUpload

namespace StorageService

variable (service : StorageService)

def step (state : StorageState) : StorageLabel → Option StorageState
  | .received hex form resolve directory =>
    match state.uploads hex, service.place form resolve directory hex with
    | none, .ok place =>
      some { state with
        uploads := Function.update state.uploads hex (some ⟨⟨form, resolve, place⟩, .opening⟩) }
    -- the request is answered before it touches a file
    | none, .error _ => some state
    | some _, _ => none
  | .opened hex answers => do
    let upload ← state.uploads hex
    guard (upload.phase = .opening)
    let (phase, files) := upload.opened state.files answers
    return state.advance hex upload phase files
  | .round hex answers => do
    let upload ← state.uploads hex
    match upload.phase with
    | .writing total rest =>
      let (phase, files) := upload.round state.files total rest answers
      some (state.advance hex upload phase files)
    | _ => none
  | .parsed hex answers pdf => do
    let upload ← state.uploads hex
    match upload.phase with
    | .written size =>
      some (state.advance hex upload (upload.parsed service.table state.files size answers pdf) state.files)
    | _ => none
  | .discarded hex answers => do
    let upload ← state.uploads hex
    match upload.phase with
    | .discarding detail =>
      let (phase, files) := upload.discarded state.files detail answers
      some (state.advance hex upload phase files)
    | _ => none
  | .committed hex answers => do
    let upload ← state.uploads hex
    match upload.phase with
    | .extracted size text => some (upload.commit state hex size text answers)
    | _ => none
  | .enqueued hex pool stored answers => do
    let upload ← state.uploads hex
    match upload.phase with
    | .queueing size text documentId =>
      some (upload.enqueue state hex size text documentId pool stored answers)
    | _ => none
  | .worked job embed =>
    if job ∈ state.jobs then
      some { state with
        tables := (processDocumentIngestion embed state.tables job.documentId job.organizationId job.content
          job.knowledgeScope).2 }
    else none

end StorageService

/-! ## Rows that keep their identity -/

/-- What no statement changes of a document's row. -/
structure DocumentIdentity where
  id : Nat
  organizationId : Nat
  title : String
  owner : Option Nat
  deriving DecidableEq, Repr

def Document.identity (document : Document) : DocumentIdentity :=
  ⟨document.id, document.organizationId, document.title, document.owner⟩

def Tables.identities (tables : Tables) : List DocumentIdentity := tables.documents.map Document.identity

@[simp] theorem Tables.identities_setStatus (tables : Tables) (documentId : Nat) (status : DocumentStatus) :
    (tables.setStatus documentId status).identities = tables.identities := by
  simp only [identities, setStatus, List.map_map]
  apply List.map_congr_left
  intro document _
  simp only [Function.comp]
  split <;> rfl

theorem Tables.ids_congr {tables next : Tables} (rows : next.identities = tables.identities) :
    next.documents.map Document.id = tables.documents.map Document.id := by
  have same := congrArg (List.map DocumentIdentity.id) rows
  simpa [identities, Document.identity, Function.comp_def] using same

/-- The worker only sets the status of a document. -/
theorem processDocumentIngestion_identities (embed : String → Option Embedding) (tables : Tables)
    (documentId organizationId : Nat) (content knowledgeScope : String) :
    (processDocumentIngestion embed tables documentId organizationId content knowledgeScope).2.identities =
        tables.identities ∧
      (processDocumentIngestion embed tables documentId organizationId content knowledgeScope).2.documentSequence =
        tables.documentSequence := by
  unfold processDocumentIngestion Tables.beginIngestion
  cases tables.document? documentId organizationId with
  | none => exact ⟨rfl, rfl⟩
  | some document =>
    dsimp only
    by_cases ready : document.status = .ready
    · rw [if_pos ready]
      exact ⟨rfl, rfl⟩
    · rw [if_neg ready]
      dsimp only
      cases finished : (tables.setStatus documentId .processing).finishIngestion documentId
          (newChunks embed organizationId documentId document.title content knowledgeScope) with
      | none => exact ⟨tables.identities_setStatus documentId .processing, rfl⟩
      | some ending =>
        obtain ⟨result, after⟩ := ending
        simp only [Tables.finishIngestion, Option.map_eq_some_iff] at finished
        obtain ⟨inserted, stored, same⟩ := finished
        obtain ⟨-, rfl⟩ := Tables.insertChunks_eq_some.mp stored
        obtain ⟨rfl, rfl⟩ := Prod.mk.inj same
        exact ⟨(Tables.identities_setStatus _ _ _).trans (tables.identities_setStatus documentId .processing), rfl⟩

/-! ## What holds of a request -/

/-- The document of an upload. -/
def PlacedUpload.identity (upload : PlacedUpload) (documentId : Nat) : DocumentIdentity :=
  ⟨documentId, upload.form.organizationId, upload.form.title, some upload.form.userId⟩

def PlacedUpload.columns (upload : PlacedUpload) (documentId : Nat) : FileColumns :=
  ⟨documentId, upload.place.relative.asPosix, upload.form.mimeType⟩

/-- The file is whole and valid, and this is its text. -/
structure PlacedUpload.Complete (upload : PlacedUpload) (table : CaseTable) (before files : Files) (size : Nat)
    (text : String) : Prop where
  fresh : before upload.place.target = none
  whole : files upload.place.target = some upload.form.content
  length : size = upload.form.content.length
  valid : ∃ extension, validateUpload table upload.form.name size = .ok extension
  extracted : ∃ pdf, extractData pdf upload.form.content upload.place.extension = .ok text

/-- The file is complete, and the document is in the tables. -/
structure PlacedUpload.Filed (upload : PlacedUpload) (table : CaseTable) (before : Files) (state : StorageState)
    (documentId : Nat) : Prop where
  complete : ∃ size text, upload.Complete table before state.files size text
  row : upload.identity documentId ∈ state.tables.identities
  columns : upload.columns documentId ∈ state.columns

/-- What a request in its phase has done. -/
def FileUpload.Standing (upload : FileUpload) (table : CaseTable) (before : Files) (state : StorageState) : Prop :=
  match upload.phase with
  | .opening => state.files upload.place.target = before upload.place.target
  | .writing total rest =>
    before upload.place.target = none ∧ total ≤ maxUploadBytes ∧
      ∃ written, state.files upload.place.target = some written ∧ written ++ rest = upload.form.content ∧
        total = written.length
  | .written size =>
    before upload.place.target = none ∧ state.files upload.place.target = some upload.form.content ∧
      size = upload.form.content.length
  | .discarding _ => before upload.place.target = none
  | .extracted size text => upload.Complete table before state.files size text
  | .queueing size text documentId =>
    upload.Complete table before state.files size text ∧ upload.Filed table before state documentId
  | .accepted response => upload.Filed table before state response.documentId
  | .unqueued documentId => upload.Filed table before state documentId
  | .refused _ => state.files upload.place.target = before upload.place.target
  | .raised none =>
    before upload.place.target = none ∨ state.files upload.place.target = before upload.place.target
  | .raised (some documentId) => upload.Filed table before state documentId

/-- What holds of the files, the tables and the queue, `before` being the files at the beginning. -/
structure StorageInvariant (service : StorageService) (before : Files) (state : StorageState) : Prop where
  placed : ∀ hex upload, state.uploads hex = some upload →
    ∃ directory, service.place upload.form upload.resolve directory hex = .ok upload.place
  standing : ∀ hex upload, state.uploads hex = some upload → upload.Standing service.table before state
  changed : ∀ path, state.files path ≠ before path →
    ∃ hex upload, state.uploads hex = some upload ∧ path = upload.place.target
  filed : ∀ columns ∈ state.columns, ∃ hex upload, state.uploads hex = some upload ∧
    upload.phase.documentId? = some columns.documentId ∧ columns = upload.columns columns.documentId
  ids : state.tables.documents.map Document.id = state.columns.map FileColumns.documentId
  numbered : (state.tables.documents.map Document.id).Nodup ∧
    ∀ id ∈ state.tables.documents.map Document.id, id < state.tables.documentSequence
  jobs : ∀ job ∈ state.jobs, ∃ hex upload size, state.uploads hex = some upload ∧
    upload.phase.documentId? = some job.documentId ∧ job = upload.job job.content job.documentId ∧
    upload.Complete service.table before state.files size job.content

/-! ## One step -/

section Steps

variable {service : StorageService} {before : Files} {state next : StorageState} {hex : UuidHex}
  {upload : FileUpload} {phase : UploadPhase}

theorem PlacedUpload.Complete.congr {upload : PlacedUpload} {table : CaseTable} {files others : Files}
    {size : Nat} {text : String} (complete : upload.Complete table before files size text)
    (same : others upload.place.target = files upload.place.target) :
    upload.Complete table before others size text :=
  { complete with whole := same.trans complete.whole }

theorem PlacedUpload.Filed.congr {upload : PlacedUpload} {table : CaseTable} {documentId : Nat}
    (filed : upload.Filed table before state documentId)
    (same : next.files upload.place.target = state.files upload.place.target)
    (rows : ∀ row ∈ state.tables.identities, row ∈ next.tables.identities)
    (columns : ∀ row ∈ state.columns, row ∈ next.columns) : upload.Filed table before next documentId where
  complete :=
    have ⟨size, text, complete⟩ := filed.complete
    ⟨size, text, complete.congr same⟩
  row := rows _ filed.row
  columns := columns _ filed.columns

/-- A request whose file is left alone stands as before. -/
theorem FileUpload.Standing.congr {table : CaseTable} (standing : upload.Standing table before state)
    (same : next.files upload.place.target = state.files upload.place.target)
    (rows : ∀ row ∈ state.tables.identities, row ∈ next.tables.identities)
    (columns : ∀ row ∈ state.columns, row ∈ next.columns) : upload.Standing table before next := by
  unfold Standing at standing ⊢
  cases phase : upload.phase with
  | opening =>
    rw [phase] at standing
    exact same.trans standing
  | writing total rest =>
    rw [phase] at standing
    simpa only [same] using standing
  | written size =>
    rw [phase] at standing
    simpa only [same] using standing
  | discarding detail =>
    rw [phase] at standing
    exact standing
  | extracted size text =>
    rw [phase] at standing
    exact standing.congr same
  | queueing size text documentId =>
    rw [phase] at standing
    exact ⟨standing.1.congr same, standing.2.congr same rows columns⟩
  | accepted response =>
    rw [phase] at standing
    exact standing.congr same rows columns
  | unqueued documentId =>
    rw [phase] at standing
    exact standing.congr same rows columns
  | refused exception =>
    rw [phase] at standing
    exact same.trans standing
  | raised documentId =>
    rw [phase] at standing
    cases documentId with
    | none => exact standing.imp_right same.trans
    | some documentId => exact standing.congr same rows columns

/-- What a statement of one request may do. -/
structure Advances (table : CaseTable) (before : Files) (state : StorageState) (hex : UuidHex)
    (upload : FileUpload) (phase : UploadPhase) (next : StorageState) : Prop where
  uploads : next.uploads = Function.update state.uploads hex (some { upload with phase })
  elsewhere : ∀ path, path ≠ upload.place.target → next.files path = state.files path
  rows : ∀ row ∈ state.tables.identities, row ∈ next.tables.identities
  columns : ∀ row ∈ state.columns, row ∈ next.columns
  identified : ∀ documentId, upload.phase.documentId? = some documentId →
    phase.documentId? = some documentId ∧ next.files = state.files
  standing : FileUpload.Standing { upload with phase } table before next
  filed : ∀ row ∈ next.columns, row ∈ state.columns ∨
    phase.documentId? = some row.documentId ∧ row = upload.columns row.documentId
  queued : ∀ job ∈ next.jobs, job ∈ state.jobs ∨
    phase.documentId? = some job.documentId ∧ job = upload.job job.content job.documentId ∧
      ∃ size, upload.Complete table before next.files size job.content
  ids : next.tables.documents.map Document.id = next.columns.map FileColumns.documentId
  numbered : (next.tables.documents.map Document.id).Nodup ∧
    ∀ id ∈ next.tables.documents.map Document.id, id < next.tables.documentSequence

/-- A request that is there goes on being there. -/
theorem Advances.found {table : CaseTable} (advances : Advances table before state hex upload phase next)
    (running : state.uploads hex = some upload) {other : UuidHex} {found : FileUpload}
    (present : state.uploads other = some found) :
    ∃ later, next.uploads other = some { found with phase := later } ∧
      ∀ documentId, found.phase.documentId? = some documentId → later.documentId? = some documentId := by
  by_cases same : other = hex
  · subst same
    rw [running] at present
    cases present
    exact ⟨phase, by simp [advances.uploads],
      fun documentId identified => (advances.identified documentId identified).1⟩
  · exact ⟨found.phase, by simp [advances.uploads, same, present], fun _ identified => identified⟩

/-- Requests, documents and their columns stay. -/
structure Grows (state next : StorageState) : Prop where
  uploads : ∀ hex upload, state.uploads hex = some upload →
    ∃ phase, next.uploads hex = some { upload with phase } ∧
    ∀ documentId, upload.phase.documentId? = some documentId → phase.documentId? = some documentId
  rows : ∀ row ∈ state.tables.identities, row ∈ next.tables.identities
  columns : ∀ row ∈ state.columns, row ∈ next.columns

theorem Grows.refl (state : StorageState) : Grows state state :=
  ⟨fun _ upload present => ⟨upload.phase, present, fun _ identified => identified⟩, fun _ mem => mem,
    fun _ mem => mem⟩

theorem Grows.trans {state next final : StorageState} (first : Grows state next) (second : Grows next final) :
    Grows state final where
  uploads := fun hex upload present =>
    have ⟨phase, stays, identified⟩ := first.uploads hex upload present
    have ⟨last, remains, lasting⟩ := second.uploads hex { upload with phase } stays
    ⟨last, remains, fun documentId known => lasting documentId (identified documentId known)⟩
  rows := fun row mem => second.rows row (first.rows row mem)
  columns := fun row mem => second.columns row (first.columns row mem)

/-- What every step leaves. -/
structure Kept (service : StorageService) (before : Files) (state next : StorageState) : Prop where
  invariant : StorageInvariant service before next
  grows : Grows state next

/-- Requests write different files. -/
theorem StorageInvariant.targets_ne (invariant : StorageInvariant service before state)
    (running : state.uploads hex = some upload) {other : UuidHex} {found : FileUpload}
    (present : state.uploads other = some found) (different : other ≠ hex) :
    found.place.target ≠ upload.place.target := fun same => by
  obtain ⟨_, placed⟩ := invariant.placed _ _ running
  obtain ⟨_, foundPlaced⟩ := invariant.placed _ _ present
  exact different (service.place_injective foundPlaced placed same)

theorem StorageInvariant.advanced (invariant : StorageInvariant service before state)
    (running : state.uploads hex = some upload)
    (advances : Advances service.table before state hex upload phase next) :
    StorageInvariant service before next where
  placed := by
    intro other found present
    rw [advances.uploads] at present
    by_cases same : other = hex
    · subst same
      simp only [Function.update_self, Option.some.injEq] at present
      subst present
      exact invariant.placed _ upload running
    · rw [Function.update_of_ne same] at present
      exact invariant.placed _ _ present
  standing := by
    intro other found present
    rw [advances.uploads] at present
    by_cases same : other = hex
    · subst same
      simp only [Function.update_self, Option.some.injEq] at present
      subst present
      exact advances.standing
    · rw [Function.update_of_ne same] at present
      exact (invariant.standing _ _ present).congr
        (advances.elsewhere _ (invariant.targets_ne running present same)) advances.rows advances.columns
  changed := by
    intro path differs
    by_cases own : path = upload.place.target
    · exact ⟨hex, { upload with phase }, by simp [advances.uploads], own⟩
    · rw [advances.elsewhere path own] at differs
      obtain ⟨other, found, present, target⟩ := invariant.changed path differs
      obtain ⟨later, stays, -⟩ := advances.found running present
      exact ⟨other, { found with phase := later }, stays, target⟩
  filed := by
    intro row mem
    rcases advances.filed row mem with old | ⟨identified, same⟩
    · obtain ⟨other, found, present, identified, same⟩ := invariant.filed row old
      obtain ⟨later, stays, kept⟩ := advances.found running present
      exact ⟨other, { found with phase := later }, stays, kept _ identified, same⟩
    · exact ⟨hex, { upload with phase }, by simp [advances.uploads], identified, same⟩
  ids := advances.ids
  numbered := advances.numbered
  jobs := by
    intro job mem
    rcases advances.queued job mem with old | ⟨identified, same, size, complete⟩
    · obtain ⟨other, found, size, present, identified, same, complete⟩ := invariant.jobs job old
      obtain ⟨later, stays, kept⟩ := advances.found running present
      have unchanged : next.files found.place.target = state.files found.place.target := by
        by_cases own : other = hex
        · subst own
          rw [running] at present
          cases present
          rw [(advances.identified _ identified).2]
        · exact advances.elsewhere _ (invariant.targets_ne running present own)
      exact ⟨other, { found with phase := later }, size, stays, kept _ identified, same,
        complete.congr unchanged⟩
    · exact ⟨hex, { upload with phase }, size, by simp [advances.uploads], identified, same, complete⟩

theorem StorageInvariant.advance (invariant : StorageInvariant service before state)
    (running : state.uploads hex = some upload)
    (advances : Advances service.table before state hex upload phase next) :
    Kept service before state next where
  invariant := invariant.advanced running advances
  grows := ⟨fun _ _ present => advances.found running present, advances.rows, advances.columns⟩

/-- A statement that only touches the file of its request, before there is a document. -/
theorem StorageInvariant.advanceFiles {files : Files} (invariant : StorageInvariant service before state)
    (running : state.uploads hex = some upload) (unidentified : upload.phase.documentId? = none)
    (elsewhere : ∀ path, path ≠ upload.place.target → files path = state.files path)
    (standing : FileUpload.Standing { upload with phase } service.table before
      (state.advance hex upload phase files)) :
    Kept service before state (state.advance hex upload phase files) :=
  invariant.advance running {
    uploads := rfl
    elsewhere := elsewhere
    rows := fun _ mem => mem
    columns := fun _ mem => mem
    identified := fun documentId identified => by rw [unidentified] at identified; cases identified
    standing := standing
    filed := fun _ mem => .inl mem
    queued := fun _ mem => .inl mem
    ids := invariant.ids
    numbered := invariant.numbered }

theorem StorageInvariant.received {form : UploadForm} {resolve : PosixPath → Option PosixPath} {directory : Bool}
    {place : UploadPlace} (invariant : StorageInvariant service before state) (unknown : state.uploads hex = none)
    (placed : service.place form resolve directory hex = .ok place) :
    Kept service before state { state with
      uploads := Function.update state.uploads hex (some ⟨⟨form, resolve, place⟩, .opening⟩) } := by
  have stays : ∀ {other found}, state.uploads other = some found →
      Function.update state.uploads hex (some ⟨⟨form, resolve, place⟩, .opening⟩) other = some found := by
    intro other found present
    have different : other ≠ hex := fun same => by rw [same, unknown] at present; cases present
    rw [Function.update_of_ne different, present]
  have cases : ∀ {other found},
      Function.update state.uploads hex (some ⟨⟨form, resolve, place⟩, .opening⟩) other = some found →
        other = hex ∧ found = ⟨⟨form, resolve, place⟩, .opening⟩ ∨ state.uploads other = some found := by
    intro other found present
    by_cases same : other = hex
    · subst same
      rw [Function.update_self, Option.some.injEq] at present
      exact .inl ⟨rfl, present.symm⟩
    · rw [Function.update_of_ne same] at present
      exact .inr present
  refine ⟨?_, fun other found present => ⟨found.phase, stays present, fun _ identified => identified⟩,
    fun _ mem => mem, fun _ mem => mem⟩
  constructor
  case placed =>
    intro other found present
    rcases cases present with ⟨rfl, rfl⟩ | old
    · exact ⟨directory, placed⟩
    · exact invariant.placed _ _ old
  case standing =>
    intro other found present
    rcases cases present with ⟨-, rfl⟩ | old
    · by_contra differs
      obtain ⟨found, upload, present, target⟩ := invariant.changed _ differs
      obtain ⟨_, others⟩ := invariant.placed _ _ present
      rw [service.place_injective placed others target, present] at unknown
      cases unknown
    · exact (invariant.standing _ _ old).congr rfl (fun _ mem => mem) fun _ mem => mem
  case changed =>
    intro path differs
    obtain ⟨other, found, present, target⟩ := invariant.changed path differs
    exact ⟨other, found, stays present, target⟩
  case filed =>
    intro row mem
    obtain ⟨other, found, present, filed⟩ := invariant.filed row mem
    exact ⟨other, found, stays present, filed⟩
  case ids => exact invariant.ids
  case numbered => exact invariant.numbered
  case jobs =>
    intro job mem
    obtain ⟨other, found, size, present, queued⟩ := invariant.jobs job mem
    exact ⟨other, found, size, stays present, queued⟩

theorem StorageInvariant.opened (invariant : StorageInvariant service before state)
    (running : state.uploads hex = some upload) (opening : upload.phase = .opening) (answers : Bool) :
    Kept service before state
      (state.advance hex upload (upload.opened state.files answers).1 (upload.opened state.files answers).2) := by
  have unidentified : upload.phase.documentId? = none := by rw [opening]; rfl
  have untouched := invariant.standing _ _ running
  simp only [FileUpload.Standing, opening] at untouched
  unfold PlacedUpload.opened
  split
  next =>
    cases created : state.files.create? upload.place.target with
    | none => exact invariant.advanceFiles running unidentified (fun _ _ => rfl) (.inr untouched)
    | some files =>
      unfold Files.create? at created
      cases absent : state.files upload.place.target with
      | some content => simp [absent] at created
      | none =>
        simp only [absent, Option.some.injEq] at created
        subst created
        refine invariant.advanceFiles running unidentified (fun path other => Function.update_of_ne other _ _) ?_
        exact ⟨untouched.symm.trans absent, Nat.zero_le _, [], Function.update_self _ _ _, rfl, rfl⟩
  next => exact invariant.advanceFiles running unidentified (fun _ _ => rfl) (.inr untouched)

theorem StorageInvariant.round {total : Nat} {rest : Bytes} (invariant : StorageInvariant service before state)
    (running : state.uploads hex = some upload) (writing : upload.phase = .writing total rest) (answers : Bool) :
    Kept service before state
      (state.advance hex upload (upload.round state.files total rest answers).1
        (upload.round state.files total rest answers).2) := by
  have unidentified : upload.phase.documentId? = none := by rw [writing]; rfl
  have standing := invariant.standing _ _ running
  simp only [FileUpload.Standing, writing] at standing
  obtain ⟨fresh, -, written, file, content, length⟩ := standing
  unfold PlacedUpload.round
  split
  next =>
    cases round : writeRound total rest with
    | finished =>
      have done := writeRound_finished round
      subst done
      rw [List.append_nil] at content
      exact invariant.advanceFiles running unidentified (fun _ _ => rfl)
        ⟨fresh, by rw [← content]; exact file, by rw [← content]; exact length⟩
    | tooLarge =>
      exact invariant.advanceFiles running unidentified (fun path other => Function.update_of_ne other _ _) fresh
    | wrote piece later =>
      obtain ⟨rfl, fits⟩ := writeRound_wrote round
      refine invariant.advanceFiles running unidentified (fun path other => Function.update_of_ne other _ _) ?_
      refine ⟨fresh, fits, written ++ piece, ?_, ?_, ?_⟩
      · simp [StorageState.advance, Files.append, file]
      · rw [List.append_assoc]
        exact content
      · rw [List.length_append, length]
  next => exact invariant.advanceFiles running unidentified (fun _ _ => rfl) (.inl fresh)

theorem StorageInvariant.parsed {size : Nat} (invariant : StorageInvariant service before state)
    (running : state.uploads hex = some upload) (written : upload.phase = .written size) (answers : Bool)
    (pdf : Except FileError String) :
    Kept service before state
      (state.advance hex upload (upload.parsed service.table state.files size answers pdf) state.files) := by
  have unidentified : upload.phase.documentId? = none := by rw [written]; rfl
  have standing := invariant.standing _ _ running
  simp only [FileUpload.Standing, written] at standing
  obtain ⟨fresh, file, length⟩ := standing
  refine invariant.advanceFiles running unidentified (fun _ _ => rfl) ?_
  unfold PlacedUpload.parsed
  cases parsed : upload.parsedText service.table state.files size answers pdf with
  | error error =>
    cases error with
    | valueError detail => exact fresh
    | other => exact .inl fresh
  | ok text =>
    obtain ⟨extension, valid, parsed⟩ := bind_eq_ok.mp parsed
    obtain ⟨⟨⟩, -, parsed⟩ := bind_eq_ok.mp parsed
    obtain ⟨data, read, extracted⟩ := bind_eq_ok.mp parsed
    have same := (required_eq_ok.mp read).symm.trans file
    cases same
    exact ⟨fresh, file, length, ⟨extension, valid⟩, ⟨pdf, extracted⟩⟩

theorem StorageInvariant.discarded {detail : String} (invariant : StorageInvariant service before state)
    (running : state.uploads hex = some upload) (discarding : upload.phase = .discarding detail) (answers : Bool) :
    Kept service before state
      (state.advance hex upload (upload.discarded state.files detail answers).1
        (upload.discarded state.files detail answers).2) := by
  have unidentified : upload.phase.documentId? = none := by rw [discarding]; rfl
  have fresh := invariant.standing _ _ running
  simp only [FileUpload.Standing, discarding] at fresh
  unfold PlacedUpload.discarded
  split
  next =>
    refine invariant.advanceFiles running unidentified (fun path other => Function.update_of_ne other _ _) ?_
    exact (Function.update_self _ _ _).trans fresh.symm
  next => exact invariant.advanceFiles running unidentified (fun _ _ => rfl) (.inl fresh)

/-- The new row is the last one, under a number that no row has. -/
theorem PlacedUpload.insert_eq_some {upload : PlacedUpload} {tables inserted : Tables} {answers : Bool}
    {document : Document} (done : upload.insert tables answers = some (document, inserted)) :
    document.id = tables.documentSequence ∧ document.identity = upload.identity document.id ∧
      inserted.documents = tables.documents ++ [document] ∧
      inserted.documentSequence = tables.documentSequence + 1 := by
  unfold insert at done
  split at done
  next =>
    obtain ⟨-, rfl, rfl⟩ := Tables.insertDocument_eq_some.mp done
    exact ⟨rfl, rfl, rfl, rfl⟩
  next => cases done

theorem StorageInvariant.committed {size : Nat} {text : String} (invariant : StorageInvariant service before state)
    (running : state.uploads hex = some upload) (extracted : upload.phase = .extracted size text) (answers : Bool) :
    Kept service before state (upload.commit state hex size text answers) := by
  have unidentified : upload.phase.documentId? = none := by rw [extracted]; rfl
  have complete := invariant.standing _ _ running
  simp only [FileUpload.Standing, extracted] at complete
  unfold FileUpload.commit
  cases inserted : upload.insert state.tables answers with
  | none => exact invariant.advanceFiles running unidentified (fun _ _ => rfl) (.inl complete.fresh)
  | some ending =>
    obtain ⟨document, tables⟩ := ending
    obtain ⟨number, identity, documents, sequence⟩ := PlacedUpload.insert_eq_some inserted
    have rows : tables.identities = state.tables.identities ++ [upload.identity document.id] := by
      simp [Tables.identities, documents, identity]
    refine invariant.advance running {
      uploads := rfl
      elsewhere := fun _ _ => rfl
      rows := fun row mem => by rw [rows]; exact List.mem_append_left _ mem
      columns := fun row mem => List.mem_append_left _ mem
      identified := fun documentId identified => by rw [unidentified] at identified; cases identified
      standing := ⟨complete, ⟨size, text, complete⟩, by simp [rows, PlacedUpload.identity],
        List.mem_append_right _ (List.mem_singleton_self _)⟩
      filed := fun row mem => (List.mem_append.mp mem).imp_right fun new => ?_
      queued := fun _ mem => .inl mem
      ids := by simp [documents, invariant.ids]
      numbered := ?_ }
    · cases List.mem_singleton.mp new
      exact ⟨rfl, rfl⟩
    · obtain ⟨distinct, below⟩ := invariant.numbered
      have fresh : document.id ∉ state.tables.documents.map Document.id := fun mem => by
        have := below _ mem
        omega
      dsimp only
      rw [documents, List.map_append, sequence]
      refine ⟨distinct.append (List.nodup_singleton _) (List.disjoint_singleton.mpr fresh), ?_⟩
      intro id mem
      rcases List.mem_append.mp mem with old | new
      · have := below id old
        omega
      · cases List.mem_singleton.mp new
        omega

theorem StorageInvariant.enqueued {size documentId : Nat} {text : String}
    (invariant : StorageInvariant service before state) (running : state.uploads hex = some upload)
    (queueing : upload.phase = .queueing size text documentId) (pool : PoolAnswer) (stored answers : Bool) :
    Kept service before state (upload.enqueue state hex size text documentId pool stored answers) := by
  have standing := invariant.standing _ _ running
  simp only [FileUpload.Standing, queueing] at standing
  obtain ⟨complete, filed⟩ := standing
  have identified : ∀ other, upload.phase.documentId? = some other → documentId = other := by
    intro other same
    rw [queueing] at same
    exact Option.some.inj same
  -- the queue may have got the job, the row may have got another status
  have ends : ∀ (phase : UploadPhase) (tables : Tables) (jobs : List IngestionJob),
      phase.documentId? = some documentId →
      (∀ {next : StorageState}, upload.Filed service.table before next documentId →
        FileUpload.Standing { upload with phase } service.table before next) →
      tables.identities = state.tables.identities → tables.documentSequence = state.tables.documentSequence →
      (∀ job ∈ jobs, job ∈ state.jobs ∨ job = upload.job text documentId) →
      Kept service before state
        { state.advance hex upload phase state.files with tables := tables, jobs := jobs } := by
    intro phase tables jobs named stands rows sequence queue
    have ids := Tables.ids_congr rows
    refine invariant.advance running {
      uploads := rfl
      elsewhere := fun _ _ => rfl
      rows := fun row mem => by dsimp only; rw [rows]; exact mem
      columns := fun _ mem => mem
      identified := fun other same => ⟨by rw [named, identified other same], rfl⟩
      standing := stands (filed.congr rfl (fun row mem => by dsimp only; rw [rows]; exact mem) fun _ mem => mem)
      filed := fun _ mem => .inl mem
      queued := fun job mem => (queue job mem).imp_right fun new => ?_
      ids := ids.trans invariant.ids
      numbered := by dsimp only; rw [ids, sequence]; exact invariant.numbered }
    subst new
    exact ⟨named, rfl, size, complete⟩
  unfold FileUpload.enqueue
  cases enqueueDocumentIngestion pool upload.form.organizationId documentId with
  | error derived =>
    refine ends _ state.tables _ rfl (fun filed => filed) rfl rfl ?_
    intro job mem
    split at mem
    · exact (List.mem_append.mp mem).imp_right List.mem_singleton.mp
    · exact .inl mem
  | ok jobId =>
    cases jobId with
    | none =>
      cases answers with
      | false => exact ends _ state.tables state.jobs rfl (fun filed => filed) rfl rfl fun _ mem => .inl mem
      | true =>
        exact ends _ (state.tables.setStatus documentId .failed) state.jobs rfl (fun filed => filed)
          (Tables.identities_setStatus _ _ _) rfl fun _ mem => .inl mem
    | some jobId =>
      exact ends _ state.tables _ rfl (fun filed => filed) rfl rfl
        fun _ mem => (List.mem_append.mp mem).imp_right List.mem_singleton.mp

theorem StorageInvariant.worked (invariant : StorageInvariant service before state) (job : IngestionJob)
    (embed : String → Option Embedding) :
    Kept service before state { state with
      tables := (processDocumentIngestion embed state.tables job.documentId job.organizationId job.content
        job.knowledgeScope).2 } := by
  obtain ⟨rows, sequence⟩ := processDocumentIngestion_identities embed state.tables job.documentId
    job.organizationId job.content job.knowledgeScope
  have ids := Tables.ids_congr rows
  have grows : ∀ row ∈ state.tables.identities, row ∈ (processDocumentIngestion embed state.tables job.documentId
      job.organizationId job.content job.knowledgeScope).2.identities := fun row mem => by rw [rows]; exact mem
  refine ⟨?_, fun other found present => ⟨found.phase, present, fun _ identified => identified⟩, grows,
    fun _ mem => mem⟩
  exact { invariant with
    standing := fun other found present => (invariant.standing _ _ present).congr rfl grows fun _ mem => mem
    ids := ids.trans invariant.ids
    numbered := by dsimp only; rw [ids, sequence]; exact invariant.numbered }

theorem StorageInvariant.step {label : StorageLabel} (invariant : StorageInvariant service before state)
    (stepped : service.step state label = some next) : Kept service before state next := by
  cases label with
  | received hex form resolve directory =>
    unfold StorageService.step at stepped
    cases known : state.uploads hex with
    | some upload => simp [known] at stepped
    | none =>
      cases placed : service.place form resolve directory hex with
      | error refusal =>
        simp only [known, placed, Option.some.injEq] at stepped
        exact stepped ▸ ⟨invariant, .refl state⟩
      | ok place =>
        simp only [known, placed, Option.some.injEq] at stepped
        exact stepped ▸ invariant.received known placed
  | opened hex answers =>
    simp only [StorageService.step, Option.bind_eq_bind, Option.bind_eq_some_iff, Option.guard_eq_some'] at stepped
    obtain ⟨upload, running, _, opening, stepped⟩ := stepped
    cases stepped
    exact invariant.opened running opening answers
  | round hex answers =>
    obtain ⟨upload, running, stepped⟩ := Option.bind_eq_some_iff.mp stepped
    cases phase : upload.phase with
    | writing total rest =>
      simp only [phase, Option.some.injEq] at stepped
      exact stepped ▸ invariant.round running phase answers
    | _ => simp [phase] at stepped
  | parsed hex answers pdf =>
    obtain ⟨upload, running, stepped⟩ := Option.bind_eq_some_iff.mp stepped
    cases phase : upload.phase with
    | written size =>
      simp only [phase, Option.some.injEq] at stepped
      exact stepped ▸ invariant.parsed running phase answers pdf
    | _ => simp [phase] at stepped
  | discarded hex answers =>
    obtain ⟨upload, running, stepped⟩ := Option.bind_eq_some_iff.mp stepped
    cases phase : upload.phase with
    | discarding detail =>
      simp only [phase, Option.some.injEq] at stepped
      exact stepped ▸ invariant.discarded running phase answers
    | _ => simp [phase] at stepped
  | committed hex answers =>
    obtain ⟨upload, running, stepped⟩ := Option.bind_eq_some_iff.mp stepped
    cases phase : upload.phase with
    | extracted size text =>
      simp only [phase, Option.some.injEq] at stepped
      exact stepped ▸ invariant.committed running phase answers
    | _ => simp [phase] at stepped
  | enqueued hex pool stored answers =>
    obtain ⟨upload, running, stepped⟩ := Option.bind_eq_some_iff.mp stepped
    cases phase : upload.phase with
    | queueing size text documentId =>
      simp only [phase, Option.some.injEq] at stepped
      exact stepped ▸ invariant.enqueued running phase pool stored answers
    | _ => simp [phase] at stepped
  | worked job embed =>
    simp only [StorageService.step, Option.ite_none_right_eq_some, Option.some.injEq] at stepped
    exact stepped.2 ▸ invariant.worked job embed

end Steps

/-! ## Runs -/

section Runs

variable {service : StorageService} {before : Files} {state final : StorageState}
  {labels later : List StorageLabel}

theorem initial_invariant : StorageInvariant service before (.initial before) where
  placed := fun _ _ absent => nomatch absent
  standing := fun _ _ absent => nomatch absent
  changed := fun _ differs => absurd rfl differs
  filed := fun _ absent => nomatch absent
  ids := rfl
  numbered := ⟨List.nodup_nil, fun _ absent => nomatch absent⟩
  jobs := fun _ absent => nomatch absent

theorem run_kept (invariant : StorageInvariant service before state)
    (ran : run service.step state labels = some final) : Kept service before state final :=
  run_invariant (Kept service before state)
    (fun _ _ _ kept stepped =>
      have next := kept.invariant.step stepped
      ⟨next.invariant, kept.grows.trans next.grows⟩)
    ⟨invariant, .refl state⟩ ran

/-- The file that the row of a document names. -/
def StorageService.fileOf (service : StorageService) (columns : FileColumns) : PosixPath :=
  service.storageRoot.join (PosixPath.parse columns.source)

theorem StorageInvariant.fileOf_columns (invariant : StorageInvariant service before state) {hex : UuidHex}
    {upload : FileUpload} (present : state.uploads hex = some upload) (documentId : Nat) :
    service.fileOf (upload.columns documentId) = upload.place.target := by
  obtain ⟨_, placed⟩ := invariant.placed _ _ present
  rw [StorageService.fileOf, PlacedUpload.columns, PosixPath.parse_asPosix]
  exact (StorageService.place_eq_ok placed).2.2.2.2.2.symm

/-- A request with a document has filed it. -/
theorem StorageInvariant.filed_of_identified (invariant : StorageInvariant service before state) {hex : UuidHex}
    {upload : FileUpload} {documentId : Nat} (present : state.uploads hex = some upload)
    (identified : upload.phase.documentId? = some documentId) :
    upload.Filed service.table before state documentId := by
  have standing := invariant.standing _ _ present
  unfold FileUpload.Standing at standing
  cases phase : upload.phase with
  | queueing size text other =>
    rw [phase] at identified standing
    cases identified
    exact standing.2
  | accepted response =>
    rw [phase] at identified standing
    cases identified
    exact standing
  | unqueued other =>
    rw [phase] at identified standing
    cases identified
    exact standing
  | raised other =>
    rw [phase] at identified standing
    cases identified
    exact standing
  | _ =>
    rw [phase] at identified
    cases identified

/-- Two rows that name one file are one row. -/
theorem StorageInvariant.columns_injective (invariant : StorageInvariant service before state)
    {columns other : FileColumns} (mem : columns ∈ state.columns) (otherMem : other ∈ state.columns)
    (same : other.source = columns.source) : other = columns := by
  obtain ⟨hex, upload, present, identified, columnsOf⟩ := invariant.filed columns mem
  obtain ⟨otherHex, otherUpload, otherPresent, otherIdentified, otherOf⟩ := invariant.filed other otherMem
  have targets : otherUpload.place.target = upload.place.target := by
    rw [← invariant.fileOf_columns present columns.documentId, ← columnsOf,
      ← invariant.fileOf_columns otherPresent other.documentId, ← otherOf, StorageService.fileOf, same]
    rfl
  have sameHex : otherHex = hex := by
    by_contra different
    exact invariant.targets_ne present otherPresent different targets
  subst sameHex
  rw [present] at otherPresent
  cases otherPresent
  rw [identified] at otherIdentified
  rw [columnsOf, otherOf, Option.some.inj otherIdentified]

/-! ### An upload beside one that is refused -/

def tideService : StorageService where
  table := fun _ _ _ => []
  slashless := fun _ _ _ => List.not_mem_nil
  storageRoot := .parse "/srv/uploads"

def tideHex : UuidHex := ⟨"00000000000000000000000000000001", by decide +kernel, by decide +kernel⟩

def blankHex : UuidHex := ⟨"00000000000000000000000000000002", by decide +kernel, by decide +kernel⟩

def tideForm : UploadForm := ⟨1, 2, "tide.txt", "", [101, 98, 98], "", "notes"⟩

/-- A file without a byte. -/
def blankForm : UploadForm := ⟨4, 5, "blank.txt", "", [], "", "notes"⟩

def tideLabels : List StorageLabel :=
  [.received tideHex tideForm some true, .received blankHex blankForm some true, .opened tideHex true,
    .opened blankHex true, .round tideHex true, .round blankHex true, .parsed blankHex true (.error .other),
    .round tideHex true, .parsed tideHex true (.error .other), .discarded blankHex true, .committed tideHex true,
    .enqueued tideHex .accepted true true]

theorem tide_plays : (run tideService.step (.initial fun _ => none) tideLabels).isSome = true := by
  decide +kernel

def tideState : StorageState := (run tideService.step (.initial fun _ => none) tideLabels).get tide_plays

theorem tideState_reached : run tideService.step (.initial fun _ => none) tideLabels = some tideState :=
  (Option.some_get tide_plays).symm

def tideDocument : Document := ⟨1, 1, "tide.txt", .queued, some 2⟩

def tideJob : IngestionJob := ⟨1, 1, "ebb", "organization"⟩

theorem tide_filed : tideDocument ∈ tideState.tables.documents ∧ tideJob ∈ tideState.jobs := by
  decide +kernel

/-- The job is worked, and the file is uploaded again, but the database refuses the row. -/
def tideLater : List StorageLabel :=
  let hex : UuidHex := ⟨"00000000000000000000000000000003", by decide +kernel, by decide +kernel⟩
  [.worked tideJob fun _ => none, .received hex tideForm some true, .opened hex true, .round hex true,
    .round hex true, .parsed hex true (.error .other), .committed hex false]

theorem tide_continues : (run tideService.step tideState tideLater).isSome = true := by
  decide +kernel

def tideFinal : StorageState := (run tideService.step tideState tideLater).get tide_continues

theorem tideFinal_reached : run tideService.step tideState tideLater = some tideFinal :=
  (Option.some_get tide_continues).symm

/-- However requests, failures of the disk and the database, and deliveries of jobs interleave, and whatever
links the file system has: the row of a document names the file of the upload that made it, strictly below the
directory of the organization, which was not there before.  It holds what the user sent, of a permitted kind
and size, and goes on holding it; and no other row names it. -/
theorem document_file_kept (ran : run service.step (.initial before) labels = some state)
    (continued : run service.step state later = some final) {document : Document}
    (present : document ∈ state.tables.documents) :
    ∃ columns ∈ state.columns, columns.documentId = document.id ∧
      ∃ (hex : UuidHex) (upload : FileUpload) (tenantRoot : PosixPath), state.uploads hex = some upload ∧
        upload.phase.documentId? = some document.id ∧ upload.place.target = service.fileOf columns ∧
        document.organizationId = upload.form.organizationId ∧ document.owner = some upload.form.userId ∧
        upload.resolve (service.organizationRoot document.organizationId) = some tenantRoot ∧
        tenantRoot ∈ (service.fileOf columns).parents ∧ before (service.fileOf columns) = none ∧
        final.files (service.fileOf columns) = some upload.form.content ∧
        0 < upload.form.content.length ∧ upload.form.content.length ≤ maxUploadBytes ∧
        safeExtension service.table upload.form.name ∈ allowedExtensions ∧
        ∀ other ∈ final.columns, other.source = columns.source → other = columns := by
  have invariant := (run_kept initial_invariant ran).invariant
  have kept := run_kept invariant continued
  -- the row of the document and its columns
  have id : document.id ∈ state.columns.map FileColumns.documentId :=
    invariant.ids ▸ List.mem_map_of_mem present
  obtain ⟨columns, mem, same⟩ := List.mem_map.mp id
  obtain ⟨hex, upload, running, identified, columnsOf⟩ := invariant.filed columns mem
  have filed := invariant.filed_of_identified running identified
  have owned : document.identity = upload.identity document.id := by
    obtain ⟨row, rowMem, rowOf⟩ := List.mem_map.mp filed.row
    have rowId : row.id = document.id := (congrArg DocumentIdentity.id rowOf).trans same
    have only := List.inj_on_of_nodup_map invariant.numbered.1 rowMem present rowId
    rw [← only, rowOf, rowId, same]
  obtain ⟨_, placed⟩ := invariant.placed _ _ running
  obtain ⟨-, extension, resolved, -, -, -⟩ := StorageService.place_eq_ok placed
  have organization : document.organizationId = upload.form.organizationId :=
    congrArg DocumentIdentity.organizationId owned
  have file : service.fileOf columns = upload.place.target := by
    rw [columnsOf]
    exact invariant.fileOf_columns running columns.documentId
  -- the file at the end
  obtain ⟨phase, remains, lasting⟩ := kept.grows.uploads hex upload running
  obtain ⟨size, text, complete⟩ :=
    (kept.invariant.filed_of_identified remains (lasting _ identified)).complete
  obtain ⟨_, valid⟩ := complete.valid
  obtain ⟨⟨⟩, permitted, valid⟩ := bind_eq_ok.mp valid
  obtain ⟨⟨⟩, bounded, valid⟩ := bind_eq_ok.mp valid
  have sized := ensure_eq_ok.mp bounded
  rw [complete.length] at sized
  refine ⟨columns, mem, same, hex, upload, upload.place.tenantRoot, running, by rw [identified, same], file.symm,
    organization, congrArg DocumentIdentity.owner owned, by rw [organization]; exact resolved, ?_, ?_, ?_,
    sized.1, sized.2, ensure_eq_ok.mp permitted, ?_⟩
  · rw [file]
    exact StorageService.place_confined placed
  · rw [file]
    exact complete.fresh
  · rw [file]
    exact complete.whole
  · exact fun other otherMem => kept.invariant.columns_injective (kept.grows.columns _ mem) otherMem

theorem document_file_kept_tide :
    ∃ columns ∈ tideState.columns, columns.documentId = tideDocument.id ∧
      ∃ (hex : UuidHex) (upload : FileUpload) (tenantRoot : PosixPath), tideState.uploads hex = some upload ∧
        upload.phase.documentId? = some tideDocument.id ∧ upload.place.target = tideService.fileOf columns ∧
        tideDocument.organizationId = upload.form.organizationId ∧ tideDocument.owner = some upload.form.userId ∧
        upload.resolve (tideService.organizationRoot tideDocument.organizationId) = some tenantRoot ∧
        tenantRoot ∈ (tideService.fileOf columns).parents ∧ (none : Option Bytes) = none ∧
        tideFinal.files (tideService.fileOf columns) = some upload.form.content ∧
        0 < upload.form.content.length ∧ upload.form.content.length ≤ maxUploadBytes ∧
        safeExtension tideService.table upload.form.name ∈ allowedExtensions ∧
        ∀ other ∈ tideFinal.columns, other.source = columns.source → other = columns :=
  document_file_kept tideState_reached tideFinal_reached tide_filed.1

/-- A file that a request has changed was not there before. -/
theorem FileUpload.Standing.fresh {upload : FileUpload} {table : CaseTable}
    (standing : upload.Standing table before state)
    (changed : state.files upload.place.target ≠ before upload.place.target) :
    before upload.place.target = none := by
  unfold Standing at standing
  cases phase : upload.phase with
  | opening =>
    rw [phase] at standing
    exact absurd standing changed
  | writing total rest =>
    rw [phase] at standing
    exact standing.1
  | written size =>
    rw [phase] at standing
    exact standing.1
  | discarding detail =>
    rw [phase] at standing
    exact standing
  | extracted size text =>
    rw [phase] at standing
    exact standing.fresh
  | queueing size text documentId =>
    rw [phase] at standing
    exact standing.1.fresh
  | accepted response =>
    rw [phase] at standing
    obtain ⟨size, text, complete⟩ := standing.complete
    exact complete.fresh
  | unqueued documentId =>
    rw [phase] at standing
    obtain ⟨size, text, complete⟩ := standing.complete
    exact complete.fresh
  | refused exception =>
    rw [phase] at standing
    exact absurd standing changed
  | raised documentId =>
    rw [phase] at standing
    cases documentId with
    | none => exact standing.resolve_right changed
    | some documentId =>
      obtain ⟨size, text, complete⟩ := standing.complete
      exact complete.fresh

/-- Whatever links the file system has, uploads change no file but one that was not there before and lies
strictly below the directory of the organization of its request; and every request that was refused has left
its file as it was. -/
theorem uploads_confined (ran : run service.step (.initial before) labels = some state) :
    (∀ path, state.files path ≠ before path →
      before path = none ∧ ∃ (hex : UuidHex) (upload : FileUpload) (tenantRoot : PosixPath),
        state.uploads hex = some upload ∧ path = upload.place.target ∧
        upload.resolve (service.organizationRoot upload.form.organizationId) = some tenantRoot ∧
        tenantRoot ∈ path.parents ∧ ∀ exception, upload.phase ≠ .refused exception) ∧
      ∀ hex upload exception, state.uploads hex = some upload → upload.phase = .refused exception →
        state.files upload.place.target = before upload.place.target := by
  have invariant := (run_kept initial_invariant ran).invariant
  have untouched : ∀ hex upload exception, state.uploads hex = some upload →
      upload.phase = .refused exception → state.files upload.place.target = before upload.place.target := by
    intro hex upload exception present refused
    have standing := invariant.standing _ _ present
    rw [FileUpload.Standing, refused] at standing
    exact standing
  refine ⟨fun path changed => ?_, untouched⟩
  obtain ⟨hex, upload, present, rfl⟩ := invariant.changed path changed
  obtain ⟨_, placed⟩ := invariant.placed _ _ present
  obtain ⟨-, -, resolved, -⟩ := StorageService.place_eq_ok placed
  refine ⟨(invariant.standing _ _ present).fresh changed, hex, upload, upload.place.tenantRoot, present, rfl,
    resolved, StorageService.place_confined placed, fun exception refused => ?_⟩
  exact changed (untouched hex upload exception present refused)

/-- The empty file is refused. -/
theorem blank_refused : (tideState.uploads blankHex).map (fun upload => (upload.phase, upload.place.target)) =
    some (.refused ⟨422, "Document exceeds the permitted size"⟩,
      .parse "/srv/uploads/4/notes/00000000000000000000000000000002.txt") := by
  decide +kernel

theorem uploads_confined_tide :
    ((none : Option Bytes) = none ∧ ∃ (hex : UuidHex) (upload : FileUpload) (tenantRoot : PosixPath),
      tideState.uploads hex = some upload ∧
      PosixPath.parse "/srv/uploads/1/notes/00000000000000000000000000000001.txt" = upload.place.target ∧
      upload.resolve (tideService.organizationRoot upload.form.organizationId) = some tenantRoot ∧
      tenantRoot ∈ (PosixPath.parse "/srv/uploads/1/notes/00000000000000000000000000000001.txt").parents ∧
      ∀ exception, upload.phase ≠ .refused exception) ∧
    tideState.files (.parse "/srv/uploads/4/notes/00000000000000000000000000000002.txt") = none := by
  have confined := uploads_confined tideState_reached
  obtain ⟨upload, present, refused⟩ := Option.map_eq_some_iff.mp blank_refused
  obtain ⟨phase, target⟩ := Prod.mk.inj refused
  exact ⟨confined.1 _ (by decide +kernel), target ▸ confined.2 _ upload _ present phase⟩

end Runs

end Eiraos.Documents
