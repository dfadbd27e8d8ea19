import Eiraos.Documents.RagService
import Eiraos.Documents.Worker

/-! # Who sees which knowledge

Uploads, each processed by the worker, build up the knowledge of an organization.  Two doors
lead to the search: the knowledge context of a chat and `POST /documents/search`.
-/

namespace Eiraos.Documents

open PythonText

/-! ## Uploads -/

structure HttpException where
  statusCode : Nat
  detail : String
  deriving DecidableEq, Repr

def maxScopeChars : Nat := 120

/-- A part of the path is `.` or `..`. -/
def hasDotPart (scope : String) : Bool := (split '/' scope).any fun part => part = "." || part = ".."

def safeScope (value : String) : Except HttpException String :=
  let value := strip (if value = "" then "organization" else value)
  if value = "" ∨ maxScopeChars < value.length then .error ⟨422, "Invalid knowledge_scope"⟩
  else if value = "." ∨ value = ".." ∨ hasDotPart value then .error ⟨422, "Invalid knowledge_scope"⟩
  else .ok value

def maxExtractedTextChars : Nat := 500000

/-- `extract_text`, from the decoded text on. -/
def extractText (decoded : String) : Except HttpException String :=
  if maxExtractedTextChars < decoded.length then
    .error ⟨422, "Document exceeds the extracted text limit"⟩
  else
    let text := strip (String.ofList (decoded.toList.filter (· ≠ '\x00')))
    if text = "" then .error ⟨422, "Document contains no extractable text"⟩ else .ok text

/-- A request to `upload_document` and what `_embed` returns for each text of its job. -/
structure Upload where
  organizationId : Nat
  userId : Nat
  filename : String
  decoded : String
  knowledgeScope : String
  embed : String → Option Embedding

/-- `(file.filename or "document")[:500]`. -/
def Upload.title (upload : Upload) : String :=
  slice (if upload.filename = "" then "document" else upload.filename) 0 500

/-- The scope and the text of an accepted request. -/
def Upload.accept (upload : Upload) : Except HttpException (String × String) := do
  let scope ← safeScope upload.knowledgeScope
  let text ← extractText upload.decoded
  return (scope, text)

/-- A document, the request that created it and the scope its job was enqueued with. -/
structure UploadRecord where
  documentId : Nat
  upload : Upload
  scope : String

/-- The tables, and which upload each document comes from. -/
structure KnowledgeBase where
  tables : Tables := {}
  uploads : List UploadRecord := []

/-- One upload and its job; a rejected request changes nothing. -/
def KnowledgeBase.upload (base : KnowledgeBase) (upload : Upload) : KnowledgeBase :=
  match upload.accept with
  | .error _ => base
  | .ok (scope, content) =>
    match base.tables.insertDocument upload.organizationId upload.title .queued (some upload.userId) with
    | none => base
    | some (document, tables) =>
      { tables :=
          (processDocumentIngestion upload.embed tables document.id upload.organizationId content scope).2
        uploads := base.uploads ++ [⟨document.id, upload, scope⟩] }

def knowledgeBase (uploads : List Upload) : KnowledgeBase := uploads.foldl KnowledgeBase.upload {}

/-! ## The doors -/

def validKnowledgeScope : Option String → Except HttpException (Option String)
  | none => .ok none
  | some value =>
    let scope := strip value
    if scope = "" ∨ scope = "." ∨ scope = ".." ∨ hasDotPart scope then
      .error ⟨422, "Invalid knowledge_scope"⟩
    else .ok (some scope)

/-- The search of `_knowledge_context`; no scope, no search. -/
def knowledgeContext (table : CaseTable) (tables : Tables) (organizationId : Nat) (query : SearchQuery) :
    Option String → Except SearchError (List SearchResult)
  | none => .ok []
  | some scope =>
    if scope = "" then .ok [] else hybridSearch table tables organizationId query 6 scope

def maxSearchLimit : Nat := 50

/-- What a user can ask for: a chat with a knowledge scope, or a document search. -/
inductive KnowledgeCall where
  | chat (knowledgeScope : Option String)
  | search (limit : { limit : Nat // 1 ≤ limit ∧ limit ≤ maxSearchLimit })

/-- The rows that the search behind a door returns, none if the request is refused. -/
def KnowledgeCall.returned (call : KnowledgeCall) (table : CaseTable) (tables : Tables)
    (organizationId userId : Nat) (query : SearchQuery) : List DocumentChunk :=
  let results : Except SearchError (List SearchResult) :=
    match call with
    | .chat knowledgeScope =>
      match validKnowledgeScope knowledgeScope with
      | .error _ => .ok []
      | .ok scope => knowledgeContext table tables organizationId query scope
    | .search limit =>
      hybridSearch table tables organizationId query limit.1 "organization" (some userId)
  (results.toOption.getD []).map SearchResult.chunk

/-! ## Where the chunks come from -/

/-- The chunk is one that the job of this upload writes. -/
def UploadRecord.Wrote (record : UploadRecord) (chunk : DocumentChunk) : Prop :=
  ∃ position text embedding, chunk.toNewChunk =
    newChunk record.upload.organizationId record.documentId record.upload.title record.scope position
      text embedding

structure KnowledgeBase.Recorded (base : KnowledgeBase) : Prop where
  documentsBelow : ∀ document ∈ base.tables.documents, document.id < base.tables.documentSequence
  chunksBelow : ∀ chunk ∈ base.tables.chunks, chunk.id < base.tables.chunkSequence
  chunksDistinct : (base.tables.chunks.map DocumentChunk.id).Nodup
  recordsBelow : ∀ record ∈ base.uploads, record.documentId < base.tables.documentSequence
  recordsDistinct : (base.uploads.map UploadRecord.documentId).Nodup
  accepted : ∀ record ∈ base.uploads,
    safeScope record.upload.knowledgeScope = .ok record.scope ∧ storable record.upload.title
  written : ∀ chunk ∈ base.tables.chunks, ∃ record ∈ base.uploads, record.Wrote chunk

theorem mem_newChunks {embed : String → Option Embedding} {organizationId documentId : Nat}
    {title content knowledgeScope : String} {chunk : NewChunk}
    (mem : chunk ∈ newChunks embed organizationId documentId title content knowledgeScope) :
    ∃ position text embedding,
      chunk = newChunk organizationId documentId title knowledgeScope position text embedding := by
  obtain ⟨item, _, rfl⟩ := List.mem_map.mp mem
  exact ⟨item.2, item.1, embed item.1, rfl⟩

/-- The worker finds the document that the upload has just inserted. -/
theorem document?_inserted {tables : Tables} (document : Document)
    (below : ∀ other ∈ tables.documents, other.id < document.id) :
    Tables.document? { tables with
      documents := tables.documents ++ [document]
      documentSequence := tables.documentSequence + 1 } document.id document.organizationId =
        some document := by
  have absent : tables.documents.find? (fun other =>
      other.id = document.id ∧ other.organizationId = document.organizationId) = none := by
    apply List.find?_eq_none.mpr
    intro other mem same
    have := below other mem
    simp only [decide_eq_true_eq] at same
    omega
  rw [Tables.document?, List.find?_append, absent]
  simp

/-- The job of one more upload has appended its chunks. -/
theorem KnowledgeBase.Recorded.append {base : KnowledgeBase} (recorded : base.Recorded)
    {record : UploadRecord} {after : Tables} {added : List NewChunk}
    (fresh : record.documentId = base.tables.documentSequence)
    (accepted : safeScope record.upload.knowledgeScope = .ok record.scope ∧ storable record.upload.title)
    (written : ∀ chunk ∈ added, ∃ position text embedding, chunk =
      newChunk record.upload.organizationId record.documentId record.upload.title record.scope position
        text embedding)
    (chunks : after.chunks = base.tables.chunks ++ Tables.numbered base.tables.chunkSequence added)
    (chunkSequence : after.chunkSequence = base.tables.chunkSequence + added.length)
    (documentSequence : after.documentSequence = base.tables.documentSequence + 1)
    (ids : after.documents.map Document.id =
      base.tables.documents.map Document.id ++ [record.documentId]) :
    KnowledgeBase.Recorded ⟨after, base.uploads ++ [record]⟩ where
  documentsBelow document mem := by
    have listed := List.mem_map_of_mem (f := Document.id) mem
    rw [ids, fresh, List.mem_append, List.mem_singleton] at listed
    rw [documentSequence]
    cases listed with
    | inl old =>
      obtain ⟨other, there, same⟩ := List.mem_map.mp old
      have := recorded.documentsBelow other there
      omega
    | inr same => omega
  chunksBelow chunk mem := by
    rw [chunks, List.mem_append] at mem
    rw [chunkSequence]
    cases mem with
    | inl old =>
      have := recorded.chunksBelow chunk old
      omega
    | inr new =>
      have listed := List.mem_map_of_mem (f := DocumentChunk.id) new
      rw [Tables.map_id_numbered, List.mem_range'_1] at listed
      omega
  chunksDistinct := by
    -- The new chunks are numbered from the sequence on, above every old id.
    rw [chunks, List.map_append, Tables.map_id_numbered]
    apply List.nodup_append.mpr
    refine ⟨recorded.chunksDistinct, List.nodup_range', ?_⟩
    intro old oldMem new newMem same
    obtain ⟨chunk, there, rfl⟩ := List.mem_map.mp oldMem
    have := recorded.chunksBelow chunk there
    rw [List.mem_range'_1] at newMem
    omega
  recordsBelow other mem := by
    rw [documentSequence]
    cases List.mem_append.mp mem with
    | inl old =>
      have := recorded.recordsBelow other old
      omega
    | inr new =>
      rw [List.mem_singleton.mp new]
      omega
  recordsDistinct := by
    rw [List.map_append, List.nodup_append]
    refine ⟨recorded.recordsDistinct, List.nodup_singleton _, ?_⟩
    intro old oldMem new newMem same
    obtain ⟨other, there, rfl⟩ := List.mem_map.mp oldMem
    have := recorded.recordsBelow other there
    simp only [List.map_cons, List.map_nil, List.mem_singleton] at newMem
    omega
  accepted other mem := by
    cases List.mem_append.mp mem with
    | inl old => exact recorded.accepted other old
    | inr new =>
      rw [List.mem_singleton.mp new]
      exact accepted
  written chunk mem := by
    rw [chunks, List.mem_append] at mem
    cases mem with
    | inl old =>
      obtain ⟨other, there, wrote⟩ := recorded.written chunk old
      exact ⟨other, List.mem_append_left _ there, wrote⟩
    | inr new =>
      have listed := List.mem_map_of_mem (f := DocumentChunk.toNewChunk) new
      rw [Tables.map_numbered] at listed
      exact ⟨record, by simp, written _ listed⟩

theorem KnowledgeBase.Recorded.upload {base : KnowledgeBase} (recorded : base.Recorded) (upload : Upload) :
    (base.upload upload).Recorded := by
  unfold KnowledgeBase.upload
  split
  next => exact recorded
  next scope content accepted =>
    split
    next => exact recorded
    next document tables inserted =>
      obtain ⟨stored, rfl, rfl⟩ := Tables.insertDocument_eq_some.mp inserted
      obtain ⟨added, origin, chunks, chunkSequence, documentSequence, ids⟩ :=
        processDocumentIngestion_spec upload.embed content scope
          (document?_inserted ⟨base.tables.documentSequence, upload.organizationId, upload.title,
            .queued, some upload.userId⟩ recorded.documentsBelow)
      have named : safeScope upload.knowledgeScope = .ok scope := by
        simp only [Upload.accept, Guarded.bind_eq_ok, Guarded.pure_eq_ok, Prod.mk.injEq] at accepted
        obtain ⟨_, found, _, _, rfl, _⟩ := accepted
        exact found
      refine recorded.append rfl ⟨named, stored⟩ ?_ chunks chunkSequence documentSequence ?_
      · intro chunk mem
        cases origin with
        | inl none =>
          rw [none] at mem
          cases mem
        | inr written =>
          rw [written] at mem
          exact mem_newChunks mem
      · simpa using ids

theorem knowledgeBase_recorded (uploads : List Upload) : (knowledgeBase uploads).Recorded := by
  have start : ∀ base : KnowledgeBase, base.Recorded → (uploads.foldl KnowledgeBase.upload base).Recorded := by
    induction uploads with
    | nil => exact fun _ recorded => recorded
    | cons upload uploads inductionHypothesis =>
      exact fun base recorded => inductionHypothesis _ (recorded.upload upload)
  apply start
  constructor <;> simp

end Eiraos.Documents
