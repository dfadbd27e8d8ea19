import Eiraos.Documents.Chunking
import Eiraos.Documents.Models

/-! # The ingestion job

`process_document_ingestion` in its three parts: the transaction that takes a document that
is not ready, the loop that adds its chunks to the session, and the commit that ends it.
-/

namespace Eiraos.Documents

inductive IngestionResult where
  | notFound (documentId : Nat)
  | replayed (documentId : Nat)
  | finished (status : DocumentStatus) (documentId chunks embedded : Nat)
  | failed (documentId : Nat) (errorType : String)
  deriving DecidableEq, Repr

namespace Tables

variable (tables : Tables)

/-- `SELECT … WHERE id = … AND organization_id = … FOR UPDATE`. -/
def document? (documentId organizationId : Nat) : Option Document :=
  tables.documents.find? fun document =>
    document.id = documentId ∧ document.organizationId = organizationId

/-- The first transaction, up to the commit of `processing`. -/
def beginIngestion (documentId organizationId : Nat) : Except IngestionResult (Document × Tables) :=
  match tables.document? documentId organizationId with
  | none => .error (.notFound documentId)
  | some document =>
    if document.status = .ready then .error (.replayed documentId)
    else .ok ({ document with status := .processing }, tables.setStatus documentId .processing)

/-- `doc.status = "ready" if created > 0 else "failed"` and the commit of the added chunks;
`none` when the flush fails, which rolls everything back. -/
def finishIngestion (documentId : Nat) (added : List NewChunk) : Option (IngestionResult × Tables) :=
  let status : DocumentStatus := if 0 < added.length then .ready else .failed
  (tables.insertChunks added).map fun inserted =>
    (.finished status documentId added.length (added.countP fun chunk => chunk.embedding.isSome),
      inserted.setStatus documentId status)

/-- The handler sets `failed` and commits the session with whatever was added to it. -/
def failIngestion (documentId : Nat) (added : List NewChunk) (errorType : String) :
    Option (IngestionResult × Tables) :=
  (tables.insertChunks added).map fun inserted =>
    (.failed documentId errorType, inserted.setStatus documentId .failed)

end Tables

/-- The `DocumentChunk` of one iteration. -/
def newChunk (organizationId documentId : Nat) (title knowledgeScope : String) (position : Nat)
    (chunkText : String) (embedding : Option Embedding) : NewChunk where
  organizationId := organizationId
  documentId := documentId
  content := chunkText
  embedding := embedding
  metadata := some [("order", .int position), ("title", .string title),
    ("knowledge_scope", .string knowledgeScope)]

/-- All iterations, with what `_embed` returned for each text. -/
def newChunks (embed : String → Option Embedding) (organizationId documentId : Nat)
    (title content knowledgeScope : String) : List NewChunk :=
  (intelligentChunking content).zipIdx.map fun chunk =>
    newChunk organizationId documentId title knowledgeScope chunk.2 chunk.1 (embed chunk.1)

/-- One delivery that nothing interrupts.  A refused flush leaves a session that also refuses
the commit of the handler: the job raises. -/
def processDocumentIngestion (embed : String → Option Embedding) (tables : Tables)
    (documentId organizationId : Nat) (content knowledgeScope : String) :
    Option IngestionResult × Tables :=
  match tables.beginIngestion documentId organizationId with
  | .error result => (some result, tables)
  | .ok (document, begun) =>
    match begun.finishIngestion documentId
      (newChunks embed organizationId documentId document.title content knowledgeScope) with
    | some (result, finished) => (some result, finished)
    | none => (none, begun)

/-- What a delivery leaves: the chunks of the document, or no new chunk. -/
theorem processDocumentIngestion_spec (embed : String → Option Embedding) {tables : Tables}
    {document : Document} {documentId organizationId : Nat} (content knowledgeScope : String)
    (found : tables.document? documentId organizationId = some document) :
    ∃ added, (added = [] ∨
        added = newChunks embed organizationId documentId document.title content knowledgeScope) ∧
      let after := (processDocumentIngestion embed tables documentId organizationId content knowledgeScope).2
      after.chunks = tables.chunks ++ Tables.numbered tables.chunkSequence added ∧
        after.chunkSequence = tables.chunkSequence + added.length ∧
        after.documentSequence = tables.documentSequence ∧
        after.documents.map Document.id = tables.documents.map Document.id := by
  unfold processDocumentIngestion Tables.beginIngestion
  rw [found]
  dsimp only
  by_cases ready : document.status = .ready
  · refine ⟨[], .inl rfl, ?_⟩
    simp [ready, Tables.numbered]
  · rw [if_neg ready]
    dsimp only
    cases finished : (tables.setStatus documentId .processing).finishIngestion documentId
        (newChunks embed organizationId documentId document.title content knowledgeScope) with
    | none =>
      refine ⟨[], .inl rfl, ?_⟩
      simp [Tables.numbered]
    | some ending =>
      obtain ⟨result, after⟩ := ending
      simp only [Tables.finishIngestion, Option.map_eq_some_iff] at finished
      obtain ⟨inserted, stored, same⟩ := finished
      obtain ⟨-, rfl⟩ := Tables.insertChunks_eq_some.mp stored
      obtain ⟨rfl, rfl⟩ := Prod.mk.inj same
      exact ⟨_, .inr rfl, by simp⟩

end Eiraos.Documents
