import Eiraos.Foundations.Rows
import Mathlib.Algebra.Order.Ring.Unbundled.Rat

/-! # Documents and their chunks

The tables `documents` and `document_chunks`, and what PostgreSQL does with the text of the
column `metadata` when a query casts it to `jsonb`.
-/

namespace Eiraos.Documents

/-- A text column, a text parameter and a `jsonb` string hold every character but NUL. -/
def storable (text : String) : Bool := !text.toList.contains '\x00'

/-! ## Metadata -/

inductive MetadataValue where
  | int (value : Int)
  | string (value : String)
  deriving DecidableEq, Repr

/-- The object that the JSON text of a chunk's metadata denotes, key by key. -/
abbrev ChunkMetadata := List (String × MetadataValue)

namespace ChunkMetadata

/-- `metadata::jsonb` refuses an escaped NUL; the JSON text itself may hold one. -/
def castable (metadata : ChunkMetadata) : Bool :=
  metadata.all fun member =>
    match member.2 with
    | .int _ => true
    | .string value => storable value

/-- `metadata::jsonb->>key`; `none` is SQL's NULL. -/
def text (metadata : ChunkMetadata) (key : String) : Option String :=
  (metadata.find? fun member => member.1 = key).map fun member =>
    match member.2 with
    | .int value => toString value
    | .string value => value

end ChunkMetadata

/-! ## Rows -/

inductive DocumentStatus where
  | uploaded
  | queued
  | processing
  | ready
  | failed
  deriving DecidableEq, Repr

structure Document where
  id : Nat
  organizationId : Nat
  title : String
  status : DocumentStatus := .uploaded
  owner : Option Nat
  deriving DecidableEq, Repr

abbrev Embedding := List ℚ

/-- A chunk that a session has added and not yet flushed. -/
structure NewChunk where
  organizationId : Nat
  documentId : Nat
  content : String
  embedding : Option Embedding
  metadata : Option ChunkMetadata
  deriving DecidableEq, Repr

structure DocumentChunk extends NewChunk where
  id : Nat
  deriving DecidableEq, Repr

structure Tables where
  documents : List Document := []
  chunks : List DocumentChunk := []
  documentSequence : Nat := 1
  chunkSequence : Nat := 1
  deriving DecidableEq, Repr

namespace Tables

/-- `INSERT INTO documents`, refused when the title cannot be stored. -/
def insertDocument (tables : Tables) (organizationId : Nat) (title : String) (status : DocumentStatus)
    (owner : Option Nat) : Option (Document × Tables) :=
  if storable title then
    let document : Document := ⟨tables.documentSequence, organizationId, title, status, owner⟩
    some (document,
      { tables with
        documents := tables.documents ++ [document]
        documentSequence := tables.documentSequence + 1 })
  else none

/-- `UPDATE documents SET status = … WHERE id = …`. -/
def setStatus (tables : Tables) (documentId : Nat) (status : DocumentStatus) : Tables :=
  { tables with
    documents := tables.documents.map fun document =>
      if document.id = documentId then { document with status } else document }

/-- The rows of a flush get the next ids, in the order in which they were added. -/
def numbered (sequence : Nat) : List NewChunk → List DocumentChunk
  | [] => []
  | chunk :: chunks => { chunk with id := sequence } :: numbered (sequence + 1) chunks

/-- `INSERT INTO document_chunks`, refused as a whole when one content cannot be stored. -/
def insertChunks (tables : Tables) (added : List NewChunk) : Option Tables :=
  if added.all fun chunk => storable chunk.content then
    some { tables with
      chunks := tables.chunks ++ numbered tables.chunkSequence added
      chunkSequence := tables.chunkSequence + added.length }
  else none

@[simp] theorem setStatus_chunks (tables : Tables) (documentId : Nat) (status : DocumentStatus) :
    (tables.setStatus documentId status).chunks = tables.chunks := rfl

@[simp] theorem setStatus_chunkSequence (tables : Tables) (documentId : Nat) (status : DocumentStatus) :
    (tables.setStatus documentId status).chunkSequence = tables.chunkSequence := rfl

@[simp] theorem setStatus_documentSequence (tables : Tables) (documentId : Nat) (status : DocumentStatus) :
    (tables.setStatus documentId status).documentSequence = tables.documentSequence := rfl

@[simp] theorem setStatus_ids (tables : Tables) (documentId : Nat) (status : DocumentStatus) :
    (tables.setStatus documentId status).documents.map Document.id = tables.documents.map Document.id := by
  simp only [setStatus, List.map_map]
  apply List.map_congr_left
  intro document _
  simp only [Function.comp]
  split <;> rfl

theorem insertDocument_eq_some {tables next : Tables} {organizationId : Nat} {title : String}
    {status : DocumentStatus} {owner : Option Nat} {document : Document} :
    tables.insertDocument organizationId title status owner = some (document, next) ↔
      storable title ∧ document = ⟨tables.documentSequence, organizationId, title, status, owner⟩ ∧
      next = { tables with
        documents := tables.documents ++ [document]
        documentSequence := tables.documentSequence + 1 } := by
  unfold insertDocument
  split
  next stored =>
    simp only [Option.some.injEq, Prod.mk.injEq, stored, true_and]
    constructor
    · rintro ⟨rfl, rfl⟩
      exact ⟨rfl, rfl⟩
    · rintro ⟨rfl, rfl⟩
      exact ⟨rfl, rfl⟩
  next refused => simp [refused]

theorem map_id_numbered (sequence : Nat) (added : List NewChunk) :
    (numbered sequence added).map DocumentChunk.id = List.range' sequence added.length := by
  induction added generalizing sequence with
  | nil => rfl
  | cons chunk added inductionHypothesis => simp [numbered, List.range'_succ, inductionHypothesis]

theorem map_numbered (sequence : Nat) (added : List NewChunk) :
    (numbered sequence added).map DocumentChunk.toNewChunk = added := by
  induction added generalizing sequence with
  | nil => rfl
  | cons chunk added inductionHypothesis => simp [numbered, inductionHypothesis]

theorem insertChunks_eq_some {tables next : Tables} {added : List NewChunk} :
    tables.insertChunks added = some next ↔
      (∀ chunk ∈ added, storable chunk.content) ∧
      next = { tables with
        chunks := tables.chunks ++ numbered tables.chunkSequence added
        chunkSequence := tables.chunkSequence + added.length } := by
  unfold insertChunks
  split
  next stored =>
    simp only [List.all_eq_true] at stored
    rw [Option.some.injEq]
    exact ⟨fun same => ⟨stored, same.symm⟩, fun both => both.2.symm⟩
  next refused =>
    simp only [List.all_eq_true] at refused
    simp [refused]

end Tables

end Eiraos.Documents
