import Eiraos.Documents.Models
import Eiraos.Foundations.Guarded
import Eiraos.Foundations.NamedParameters
import Eiraos.Foundations.PythonText
import Mathlib.Data.List.Sort
import Mathlib.Tactic.Linarith
import Mathlib.Tactic.Positivity

/-! # Hybrid retrieval

`RAGService.hybrid_search`: two queries under one scope filter, one by the distance of the
embeddings and one by full text, fused by reciprocal rank.
-/

namespace Eiraos.Documents

open PythonText

/-! ## The scope filter -/

/-- The condition that `_scope_clause` adds to both statements. -/
inductive ScopeClause where
  | visible
  | owned
  | named
  | everything
  deriving DecidableEq, Repr

/-- `(knowledge_scope or "organization").lower()`. -/
def effectiveScope (table : CaseTable) (knowledgeScope : String) : String :=
  lower table (if knowledgeScope = "" then "organization" else knowledgeScope)

def scopeClause (table : CaseTable) (knowledgeScope : String) : ScopeClause :=
  let scope := effectiveScope table knowledgeScope
  if scope = "public" then .visible
  else if scope = "private" then .owned
  else if scope ≠ "organization" then .named
  else .everything

/-- What the parameters of the statements carry. -/
structure SearchParameters where
  organizationId : Nat
  knowledgeScope : String
  callerUserId : Option Nat
  deriving DecidableEq, Repr

/-- `d.owner = :caller_user_id AND d.organization_id = :org_id` for the joined document. -/
def Document.ownedBy (document : Document) (parameters : SearchParameters) : Bool :=
  document.owner.isSome && document.owner = parameters.callerUserId &&
    document.organizationId = parameters.organizationId

/-- The clause on one row, its metadata cast without an error. -/
def ScopeClause.admits (clause : ScopeClause) (documents : List Document) (parameters : SearchParameters)
    (chunk : DocumentChunk) : Bool :=
  match clause with
  | .visible =>
    match chunk.metadata with
    -- rows without metadata are public
    | none => true
    | some metadata => metadata.text "visibility" = none || metadata.text "visibility" = some "public"
  | .owned =>
    match chunk.metadata with
    | none => false
    | some metadata =>
      metadata.text "visibility" = some "private" &&
        documents.any fun document => document.id = chunk.documentId && document.ownedBy parameters
  | .named =>
    match chunk.metadata with
    | none => false
    | some metadata => metadata.text "knowledge_scope" = some parameters.knowledgeScope
  | .everything => true

inductive SearchError where
  | permissionError
  | syntaxError
  | undefinedTable
  | invalidParameter
  | untranslatableCharacter
  deriving DecidableEq, Repr

/-- Whether the cast of the metadata succeeds, if there is one to cast. -/
def DocumentChunk.castable (chunk : DocumentChunk) : Bool := chunk.metadata.all ChunkMetadata.castable

/-- The row alone makes the clause true: it is evaluated without an error, and admits the row. -/
def ScopeClause.passes (clause : ScopeClause) (documents : List Document) (parameters : SearchParameters)
    (chunk : DocumentChunk) : Bool :=
  (clause = .everything || chunk.castable) && clause.admits documents parameters chunk

/-- `dc.organization_id = :org_id`. -/
def Tables.rowsOf (tables : Tables) (organizationId : Nat) : List DocumentChunk :=
  tables.chunks.filter fun chunk => chunk.organizationId = organizationId

/-- The rows that the `FROM` and `WHERE` of both statements leave.  `joined` tells whether
`documents d` is among the tables: a clause on the owner needs it. -/
def candidates (tables : Tables) (clause : ScopeClause) (joined : Bool) (parameters : SearchParameters) :
    Except SearchError (List DocumentChunk) :=
  if clause = .owned ∧ joined = false then .error .undefinedTable
  else if clause = .named ∧ ¬storable parameters.knowledgeScope then .error .invalidParameter
  else if clause ≠ .everything ∧ ¬(tables.rowsOf parameters.organizationId).all DocumentChunk.castable then
    .error .untranslatableCharacter
  else .ok ((tables.rowsOf parameters.organizationId).filter (clause.admits tables.documents parameters))

/-! ## The vector statement -/

/-- The text that `_scope_clause` adds. -/
def ScopeClause.sql : ScopeClause → String
  | .visible => "
              AND (
                dc.metadata IS NULL
                OR (dc.metadata::jsonb->>'visibility') IS NULL
                OR (dc.metadata::jsonb->>'visibility') = 'public'
              )
            "
  | .owned => "
              AND dc.metadata IS NOT NULL
              AND (dc.metadata::jsonb->>'visibility') = 'private'
              AND d.owner = :caller_user_id
              AND d.organization_id = :org_id
            "
  | .named => "
              AND dc.metadata IS NOT NULL
              AND (dc.metadata::jsonb->>'knowledge_scope') = :knowledge_scope
            "
  | .everything => ""

/-- The parameters in it. -/
def ScopeClause.parameters : ScopeClause → List String
  | .owned => ["caller_user_id", "org_id"]
  | .named => ["knowledge_scope"]
  | .visible | .everything => []

/-- `from_sql`. -/
def fromSql : Bool → String
  | true => "
                FROM document_chunks dc
                JOIN documents d ON d.id = dc.document_id
            "
  | false => "FROM document_chunks dc"

def vectorSql (clause : ScopeClause) (joined : Bool) : String :=
  "
            SELECT dc.id, dc.organization_id, dc.content, dc.metadata,
                   (1 - (dc.embedding <=> :query_embedding::vector)) AS vector_score
            " ++ fromSql joined ++ "
            WHERE dc.organization_id = :org_id
            " ++ clause.sql ++ "
            ORDER BY dc.embedding <=> :query_embedding::vector ASC
            LIMIT :lim
        "

def vectorParameters (clause : ScopeClause) : List String :=
  ["query_embedding", "org_id", "lim"] ++ clause.parameters

/-! ## Fusion -/

structure SearchResult where
  chunk : DocumentChunk
  score : ℚ

/-- The dictionaries `scores` and `docs`, keyed by the id of the row; `docs[row.id] = row`
keeps the place of a key that is there. -/
def addRow (rank : Nat) (row : DocumentChunk) (results : List SearchResult) : List SearchResult :=
  if results.any fun result => result.chunk.id = row.id then
    results.map fun result =>
      if result.chunk.id = row.id then ⟨row, result.score + 1 / (60 + rank + 1)⟩ else result
  else results ++ [⟨row, 1 / (60 + rank + 1)⟩]

/-- `for rank, row in enumerate(rows)`. -/
def addRows (rank : Nat) : List DocumentChunk → List SearchResult → List SearchResult
  | [], results => results
  | row :: rows, results => addRows (rank + 1) rows (addRow rank row results)

/-- `sorted(scores.items(), key=…, reverse=True)[:limit]`; equal scores keep their order. -/
def ranked (limit : Nat) (results : List SearchResult) : List SearchResult :=
  (results.insertionSort fun left right => right.score ≤ left.score).take limit

/-- Reciprocal rank fusion of the rows of the two queries. -/
def fuse (limit : Nat) (vectorRows ftsRows : List DocumentChunk) : List SearchResult :=
  ranked limit (addRows 0 ftsRows (addRows 0 vectorRows []))

/-! ## The search -/

/-- A query as `text()` and the database answer it: which names a statement binds once it is compiled,
how rows are ordered by their distance to the embedding, which rows match the text and in which order,
or that the text query fails. -/
structure SearchQuery where
  queryText : String
  binds : String → List String
  byDistance : List DocumentChunk → List DocumentChunk
  byRank : List DocumentChunk → Option (List DocumentChunk)
  byDistance_perm : ∀ rows, (byDistance rows).Perm rows
  byRank_subperm : ∀ rows matching, byRank rows = some matching → matching.Subperm rows

namespace SearchQuery

def vectorRows (query : SearchQuery) (fetched : Nat) (rows : List DocumentChunk) : List DocumentChunk :=
  (query.byDistance rows).take fetched

/-- A parameter that is not bound stays in the statement with its colon. -/
def accepts (query : SearchQuery) (statement : String) (parameters : List String) : Bool :=
  parameters.all fun name => (query.binds statement).contains name

/-- No query text, no text query; an error of the text query is swallowed. -/
def ftsRows (query : SearchQuery) (fetched : Nat) (rows : List DocumentChunk) : List DocumentChunk :=
  if strip query.queryText = "" then [] else ((query.byRank rows).getD []).take fetched

end SearchQuery

def hybridSearch (table : CaseTable) (tables : Tables) (organizationId : Nat) (query : SearchQuery)
    (limit : Nat := 5) (knowledgeScope : String := "organization") (callerUserId : Option Nat := none) :
    Except SearchError (List SearchResult) := do
  let scope := effectiveScope table knowledgeScope
  Guarded.ensure (¬(scope = "private" ∧ callerUserId = none)) SearchError.permissionError
  let fetched := max (limit * 4) 20
  Guarded.ensure
    (query.accepts (vectorSql (scopeClause table scope) (scope = "private"))
      (vectorParameters (scopeClause table scope)))
    SearchError.syntaxError
  let rows ← candidates tables (scopeClause table scope) (scope = "private")
    ⟨organizationId, scope, callerUserId⟩
  return fuse limit (query.vectorRows fetched rows) (query.ftsRows fetched rows)

/-! ## What is returned -/

theorem mem_addRow {rank : Nat} {row : DocumentChunk} {results : List SearchResult} {result : SearchResult}
    (mem : result ∈ addRow rank row results) :
    result.chunk = row ∨ ∃ before ∈ results, before.chunk = result.chunk := by
  unfold addRow at mem
  split at mem
  · obtain ⟨before, there, rfl⟩ := List.mem_map.mp mem
    split
    · exact .inl rfl
    · exact .inr ⟨before, there, rfl⟩
  · simp only [List.mem_append, List.mem_singleton] at mem
    cases mem with
    | inl there => exact .inr ⟨result, there, rfl⟩
    | inr same => exact .inl (by rw [same])

theorem mem_addRows {rank : Nat} {rows : List DocumentChunk} {results : List SearchResult}
    {result : SearchResult} (mem : result ∈ addRows rank rows results) :
    result.chunk ∈ rows ∨ ∃ before ∈ results, before.chunk = result.chunk := by
  induction rows generalizing rank results with
  | nil => exact .inr ⟨result, mem, rfl⟩
  | cons row rows inductionHypothesis =>
    cases inductionHypothesis mem with
    | inl later => exact .inl (List.mem_cons_of_mem _ later)
    | inr earlier =>
      obtain ⟨before, there, same⟩ := earlier
      cases mem_addRow there with
      | inl here => exact .inl (by rw [← same, here]; exact List.mem_cons_self)
      | inr older =>
        obtain ⟨oldest, there, equal⟩ := older
        exact .inr ⟨oldest, there, equal.trans same⟩

/-- Every fused row is a row of one of the two queries. -/
theorem mem_fuse {limit : Nat} {vectorRows ftsRows : List DocumentChunk} {result : SearchResult}
    (mem : result ∈ fuse limit vectorRows ftsRows) : result.chunk ∈ vectorRows ∨ result.chunk ∈ ftsRows := by
  have sorted := List.mem_of_mem_take mem
  rw [List.mem_insertionSort] at sorted
  cases mem_addRows sorted with
  | inl fts => exact .inr fts
  | inr earlier =>
    obtain ⟨before, there, same⟩ := earlier
    cases mem_addRows there with
    | inl vector => exact .inl (same ▸ vector)
    | inr none =>
      obtain ⟨_, absent, _⟩ := none
      cases absent

namespace SearchQuery

variable {query : SearchQuery} {fetched : Nat} {rows : List DocumentChunk} {chunk : DocumentChunk}

end SearchQuery

/-- When the statements succeed, and what they select. -/
theorem candidates_eq_ok {tables : Tables} {clause : ScopeClause} {joined : Bool}
    {parameters : SearchParameters} {rows : List DocumentChunk} :
    candidates tables clause joined parameters = .ok rows ↔
      (clause = .owned → joined) ∧ (clause = .named → storable parameters.knowledgeScope) ∧
      (clause = .everything ∨ ∀ chunk ∈ tables.rowsOf parameters.organizationId, chunk.castable) ∧
      (tables.rowsOf parameters.organizationId).filter (clause.admits tables.documents parameters) = rows := by
  unfold candidates
  split
  next unjoined => simp [unjoined]
  next joined =>
    split
    next refused => simp [refused]
    next accepted =>
      split
      next uncast => simp_all
      next cast => simp_all [or_iff_not_imp_left]

theorem hybridSearch_eq_ok {table : CaseTable} {tables : Tables} {organizationId limit : Nat}
    {query : SearchQuery} {knowledgeScope : String} {callerUserId : Option Nat}
    {results : List SearchResult} :
    hybridSearch table tables organizationId query limit knowledgeScope callerUserId = .ok results ↔
      ¬(effectiveScope table knowledgeScope = "private" ∧ callerUserId = none) ∧
      query.accepts
        (vectorSql (scopeClause table (effectiveScope table knowledgeScope))
          (effectiveScope table knowledgeScope = "private"))
        (vectorParameters (scopeClause table (effectiveScope table knowledgeScope))) ∧
      ∃ rows, candidates tables (scopeClause table (effectiveScope table knowledgeScope))
          (effectiveScope table knowledgeScope = "private")
          ⟨organizationId, effectiveScope table knowledgeScope, callerUserId⟩ = .ok rows ∧
        fuse limit (query.vectorRows (max (limit * 4) 20) rows)
          (query.ftsRows (max (limit * 4) 20) rows) = results := by
  simp only [hybridSearch, Guarded.bind_eq_ok, Guarded.ensure_eq_ok, Guarded.pure_eq_ok, exists_const]

end Eiraos.Documents
