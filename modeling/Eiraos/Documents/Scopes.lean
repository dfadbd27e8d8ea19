import Eiraos.Documents.Knowledge

/-! # Private knowledge and agreeing scopes

No call shows a private chunk to another user of the organization: the search casts its parameter
where `text()` does not find it, and fails.  And under which scopes the writer and the reader of the
metadata mean the same.
-/

namespace Eiraos.Documents

open PythonText NamedParameters

variable {table : CaseTable}

/-! ## The scope names -/

@[simp] theorem effectiveScope_private : effectiveScope table "private" = "private" := rfl

theorem effectiveScope_of_ne {scope : String} (named : scope ≠ "") :
    effectiveScope table scope = lower table scope := by
  rw [effectiveScope, if_neg named]

theorem scopeClause_eq_everything {scope : String} :
    scopeClause table scope = .everything ↔ effectiveScope table scope = "organization" := by
  unfold scopeClause
  grind

theorem scopeClause_eq_visible {scope : String} :
    scopeClause table scope = .visible ↔ effectiveScope table scope = "public" := by
  unfold scopeClause
  grind

theorem scopeClause_eq_owned {scope : String} :
    scopeClause table scope = .owned ↔ effectiveScope table scope = "private" := by
  unfold scopeClause
  grind

/-! ## The metadata of the worker -/

theorem UploadRecord.Wrote.metadata {record : UploadRecord} {chunk : DocumentChunk}
    (wrote : record.Wrote chunk) :
    ∃ position : Nat, chunk.metadata = some [("order", .int position),
      ("title", .string record.upload.title), ("knowledge_scope", .string record.scope)] := by
  obtain ⟨position, text, embedding, same⟩ := wrote
  exact ⟨position, by rw [same]; rfl⟩

/-- No key `visibility` is written, and the scope stands under `knowledge_scope`. -/
theorem UploadRecord.Wrote.admits {record : UploadRecord} {chunk : DocumentChunk}
    (wrote : record.Wrote chunk) (clause : ScopeClause) (documents : List Document)
    (parameters : SearchParameters) :
    clause.admits documents parameters chunk =
      match clause with
      | .visible => true
      | .owned => false
      | .named => record.scope = parameters.knowledgeScope
      | .everything => true := by
  obtain ⟨position, metadata⟩ := wrote.metadata
  cases clause <;> simp [ScopeClause.admits, metadata, ChunkMetadata.text]

theorem UploadRecord.Wrote.castable {record : UploadRecord} {chunk : DocumentChunk}
    (wrote : record.Wrote chunk) (title : storable record.upload.title) :
    chunk.castable = storable record.scope := by
  obtain ⟨position, metadata⟩ := wrote.metadata
  simp [DocumentChunk.castable, metadata, ChunkMetadata.castable, title]

/-- The record of a chunk is the one with its document. -/
theorem KnowledgeBase.Recorded.wrote {base : KnowledgeBase} (recorded : base.Recorded)
    {record : UploadRecord} {chunk : DocumentChunk} (mem : record ∈ base.uploads)
    (stored : chunk ∈ base.tables.chunks) (same : record.documentId = chunk.documentId) :
    record.Wrote chunk := by
  obtain ⟨writer, there, wrote⟩ := recorded.written chunk stored
  have document : writer.documentId = chunk.documentId := by
    obtain ⟨position, text, embedding, equal⟩ := wrote
    rw [equal]
    rfl
  have := List.inj_on_of_nodup_map recorded.recordsDistinct mem there (same.trans document.symm)
  exact this ▸ wrote

/-! ## Private chunks -/

/-- The chunk was uploaded by the owner under the scope `private`, in any letter case. -/
def KnowledgeBase.PrivateTo (base : KnowledgeBase) (table : CaseTable) (owner : Nat)
    (chunk : DocumentChunk) : Prop :=
  chunk ∈ base.tables.chunks ∧
    ∃ record ∈ base.uploads, record.documentId = chunk.documentId ∧ record.upload.userId = owner ∧
      lower table record.scope = "private"

/-- The embedding stands in the statement only where it is cast. -/
theorem not_occurs_query_embedding (clause : ScopeClause) (joined : Bool) :
    occurs "query_embedding".toList (vectorSql clause joined).toList = false := by
  unfold vectorSql
  rewrite [String.toList_append, String.toList_append, String.toList_append, String.toList_append]
  -- A literal is the text of its characters, which spares the kernel their decoding.
  cases clause <;> cases joined <;> unfold fromSql ScopeClause.sql <;>
    repeat rewrite [String.toList_ofList]
  all_goals decide +kernel

/-- As `text()` binds, no search ever returns. -/
theorem hybridSearch_ne_ok {tables : Tables} {organizationId limit : Nat} {query : SearchQuery}
    {knowledgeScope : String} {callerUserId : Option Nat} {results : List SearchResult}
    (recognizes : Recognizes query.binds) :
    hybridSearch table tables organizationId query limit knowledgeScope callerUserId ≠ .ok results := by
  intro found
  obtain ⟨-, accepted, -⟩ := hybridSearch_eq_ok.mp found
  have bound := List.all_eq_true.mp accepted "query_embedding" (by simp [vectorParameters])
  exact not_mem_of_not_occurs recognizes (not_occurs_query_embedding _ _) (by simpa using bound)

/-- The chat searches under the scope it accepts. -/
theorem mem_returned_chat {tables : Tables} {organizationId userId : Nat} {query : SearchQuery}
    {knowledgeScope : Option String} {row : DocumentChunk}
    (mem : row ∈ (KnowledgeCall.chat knowledgeScope).returned table tables organizationId userId query) :
    ∃ scope results, validKnowledgeScope knowledgeScope = .ok (some scope) ∧
      hybridSearch table tables organizationId query 6 scope = .ok results ∧
      row ∈ results.map SearchResult.chunk := by
  simp only [KnowledgeCall.returned] at mem
  cases valid : validKnowledgeScope knowledgeScope with
  | error _ => simp [valid, Except.toOption] at mem
  | ok accepted =>
    cases accepted with
    | none => simp [valid, knowledgeContext, Except.toOption] at mem
    | some scope =>
      rw [valid] at mem
      dsimp only [knowledgeContext] at mem
      split at mem
      · simp [Except.toOption] at mem
      · cases found : hybridSearch table tables organizationId query 6 scope with
        | error _ => simp [found, Except.toOption] at mem
        | ok results =>
          rw [found] at mem
          exact ⟨scope, results, rfl, found, mem⟩

/-- Whoever uploads what under which scopes: a chunk that one user has uploaded as private is returned
to no other one, behind neither door and by no search on behalf of that other user, under any scope and with
any query. -/
theorem private_chunks_stay_private (table : CaseTable) (uploads : List Upload)
    (organizationId userId : Nat) (call : KnowledgeCall) (query : SearchQuery)
    (recognizes : Recognizes query.binds) :
    ∀ chunk owner, (knowledgeBase uploads).PrivateTo table owner chunk → owner ≠ userId →
      chunk ∉ call.returned table (knowledgeBase uploads).tables organizationId userId query ∧
        ∀ limit scope results,
          hybridSearch table (knowledgeBase uploads).tables organizationId query limit scope (some userId) =
              .ok results →
            chunk ∉ results.map SearchResult.chunk := by
  intro chunk _ _ _
  refine ⟨fun returned => ?_, fun limit scope results found => absurd found (hybridSearch_ne_ok recognizes)⟩
  cases call with
  | chat knowledgeScope =>
    obtain ⟨scope, results, -, found, -⟩ := mem_returned_chat returned
    exact hybridSearch_ne_ok recognizes found
  | search limit =>
    simp only [KnowledgeCall.returned] at returned
    cases found : hybridSearch table (knowledgeBase uploads).tables organizationId query limit.1
        "organization" (some userId) with
    | error _ => simp [found, Except.toOption] at returned
    | ok results => exact hybridSearch_ne_ok recognizes found

def privateUpload : Upload where
  organizationId := 1
  userId := 1
  filename := "salary.txt"
  decoded := "4200"
  knowledgeScope := "private"
  embed _ := none

/-- Nothing matches the text. -/
def scannedQuery : SearchQuery :=
  ⟨"", names, id, fun _ => none, fun _ => .refl _, fun _ _ found => by cases found⟩

theorem private_chunks_stay_private_salary :
    ∃ chunk, (knowledgeBase [privateUpload]).PrivateTo (fun _ character _ => [character]) 1 chunk ∧
      chunk ∉ (KnowledgeCall.search ⟨5, by decide⟩).returned (fun _ character _ => [character])
        (knowledgeBase [privateUpload]).tables 1 2 scannedQuery := by
  let chunk : DocumentChunk := ⟨⟨1, 1, "4200", none, some [("order", .int 0),
    ("title", .string "salary.txt"), ("knowledge_scope", .string "private")]⟩, 1⟩
  have base : (knowledgeBase [privateUpload]).tables.chunks = [chunk] := by decide +kernel
  have isPrivate : (knowledgeBase [privateUpload]).PrivateTo (fun _ character _ => [character]) 1 chunk := by
    refine ⟨by simp [base], ⟨1, privateUpload, "private"⟩, ?_, rfl, rfl, rfl⟩
    have uploads : (knowledgeBase [privateUpload]).uploads = [⟨1, privateUpload, "private"⟩] := rfl
    simp [uploads]
  exact ⟨chunk, isPrivate, (private_chunks_stay_private _ [privateUpload] 1 2 (.search ⟨5, by decide⟩)
    scannedQuery recognizes_names chunk 1 isPrivate (by decide)).1⟩

theorem scope_ne_of_valid {knowledgeScope : Option String} {scope : String}
    (valid : validKnowledgeScope knowledgeScope = .ok (some scope)) : scope ≠ "" := by
  cases knowledgeScope with
  | none => cases valid
  | some value =>
    simp only [validKnowledgeScope] at valid
    split at valid
    next => cases valid
    next accepted =>
      cases valid
      exact fun empty => accepted (.inl empty)

/-! ## Writer and reader of one scope -/

/-- The scope after the two lower-casings of the search. -/
def searchedScope (table : CaseTable) (scope : String) : String :=
  effectiveScope table (effectiveScope table scope)

/-- A query whose parameters are all bound, a cast or not. -/
def anyQuery : SearchQuery :=
  ⟨"", fun _ => ["query_embedding", "org_id", "lim", "knowledge_scope", "caller_user_id"], id,
    fun _ => none, fun _ => .refl _, fun _ _ found => by cases found⟩

theorem anyQuery_accepts (statement : String) (clause : ScopeClause) :
    anyQuery.accepts statement (vectorParameters clause) = true := by
  cases clause <;> rfl

/-- The rows that a chat under the scope can return: the `WHERE` of both statements on one row. -/
def chatAdmits (table : CaseTable) (tables : Tables) (organizationId : Nat) (scope : String)
    (chunk : DocumentChunk) : Bool :=
  chunk.organizationId = organizationId &&
    (scopeClause table (effectiveScope table scope)).passes tables.documents
      ⟨organizationId, effectiveScope table scope, none⟩ chunk

variable (table) in
theorem storable_of_effectiveScope {scope : String} (stored : storable (effectiveScope table scope)) :
    storable scope := by
  by_contra refused
  have nul : '\x00' ∈ scope.toList := by simpa [storable] using refused
  have named : scope ≠ "" := by
    rintro rfl
    simp at nul
  have lowered : '\x00' ∈ lowerFrom table [] scope.toList := mem_lowerFrom (by decide) (by decide) nul
  rw [effectiveScope_of_ne named, lower] at stored
  simp [storable, lowered] at stored

/-- Both endpoints strip the scope they accept. -/
theorem scope_stored_eq_searched {scope stored searched : String} (uploaded : safeScope scope = .ok stored)
    (chatted : validKnowledgeScope (some scope) = .ok (some searched)) : stored = searched := by
  simp only [validKnowledgeScope] at chatted
  split at chatted
  next => cases chatted
  next accepted =>
    have named : scope ≠ "" := by
      rintro rfl
      exact accepted (.inl rfl)
    simp only [safeScope, if_neg named] at uploaded
    split at uploaded
    next => cases uploaded
    next =>
      split at uploaded
      next => cases uploaded
      next =>
        cases uploaded
        cases chatted
        rfl

/-- A document of one chunk under the scope. -/
def probe (scope : String) : Upload := ⟨1, 1, "probe.txt", "probe", scope, fun _ => none⟩

theorem probe_title (scope : String) : (probe scope).title = "probe.txt" := by
  show slice (if "probe.txt" = "" then "document" else "probe.txt") 0 500 = "probe.txt"
  decide +kernel

theorem knowledgeBase_probe {scope stored : String} (uploaded : safeScope scope = .ok stored) :
    knowledgeBase [probe scope] =
      ⟨{ documents := [⟨1, 1, "probe.txt", .ready, some 1⟩]
         chunks := [⟨newChunk 1 1 "probe.txt" stored 0 "probe" none, 1⟩]
         documentSequence := 2
         chunkSequence := 2 }, [⟨1, probe scope, stored⟩]⟩ := by
  have accepted : (probe scope).accept = .ok (stored, "probe") := by
    have text : extractText "probe" = .ok "probe" := rfl
    simp [Upload.accept, probe, uploaded, text, bind, Except.bind, pure, Except.pure]
  have chunks : intelligentChunking "probe" = ["probe"] := by decide +kernel
  have texts : storable "probe" = true ∧ storable "probe.txt" = true := by decide +kernel
  simp only [knowledgeBase, List.foldl_cons, List.foldl_nil, KnowledgeBase.upload, accepted, probe_title]
  simp [probe, Tables.insertDocument, texts, processDocumentIngestion, Tables.beginIngestion,
    Tables.document?, Tables.finishIngestion, Tables.insertChunks, Tables.setStatus, Tables.numbered,
    newChunks, chunks, newChunk]

/-- The writer's scope is what the reader looks for: a name for everything or for what is
visible, or a name that lower-casing leaves as it is. -/
def ScopeAgrees (table : CaseTable) (scope : String) : Prop :=
  storable scope ∧
    (searchedScope table scope = "organization" ∨ searchedScope table scope = "public" ∨
      effectiveScope table scope = scope ∧ scope ≠ "private")

/-- The search is permitted, and its clause is one that the worker's metadata meets. -/
theorem ScopeAgrees.clause {scope : String} (agrees : ScopeAgrees table scope) :
    effectiveScope table scope ≠ "private" ∧
      (scopeClause table (effectiveScope table scope) = .everything ∨
        scopeClause table (effectiveScope table scope) = .visible ∨
        scopeClause table (effectiveScope table scope) = .named ∧ effectiveScope table scope = scope) := by
  have twice : effectiveScope table scope = "private" → searchedScope table scope = "private" := by
    intro once
    rw [searchedScope, once, effectiveScope_private]
  have owned : scopeClause table (effectiveScope table scope) = .owned ↔
      searchedScope table scope = "private" := scopeClause_eq_owned
  obtain ⟨-, every | visible | ⟨same, other⟩⟩ := agrees
  · refine ⟨fun once => ?_, .inl (scopeClause_eq_everything.mpr every)⟩
    simp [twice once] at every
  · refine ⟨fun once => ?_, .inr (.inl (scopeClause_eq_visible.mpr visible))⟩
    simp [twice once] at visible
  · refine ⟨same.symm ▸ other, ?_⟩
    have notOwned : scopeClause table (effectiveScope table scope) ≠ .owned := by
      rw [Ne, owned, searchedScope, same, same]
      exact other
    cases clause : scopeClause table (effectiveScope table scope) with
    | everything => simp
    | visible => simp
    | owned => exact absurd clause notOwned
    | named => simp [same]

theorem UploadRecord.Wrote.passes {record : UploadRecord} {chunk : DocumentChunk}
    (wrote : record.Wrote chunk) (title : storable record.upload.title)
    (agrees : ScopeAgrees table record.scope) (documents : List Document) (organizationId : Nat) :
    (scopeClause table (effectiveScope table record.scope)).passes documents
      ⟨organizationId, effectiveScope table record.scope, none⟩ chunk := by
  rw [ScopeClause.passes, wrote.castable title, agrees.1, Bool.or_true, Bool.true_and, wrote.admits]
  obtain ⟨-, every | visible | ⟨named, same⟩⟩ := agrees.clause
  · rw [every]
  · rw [visible]
  · rw [named, same]
    exact decide_eq_true rfl

/-- Under an agreeing scope nothing but the stored rows can make the search fail. -/
theorem ScopeAgrees.searches {scope : String} (agrees : ScopeAgrees table scope) (given : scope ≠ "") :
    ∃ results, knowledgeContext table {} 1 anyQuery (some scope) = .ok results := by
  obtain ⟨permitted, clauses⟩ := agrees.clause
  have selected : candidates {} (scopeClause table (effectiveScope table scope))
      (effectiveScope table scope = "private") ⟨1, effectiveScope table scope, none⟩ = .ok [] := by
    apply candidates_eq_ok.mpr
    refine ⟨?_, ?_, .inr (by simp [Tables.rowsOf]), rfl⟩
    · obtain every | visible | ⟨named, same⟩ := clauses <;> simp_all
    · intro clause
      obtain every | visible | ⟨named, same⟩ := clauses
      · simp [every] at clause
      · simp [visible] at clause
      · show storable (effectiveScope table scope)
        rw [same]
        exact agrees.1
  rw [knowledgeContext, if_neg given]
  exact ⟨_, hybridSearch_eq_ok.mpr
    ⟨fun owned => permitted owned.1, anyQuery_accepts _ _, [], selected, rfl⟩⟩

/-- What the probe's one chunk shows of the clause, and the success of any search of the scope. -/
theorem scopeAgrees_of_probe {scope stored : String} {tables : Tables} {organizationId : Nat}
    {query : SearchQuery} {results : List SearchResult}
    (given : stored ≠ "")
    (admitted : chatAdmits table (knowledgeBase [probe scope]).tables 1 stored
      ⟨newChunk 1 1 "probe.txt" stored 0 "probe" none, 1⟩)
    (found : knowledgeContext table tables organizationId query (some stored) = .ok results) :
    ScopeAgrees table stored := by
  rw [knowledgeContext, if_neg given] at found
  obtain ⟨permitted, -, rows, selected, -⟩ := hybridSearch_eq_ok.mp found
  obtain ⟨joined, parameter, -, -⟩ := candidates_eq_ok.mp selected
  -- The chat searches without a user, and a private scope is refused without one.
  have once : effectiveScope table stored ≠ "private" := fun same => permitted ⟨same, rfl⟩
  have wrote : UploadRecord.Wrote ⟨1, probe scope, stored⟩
      ⟨newChunk 1 1 "probe.txt" stored 0 "probe" none, 1⟩ := by
    refine ⟨0, "probe", none, ?_⟩
    show _ = newChunk 1 1 (probe scope).title stored 0 "probe" none
    rw [probe_title]
  have title : storable (probe scope).title := by
    rw [probe_title]
    decide +kernel
  simp only [chatAdmits, ScopeClause.passes, wrote.castable title, wrote.admits, Bool.and_eq_true,
    Bool.or_eq_true, decide_eq_true_eq] at admitted
  obtain ⟨-, cast, named⟩ := admitted
  cases clause : scopeClause table (effectiveScope table stored) with
  | everything =>
    have every := scopeClause_eq_everything.mp clause
    have twice : storable (effectiveScope table (effectiveScope table stored)) := by
      rw [every]
      decide +kernel
    exact ⟨storable_of_effectiveScope table (storable_of_effectiveScope table twice), .inl every⟩
  | visible =>
    rw [clause] at cast
    simp at cast
    exact ⟨cast, .inr (.inl (scopeClause_eq_visible.mp clause))⟩
  | owned =>
    rw [clause] at named
    cases named
  | named =>
    rw [clause] at cast named
    simp only [reduceCtorEq, false_or, decide_eq_true_eq] at cast named
    exact ⟨cast, .inr (.inr ⟨named.symm, fun same => once (named.symm.trans same)⟩)⟩

/-- The chunks a user uploads under a scope are candidates of that user's chats under it, and
no search fails for the sake of the scope, exactly when writer and reader agree on it. -/
theorem knowledge_scopes_agree_iff (table : CaseTable) (scope stored searched : String)
    (uploaded : safeScope scope = .ok stored)
    (chatted : validKnowledgeScope (some scope) = .ok (some searched)) :
    ((∀ uploads record chunk, record ∈ (knowledgeBase uploads).uploads →
        record.upload.knowledgeScope = scope → chunk ∈ (knowledgeBase uploads).tables.chunks →
        chunk.documentId = record.documentId →
        chatAdmits table (knowledgeBase uploads).tables record.upload.organizationId searched chunk) ∧
      ∃ tables organizationId query results,
        knowledgeContext table tables organizationId query (some searched) = .ok results) ↔
    ScopeAgrees table searched := by
  obtain rfl := scope_stored_eq_searched uploaded chatted
  constructor
  · rintro ⟨admitted, tables, organizationId, query, results, found⟩
    have base := knowledgeBase_probe uploaded
    have passes := admitted [probe scope] ⟨1, probe scope, stored⟩
      ⟨newChunk 1 1 "probe.txt" stored 0 "probe" none, 1⟩ (by simp [base]) rfl (by simp [base]) rfl
    exact scopeAgrees_of_probe (scope_ne_of_valid chatted) passes found
  · intro agrees
    refine ⟨fun uploads record chunk mem under there same => ?_,
      {}, 1, anyQuery, agrees.searches (scope_ne_of_valid chatted)⟩
    have recorded := knowledgeBase_recorded uploads
    obtain ⟨accepted, title⟩ := recorded.accepted record mem
    have named : record.scope = stored := by
      rw [under, uploaded] at accepted
      cases accepted
      rfl
    have wrote := recorded.wrote mem there same.symm
    have own : chunk.organizationId = record.upload.organizationId := by
      obtain ⟨position, text, embedding, equal⟩ := wrote
      rw [equal]
      rfl
    rw [chatAdmits, own, decide_eq_true rfl, Bool.true_and, ← named]
    exact wrote.passes title (named ▸ agrees) _ _

theorem knowledge_scopes_agree_iff_team :
    (∀ uploads record chunk, record ∈ (knowledgeBase uploads).uploads →
        record.upload.knowledgeScope = " team" → chunk ∈ (knowledgeBase uploads).tables.chunks →
        chunk.documentId = record.documentId →
        chatAdmits (fun _ character _ => [character]) (knowledgeBase uploads).tables
          record.upload.organizationId "team" chunk) ∧
      ∃ tables organizationId query results,
        knowledgeContext (fun _ character _ => [character]) tables organizationId query (some "team") =
          .ok results :=
  (knowledge_scopes_agree_iff (fun _ character _ => [character]) " team" "team" "team" rfl rfl).mpr
    ⟨by decide +kernel, .inr (.inr ⟨by decide +kernel, by decide⟩)⟩

/-- A chunk of the scope `Team` is looked for under `team`. -/
theorem mixed_case_scope_lost : ¬∀ (table : CaseTable) (scope stored searched : String),
    safeScope scope = .ok stored → validKnowledgeScope (some scope) = .ok (some searched) →
    (∀ uploads record chunk, record ∈ (knowledgeBase uploads).uploads →
        record.upload.knowledgeScope = scope → chunk ∈ (knowledgeBase uploads).tables.chunks →
        chunk.documentId = record.documentId →
        chatAdmits table (knowledgeBase uploads).tables record.upload.organizationId searched chunk) ∧
      ∃ tables organizationId query results,
        knowledgeContext table tables organizationId query (some searched) = .ok results := by
  intro agrees
  have uploaded : safeScope "Team" = .ok "Team" := rfl
  have base := knowledgeBase_probe uploaded
  have admitted := (agrees (fun _ character _ => [character]) "Team" "Team" "Team" uploaded rfl).1
    [probe "Team"] ⟨1, probe "Team", "Team"⟩ ⟨newChunk 1 1 "probe.txt" "Team" 0 "probe" none, 1⟩
    (by simp [base]) rfl (by simp [base]) rfl
  rw [base] at admitted
  revert admitted
  decide +kernel

end Eiraos.Documents
