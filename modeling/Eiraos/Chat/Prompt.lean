import Eiraos.Providers.Requests
import Eiraos.Context.Compaction
import Eiraos.Context.Envelope
import Eiraos.Documents.Scopes
import Eiraos.Foundations.OrderedRows

/-! # The prompt of a chat (`api/v1/chat.py`, `prepare_provider`)

What is read from the database for one request, and the conversation that is sent upstream.
-/

namespace Eiraos

open PythonText Context OrderedRows

/-! ## The database -/

/-- A row of `messages`. -/
structure MessageRow where
  id : Nat
  conversationId : Nat
  organizationId : Nat
  executionId : Option String
  role : String
  content : String
  status : String
  createdAt : Nat
  deriving DecidableEq, Repr

/-- The messages, and the documents with their chunks. -/
structure ChatWorld where
  messages : List MessageRow
  tables : Documents.Tables

/-! ## The request -/

/-- What is known of a request once it is authorized and persisted. -/
structure ChatPrompt where
  organizationId : Nat
  conversationId : Nat
  executionId : Option String
  provider : String
  model : String
  botPrompt : Option String
  prompt : String
  knowledgeScope : Option String
  deriving DecidableEq, Repr

/-- What the request runs on: the letter case, the digest of the compactor, the text of a
chunk's metadata, and the search, or why the prompt has no embedding.  The search orders the rows that
it is given, so ties are broken by these rows alone. -/
structure PromptRuntime where
  table : CaseTable
  sha256 : String → String
  metadataText : Documents.ChunkMetadata → String
  search : Except String Documents.SearchQuery

inductive PrepareError where
  | embedding (text : String)
  | search (error : Documents.SearchError)
  | conflict (text : String)
  | provider (error : ProviderError)
  | context (text : String)
  deriving DecidableEq, Repr

/-- The `WHERE` of the history, up to the execution that asks. -/
def MessageRow.ownedBy (row : MessageRow) (request : ChatPrompt) : Bool :=
  row.conversationId = request.conversationId && row.organizationId = request.organizationId

def MessageRow.isHistory (row : MessageRow) (request : ChatPrompt) : Bool :=
  row.ownedBy request && row.status = "completed" && (row.role = "user" || row.role = "assistant") &&
    (row.executionId = none || row.executionId ≠ request.executionId)

/-- `ORDER BY created_at DESC, id DESC`. -/
def MessageRow.newestFirst (left right : MessageRow) : Prop :=
  right.createdAt < left.createdAt ∨ left.createdAt = right.createdAt ∧ right.id ≤ left.id

instance : DecidableRel MessageRow.newestFirst := fun _ _ => inferInstanceAs (Decidable (_ ∨ _))

def history (messages : List MessageRow) (request : ChatPrompt) : List MessageRow :=
  ((messages.filter fun row => row.isHistory request).insertionSort MessageRow.newestFirst).take 200

def MessageRow.item (row : MessageRow) : HistoryItem :=
  ⟨some row.id, some row.role, some row.content, some row.status⟩

/-- `_combined_system_prompt`. -/
def combinedSystemPrompt (botPrompt knowledgeContext : Option String) : Option String :=
  let parts := [botPrompt, knowledgeContext].filterMap normalizedContent
  if parts.isEmpty then none else some (join "\n\n" parts)

def retrievalResult (metadataText : Documents.ChunkMetadata → String) (result : Documents.SearchResult) :
    RetrievalResult :=
  ⟨some result.chunk.content, result.chunk.metadata.map metadataText⟩

def chatPolicy (contextWindowTokens : Nat) : PolicyArguments where
  contextWindowTokens
  reservedOutputTokens := 1000
  maxHistoryTokens := 8000
  maxHistoryMessages := 40
  maxSourceMessages := 200
  maxCompactionTokens := 1000
  charsPerToken := 4

/-- The constructor of `ContextPolicy`. -/
def contextPolicy (arguments : PolicyArguments) : Except String ContextPolicy :=
  match accepted : arguments.postInit with
  | .ok () => .ok ⟨arguments, accepted⟩
  | .error text => .error text

def chatMessage (message : ContextMessage) : ChatMessage := ⟨message.role.text, message.content⟩

section

variable (runtime : PromptRuntime) (world : ChatWorld) (request : ChatPrompt)

/-- `_knowledge_context`. -/
def knowledgeText : Except PrepareError (Option String) :=
  if request.knowledgeScope.getD "" = "" then .ok none
  else do
    let query ← runtime.search.mapError .embedding
    let results ← (Documents.knowledgeContext runtime.table world.tables request.organizationId query
      request.knowledgeScope).mapError .search
    return buildKnowledgeSystemContext (results.map (retrievalResult runtime.metadataText))

/-- `prepare_provider`, apart from the provider itself. -/
def prepareContext : Except PrepareError ProviderContext := do
  let knowledge ← knowledgeText runtime world request
  let systemPrompt := combinedSystemPrompt request.botPrompt knowledge
  Guarded.ensure (request.executionId ≠ none)
    (.conflict "execution persistence is missing before context construction")
  let metadata ← (modelMetadata runtime.table request.provider request.model).mapError .provider
  let policy ← (contextPolicy (chatPolicy metadata.contextWindowTokens)).mapError .context
  let context ← (policy.build runtime.sha256 ((history world.messages request).map MessageRow.item)
    request.prompt systemPrompt).mapError .context
  return ⟨context.messages.map chatMessage, context.systemPrompt⟩

end

/-! ## What another tenant cannot change -/

instance : Std.Total MessageRow.newestFirst where
  total left right := by
    simp only [MessageRow.newestFirst]
    omega

instance : IsTrans MessageRow MessageRow.newestFirst where
  trans first second third earlier later := by
    simp only [MessageRow.newestFirst] at *
    omega

/-- The worlds hold the same messages of the request's conversation, and the same chunks of its
organization. -/
structure SameTenant (request : ChatPrompt) (world other : ChatWorld) : Prop where
  messages : (world.messages.filter fun row => row.ownedBy request).Perm
    (other.messages.filter fun row => row.ownedBy request)
  chunks : world.tables.rowsOf request.organizationId = other.tables.rowsOf request.organizationId

theorem history_congr {request : ChatPrompt} {messages others : List MessageRow}
    (keys : (messages.map MessageRow.id).Nodup)
    (same : (messages.filter fun row => row.ownedBy request).Perm
      (others.filter fun row => row.ownedBy request)) :
    history messages request = history others request := by
  have narrowed : ∀ rows : List MessageRow, rows.filter (fun row => row.isHistory request) =
      (rows.filter fun row => row.ownedBy request).filter fun row => row.isHistory request := by
    intro rows
    rw [List.filter_filter]
    refine List.filter_congr fun row _ => ?_
    by_cases own : row.ownedBy request <;> simp [MessageRow.isHistory, own]
  have perm : (messages.filter fun row => row.isHistory request).Perm
      (others.filter fun row => row.isHistory request) := by
    rw [narrowed messages, narrowed others]
    exact same.filter _
  -- The ids are a primary key, so the order leaves one answer.
  have apart : ∀ left ∈ messages, ∀ right ∈ messages, left.newestFirst right → right.newestFirst left →
      left = right := by
    intro left leftMem right rightMem before after
    refine List.inj_on_of_nodup_map keys leftMem rightMem ?_
    simp only [MessageRow.newestFirst] at before after
    omega
  have sorted : ∀ rows : List MessageRow,
      Answers MessageRow.newestFirst rows (rows.insertionSort MessageRow.newestFirst) :=
    answers_insertionSort
  have unique := (sorted (messages.filter fun row => row.isHistory request)).unique
    ((sorted _).of_perm perm.symm) fun left leftMem right rightMem =>
      apart left (List.mem_of_mem_filter leftMem) right (List.mem_of_mem_filter rightMem)
  rw [history, history, unique]

theorem admits_congr {clause : Documents.ScopeClause} (unowned : clause ≠ .owned)
    (documents others : List Documents.Document) (parameters : Documents.SearchParameters) :
    clause.admits documents parameters = clause.admits others parameters := by
  cases clause with
  | owned => exact absurd rfl unowned
  | _ => rfl

/-- A clause on the owner is refused without the join, every other one reads chunks only. -/
theorem candidates_congr {clause : Documents.ScopeClause} {tables others : Documents.Tables}
    {parameters : Documents.SearchParameters}
    (same : tables.rowsOf parameters.organizationId = others.rowsOf parameters.organizationId) :
    Documents.candidates tables clause false parameters = Documents.candidates others clause false parameters := by
  by_cases owned : clause = .owned
  · simp [Documents.candidates, owned]
  · rw [Documents.candidates, Documents.candidates, same,
      admits_congr owned tables.documents others.documents parameters]

/-- Without a caller the search reads nothing but the chunks of the organization. -/
theorem hybridSearch_congr {table : CaseTable} {tables others : Documents.Tables} {organizationId limit : Nat}
    {query : Documents.SearchQuery} {scope : String}
    (same : tables.rowsOf organizationId = others.rowsOf organizationId) :
    Documents.hybridSearch table tables organizationId query limit scope =
      Documents.hybridSearch table others organizationId query limit scope := by
  by_cases owned : Documents.effectiveScope table scope = "private"
  · simp [Documents.hybridSearch, owned, Guarded.ensure, bind, Except.bind]
  · simp only [Documents.hybridSearch, decide_eq_false owned]
    rw [candidates_congr same]

theorem knowledgeText_congr {runtime : PromptRuntime} {world other : ChatWorld} {request : ChatPrompt}
    (same : world.tables.rowsOf request.organizationId = other.tables.rowsOf request.organizationId) :
    knowledgeText runtime world request = knowledgeText runtime other request := by
  have found : ∀ query, Documents.knowledgeContext runtime.table world.tables request.organizationId query
      request.knowledgeScope = Documents.knowledgeContext runtime.table other.tables request.organizationId
        query request.knowledgeScope := by
    intro query
    cases request.knowledgeScope with
    | none => rfl
    | some scope => simp only [Documents.knowledgeContext, hybridSearch_congr same]
  simp only [knowledgeText, found]

/-- Whatever the other tenants, the other conversations of the organization and the documents
of others hold, the request that is sent upstream stays the same.  The order that the two databases give
to rows is theirs, apart from ties: these are broken by one function of the rows that were selected. -/
theorem prompt_within_tenant (runtime : PromptRuntime) (request : ChatPrompt) (world other : ChatWorld)
    (keys : (world.messages.map MessageRow.id).Nodup) (same : SameTenant request world other) :
    prepareContext runtime world request = prepareContext runtime other request := by
  rw [prepareContext, prepareContext, knowledgeText_congr same.chunks, history_congr keys same.messages]

def tideRuntime : PromptRuntime where
  table := fun _ character _ => [character]
  sha256 := fun _ => ""
  metadataText := fun _ => ""
  search := .ok Documents.anyQuery

def tideMessages : List MessageRow :=
  [⟨1, 1, 1, none, "user", " When is low tide? ", "completed", 1⟩,
    ⟨2, 1, 1, none, "assistant", "At six.", "completed", 1⟩,
    ⟨3, 1, 1, some "running", "user", "And high tide?", "completed", 2⟩]

/-- A message of another organization. -/
def foreignMessage : MessageRow := ⟨4, 1, 2, none, "user", "Our takings", "completed", 3⟩

def tideTables : Documents.Tables where
  documents := [⟨1, 1, "tides.txt", .ready, some 1⟩]
  chunks := [⟨⟨1, 1, "High tide is at noon.", none, none⟩, 1⟩]

/-- A document of another organization comes first. -/
def foreignTables : Documents.Tables where
  documents := ⟨2, 2, "takings.txt", .ready, some 2⟩ :: tideTables.documents
  chunks := ⟨⟨2, 2, "Our takings", none, none⟩, 2⟩ :: tideTables.chunks

def tideRequest : ChatPrompt where
  organizationId := 1
  conversationId := 1
  executionId := some "running"
  provider := "openai"
  model := "gpt-4o"
  botPrompt := some "Be brief."
  prompt := "And high tide?"
  knowledgeScope := some "organization"

theorem prompt_within_tenant_tide :
    prepareContext tideRuntime ⟨foreignMessage :: tideMessages, foreignTables⟩ tideRequest =
        prepareContext tideRuntime ⟨tideMessages, tideTables⟩ tideRequest ∧
      (Documents.knowledgeContext tideRuntime.table tideTables 1 Documents.anyQuery
        tideRequest.knowledgeScope).toOption.map (List.map (·.chunk.content)) =
          some ["High tide is at noon."] :=
  ⟨prompt_within_tenant tideRuntime tideRequest ⟨foreignMessage :: tideMessages, foreignTables⟩
    ⟨tideMessages, tideTables⟩ (by decide) ⟨by decide, rfl⟩, by decide +kernel⟩

/-! ## What the provider reads -/

/-- A turn of the conversation as it is sent. -/
def MessageRow.turn (row : MessageRow) : ChatMessage := ⟨row.role, strip row.content⟩

/-- The turns there are to send, oldest first: the stored ones that are not blank. -/
def storedTurns (messages : List MessageRow) (request : ChatPrompt) : List ChatMessage :=
  ((history messages request).reverse.filter fun row => strip row.content ≠ "").map MessageRow.turn

theorem mem_history {messages : List MessageRow} {request : ChatPrompt} {row : MessageRow}
    (mem : row ∈ history messages request) : row ∈ messages ∧ row.isHistory request := by
  have sorted := List.mem_of_mem_take mem
  rw [List.mem_insertionSort] at sorted
  exact List.mem_filter.mp sorted

theorem parse?_text {role : String} {parsed : MessageRole} (known : MessageRole.parse? role = some parsed) :
    parsed.text = role := by
  unfold MessageRole.parse? at known
  split at known
  next user =>
    cases known
    exact user.symm
  next =>
    split at known
    next assistant =>
      cases known
      exact assistant.symm
    next => cases known

/-- A completed row of a turn is eligible unless it is blank, and is sent as its turn. -/
theorem entryOf_row {policy : ContextPolicy} {row : MessageRow} (completed : row.status = "completed")
    (role : row.role = "user" ∨ row.role = "assistant") :
    (policy.entryOf row.item).map (fun entry => chatMessage entry.message) =
      if strip row.content ≠ "" then some row.turn else none := by
  obtain ⟨parsed, known⟩ : ∃ parsed, MessageRole.parse? row.role = some parsed := by
    rcases role with role | role <;> rw [role]
    · exact ⟨.user, rfl⟩
    · exact ⟨.assistant, rfl⟩
  rw [ContextPolicy.entryOf, if_pos (by rw [MessageRow.item, completed])]
  simp only [MessageRow.item, Option.bind_some, known, bind, normalizedContent]
  by_cases blank : strip row.content = ""
  · simp [blank]
  · simp [blank, chatMessage, EligibleMessage.message, MessageRow.turn, parse?_text known]

theorem eligible_rows {policy : ContextPolicy} {rows : List MessageRow}
    (window : rows.length ≤ policy.sourceMessages)
    (turns : ∀ row ∈ rows, row.status = "completed" ∧ (row.role = "user" ∨ row.role = "assistant")) :
    (policy.eligible (rows.map MessageRow.item)).map (fun entry => chatMessage entry.message) =
      (rows.filter fun row => strip row.content ≠ "").map MessageRow.turn := by
  have whole : (rows.map MessageRow.item).take policy.sourceMessages = rows.map MessageRow.item :=
    List.take_of_length_le (by rwa [List.length_map])
  show (((rows.map MessageRow.item).take policy.sourceMessages).filterMap policy.entryOf).map _ = _
  rw [whole, List.map_filterMap, List.filterMap_map, ← List.filterMap_eq_map, List.filterMap_filter]
  refine List.filterMap_congr fun row mem => ?_
  rw [Function.comp_apply, entryOf_row (turns row mem).1 (turns row mem).2]
  by_cases blank : strip row.content = "" <;> simp [blank]

theorem contextPolicy_eq_ok {arguments : PolicyArguments} {policy : ContextPolicy}
    (made : contextPolicy arguments = .ok policy) : policy.toPolicyArguments = arguments := by
  unfold contextPolicy at made
  split at made
  · cases made
    rfl
  · cases made

/-- What a prepared context was built from. -/
theorem prepareContext_eq_ok {runtime : PromptRuntime} {world : ChatWorld} {request : ChatPrompt}
    {context : ProviderContext} (prepared : prepareContext runtime world request = .ok context) :
    ∃ (knowledge : Option String) (policy : ContextPolicy) (built : ConstructedContext),
      knowledgeText runtime world request = .ok knowledge ∧
      (∃ metadata, modelMetadata runtime.table request.provider request.model = .ok metadata ∧
        policy.toPolicyArguments = chatPolicy metadata.contextWindowTokens) ∧
      policy.build runtime.sha256 ((history world.messages request).map MessageRow.item) request.prompt
        (combinedSystemPrompt request.botPrompt knowledge) = .ok built ∧
      context = ⟨built.messages.map chatMessage, built.systemPrompt⟩ := by
  obtain ⟨knowledge, found, rest⟩ := Guarded.bind_eq_ok.mp prepared
  obtain ⟨_, rest⟩ := Guarded.guard_bind_eq_ok.mp rest
  obtain ⟨metadata, described, rest⟩ := Guarded.bind_eq_ok.mp rest
  obtain ⟨policy, made, rest⟩ := Guarded.bind_eq_ok.mp rest
  obtain ⟨built, building, rest⟩ := Guarded.bind_eq_ok.mp rest
  have arguments := contextPolicy_eq_ok (Guarded.mapError_eq_ok.mp made)
  exact ⟨knowledge, policy, built, found, ⟨metadata, Guarded.mapError_eq_ok.mp described, arguments⟩,
    Guarded.mapError_eq_ok.mp building, (Guarded.pure_eq_ok.mp rest).symm⟩

/-- The pieces of a selection are the stored turns, oldest first. -/
theorem parts_turns {sha256 : String → String} {policy : ContextPolicy} {messages : List MessageRow}
    {request : ChatPrompt} {budget : Nat} {selection : HistorySelection} (source : policy.sourceMessages = 200)
    (selected : Selected sha256 policy
      (policy.eligible ((history messages request).map MessageRow.item)) budget selection) :
    let parts := policy.parts (policy.eligible ((history messages request).map MessageRow.item)) budget selection
    (parts.older ++ parts.trimmed ++ selection.raw).map (fun entry => chatMessage entry.message) =
      storedTurns messages request := by
  have turns : ∀ row ∈ history messages request,
      row.status = "completed" ∧ (row.role = "user" ∨ row.role = "assistant") := by
    intro row mem
    have isHistory := (mem_history mem).2
    simp only [MessageRow.isHistory, Bool.and_eq_true, Bool.or_eq_true, decide_eq_true_eq] at isHistory
    exact ⟨isHistory.1.1.2, isHistory.1.2⟩
  have window : (history messages request).length ≤ policy.sourceMessages := by
    rw [source]
    exact List.length_take_le ..
  have sent := congrArg List.reverse (eligible_rows window turns)
  rwa [← List.map_reverse, ← List.map_reverse, ← List.filter_reverse, selected.run] at sent

/-- `f"[{role}] {content}"`. -/
def turnLine (turn : ChatMessage) : String := "[" ++ turn.role ++ "] " ++ turn.content

/-- The extract of some turns in so much room: the digest of their lines, and the lines or as much of
them as fits. -/
structure ExtractOf (sha256 : String → String) (turns : List ChatMessage) (room : Nat) (text : String) : Prop where
  present : turns ≠ []
  content : ExtractText sha256 (join "\n" (turns.map turnLine)) room text
  bounded : text.length ≤ room

/-- The characters of an extract: of 1000 tokens, or of the history's budget if that is smaller. -/
def extractRoom (policy : ContextPolicy) (request : ChatPrompt) (knowledge : Option String) : Nat :=
  min 1000 (policy.historyBudget (strip request.prompt)
    (normalizedContent (combinedSystemPrompt request.botPrompt knowledge))) * 4

/-- An artifact is the extract of the turns before the run. -/
theorem extractOf_artifact {sha256 : String → String} {policy : ContextPolicy}
    {historyNewestFirst : List HistoryItem} {budget contextWindowTokens : Nat} {selection : HistorySelection}
    (arguments : policy.toPolicyArguments = chatPolicy contextWindowTokens)
    (selected : Selected sha256 policy (policy.eligible historyNewestFirst) budget selection)
    {artifact : CompactionArtifact} (emitted : selection.artifact = some artifact) :
    ExtractOf sha256
      ((policy.parts (policy.eligible historyNewestFirst) budget selection).older.map fun entry =>
        chatMessage entry.message) (min 1000 budget * 4) artifact.content := by
  have compacted := selected.artifact_budget emitted
  rw [ContextPolicy.compactionTokens, ContextPolicy.tokenRatio, arguments] at compacted
  generalize older : (policy.parts (policy.eligible historyNewestFirst) budget selection).older = entries at compacted
  have eligible : ∀ entry ∈ entries, entry ∈ policy.eligible historyNewestFirst := by
    intro entry mem
    rw [← older] at mem
    exact List.mem_of_mem_drop (List.mem_reverse.mp mem)
  have lines : ((entries.map EligibleMessage.item).filterMap compactionSource).map (·.2) =
      (entries.map fun entry => chatMessage entry.message).map turnLine := by
    rw [sources_of_eligible eligible, List.map_map, List.map_map]
    rfl
  refine ⟨?_, ?_, ?_⟩
  · simpa using compacted.present
  · rw [← lines]
    exact compacted.content
  · have bounded := compacted.bounded
    rw [compacted.tokens] at bounded
    have characters : (artifact.content.length + 4 - 1) / 4 ≤ min 1000 budget := bounded
    omega

theorem givenPrompt_normalized (text : Option String) :
    givenPrompt (normalizedContent text) = normalizedContent text := by
  cases normalized : normalizedContent text with
  | none => rfl
  | some content =>
    obtain ⟨value, rfl, kept⟩ := Option.bind_eq_some_iff.mp normalized
    split at kept
    · cases kept
    next present =>
      cases kept
      simp [givenPrompt, present]

/-- Whichever adapter and call it goes through, the provider reads the newest turns of the conversation
that are stored as completed, whole and in order, then the prompt; and as its instructions the bot's
prompt with the knowledge found.  Of the turns left out, the last ones may be the assistant's alone; an
extract of those before them comes first, if there is one, in the room that the policy of the model gives it. -/
theorem prompt_read_upstream {runtime : PromptRuntime} {world : ChatWorld} {request : ChatPrompt}
    {context : ProviderContext} (prepared : prepareContext runtime world request = .ok context)
    (adapter : Adapter) (apiKey : String) (mode : CallMode) (model : String)
    (temperature : PythonJson.JsonValue) (maxTokens : Int) :
    ∃ (knowledge : Option String) (policy : ContextPolicy),
      knowledgeText runtime world request = .ok knowledge ∧
      (∃ metadata, modelMetadata runtime.table request.provider request.model = .ok metadata ∧
        policy.toPolicyArguments = chatPolicy metadata.contextWindowTokens) ∧
      ∃ (extract : Option String) (omitted count : Nat), omitted ≤ count ∧
        (∀ text ∈ extract, ExtractOf runtime.sha256 ((storedTurns world.messages request).take omitted)
          (extractRoom policy request knowledge) text) ∧
        (∀ turn ∈ ((storedTurns world.messages request).take count).drop omitted, turn.role = "assistant") ∧
        adapter.read (adapter.request apiKey mode ⟨context, model, temperature, maxTokens⟩) =
          some ⟨model, (extract.toList.map fun text => ⟨"user", text⟩) ++
            (storedTurns world.messages request).drop count ++ [⟨"user", strip request.prompt⟩],
            normalizedContent (combinedSystemPrompt request.botPrompt knowledge)⟩ := by
  obtain ⟨knowledge, policy, built, found, ⟨metadata, described, arguments⟩, building, rfl⟩ :=
    prepareContext_eq_ok prepared
  refine ⟨knowledge, policy, found, ⟨metadata, described, arguments⟩, ?_⟩
  unfold extractRoom
  obtain ⟨_, whole⟩ := build_eq_ok building
  have source : policy.sourceMessages = 200 := by
    rw [ContextPolicy.sourceMessages, arguments]
    rfl
  have selected := selectHistory_selected runtime.sha256 policy
    (policy.eligible ((history world.messages request).map MessageRow.item))
    (policy.historyBudget (strip request.prompt)
      (normalizedContent (combinedSystemPrompt request.botPrompt knowledge)))
  generalize policy.historyBudget (strip request.prompt)
    (normalizedContent (combinedSystemPrompt request.botPrompt knowledge)) = budget at whole selected ⊢
  generalize policy.selectHistory runtime.sha256
    (policy.eligible ((history world.messages request).map MessageRow.item)) budget = selection at whole selected
  have turns := parts_turns source selected
  have extracted := fun artifact => @extractOf_artifact _ _ _ _ _ _ arguments selected artifact
  have orphans : ∀ entry ∈ (policy.parts (policy.eligible ((history world.messages request).map MessageRow.item))
      budget selection).trimmed, entry.role = .assistant := by
    intro entry mem
    simpa [isAssistant] using List.mem_takeWhile_imp mem
  generalize policy.parts (policy.eligible ((history world.messages request).map MessageRow.item)) budget
    selection = parts at turns extracted orphans
  have conversational : Conversational ⟨built.messages.map chatMessage, built.systemPrompt⟩ := by
    intro message mem
    obtain ⟨sent, _, rfl⟩ := List.mem_map.mp mem
    cases role : sent.role <;> simp [chatMessage, role, MessageRole.text]
  simp only [List.map_append] at turns
  refine ⟨selection.artifact.map CompactionArtifact.content, parts.older.length,
    parts.older.length + parts.trimmed.length, Nat.le_add_right _ _, ?_, ?_, ?_⟩
  · intro text emitted
    obtain ⟨artifact, there, rfl⟩ := Option.map_eq_some_iff.mp emitted
    have extract := extracted artifact there
    rwa [← turns, List.append_assoc, List.take_left' (by rw [List.length_map])]
  · intro turn mem
    rw [← turns, List.take_left' (by simp), List.drop_left' (by rw [List.length_map])] at mem
    obtain ⟨entry, trimmed, rfl⟩ := List.mem_map.mp mem
    rw [chatMessage, EligibleMessage.message, orphans entry trimmed]
    rfl
  · rw [Adapter.read_request conversational, CallArguments.carried, ← turns, List.drop_left' (by simp)]
    dsimp only
    rw [whole, givenPrompt_normalized]
    simp [chatMessage, MessageRole.text, Option.toList_map, Function.comp_def]

/-- More turns than the history has room for. -/
def longConversation : List MessageRow :=
  (List.range 42).map fun number =>
    ⟨number, 1, 1, none, if number % 2 = 0 then "user" else "assistant", "Hej", "completed", number⟩

def plainRequest : ChatPrompt := { tideRequest with knowledgeScope := none }

theorem prompt_read_upstream_tide : ∃ context knowledge policy,
    prepareContext tideRuntime ⟨longConversation, {}⟩ plainRequest = .ok context ∧
    knowledgeText tideRuntime ⟨longConversation, {}⟩ plainRequest = .ok knowledge ∧
    (∃ metadata, modelMetadata tideRuntime.table plainRequest.provider plainRequest.model = .ok metadata ∧
      policy.toPolicyArguments = chatPolicy metadata.contextWindowTokens) ∧
      ∃ (extract : Option String) (omitted count : Nat), omitted ≤ count ∧
        (∀ text ∈ extract, ExtractOf tideRuntime.sha256 ((storedTurns longConversation plainRequest).take omitted)
          (extractRoom policy plainRequest knowledge) text) ∧
        (∀ turn ∈ ((storedTurns longConversation plainRequest).take count).drop omitted,
          turn.role = "assistant") ∧
        Gemini.read (Gemini.request "key" .stream ⟨context, "gemini-1.5-pro", .null, 1000⟩) =
          some ⟨"gemini-1.5-pro", (extract.toList.map fun text => ⟨"user", text⟩) ++
            (storedTurns longConversation plainRequest).drop count ++
              [⟨"user", strip plainRequest.prompt⟩],
            normalizedContent (combinedSystemPrompt plainRequest.botPrompt knowledge)⟩ := by
  have prepares : (prepareContext tideRuntime ⟨longConversation, {}⟩ plainRequest).isOk = true := by
    decide +kernel
  cases prepared : prepareContext tideRuntime ⟨longConversation, {}⟩ plainRequest with
  | error error =>
    rw [prepared] at prepares
    cases prepares
  | ok context =>
    obtain ⟨knowledge, policy, found, described, read⟩ :=
      prompt_read_upstream prepared .gemini "key" .stream "gemini-1.5-pro" .null 1000
    exact ⟨context, knowledge, policy, rfl, found, described, read⟩

end Eiraos
