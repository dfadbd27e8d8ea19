import Eiraos.Persistence.Representation

/-! # How the stages of a request spell the provider

The policy strips and lowers the provider and resolves its aliases, the factory only lowers
it, the catalog looks the model up as it is, and the accounting check compares the
normalized provider of an entry with the spelling stored on the execution.
-/

namespace Eiraos

open Guarded PythonText

/-- The provider is in the spelling the policy normalizes to. -/
def canonicalProvider (provider : String) : Bool :=
  provider ∈ ["openai", "anthropic", "google"]

/-- A primary entry that the accountant builds for the bot, estimated or reported. -/
inductive PrimaryEntry (table : CaseTable) (provider model : String) : ExecutionCost → Prop where
  | estimated {messages : List ChatMessage} {output : String} {systemPrompt : Option String}
      {entry : ExecutionCost}
      (built : account table provider model .primary messages output systemPrompt = .ok entry) :
      PrimaryEntry table provider model entry
  | reported {inputTokens outputTokens : Int} {entry : ExecutionCost}
      (built : accountReported table provider model .primary inputTokens outputTokens = .ok entry) :
      PrimaryEntry table provider model entry

/-- All stages of a request for a bot with this provider and model agree on its name: each
accepts it, and a primary entry never fails the binding check against an execution that
`prepare_exchange` stored or recovered for the bot. -/
structure StagesAgree (table : CaseTable) (provider model : String) : Prop where
  factory : ∀ apiKey, ∃ governed, getProvider table provider apiKey = .ok governed
  metadata : ∃ entry, modelMetadata table provider model = .ok entry
  estimated : ∀ operation, operation ≠ .reservation → ∀ messages output systemPrompt,
    ∃ entry, account table provider model operation messages output systemPrompt = .ok entry
  reported : ∀ operation, operation ≠ .reservation → ∀ inputTokens outputTokens : Int,
    0 ≤ inputTokens → 0 ≤ outputTokens →
      ∃ entry, accountReported table provider model operation inputTokens outputTokens = .ok entry
  bound : ∀ database history, LedgerInvariant database history →
    ∀ (storage : Storage) (request : ExchangeRequest) (now : Instant),
    request.provider = provider → request.model = model →
    ∀ persisted, (prepareExchange storage database request now).2 = .ok persisted →
    ∀ execution, (prepareExchange storage database request now).1.execution? request.executionId =
      some execution →
    ∀ accounting : List ExecutionCost,
    (∀ entry ∈ accounting, entry.operation = .primary → PrimaryEntry table provider model entry) →
    ∀ usage, recordAccounting execution [] usage accounting ≠
      .error (.conflict "primary accounting binding is invalid")

/-! ## Entries -/

theorem account_eq_ok {table : CaseTable} {provider model : String} {operation : Operation}
    {messages : List ChatMessage} {output : String} {systemPrompt : Option String}
    {entry : ExecutionCost}
    (built : account table provider model operation messages output systemPrompt = .ok entry) :
    normalizeProvider table provider = .ok entry.provider ∧ entry.model = model ∧
      entry.operation = operation ∧ catalogModel? entry.provider model ≠ none := by
  obtain ⟨⟨normalized, listed⟩, priced, rest⟩ := bind_eq_ok.mp built
  obtain ⟨named, found⟩ := pricedModel_eq_ok.mp priced
  obtain ⟨rfl, sameModel, sameOperation, _⟩ := executionCost_eq_ok rest
  exact ⟨named, sameModel, sameOperation, by simp [found]⟩

theorem account_tokens {table : CaseTable} {provider model : String} {operation : Operation}
    {messages : List ChatMessage} {output : String} {systemPrompt : Option String}
    {entry : ExecutionCost}
    (built : account table provider model operation messages output systemPrompt = .ok entry) :
    entry.totalTokens =
      (tokensOf (inputCharacters messages systemPrompt) : Int) + (tokensOf output.length : Int) := by
  obtain ⟨_, _, rest⟩ := bind_eq_ok.mp built
  exact (executionCost_eq_ok rest).2.2.2.1

theorem accountReported_eq_ok {table : CaseTable} {provider model : String} {operation : Operation}
    {inputTokens outputTokens : Int} {entry : ExecutionCost}
    (built : accountReported table provider model operation inputTokens outputTokens = .ok entry) :
    normalizeProvider table provider = .ok entry.provider ∧ entry.model = model ∧
      entry.operation = operation ∧ entry.totalTokens = inputTokens + outputTokens := by
  obtain ⟨⟨normalized, listed⟩, priced, rest⟩ := bind_eq_ok.mp built
  obtain ⟨named, _⟩ := pricedModel_eq_ok.mp priced
  obtain ⟨rfl, sameModel, sameOperation, total, _⟩ := executionCost_eq_ok rest
  exact ⟨named, sameModel, sameOperation, total⟩

theorem PrimaryEntry.spelled {table : CaseTable} {provider model : String} {entry : ExecutionCost}
    (primary : PrimaryEntry table provider model entry) :
    normalizeProvider table provider = .ok entry.provider ∧ entry.model = model ∧
      entry.operation = .primary := by
  cases primary with
  | estimated built =>
    obtain ⟨named, sameModel, sameOperation, _⟩ := account_eq_ok built
    exact ⟨named, sameModel, sameOperation⟩
  | reported built =>
    obtain ⟨named, sameModel, sameOperation, _⟩ := accountReported_eq_ok built
    exact ⟨named, sameModel, sameOperation⟩

/-- A listed model is accounted for any output, and its entry is spelled as normalized. -/
theorem account_listed {table : CaseTable} {provider model normalized : String}
    {listed : ProviderModelMetadata} {operation : Operation}
    (named : normalizeProvider table provider = .ok normalized)
    (found : catalogModel? normalized model = some listed) (supported : operation ≠ .reservation)
    (messages : List ChatMessage) (output : String) (systemPrompt : Option String) :
    ∃ entry, account table provider model operation messages output systemPrompt = .ok entry := by
  obtain ⟨entry, built⟩ := @executionCost_listed normalized model operation
    (tokensOf (inputCharacters messages systemPrompt) : Nat) (tokensOf output.length : Nat) .estimated
    listed found supported ⟨Int.natCast_nonneg _, Int.natCast_nonneg _⟩ (by decide)
  exact ⟨entry, bind_eq_ok.mpr ⟨(normalized, listed), pricedModel_eq_ok.mpr ⟨named, found⟩, built⟩⟩

theorem accountReported_listed {table : CaseTable} {provider model normalized : String}
    {listed : ProviderModelMetadata} {operation : Operation}
    (named : normalizeProvider table provider = .ok normalized)
    (found : catalogModel? normalized model = some listed) (supported : operation ≠ .reservation)
    {inputTokens outputTokens : Int} (tokensNonneg : 0 ≤ inputTokens ∧ 0 ≤ outputTokens) :
    ∃ entry, accountReported table provider model operation inputTokens outputTokens = .ok entry := by
  obtain ⟨entry, built⟩ := @executionCost_listed normalized model operation inputTokens outputTokens
    .providerReported listed found supported tokensNonneg (by decide)
  exact ⟨entry, bind_eq_ok.mpr ⟨(normalized, listed), pricedModel_eq_ok.mpr ⟨named, found⟩, built⟩⟩

/-! ## The binding check -/

/-- The binding check rejects an accounting only for a primary entry spelled differently. -/
theorem recordAccounting_unbound {execution : ChatExecution} {operations : List Operation}
    {usage : List ProviderUsageRecord} {accounting : List ExecutionCost}
    (rejected : recordAccounting execution operations usage accounting =
      .error (.conflict "primary accounting binding is invalid")) :
    ∃ entry ∈ accounting, entry.operation = .primary ∧
      ¬(entry.provider = execution.provider ∧ entry.model = execution.model) := by
  induction accounting generalizing operations usage with
  | nil => cases rejected
  | cons entry accounting inductionHypothesis =>
    by_cases fresh : entry.operation ∈ operations
    · simp [recordAccounting, ensure, fresh, bind, Except.bind] at rejected
    by_cases bound : entry.operation = .primary →
        entry.provider = execution.provider ∧ entry.model = execution.model
    · by_cases recorded : ∀ row ∈ usage, row.binding ≠ (execution.usageRow entry).binding
      · rw [recordAccounting, ensure, if_pos fresh, ensure, if_pos bound, ensure, if_pos recorded]
          at rejected
        obtain ⟨other, otherMem, mismatched⟩ := inductionHypothesis rejected
        exact ⟨other, List.mem_cons_of_mem _ otherMem, mismatched⟩
      · rw [recordAccounting, ensure, if_pos fresh, ensure, if_pos bound, ensure, if_neg recorded]
          at rejected
        exact absurd rejected (by simp [bind, Except.bind])
    · obtain ⟨primary, mismatched⟩ := Classical.not_imp.mp bound
      exact ⟨entry, List.mem_cons_self, primary, mismatched⟩

/-- A single primary entry spelled differently is rejected by the binding check. -/
theorem recordAccounting_mismatched {execution : ChatExecution} {entry : ExecutionCost}
    (primary : entry.operation = .primary) (mismatched : entry.provider ≠ execution.provider) :
    recordAccounting execution [] [] [entry] =
      .error (.conflict "primary accounting binding is invalid") := by
  have unbound : ¬(entry.operation = .primary →
      entry.provider = execution.provider ∧ entry.model = execution.model) :=
    fun bound => mismatched (bound primary).1
  rw [recordAccounting, ensure, if_pos (by simp), ensure, if_neg unbound]
  rfl

/-- The execution a successful `prepare_exchange` leaves is spelled as the request. -/
theorem prepareExchange_spelling {database : Database} {history : List LedgerEvent}
    (invariant : LedgerInvariant database history) {storage : Storage} {request : ExchangeRequest}
    {now : Instant} {persisted : PersistedChatExecution}
    (prepared : (prepareExchange storage database request now).2 = .ok persisted)
    {execution : ChatExecution}
    (found : (prepareExchange storage database request now).1.execution? request.executionId =
      some execution) :
    execution.provider = request.provider ∧ execution.model = request.model := by
  obtain ⟨member, sameId⟩ := Database.execution?_some found
  have ended := prepareExchange_ending storage database request now
  generalize prepareExchange storage database request now = ending at ended prepared member
  cases ended with
  | refused => contradiction
  | exhausted => contradiction
  | @recovered existing _ _ _ _ _ located _ _ _ recoverable _ scope =>
    obtain ⟨⟨code, retryable, rfl⟩, _⟩ := ChatExecution.recoverable_eq_ok recoverable
    simp only [ChatExecution.sameScope, decide_eq_true_eq] at scope
    obtain ⟨_, _, _, _, _, _, sameProvider, sameModel⟩ := scope
    rcases Rows.mem_replace.mp member with ⟨rfl, _⟩ | ⟨member, differs⟩
    · exact ⟨sameProvider, sameModel⟩
    · have isExisting := invariant.executionIds.eq member located.executionMem
        (sameId.trans located.executionId.symm)
      exact absurd (congrArg ChatExecution.id isExisting) differs
  | inserted absent =>
    rcases List.mem_append.mp member with member | member
    · exact absurd sameId (absent execution member)
    · rw [List.mem_singleton.mp member]
      exact ⟨rfl, rfl⟩

/-! ## Agreement -/

section Agreement

variable {table : CaseTable} {environment : Environment}
  {provider model normalizedProvider normalizedModel : String}

/-- An exchange for the bot, on empty tables. -/
def exchangeFor (provider model : String) : ExchangeRequest :=
  { executionId := "execution", requestId := "request", conversationId := 1, organizationId := 1
    userId := 1, botId := 1, botOrganizationId := 1, provider, model, prompt := "prompt"
    idempotencyRecordId := none, estimatedTokens := 1026, estimatedCost := 0, verification := false
    recover := false, leaseToken := none, maxAttempts := 3, governanceDecisionId := none }

/-- Stages that agree found the spelling canonical already. -/
theorem StagesAgree.canonical (agree : StagesAgree table provider model)
    (accepted : authorizeProviderModel table environment provider model =
      .ok (normalizedProvider, normalizedModel)) :
    canonicalProvider provider = true ∧ strip model = model := by
  obtain ⟨named, _⟩ := authorizeProviderModel_eq_ok accepted
  constructor
  · obtain ⟨entry, built⟩ := agree.estimated .primary (by decide) [] "" none
    obtain ⟨spelled, _, primary, _⟩ := account_eq_ok built
    have sameName : entry.provider = normalizedProvider := Except.ok.inj (spelled.symm.trans named)
    by_cases sameProvider : entry.provider = provider
    · rw [canonicalProvider, decide_eq_true_eq, ← sameProvider, sameName]
      exact normalizeProvider_eq_ok named
    · have mismatched : entry.provider ≠ ((exchangeFor provider model).freshExecution 0 0 1).provider :=
        sameProvider
      refine absurd (recordAccounting_mismatched primary mismatched) ?_
      exact agree.bound Database.empty [] (ledgerInvariant_initial 0) .available
        (exchangeFor provider model) 0 rfl rfl _ rfl _ rfl [entry]
        (fun other otherMem _ => by rw [List.mem_singleton.mp otherMem]; exact .estimated built) []
  · obtain ⟨listed, found⟩ := agree.metadata
    obtain ⟨_, _, rest⟩ := bind_eq_ok.mp found
    obtain ⟨member, _, sameModel⟩ := catalogModel?_some (required_eq_ok.mp rest)
    rw [← sameModel]
    exact (catalog_trimmed listed member).1

/-- All stages agree on an accepted, listed bot exactly when its provider is spelled
canonically and its model without surrounding whitespace. -/
theorem stages_agree_iff_canonical
    (accepted : authorizeProviderModel table environment provider model =
      .ok (normalizedProvider, normalizedModel))
    (listed : (catalogModel? normalizedProvider normalizedModel).isSome = true) :
    StagesAgree table provider model ↔ canonicalProvider provider = true ∧ strip model = model := by
  refine ⟨fun agree => agree.canonical accepted, ?_⟩
  rintro ⟨canonical, trimmed⟩
  have canonical : provider ∈ ["openai", "anthropic", "google"] := of_decide_eq_true canonical
  have named := @normalizeProvider_canonical table provider canonical
  obtain ⟨acceptedName, rfl⟩ := authorizeProviderModel_eq_ok accepted
  have sameName : normalizedProvider = provider := Except.ok.inj (acceptedName.symm.trans named)
  obtain ⟨entry, found⟩ := Option.isSome_iff_exists.mp listed
  rw [sameName, trimmed] at found
  constructor
  · intro apiKey
    obtain ⟨governed, constructed, _⟩ := @getProvider_canonical table provider apiKey canonical
    exact ⟨governed, constructed⟩
  · exact ⟨entry, bind_eq_ok.mpr ⟨provider, named, required_eq_ok.mpr found⟩⟩
  · intro operation supported messages output systemPrompt
    exact account_listed named found supported messages output systemPrompt
  · intro operation supported inputTokens outputTokens inputNonneg outputNonneg
    exact accountReported_listed named found supported ⟨inputNonneg, outputNonneg⟩
  · intro database history invariant storage request now sameProvider sameModel persisted prepared
      execution stored accounting primary usage rejected
    obtain ⟨storedProvider, storedModel⟩ := prepareExchange_spelling invariant prepared stored
    obtain ⟨other, otherMem, isPrimary, mismatched⟩ := recordAccounting_unbound rejected
    obtain ⟨spelled, otherModel, _⟩ := (primary other otherMem isPrimary).spelled
    refine mismatched ⟨?_, ?_⟩
    · rw [storedProvider, sameProvider]
      exact Except.ok.inj (spelled.symm.trans named)
    · rw [storedModel, sameModel]
      exact otherModel

/-- The canonical spelling of a listed model. -/
theorem stages_agree_iff_canonical_openai :
    StagesAgree (fun _ character _ => [character]) "openai" "gpt-4o" ↔
      canonicalProvider "openai" = true ∧ strip "gpt-4o" = "gpt-4o" :=
  @stages_agree_iff_canonical (fun _ character _ => [character]) (fun _ => none) "openai" "gpt-4o"
    "openai" "gpt-4o" rfl rfl

/-- The policy accepts the alias `claude`, and the accounting check rejects it. -/
theorem stages_disagree_on_alias :
    ¬∀ (table : CaseTable) (environment : Environment)
        (provider model normalizedProvider normalizedModel : String),
      authorizeProviderModel table environment provider model =
        .ok (normalizedProvider, normalizedModel) →
      (catalogModel? normalizedProvider normalizedModel).isSome = true →
      StagesAgree table provider model := by
  intro agree
  have agreed := agree (fun _ character _ => [character]) (fun _ => none) "claude"
    "claude-3-5-sonnet-20241022" "anthropic" "claude-3-5-sonnet-20241022" rfl rfl
  have canonical := @StagesAgree.canonical _ (fun _ => none) "claude" "claude-3-5-sonnet-20241022"
    "anthropic" "claude-3-5-sonnet-20241022" agreed rfl
  exact absurd canonical.1 (by decide)

end Agreement

end Eiraos
