import Eiraos.Providers.Policy
import Mathlib.Algebra.GroupWithZero.Nat

/-! # Model catalog and cost accounting (`capability_discovery.py`, `cost_accounting.py`)

Amounts of money are integers in units of `_COST_QUANTUM`, ten decimals, the scale of
both the catalog arithmetic and the column `actual_cost`.
-/

namespace Eiraos

open Guarded PythonText

def CATALOG_REVISION : String := "2026-08-25"

def quantaPerDollar : Nat := 10000000000

/-- Prices in quanta per `unitTokens` tokens. -/
structure TokenPricing where
  inputPerMillion : Nat
  outputPerMillion : Nat
  unitTokens : Nat
  deriving DecidableEq, Repr

structure ProviderModelMetadata where
  provider : String
  model : String
  contextWindowTokens : Nat
  pricing : TokenPricing
  catalogRevision : String
  deriving DecidableEq, Repr

/-- `_metadata`, prices given in thousandths of a dollar per million tokens. -/
def metadata (provider model : String) (context inputPrice outputPrice : Nat) : ProviderModelMetadata where
  provider
  model
  contextWindowTokens := context
  pricing := ⟨inputPrice * (quantaPerDollar / 1000), outputPrice * (quantaPerDollar / 1000), 1000000⟩
  catalogRevision := CATALOG_REVISION

def MODEL_CAPABILITY_CATALOG : List ProviderModelMetadata :=
  [metadata "openai" "gpt-4o" 128000 2500 10000,
    metadata "openai" "gpt-4o-mini" 128000 150 600,
    metadata "openai" "gpt-4.1" 1047576 2000 8000,
    metadata "openai" "gpt-4.1-mini" 1047576 400 1600,
    metadata "anthropic" "claude-3-5-sonnet-20241022" 200000 3000 15000,
    metadata "anthropic" "claude-3-5-haiku-20241022" 200000 800 4000,
    metadata "google" "gemini-1.5-pro" 2000000 1250 5000,
    metadata "google" "gemini-1.5-flash" 1000000 75 300]

/-- `MODEL_CAPABILITY_CATALOG.get((provider, model))`. -/
def catalogModel? (provider model : String) : Option ProviderModelMetadata :=
  MODEL_CAPABILITY_CATALOG.find? fun entry => entry.provider = provider ∧ entry.model = model

def modelMetadata (table : CaseTable) (provider model : String) :
    Except ProviderError ProviderModelMetadata := do
  let normalizedProvider ← normalizeProvider table provider
  required (.valueError "model capability metadata is unavailable")
    (catalogModel? normalizedProvider model)

inductive Operation where
  | reservation
  | primary
  | verification
  deriving DecidableEq, Repr

inductive UsageSource where
  | reservation
  | estimated
  | providerReported
  deriving DecidableEq, Repr

/-- `ExecutionCost`; the fields after the data are what `__post_init__` checks. -/
structure ExecutionCost where
  provider : String
  model : String
  operation : Operation
  inputTokens : Int
  outputTokens : Int
  totalTokens : Int
  cost : Int
  usageSource : UsageSource
  pricingRevision : String
  identified : provider ≠ "" ∧ model ≠ "" ∧ pricingRevision ≠ ""
  supported : operation ≠ .reservation
  tokensNonneg : 0 ≤ inputTokens ∧ 0 ≤ outputTokens
  tokensSum : totalTokens = inputTokens + outputTokens
  costNonneg : 0 ≤ cost
  sourced : usageSource ≠ .reservation
  deriving DecidableEq, Repr

structure ChatMessage where
  role : String
  content : String
  deriving DecidableEq, Repr

/-- `n` in units of `1 / unit`, rounded half up. -/
def quantize (amount : Int) (unit : Nat) : Int := (2 * amount + unit) / (2 * unit)

/-- The price of a call in quanta. -/
def TokenPricing.cost (pricing : TokenPricing) (inputTokens outputTokens : Int) : Int :=
  quantize (inputTokens * pricing.inputPerMillion + outputTokens * pricing.outputPerMillion)
    pricing.unitTokens

/-- `ExecutionCost(...)` with the checks of `__post_init__`, for tokens that add up. -/
def executionCost (provider model : String) (operation : Operation) (inputTokens outputTokens : Int)
    (usageSource : UsageSource) (cost : Int) : Except ProviderError ExecutionCost :=
  if identified : provider ≠ "" ∧ model ≠ "" ∧ CATALOG_REVISION ≠ "" then
    if supported : operation ≠ .reservation then
      if tokensNonneg : 0 ≤ inputTokens ∧ 0 ≤ outputTokens then
        if valid : 0 ≤ cost ∧ usageSource ≠ .reservation then
          .ok {
            provider, model, operation, inputTokens, outputTokens
            totalTokens := inputTokens + outputTokens
            cost, usageSource
            pricingRevision := CATALOG_REVISION
            identified, supported, tokensNonneg
            tokensSum := rfl
            costNonneg := valid.1
            sourced := valid.2 }
        else .error (.valueError "invalid execution cost metadata")
      else .error (.valueError "token counts cannot be negative")
    else .error (.valueError "unsupported provider accounting operation")
  else .error (.valueError "accounting identity cannot be empty")

/-- Any rejection of the policy is reported as missing pricing metadata. -/
def pricedProvider (table : CaseTable) (provider : String) : Except ProviderError String :=
  match normalizeProvider table provider with
  | .ok normalized => .ok normalized
  | .error _ => .error (.costAccountingUnavailable "provider pricing metadata is unavailable")

/-- The normalization and the catalog lookup both accounting methods start with. -/
def pricedModel (table : CaseTable) (provider model : String) :
    Except ProviderError (String × ProviderModelMetadata) := do
  let normalized ← pricedProvider table provider
  let entry ← required (.costAccountingUnavailable "model pricing metadata is unavailable")
    (catalogModel? normalized model)
  return (normalized, entry)

/-- `_tokens` with the four characters per token of the default accountant. -/
def tokensOf (characters : Nat) : Nat := (characters + 4 - 1) / 4

def inputCharacters (messages : List ChatMessage) (systemPrompt : Option String) : Nat :=
  (systemPrompt.getD "").length + (messages.map fun message => message.content.length).sum

/-- `ExecutionCostAccountant.account` of the default accountant. -/
def account (table : CaseTable) (provider model : String) (operation : Operation)
    (messages : List ChatMessage) (output : String) (systemPrompt : Option String) :
    Except ProviderError ExecutionCost := do
  let (normalized, entry) ← pricedModel table provider model
  let inputTokens : Nat := tokensOf (inputCharacters messages systemPrompt)
  let outputTokens : Nat := tokensOf output.length
  executionCost normalized model operation inputTokens outputTokens .estimated
    (entry.pricing.cost inputTokens outputTokens)

def accountReported (table : CaseTable) (provider model : String) (operation : Operation)
    (inputTokens outputTokens : Int) : Except ProviderError ExecutionCost := do
  let (normalized, entry) ← pricedModel table provider model
  executionCost normalized model operation inputTokens outputTokens .providerReported
    (entry.pricing.cost inputTokens outputTokens)

/-! ## What the accountant accepts -/

theorem catalogModel?_some {provider model : String} {entry : ProviderModelMetadata}
    (found : catalogModel? provider model = some entry) :
    entry ∈ MODEL_CAPABILITY_CATALOG ∧ entry.provider = provider ∧ entry.model = model :=
  ⟨List.mem_of_find?_eq_some found, by simpa using List.find?_some found⟩

/-- The models of the catalog carry no surrounding whitespace and no empty name. -/
theorem catalog_trimmed : ∀ entry ∈ MODEL_CAPABILITY_CATALOG,
    strip entry.model = entry.model ∧ entry.provider ≠ "" ∧ entry.model ≠ "" := by
  decide

theorem TokenPricing.cost_nonneg (pricing : TokenPricing) {inputTokens outputTokens : Int}
    (tokensNonneg : 0 ≤ inputTokens ∧ 0 ≤ outputTokens) :
    0 ≤ pricing.cost inputTokens outputTokens := by
  have inputPriced := Int.mul_nonneg tokensNonneg.1 (Int.natCast_nonneg pricing.inputPerMillion)
  have outputPriced := Int.mul_nonneg tokensNonneg.2 (Int.natCast_nonneg pricing.outputPerMillion)
  exact Int.ediv_nonneg (by omega) (by omega)

theorem pricedProvider_eq_ok {table : CaseTable} {provider normalized : String} :
    pricedProvider table provider = .ok normalized ↔ normalizeProvider table provider = .ok normalized := by
  unfold pricedProvider
  cases normalizeProvider table provider <;> simp

theorem pricedModel_eq_ok {table : CaseTable} {provider model : String}
    {priced : String × ProviderModelMetadata} :
    pricedModel table provider model = .ok priced ↔
      normalizeProvider table provider = .ok priced.1 ∧ catalogModel? priced.1 model = some priced.2 := by
  simp only [pricedModel, bind_eq_ok, pricedProvider_eq_ok, required_eq_ok, pure_eq_ok]
  constructor
  · rintro ⟨normalized, named, entry, listed, rfl⟩
    exact ⟨named, listed⟩
  · rintro ⟨named, listed⟩
    exact ⟨priced.1, named, priced.2, listed, rfl⟩

/-- A listed model is accounted, under its normalized provider. -/
theorem executionCost_listed {normalized model : String} {operation : Operation}
    {inputTokens outputTokens : Int} {usageSource : UsageSource} {entry : ProviderModelMetadata}
    (listed : catalogModel? normalized model = some entry) (supported : operation ≠ .reservation)
    (tokensNonneg : 0 ≤ inputTokens ∧ 0 ≤ outputTokens) (sourced : usageSource ≠ .reservation) :
    ∃ cost, executionCost normalized model operation inputTokens outputTokens usageSource
      (entry.pricing.cost inputTokens outputTokens) = .ok cost := by
  obtain ⟨member, sameProvider, sameModel⟩ := catalogModel?_some listed
  obtain ⟨_, providerNamed, modelNamed⟩ := catalog_trimmed entry member
  rw [sameProvider] at providerNamed
  rw [sameModel] at modelNamed
  have identified : normalized ≠ "" ∧ model ≠ "" ∧ CATALOG_REVISION ≠ "" :=
    ⟨providerNamed, modelNamed, by decide⟩
  unfold executionCost
  rw [dif_pos identified, dif_pos supported, dif_pos tokensNonneg,
    dif_pos ⟨entry.pricing.cost_nonneg tokensNonneg, sourced⟩]
  exact ⟨_, rfl⟩

theorem executionCost_eq_ok {provider model : String} {operation : Operation}
    {inputTokens outputTokens cost : Int} {usageSource : UsageSource} {entry : ExecutionCost}
    (built : executionCost provider model operation inputTokens outputTokens usageSource cost =
      .ok entry) :
    entry.provider = provider ∧ entry.model = model ∧ entry.operation = operation ∧
      entry.totalTokens = inputTokens + outputTokens ∧ entry.usageSource = usageSource := by
  unfold executionCost at built
  split at built <;> try contradiction
  split at built <;> try contradiction
  split at built <;> try contradiction
  split at built <;> try contradiction
  cases built
  exact ⟨rfl, rfl, rfl, rfl, rfl⟩

end Eiraos
