import Eiraos.Foundations.PythonText
import Eiraos.Foundations.Guarded

/-! # Provider policy and factory (`application/providers/policy.py`, `factory.py`)

The environment is a function from variable names to their values.
-/

namespace Eiraos

open Guarded PythonText

inductive ProviderError where
  | http (statusCode : Nat) (detail : String)
  | valueError (text : String)
  | costAccountingUnavailable (text : String)
  deriving DecidableEq, Repr

abbrev Environment := String → Option String

def DEFAULT_PROVIDER_MODELS : List (String × List String) :=
  [("openai", ["gpt-4o", "gpt-4o-mini", "gpt-4.1", "gpt-4.1-mini"]),
    ("anthropic", ["claude-3-5-sonnet-20241022", "claude-3-5-haiku-20241022"]),
    ("google", ["gemini-1.5-pro", "gemini-1.5-flash"])]

def PROVIDER_ALIASES : List (String × String) :=
  [("claude", "anthropic"), ("gemini", "google")]

/-- The variable that overrides the models of a provider of `DEFAULT_PROVIDER_MODELS`. -/
def allowedModelsVariable (provider : String) : String :=
  "EIRAOS_ALLOWED_MODELS_" ++ String.ofList (provider.toList.map Char.toUpper)

def configuredModels (environment : Environment) (provider : String) : List String :=
  match environment (allowedModelsVariable provider) with
  | none => (DEFAULT_PROVIDER_MODELS.lookup provider).getD []
  | some raw => ((split ',' raw).map strip).filter fun item => item ≠ ""

def normalizeProvider (table : CaseTable) (provider : String) : Except ProviderError String := do
  let lowered := lower table (strip provider)
  let normalized := (PROVIDER_ALIASES.lookup lowered).getD lowered
  ensure (normalized ∈ DEFAULT_PROVIDER_MODELS.map Prod.fst) (.http 403 "AI provider is not allowed.")
  return normalized

def authorizeProviderModel (table : CaseTable) (environment : Environment) (provider model : String) :
    Except ProviderError (String × String) := do
  let normalizedProvider ← normalizeProvider table provider
  let normalizedModel := strip model
  ensure (normalizedModel ≠ "" ∧ normalizedModel ∈ configuredModels environment normalizedProvider)
    (.http 403 "AI model is not allowed for this provider.")
  return (normalizedProvider, normalizedModel)

inductive Adapter where
  | openAI
  | anthropic
  | gemini
  deriving DecidableEq, Repr

/-- `GovernedAIProvider`: an adapter holding its key, under the name it was governed by. -/
structure GovernedAIProvider where
  provider : Adapter
  apiKey : String
  providerName : String
  deriving DecidableEq, Repr

def getProvider (table : CaseTable) (providerName apiKey : String) :
    Except ProviderError GovernedAIProvider :=
  let name := lower table providerName
  if name = "openai" then .ok ⟨.openAI, apiKey, name⟩
  else if name ∈ ["anthropic", "claude"] then .ok ⟨.anthropic, apiKey, "anthropic"⟩
  else if name ∈ ["google", "gemini"] then .ok ⟨.gemini, apiKey, "google"⟩
  else .error (.valueError ("Unsupported AI provider: " ++ providerName))

/-- A normalized name is one the policy has models for. -/
theorem normalizeProvider_eq_ok {table : CaseTable} {provider normalized : String}
    (accepted : normalizeProvider table provider = .ok normalized) :
    normalized ∈ ["openai", "anthropic", "google"] := by
  obtain ⟨_, known, returned⟩ := bind_eq_ok.mp accepted
  rw [← pure_eq_ok.mp returned]
  exact ensure_eq_ok.mp known

/-- Normalizing a canonical name changes nothing. -/
theorem normalizeProvider_canonical {table : CaseTable} {provider : String}
    (canonical : provider ∈ ["openai", "anthropic", "google"]) :
    normalizeProvider table provider = .ok provider := by
  simp only [List.mem_cons, List.not_mem_nil, or_false] at canonical
  rcases canonical with rfl | rfl | rfl <;> rfl

theorem authorizeProviderModel_eq_ok {table : CaseTable} {environment : Environment}
    {provider model normalizedProvider normalizedModel : String}
    (accepted : authorizeProviderModel table environment provider model =
      .ok (normalizedProvider, normalizedModel)) :
    normalizeProvider table provider = .ok normalizedProvider ∧ normalizedModel = strip model := by
  obtain ⟨name, named, rest⟩ := bind_eq_ok.mp accepted
  obtain ⟨_, _, returned⟩ := bind_eq_ok.mp rest
  cases pure_eq_ok.mp returned
  exact ⟨named, rfl⟩

theorem getProvider_canonical {table : CaseTable} {provider : String} (apiKey : String)
    (canonical : provider ∈ ["openai", "anthropic", "google"]) :
    ∃ governed, getProvider table provider apiKey = .ok governed ∧ governed.providerName = provider := by
  simp only [List.mem_cons, List.not_mem_nil, or_false] at canonical
  rcases canonical with rfl | rfl | rfl <;> exact ⟨_, rfl, rfl⟩

end Eiraos
