import Eiraos.Providers.Policy

/-! # Provider keys (`core/secrets.py`)

A bot carries a reference instead of a key, and `SecretService.resolve` looks the reference up in
the environment.  The platform keys live in the same environment, one of them in the namespace of
the references.
-/

namespace Eiraos

open Guarded PythonText

namespace SecretService

/-- `_SECRET_REFERENCE_RE.fullmatch`: `[A-Za-z0-9_-]{1,100}`. -/
def acceptsReference (secretReference : String) : Bool :=
  1 ≤ secretReference.length && (secretReference.length ≤ 100 &&
    secretReference.toList.all fun character => character.isAlphanum || character = '_' || character = '-')

/-- `EIRAOS_PROVIDER_<REF>`; an accepted reference is ASCII. -/
def secretVariable (secretReference : String) : String :=
  "EIRAOS_PROVIDER_" ++ String.ofList (secretReference.toList.map Char.toUpper)

/-- A variable that is set and not empty. -/
def configured (environment : Environment) (variable_ : String) : Option String :=
  (environment variable_).filter (· ≠ "")

/-- The checks of the organization scope. -/
def assertTenant (botOwnerOrgId callerOrgId : Option Int) : Except ProviderError Unit :=
  match botOwnerOrgId, callerOrgId with
  | some owner, some caller =>
    ensure (caller = owner) (.http 403 "This bot's credentials are not available cross-tenant.")
  | _, _ => .error (.http 403 "Organization credential requires verified tenant context.")

def unconfigured : ProviderError := .http 500 "AI provider secret is not configured for this bot."

def resolve (table : CaseTable) (environment : Environment) (botOwnerOrgId : Option Int)
    (secretReference platformApiKey credentialScope : Option String) (callerOrgId : Option Int) :
    Except ProviderError String := do
  let scope := tidied table credentialScope
  ensure (scope = "organization" ∨ scope = "platform") (ProviderError.http 403 "Unsupported credential scope.")
  if scope = "organization" then
    assertTenant botOwnerOrgId callerOrgId
  match secretReference with
  | some reference =>
    ensure (acceptsReference reference = true) (ProviderError.http 400 "Invalid secret reference.")
    required unconfigured ((configured environment (secretVariable reference)).or
      (if scope = "platform" then configured environment "EIRAOS_PROVIDER_API_KEY" else none))
  | none =>
    required unconfigured
      (if scope = "platform" then
        (platformApiKey.filter (· ≠ "")).or ((configured environment "OPENAI_API_KEY").or
          (configured environment "EIRAOS_PROVIDER_API_KEY"))
      else none)

/-! ## Organization scope -/

/-- The key that the organization scope finds. -/
def ownKey (environment : Environment) : Option String → Except ProviderError String
  | some reference => do
    ensure (acceptsReference reference = true) (ProviderError.http 400 "Invalid secret reference.")
    required unconfigured (configured environment (secretVariable reference))
  | none => .error unconfigured

variable {table : CaseTable} {environment : Environment} {botOwnerOrgId callerOrgId : Option Int}
  {secretReference platformApiKey credentialScope : Option String}

theorem resolve_organization (organization : tidied table credentialScope = "organization") :
    resolve table environment botOwnerOrgId secretReference platformApiKey credentialScope callerOrgId =
      assertTenant botOwnerOrgId callerOrgId >>= fun _ => ownKey environment secretReference := by
  have other : ¬"organization" = "platform" := by decide
  unfold resolve
  simp only [organization, if_true, if_neg other, Option.or_none]
  cases secretReference <;> rfl

/-- The tenant check passes for the owner's own members only. -/
theorem assertTenant_eq_ok :
    assertTenant botOwnerOrgId callerOrgId = .ok () ↔
      ∃ organizationId, botOwnerOrgId = some organizationId ∧ callerOrgId = some organizationId := by
  cases botOwnerOrgId with
  | none => simp [assertTenant]
  | some owner =>
    cases callerOrgId with
    | none => simp [assertTenant]
    | some caller => simp [assertTenant]

/-! ## The platform keys -/

def platformVariables : List String := ["OPENAI_API_KEY", "EIRAOS_PROVIDER_API_KEY"]

/-- The environments differ in the platform keys only. -/
def SameButPlatform (first second : Environment) : Prop :=
  ∀ variable_, variable_ ∉ platformVariables → first variable_ = second variable_

/-- The reference spells the rest of a platform key's name. -/
def NamesPlatformKey (secretReference : String) : Prop :=
  secretReference.toList.map Char.toUpper = "API_KEY".toList

instance (secretReference : String) : Decidable (NamesPlatformKey secretReference) :=
  inferInstanceAs (Decidable (_ = _))

theorem secretVariable_mem_platformVariables (reference : String) :
    secretVariable reference ∈ platformVariables ↔ NamesPlatformKey reference := by
  have prefixed : (secretVariable reference).toList =
      "EIRAOS_PROVIDER_".toList ++ reference.toList.map Char.toUpper :=
    String.toList_append.trans (congrArg _ String.toList_ofList)
  have split : "EIRAOS_PROVIDER_API_KEY".toList = "EIRAOS_PROVIDER_".toList ++ "API_KEY".toList := by decide
  simp only [platformVariables, List.mem_cons, List.not_mem_nil, or_false, ← String.toList_inj, prefixed]
  rw [split, List.append_cancel_left_eq]
  refine or_iff_right fun same => ?_
  -- the names differ in their first letter
  have first : 'E' = 'O' := Option.some.inj (congrArg List.head? same)
  exact absurd first (by decide)

/-- Only a lowercase letter has an uppercase other than itself. -/
theorem isLower_or_toUpper (character : Char) :
    character.isLower = true ∨ character.toUpper = character := by
  unfold Char.toUpper
  by_cases lower : 97 ≤ character.val ∧ character.val ≤ 122
  · left
    show (decide (97 ≤ character.val) && decide (character.val ≤ 122)) = true
    simpa using lower
  · exact .inr (by simp [lower])

theorem acceptsReference_of_names {reference : String} (names : NamesPlatformKey reference) :
    acceptsReference reference = true := by
  have length : reference.length = 7 := by
    have lengths := congrArg List.length names
    rw [List.length_map, String.length_toList] at lengths
    exact lengths
  have characters : ∀ character ∈ reference.toList,
      (character.isAlphanum || character = '_' || character = '-') = true := by
    intro character member
    rcases isLower_or_toUpper character with lower | same
    · show (character.isUpper || character.isLower || character.isDigit || _ || _) = true
      simp [lower]
    · have upper : character ∈ "API_KEY".toList := by
        rw [← names, ← same]
        exact List.mem_map_of_mem member
      revert upper
      simp only [String.reduceToList, List.mem_cons, List.not_mem_nil, or_false]
      rintro (rfl | rfl | rfl | rfl | rfl | rfl | rfl) <;> rfl
  simp only [acceptsReference, length, Bool.and_eq_true, List.all_eq_true]
  exact ⟨rfl, rfl, characters⟩

/-- Apart from a platform key's own name, a reference reads the same in both environments. -/
theorem ownKey_congr {first second : Environment} (same : SameButPlatform first second)
    (named : ∀ reference, secretReference = some reference → ¬NamesPlatformKey reference) :
    ownKey first secretReference = ownKey second secretReference := by
  cases secretReference with
  | none => rfl
  | some reference =>
    have apart : secretVariable reference ∉ platformVariables := fun member =>
      named reference rfl ((secretVariable_mem_platformVariables reference).mp member)
    simp only [ownKey, configured, same _ apart]

/-- The environment that holds this platform key and nothing else. -/
def platformOnly (apiKey : String) : Environment := fun variable_ =>
  if variable_ = "EIRAOS_PROVIDER_API_KEY" then some apiKey else none

theorem sameButPlatform_platformOnly (first second : String) :
    SameButPlatform (platformOnly first) (platformOnly second) := by
  intro variable_ apart
  have other : variable_ ≠ "EIRAOS_PROVIDER_API_KEY" := by
    rintro rfl
    exact apart (by decide)
  simp only [platformOnly, if_neg other]

/-- A reference that spells the platform key's name gets the platform key. -/
theorem ownKey_platformOnly {reference apiKey : String} (names : NamesPlatformKey reference)
    (present : apiKey ≠ "") : ownKey (platformOnly apiKey) (some reference) = .ok apiKey := by
  have spelled : secretVariable reference = "EIRAOS_PROVIDER_API_KEY" := by
    show "EIRAOS_PROVIDER_" ++ String.ofList (reference.toList.map Char.toUpper) = _
    rw [names]
    decide
  simp only [ownKey, acceptsReference_of_names names, configured, spelled, platformOnly, if_true,
    Option.filter_some, decide_eq_true present]
  rfl

end SecretService

open SecretService

/-- A bot of the organization scope gets the same key, or the same error, whatever the platform
keys are, exactly when the caller is not of the owner's organization or the reference does not
spell the name of the platform key. -/
theorem organization_keys_isolated_iff {table : CaseTable} {credentialScope : Option String}
    (organization : tidied table credentialScope = "organization")
    (botOwnerOrgId callerOrgId : Option Int) (secretReference : Option String) :
    (∀ (first second : Environment) (firstPlatformKey secondPlatformKey : Option String),
        SameButPlatform first second →
        resolve table first botOwnerOrgId secretReference firstPlatformKey credentialScope callerOrgId =
          resolve table second botOwnerOrgId secretReference secondPlatformKey credentialScope callerOrgId) ↔
      ¬((∃ organizationId, botOwnerOrgId = some organizationId ∧ callerOrgId = some organizationId) ∧
        ∃ reference, secretReference = some reference ∧ NamesPlatformKey reference) := by
  simp only [resolve_organization organization]
  rw [← assertTenant_eq_ok]
  constructor
  · rintro isolated ⟨tenant, reference, rfl, names⟩
    have leaked := isolated (platformOnly "tide") (platformOnly "ebb") none none
      (sameButPlatform_platformOnly _ _)
    rw [tenant] at leaked
    have keys : ownKey (platformOnly "tide") (some reference) = ownKey (platformOnly "ebb") (some reference) :=
      leaked
    rw [ownKey_platformOnly names (by decide), ownKey_platformOnly names (by decide)] at keys
    exact absurd (Except.ok.inj keys) (by decide)
  · intro apart first second _ _ same
    cases checked : assertTenant botOwnerOrgId callerOrgId with
    | error error => rfl
    | ok =>
      have keys : ownKey first secretReference = ownKey second secretReference :=
        ownKey_congr same fun reference named names => apart ⟨checked, reference, named, names⟩
      rw [keys]

/-- The column may be padded and in any letter case. -/
theorem organization_keys_isolated_iff_padded :
    tidied (fun _ character _ => [character]) (some " Organization\t") = "organization" ∧
      ∀ (first second : Environment) (firstPlatformKey secondPlatformKey : Option String),
        SameButPlatform first second →
        resolve (fun _ character _ => [character]) first (some 10) (some "ORG_A_KEY") firstPlatformKey
            (some " Organization\t") (some 10) =
          resolve (fun _ character _ => [character]) second (some 10) (some "ORG_A_KEY") secondPlatformKey
            (some " Organization\t") (some 10) := by
  have padded : tidied (fun _ character _ => [character]) (some " Organization\t") = "organization" := by
    decide
  refine ⟨padded, (organization_keys_isolated_iff padded (some 10) (some 10) (some "ORG_A_KEY")).mpr ?_⟩
  rintro ⟨_, reference, named, names⟩
  cases named
  exact absurd names (by decide)

/-- The reference `api_key` of an organization's bot is answered with the platform key. -/
theorem api_key_reference_leaks :
    ¬∀ (table : CaseTable) (credentialScope : Option String) (_ : tidied table credentialScope = "organization")
        (botOwnerOrgId callerOrgId : Option Int) (secretReference : Option String)
        (_ : ∀ reference, secretReference = some reference → acceptsReference reference = true)
        (first second : Environment) (firstPlatformKey secondPlatformKey : Option String),
      SameButPlatform first second →
        resolve table first botOwnerOrgId secretReference firstPlatformKey credentialScope callerOrgId =
          resolve table second botOwnerOrgId secretReference secondPlatformKey credentialScope callerOrgId := by
  intro isolated
  have leaked := isolated (fun _ character _ => [character]) (some "organization") (by decide) (some 10)
    (some 10) (some "api_key") (fun reference named => by cases named; decide) (platformOnly "sk-platform")
    (fun _ => none) none none (fun variable_ apart => if_neg (by rintro rfl; exact apart (by decide)))
  revert leaked
  decide

end Eiraos
