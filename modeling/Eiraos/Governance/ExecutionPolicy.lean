import Eiraos.Governance.Capabilities
import Eiraos.Providers.Policy

/-! # Permits for provider calls (`application/provider_execution_policy.py`)

A permit is issued for a bot as it is, and compared with the bot again before its key is resolved.
-/

namespace Eiraos.Governance

open Guarded PythonText

/-- The columns of `bots` that the policy reads; an unset column is `none`. -/
structure Bot where
  id : Option Int
  organizationId : Option Int
  provider : Option String
  model : Option String
  botVisibility : Option String
  credentialScope : Option String
  toolScope : Option String
  isPublic : Option Bool
  deriving DecidableEq, Repr

/-- The legacy flag comes first. -/
def Bot.visibility (bot : Bot) : String :=
  if bot.isPublic = some true then "public"
  else (bot.botVisibility.filter (· ≠ "")).getD "private"

structure AuthorizationContext where
  user : Principal
  organization : Principal
  role : String
  deriving DecidableEq, Repr

def AuthorizationContext.organizationId (authorization : AuthorizationContext) : Int :=
  authorization.organization.organizationId

structure ProviderExecutionPermit where
  userId : Int
  organizationId : Int
  botId : Int
  botOrganizationId : Int
  provider : String
  model : String
  botToolScope : String
  botVisibility : String
  credentialScope : String
  capability : Capability := .providerExecute
  deriving DecidableEq, Repr

/-- The tuples that `assert_matches` compares. -/
structure PermitScope where
  callerOrganizationId : Int
  botId : Option Int
  botOrganizationId : Option Int
  provider : String
  model : String
  toolScope : String
  visibility : String
  credentialScope : String
  deriving DecidableEq, Repr

def ProviderExecutionPermit.expected (permit : ProviderExecutionPermit) : PermitScope where
  callerOrganizationId := permit.organizationId
  botId := some permit.botId
  botOrganizationId := some permit.botOrganizationId
  provider := permit.provider
  model := permit.model
  toolScope := permit.botToolScope
  visibility := permit.botVisibility
  credentialScope := permit.credentialScope

/-- What the policy reads besides its arguments: the environment and the Unicode database. -/
structure PolicyRuntime where
  table : CaseTable
  decimals : Char → Option Nat
  environment : Environment

namespace PolicyRuntime

variable (runtime : PolicyRuntime)

/-- `authorize_provider_model` under `except Exception`; `None.strip()` is one of these. -/
def authorizedModel (bot : Bot) : Except PolicyError (String × String) :=
  match bot.provider, bot.model with
  | some provider, some model =>
    match authorizeProviderModel runtime.table runtime.environment provider model with
    | .ok authorized => .ok authorized
    | .error _ => .error (.denied "provider_model_denied")
  | _, _ => .error (.denied "provider_model_denied")

def assertMatches (permit : ProviderExecutionPermit) (bot : Bot) (callerOrganizationId : Int) :
    Except PolicyError Unit := do
  let (actualProvider, actualModel) ← runtime.authorizedModel bot
  let actual : PermitScope := {
    callerOrganizationId
    botId := bot.id
    botOrganizationId := bot.organizationId
    provider := actualProvider
    model := actualModel
    toolScope := tidied runtime.table bot.toolScope
    visibility := bot.visibility
    credentialScope := tidied runtime.table bot.credentialScope }
  ensure (actual = permit.expected) (PolicyError.denied "permit_scope_mismatch")

/-- A number above zero. -/
def identity (error : PolicyError) (column : Option Int) : Except PolicyError Int :=
  required error (column.filter (0 < ·))

/-- The grant of one execution, with the bot's principal in this organization. -/
def executionGrant (authorization : AuthorizationContext) (bot : Bot) (botId callerOrganizationId : Int)
    (organizationId : Int) : Except PolicyError CapabilitySet := do
  let botPrincipal ← Principal.create .bot (toString botId) organizationId
  deriveExecutionCapabilities runtime.table ⟨authorization.user, roleGrants authorization.role⟩ botPrincipal
    (tidied runtime.table bot.toolScope) {.providerExecute}
    s!"provider-preflight:{callerOrganizationId}:{botId}"

/-- A public bot of another organization is bound to the caller's where its own is refused. -/
def boundGrant (authorization : AuthorizationContext) (bot : Bot) (botId botOrganizationId : Int)
    (callerOrganizationId : Int) : Except PolicyError CapabilitySet :=
  match runtime.executionGrant authorization bot botId callerOrganizationId botOrganizationId with
  | .ok grant => .ok grant
  | .error _ =>
    if botOrganizationId ≠ callerOrganizationId ∧ bot.visibility = "public" then
      runtime.executionGrant authorization bot botId callerOrganizationId callerOrganizationId
    else .error (.denied "execution_scope_denied")

def authorizeProviderExecution (authorization : AuthorizationContext) (bot : Bot)
    (callerOrganizationId : Int) : Except PolicyError ProviderExecutionPermit := do
  let botId ← identity (.denied "invalid_bot_identity") bot.id
  let botOrganizationId ← identity (.denied "invalid_bot_tenant") bot.organizationId
  ensure (authorization.organizationId = callerOrganizationId)
    (PolicyError.denied "authorization_tenant_mismatch")
  ensure (botOrganizationId = callerOrganizationId ∨ bot.visibility = "public")
    (PolicyError.denied "bot_not_accessible")
  let credentialScope := tidied runtime.table bot.credentialScope
  ensure (credentialScope ∈ ["organization", "platform"]) (PolicyError.denied "credential_scope_denied")
  ensure (botOrganizationId = callerOrganizationId ∨ credentialScope = "platform")
    (PolicyError.denied "cross_tenant_credential_denied")
  let grant ← runtime.boundGrant authorization bot botId botOrganizationId callerOrganizationId
  ensure (Capability.providerExecute ∈ grant.capabilities) (PolicyError.denied "provider_capability_denied")
  let (provider, model) ← runtime.authorizedModel bot
  let userId ← required (PolicyError.noInteger authorization.user.identifier)
    (intOf runtime.decimals authorization.user.identifier)
  return {
    userId
    organizationId := callerOrganizationId
    botId
    botOrganizationId
    provider
    model
    botToolScope := tidied runtime.table bot.toolScope
    botVisibility := bot.visibility
    credentialScope }

end PolicyRuntime

/-! ## What the policy sees of a bot -/

variable {runtime : PolicyRuntime} {authorization : AuthorizationContext} {bot later : Bot}
  {callerOrganizationId : Int} {permit : ProviderExecutionPermit}

/-- The policy cannot tell the bots apart. -/
structure SameToPolicy (runtime : PolicyRuntime) (bot later : Bot) : Prop where
  id : later.id = bot.id
  organizationId : later.organizationId = bot.organizationId
  model : runtime.authorizedModel later = runtime.authorizedModel bot
  toolScope : tidied runtime.table later.toolScope = tidied runtime.table bot.toolScope
  visibility : later.visibility = bot.visibility
  credentialScope : tidied runtime.table later.credentialScope = tidied runtime.table bot.credentialScope

theorem SameToPolicy.boundGrant (same : SameToPolicy runtime bot later) (botId botOrganizationId : Int) :
    runtime.boundGrant authorization later botId botOrganizationId callerOrganizationId =
      runtime.boundGrant authorization bot botId botOrganizationId callerOrganizationId := by
  simp only [PolicyRuntime.boundGrant, PolicyRuntime.executionGrant, same.toolScope, same.visibility]

/-- The decision reads nothing else. -/
theorem SameToPolicy.authorize (same : SameToPolicy runtime bot later) :
    runtime.authorizeProviderExecution authorization later callerOrganizationId =
      runtime.authorizeProviderExecution authorization bot callerOrganizationId := by
  simp only [PolicyRuntime.authorizeProviderExecution, same.id, same.organizationId, same.visibility,
    same.credentialScope, same.toolScope, same.boundGrant, same.model]

/-- The bot is as the permit describes it. -/
structure Describes (runtime : PolicyRuntime) (permit : ProviderExecutionPermit) (bot : Bot)
    (callerOrganizationId : Int) : Prop where
  caller : permit.organizationId = callerOrganizationId
  id : bot.id = some permit.botId
  organizationId : bot.organizationId = some permit.botOrganizationId
  model : runtime.authorizedModel bot = .ok (permit.provider, permit.model)
  toolScope : tidied runtime.table bot.toolScope = permit.botToolScope
  visibility : bot.visibility = permit.botVisibility
  credentialScope : tidied runtime.table bot.credentialScope = permit.credentialScope

theorem assertMatches_eq_ok : runtime.assertMatches permit bot callerOrganizationId = .ok () ↔
    Describes runtime permit bot callerOrganizationId := by
  unfold PolicyRuntime.assertMatches
  rw [bind_eq_ok]
  constructor
  · rintro ⟨⟨provider, model⟩, authorized, compared⟩
    have same := ensure_eq_ok.mp compared
    simp only [ProviderExecutionPermit.expected, PermitScope.mk.injEq] at same
    obtain ⟨caller, id, organizationId, rfl, rfl, toolScope, visibility, credentialScope⟩ := same
    exact ⟨caller.symm, id, organizationId, authorized, toolScope, visibility, credentialScope⟩
  · intro described
    refine ⟨_, described.model, ensure_eq_ok.mpr ?_⟩
    simp only [ProviderExecutionPermit.expected, described.caller, described.id,
      described.organizationId, described.toolScope, described.visibility, described.credentialScope]

/-- Two bots under one description are the same to the policy. -/
theorem Describes.same (first : Describes runtime permit bot callerOrganizationId)
    (second : Describes runtime permit later callerOrganizationId) : SameToPolicy runtime bot later where
  id := second.id.trans first.id.symm
  organizationId := second.organizationId.trans first.organizationId.symm
  model := second.model.trans first.model.symm
  toolScope := second.toolScope.trans first.toolScope.symm
  visibility := second.visibility.trans first.visibility.symm
  credentialScope := second.credentialScope.trans first.credentialScope.symm

/-! ## What a permit stands for -/

theorem executionGrant_eq_ok {botId organizationId : Int} {grant : CapabilitySet}
    (granted : runtime.executionGrant authorization bot botId callerOrganizationId organizationId = .ok grant) :
    grant.capabilities = {.providerExecute} ∩ roleGrants authorization.role ∩
      scopeGrants runtime.table (tidied runtime.table bot.toolScope) := by
  obtain ⟨botPrincipal, _, derived⟩ := bind_eq_ok.mp granted
  exact (deriveExecutionCapabilities_eq_ok derived).2.2

/-- The rebound grant holds no more than the refused one would have. -/
theorem boundGrant_eq_ok {botId botOrganizationId : Int} {grant : CapabilitySet}
    (granted : runtime.boundGrant authorization bot botId botOrganizationId callerOrganizationId = .ok grant) :
    grant.capabilities = {.providerExecute} ∩ roleGrants authorization.role ∩
      scopeGrants runtime.table (tidied runtime.table bot.toolScope) := by
  unfold PolicyRuntime.boundGrant at granted
  split at granted
  next own =>
    cases granted
    exact executionGrant_eq_ok own
  next =>
    split at granted
    next => exact executionGrant_eq_ok granted
    next => cases granted

theorem identity_eq_ok {error : PolicyError} {column : Option Int} {value : Int} :
    PolicyRuntime.identity error column = .ok value ↔ column = some value ∧ 0 < value := by
  simp [PolicyRuntime.identity, Option.filter_eq_some_iff]

/-- What a permit was issued for. -/
structure Issued (runtime : PolicyRuntime) (authorization : AuthorizationContext) (bot : Bot)
    (callerOrganizationId : Int) (permit : ProviderExecutionPermit) : Prop where
  describes : Describes runtime permit bot callerOrganizationId
  user : intOf runtime.decimals authorization.user.identifier = some permit.userId
  tenant : authorization.organizationId = callerOrganizationId
  role : .providerExecute ∈ roleGrants authorization.role
  scope : .providerExecute ∈ scopeGrants runtime.table permit.botToolScope
  accessible : permit.botOrganizationId = callerOrganizationId ∨
    permit.botVisibility = "public" ∧ permit.credentialScope = "platform"
  capability : permit.capability = .providerExecute

theorem authorize_issued
    (issued : runtime.authorizeProviderExecution authorization bot callerOrganizationId = .ok permit) :
    Issued runtime authorization bot callerOrganizationId permit := by
  obtain ⟨botId, identified, rest⟩ := bind_eq_ok.mp issued
  obtain ⟨botOrganizationId, owned, rest⟩ := bind_eq_ok.mp rest
  obtain ⟨_, tenant, rest⟩ := bind_eq_ok.mp rest
  obtain ⟨_, visible, rest⟩ := bind_eq_ok.mp rest
  obtain ⟨_, _, rest⟩ := bind_eq_ok.mp rest
  obtain ⟨_, credentials, rest⟩ := bind_eq_ok.mp rest
  obtain ⟨grant, bound, rest⟩ := bind_eq_ok.mp rest
  obtain ⟨_, allowed, rest⟩ := bind_eq_ok.mp rest
  obtain ⟨⟨provider, model⟩, authorized, rest⟩ := bind_eq_ok.mp rest
  obtain ⟨userId, user, returned⟩ := bind_eq_ok.mp rest
  obtain rfl := pure_eq_ok.mp returned
  have granted := ensure_eq_ok.mp allowed
  rw [boundGrant_eq_ok bound, Finset.mem_inter, Finset.mem_inter] at granted
  obtain ⟨⟨_, role⟩, scope⟩ := granted
  constructor
  case describes =>
    exact
      { caller := rfl
        id := (identity_eq_ok.mp identified).1
        organizationId := (identity_eq_ok.mp owned).1
        model := authorized
        toolScope := rfl
        visibility := rfl
        credentialScope := rfl }
  case user => exact required_eq_ok.mp user
  case tenant => exact ensure_eq_ok.mp tenant
  case role => exact role
  case scope =>
    exact scope
  case accessible =>
    rcases ensure_eq_ok.mp visible with own | isPublic
    · exact .inl own
    · exact (ensure_eq_ok.mp credentials).imp id fun platform => ⟨isPublic, platform⟩
  case capability => rfl

/-- A permit is accepted for the bot it was issued for, and where it is accepted for a bot, as any
change has left it, the policy issues the same permit again. -/
theorem permit_captures_decision
    (issued : runtime.authorizeProviderExecution authorization bot callerOrganizationId = .ok permit) :
    runtime.assertMatches permit bot callerOrganizationId = .ok () ∧
      ∀ later : Bot, runtime.assertMatches permit later callerOrganizationId = .ok () →
        runtime.authorizeProviderExecution authorization later callerOrganizationId = .ok permit := by
  have described := (authorize_issued issued).describes
  refine ⟨assertMatches_eq_ok.mpr described, fun later accepted => ?_⟩
  have same := described.same (assertMatches_eq_ok.mp accepted)
  rw [same.authorize]
  exact issued

def tideRuntime : PolicyRuntime where
  table := fun _ character _ => [character]
  decimals := fun _ => none
  environment := fun _ => none

def tideMember : AuthorizationContext where
  user := ⟨.user, "7", 3, by decide⟩
  organization := ⟨.organization, "3", 3, by decide⟩
  role := "member"

/-- A public bot of another organization. -/
def pierBot : Bot where
  id := some 5
  organizationId := some 4
  provider := some " Claude "
  model := some "claude-3-5-haiku-20241022"
  botVisibility := some "private"
  credentialScope := some "Platform"
  toolScope := some "STANDARD"
  isPublic := some true

def pierPermit : ProviderExecutionPermit where
  userId := 7
  organizationId := 3
  botId := 5
  botOrganizationId := 4
  provider := "anthropic"
  model := "claude-3-5-haiku-20241022"
  botToolScope := "standard"
  botVisibility := "public"
  credentialScope := "platform"

/-- The legacy flag is cleared and the string set to `public`: the permit still stands. -/
theorem permit_captures_decision_pier :
    tideRuntime.assertMatches pierPermit pierBot 3 = .ok () ∧
      tideRuntime.authorizeProviderExecution tideMember
        { pierBot with isPublic := some false, botVisibility := some "public" } 3 = .ok pierPermit := by
  have issued : tideRuntime.authorizeProviderExecution tideMember pierBot 3 = .ok pierPermit := by
    decide +kernel
  have captured := permit_captures_decision issued
  exact ⟨captured.1, captured.2 _ (by decide +kernel)⟩

end Eiraos.Governance
