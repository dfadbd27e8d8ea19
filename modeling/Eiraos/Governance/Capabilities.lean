import Eiraos.Foundations.Guarded
import Eiraos.Foundations.PythonText
import Mathlib.Data.Fintype.Defs
import Mathlib.Data.Finset.Basic

/-! # Capabilities (`domains/governance/capabilities.py`)

A grant is a set of capabilities held by a principal.  An execution gets what was requested of
it, as far as the role of the user and the scope of the bot both grant it.
-/

namespace Eiraos.Governance

open Guarded PythonText

inductive Capability where
  | organizationRead
  | organizationUpdate
  | memberInvite
  | memberRemove
  | memberManage
  | botRead
  | botCreate
  | botUpdate
  | botDelete
  | documentRead
  | documentUpload
  | documentDelete
  | conversationRead
  | conversationCreate
  | conversationDelete
  | memoryRead
  | memoryWrite
  | memoryDelete
  | usageRead
  | secretManage
  | providerExecute
  | toolExecuteStandard
  | toolExecuteElevated
  deriving DecidableEq, Repr

instance : Fintype Capability where
  elems :=
    {.organizationRead, .organizationUpdate, .memberInvite, .memberRemove, .memberManage, .botRead,
      .botCreate, .botUpdate, .botDelete, .documentRead, .documentUpload, .documentDelete,
      .conversationRead, .conversationCreate, .conversationDelete, .memoryRead, .memoryWrite,
      .memoryDelete, .usageRead, .secretManage, .providerExecute, .toolExecuteStandard,
      .toolExecuteElevated}
  complete capability := by cases capability <;> decide

def Capability.value : Capability → String
  | organizationRead => "organization:read"
  | organizationUpdate => "organization:update"
  | memberInvite => "member:invite"
  | memberRemove => "member:remove"
  | memberManage => "member:manage"
  | botRead => "bot:read"
  | botCreate => "bot:create"
  | botUpdate => "bot:update"
  | botDelete => "bot:delete"
  | documentRead => "document:read"
  | documentUpload => "document:upload"
  | documentDelete => "document:delete"
  | conversationRead => "conversation:read"
  | conversationCreate => "conversation:create"
  | conversationDelete => "conversation:delete"
  | memoryRead => "memory:read"
  | memoryWrite => "memory:write"
  | memoryDelete => "memory:delete"
  | usageRead => "usage:read"
  | secretManage => "secret:manage"
  | providerExecute => "provider:execute"
  | toolExecuteStandard => "tool:execute:standard"
  | toolExecuteElevated => "tool:execute:elevated"

/-- `Capability(text)`. -/
def coerceCapability (text : String) : Option Capability :=
  ([.organizationRead, .organizationUpdate, .memberInvite, .memberRemove, .memberManage, .botRead,
    .botCreate, .botUpdate, .botDelete, .documentRead, .documentUpload, .documentDelete,
    .conversationRead, .conversationCreate, .conversationDelete, .memoryRead, .memoryWrite,
    .memoryDelete, .usageRead, .secretManage, .providerExecute, .toolExecuteStandard,
    .toolExecuteElevated] : List Capability).find? (·.value = text)

theorem coerceCapability_value (capability : Capability) :
    coerceCapability capability.value = some capability := by
  cases capability <;> decide +kernel

inductive PrincipalType where
  | user
  | organization
  | bot
  | execution
  deriving DecidableEq, Repr

/-- What the policy raises. -/
inductive PolicyError where
  /-- `ProviderPolicyDenied`. -/
  | denied (reason : String)
  /-- `PermissionError`. -/
  | permission (text : String)
  /-- `ValueError`. -/
  | value (text : String)
  /-- The `ValueError` of `int` for a text that is no number. -/
  | noInteger (text : String)
  deriving DecidableEq, Repr

/-- `__post_init__` refuses every other principal. -/
structure Principal where
  kind : PrincipalType
  identifier : String
  organizationId : Int
  explicit : identifier ≠ "" ∧ 0 < organizationId
  deriving DecidableEq, Repr

def Principal.create (kind : PrincipalType) (identifier : String) (organizationId : Int) :
    Except PolicyError Principal :=
  if explicit : identifier ≠ "" ∧ 0 < organizationId then .ok ⟨kind, identifier, organizationId, explicit⟩
  else .error (.value "principal identity and organization must be explicit")

theorem Principal.create_isOk (kind : PrincipalType) {identifier : String} {organizationId : Int} :
    (∃ principal, Principal.create kind identifier organizationId = .ok principal) ↔
      identifier ≠ "" ∧ 0 < organizationId := by
  unfold Principal.create
  split
  next explicit => exact ⟨fun _ => explicit, fun _ => ⟨_, rfl⟩⟩
  next vague => exact ⟨fun ⟨_, created⟩ => (nomatch created), fun explicit => absurd explicit vague⟩

structure CapabilitySet where
  principal : Principal
  capabilities : Finset Capability
  deriving DecidableEq

def OWNER : Finset Capability := Finset.univ

def ADMIN : Finset Capability := OWNER \ {.organizationUpdate, .memberManage, .secretManage}

def MEMBER : Finset Capability :=
  {.botRead, .documentRead, .documentUpload, .conversationRead, .conversationCreate, .conversationDelete,
    .memoryRead, .memoryWrite, .memoryDelete, .usageRead, .providerExecute, .toolExecuteStandard}

def VIEWER : Finset Capability := {.botRead, .documentRead, .conversationRead, .memoryRead}

def ROLE_CAPABILITIES : List (String × Finset Capability) :=
  [("owner", OWNER), ("admin", ADMIN), ("member", MEMBER), ("viewer", VIEWER)]

def BOT_SCOPE_CAPABILITIES : List (String × Finset Capability) :=
  [("restricted", {.providerExecute}), ("standard", {.providerExecute, .toolExecuteStandard}),
    ("elevated", {.providerExecute, .toolExecuteStandard, .toolExecuteElevated})]

/-- Why a role decision is no grant. -/
inductive CapabilityRefusal where
  | unknownCapability
  | tenantMismatch
  | unknownRole
  | capabilityNotGranted
  deriving DecidableEq, Repr

def CapabilityRefusal.reason : CapabilityRefusal → String
  | unknownCapability => "unknown_capability"
  | tenantMismatch => "tenant_mismatch"
  | unknownRole => "unknown_role"
  | capabilityNotGranted => "capability_not_granted"

/-- `decide_role_capability`; a grant names the capability. -/
def decideRoleCapability (table : CaseTable) (role : String) (capability : String)
    (principalOrganizationId resourceOrganizationId : Int) : Except CapabilityRefusal Capability := do
  let parsed ← required .unknownCapability (coerceCapability capability)
  ensure (principalOrganizationId = resourceOrganizationId) .tenantMismatch
  let grants ← required .unknownRole (ROLE_CAPABILITIES.lookup (tidied table (some role)))
  ensure (parsed ∈ grants) .capabilityNotGranted
  return parsed

theorem decideRoleCapability_eq_ok {table : CaseTable} {role capability : String}
    {principalOrganizationId resourceOrganizationId : Int} {granted : Capability} :
    decideRoleCapability table role capability principalOrganizationId resourceOrganizationId = .ok granted ↔
      coerceCapability capability = some granted ∧ principalOrganizationId = resourceOrganizationId ∧
        ∃ grants, ROLE_CAPABILITIES.lookup (tidied table (some role)) = some grants ∧ granted ∈ grants := by
  unfold decideRoleCapability
  constructor
  · intro decided
    obtain ⟨parsed, coerced, rest⟩ := bind_eq_ok.mp decided
    obtain ⟨_, tenant, rest⟩ := bind_eq_ok.mp rest
    obtain ⟨grants, known, rest⟩ := bind_eq_ok.mp rest
    obtain ⟨_, member, returned⟩ := bind_eq_ok.mp rest
    cases pure_eq_ok.mp returned
    exact ⟨required_eq_ok.mp coerced, ensure_eq_ok.mp tenant, grants, required_eq_ok.mp known,
      ensure_eq_ok.mp member⟩
  · rintro ⟨coerced, tenant, grants, known, member⟩
    simp only [coerced, known, required, ensure, tenant, member, if_true, bind, Except.bind, pure, Except.pure]

/-- The grants of a role; an unknown role has none. -/
def roleGrants (role : String) : Finset Capability := (ROLE_CAPABILITIES.lookup role).getD ∅

/-- The grants of a bot scope; an unknown scope has none. -/
@[irreducible] def scopeGrants (table : CaseTable) (botScope : String) : Finset Capability :=
  (BOT_SCOPE_CAPABILITIES.lookup (tidied table (some botScope))).getD ∅

def deriveExecutionCapabilities (table : CaseTable) (userGrant : CapabilitySet) (botPrincipal : Principal)
    (botScope : String) (requested : Finset Capability) (executionId : String) :
    Except PolicyError CapabilitySet := do
  ensure (userGrant.principal.kind = .user)
    (PolicyError.value "execution authority must originate from a user grant")
  ensure (botPrincipal.kind = .bot) (PolicyError.value "bot principal required")
  ensure (userGrant.principal.organizationId = botPrincipal.organizationId)
    (PolicyError.permission "cross-tenant execution grant denied")
  let effective := requested ∩ userGrant.capabilities ∩ scopeGrants table botScope
  let execution ← Principal.create .execution executionId botPrincipal.organizationId
  return ⟨execution, effective⟩

/-- What is derived was requested, and is granted on both sides. -/
theorem deriveExecutionCapabilities_eq_ok {table : CaseTable} {userGrant grant : CapabilitySet}
    {botPrincipal : Principal} {botScope executionId : String} {requested : Finset Capability}
    (derived : deriveExecutionCapabilities table userGrant botPrincipal botScope requested executionId =
      .ok grant) :
    userGrant.principal.kind = .user ∧
      userGrant.principal.organizationId = botPrincipal.organizationId ∧
      grant.capabilities = requested ∩ userGrant.capabilities ∩ scopeGrants table botScope := by
  obtain ⟨_, user, rest⟩ := bind_eq_ok.mp derived
  obtain ⟨_, _, rest⟩ := bind_eq_ok.mp rest
  obtain ⟨_, tenant, rest⟩ := bind_eq_ok.mp rest
  obtain ⟨execution, _, returned⟩ := bind_eq_ok.mp rest
  cases pure_eq_ok.mp returned
  exact ⟨ensure_eq_ok.mp user, ensure_eq_ok.mp tenant, rfl⟩

end Eiraos.Governance
