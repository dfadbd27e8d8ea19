import Eiraos.Identity.Accounts
import Eiraos.Governance.ExecutionPolicy
import Eiraos.Foundations.DelimitedText

/-! # Who a request is from (`api/v1/auth.py`, `application/authorization.py`)

A token names a user, an organization and a role.  The role is never read: the membership in the
database has the authority, and the user's row decides whether the token still counts.
-/

namespace Eiraos.Identity

open Guarded PythonText
open PythonJson (JsonValue)
open Governance (AuthorizationContext Capability Principal coerceCapability decideRoleCapability
  decideRoleCapability_eq_ok ROLE_CAPABILITIES)

/-- What `get_current_user` reads from a token. -/
structure TokenIdentity where
  email : String
  userId : Int
  role : JsonValue
  organizationId : Int
  jti : String
  tokenVersion : Int

def credentialsException : RequestError := .http 401 "Could not validate credentials"

/-- A string that is not empty. -/
def someText? : JsonValue → Option String
  | .string text => if text = "" then none else some text
  | _ => none

/-- An integer above zero; a boolean is none. -/
def positive? : JsonValue → Option Int
  | .int value => if 0 < value then some value else none
  | _ => none

inductive AuthorizationError where
  /-- `AuthorizationDenied`. -/
  | denied (reason : String)
  | value (text : String)
  deriving DecidableEq, Repr

/-- The dependencies of an endpoint. -/
structure Guard where
  /-- `require_permission`. -/
  permission : Option Capability
  /-- `get_current_active_organization`. -/
  activeOrganization : Bool
  deriving DecidableEq, Repr

/-- The endpoints that ask for a token. -/
inductive Endpoint where
  | me
  | metrics
  | createOrganization
  | listOrganizations
  | createBot
  | listBots
  | chatCompletions
  | createConversation
  | listConversations
  | conversationMessages
  | deleteConversation
  | uploadDocument
  | ingestDocument
  | documentStatus
  | searchDocuments
  | createMemory
  | listMemory
  | deleteMemory
  | memoryProvenance
  deriving DecidableEq, Repr

def Endpoint.guard : Endpoint → Guard
  | me | metrics => ⟨none, true⟩
  | createOrganization => ⟨none, false⟩
  | listOrganizations => ⟨some .organizationRead, false⟩
  | createBot => ⟨some .botCreate, true⟩
  | listBots => ⟨some .botRead, true⟩
  | chatCompletions | createConversation => ⟨some .conversationCreate, true⟩
  | listConversations | conversationMessages => ⟨some .conversationRead, true⟩
  | deleteConversation => ⟨some .conversationDelete, true⟩
  | uploadDocument | ingestDocument => ⟨some .documentUpload, true⟩
  | documentStatus | searchDocuments => ⟨some .documentRead, true⟩
  | createMemory => ⟨some .memoryWrite, true⟩
  | listMemory | memoryProvenance => ⟨some .memoryRead, true⟩
  | deleteMemory => ⟨some .memoryDelete, true⟩

/-- What the handler of an endpoint is given. -/
structure Caller where
  userId : Int
  organizationId : Int
  authorization : Option AuthorizationContext
  deriving DecidableEq, Repr

def getCurrentActiveOrganization (tables : IdentityTables) (identity : TokenIdentity) :
    Except RequestError Int := do
  ensure (identity.organizationId ≠ 0 ∧ identity.userId ≠ 0)
    (RequestError.http 403 "Invalid organization context")
  let _ ← required (RequestError.http 403 "User is not a member of this organization")
    (tables.membership? identity.userId identity.organizationId)
  let user ← required (RequestError.http 401 "Identity is inactive")
    ((tables.userWith? identity.userId).filter (·.isEnabled))
  ensure (identity.tokenVersion = user.tokenVersion) (RequestError.http 401 "Token has been revoked")
  return identity.organizationId

/-- The organization of an endpoint, looked up where it asks for that. -/
def resolveOrganization (tables : IdentityTables) (identity : TokenIdentity) (active : Bool) :
    Except RequestError Int :=
  if active then getCurrentActiveOrganization tables identity else .ok identity.organizationId

namespace Deployment

variable (deployment : Deployment)

def getCurrentUser (now : Instant) (token : String) : Except RequestError TokenIdentity := do
  let payload ← required credentialsException (deployment.jwt.decode now token)
  let email ← required credentialsException (someText? (payload.field "sub"))
  let userId ← required credentialsException (positive? (payload.field "user_id"))
  let organizationId ← required credentialsException (positive? (payload.field "organization_id"))
  let tokenVersion ← required credentialsException (positive? (payload.field "token_version"))
  let jti ← required credentialsException (someText? (payload.field "jti"))
  return { email, userId, role := payload.field "role" (.string "member"), organizationId, jti, tokenVersion }

/-- `AuthorizationBoundary.authorize`. -/
def authorize (tables : IdentityTables) (identity : TokenIdentity) (capability : String)
    (resourceOrganizationId : Option Int) : Except AuthorizationError AuthorizationContext := do
  ensure (0 < identity.userId) (.denied "invalid_identity")
  ensure (0 < identity.organizationId) (.denied "invalid_tenant")
  let membership ← required (.denied "membership_not_found")
    (tables.membership? identity.userId identity.organizationId)
  let _ ← (decideRoleCapability deployment.table membership.role capability identity.organizationId
    (resourceOrganizationId.getD identity.organizationId)).mapError (AuthorizationError.denied ·.reason)
  let user ← (Principal.create .user (toString identity.userId) identity.organizationId).mapError
    fun _ => AuthorizationError.value "principal identity and organization must be explicit"
  let organization ← (Principal.create .organization (toString identity.organizationId)
    identity.organizationId).mapError
    fun _ => AuthorizationError.value "principal identity and organization must be explicit"
  return { user, organization, role := tidied deployment.table (some membership.role) }

def requirePermission (tables : IdentityTables) (identity : TokenIdentity) (capability : Capability) :
    Except RequestError AuthorizationContext := do
  let requiredPermission := capability.value
  ensure (identity.userId ≠ 0 ∧ identity.organizationId ≠ 0)
    (RequestError.http 403 "Invalid organization context")
  (deployment.authorize tables identity requiredPermission (some identity.organizationId)).mapError fun
    | .denied _ => .http 403 s!"Permission denied: missing required permission '{requiredPermission}'"
    | .value text => .value text

/-- The permission of an endpoint, if it asks for one. -/
def resolvePermission (tables : IdentityTables) (identity : TokenIdentity) :
    Option Capability → Except RequestError (Option AuthorizationContext)
  | some capability => some <$> deployment.requirePermission tables identity capability
  | none => pure none

/-- The dependencies of an endpoint in the order in which they are resolved. -/
def admission (tables : IdentityTables) (now : Instant) (guard : Guard) (token : String) :
    Except RequestError Caller := do
  let identity ← deployment.getCurrentUser now token
  let authorization ← deployment.resolvePermission tables identity guard.permission
  let _ ← resolveOrganization tables identity guard.activeOrganization
  return ⟨identity.userId, identity.organizationId, authorization⟩

end Deployment

/-! ## What the dependencies ask for -/

theorem toString_ne_empty {value : Int} (positive : 0 < value) : toString value ≠ "" := by
  obtain ⟨number, rfl⟩ := Int.eq_ofNat_of_zero_le positive.le
  intro empty
  have digits := DelimitedText.decimal_ne_nil number
  unfold DelimitedText.decimal at digits
  exact digits (congrArg String.toList empty)

/-- The membership of the user in the organization has a role with the capability. -/
def IdentityTables.Grants (tables : IdentityTables) (table : CaseTable) (userId organizationId : Int)
    (capability : Capability) : Prop :=
  ∃ membership, tables.membership? userId organizationId = some membership ∧
    ∃ grants, ROLE_CAPABILITIES.lookup (tidied table (some membership.role)) = some grants ∧
      capability ∈ grants

/-- The user is a member, enabled, and at this token version. -/
def IdentityTables.Active (tables : IdentityTables) (userId organizationId tokenVersion : Int) : Prop :=
  (∃ membership, tables.membership? userId organizationId = some membership) ∧
    ∃ user, tables.userWith? userId = some user ∧ user.isEnabled = true ∧ user.tokenVersion = tokenVersion

section Dependencies

variable {deployment : Deployment} {tables : IdentityTables} {identity : TokenIdentity}

theorem authorize_isOk {capability : Capability} (user : 0 < identity.userId)
    (organization : 0 < identity.organizationId) :
    (∃ context, deployment.authorize tables identity capability.value (some identity.organizationId) =
        .ok context) ↔
      tables.Grants deployment.table identity.userId identity.organizationId capability := by
  constructor
  · rintro ⟨context, authorized⟩
    obtain ⟨_, _, rest⟩ := bind_eq_ok.mp authorized
    obtain ⟨_, _, rest⟩ := bind_eq_ok.mp rest
    obtain ⟨membership, found, rest⟩ := bind_eq_ok.mp rest
    obtain ⟨granted, decided, _⟩ := bind_eq_ok.mp rest
    obtain ⟨coerced, _, grants, known, member⟩ := decideRoleCapability_eq_ok.mp (mapError_eq_ok.mp decided)
    rw [Governance.coerceCapability_value] at coerced
    cases coerced
    exact ⟨membership, required_eq_ok.mp found, grants, known, member⟩
  · rintro ⟨membership, found, grants, known, member⟩
    obtain ⟨userPrincipal, createdUser⟩ :=
      (Principal.create_isOk .user).mpr ⟨toString_ne_empty user, organization⟩
    obtain ⟨organizationPrincipal, createdOrganization⟩ :=
      (Principal.create_isOk .organization).mpr ⟨toString_ne_empty organization, organization⟩
    have decided : decideRoleCapability deployment.table membership.role capability.value
        identity.organizationId identity.organizationId = .ok capability := decideRoleCapability_eq_ok.mpr
      ⟨Governance.coerceCapability_value capability, rfl, grants, known, member⟩
    refine ⟨⟨userPrincipal, organizationPrincipal, tidied deployment.table (some membership.role)⟩, ?_⟩
    refine bind_eq_ok.mpr ⟨(), ensure_eq_ok.mpr user, ?_⟩
    refine bind_eq_ok.mpr ⟨(), ensure_eq_ok.mpr organization, ?_⟩
    refine bind_eq_ok.mpr ⟨membership, required_eq_ok.mpr found, ?_⟩
    refine bind_eq_ok.mpr ⟨capability, mapError_eq_ok.mpr decided, ?_⟩
    refine bind_eq_ok.mpr ⟨userPrincipal, mapError_eq_ok.mpr createdUser, ?_⟩
    exact bind_eq_ok.mpr ⟨organizationPrincipal, mapError_eq_ok.mpr createdOrganization, rfl⟩

theorem requirePermission_isOk {capability : Capability} (user : 0 < identity.userId)
    (organization : 0 < identity.organizationId) :
    (∃ context, deployment.requirePermission tables identity capability = .ok context) ↔
      tables.Grants deployment.table identity.userId identity.organizationId capability := by
  rw [← authorize_isOk user organization]
  constructor
  · rintro ⟨context, permitted⟩
    obtain ⟨_, _, authorized⟩ := bind_eq_ok.mp permitted
    exact ⟨context, mapError_eq_ok.mp authorized⟩
  · rintro ⟨context, authorized⟩
    exact ⟨context, bind_eq_ok.mpr
      ⟨(), ensure_eq_ok.mpr ⟨user.ne', organization.ne'⟩, mapError_eq_ok.mpr authorized⟩⟩

theorem getCurrentActiveOrganization_isOk (user : 0 < identity.userId)
    (organization : 0 < identity.organizationId) :
    (∃ id, getCurrentActiveOrganization tables identity = .ok id) ↔
      tables.Active identity.userId identity.organizationId identity.tokenVersion := by
  constructor
  · rintro ⟨id, active⟩
    obtain ⟨_, _, rest⟩ := bind_eq_ok.mp active
    obtain ⟨membership, found, rest⟩ := bind_eq_ok.mp rest
    obtain ⟨row, selected, rest⟩ := bind_eq_ok.mp rest
    obtain ⟨_, current, _⟩ := bind_eq_ok.mp rest
    obtain ⟨stored, enabled⟩ := Option.filter_eq_some_iff.mp (required_eq_ok.mp selected)
    exact ⟨⟨membership, required_eq_ok.mp found⟩, row, stored, enabled, (ensure_eq_ok.mp current).symm⟩
  · rintro ⟨⟨membership, found⟩, row, stored, enabled, current⟩
    have selected := Option.filter_eq_some_iff.mpr ⟨stored, enabled⟩
    refine ⟨identity.organizationId, bind_eq_ok.mpr ⟨(), ensure_eq_ok.mpr ⟨organization.ne', user.ne'⟩, ?_⟩⟩
    refine bind_eq_ok.mpr ⟨membership, required_eq_ok.mpr found, ?_⟩
    refine bind_eq_ok.mpr ⟨row, required_eq_ok.mpr selected, ?_⟩
    exact bind_eq_ok.mpr ⟨(), ensure_eq_ok.mpr current.symm, rfl⟩

theorem resolvePermission_isOk {permission : Option Capability} (user : 0 < identity.userId)
    (organization : 0 < identity.organizationId) :
    (∃ authorization, deployment.resolvePermission tables identity permission = .ok authorization) ↔
      ∀ capability ∈ permission,
        tables.Grants deployment.table identity.userId identity.organizationId capability := by
  cases permission with
  | none => exact ⟨fun _ capability absent => (nomatch absent), fun _ => ⟨none, rfl⟩⟩
  | some capability =>
    simp only [Option.mem_some_iff, forall_eq', ← requirePermission_isOk user organization,
      Deployment.resolvePermission, map_eq_ok]
    exact ⟨fun ⟨_, context, permitted, _⟩ => ⟨context, permitted⟩,
      fun ⟨context, permitted⟩ => ⟨_, context, permitted, rfl⟩⟩

theorem resolveOrganization_isOk {active : Bool} (user : 0 < identity.userId)
    (organization : 0 < identity.organizationId) :
    (∃ id, resolveOrganization tables identity active = .ok id) ↔
      (active = true → tables.Active identity.userId identity.organizationId identity.tokenVersion) := by
  cases active with
  | false => exact ⟨fun _ asked => (nomatch asked), fun _ => ⟨_, rfl⟩⟩
  | true => simpa [resolveOrganization] using getCurrentActiveOrganization_isOk user organization

end Dependencies

/-! ## Tokens of the deployment -/

variable {deployment : Deployment} {tables : IdentityTables}

/-- What the claims of a token always are. -/
structure AccessClaims.WellFormed (claims : AccessClaims) : Prop where
  subject : claims.sub ≠ ""
  user : 0 < claims.userId
  organization : 0 < claims.organizationId
  version : 0 < claims.tokenVersion
  jti : claims.jti ≠ ""

def AccessClaims.identity (claims : AccessClaims) : TokenIdentity where
  email := claims.sub
  userId := claims.userId
  role := .string claims.role
  organizationId := claims.organizationId
  jti := claims.jti
  tokenVersion := claims.tokenVersion

theorem getCurrentUser_encode (lawful : deployment.jwt.Lawful) {now : Instant} {claims : AccessClaims}
    (wellFormed : claims.WellFormed) (timely : claims.timely now) :
    deployment.getCurrentUser now (deployment.jwt.encode claims) = .ok claims.identity := by
  have user : (0 : Int) < claims.userId := Int.natCast_pos.mpr wellFormed.user
  have organization : (0 : Int) < claims.organizationId := Int.natCast_pos.mpr wellFormed.organization
  refine bind_eq_ok.mpr ⟨claims.payload, required_eq_ok.mpr (lawful.reads now claims timely), ?_⟩
  refine bind_eq_ok.mpr ⟨claims.sub, required_eq_ok.mpr (if_neg wellFormed.subject), ?_⟩
  refine bind_eq_ok.mpr ⟨claims.userId, required_eq_ok.mpr (if_pos user), ?_⟩
  refine bind_eq_ok.mpr ⟨claims.organizationId, required_eq_ok.mpr (if_pos organization), ?_⟩
  refine bind_eq_ok.mpr ⟨claims.tokenVersion, required_eq_ok.mpr (if_pos wellFormed.version), ?_⟩
  exact bind_eq_ok.mpr ⟨claims.jti, required_eq_ok.mpr (if_neg wellFormed.jti), rfl⟩

/-- Who is admitted with a token of the deployment: nothing is asked of the role it names. -/
theorem admit_encode (lawful : deployment.jwt.Lawful) {now : Instant} {claims : AccessClaims}
    (wellFormed : claims.WellFormed) {guard : Guard} {userId organizationId : Int} :
    (∃ caller, deployment.admission tables now guard (deployment.jwt.encode claims) = .ok caller ∧
        caller.userId = userId ∧ caller.organizationId = organizationId) ↔
      claims.timely now ∧ (claims.userId : Int) = userId ∧ (claims.organizationId : Int) = organizationId ∧
        (∀ capability ∈ guard.permission,
          tables.Grants deployment.table userId organizationId capability) ∧
        (guard.activeOrganization = true → tables.Active userId organizationId claims.tokenVersion) := by
  have user : 0 < claims.identity.userId := Int.natCast_pos.mpr wellFormed.user
  have organization : 0 < claims.identity.organizationId := Int.natCast_pos.mpr wellFormed.organization
  constructor
  · rintro ⟨caller, admitted, rfl, rfl⟩
    obtain ⟨identity, read, rest⟩ := bind_eq_ok.mp admitted
    have timely : claims.timely now := by
      by_contra late
      simp [Deployment.getCurrentUser, lawful.expires now claims late, required, bind, Except.bind] at read
    rw [getCurrentUser_encode lawful wellFormed timely] at read
    cases read
    obtain ⟨authorization, permitted, rest⟩ := bind_eq_ok.mp rest
    obtain ⟨_, active, returned⟩ := bind_eq_ok.mp rest
    cases pure_eq_ok.mp returned
    exact ⟨timely, rfl, rfl, (resolvePermission_isOk user organization).mp ⟨_, permitted⟩,
      (resolveOrganization_isOk user organization).mp ⟨_, active⟩⟩
  · rintro ⟨timely, rfl, rfl, granted, active⟩
    obtain ⟨authorization, permitted⟩ := (resolvePermission_isOk user organization).mpr granted
    obtain ⟨id, current⟩ := (resolveOrganization_isOk user organization).mpr active
    refine ⟨⟨claims.userId, claims.organizationId, authorization⟩, ?_, rfl, rfl⟩
    refine bind_eq_ok.mpr ⟨claims.identity, getCurrentUser_encode lawful wellFormed timely, ?_⟩
    refine bind_eq_ok.mpr ⟨authorization, permitted, ?_⟩
    exact bind_eq_ok.mpr ⟨id, current, rfl⟩

end Eiraos.Identity
