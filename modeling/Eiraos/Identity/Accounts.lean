import Eiraos.Foundations.Guarded
import Eiraos.Foundations.JsonRoundTrip
import Eiraos.Foundations.PythonText
import Eiraos.Foundations.Rows
import Eiraos.Core.Idempotency

/-! # Accounts (`api/v1/auth.py`, `api/v1/organizations.py`, `domains/identity`, `domains/organizations`)

An account is a user with a membership in the organization that was founded for it.  Each handler is
one transaction: where it raises, the tables are as before.  Password hashing, the JWT library and the
storage of the rate limits are parameters.
-/

namespace Eiraos.Identity

open Guarded PythonText
open PythonJson (JsonValue)

/-! ## Tables -/

structure User where
  id : Nat
  email : String
  name : Option String
  username : Option String
  passwordHash : Option String
  role : String
  isEnabled : Bool
  tokenVersion : Int
  deriving DecidableEq, Repr

structure Organization where
  id : Nat
  name : String
  slug : Option String
  deriving DecidableEq, Repr

structure OrganizationMember where
  id : Nat
  organizationId : Nat
  userId : Nat
  role : String
  deriving DecidableEq, Repr

/-- The columns of the constraint `uq_org_members_user_org`. -/
def OrganizationMember.scope (member : OrganizationMember) : Nat × Nat :=
  (member.userId, member.organizationId)

structure IdentityTables where
  users : List User
  organizations : List Organization
  members : List OrganizationMember
  nextUserId : Nat
  nextOrganizationId : Nat
  nextMemberId : Nat
  deriving DecidableEq, Repr

def IdentityTables.empty : IdentityTables := ⟨[], [], [], 1, 1, 1⟩

/-- What a handler raises.  No handler catches the last three: an exception of the hashing library, of
the database driver, or a `ValueError`.  `rateLimited` is answered with 429. -/
inductive RequestError where
  | http (status : Nat) (detail : String)
  | rateLimited
  | hashing
  | database
  | value (text : String)
  deriving DecidableEq, Repr

/-- A text that a column takes. -/
def fits (limit : Option Nat) (text : String) : Bool :=
  text.toList.all (· ≠ '\x00') && limit.all (text.length ≤ ·)

def User.fits (user : User) : Bool :=
  Identity.fits (some 255) user.email && user.name.all (Identity.fits (some 255)) &&
    user.username.all (Identity.fits (some 255)) && user.passwordHash.all (Identity.fits (some 255)) &&
    Identity.fits (some 50) user.role

namespace IdentityTables

variable (tables : IdentityTables)

/-- `flush` of a new user; `NULL` conflicts with nothing. -/
def insertUser (row : Nat → User) : Except RequestError (User × IdentityTables) := do
  let user := row tables.nextUserId
  ensure (user.fits = true) .database
  ensure (∀ other ∈ tables.users, other.email ≠ user.email) .database
  ensure (∀ other ∈ tables.users, user.username = none ∨ other.username ≠ user.username) .database
  return (user, { tables with users := tables.users ++ [user], nextUserId := tables.nextUserId + 1 })

def insertOrganization (name slug : String) : Except RequestError (Organization × IdentityTables) := do
  let organization : Organization := ⟨tables.nextOrganizationId, name, some slug⟩
  ensure (Identity.fits none name = true ∧ Identity.fits none slug = true) .database
  ensure (∀ other ∈ tables.organizations, other.name ≠ name) .database
  ensure (∀ other ∈ tables.organizations, other.slug ≠ some slug) .database
  return (organization, { tables with
    organizations := tables.organizations ++ [organization]
    nextOrganizationId := tables.nextOrganizationId + 1 })

/-- The foreign keys name existing rows. -/
def insertMember (organizationId userId : Nat) (role : String) : Except RequestError IdentityTables := do
  let member : OrganizationMember := ⟨tables.nextMemberId, organizationId, userId, role⟩
  ensure (∃ organization ∈ tables.organizations, organization.id = organizationId) .database
  ensure (∃ user ∈ tables.users, user.id = userId) .database
  ensure (∀ other ∈ tables.members, other.scope ≠ member.scope) .database
  return { tables with members := tables.members ++ [member], nextMemberId := tables.nextMemberId + 1 }

def userWith? (id : Int) : Option User := tables.users.find? fun user => (user.id : Int) = id

/-- The account of a login name. -/
def account? (username : String) : Option User :=
  tables.users.find? fun user => user.email = username ∨ user.username = some username

def membershipsOf (userId : Nat) : List OrganizationMember :=
  tables.members.filter (·.userId = userId)

def membership? (userId organizationId : Int) : Option OrganizationMember :=
  tables.members.find? fun member => (member.userId : Int) = userId ∧ (member.organizationId : Int) = organizationId

end IdentityTables

theorem userWith?_eq_some {tables : IdentityTables} {id : Int} {user : User}
    (found : tables.userWith? id = some user) : user ∈ tables.users ∧ (user.id : Int) = id :=
  ⟨List.mem_of_find?_eq_some found, by simpa using List.find?_some found⟩

theorem membership?_eq_some {tables : IdentityTables} {userId organizationId : Int}
    {member : OrganizationMember} (found : tables.membership? userId organizationId = some member) :
    member ∈ tables.members ∧ (member.userId : Int) = userId ∧ (member.organizationId : Int) = organizationId :=
  ⟨List.mem_of_find?_eq_some found, by simpa using List.find?_some found⟩

/-! ## Passwords and tokens -/

/-- `pwd_context`, which draws a salt for every hash; a password it refuses has none. -/
structure PasswordLibrary where
  hash : Nat → String → Option String
  /-- `verify_password`, its `except` clause included. -/
  verify : String → String → Bool
  /-- `_DUMMY_PASSWORD_HASH`. -/
  dummyHash : String

structure PasswordLibrary.Lawful (passwords : PasswordLibrary) : Prop where
  verifies : ∀ salt password hashed, passwords.hash salt password = some hashed →
    passwords.verify password hashed = true
  nonempty : ∀ salt password hashed, passwords.hash salt password = some hashed → hashed ≠ ""

/-- The claims of `create_access_token`; the times are whole seconds. -/
structure AccessClaims where
  sub : String
  userId : Nat
  role : String
  organizationId : Nat
  tokenVersion : Int
  exp : Nat
  iat : Nat
  jti : String
  deriving DecidableEq, Repr

def TOKEN_ISSUER : String := "eiraos"
def TOKEN_AUDIENCE : String := "eiraos-api"

def AccessClaims.payload (claims : AccessClaims) : JsonValue :=
  .object [("sub", .string claims.sub), ("user_id", .int claims.userId), ("role", .string claims.role),
    ("organization_id", .int claims.organizationId), ("token_version", .int claims.tokenVersion),
    ("exp", .int claims.exp), ("iat", .int claims.iat), ("jti", .string claims.jti),
    ("iss", .string TOKEN_ISSUER), ("aud", .string TOKEN_AUDIENCE)]

/-- `exp` lies ahead and `iat` does not. -/
def AccessClaims.timely (claims : AccessClaims) (now : Instant) : Prop :=
  seconds claims.iat ≤ now ∧ now < seconds claims.exp

instance (claims : AccessClaims) (now : Instant) : Decidable (claims.timely now) :=
  inferInstanceAs (Decidable (_ ∧ _))

/-- The JWT library with the secret, the algorithm and the options of the deployment; a token it
refuses has no payload. -/
structure JwtLibrary where
  encode : AccessClaims → String
  decode : Instant → String → Option JsonValue

/-- A token of the deployment is read back while it is valid. -/
structure JwtLibrary.Lawful (jwt : JwtLibrary) : Prop where
  reads : ∀ (now : Instant) (claims : AccessClaims), claims.timely now →
    jwt.decode now (jwt.encode claims) = some claims.payload
  expires : ∀ (now : Instant) (claims : AccessClaims), ¬claims.timely now →
    jwt.decode now (jwt.encode claims) = none

/-! ## Rate limits -/

/-- The routes whose handlers `limiter.limit` wraps. -/
inductive LimitedRoute where
  | register
  | login
  | createOrganization
  deriving DecidableEq, Repr

/-- A request that the limiter counts: when, against which client and on which route. -/
structure RateHit where
  time : Instant
  client : String
  route : LimitedRoute
  deriving DecidableEq, Repr

structure Deployment where
  allowPublicRegister : Bool
  accessTokenExpireMinutes : Nat
  lifetimeBounded : 1 ≤ accessTokenExpireMinutes ∧ accessTokenExpireMinutes ≤ 1440
  table : CaseTable
  passwords : PasswordLibrary
  jwt : JwtLibrary
  /-- Whether a request passes, after those that were counted before it. -/
  limiter : List RateHit → RateHit → Bool

/-! ## Handlers -/

/-- The body of a registration; the address is a validated one. -/
structure UserRegister where
  email : String
  password : String
  fullName : Option String
  addressed : email ≠ ""
  bounded : 12 ≤ password.length ∧ password.length ≤ 128

/-- `text.replace(" ", "-")`. -/
def hyphened (text : String) : String := text.map fun character => if character = ' ' then '-' else character

def UserRegister.organizationName (payload : UserRegister) : String :=
  (split '@' payload.email).headD "" ++ "'s Organization"

/-- What a login answers, and the hashes that the password was compared with. -/
structure LoginReply where
  compared : List String
  result : Except RequestError AccessClaims

/-- A user whose password decides. -/
def candidate? (user : Option User) : Option String :=
  (user.filter (·.isEnabled)).bind fun user => user.passwordHash.filter (· ≠ "")

/-- `create_organization`; the creator is the user of the token. -/
def IdentityTables.createOrganization (tables : IdentityTables) (userId : Nat) (name slug : String) :
    Except RequestError (Organization × IdentityTables) := do
  let (organization, tables) ← tables.insertOrganization name slug
  let tables ← tables.insertMember organization.id userId "owner"
  return (organization, tables)

namespace Deployment

variable (deployment : Deployment)

/-- `limiter.limit` around a handler. -/
def limited {Value : Type} (hits : List RateHit) (hit : RateHit) (handler : Except RequestError Value) :
    Except RequestError Value :=
  if deployment.limiter hits hit then handler else .error .rateLimited

def registerUser (tables : IdentityTables) (salt : Nat) (payload : UserRegister) :
    Except RequestError (User × IdentityTables) := do
  ensure (deployment.allowPublicRegister = true)
    (RequestError.http 403 "Public registration is disabled.")
  ensure (∀ user ∈ tables.users, user.email ≠ payload.email)
    (RequestError.http 400 "Email already registered")
  let passwordHash ← required .hashing (deployment.passwords.hash salt payload.password)
  let (user, tables) ← tables.insertUser fun id =>
    ⟨id, payload.email, payload.fullName, some payload.email, some passwordHash, "member", true, 1⟩
  let name := payload.organizationName
  let (organization, tables) ← tables.insertOrganization name (hyphened (lower deployment.table name))
  let tables ← tables.insertMember organization.id user.id "owner"
  return (user, tables)

def createAccessToken (now : Instant) (jti : String) (user : User) (membership : OrganizationMember) :
    AccessClaims where
  sub := user.email
  userId := user.id
  role := membership.role
  organizationId := membership.organizationId
  tokenVersion := user.tokenVersion
  exp := (now + seconds (60 * deployment.accessTokenExpireMinutes)) / 1000000
  iat := now / 1000000
  jti

def login (tables : IdentityTables) (now : Instant) (jti username password : String) : LoginReply :=
  let user := tables.account? username
  let candidateHash := (candidate? user).getD deployment.passwords.dummyHash
  let passwordValid := deployment.passwords.verify password candidateHash
  { compared := [candidateHash]
    result := do
      let user ← required (RequestError.http 401 "Incorrect email or password")
        (user.filter fun user => (candidate? (some user)).isSome && passwordValid)
      let membership ← required (RequestError.http 403 "User has no organization membership")
        (tables.membershipsOf user.id).head?
      return deployment.createAccessToken now jti user membership }

end Deployment

/-! ## What a transaction that succeeds has written -/

section Written

variable {tables next : IdentityTables}

theorem insertUser_eq_ok {row : Nat → User} {user : User} (inserted : tables.insertUser row = .ok (user, next)) :
    user = row tables.nextUserId ∧ (∀ other ∈ tables.users, other.email ≠ user.email) ∧
      (∀ other ∈ tables.users, user.username = none ∨ other.username ≠ user.username) ∧
      next = { tables with users := tables.users ++ [user], nextUserId := tables.nextUserId + 1 } := by
  obtain ⟨_, _, rest⟩ := bind_eq_ok.mp inserted
  obtain ⟨_, emails, rest⟩ := bind_eq_ok.mp rest
  obtain ⟨_, usernames, returned⟩ := bind_eq_ok.mp rest
  cases pure_eq_ok.mp returned
  exact ⟨rfl, ensure_eq_ok.mp emails, ensure_eq_ok.mp usernames, rfl⟩

theorem insertOrganization_eq_ok {name slug : String} {organization : Organization}
    (inserted : tables.insertOrganization name slug = .ok (organization, next)) :
    organization = ⟨tables.nextOrganizationId, name, some slug⟩ ∧
      next = { tables with
        organizations := tables.organizations ++ [organization]
        nextOrganizationId := tables.nextOrganizationId + 1 } := by
  obtain ⟨_, _, rest⟩ := bind_eq_ok.mp inserted
  obtain ⟨_, _, rest⟩ := bind_eq_ok.mp rest
  obtain ⟨_, _, returned⟩ := bind_eq_ok.mp rest
  cases pure_eq_ok.mp returned
  exact ⟨rfl, rfl⟩

theorem insertMember_eq_ok {organizationId userId : Nat} {role : String}
    (inserted : tables.insertMember organizationId userId role = .ok next) :
    (∃ organization ∈ tables.organizations, organization.id = organizationId) ∧
      (∃ user ∈ tables.users, user.id = userId) ∧
      (∀ other ∈ tables.members, other.scope ≠ (userId, organizationId)) ∧
      next = { tables with
        members := tables.members ++ [⟨tables.nextMemberId, organizationId, userId, role⟩]
        nextMemberId := tables.nextMemberId + 1 } := by
  obtain ⟨_, organization, rest⟩ := bind_eq_ok.mp inserted
  obtain ⟨_, user, rest⟩ := bind_eq_ok.mp rest
  obtain ⟨_, fresh, returned⟩ := bind_eq_ok.mp rest
  cases pure_eq_ok.mp returned
  exact ⟨ensure_eq_ok.mp organization, ensure_eq_ok.mp user, ensure_eq_ok.mp fresh, rfl⟩

/-- The three flushes of a registration. -/
theorem registerUser_eq_ok {deployment : Deployment} {salt : Nat} {payload : UserRegister} {user : User}
    (registered : deployment.registerUser tables salt payload = .ok (user, next)) :
    ∃ passwordHash, deployment.passwords.hash salt payload.password = some passwordHash ∧
      ∃ withUser, tables.insertUser (fun id => ⟨id, payload.email, payload.fullName, some payload.email,
          some passwordHash, "member", true, 1⟩) = .ok (user, withUser) ∧
        ∃ organization withOrganization,
          withUser.insertOrganization payload.organizationName
              (hyphened (lower deployment.table payload.organizationName)) =
            .ok (organization, withOrganization) ∧
          withOrganization.insertMember organization.id user.id "owner" = .ok next := by
  obtain ⟨_, _, rest⟩ := bind_eq_ok.mp registered
  obtain ⟨_, _, rest⟩ := bind_eq_ok.mp rest
  obtain ⟨passwordHash, hashed, rest⟩ := bind_eq_ok.mp rest
  obtain ⟨⟨inserted, withUser⟩, insertedUser, rest⟩ := bind_eq_ok.mp rest
  obtain ⟨⟨organization, withOrganization⟩, insertedOrganization, rest⟩ := bind_eq_ok.mp rest
  obtain ⟨withMember, insertedMember, returned⟩ := bind_eq_ok.mp rest
  cases pure_eq_ok.mp returned
  exact ⟨passwordHash, required_eq_ok.mp hashed, withUser, insertedUser, organization, withOrganization,
    insertedOrganization, insertedMember⟩

theorem createOrganization_eq_ok {userId : Nat} {name slug : String} {organization : Organization}
    (created : tables.createOrganization userId name slug = .ok (organization, next)) :
    ∃ withOrganization, tables.insertOrganization name slug = .ok (organization, withOrganization) ∧
      withOrganization.insertMember organization.id userId "owner" = .ok next := by
  obtain ⟨⟨inserted, withOrganization⟩, insertedOrganization, rest⟩ := bind_eq_ok.mp created
  obtain ⟨withMember, insertedMember, returned⟩ := bind_eq_ok.mp rest
  cases pure_eq_ok.mp returned
  exact ⟨withOrganization, insertedOrganization, insertedMember⟩

end Written

theorem candidate?_eq_some {user : User} {passwordHash : String} :
    candidate? (some user) = some passwordHash ↔
      user.isEnabled = true ∧ user.passwordHash = some passwordHash ∧ passwordHash ≠ "" := by
  unfold candidate?
  rw [Option.bind_eq_some_iff]
  constructor
  · rintro ⟨found, selected, stored⟩
    obtain ⟨same, enabled⟩ := Option.filter_eq_some_iff.mp selected
    cases same
    obtain ⟨hashed, nonempty⟩ := Option.filter_eq_some_iff.mp stored
    exact ⟨enabled, hashed, of_decide_eq_true nonempty⟩
  · rintro ⟨enabled, hashed, nonempty⟩
    exact ⟨user, Option.filter_eq_some_iff.mpr ⟨rfl, enabled⟩,
      Option.filter_eq_some_iff.mpr ⟨hashed, decide_eq_true nonempty⟩⟩

/-- A login succeeds for an enabled account whose hash the password passes. -/
theorem login_eq_ok {deployment : Deployment} {tables : IdentityTables} {now : Instant}
    {jti username password : String} {claims : AccessClaims} :
    (deployment.login tables now jti username password).result = .ok claims ↔
      ∃ user, tables.account? username = some user ∧ user.isEnabled = true ∧
        (∃ passwordHash, user.passwordHash = some passwordHash ∧ passwordHash ≠ "" ∧
          deployment.passwords.verify password passwordHash = true) ∧
        ∃ membership, (tables.membershipsOf user.id).head? = some membership ∧
          claims = deployment.createAccessToken now jti user membership := by
  constructor
  · intro issued
    obtain ⟨user, selected, rest⟩ := bind_eq_ok.mp issued
    obtain ⟨membership, found, returned⟩ := bind_eq_ok.mp rest
    obtain ⟨account, passed⟩ := Option.filter_eq_some_iff.mp (required_eq_ok.mp selected)
    obtain ⟨known, valid⟩ := Bool.and_eq_true_iff.mp passed
    obtain ⟨passwordHash, candidate⟩ := Option.isSome_iff_exists.mp known
    rw [account, candidate, Option.getD_some] at valid
    obtain ⟨enabled, stored, nonempty⟩ := candidate?_eq_some.mp candidate
    exact ⟨user, account, enabled, ⟨passwordHash, stored, nonempty, valid⟩, membership,
      required_eq_ok.mp found, (pure_eq_ok.mp returned).symm⟩
  · rintro ⟨user, account, enabled, ⟨passwordHash, stored, nonempty, valid⟩, membership, found, rfl⟩
    have candidate := candidate?_eq_some.mpr ⟨enabled, stored, nonempty⟩
    have passed : ((candidate? (some user)).isSome && deployment.passwords.verify password
        ((candidate? (tables.account? username)).getD deployment.passwords.dummyHash)) = true := by
      rw [account, candidate, Option.getD_some, valid]
      rfl
    refine bind_eq_ok.mpr ⟨user, required_eq_ok.mpr (Option.filter_eq_some_iff.mpr ⟨account, passed⟩), ?_⟩
    exact bind_eq_ok.mpr ⟨membership, required_eq_ok.mpr found, rfl⟩

/-! ## A deployment without secrets -/

section Plain

open PythonJson (JsonValue)
open JsonText

def payloadTimely (now : Instant) (payload : JsonValue) : Bool :=
  match payload.field "iat", payload.field "exp" with
  | .int issued, .int expires => issued * 1000000 ≤ now ∧ now < expires * 1000000
  | _, _ => false

/-- The payload as JSON, unsigned. -/
def plainJwt : JwtLibrary where
  encode claims := dumps claims.payload
  decode now token := (loads (fun _ => .null) token).filter (payloadTimely now)

def plainPasswords : PasswordLibrary where
  hash _ password := some ("$" ++ password)
  verify password hashed := hashed = "$" ++ password
  dummyHash := ""

/-- Five requests of a client in a minute of the clock. -/
def fivePerMinute (hits : List RateHit) (hit : RateHit) : Bool :=
  (hits.filter fun other => other.client = hit.client && other.route = hit.route &&
    other.time / seconds 60 = hit.time / seconds 60).length < 5

def plainDeployment : Deployment where
  allowPublicRegister := true
  accessTokenExpireMinutes := 60
  lifetimeBounded := by decide
  table := fun _ character _ => [character]
  passwords := plainPasswords
  jwt := plainJwt
  limiter := fivePerMinute

theorem plain_accessClaims (claims : AccessClaims) : Plain claims.payload := by
  refine .object (by simp) ?_
  simp only [List.forall_mem_cons]
  exact ⟨.string _, .int _, .string _, .int _, .int _, .int _, .int _, .string _, .string _, .string _,
    fun _ absent => nomatch absent⟩

theorem payloadTimely_payload (now : Instant) (claims : AccessClaims) :
    payloadTimely now claims.payload = decide (claims.timely now) := by
  have issued : claims.payload.field "iat" = .int claims.iat := by
    simp [AccessClaims.payload, JsonValue.field, JsonValue.member?]
  have expires : claims.payload.field "exp" = .int claims.exp := by
    simp [AccessClaims.payload, JsonValue.field, JsonValue.member?]
  have same : ∀ seen stored : Nat, (stored : Int) * 1000000 ≤ (seen : Int) ↔ stored * 1000000 ≤ seen := by
    omega
  have later : ∀ seen stored : Nat, (seen : Int) < (stored : Int) * 1000000 ↔ seen < stored * 1000000 := by
    omega
  rw [payloadTimely, issued, expires]
  exact decide_eq_decide.mpr (and_congr (same now claims.iat) (later now claims.exp))

theorem plainJwt_decode (now : Instant) (claims : AccessClaims) :
    plainJwt.decode now (plainJwt.encode claims) = if claims.timely now then some claims.payload else none := by
  simp only [plainJwt, loads_dumps (plain_accessClaims claims), Option.filter_some, payloadTimely_payload,
    decide_eq_true_eq]

theorem plainJwt_lawful : plainDeployment.jwt.Lawful where
  reads now claims timely := (plainJwt_decode now claims).trans (if_pos timely)
  expires now claims late := (plainJwt_decode now claims).trans (if_neg late)

theorem plainPasswords_lawful : plainDeployment.passwords.Lawful where
  verifies _ _ _ stored := decide_eq_true (Option.some.inj stored).symm
  nonempty _ password hashed stored empty := by
    have same : "$" ++ password = hashed := Option.some.inj stored
    have lengths := congrArg String.length (same.trans empty)
    simp at lengths

end Plain

end Eiraos.Identity
