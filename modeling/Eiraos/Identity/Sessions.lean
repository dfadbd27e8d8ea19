import Mathlib.Data.List.Find
import Eiraos.Foundations.Run
import Eiraos.Identity.Authorization

/-! # Sessions over the life of a deployment

Clients register, log in, found organizations and present tokens; operators enable and disable users,
set passwords, revoke tokens by raising the user's version, and change memberships.
-/

namespace Eiraos.Identity

open Guarded PythonText Transition

/-- A token with the login that it was issued for: the row of the account and the password. -/
structure Session where
  account : User
  password : String
  claims : AccessClaims
  deriving DecidableEq, Repr

structure IdentityState where
  tables : IdentityTables
  issued : List Session
  hits : List RateHit
  now : Instant
  deriving DecidableEq, Repr

/-- A request of a client has the address that it is counted against. -/
inductive IdentityLabel where
  | wait (duration : Instant)
  | register (client : String) (salt : Nat) (payload : UserRegister)
  | createOrganization (client token name slug : String)
  | login (client jti username password : String)
  | setEnabled (userId : Nat) (enabled : Bool)
  | setPassword (userId : Nat) (passwordHash : Option String)
  | revoke (userId : Nat)
  | enroll (organizationId userId : Nat) (role : String)
  | setRole (organizationId userId : Nat) (role : String)
  | expel (organizationId userId : Nat)

/-- The user whose row or memberships an operator changes. -/
def IdentityLabel.operatesOn? : IdentityLabel → Option Nat
  | setEnabled userId _ | setPassword userId _ | revoke userId => some userId
  | enroll _ userId _ | setRole _ userId _ | expel _ userId => some userId
  | wait _ | register _ _ _ | createOrganization _ _ _ _ | login _ _ _ _ => none

def IdentityLabel.duration : IdentityLabel → Instant
  | wait duration => duration
  | _ => 0

/-- The `jti` of a token is what `uuid4` draws, never an empty text. -/
def IdentityLabel.drawn : IdentityLabel → Bool
  | login _ jti _ _ => jti ≠ ""
  | _ => true

namespace IdentityTables

/-- `UPDATE users SET ... WHERE id = userId`. -/
def updateUser (tables : IdentityTables) (userId : Nat) (change : User → User) : IdentityTables :=
  { tables with users := tables.users.map fun user => if user.id = userId then change user else user }

def updateMember (tables : IdentityTables) (organizationId userId : Nat)
    (change : OrganizationMember → OrganizationMember) : IdentityTables :=
  { tables with
    members := tables.members.map fun member =>
      if member.scope = (userId, organizationId) then change member else member }

def deleteMember (tables : IdentityTables) (organizationId userId : Nat) : IdentityTables :=
  { tables with members := tables.members.filter (·.scope ≠ (userId, organizationId)) }

/-- The tables after a transaction: one that raised is rolled back. -/
def after {Value : Type} (tables : IdentityTables) :
    Except RequestError (Value × IdentityTables) → IdentityTables
  | .ok (_, changed) => changed
  | .error _ => tables

end IdentityTables

def IdentityState.initial : IdentityState := ⟨.empty, [], [], 0⟩

namespace Deployment

variable (deployment : Deployment)

/-- The tables after the request of a client or the change of an operator. -/
def change (state : IdentityState) : IdentityLabel → IdentityTables
  | .wait _ | .login _ _ _ _ => state.tables
  | .register client salt payload =>
    state.tables.after (deployment.limited state.hits ⟨state.now, client, .register⟩
      (deployment.registerUser state.tables salt payload))
  | .createOrganization client token name slug =>
    match deployment.admission state.tables state.now Endpoint.createOrganization.guard token with
    | .ok caller =>
      state.tables.after (deployment.limited state.hits ⟨state.now, client, .createOrganization⟩
        (state.tables.createOrganization caller.userId.toNat name slug))
    | .error _ => state.tables
  | .setEnabled userId enabled =>
    state.tables.updateUser userId fun user => { user with isEnabled := enabled }
  | .setPassword userId passwordHash =>
    state.tables.updateUser userId fun user =>
      { user with passwordHash, tokenVersion := user.tokenVersion + 1 }
  | .revoke userId =>
    state.tables.updateUser userId fun user => { user with tokenVersion := user.tokenVersion + 1 }
  | .enroll organizationId userId role =>
    match state.tables.insertMember organizationId userId role with
    | .ok changed => changed
    | .error _ => state.tables
  | .setRole organizationId userId role =>
    state.tables.updateMember organizationId userId fun member => { member with role }
  | .expel organizationId userId => state.tables.deleteMember organizationId userId

/-- `POST /auth/login`. -/
def loginRequest (state : IdentityState) (client jti username password : String) :
    Except RequestError AccessClaims :=
  deployment.limited state.hits ⟨state.now, client, .login⟩
    (deployment.login state.tables state.now jti username password).result

/-- The sessions after a login. -/
def sessions (state : IdentityState) : IdentityLabel → List Session
  | .login client jti username password =>
    match state.tables.account? username, deployment.loginRequest state client jti username password with
    | some account, .ok claims => state.issued ++ [⟨account, password, claims⟩]
    | _, _ => state.issued
  | _ => state.issued

/-- What the limiter counts of a request, whether it passes or not; the caller is known before. -/
def counted (state : IdentityState) : IdentityLabel → List RateHit
  | .register client _ _ => [⟨state.now, client, .register⟩]
  | .login client _ _ _ => [⟨state.now, client, .login⟩]
  | .createOrganization client token _ _ =>
    match deployment.admission state.tables state.now Endpoint.createOrganization.guard token with
    | .ok _ => [⟨state.now, client, .createOrganization⟩]
    | .error _ => []
  | _ => []

def step (state : IdentityState) (label : IdentityLabel) : Option IdentityState :=
  if label.drawn then
    some ⟨deployment.change state label, deployment.sessions state label,
      state.hits ++ deployment.counted state label, state.now + label.duration⟩
  else none

end Deployment

/-! ## The tables -/

/-- What every transaction keeps. -/
structure IdentityTables.Consistent (tables : IdentityTables) : Prop where
  userIds : Rows.Unique User.id tables.users
  userBounds : ∀ user ∈ tables.users, 0 < user.id ∧ user.id < tables.nextUserId
  emails : Rows.Unique User.email tables.users
  usernames : ∀ user ∈ tables.users, user.username = some user.email
  addressed : ∀ user ∈ tables.users, user.email ≠ ""
  versions : ∀ user ∈ tables.users, 0 < user.tokenVersion
  organizationBounds : ∀ organization ∈ tables.organizations,
    0 < organization.id ∧ organization.id < tables.nextOrganizationId
  nextUser : 0 < tables.nextUserId
  nextOrganization : 0 < tables.nextOrganizationId
  memberScopes : Rows.Unique OrganizationMember.scope tables.members
  enrolled : ∀ member ∈ tables.members, member.userId < tables.nextUserId
  memberships : ∀ member ∈ tables.members, ∃ organization ∈ tables.organizations,
    organization.id = member.organizationId

/-- A change of a user's row that leaves its identity alone and lowers no version. -/
structure KeepsUser (change : User → User) : Prop where
  id : ∀ user, (change user).id = user.id
  email : ∀ user, (change user).email = user.email
  username : ∀ user, (change user).username = user.username
  version : ∀ user, user.tokenVersion ≤ (change user).tokenVersion

/-- Every user is still there, at the same version or a later one. -/
def VersionsKept (before tables : IdentityTables) : Prop :=
  ∀ user ∈ before.users, ∃ later ∈ tables.users, later.id = user.id ∧ user.tokenVersion ≤ later.tokenVersion

section Changes

variable {tables next : IdentityTables}

theorem VersionsKept.of_subset (subset : tables.users ⊆ next.users) : VersionsKept tables next :=
  fun user present => ⟨user, subset present, rfl, le_rfl⟩

theorem VersionsKept.trans {middle : IdentityTables} (first : VersionsKept tables middle)
    (second : VersionsKept middle next) : VersionsKept tables next := by
  intro user present
  obtain ⟨later, laterMem, sameId, raised⟩ := first user present
  obtain ⟨last, lastMem, laterId, raisedLater⟩ := second later laterMem
  exact ⟨last, lastMem, laterId.trans sameId, raised.trans raisedLater⟩

theorem updateUser_column {Value : Type} {userId : Nat} {change : User → User} {column : User → Value}
    (kept : ∀ user, column (change user) = column user) :
    (tables.updateUser userId change).users.map column = tables.users.map column := by
  simp only [IdentityTables.updateUser, List.map_map]
  refine List.map_congr_left fun user _ => ?_
  show column (if user.id = userId then change user else user) = column user
  split
  · exact kept user
  · rfl

theorem updateUser_kept {userId : Nat} {change : User → User} (keeps : KeepsUser change) :
    VersionsKept tables (tables.updateUser userId change) := by
  intro user present
  refine ⟨_, List.mem_map_of_mem present, ?_⟩
  split
  · exact ⟨keeps.id user, keeps.version user⟩
  · exact ⟨rfl, le_rfl⟩

namespace IdentityTables.Consistent

variable (consistent : tables.Consistent)
include consistent

theorem insertUser {row : Nat → User} {user : User} (inserted : tables.insertUser row = .ok (user, next))
    (id : ∀ fresh, (row fresh).id = fresh) (username : user.username = some user.email)
    (addressed : user.email ≠ "") (version : 0 < user.tokenVersion) : next.Consistent := by
  obtain ⟨rfl, emails, _, rfl⟩ := insertUser_eq_ok inserted
  have fresh : ∀ other ∈ tables.users, other.id ≠ (row tables.nextUserId).id := fun other present => by
    have bound := (consistent.userBounds other present).2
    have drawn := id tables.nextUserId
    omega
  refine { consistent with
    userIds := consistent.userIds.append fresh
    emails := consistent.emails.append emails
    userBounds := ?_
    usernames := ?_
    addressed := ?_
    versions := ?_
    enrolled := fun member present => Nat.lt_succ_of_lt (consistent.enrolled member present)
    nextUser := Nat.succ_pos _ }
  all_goals
    intro member present
    rcases List.mem_append.mp present with old | new
  · have bounds := consistent.userBounds member old
    exact ⟨bounds.1, Nat.lt_succ_of_lt bounds.2⟩
  · rw [List.mem_singleton.mp new, id]
    exact ⟨consistent.nextUser, Nat.lt_succ_self _⟩
  · exact consistent.usernames member old
  · rw [List.mem_singleton.mp new]
    exact username
  · exact consistent.addressed member old
  · rw [List.mem_singleton.mp new]
    exact addressed
  · exact consistent.versions member old
  · rw [List.mem_singleton.mp new]
    exact version

theorem insertOrganization {name slug : String} {organization : Organization}
    (inserted : tables.insertOrganization name slug = .ok (organization, next)) : next.Consistent := by
  obtain ⟨rfl, rfl⟩ := insertOrganization_eq_ok inserted
  refine { consistent with
    nextOrganization := Nat.succ_pos _
    organizationBounds := ?_
    memberships := ?_ }
  · intro organization present
    rcases List.mem_append.mp present with old | new
    · have bounds := consistent.organizationBounds organization old
      exact ⟨bounds.1, Nat.lt_succ_of_lt bounds.2⟩
    · rw [List.mem_singleton.mp new]
      exact ⟨consistent.nextOrganization, Nat.lt_succ_self _⟩
  · intro member present
    obtain ⟨organization, old, same⟩ := consistent.memberships member present
    exact ⟨organization, List.mem_append_left _ old, same⟩

theorem insertMember {organizationId userId : Nat} {role : String}
    (inserted : tables.insertMember organizationId userId role = .ok next) : next.Consistent := by
  obtain ⟨organization, ⟨user, known, same⟩, fresh, rfl⟩ := insertMember_eq_ok inserted
  refine { consistent with
    memberScopes := consistent.memberScopes.append fresh
    enrolled := ?_
    memberships := ?_ }
  · intro member present
    rcases List.mem_append.mp present with old | new
    · exact consistent.enrolled member old
    · rw [List.mem_singleton.mp new, ← same]
      exact (consistent.userBounds user known).2
  · intro member present
    rcases List.mem_append.mp present with old | new
    · exact consistent.memberships member old
    · rw [List.mem_singleton.mp new]
      exact organization

theorem updateUser {userId : Nat} {change : User → User} (keeps : KeepsUser change) :
    (tables.updateUser userId change).Consistent := by
  have preserved : ∀ {condition : User → Prop}, (∀ user, condition user → condition (change user)) →
      (∀ user ∈ tables.users, condition user) → ∀ user ∈ (tables.updateUser userId change).users,
        condition user := by
    intro condition stable all user present
    obtain ⟨old, oldMem, rfl⟩ := List.mem_map.mp present
    split
    · exact stable old (all old oldMem)
    · exact all old oldMem
  have userIds : Rows.Unique User.id (tables.updateUser userId change).users := by
    unfold Rows.Unique
    rw [updateUser_column keeps.id]
    exact consistent.userIds
  have emails : Rows.Unique User.email (tables.updateUser userId change).users := by
    unfold Rows.Unique
    rw [updateUser_column keeps.email]
    exact consistent.emails
  refine { consistent with
    userIds
    emails
    userBounds := preserved (fun user bounds => ?_) consistent.userBounds
    usernames := preserved (fun user named => ?_) consistent.usernames
    addressed := preserved (fun user addressed => ?_) consistent.addressed
    versions := preserved (fun user positive => positive.trans_le (keeps.version user)) consistent.versions }
  · rw [keeps.id]
    exact bounds
  · rw [keeps.username, keeps.email]
    exact named
  · rw [keeps.email]
    exact addressed

theorem updateMember {organizationId userId : Nat} {change : OrganizationMember → OrganizationMember}
    (scope : ∀ member, (change member).scope = member.scope) :
    (tables.updateMember organizationId userId change).Consistent := by
  have scopes : (tables.updateMember organizationId userId change).members.map OrganizationMember.scope =
      tables.members.map OrganizationMember.scope := by
    simp only [IdentityTables.updateMember, List.map_map]
    refine List.map_congr_left fun member _ => ?_
    show OrganizationMember.scope (if _ then _ else _) = _
    split
    · exact scope member
    · rfl
  refine { consistent with memberScopes := ?_, enrolled := ?_, memberships := ?_ }
  · unfold Rows.Unique
    rw [scopes]
    exact consistent.memberScopes
  · intro member present
    obtain ⟨old, oldMem, rfl⟩ := List.mem_map.mp present
    split
    · exact (congrArg Prod.fst (scope old)).trans_lt (consistent.enrolled old oldMem)
    · exact consistent.enrolled old oldMem
  · intro member present
    obtain ⟨old, oldMem, rfl⟩ := List.mem_map.mp present
    obtain ⟨organization, known, same⟩ := consistent.memberships old oldMem
    refine ⟨organization, known, same.trans ?_⟩
    split
    · exact (congrArg Prod.snd (scope old)).symm
    · rfl

theorem deleteMember {organizationId userId : Nat} : (tables.deleteMember organizationId userId).Consistent :=
  { consistent with
    memberScopes := consistent.memberScopes.filter _
    enrolled := fun member present => consistent.enrolled member (List.mem_of_mem_filter present)
    memberships := fun member present => consistent.memberships member (List.mem_of_mem_filter present) }

end IdentityTables.Consistent

end Changes

theorem keepsUser_setEnabled (enabled : Bool) : KeepsUser fun user => { user with isEnabled := enabled } :=
  ⟨fun _ => rfl, fun _ => rfl, fun _ => rfl, fun _ => le_rfl⟩

theorem keepsUser_setPassword (passwordHash : Option String) :
    KeepsUser fun user => { user with passwordHash, tokenVersion := user.tokenVersion + 1 } :=
  ⟨fun _ => rfl, fun _ => rfl, fun _ => rfl, fun user => by dsimp only; omega⟩

theorem keepsUser_revoke : KeepsUser fun user => { user with tokenVersion := user.tokenVersion + 1 } :=
  ⟨fun _ => rfl, fun _ => rfl, fun _ => rfl, fun user => by dsimp only; omega⟩

/-- What the transactions keep of the tables before them. -/
def IdentityTables.Follows (tables next : IdentityTables) : Prop := next.Consistent ∧ VersionsKept tables next

section Steps

variable {deployment : Deployment} {tables next : IdentityTables}

theorem follows_of_users (consistent : next.Consistent) (users : next.users = tables.users) :
    tables.Follows next :=
  ⟨consistent, .of_subset (users ▸ List.Subset.refl _)⟩

theorem registerUser_follows (consistent : tables.Consistent) {salt : Nat} {payload : UserRegister}
    {user : User} (registered : deployment.registerUser tables salt payload = .ok (user, next)) :
    tables.Follows next := by
  obtain ⟨passwordHash, _, withUser, insertedUser, organization, withOrganization, insertedOrganization,
    insertedMember⟩ := registerUser_eq_ok registered
  obtain ⟨rfl, _, _, rfl⟩ := insertUser_eq_ok insertedUser
  have first := consistent.insertUser insertedUser (fun _ => rfl) rfl payload.addressed Int.one_pos
  have second := first.insertOrganization insertedOrganization
  refine ⟨second.insertMember insertedMember, .of_subset ?_⟩
  obtain ⟨_, rfl⟩ := insertOrganization_eq_ok insertedOrganization
  obtain ⟨_, _, _, rfl⟩ := insertMember_eq_ok insertedMember
  exact List.subset_append_left _ _

theorem createOrganization_follows (consistent : tables.Consistent) {userId : Nat} {name slug : String}
    {organization : Organization}
    (created : tables.createOrganization userId name slug = .ok (organization, next)) :
    tables.Follows next := by
  obtain ⟨withOrganization, insertedOrganization, insertedMember⟩ := createOrganization_eq_ok created
  have first := consistent.insertOrganization insertedOrganization
  refine follows_of_users (first.insertMember insertedMember) ?_
  obtain ⟨_, rfl⟩ := insertOrganization_eq_ok insertedOrganization
  obtain ⟨_, _, _, rfl⟩ := insertMember_eq_ok insertedMember
  rfl

/-- What a handler keeps of the tables, it keeps behind the limiter. -/
theorem after_limited {Value : Type} {condition : IdentityTables → Prop} {hits : List RateHit} {hit : RateHit}
    {handler : Except RequestError (Value × IdentityTables)} (before : condition tables)
    (written : ∀ value changed, handler = .ok (value, changed) → condition changed) :
    condition (tables.after (deployment.limited hits hit handler)) := by
  unfold Deployment.limited
  split
  · cases ended : handler with
    | error _ => exact before
    | ok result => exact written _ _ ended
  · exact before

theorem change_follows {state : IdentityState} (consistent : state.tables.Consistent) (label : IdentityLabel) :
    state.tables.Follows (deployment.change state label) := by
  have same : state.tables.Follows state.tables := follows_of_users consistent rfl
  have update : ∀ (userId : Nat) {change : User → User}, KeepsUser change →
      state.tables.Follows (state.tables.updateUser userId change) :=
    fun userId _ keeps => ⟨consistent.updateUser keeps, updateUser_kept keeps⟩
  cases label with
  | wait _ => exact same
  | login _ _ _ _ => exact same
  | register client salt payload =>
    exact after_limited same fun _ _ registered => registerUser_follows consistent registered
  | createOrganization client token name slug =>
    simp only [Deployment.change]
    split
    · exact after_limited same fun _ _ created => createOrganization_follows consistent created
    · exact same
  | setEnabled userId enabled => exact update userId (keepsUser_setEnabled enabled)
  | setPassword userId passwordHash => exact update userId (keepsUser_setPassword passwordHash)
  | revoke userId => exact update userId keepsUser_revoke
  | enroll organizationId userId role =>
    simp only [Deployment.change]
    split
    · rename_i changed inserted
      refine follows_of_users (consistent.insertMember inserted) ?_
      obtain ⟨_, _, _, rfl⟩ := insertMember_eq_ok inserted
      rfl
    · exact same
  | setRole organizationId userId role =>
    exact follows_of_users (consistent.updateMember fun _ => rfl) rfl
  | expel organizationId userId => exact follows_of_users consistent.deleteMember rfl

/-- A session belongs to a login that the account passed, and to a user who is still there. -/
structure Session.Sound (deployment : Deployment) (tables : IdentityTables) (session : Session) : Prop where
  wellFormed : session.claims.WellFormed
  user : session.claims.userId = session.account.id
  version : session.claims.tokenVersion = session.account.tokenVersion
  enabled : session.account.isEnabled = true
  verified : ∃ passwordHash, session.account.passwordHash = some passwordHash ∧
    deployment.passwords.verify session.password passwordHash = true
  current : ∃ user ∈ tables.users, user.id = session.claims.userId ∧
    session.claims.tokenVersion ≤ user.tokenVersion

theorem Session.Sound.kept {session : Session} (sound : session.Sound deployment tables)
    (kept : VersionsKept tables next) : session.Sound deployment next := by
  obtain ⟨user, present, same, raised⟩ := sound.current
  obtain ⟨later, laterMem, laterId, raisedLater⟩ := kept user present
  exact { sound with current := ⟨later, laterMem, laterId.trans same, raised.trans raisedLater⟩ }

theorem login_sound (consistent : tables.Consistent) {now : Instant} {jti username password : String}
    (drawn : jti ≠ "") {account : User} (found : tables.account? username = some account)
    {claims : AccessClaims}
    (issued : (deployment.login tables now jti username password).result = .ok claims) :
    (Session.mk account password claims).Sound deployment tables := by
  obtain ⟨user, known, enabled, ⟨passwordHash, stored, _, valid⟩, membership, listed, rfl⟩ :=
    login_eq_ok.mp issued
  rw [found] at known
  cases known
  have present : account ∈ tables.users := List.mem_of_find?_eq_some found
  have member : membership ∈ tables.members :=
    List.mem_of_mem_filter (List.mem_of_head? listed)
  obtain ⟨organization, organizationMem, same⟩ := consistent.memberships membership member
  exact {
    wellFormed := {
      subject := consistent.addressed account present
      user := (consistent.userBounds account present).1
      organization := by
        show 0 < membership.organizationId
        rw [← same]
        exact (consistent.organizationBounds organization organizationMem).1
      version := consistent.versions account present
      jti := drawn }
    user := rfl
    version := rfl
    enabled
    verified := ⟨passwordHash, stored, valid⟩
    current := ⟨account, present, rfl, le_rfl⟩ }

end Steps

structure IdentityInvariant (deployment : Deployment) (state : IdentityState) : Prop where
  consistent : state.tables.Consistent
  sessions : ∀ session ∈ state.issued, session.Sound deployment state.tables

section Runs

variable {deployment : Deployment} {state next : IdentityState} {label : IdentityLabel}

theorem initial_invariant : IdentityInvariant deployment .initial where
  consistent := by
    constructor <;> simp [IdentityState.initial, IdentityTables.empty, Rows.Unique]
  sessions := by simp [IdentityState.initial]

theorem step_eq_some (stepped : deployment.step state label = some next) :
    label.drawn = true ∧ next.tables = deployment.change state label ∧
      next.issued = deployment.sessions state label ∧ next.now = state.now + label.duration := by
  unfold Deployment.step at stepped
  split at stepped
  · rename_i drawn
    cases stepped
    exact ⟨drawn, rfl, rfl, rfl⟩
  · cases stepped

/-- A request that is answered has passed the limiter. -/
theorem limited_eq_ok {Value : Type} {hits : List RateHit} {hit : RateHit} {handler : Except RequestError Value}
    {value : Value} : deployment.limited hits hit handler = .ok value ↔
      deployment.limiter hits hit = true ∧ handler = .ok value := by
  unfold Deployment.limited
  split <;> simp_all

theorem sessions_sound (invariant : IdentityInvariant deployment state) (drawn : label.drawn = true) :
    ∀ session ∈ deployment.sessions state label, session.Sound deployment state.tables := by
  cases label with
  | login client jti username password =>
    intro session present
    simp only [Deployment.sessions] at present
    split at present
    · rename_i account claims found issued
      rcases List.mem_append.mp present with old | new
      · exact invariant.sessions session old
      · rw [List.mem_singleton.mp new]
        exact login_sound invariant.consistent (of_decide_eq_true drawn) found (limited_eq_ok.mp issued).2
    · exact invariant.sessions session present
  | _ => exact invariant.sessions

theorem step_follows (invariant : IdentityInvariant deployment state)
    (stepped : deployment.step state label = some next) :
    IdentityInvariant deployment next ∧ VersionsKept state.tables next.tables := by
  obtain ⟨drawn, tables, issued, _⟩ := step_eq_some stepped
  obtain ⟨consistent, kept⟩ : state.tables.Follows (deployment.change state label) :=
    change_follows invariant.consistent label
  rw [← tables] at consistent kept
  refine ⟨⟨consistent, fun session present => ?_⟩, kept⟩
  rw [issued] at present
  exact (sessions_sound invariant drawn session present).kept kept

theorem run_invariant {labels : List IdentityLabel} {start final : IdentityState}
    (invariant : IdentityInvariant deployment start) (ran : run deployment.step start labels = some final) :
    IdentityInvariant deployment final :=
  Transition.run_invariant (IdentityInvariant deployment)
    (fun _ _ _ holds stepped => (step_follows holds stepped).1) invariant ran

theorem run_versionsKept {labels : List IdentityLabel} {start final : IdentityState}
    (invariant : IdentityInvariant deployment start) (ran : run deployment.step start labels = some final) :
    VersionsKept start.tables final.tables :=
  (Transition.run_invariant
    (fun state => IdentityInvariant deployment state ∧ VersionsKept start.tables state.tables)
    (fun _ _ _ holds stepped =>
      have follows := step_follows holds.1 stepped
      ⟨follows.1, holds.2.trans follows.2⟩)
    ⟨invariant, .of_subset (List.Subset.refl _)⟩ ran).2

/-! ## Who is admitted -/

def ada : UserRegister := ⟨"ada@example.org", "correct horse", none, by decide, by decide⟩

def adaStart : List IdentityLabel :=
  [.register "203.0.113.7" 0 ada, .wait (seconds 5), .login "203.0.113.7" "1" ada.email ada.password]

def adaState : IdentityState := (run plainDeployment.step .initial adaStart).getD .initial

theorem adaState_reached : run plainDeployment.step .initial adaStart = some adaState := by
  decide +kernel

def adaSession : Session := adaState.issued.head (by decide +kernel)

/-- No one makes a token of the deployment but the deployment: a token that is read back was issued. -/
def Deployment.Unforged (deployment : Deployment) (state : IdentityState) (token : String) : Prop :=
  ∀ payload, deployment.jwt.decode state.now token = some payload →
    ∃ session ∈ state.issued, token = deployment.jwt.encode session.claims

/-- A token that `decode` refuses is refused. -/
theorem admit_decoded {tables : IdentityTables} {now : Instant} {guard : Guard} {token : String}
    {caller : Caller} (admitted : deployment.admission tables now guard token = .ok caller) :
    ∃ payload, deployment.jwt.decode now token = some payload := by
  obtain ⟨identity, read, _⟩ := bind_eq_ok.mp admitted
  obtain ⟨payload, decoded, _⟩ := bind_eq_ok.mp read
  exact ⟨payload, required_eq_ok.mp decoded⟩

/-- In every state that a deployment reaches, an endpoint admits exactly the requests that carry a
token which a login with the user's password was issued, is still valid in time, and is as the tables
are now: the membership grants the permission of the endpoint, and where the endpoint asks for the
active organization, the user is an enabled member at the version of the token. -/
theorem request_admitted_iff {labels : List IdentityLabel} (lawful : deployment.jwt.Lawful)
    (ran : run deployment.step .initial labels = some state) {token : String}
    (unforged : deployment.Unforged state token) (endpoint : Endpoint) (userId organizationId : Int) :
    (∃ caller, deployment.admission state.tables state.now endpoint.guard token = .ok caller ∧
        caller.userId = userId ∧ caller.organizationId = organizationId) ↔
      ∃ session ∈ state.issued, token = deployment.jwt.encode session.claims ∧
        session.Sound deployment state.tables ∧ session.claims.timely state.now ∧
        (session.claims.userId : Int) = userId ∧ (session.claims.organizationId : Int) = organizationId ∧
        (∀ capability ∈ endpoint.guard.permission,
          state.tables.Grants deployment.table userId organizationId capability) ∧
        (endpoint.guard.activeOrganization = true →
          state.tables.Active userId organizationId session.claims.tokenVersion) := by
  have invariant := run_invariant initial_invariant ran
  constructor
  · rintro ⟨caller, admitted, user, organization⟩
    obtain ⟨payload, decoded⟩ := admit_decoded admitted
    obtain ⟨session, present, rfl⟩ := unforged payload decoded
    have sound := invariant.sessions session present
    exact ⟨session, present, rfl, sound,
      (admit_encode lawful sound.wellFormed).mp ⟨caller, admitted, user, organization⟩⟩
  · rintro ⟨session, present, rfl, sound, standing⟩
    exact (admit_encode lawful sound.wellFormed).mpr standing

theorem request_admitted_iff_ada :
    (∃ caller, plainDeployment.admission adaState.tables adaState.now Endpoint.createBot.guard
        (plainDeployment.jwt.encode adaSession.claims) = .ok caller ∧
        caller.userId = 1 ∧ caller.organizationId = 1) ↔
      ∃ session ∈ adaState.issued,
        plainDeployment.jwt.encode adaSession.claims = plainDeployment.jwt.encode session.claims ∧
        session.Sound plainDeployment adaState.tables ∧ session.claims.timely adaState.now ∧
        (session.claims.userId : Int) = 1 ∧ (session.claims.organizationId : Int) = 1 ∧
        (∀ capability ∈ Endpoint.createBot.guard.permission,
          adaState.tables.Grants plainDeployment.table 1 1 capability) ∧
        (Endpoint.createBot.guard.activeOrganization = true →
          adaState.tables.Active 1 1 session.claims.tokenVersion) :=
  request_admitted_iff plainJwt_lawful adaState_reached
    (fun _ _ => ⟨adaSession, List.head_mem _, rfl⟩) .createBot 1 1

/-- Raising a user's version ends the sessions of that user for good: whatever the clients and the
operators do next, no endpoint that asks for the active organization admits a token of a lower
version. -/
theorem revoked_session_refused {before after : List IdentityLabel} {revoked : IdentityState}
    (lawful : deployment.jwt.Lawful) (ran : run deployment.step .initial before = some revoked)
    {session : Session} (issued : session ∈ revoked.issued)
    {user : User} (present : user ∈ revoked.tables.users) (same : user.id = session.claims.userId)
    (raised : session.claims.tokenVersion < user.tokenVersion)
    (continued : run deployment.step revoked after = some state)
    {endpoint : Endpoint} (asks : endpoint.guard.activeOrganization = true) :
    ¬ ∃ caller, deployment.admission state.tables state.now endpoint.guard
      (deployment.jwt.encode session.claims) = .ok caller := by
  rintro ⟨caller, admitted⟩
  have invariant := run_invariant initial_invariant ran
  have later := run_invariant invariant continued
  obtain ⟨_, named, -, -, active⟩ := (admit_encode lawful (invariant.sessions session issued).wellFormed).mp
    ⟨caller, admitted, rfl, rfl⟩
  obtain ⟨_, row, stored, _, version⟩ := active asks
  obtain ⟨kept, keptMem, keptId, keptVersion⟩ := run_versionsKept invariant continued user present
  -- the row that is found is the user's, now at the raised version or a later one
  obtain ⟨rowMem, found⟩ := userWith?_eq_some stored
  have sameRow : row = kept := later.consistent.userIds.eq rowMem keptMem (by omega)
  rw [sameRow] at version
  omega

def adaRevoked : IdentityState := (plainDeployment.step adaState (.revoke 1)).getD .initial

def adaRow : User := adaRevoked.tables.users.head (by decide +kernel)

/-- A colleague comes, and the user logs in again. -/
def adaReturns : List IdentityLabel :=
  [.enroll 1 2 "member", .wait (seconds 60), .login "203.0.113.7" "2" ada.email ada.password,
    .setRole 1 1 "admin"]

def adaReturned : IdentityState := (run plainDeployment.step adaRevoked adaReturns).getD .initial

theorem revoked_session_refused_ada :
    adaReturned.issued.length = 2 ∧
      ¬ ∃ caller, plainDeployment.admission adaReturned.tables adaReturned.now Endpoint.me.guard
        (plainDeployment.jwt.encode adaSession.claims) = .ok caller :=
  ⟨by decide +kernel, @revoked_session_refused plainDeployment adaReturned _ adaReturns adaRevoked plainJwt_lawful
    (run_trans adaState_reached
      (show run plainDeployment.step adaState [.revoke 1] = some adaRevoked by decide +kernel))
    adaSession (by decide +kernel) adaRow (List.head_mem _) (by decide +kernel) (by decide +kernel)
    (by decide +kernel) .me rfl⟩

end Runs

/-! ## Accounts that no operator touches -/

/-- The user's row and membership; whatever organization the user is in, it is as the owner. -/
structure IdentityTables.Serves (tables : IdentityTables) (user : User) (membership : OrganizationMember) :
    Prop where
  row : user ∈ tables.users
  member : membership ∈ tables.members
  own : membership.userId = user.id
  owner : ∀ member ∈ tables.members, member.userId = user.id → member.role = "owner"

section Accounts

variable {deployment : Deployment} {tables next : IdentityTables} {user : User} {member : OrganizationMember}

namespace IdentityTables.Serves

variable (serves : tables.Serves user member)
include serves

theorem insertMember {organizationId userId : Nat} {role : String}
    (inserted : tables.insertMember organizationId userId role = .ok next)
    (foreign : userId = user.id → role = "owner") : next.Serves user member := by
  obtain ⟨_, _, _, rfl⟩ := insertMember_eq_ok inserted
  refine ⟨serves.row, List.mem_append_left _ serves.member, serves.own, fun other present own => ?_⟩
  rcases List.mem_append.mp present with old | new
  · exact serves.owner other old own
  · rw [List.mem_singleton.mp new] at own ⊢
    exact foreign own

theorem grown (users : tables.users ⊆ next.users) (members : next.members = tables.members) :
    next.Serves user member :=
  ⟨users serves.row, members ▸ serves.member, serves.own, members ▸ serves.owner⟩

theorem register {salt : Nat} {payload : UserRegister} {other : User}
    (registered : deployment.registerUser tables salt payload = .ok (other, next)) :
    next.Serves user member := by
  obtain ⟨_, _, withUser, insertedUser, organization, withOrganization, insertedOrganization,
    insertedMember⟩ := registerUser_eq_ok registered
  obtain ⟨_, _, _, users⟩ := insertUser_eq_ok insertedUser
  obtain ⟨_, organizations⟩ := insertOrganization_eq_ok insertedOrganization
  have grown : withOrganization.Serves user member := by
    rw [organizations, users]
    exact serves.grown (List.subset_append_left _ _) rfl
  exact grown.insertMember insertedMember fun _ => rfl

theorem createOrganization {userId : Nat} {name slug : String} {organization : Organization}
    (created : tables.createOrganization userId name slug = .ok (organization, next)) :
    next.Serves user member := by
  obtain ⟨withOrganization, insertedOrganization, insertedMember⟩ := createOrganization_eq_ok created
  obtain ⟨_, organizations⟩ := insertOrganization_eq_ok insertedOrganization
  have grown : withOrganization.Serves user member := by
    rw [organizations]
    exact serves.grown (List.Subset.refl _) rfl
  exact grown.insertMember insertedMember fun _ => rfl

theorem updateUser {userId : Nat} {change : User → User} (foreign : userId ≠ user.id) :
    (tables.updateUser userId change).Serves user member :=
  ⟨List.mem_map.mpr ⟨user, serves.row, if_neg foreign.symm⟩, serves.member, serves.own, serves.owner⟩

theorem updateMember {organizationId userId : Nat} {change : OrganizationMember → OrganizationMember}
    (foreign : userId ≠ user.id) (kept : ∀ member, (change member).userId = member.userId) :
    (tables.updateMember organizationId userId change).Serves user member := by
  have spared : ∀ other : OrganizationMember, other.userId = user.id →
      other.scope ≠ (userId, organizationId) :=
    fun other own same => foreign ((congrArg Prod.fst same).symm.trans own)
  refine ⟨serves.row, List.mem_map.mpr ⟨member, serves.member, if_neg (spared member serves.own)⟩, serves.own,
    fun other changed own => ?_⟩
  obtain ⟨old, oldMem, rfl⟩ := List.mem_map.mp changed
  by_cases selected : old.scope = (userId, organizationId)
  · rw [if_pos selected, kept] at own
    exact absurd selected (spared old own)
  · rw [if_neg selected] at own ⊢
    exact serves.owner old oldMem own

theorem deleteMember {organizationId userId : Nat} (foreign : userId ≠ user.id) :
    (tables.deleteMember organizationId userId).Serves user member := by
  refine ⟨serves.row, List.mem_filter.mpr ⟨serves.member, decide_eq_true fun same => ?_⟩, serves.own,
    fun other kept own => serves.owner other (List.mem_of_mem_filter kept) own⟩
  exact foreign ((congrArg Prod.fst same).symm.trans serves.own)

omit serves in
/-- What is not about the user leaves the account as it is. -/
theorem change {state : IdentityState} (serves : state.tables.Serves user member) {label : IdentityLabel}
    (spared : label.operatesOn? ≠ some user.id) : (deployment.change state label).Serves user member := by
  cases label with
  | wait _ => exact serves
  | login _ _ _ _ => exact serves
  | register client salt payload =>
    exact after_limited serves fun _ _ registered => serves.register registered
  | createOrganization client token name slug =>
    simp only [Deployment.change]
    split
    · exact after_limited serves fun _ _ created => serves.createOrganization created
    · exact serves
  | setEnabled userId _ => exact serves.updateUser fun same => spared (congrArg some same)
  | setPassword userId _ => exact serves.updateUser fun same => spared (congrArg some same)
  | revoke userId => exact serves.updateUser fun same => spared (congrArg some same)
  | enroll organizationId userId role =>
    simp only [Deployment.change]
    split
    · rename_i changed inserted
      exact serves.insertMember inserted fun same => absurd (congrArg some same) spared
    · exact serves
  | setRole organizationId userId role =>
    exact serves.updateMember (fun same => spared (congrArg some same)) fun _ => rfl
  | expel organizationId userId => exact serves.deleteMember fun same => spared (congrArg some same)

theorem membership :
    ∃ found, tables.membership? user.id member.organizationId = some found ∧ found.role = "owner" := by
  obtain ⟨found, looked⟩ : ∃ found, tables.membership? user.id member.organizationId = some found :=
    Option.isSome_iff_exists.mp (List.find?_isSome.mpr
      ⟨member, serves.member, decide_eq_true ⟨congrArg Nat.cast serves.own, rfl⟩⟩)
  obtain ⟨foundMem, foundUser, _⟩ := membership?_eq_some looked
  exact ⟨found, looked, serves.owner found foundMem (Int.ofNat_inj.mp foundUser)⟩

theorem grants (table : CaseTable) (capability : Governance.Capability) :
    tables.Grants table user.id member.organizationId capability := by
  obtain ⟨found, looked, owner⟩ := serves.membership
  refine ⟨found, looked, Governance.OWNER, ?_, Finset.mem_univ capability⟩
  rw [owner]
  rfl

theorem active (consistent : tables.Consistent) (enabled : user.isEnabled = true) :
    tables.Active user.id member.organizationId user.tokenVersion := by
  obtain ⟨found, looked, _⟩ := serves.membership
  refine ⟨⟨found, looked⟩, user, ?_, enabled, rfl⟩
  rw [← consistent.userIds.find?_eq_some serves.row]
  exact List.find?_congr fun other _ => decide_eq_decide.mpr Int.ofNat_inj

end IdentityTables.Serves

/-- A registration leaves the new user as the owner of the new organization and of nothing else. -/
theorem registered_serves {salt : Nat} {payload : UserRegister} (consistent : tables.Consistent)
    (registered : deployment.registerUser tables salt payload = .ok (user, next)) :
    ∃ member, next.Serves user member := by
  obtain ⟨_, _, withUser, insertedUser, organization, withOrganization, insertedOrganization,
    insertedMember⟩ := registerUser_eq_ok registered
  obtain ⟨rfl, _, _, rfl⟩ := insertUser_eq_ok insertedUser
  obtain ⟨_, rfl⟩ := insertOrganization_eq_ok insertedOrganization
  obtain ⟨_, _, _, rfl⟩ := insertMember_eq_ok insertedMember
  refine ⟨_, List.mem_append_right _ List.mem_cons_self, List.mem_append_right _ List.mem_cons_self, rfl,
    fun other present own => ?_⟩
  rcases List.mem_append.mp present with old | new
  · exact absurd own (consistent.enrolled other old).ne
  · rw [List.mem_singleton.mp new]

/-- The login name of a user finds that user. -/
theorem account?_eq_some (consistent : tables.Consistent) (present : user ∈ tables.users) :
    tables.account? user.email = some user := by
  rw [← consistent.emails.find?_eq_some present]
  refine List.find?_congr fun other otherMem => ?_
  simp [consistent.usernames other otherMem]

/-- What a step that does not operate on a user keeps. -/
theorem step_serves {state next : IdentityState} {label : IdentityLabel}
    (serves : state.tables.Serves user member) (spared : label.operatesOn? ≠ some user.id)
    (stepped : deployment.step state label = some next) :
    next.tables.Serves user member ∧ state.now ≤ next.now := by
  obtain ⟨_, tables, _, now⟩ := step_eq_some stepped
  rw [tables, now]
  exact ⟨serves.change spared, Nat.le_add_right _ _⟩

/-- What runs that do not operate on a user keep. -/
theorem run_serves {labels : List IdentityLabel} {start final : IdentityState}
    (serves : start.tables.Serves user member) (spared : ∀ label ∈ labels, label.operatesOn? ≠ some user.id)
    (ran : run deployment.step start labels = some final) :
    final.tables.Serves user member ∧ start.now ≤ final.now :=
  run_invariant_throughout
    (fun state => state.tables.Serves user member ∧ start.now ≤ state.now)
    (fun _ label _ holds (spared : label.operatesOn? ≠ some user.id) stepped =>
      have kept := step_serves holds.1 spared stepped
      ⟨kept.1, holds.2.trans kept.2⟩)
    ⟨serves, le_rfl⟩ (throughout_of_mem spared) ran

theorem createAccessToken_timely {now later : Instant} {jti : String} (forward : now ≤ later)
    (early : later + seconds 1 ≤ now + seconds (60 * deployment.accessTokenExpireMinutes)) :
    (deployment.createAccessToken now jti user member).timely later := by
  have lasts : ∀ now later lifetime : Nat, now ≤ later → later + 1000000 ≤ now + lifetime →
      now / 1000000 * 1000000 ≤ later ∧ later < (now + lifetime) / 1000000 * 1000000 := by
    omega
  exact lasts now later _ forward early

/-- The row that a registration writes. -/
theorem registerUser_row {salt : Nat} {payload : UserRegister} (hashing : deployment.passwords.Lawful)
    (registered : deployment.registerUser tables salt payload = .ok (user, next)) :
    user.email = payload.email ∧ user.isEnabled = true ∧
      ∃ passwordHash, user.passwordHash = some passwordHash ∧ passwordHash ≠ "" ∧
        deployment.passwords.verify payload.password passwordHash = true := by
  obtain ⟨passwordHash, hashed, withUser, insertedUser, _⟩ := registerUser_eq_ok registered
  obtain ⟨rfl, _, _, _⟩ := insertUser_eq_ok insertedUser
  exact ⟨rfl, rfl, passwordHash, rfl, hashing.nonempty salt _ _ hashed, hashing.verifies salt _ _ hashed⟩

/-- A login of an enabled account is for one of the memberships of its user. -/
theorem IdentityTables.Serves.login (serves : tables.Serves user member) (consistent : tables.Consistent)
    (enabled : user.isEnabled = true) {password : String}
    (verified : ∃ passwordHash, user.passwordHash = some passwordHash ∧ passwordHash ≠ "" ∧
      deployment.passwords.verify password passwordHash = true) (now : Instant) (jti : String) :
    ∃ membership, tables.Serves user membership ∧
      (deployment.login tables now jti user.email password).result =
        .ok (deployment.createAccessToken now jti user membership) := by
  obtain ⟨membership, listed⟩ : ∃ membership, (tables.membershipsOf user.id).head? = some membership :=
    Option.isSome_iff_exists.mp (List.isSome_head?.mpr (List.ne_nil_of_mem
      (List.mem_filter.mpr ⟨serves.member, decide_eq_true serves.own⟩)))
  obtain ⟨present, own⟩ := List.mem_filter.mp (List.mem_of_head? listed)
  exact ⟨membership, ⟨serves.row, present, of_decide_eq_true own, serves.owner⟩,
    login_eq_ok.mpr ⟨user, account?_eq_some consistent serves.row, enabled, verified, membership, listed, rfl⟩⟩

/-- A token of an account that is served opens every endpoint. -/
theorem IdentityTables.Serves.admitted (serves : tables.Serves user member) (consistent : tables.Consistent)
    (lawful : deployment.jwt.Lawful) (enabled : user.isEnabled = true) {issued now : Instant} {jti : String}
    (drawn : jti ≠ "") (timely : (deployment.createAccessToken issued jti user member).timely now)
    (endpoint : Endpoint) :
    ∃ caller, deployment.admission tables now endpoint.guard
        (deployment.jwt.encode (deployment.createAccessToken issued jti user member)) = .ok caller ∧
      caller.userId = user.id := by
  obtain ⟨organization, known, same⟩ := consistent.memberships member serves.member
  have founded : 0 < member.organizationId := same ▸ (consistent.organizationBounds organization known).1
  have wellFormed : (deployment.createAccessToken issued jti user member).WellFormed :=
    ⟨consistent.addressed user serves.row, (consistent.userBounds user serves.row).1, founded,
      consistent.versions user serves.row, drawn⟩
  obtain ⟨caller, admitted, sameUser, _⟩ := (admit_encode lawful wellFormed).mpr
    ⟨timely, rfl, rfl, fun capability _ => serves.grants deployment.table capability,
      fun _ => serves.active consistent enabled⟩
  exact ⟨caller, admitted, sameUser⟩

/-- Whoever registers can use the service from then on: as long as no operator changes the user's row or
memberships, whatever else happens, a login with the password of the registration is answered with a token
once the limiter lets it pass, and this token is admitted at every endpoint for the lifetime of a token,
less the second that its times are cut to. -/
theorem registered_account_serves {before between later : List IdentityLabel}
    {state founded arrived entered last : IdentityState} {registrant client jti : String} {salt : Nat}
    {payload : UserRegister} (lawful : deployment.jwt.Lawful) (hashing : deployment.passwords.Lawful)
    (ran : run deployment.step .initial before = some state)
    (founding : deployment.step state (.register registrant salt payload) = some founded)
    (registered : deployment.registerUser state.tables salt payload = .ok (user, founded.tables))
    (waited : run deployment.step founded between = some arrived)
    (spared : ∀ label ∈ between, label.operatesOn? ≠ some user.id)
    (passes : deployment.limiter arrived.hits ⟨arrived.now, client, .login⟩ = true)
    (entering : deployment.step arrived (.login client jti payload.email payload.password) = some entered)
    (continued : run deployment.step entered later = some last)
    (sparedLater : ∀ label ∈ later, label.operatesOn? ≠ some user.id)
    (early : last.now + seconds 1 ≤ arrived.now + seconds (60 * deployment.accessTokenExpireMinutes)) :
    ∃ claims, deployment.loginRequest arrived client jti payload.email payload.password = .ok claims ∧
      (∃ session ∈ entered.issued, session.claims = claims) ∧
      ∀ endpoint : Endpoint, ∃ caller,
        deployment.admission last.tables last.now endpoint.guard (deployment.jwt.encode claims) = .ok caller ∧
          caller.userId = user.id := by
  have invariant := run_invariant initial_invariant ran
  have started := (step_follows invariant founding).1
  have arrivedInvariant := run_invariant started waited
  have enteredInvariant := (step_follows arrivedInvariant entering).1
  have lastConsistent := (run_invariant enteredInvariant continued).consistent
  obtain ⟨email, enabled, verified⟩ := registerUser_row hashing registered
  obtain ⟨_, servesFirst⟩ := registered_serves invariant.consistent registered
  obtain ⟨serves, _⟩ := run_serves servesFirst spared waited
  obtain ⟨membership, served, issued⟩ :=
    serves.login arrivedInvariant.consistent enabled verified arrived.now jti
  rw [email] at issued
  obtain ⟨servedThen, forward⟩ := step_serves served (by simp [IdentityLabel.operatesOn?]) entering
  obtain ⟨servedLast, onward⟩ := run_serves servedThen sparedLater continued
  obtain ⟨drawn, _, sessions, _⟩ := step_eq_some entering
  have answered : deployment.loginRequest arrived client jti payload.email payload.password =
      .ok (deployment.createAccessToken arrived.now jti user membership) :=
    limited_eq_ok.mpr ⟨passes, issued⟩
  refine ⟨_, answered, ⟨⟨user, payload.password, deployment.createAccessToken arrived.now jti user membership⟩,
    ?_, rfl⟩, ?_⟩
  · have found := account?_eq_some arrivedInvariant.consistent serves.row
    rw [email] at found
    simp [sessions, Deployment.sessions, found, answered]
  · exact servedLast.admitted lastConsistent lawful enabled (of_decide_eq_true drawn)
      (createAccessToken_timely (forward.trans onward) early)

def bob : UserRegister := ⟨"bob@example.org", "staple battery", some "Bob", by decide, by decide⟩

/-- Someone guesses the password five times from the address that the user logs in from. -/
def guesses : List IdentityLabel := List.replicate 5 (.login "203.0.113.7" "0" ada.email "guess")

def adaDay : List IdentityLabel :=
  [.register "198.51.100.4" 0 bob, .register "203.0.113.7" 0 ada] ++ guesses ++
    [.wait (seconds 60), .revoke 1, .login "203.0.113.7" "1" ada.email ada.password,
      .login "198.51.100.4" "2" bob.email bob.password, .wait (seconds 600)]

/-- The state of that day after some of it. -/
def adaDayAfter (count : Nat) : IdentityState :=
  (run plainDeployment.step .initial (adaDay.take count)).getD .initial

def adaAccount : User :=
  ((plainDeployment.registerUser (adaDayAfter 1).tables 0 ada).toOption.map Prod.fst).getD adaRow

theorem registered_account_serves_ada :
    plainDeployment.limiter (adaDayAfter 7).hits ⟨(adaDayAfter 7).now, "203.0.113.7", .login⟩ = false ∧
      ∃ claims, plainDeployment.loginRequest (adaDayAfter 9) "203.0.113.7" "1" ada.email ada.password = .ok claims ∧
        (∃ session ∈ (adaDayAfter 10).issued, session.claims = claims) ∧
        ∀ endpoint : Endpoint, ∃ caller, plainDeployment.admission (adaDayAfter 12).tables (adaDayAfter 12).now
          endpoint.guard (plainDeployment.jwt.encode claims) = .ok caller ∧ caller.userId = adaAccount.id :=
  ⟨by decide +kernel, @registered_account_serves plainDeployment adaAccount (adaDay.take 1) ((adaDay.take 9).drop 2)
    ((adaDay.take 12).drop 10) (adaDayAfter 1) (adaDayAfter 2) (adaDayAfter 9) (adaDayAfter 10) (adaDayAfter 12)
    "203.0.113.7" "203.0.113.7" "1" 0 ada plainJwt_lawful plainPasswords_lawful (by decide +kernel)
    (by decide +kernel) (by decide +kernel) (by decide +kernel) (by decide +kernel) (by decide +kernel)
    (by decide +kernel) (by decide +kernel) (by decide +kernel) (by decide +kernel)⟩

end Accounts

end Eiraos.Identity
