import Cashp.Auth.StoreCore

/-!
The calls of the auth service (`service_user.go`, `service_admin.go`, `service_org.go`). Random
secrets, the verdict of the rate limiter, password hashing and the format checks come from outside.
-/

namespace Cashp.Auth

open Kit Kit.Program

inductive AuthError
  | featureDisabled (feature : String)
  | rateLimited
  | validation (field : String)
  | registrationClosed
  | orgCreationClosed
  | inviteRequired
  | inviteInvalid
  | nameReserved (field : String)
  | nameUnavailable (field : String)
  | invalidCredentials
  | twoFactorRequired
  | twoFactorInvalid
  | unauthenticated
  | sessionExpired
  | forbidden
  | notFound (what : String)
  | conflict (why : String)
  | quota (why : String)
  | lastOwner
  | internal
  deriving DecidableEq

inductive RegistrationMode
  | everyone
  | invite
  | adminOnly
  | disabled

structure Config where
  usersEnabled : Bool := true
  orgsEnabled : Bool := true
  registrationMode : RegistrationMode := .everyone
  orgCreationMode : RegistrationMode := .everyone
  requireEmailVerification : Bool := false
  requireApproval : Bool := false
  maxOrgsPerUser : Int := 0
  maxMembersPerOrg : Int := 0
  maxSessionsPerUser : Int := 0
  sessionTTL : Int := 2592000

structure Setup where
  config : Config
  hashToken : String → String
  hashPassword : String → Option String
  /-- Whether the password is right, and whether its hash is an old one. -/
  checkPassword : String → String → Bool × Bool
  validateTOTP : String → String → Int → Bool
  validUsername : String → Bool
  validSlug : String → Bool
  validEmail : String → Bool
  validPassword : String → Bool
  blockedName : String → Bool

inductive Outcome
  | done
  | account (id : Nat) (token : String)
  | loggedIn (user : Account) (token : String)
  | resolved (user : Account) (session : Session)
  | token (token : String)
  | org (id : Nat)
  | bootstrapped (id : Nat) (token : String)
  | redeemed (grant : Grant)
  deriving DecidableEq

abbrev AuthWork := Work Store Change AuthError

def lockoutThreshold : Int := 10
def lockoutDuration : Int := 900
def emailVerificationTTL : Int := 86400
def adminSessionTTL : Int := 43200
def inviteTTL : Int := 604800

def normalizeName (name : String) : String := lowerText (trimSpace name)

variable (setup : Setup)

def accountByID (kind : Kind) (id : Nat) (failure : AuthError) : AuthWork Account := do
  let row ← select (·.accountByID kind id) failure
  found row failure

def orgByID (id : Nat) (failure : AuthError) : AuthWork Org := do
  let row ← select (·.orgByID id) failure
  found row failure

def deleteEach : List Session → AuthWork Unit
  | [] => pure ()
  | session :: rest => do
    match ← put (.deleteSession session.id session.userID) with
    | some _ => deleteEach rest
    | none => pure ()

def trimUserSessions (userID : Nat) : AuthWork Unit :=
  whenever (0 < setup.config.maxSessionsPerUser) do
    let sessions ← peek fun store =>
      some (store.userSessions.filter fun session => session.userID == userID)
    deleteEach ((sessions.getD []).drop setup.config.maxSessionsPerUser.toNat)

def issueSession (kind : Kind) (userID : Nat) (drawn : Option String) : AuthWork String := do
  let token ← found drawn .internal
  let now ← unixNow
  let ttl := if kind = .user then setup.config.sessionTTL else adminSessionTTL
  let _ ← commit (.createSession kind
    { userID := userID, tokenHash := setup.hashToken token, expiresAt := now + ttl }) .internal
  whenever (kind = .user) (trimUserSessions setup userID)
  return token

def consumeInvite (invite : Invite) (failure : AuthError) : AuthWork Unit := do
  let now ← unixNow
  let affected ← commit (.consumeInvite invite now) failure
  refuse (affected = 0) failure

def seatRole (role : OrgRole) : OrgRole :=
  if role ≠ .admin ∧ role ≠ .member then .member else role

def checkAvailable (name field : String) : AuthWork Seen := do
  let users ← select (·.usersNamed name) .internal
  let orgs ← select (·.orgsNamed name) .internal
  let tombstones ← select (fun store => store.tombstones.count name) .internal
  refuse (0 < users + orgs ∨ 0 < tombstones) (.nameUnavailable field)
  return { users := users, orgs := orgs, tombstones := tombstones }

structure RegisterInput where
  username : String
  email : String
  password : String
  inviteCode : String := ""
  limited : Bool := false
  verification : Option String := some ""
  session : Option String

def inviteFor (input : RegisterInput) (email : String) : AuthWork (Option Invite) :=
  match setup.config.registrationMode with
  | .everyone => return none
  | .disabled | .adminOnly => .fail .registrationClosed
  | .invite => do
    refuse (isBlank input.inviteCode = true) .inviteRequired
    let row ← select (fun store => store.invites.find? fun invite =>
      invite.codeHash == setup.hashToken input.inviteCode) .inviteInvalid
    let invite ← found row .inviteInvalid
    let now ← unixNow
    refuse (invite.usable now = false ∨ invite.kind ≠ .user) .inviteInvalid
    refuse (invite.email ≠ "" ∧ invite.email ≠ email) .inviteInvalid
    return some invite

def welcome (input : RegisterInput) (invite : Option Invite) (id : Nat) : AuthWork Outcome := do
  given invite fun invite => do
    consumeInvite invite .internal
    whenever (invite.orgID ≠ 0) do
      let _ ← commit (.addOrgMember invite.orgID id (seatRole invite.role)) .internal
  whenever (setup.config.requireEmailVerification = true) do
    let secret ← found input.verification .internal
    let now ← unixNow
    let _ ← commit (.createEmailVerification
      { userID := id, email := normalizeName input.email, tokenHash := setup.hashToken secret,
        expiresAt := now + emailVerificationTTL }) .internal
  let token ← issueSession setup .user id input.session
  return .account id token

def register (input : RegisterInput) : AuthWork Outcome := do
  refuse (setup.config.usersEnabled = false) (.featureDisabled "User accounts")
  refuse (input.limited = true) .rateLimited
  let username := normalizeName input.username
  let email := normalizeName input.email
  refuse (setup.validUsername username = false) (.validation "username")
  refuse (setup.validEmail email = false) (.validation "email")
  refuse (setup.validPassword input.password = false) (.validation "password")
  let invite ← inviteFor setup input email
  refuse (setup.blockedName username = true) (.nameReserved "username")
  let seen ← checkAvailable username "username"
  let emails ← select (·.emails email) .internal
  refuse (0 < emails) (.nameUnavailable "email")
  let hash ← found (setup.hashPassword input.password) .internal
  let id ← commit (.createAccount .user
    { username := username, email := email, passwordHash := hash,
      emailVerified := !setup.config.requireEmailVerification,
      approved := !setup.config.requireApproval }
    { seen with emails := emails, invite := invite }) .internal
  welcome setup input invite id

structure LoginInput where
  identifier : String
  password : String
  totpCode : String := ""
  limited : Bool := false
  session : Option String

def recordLoginFailure (kind : Kind) (id : Nat) : AuthWork Unit := do
  let row ← peek (·.accountByID kind id)
  let now ← unixNow
  given row fun account => do
    let failed := account.failedLogins + 1
    let locks := lockoutThreshold ≤ failed
    let _ ← put (.recordLoginFailure kind account (if locks then 0 else failed)
      (if locks then now + lockoutDuration else account.lockedUntil) now)
    return ()

def reject (bad : Prop) [Decidable bad] (kind : Kind) (account : Account) (failure : AuthError) :
    AuthWork Unit :=
  if bad then do
    recordLoginFailure kind account.id
    .fail failure
  else return ()

def signIn (kind : Kind) (input : LoginInput) (start : Int) (account : Account) :
    AuthWork Outcome := do
  let verdict := setup.checkPassword account.passwordHash input.password
  reject (verdict.1 = false) kind account .invalidCredentials
  let now ← unixNow
  refuse (now < account.lockedUntil) .invalidCredentials
  refuse (kind = .user ∧ (account.disabled = true ∨ account.approved = false))
    .invalidCredentials
  refuse (kind = .user ∧ setup.config.requireEmailVerification = true ∧
    account.emailVerified = false) .invalidCredentials
  refuse (account.totpEnabled = true ∧ isBlank input.totpCode = true) .twoFactorRequired
  let late ← unixNow
  reject (account.totpEnabled = true ∧
    setup.validateTOTP account.totpSecret input.totpCode late = false) kind account
    .twoFactorInvalid
  let upgraded := setup.hashPassword input.password
  whenever (verdict.2 = true ∧ upgraded.isSome = true) do
    let _ ← put (.setPassword kind account.id (upgraded.getD ""))
  let token ← issueSession setup kind account.id input.session
  let _ ← put (.recordLoginSuccess kind account start now)
  return .loggedIn account token

def login (input : LoginInput) : AuthWork Outcome := do
  refuse (setup.config.usersEnabled = false) (.featureDisabled "User accounts")
  let start ← timeNow
  refuse (input.limited = true) .rateLimited
  let row ← peek (·.userByIdentifier input.identifier)
  let user ← found row .invalidCredentials
  signIn setup .user input start user

def adminLogin (input : LoginInput) : AuthWork Outcome := do
  let start ← timeNow
  refuse (input.limited = true) .rateLimited
  let row ← peek fun store =>
    store.admins.find? fun admin => admin.username == normalizeName input.identifier
  let admin ← found row .invalidCredentials
  signIn setup .admin input start admin

def resolveSession (token : String) : AuthWork Outcome := do
  refuse (token = "") .unauthenticated
  let row ← select (fun store => store.userSessions.find? fun session =>
    session.tokenHash == setup.hashToken token) .unauthenticated
  let session ← found row .unauthenticated
  let now ← unixNow
  if session.expiresAt < now then
    let _ ← put (.deleteSessionByHash session.tokenHash)
    .fail .sessionExpired
  else
    let user ← accountByID .user session.userID .unauthenticated
    refuse (user.disabled = true ∨ user.approved = false) .forbidden
    return .resolved user session

def changePassword (kind : Kind) (id : Nat) (current next : String) (session : Option String) :
    AuthWork Outcome := do
  let account ← accountByID kind id .unauthenticated
  refuse ((setup.checkPassword account.passwordHash current).1 = false) .invalidCredentials
  refuse (setup.validPassword next = false) (.validation "new_password")
  let hash ← found (setup.hashPassword next) .internal
  let _ ← commit (.setPassword kind id hash) .internal
  let _ ← commit (.deleteSessions kind id) .internal
  let token ← issueSession setup kind id session
  return .token token

def verifyEmail (token : String) (limited : Bool) : AuthWork Outcome := do
  refuse (limited = true) .rateLimited
  let row ← select (fun store => store.verifications.find? fun grant =>
    grant.tokenHash == setup.hashToken token) (.validation "token")
  let grant ← found row (.validation "token")
  let now ← unixNow
  refuse (grant.spent now = true) (.validation "token")
  let _ ← commit (.setUserEmail grant.userID (normalizeName grant.email) true) .internal
  let _ ← commit (.consumeEmailVerification grant) .internal
  return .done

def confirmPasswordReset (token next : String) (limited : Bool) : AuthWork Outcome := do
  refuse (limited = true) .rateLimited
  refuse (setup.validPassword next = false) (.validation "new_password")
  let row ← select (fun store => store.resets.find? fun grant =>
    grant.tokenHash == setup.hashToken token) (.validation "token")
  let grant ← found row (.validation "token")
  let now ← unixNow
  refuse (grant.spent now = true) (.validation "token")
  let hash ← found (setup.hashPassword next) .internal
  let _ ← commit (.setPassword .user grant.userID hash) .internal
  let _ ← commit (.consumeReset grant) .internal
  let _ ← commit (.deleteSessions .user grant.userID) .internal
  return .redeemed grant

def deleteAccount (userID : Nat) (password : String) : AuthWork Outcome := do
  let user ← accountByID .user userID .unauthenticated
  refuse ((setup.checkPassword user.passwordHash password).1 = false) .invalidCredentials
  let owned ← select (·.ownedOrgs userID) .internal
  refuse (0 < owned)
    (.conflict "Transfer or delete the organizations you own before deleting your account")
  let again ← accountByID .user userID .internal
  let _ ← commit (.deleteUser again) .internal
  return .done

def beginTOTP (kind : Kind) (id : Nat) (drawn : Option String) : AuthWork Outcome := do
  let account ← accountByID kind id .unauthenticated
  let secret ← found drawn .internal
  let _ ← commit (.setTOTP kind account secret false .session) .internal
  return .token secret

def confirmTOTP (kind : Kind) (id : Nat) (code : String) (limited : Bool) : AuthWork Outcome := do
  refuse (limited = true) .rateLimited
  let account ← accountByID kind id .unauthenticated
  let now ← unixNow
  refuse (account.totpSecret = "" ∨ setup.validateTOTP account.totpSecret code now = false)
    .twoFactorInvalid
  let _ ← commit (.setTOTP kind account account.totpSecret true (.code code now)) .internal
  return .done

def disableTOTP (kind : Kind) (id : Nat) (password code : String) : AuthWork Outcome := do
  let account ← accountByID kind id .unauthenticated
  refuse ((setup.checkPassword account.passwordHash password).1 = false) .invalidCredentials
  let now ← unixNow
  refuse (account.totpEnabled = true ∧ setup.validateTOTP account.totpSecret code now = false)
    .twoFactorInvalid
  let _ ← commit (.setTOTP kind account "" false (.passwordAndCode password code now)) .internal
  return .done

structure BootstrapInput where
  setupToken : String
  username : String
  email : String
  password : String
  limited : Bool := false
  session : Option String

def completeBootstrap (input : BootstrapInput) : AuthWork Outcome := do
  refuse (input.limited = true) .rateLimited
  let admins ← select (fun store => store.admins.length) .internal
  refuse (0 < admins) .forbidden
  let row ← select (fun store => store.setupTokens.find? fun grant =>
    grant.tokenHash == setup.hashToken input.setupToken) .invalidCredentials
  let grant ← found row .invalidCredentials
  let now ← unixNow
  refuse (grant.spent now = true) .invalidCredentials
  let username := normalizeName input.username
  let email := normalizeName input.email
  refuse (setup.validUsername username = false) (.validation "username")
  refuse (setup.validEmail email = false) (.validation "email")
  refuse (setup.validPassword input.password = false) (.validation "password")
  let hash ← found (setup.hashPassword input.password) .internal
  let id ← commit (.createAccount .admin
    { username := username, email := email, passwordHash := hash, isPrimary := true }
    { admins := admins }) .internal
  let _ ← commit (.consumeSetupToken grant) .internal
  let token ← issueSession setup .admin id input.session
  return .bootstrapped id token

def createAdmin (username email password : String) : AuthWork Outcome := do
  let username := normalizeName username
  let email := normalizeName email
  refuse (setup.validUsername username = false) (.validation "username")
  refuse (setup.validEmail email = false) (.validation "email")
  refuse (setup.validPassword password = false) (.validation "password")
  let row ← peek fun store => store.admins.find? fun admin => admin.username == username
  refuse (row.isSome = true) (.nameUnavailable "username")
  let hash ← found (setup.hashPassword password) .internal
  let _ ← commit (.createAccount .admin
    { username := username, email := email, passwordHash := hash } {}) .internal
  return .done

def setUserApproval (userID : Nat) (approved disabled : Bool) : AuthWork Outcome := do
  let _ ← commit (.setUserFlags userID approved disabled) .internal
  return .done

def createOrgInvite (inviteCode : String) : AuthWork Unit :=
  match setup.config.orgCreationMode with
  | .everyone => return ()
  | .disabled | .adminOnly => .fail .orgCreationClosed
  | .invite => do
    refuse (isBlank inviteCode = true) .inviteRequired
    let row ← select (fun store => store.invites.find? fun invite =>
      invite.codeHash == setup.hashToken inviteCode) .inviteInvalid
    let invite ← found row .inviteInvalid
    let now ← unixNow
    refuse (invite.usable now = false ∨ invite.kind ≠ .org ∨ invite.orgID ≠ 0) .inviteInvalid
    consumeInvite invite .inviteInvalid

def createOrg (creatorID : Nat) (slug inviteCode : String) (profile : Bool) : AuthWork Outcome := do
  refuse (setup.config.orgsEnabled = false) (.featureDisabled "Organizations")
  createOrgInvite setup inviteCode
  let slug := normalizeName slug
  refuse (setup.validSlug slug = false) (.validation "slug")
  refuse (setup.blockedName slug = true) (.nameReserved "slug")
  let seen ← checkAvailable slug "slug"
  whenever (0 < setup.config.maxOrgsPerUser) do
    let owned ← select (·.ownedOrgs creatorID) .internal
    refuse (setup.config.maxOrgsPerUser ≤ owned)
      (.quota "You have reached the maximum number of organizations")
  refuse (profile = false) (.validation "profile")
  let id ← commit (.createOrg { slug := slug, ownerID := creatorID } seen) .internal
  return .org id

def deleteOrg (orgID : Nat) (confirmSlug : String) : AuthWork Outcome := do
  let org ← orgByID orgID (.notFound "Organization")
  refuse (normalizeName confirmSlug ≠ org.slug) (.validation "confirm")
  let again ← orgByID orgID .internal
  let _ ← commit (.deleteOrg again) .internal
  return .done

def checkMemberCap (orgID : Nat) : AuthWork Unit :=
  whenever (0 < setup.config.maxMembersPerOrg) do
    let count ← select (fun store => store.members.countP fun seat => seat.orgID == orgID) .internal
    refuse (setup.config.maxMembersPerOrg ≤ count)
      (.quota "This organization has reached its member limit")

def addOrgMember (orgID : Nat) (username : String) (role : OrgRole) : AuthWork Outcome := do
  refuse (role ≠ .admin ∧ role ≠ .member) (.validation "role")
  checkMemberCap setup orgID
  let row ← select (fun store => store.users.find? fun user =>
    user.username == normalizeName username) (.notFound "User")
  let user ← found row (.notFound "User")
  let existing ← select (·.orgRole orgID user.id) .internal
  refuse (existing.isSome = true) (.conflict "That account is already a member")
  let _ ← commit (.addOrgMember orgID user.id role) .internal
  return .done

def checkLastOwner (orgID targetID : Nat) : AuthWork Unit := do
  let current ← select (·.orgRole orgID targetID) .internal
  refuse (current = none) (.notFound "Member")
  whenever (current = some .owner) do
    let owners ← select (·.orgOwners orgID) .internal
    refuse (owners ≤ 1) .lastOwner

def setOrgMemberRole (orgID targetID : Nat) (role : OrgRole) : AuthWork Outcome := do
  refuse (role ≠ .admin ∧ role ≠ .member) (.validation "role")
  checkLastOwner orgID targetID
  let _ ← commit (.setOrgMemberRole orgID targetID role) .internal
  return .done

def removeOrgMember (orgID targetID : Nat) : AuthWork Outcome := do
  checkLastOwner orgID targetID
  let _ ← commit (.removeOrgMember orgID targetID) .internal
  return .done

def transferOrgOwnership (orgID actorID targetID : Nat) : AuthWork Outcome := do
  refuse (actorID = targetID) (.validation "member")
  let role ← select (·.orgRole orgID targetID) .internal
  refuse (role = none) (.notFound "Member")
  let _ ← commit (.transferOrgOwnership orgID actorID targetID) .internal
  return .done

def inviteOrgMember (orgID : Nat) (email : String) (role : OrgRole) (drawn : Option String) :
    AuthWork Outcome := do
  refuse (role ≠ .admin ∧ role ≠ .member) (.validation "role")
  let email := normalizeName email
  refuse (email ≠ "" ∧ setup.validEmail email = false) (.validation "email")
  checkMemberCap setup orgID
  let _ ← orgByID orgID (.notFound "Organization")
  let code ← found drawn .internal
  let now ← unixNow
  let _ ← commit (.createInvite
    { kind := .org, codeHash := setup.hashToken code, email := email, orgID := orgID, role := role,
      maxUses := 1, expiresAt := now + inviteTTL }) .internal
  return .token code

def acceptOrgInvite (userID : Nat) (code : String) : AuthWork Outcome := do
  let row ← select (fun store => store.invites.find? fun invite =>
    invite.codeHash == setup.hashToken code) .inviteInvalid
  let invite ← found row .inviteInvalid
  let now ← unixNow
  refuse (invite.usable now = false ∨ invite.kind ≠ .org ∨ invite.orgID = 0) .inviteInvalid
  let user ← accountByID .user userID .unauthenticated
  refuse (invite.email ≠ "" ∧ invite.email ≠ user.email) .inviteInvalid
  let org ← orgByID invite.orgID .inviteInvalid
  checkMemberCap setup org.id
  consumeInvite invite .inviteInvalid
  let _ ← commit (.addOrgMember org.id userID (seatRole invite.role)) .internal
  return .org org.id

inductive Call
  | register (input : RegisterInput)
  | login (input : LoginInput)
  | resolveSession (token : String)
  | adminLogin (input : LoginInput)
  | changePassword (kind : Kind) (id : Nat) (current next : String) (session : Option String)
  | verifyEmail (token : String) (limited : Bool)
  | confirmPasswordReset (token next : String) (limited : Bool)
  | deleteAccount (userID : Nat) (password : String)
  | beginTOTP (kind : Kind) (id : Nat) (drawn : Option String)
  | confirmTOTP (kind : Kind) (id : Nat) (code : String) (limited : Bool)
  | disableTOTP (kind : Kind) (id : Nat) (password code : String)
  | completeBootstrap (input : BootstrapInput)
  | createAdmin (username email password : String)
  | setUserApproval (userID : Nat) (approved disabled : Bool)
  | createOrg (creatorID : Nat) (slug inviteCode : String) (profile : Bool)
  | deleteOrg (orgID : Nat) (confirmSlug : String)
  | addOrgMember (orgID : Nat) (username : String) (role : OrgRole)
  | setOrgMemberRole (orgID targetID : Nat) (role : OrgRole)
  | removeOrgMember (orgID targetID : Nat)
  | transferOrgOwnership (orgID actorID targetID : Nat)
  | inviteOrgMember (orgID : Nat) (email : String) (role : OrgRole) (drawn : Option String)
  | acceptOrgInvite (userID : Nat) (code : String)

def serve : Call → AuthWork Outcome
  | .register input => register setup input
  | .login input => login setup input
  | .resolveSession token => resolveSession setup token
  | .adminLogin input => adminLogin setup input
  | .changePassword kind id current next session =>
    changePassword setup kind id current next session
  | .verifyEmail token limited => verifyEmail setup token limited
  | .confirmPasswordReset token next limited => confirmPasswordReset setup token next limited
  | .deleteAccount userID password => deleteAccount setup userID password
  | .beginTOTP kind id drawn => beginTOTP kind id drawn
  | .confirmTOTP kind id code limited => confirmTOTP setup kind id code limited
  | .disableTOTP kind id password code => disableTOTP setup kind id password code
  | .completeBootstrap input => completeBootstrap setup input
  | .createAdmin username email password => createAdmin setup username email password
  | .setUserApproval userID approved disabled => setUserApproval userID approved disabled
  | .createOrg creatorID slug inviteCode profile =>
    createOrg setup creatorID slug inviteCode profile
  | .deleteOrg orgID confirmSlug => deleteOrg orgID confirmSlug
  | .addOrgMember orgID username role => addOrgMember setup orgID username role
  | .setOrgMemberRole orgID targetID role => setOrgMemberRole orgID targetID role
  | .removeOrgMember orgID targetID => removeOrgMember orgID targetID
  | .transferOrgOwnership orgID actorID targetID => transferOrgOwnership orgID actorID targetID
  | .inviteOrgMember orgID email role drawn => inviteOrgMember setup orgID email role drawn
  | .acceptOrgInvite userID code => acceptOrgInvite setup userID code

end Cashp.Auth
