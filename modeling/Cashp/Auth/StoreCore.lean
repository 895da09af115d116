import Cashp.Kit.Ledger
import Cashp.Kit.Text

/-!
The tables of the auth service (`models.go`, `schema.go`) and the statements on them (`store_*.go`).
No table has a unique index; the database never assigns an id twice.
-/

namespace Cashp.Auth

open Kit

inductive Kind
  | user
  | admin
  deriving DecidableEq

/-- A row of `users` or of `admins`; columns that a table does not have keep their default. -/
structure Account where
  id : Nat := 0
  username : String := ""
  email : String := ""
  passwordHash : String := ""
  isPrimary : Bool := false
  emailVerified : Bool := false
  approved : Bool := true
  disabled : Bool := false
  totpSecret : String := ""
  totpEnabled : Bool := false
  failedLogins : Int := 0
  lockedUntil : Int := 0
  deriving DecidableEq

inductive OrgRole
  | owner
  | admin
  | member
  | other (name : String)
  deriving DecidableEq

structure Org where
  id : Nat := 0
  slug : String
  ownerID : Nat

structure OrgMember where
  orgID : Nat
  userID : Nat
  role : OrgRole

inductive InviteKind
  | user
  | org
  deriving DecidableEq

structure Invite where
  id : Nat := 0
  kind : InviteKind
  codeHash : String
  email : String := ""
  orgID : Nat := 0
  role : OrgRole := .other ""
  maxUses : Int
  useCount : Int := 0
  expiresAt : Int := 0
  revoked : Bool := false

def Invite.usable (invite : Invite) (now : Int) : Bool :=
  !invite.revoked && !(0 < invite.expiresAt && invite.expiresAt < now) &&
    (invite.maxUses == 0 || invite.useCount < invite.maxUses)

def Invite.redeemable (invite : Invite) (now : Int) : Bool :=
  !invite.revoked && (invite.maxUses == 0 || invite.useCount < invite.maxUses) &&
    (invite.expiresAt == 0 || now < invite.expiresAt)

structure Session where
  id : Nat := 0
  userID : Nat
  tokenHash : String
  expiresAt : Int
  deriving DecidableEq

structure Grant where
  id : Nat := 0
  userID : Nat := 0
  email : String := ""
  tokenHash : String
  used : Bool := false
  expiresAt : Int := 0
  deriving DecidableEq

def Grant.spent (grant : Grant) (now : Int) : Bool :=
  grant.used || (0 < grant.expiresAt && grant.expiresAt < now)

structure Store where
  users : List Account := []
  admins : List Account := []
  orgs : List Org := []
  members : List OrgMember := []
  tombstones : List String := []
  invites : List Invite := []
  userSessions : List Session := []
  adminSessions : List Session := []
  resets : List Grant := []
  verifications : List Grant := []
  setupTokens : List Grant := []
  nextID : Nat := 1

namespace Store

variable (store : Store)

def accounts : Kind → List Account
  | .user => store.users
  | .admin => store.admins

def accountByID (kind : Kind) (id : Nat) : Option Account :=
  (store.accounts kind).find? fun account => account.id == id

def usersNamed (name : String) : Nat := store.users.countP fun user => user.username == name

def orgsNamed (name : String) : Nat := store.orgs.countP fun org => org.slug == name

def emails (email : String) : Nat := store.users.countP fun user => user.email == email

def orgByID (id : Nat) : Option Org := store.orgs.find? fun org => org.id == id

def orgRole (orgID userID : Nat) : Option OrgRole :=
  (store.members.find? fun seat => seat.orgID == orgID && seat.userID == userID).map OrgMember.role

def orgOwners (orgID : Nat) : Nat :=
  store.members.countP fun seat => seat.orgID == orgID && seat.role == .owner

def ownedOrgs (userID : Nat) : Nat := store.orgs.countP fun org => org.ownerID == userID

def userByIdentifier (identifier : String) : Option Account :=
  let text := trimSpace identifier
  if text ≠ "" ∧ text.toList.all Char.isDigit then
    store.users.find? fun user => text.toNat? == some user.id
  else if text.toList.contains '@' then
    store.users.find? fun user => user.email == lowerText text
  else store.users.find? fun user => user.username == lowerText text

end Store

inductive Authority
  | session
  | code (code : String) (now : Int)
  | passwordAndCode (password code : String) (now : Int)

structure Seen where
  users : Nat := 0
  orgs : Nat := 0
  tombstones : Nat := 0
  emails : Nat := 0
  admins : Nat := 0
  invite : Option Invite := none

/-- The writes. A row among the arguments is the row as the call has read it. -/
inductive Change
  | createAccount (kind : Kind) (account : Account) (seen : Seen)
  | deleteUser (user : Account)
  | setPassword (kind : Kind) (id : Nat) (hash : String)
  | setTOTP (kind : Kind) (account : Account) (secret : String) (enabled : Bool)
      (authority : Authority)
  | setUserFlags (id : Nat) (approved disabled : Bool)
  | setUserEmail (id : Nat) (email : String) (verified : Bool)
  | recordLoginSuccess (kind : Kind) (account : Account) (start checked : Int)
  | recordLoginFailure (kind : Kind) (account : Account) (failed locked now : Int)
  | createSession (kind : Kind) (session : Session)
  | deleteSessionByHash (hash : String)
  | deleteSession (id userID : Nat)
  | deleteSessions (kind : Kind) (userID : Nat)
  | createEmailVerification (grant : Grant)
  | consumeEmailVerification (grant : Grant)
  | consumeReset (grant : Grant)
  | consumeSetupToken (grant : Grant)
  | createInvite (invite : Invite)
  | consumeInvite (invite : Invite) (now : Int)
  | createOrg (org : Org) (seen : Seen)
  | deleteOrg (org : Org)
  | addOrgMember (orgID userID : Nat) (role : OrgRole)
  | setOrgMemberRole (orgID userID : Nat) (role : OrgRole)
  | removeOrgMember (orgID userID : Nat)
  | transferOrgOwnership (orgID fromUserID toUserID : Nat)

def OrgMember.isSeat (orgID userID : Nat) (seat : OrgMember) : Bool :=
  seat.orgID == orgID && seat.userID == userID

namespace Store

def withAccounts (store : Store) (kind : Kind) (change : List Account → List Account) : Store :=
  match kind with
  | .user => { store with users := change store.users }
  | .admin => { store with admins := change store.admins }

def updateAccount (store : Store) (kind : Kind) (id : Nat) (assign : Account → Account) : Store :=
  store.withAccounts kind (updateWhere (fun account => account.id == id) assign)

def withSessions (store : Store) (kind : Kind) (change : List Session → List Session) : Store :=
  match kind with
  | .user => { store with userSessions := change store.userSessions }
  | .admin => { store with adminSessions := change store.adminSessions }

end Store

def Change.apply (change : Change) (store : Store) : Nat × Store :=
  let id := store.nextID
  let next := { store with nextID := id + 1 }
  match change with
  | .createAccount kind account _ =>
    (id, next.withAccounts kind (· ++ [{ account with id := id }]))
  | .deleteUser user =>
    (0, { store with
      tombstones := store.tombstones ++ [user.username]
      userSessions := store.userSessions.filter fun session => session.userID != user.id
      resets := store.resets.filter fun grant => grant.userID != user.id
      verifications := store.verifications.filter fun grant => grant.userID != user.id
      members := store.members.filter fun seat => seat.userID != user.id
      users := store.users.filter fun row => row.id != user.id })
  | .setPassword kind id hash =>
    (0, store.updateAccount kind id fun row => { row with passwordHash := hash })
  | .setTOTP kind account secret enabled _ =>
    (0, store.updateAccount kind account.id fun row =>
      { row with totpSecret := secret, totpEnabled := enabled })
  | .setUserFlags id approved disabled =>
    (0, store.updateAccount .user id fun row =>
      { row with approved := approved, disabled := disabled })
  | .setUserEmail id email verified =>
    (0, store.updateAccount .user id fun row =>
      { row with email := email, emailVerified := verified })
  | .recordLoginSuccess kind account _ _ =>
    (0, store.updateAccount kind account.id fun row =>
      { row with failedLogins := 0, lockedUntil := 0 })
  | .recordLoginFailure kind account failed locked _ =>
    (0, store.updateAccount kind account.id fun row =>
      { row with failedLogins := failed, lockedUntil := locked })
  | .createSession kind session => (id, next.withSessions kind ({ session with id := id } :: ·))
  | .deleteSessionByHash hash =>
    (0, store.withSessions .user (List.filter fun session => session.tokenHash != hash))
  | .deleteSession id userID =>
    (0, store.withSessions .user
      (List.filter fun session => !(session.id == id && session.userID == userID)))
  | .deleteSessions kind userID =>
    (0, store.withSessions kind (List.filter fun session => session.userID != userID))
  | .createEmailVerification grant =>
    (id, { next with verifications := store.verifications ++ [{ grant with id := id }] })
  | .consumeEmailVerification grant =>
    (0, { store with
      verifications := updateWhere (fun row => row.id == grant.id) ({ · with used := true })
        store.verifications })
  | .consumeReset grant =>
    (0, { store with
      resets := updateWhere (fun row => row.id == grant.id) ({ · with used := true })
        store.resets })
  | .consumeSetupToken grant =>
    (0, { store with
      setupTokens := updateWhere (fun row => row.id == grant.id && !row.used)
        ({ · with used := true }) store.setupTokens })
  | .createInvite invite =>
    (id, { next with invites := store.invites ++ [{ invite with
      id := id, maxUses := if invite.maxUses = 0 then 1 else invite.maxUses, useCount := 0 }] })
  | .consumeInvite invite now =>
    let hit := fun row : Invite => row.id == invite.id && row.redeemable now
    (store.invites.countP hit, { store with
      invites := updateWhere hit (fun row => { row with useCount := row.useCount + 1 })
        store.invites })
  | .createOrg org _ =>
    (id, { next with
      orgs := store.orgs ++ [{ org with id := id }]
      members := store.members ++ [⟨id, org.ownerID, .owner⟩] })
  | .deleteOrg org =>
    (0, { store with
      tombstones := store.tombstones ++ [org.slug]
      members := store.members.filter fun seat => seat.orgID != org.id
      invites := store.invites.filter fun invite => invite.orgID != org.id
      orgs := store.orgs.filter fun row => row.id != org.id })
  | .addOrgMember orgID userID role =>
    (0, { store with members := store.members ++ [⟨orgID, userID, role⟩] })
  | .setOrgMemberRole orgID userID role =>
    (0, { store with
      members := updateWhere (OrgMember.isSeat orgID userID) ({ · with role := role })
        store.members })
  | .removeOrgMember orgID userID =>
    (0, { store with members := store.members.filter fun seat => !seat.isSeat orgID userID })
  | .transferOrgOwnership orgID fromUserID toUserID =>
    (0, { store with
      members := updateWhere (OrgMember.isSeat orgID fromUserID) ({ · with role := .admin })
        (updateWhere (OrgMember.isSeat orgID toUserID) ({ · with role := .owner }) store.members)
      orgs := updateWhere (fun org => org.id == orgID) ({ · with ownerID := toUserID })
        store.orgs })

instance : Ledger Store Change where
  apply := Change.apply

end Cashp.Auth
