import Cashp.Guard.DenyCore

/-!
The authorization decision (`authz.go`): prohibitions that bind everybody, then what the platform
owns, then the rules of each role. The tenant filter never hides what was permitted.
-/

namespace Cashp.Guard

inductive Role
  | globalAdmin
  | accountAdmin
  | endUser
  | other (text : String)
  deriving DecidableEq

def Role.valid : Role → Bool
  | .other _ => false
  | _ => true

inductive Action
  | read
  | create
  | update
  | delete
  | administer
  | other (text : String)
  deriving DecidableEq

def Action.valid : Action → Bool
  | .other _ => false
  | _ => true

def Action.mutating (action : Action) : Bool := action.valid && action != .read

def Action.text : Action → String
  | .read => "read"
  | .create => "create"
  | .update => "update"
  | .delete => "delete"
  | .administer => "administer"
  | .other text => text

structure Grant where
  resourceType : String
  resourceID : String
  actions : List Action

def Grant.permits (grant : Grant) (resourceType resourceID : String) (action : Action) : Bool :=
  grant.resourceType == resourceType && grant.resourceID == resourceID &&
    grant.actions.contains action

structure Subject where
  userID : String
  tenantID : String
  role : Role
  active : Bool
  grants : List Grant := []

structure Resource where
  type : String
  id : String := ""
  tenantID : String := ""
  ownerUserID : String := ""
  platformControlled : Bool := false

def platformOwned : List String := ["security_stack", "platform_setting"]

def Resource.platform (resource : Resource) : Bool :=
  platformOwned.contains resource.type || resource.platformControlled

section

variable {Digest : Type} [DecidableEq Digest] (sha256 : String → Digest)

def constantTimeEqualString (first second : String) : Bool :=
  decide (sha256 first = sha256 second)

def requireSameTenant (subject : Subject) (resource : Resource) : Verdict := do
  denyWhen (subject.tenantID = "") .crossTenant
    ("subject " ++ subject.userID ++ " has no tenant scope")
  denyWhen (resource.tenantID = "") .crossTenant
    ("resource " ++ resource.type ++ "/" ++ resource.id ++ " has no tenant scope")
  denyWhen (constantTimeEqualString sha256 subject.tenantID resource.tenantID = false) .crossTenant
    ("subject tenant " ++ subject.tenantID ++ " does not own " ++ resource.type ++ "/" ++
      resource.id)

def authorizeRole (subject : Subject) (action : Action) (resource : Resource) : Verdict :=
  match subject.role with
  | .globalAdmin => .ok ()
  | .accountAdmin => requireSameTenant sha256 subject resource
  | .endUser => do
    requireSameTenant sha256 subject resource
    denyWhen (action = .administer) .noGrant "end users never hold administer"
    denyWhen (subject.grants.all (fun grant =>
        grant.permits resource.type resource.id action = false)) .noGrant
      ("no grant covers " ++ resource.type ++ "/" ++ resource.id ++ " for " ++ action.text)
  | .other text => deny .roleUnknown ("no rule for role " ++ text)

def authorize (subject : Subject) (action : Action) (resource : Resource) : Verdict := do
  denyWhen (subject.userID = "" ∨ subject.role.valid = false) .subjectInvalid
    "subject has no identity or an unusable role"
  denyWhen (subject.active = false) .subjectInactive
    ("subject " ++ subject.userID ++ " is not active")
  denyWhen (action.valid = false) .actionUnknown ("action " ++ action.text ++ " is not defined")
  denyWhen (resource.type = "") .resourceInvalid "resource has no type"
  denyWhen (resource.type = "primary_admin_flag" ∧ action.mutating = true) .primaryAdminImmutable
    "primary admin flag is not writable"
  denyWhen (resource.type = "admin_credential" ∧
      constantTimeEqualString sha256 resource.ownerUserID subject.userID = false)
    .peerAdminCredential
    ("credentials of " ++ resource.ownerUserID ++ " are not visible to " ++ subject.userID)
  if resource.platform = true then
    denyWhen (subject.role ≠ .globalAdmin) .platformControlled
      ("resource " ++ resource.type ++ " is platform-controlled")
  else
    authorizeRole sha256 subject action resource

structure TenantFilter where
  all : Bool := false
  tenantID : String := ""

def newTenantFilter (subject : Subject) : Except DenyError TenantFilter := do
  denyWhen (subject.userID = "" ∨ subject.role.valid = false) .subjectInvalid
    "subject has no identity or an unusable role"
  denyWhen (subject.active = false) .subjectInactive
    ("subject " ++ subject.userID ++ " is not active")
  if subject.role = .globalAdmin then
    pure { all := true }
  else
    denyWhen (subject.tenantID = "") .crossTenant
      ("subject " ++ subject.userID ++ " has no tenant scope")
    pure { tenantID := subject.tenantID }

def TenantFilter.matchesTenant (filter : TenantFilter) (tenantID : String) : Bool :=
  if filter.all then true
  else if filter.tenantID = "" ∨ tenantID = "" then false
  else constantTimeEqualString sha256 filter.tenantID tenantID

end

section

variable {Digest : Type} [DecidableEq Digest] {sha256 : String → Digest}
variable {subject : Subject} {action : Action} {resource : Resource}

structure Admissible (sha256 : String → Digest) (userID : String) (action : Action)
    (resource : Resource) : Prop where
  named : userID ≠ ""
  defined : action.valid = true
  typed : resource.type ≠ ""
  marker : ¬ (resource.type = "primary_admin_flag" ∧ action.mutating = true)
  credential : ¬ (resource.type = "admin_credential" ∧
    constantTimeEqualString sha256 resource.ownerUserID userID = false)

theorem authorize_ok_iff : authorize sha256 subject action resource = .ok () ↔
      Admissible sha256 subject.userID action resource ∧
        subject.role.valid = true ∧ subject.active = true ∧
        (resource.platform = true → subject.role = .globalAdmin) ∧
        (resource.platform = false → authorizeRole sha256 subject action resource = .ok ()) := by
  have last : (if resource.platform = true then
        denyWhen (subject.role ≠ .globalAdmin) .platformControlled
          ("resource " ++ resource.type ++ " is platform-controlled")
      else authorizeRole sha256 subject action resource) = .ok () ↔
      (resource.platform = true → subject.role = .globalAdmin) ∧
        (resource.platform = false → authorizeRole sha256 subject action resource = .ok ()) := by
    cases resource.platform with
    | true | false => simp
  unfold authorize
  simp only [denyWhen_bind_ok, not_or, Bool.not_eq_false]
  constructor
  · rintro ⟨⟨named, known⟩, active, defined, typed, marker, credential, rest⟩
    exact ⟨⟨named, defined, typed, marker, credential⟩, known, active, last.mp rest⟩
  rintro ⟨fine, known, active, rest⟩
  exact ⟨⟨fine.named, known⟩, active, fine.defined, fine.typed, fine.marker, fine.credential,
    last.mpr rest⟩

theorem requireSameTenant_ok_iff : requireSameTenant sha256 subject resource = .ok () ↔
      subject.tenantID ≠ "" ∧ resource.tenantID ≠ "" ∧
        constantTimeEqualString sha256 subject.tenantID resource.tenantID = true := by
  simp [requireSameTenant]

theorem sameTenant_of_role (role : subject.role ≠ .globalAdmin)
    (permitted : authorizeRole sha256 subject action resource = .ok ()) :
    requireSameTenant sha256 subject resource = .ok () := by
  unfold authorizeRole at permitted
  split at permitted
  · rename_i global
    exact absurd global role
  · exact permitted
  · obtain ⟨_, same, _⟩ := bind_ok.mp permitted
    exact same
  · simp at permitted

theorem newTenantFilter_of_sameTenant (named : subject.userID ≠ "")
    (known : subject.role.valid = true) (active : subject.active = true)
    (role : subject.role ≠ .globalAdmin)
    (same : requireSameTenant sha256 subject resource = .ok ()) :
    ∃ filter, newTenantFilter subject = .ok filter ∧
      filter.matchesTenant sha256 resource.tenantID = true := by
  obtain ⟨inTenant, owned, equal⟩ := requireSameTenant_ok_iff.mp same
  refine ⟨{ tenantID := subject.tenantID }, ?_, ?_⟩
  · unfold newTenantFilter
    simp only [denyWhen_bind_ok, if_neg role, not_or, Bool.not_eq_false]
    exact ⟨⟨named, known⟩, active, inTenant, rfl⟩
  · simp [TenantFilter.matchesTenant, inTenant, owned, equal]

/-- What an end user may do the account admin may do, what that one may do every active global admin
may do, and nobody else is permitted anything outside the tenant filter. -/
theorem permissions_ordered (sha256 : String → Digest) (subject : Subject) (action : Action)
    (resource : Resource) (permitted : authorize sha256 subject action resource = .ok ()) :
    (subject.role = .endUser →
      authorize sha256 { subject with role := .accountAdmin } action resource = .ok ()) ∧
    (subject.role = .accountAdmin → ∀ admin : Subject, admin.userID = subject.userID →
      admin.role = .globalAdmin → admin.active = true →
        authorize sha256 admin action resource = .ok ()) ∧
    (subject.role ≠ .globalAdmin → ∃ filter, newTenantFilter subject = .ok filter ∧
      filter.matchesTenant sha256 resource.tenantID = true) := by
  obtain ⟨fine, known, active, owned, ruled⟩ := authorize_ok_iff.mp permitted
  have inTenant (role : subject.role ≠ .globalAdmin) :
      requireSameTenant sha256 subject resource = .ok () := by
    have foreign : resource.platform = false :=
      Bool.eq_false_iff.mpr fun platform => role (owned platform)
    exact sameTenant_of_role role (ruled foreign)
  refine ⟨fun role => ?_, fun role admin same global awake => ?_, fun role => ?_⟩
  · have notGlobal : subject.role ≠ .globalAdmin := by simp [role]
    refine authorize_ok_iff.mpr ⟨fine, rfl, active, fun platform => ?_, fun _ => ?_⟩
    · exact absurd (owned platform) notGlobal
    · exact inTenant notGlobal
  · refine authorize_ok_iff.mpr ⟨same ▸ fine, by simp [global, Role.valid], awake,
      fun _ => global, fun _ => ?_⟩
    simp [authorizeRole, global]
  · exact newTenantFilter_of_sameTenant fine.named known active role (inTenant role)

end

def grantedUser : Subject :=
  { userID := "u1", tenantID := "acme", role := .endUser, active := true
    grants := [⟨"site", "s1", [.read]⟩] }

def grantedSite : Resource := { type := "site", id := "s1", tenantID := "acme" }

theorem granted_user_ordered : authorize id grantedUser .read grantedSite = .ok () ∧
      authorize id { grantedUser with role := .accountAdmin } .read grantedSite = .ok () :=
  have permitted : authorize id grantedUser .read grantedSite = .ok () := rfl
  ⟨permitted, (permissions_ordered id grantedUser .read grantedSite permitted).1 rfl⟩

end Cashp.Guard
