import Cashp.Auth.ServiceCore

/-!
What the writes of the auth service do to an account, and when its second factor can be lost.
-/

namespace Cashp.Auth

open Kit Kit.Program

def Change.edit (kind : Kind) (row : Account) : Change → Account
  | .setPassword other id hash =>
    if other = kind ∧ row.id = id then { row with passwordHash := hash } else row
  | .setTOTP other account secret enabled _ =>
    if other = kind ∧ row.id = account.id then
      { row with totpSecret := secret, totpEnabled := enabled }
    else row
  | .setUserFlags id approved disabled =>
    if kind = .user ∧ row.id = id then { row with approved := approved, disabled := disabled }
    else row
  | .setUserEmail id email verified =>
    if kind = .user ∧ row.id = id then { row with email := email, emailVerified := verified }
    else row
  | .recordLoginSuccess other account _ _ =>
    if other = kind ∧ row.id = account.id then { row with failedLogins := 0, lockedUntil := 0 }
    else row
  | .recordLoginFailure other account failed locked _ =>
    if other = kind ∧ row.id = account.id then
      { row with failedLogins := failed, lockedUntil := locked }
    else row
  | _ => row

variable {change : Change} {store : Store} {kind : Kind} {id : Nat} {row before after : Account}
variable {next : Unit → AuthWork Outcome} {sessions : List Session}

theorem Change.edit_id : (change.edit kind row).id = row.id := by
  cases change <;> simp only [edit] <;> split <;> rfl

theorem accountByID_id (listed : store.accountByID kind id = some row) : row.id = id := by
  simpa using List.find?_some listed

theorem accounts_update {other : Kind} {assign : Account → Account} :
    (store.updateAccount other id assign).accounts kind = (store.accounts kind).map fun row =>
      if other = kind ∧ row.id = id then assign row else row := by
  cases other <;> cases kind <;>
    simp [Store.updateAccount, Store.withAccounts, Store.accounts, updateWhere]

theorem accounts_sessions {other : Kind} {trim : List Session → List Session} :
    (store.withSessions other trim).accounts kind = store.accounts kind := by
  cases other <;> cases kind <;> rfl

theorem account_after (listed : (change.apply store).2.accountByID kind id = some after) :
    (∃ before, store.accountByID kind id = some before ∧ after = change.edit kind before) ∨
      id = store.nextID ∧ store.accountByID kind id = none ∧
        ∃ account seen, change = .createAccount kind account seen := by
  have edited (same : (change.apply store).2.accounts kind =
      (store.accounts kind).map (change.edit kind)) :
      ∃ before, store.accountByID kind id = some before ∧ after = change.edit kind before := by
    rw [Store.accountByID, same, List.find?_map, Option.map_eq_some_iff] at listed
    obtain ⟨before, hit, rfl⟩ := listed
    refine ⟨before, ?_, rfl⟩
    simpa only [Store.accountByID, Function.comp_def, Change.edit_id] using hit
  have kept (same : (change.apply store).2.accounts kind = store.accounts kind)
      (idle : ∀ row, change.edit kind row = row) :
      ∃ before, store.accountByID kind id = some before ∧ after = change.edit kind before :=
    edited (by rw [same, funext idle, List.map_id'])
  cases change with
  | createAccount other account seen =>
    by_cases same : other = kind
    · subst same
      have added : (Change.apply (.createAccount other account seen) store).2.accounts other =
          store.accounts other ++ [{ account with id := store.nextID }] := by
        cases other <;> rfl
      rw [Store.accountByID, added, List.find?_append, Option.or_eq_some_iff] at listed
      obtain old | ⟨missing, new⟩ := listed
      · exact .inl ⟨after, old, rfl⟩
      have named := List.find?_some new
      rw [List.mem_singleton.mp (List.mem_of_find?_eq_some new), beq_iff_eq] at named
      exact .inr ⟨named.symm, missing, account, seen, rfl⟩
    · refine .inl (kept ?_ fun _ => rfl)
      cases other <;> cases kind <;> first | rfl | exact absurd rfl same
  | deleteUser user =>
    cases kind with
    | admin => exact .inl (kept rfl fun _ => rfl)
    | user =>
      have left := (List.find?_filter ..).symm.trans listed
      have spared := List.find?_some left
      simp only [decide_eq_true_eq, bne_iff_ne, beq_iff_eq] at spared
      obtain ⟨other, rfl⟩ := spared
      refine .inl ⟨after, (congrArg store.users.find? (funext fun row => ?_)).trans left, rfl⟩
      by_cases named : row.id = after.id <;> simp [named, other]
  | setPassword | setTOTP | recordLoginSuccess | recordLoginFailure =>
    exact .inl (edited accounts_update)
  | setUserFlags | setUserEmail =>
    refine .inl (edited (accounts_update.trans ?_))
    simp only [Change.edit, eq_comm]
  | createSession | deleteSessionByHash | deleteSession | deleteSessions =>
    exact .inl (kept accounts_sessions fun _ => rfl)
  | _ => exact .inl (kept (by cases kind <;> rfl) fun _ => rfl)

abbrev Write := Entry Store Change

/-- The write turns the enabled factor of the row off or gives it another secret. -/
def Strips (write : Write) (kind : Kind) (before : Account) : Prop :=
  write.site.store.accountByID kind before.id = some before ∧ before.totpEnabled = true ∧
    ∃ after, (write.site.after write.change).store.accountByID kind before.id = some after ∧
      (after.totpEnabled = false ∨ after.totpSecret ≠ before.totpSecret)

/-- The call that writes has supplied the password of the row and a code that was valid then. -/
def Supplied (setup : Setup) (row : Account) : Change → Prop
  | .setTOTP _ _ _ _ (.passwordAndCode password code now) =>
    (setup.checkPassword row.passwordHash password).1 = true ∧
      setup.validateTOTP row.totpSecret code now = true
  | _ => False

def Authority.Fits (row account : Account) (secret : String) : Authority → Prop
  | .session => row.totpEnabled = false
  | .code _ _ => row.totpEnabled = true → row.totpSecret = secret
  | .passwordAndCode _ _ _ => row.totpEnabled = true → account.totpEnabled = true ∧
      row.totpSecret = account.totpSecret ∧ row.passwordHash = account.passwordHash

instance (row account : Account) (secret : String) (authority : Authority) :
    Decidable (authority.Fits row account secret) := by
  cases authority <;> unfold Authority.Fits <;> infer_instance

/-- A new secret meets no enabled factor, and what the other calls have read still holds. -/
def FactorCurrent (write : Write) : Prop :=
  match write.change with
  | .setTOTP kind account secret _ authority =>
    ∀ row ∈ write.site.store.accountByID kind account.id, authority.Fits row account secret
  | _ => True

instance (write : Write) : Decidable (FactorCurrent write) := by
  unfold FactorCurrent
  split <;> infer_instance

@[simp]
theorem deleteEach_then_uses {allowed : Change → Prop} :
    (deleteEach sessions >>= next).Uses (Query.Allows allowed) ↔
      (∀ session ∈ sessions, allowed (.deleteSession session.id session.userID)) ∧
        (next ()).Uses (Query.Allows allowed) := by
  induction sessions with
  | nil => simp [deleteEach]
  | cons session rest ih =>
    simp only [deleteEach, put_then, step_then, uses_write_step, pure_then, ih,
      List.forall_mem_cons]
    constructor
    · rintro ⟨one, _, more⟩
      exact ⟨⟨one, (more 0).1⟩, (more 0).2⟩
    · rintro ⟨⟨one, rest⟩, more⟩
      exact ⟨one, more, fun _ => ⟨rest, more⟩⟩

def Vouched (setup : Setup) : Change → Prop
  | .setTOTP _ account secret enabled (.code _ _) => secret = account.totpSecret ∧ enabled = true
  | .setTOTP _ account _ _ (.passwordAndCode password code now) =>
    (setup.checkPassword account.passwordHash password).1 = true ∧
      (account.totpEnabled = true → setup.validateTOTP account.totpSecret code now = true)
  | .setUserEmail _ _ verified => verified = true
  | _ => True

attribute [simp] serve register inviteFor checkAvailable welcome consumeInvite issueSession
  trimUserSessions login adminLogin signIn reject recordLoginFailure resolveSession accountByID
  orgByID changePassword verifyEmail confirmPasswordReset deleteAccount beginTOTP confirmTOTP
  disableTOTP completeBootstrap createAdmin setUserApproval createOrg createOrgInvite deleteOrg
  checkMemberCap addOrgMember checkLastOwner setOrgMemberRole removeOrgMember transferOrgOwnership
  inviteOrgMember acceptOrgInvite

theorem serve_vouched (setup : Setup) (call : Call) :
    (serve setup call).Uses (Query.Allows (Vouched setup)) := by
  cases call with
  | register => cases mode : setup.config.registrationMode <;> simp [mode, Vouched]
  | createOrg =>
    cases mode : setup.config.orgCreationMode <;> simp [mode, Vouched]
  | confirmTOTP | disableTOTP => simp +contextual [Vouched]
  | _ => simp [Vouched]

theorem supplied_of_strips {setup : Setup} {write : Write} (vouched : Vouched setup write.change)
    (fits : FactorCurrent write) (strips : Strips write kind before) :
    Supplied setup before write.change := by
  obtain ⟨site, change⟩ := write
  obtain ⟨listed, enabled, after, left, changed⟩ := strips
  obtain ⟨row, same, rfl⟩ | ⟨_, missing, _⟩ := account_after left
  · obtain rfl : row = before := Option.some.inj (same.symm.trans listed)
    clear left same
    cases change with
    | setTOTP other account secret on authority =>
      by_cases hit : other = kind ∧ row.id = account.id
      · rw [Change.edit, if_pos hit] at changed
        have fits : authority.Fits row account secret := fits row (hit.1 ▸ hit.2 ▸ listed)
        cases authority <;> simp_all [Authority.Fits, Vouched, Supplied]
      · simp [Change.edit, hit, enabled] at changed
    | _ => grind [Change.edit]
  · rw [missing] at listed
    cases listed

/-- Whoever takes a second factor away has supplied a code for it, if the factor is still the one
that was read. -/
theorem second_factor_guarded (setup : Setup) {site : Site Store}
    {happenings : List (Happening Call)}
    (heeded : Every (Traffic.take (serve setup))
      (Traffic.Heeds (serve setup) {} fun _ write => FactorCurrent write)
      (Chronicle.opened site) happenings) :
    ∀ write ∈ (Traffic.run (serve setup) site happenings).events, ∀ kind before,
      Strips write kind before → Supplied setup before write.change :=
  Traffic.each_write (serve_vouched setup)
    (fun _ _ vouched fits _ _ strips => supplied_of_strips vouched fits strips) heeded

def plain : Setup where
  config := {}
  hashToken token := token
  hashPassword := some
  checkPassword stored candidate := (stored == candidate, false)
  validateTOTP secret code _ := code == secret
  validUsername _ := true
  validSlug _ := true
  validEmail _ := true
  validPassword _ := true
  blockedName _ := false

def newcomer : RegisterInput where
  username := "bob"
  email := "bob@example.org"
  password := "pw"
  session := some "token"

def empty : Site Store := { store := {}, clock := 1000 * Duration.second }

def alice : Account where
  id := 1
  username := "alice"
  email := "alice@example.org"
  passwordHash := "pw"
  emailVerified := true
  totpSecret := "code"
  totpEnabled := true

def home : Site Store where
  store := { users := [alice], nextID := 2 }
  clock := 1000 * Duration.second

def turnOff : List (Happening Call) :=
  .call (.disableTOTP .user 1 "pw" "code") :: List.replicate 3 (.advance 0)

theorem second_factor_guarded_turned_off :
    (Traffic.run (serve plain) home turnOff).site.store.users =
        [{ alice with totpSecret := "", totpEnabled := false }] ∧
      ∀ write ∈ (Traffic.run (serve plain) home turnOff).events, ∀ kind before,
        Strips write kind before → Supplied plain before write.change :=
  ⟨by decide +kernel, second_factor_guarded plain (by decide +kernel)⟩

/-- A session is enough to begin anew, and the enabled factor is gone. -/
theorem second_factor_lost : ∃ write ∈ (Traffic.run (serve plain) home
      [.call (.beginTOTP .user 1 (some "new")), .advance 0, .advance 0]).events,
        Strips write .user alice ∧ ¬ Supplied plain alice write.change := by
  refine ⟨⟨home, .setTOTP .user alice "new" false .session⟩, ?_, ⟨rfl, rfl, ?_⟩, not_false⟩
  · exact List.mem_singleton_self _
  · exact ⟨{ alice with totpSecret := "new", totpEnabled := false }, rfl, .inl rfl⟩

end Cashp.Auth
