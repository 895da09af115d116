import Cashp.Auth.Accounts

/-!
Users and organizations share one namespace. A name is looked up in three tables and inserted later,
and no index keeps two callers apart.
-/

namespace Cashp.Auth

open Kit Kit.Program

variable {setup : Setup} {store : Store} {site : Site Store} {write : Write} {name : String}

inductive NameCall
  | register (input : RegisterInput)
  | createOrg (creatorID : Nat) (slug inviteCode : String) (profile : Bool)
  | deleteAccount (userID : Nat) (password : String)
  | deleteOrg (orgID : Nat) (confirmSlug : String)

def serveNames (setup : Setup) : NameCall → AuthWork Outcome
  | .register input => register setup input
  | .createOrg creatorID slug inviteCode profile =>
    createOrg setup creatorID slug inviteCode profile
  | .deleteAccount userID password => deleteAccount setup userID password
  | .deleteOrg orgID confirmSlug => deleteOrg orgID confirmSlug

structure Distinct (store : Store) : Prop where
  users : (store.users.map Account.username).Nodup
  orgs : (store.orgs.map Org.slug).Nodup
  apart : ∀ user ∈ store.users, ∀ org ∈ store.orgs, user.username ≠ org.slug
  emails : (store.users.map Account.email).Nodup
  usersLive : ∀ user ∈ store.users, user.username ∉ store.tombstones
  orgsLive : ∀ org ∈ store.orgs, org.slug ∉ store.tombstones

def Releases (write : Write) (name : String) : Prop :=
  match write.change with
  | .deleteUser user => ∃ row ∈ write.site.store.users, row.id = user.id ∧ row.username = name
  | .deleteOrg org => ∃ row ∈ write.site.store.orgs, row.id = org.id ∧ row.slug = name
  | _ => False

def Checked : Change → Prop
  | .createAccount kind _ seen =>
    kind = .user ∧ seen.users = 0 ∧ seen.orgs = 0 ∧ seen.tombstones = 0 ∧ seen.emails = 0
  | .createOrg _ seen => seen.users = 0 ∧ seen.orgs = 0 ∧ seen.tombstones = 0
  | .deleteUser _ | .deleteOrg _ | .consumeInvite .. | .addOrgMember .. => True
  | .createEmailVerification _ | .deleteSession .. => True
  | .createSession kind _ => kind = .user
  | _ => False

theorem names_checked (call : NameCall) : (serveNames setup call).Uses (Query.Allows Checked) := by
  cases call with
  | register =>
    cases mode : setup.config.registrationMode <;> simp [serveNames, mode, Checked] <;>
      simp +contextual [List.count_eq_zero]
  | createOrg =>
    cases mode : setup.config.orgCreationMode <;> simp [serveNames, mode, Checked] <;>
      simp +contextual [List.count_eq_zero]
  | deleteAccount | deleteOrg => simp [serveNames, Checked]

def NamesCurrent (write : Write) : Prop :=
  let store := write.site.store
  match write.change with
  | .createAccount _ account seen =>
    store.usersNamed account.username = seen.users ∧ store.orgsNamed account.username = seen.orgs ∧
      store.tombstones.count account.username = seen.tombstones ∧
      store.emails account.email = seen.emails
  | .createOrg org seen =>
    store.usersNamed org.slug = seen.users ∧ store.orgsNamed org.slug = seen.orgs ∧
      store.tombstones.count org.slug = seen.tombstones
  | .deleteUser user => (∀ row ∈ store.users, row.id = user.id → row.username = user.username) ∧
      (user.username ∈ store.tombstones ∨ ∃ row ∈ store.users, row.id = user.id)
  | .deleteOrg org => (∀ row ∈ store.orgs, row.id = org.id → row.slug = org.slug) ∧
      (org.slug ∈ store.tombstones ∨ ∃ row ∈ store.orgs, row.id = org.id)
  | _ => True

instance (write : Write) : Decidable (NamesCurrent write) :=
  match write with
  | ⟨_, _⟩ => by
    unfold NamesCurrent
    dsimp only
    split <;> infer_instance

theorem usersNamed_eq_zero :
    store.usersNamed name = 0 ↔ ∀ user ∈ store.users, user.username ≠ name := by
  simp [Store.usersNamed, List.countP_eq_zero]

theorem orgsNamed_eq_zero : store.orgsNamed name = 0 ↔ ∀ org ∈ store.orgs, org.slug ≠ name := by
  simp [Store.orgsNamed, List.countP_eq_zero]

theorem emails_eq_zero {email : String} :
    store.emails email = 0 ↔ ∀ user ∈ store.users, user.email ≠ email := by
  simp [Store.emails, List.countP_eq_zero]

theorem Distinct.kept (distinct : Distinct write.site.store) (checked : Checked write.change)
    (current : NamesCurrent write) : Distinct (write.site.after write.change).store := by
  obtain ⟨⟨store, clock, down⟩, change⟩ := write
  have ⟨users, orgs, apart, emails, usersLive, orgsLive⟩ := distinct
  cases change with
  | createAccount =>
    obtain ⟨rfl, noUsers, noOrgs, noTombstones, noEmails⟩ := checked
    simp only [NamesCurrent, noUsers, noOrgs, noTombstones, noEmails, usersNamed_eq_zero,
      orgsNamed_eq_zero, emails_eq_zero, List.count_eq_zero] at current
    obtain ⟨newUser, newOrg, live, newEmail⟩ := current
    refine ⟨?_, orgs, ?_, ?_, ?_, orgsLive⟩ <;>
      simp only [Site.after, Ledger.apply, Change.apply, Store.withAccounts] <;> grind
  | createOrg =>
    obtain ⟨noUsers, noOrgs, noTombstones⟩ := checked
    simp only [NamesCurrent, noUsers, noOrgs, noTombstones, usersNamed_eq_zero,
      orgsNamed_eq_zero, List.count_eq_zero] at current
    obtain ⟨newUser, newOrg, live⟩ := current
    refine ⟨users, ?_, ?_, emails, usersLive, ?_⟩ <;>
      simp only [Site.after, Ledger.apply, Change.apply] <;> grind
  | deleteUser user =>
    obtain ⟨asRead, there⟩ := current
    have others {row : Account} (listed : row ∈ store.users) (other : row.id ≠ user.id) :
        row.username ≠ user.username := by
      obtain retired | ⟨gone, held, same⟩ := there
      · exact fun same => usersLive row listed (same ▸ retired)
      intro shared
      rw [← asRead gone held same] at shared
      exact other (List.inj_on_of_nodup_map users listed held shared ▸ same)
    have elsewhere {org : Org} (listed : org ∈ store.orgs) : org.slug ≠ user.username := by
      grind
    refine ⟨users.sublist (List.filter_sublist.map _), orgs, ?_,
      emails.sublist (List.filter_sublist.map _), ?_, ?_⟩ <;>
      simp only [Site.after, Ledger.apply, Change.apply] <;> grind
  | deleteOrg org =>
    obtain ⟨asRead, there⟩ := current
    have others {row : Org} (listed : row ∈ store.orgs) (other : row.id ≠ org.id) :
        row.slug ≠ org.slug := by
      obtain retired | ⟨gone, held, same⟩ := there
      · exact fun same => orgsLive row listed (same ▸ retired)
      intro shared
      rw [← asRead gone held same] at shared
      exact other (List.inj_on_of_nodup_map orgs listed held shared ▸ same)
    have elsewhere {user : Account} (listed : user ∈ store.users) : user.username ≠ org.slug := by
      grind
    refine ⟨users, orgs.sublist (List.filter_sublist.map _), ?_, emails, ?_, ?_⟩ <;>
      simp only [Site.after, Ledger.apply, Change.apply] <;> grind
  | consumeInvite | addOrgMember | createEmailVerification | deleteSession =>
    exact ⟨users, orgs, apart, emails, usersLive, orgsLive⟩
  | createSession =>
    obtain rfl := checked
    exact ⟨users, orgs, apart, emails, usersLive, orgsLive⟩
  | _ => exact checked.elim

theorem tombstones_stay {change : Change} (retired : name ∈ store.tombstones) :
    name ∈ (change.apply store).2.tombstones := by
  cases change with
  | createAccount kind | setPassword kind | setTOTP kind | recordLoginSuccess kind
  | recordLoginFailure kind | createSession kind | deleteSessions kind =>
      cases kind <;> exact retired
  | deleteUser | deleteOrg => exact List.mem_append_left _ retired
  | _ => exact retired

theorem retired_of_releases (current : NamesCurrent write)
    (releases : Releases write name) : name ∈ (write.site.after write.change).store.tombstones := by
  obtain ⟨site, change⟩ := write
  cases change with
  | deleteUser | deleteOrg =>
    obtain ⟨row, listed, same, rfl⟩ := releases
    exact List.mem_append_right _ (List.mem_singleton.mpr (current.1 row listed same))
  | _ => exact releases.elim

/-- No name is given twice, and a name that is given up is not given again. -/
theorem names_distinct (setup : Setup) {happenings : List (Happening NameCall)}
    (start : Distinct site.store)
    (heeded : Every (Traffic.take (serveNames setup))
      (Traffic.Heeds (serveNames setup) {} fun _ write => NamesCurrent write)
      (Chronicle.opened site) happenings) :
    Distinct (Traffic.run (serveNames setup) site happenings).site.store ∧
      ∀ write ∈ (Traffic.run (serveNames setup) site happenings).events, ∀ name,
        Releases write name →
          name ∈ (Traffic.run (serveNames setup) site happenings).site.store.tombstones := by
  refine Traffic.kept (fun record site => Distinct site.store ∧ ∀ write ∈ record, ∀ name,
      Releases write name → name ∈ site.store.tombstones)
    ⟨start, fun _ listed => nomatch listed⟩ names_checked
    (fun record write valid checked current => ⟨valid.1.kept checked current, ?_⟩)
    (fun _ _ _ valid _ same => same ▸ valid) heeded
  refine List.forall_mem_append.mpr ⟨fun old listed name releases => ?_,
    List.forall_mem_singleton.mpr fun name => retired_of_releases current⟩
  exact tombstones_stay (valid.2 old listed name releases)

def joinAs (name : String) : NameCall :=
  .register { newcomer with username := name, email := name ++ "@example.org" }

def together (first second : Nat) : List (Happening NameCall) :=
  (List.replicate 9 [.advance first, .advance second]).flatten

/-- Three users and an organization come, and one of the users goes. -/
def comings : List (Happening NameCall) :=
  .call (joinAs "bob") :: .call (joinAs "dana") :: together 0 1 ++
    .call (.createOrg 1 "acme" "" true) :: .call (joinAs "eve") :: together 2 3 ++
      .call (.deleteAccount 2 "pw") :: List.replicate 6 (.advance 4)

theorem names_distinct_comings :
    let later := Traffic.run (serveNames plain) empty comings
    later.site.store.users.map Account.username = ["bob", "eve"] ∧
      later.site.store.orgs.map Org.slug = ["acme"] ∧ later.site.store.tombstones = ["dana"] ∧
      Distinct later.site.store ∧ ∀ write ∈ later.events, ∀ name,
        Releases write name → name ∈ later.site.store.tombstones :=
  ⟨by decide +kernel, by decide +kernel, by decide +kernel,
    names_distinct plain ⟨.nil, .nil, by decide, .nil, by decide, by decide⟩ (by decide +kernel)⟩

def joinTogether : List (Happening NameCall) :=
  List.replicate 2 (.call (.register newcomer)) ++ List.replicate 4 (.advance 0) ++
    List.replicate 5 (.advance 1) ++ [.advance 0]

theorem name_taken_twice :
    ¬ Distinct (Traffic.run (serveNames plain) empty joinTogether).site.store := by
  intro distinct
  have twice : (Traffic.run (serveNames plain) empty joinTogether).site.store.users.map
      Account.username = ["bob", "bob"] := by
    decide +kernel
  exact absurd (twice ▸ distinct.users) (by decide)

end Cashp.Auth
