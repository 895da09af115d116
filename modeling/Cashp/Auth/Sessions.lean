import Cashp.Auth.Accounts

/-!
The gates of `Login` against the sessions that are honoured, and the lockout after too many failed
attempts.
-/

namespace Cashp.Auth

open Kit Kit.Program Kit.Duration

variable {setup : Setup} {change : Change} {store : Store} {site : Site Store} {id : Nat}
variable {row : Account} {begun : Int}

theorem nextID_le : store.nextID ≤ (change.apply store).2.nextID := by
  cases change with
  | createAccount kind | setPassword kind | setTOTP kind | recordLoginSuccess kind
  | recordLoginFailure kind | createSession kind | deleteSessions kind =>
    cases kind <;> first | exact Nat.le_refl _ | exact Nat.le_succ _
  | _ => first | exact Nat.le_refl _ | exact Nat.le_succ _

theorem session_after {session : Session} (listed : session ∈ (change.apply store).2.userSessions) :
    session ∈ store.userSessions ∨
      ∃ added, change = .createSession .user added ∧ session.userID = added.userID := by
  cases change with
  | createSession kind added =>
    cases kind with
    | admin => exact .inl listed
    | user =>
      obtain rfl | old := List.mem_cons.mp listed
      · exact .inr ⟨added, rfl, rfl⟩
      · exact .inl old
  | createAccount kind | setPassword kind | setTOTP kind | recordLoginSuccess kind
  | recordLoginFailure kind => cases kind <;> exact .inl listed
  | deleteSessions kind =>
    cases kind with
    | admin => exact .inl listed
    | user => exact .inl (List.mem_filter.mp listed).1
  | deleteUser | deleteSessionByHash | deleteSession => exact .inl (List.mem_filter.mp listed).1
  | _ => exact .inl listed

def Admitted (setup : Setup) (user : Account) (now : Int) : Prop :=
  user.disabled = false ∧ user.approved = true ∧ user.lockedUntil ≤ now ∧
    (setup.config.requireEmailVerification = true → user.emailVerified = true)

def Unbarred (setup : Setup) (user : Account) (now : Int) : Prop :=
  user.lockedUntil ≤ now ∧
    (setup.config.requireEmailVerification = true → user.emailVerified = true)

instance (user : Account) (now : Int) : Decidable (Unbarred setup user now) :=
  inferInstanceAs (Decidable (_ ∧ _))

/-- Sessions are given to unbarred accounts only, and nobody who has a session is locked. -/
def SessionsGated (setup : Setup) (write : Write) : Prop :=
  match write.change with
  | .createSession .user session =>
    ∃ row ∈ write.site.store.accountByID .user session.userID, Unbarred setup row write.site.unix
  | .recordLoginFailure .user account _ locked _ => write.site.unix < locked →
      ∀ session ∈ write.site.store.userSessions, session.userID ≠ account.id
  | _ => True

instance (write : Write) : Decidable (SessionsGated setup write) :=
  match write with
  | ⟨_, _⟩ => by
    unfold SessionsGated
    dsimp only
    split <;> infer_instance

structure Gated (setup : Setup) (site : Site Store) : Prop where
  epoch : 0 ≤ site.unix
  known : ∀ id row, site.store.accountByID .user id = some row → id < site.store.nextID
  owned : ∀ session ∈ site.store.userSessions, session.userID < site.store.nextID
  unbarred : ∀ session ∈ site.store.userSessions, ∀ row,
    site.store.accountByID .user session.userID = some row → Unbarred setup row site.unix

theorem Unbarred.edit {now : Int} (unbarred : Unbarred setup row now)
    (epoch : 0 ≤ now) (vouched : Vouched setup change) (unlocked : ∀ account failed locked read,
      change = .recordLoginFailure .user account failed locked read → row.id = account.id →
        locked ≤ now) : Unbarred setup (change.edit .user row) now := by
  obtain ⟨open_, verified⟩ := unbarred
  cases change <;> simp only [Change.edit] <;> grind [Unbarred, Vouched]

theorem Gated.write {write : Write} (gated : Gated setup write.site)
    (vouched : Vouched setup write.change) (fits : SessionsGated setup write) :
    Gated setup (write.site.after write.change) := by
  obtain ⟨site, change⟩ := write
  have later : site.store.nextID ≤ (change.apply site.store).2.nextID := nextID_le
  refine ⟨gated.epoch, fun id row listed => ?_, fun session listed => ?_,
    fun session listed row hit => ?_⟩
  · obtain ⟨before, old, rfl⟩ | ⟨rfl, _, account, seen, rfl⟩ := account_after listed
    · exact Nat.lt_of_lt_of_le (gated.known id before old) later
    · exact Nat.lt_succ_self _
  · obtain old | ⟨added, rfl, same⟩ := session_after listed
    · exact Nat.lt_of_lt_of_le (gated.owned session old) later
    · obtain ⟨row, hit, _⟩ := fits
      exact same ▸ Nat.lt_of_lt_of_le (gated.known _ row hit) later
  · obtain old | ⟨added, rfl, same⟩ := session_after listed
    · obtain ⟨before, found, rfl⟩ | ⟨fresh, _⟩ := account_after hit
      · refine (gated.unbarred session old before found).edit gated.epoch vouched ?_
        rintro account failed locked read rfl named
        by_contra locks
        exact fits (Int.not_le.mp locks) session old ((accountByID_id found).symm.trans named)
      · exact absurd (gated.owned session old) (fresh ▸ Nat.lt_irrefl _)
    · obtain ⟨before, found, unbarred⟩ := fits
      obtain ⟨_, kept, rfl⟩ | ⟨_, _, _, _, impossible⟩ := account_after hit
      · rw [same, found] at kept
        exact Option.some.inj kept ▸ unbarred
      · cases impossible

theorem Gated.resolved {token : String} {user : Account} {session : Session}
    (gated : Gated setup site)
    (accepted : ((resolveSession setup token).run site).1 = .ok (.resolved user session)) :
    Admitted setup user site.unix := by
  have traced : (resolveSession setup token).Tells Query.written (fun site later => later = site)
      (fun answer _ later => answer = .ok (.resolved user session) → Admitted setup user site.unix)
      [] site := by
    simp
    rintro _ _ row listed _ _ _ hit enabled approved rfl _
    exact ⟨enabled, approved, gated.unbarred row (List.mem_of_find?_eq_some listed) _ hit⟩
  exact tells_alone.mp traced accepted

/-- A session that resolves belongs to an account that may log in by then. -/
theorem resolved_sessions_admitted (setup : Setup) {happenings : List (Happening Call)}
    (epoch : 0 ≤ site.clock) (fresh : site.store.userSessions = [])
    (known : ∀ id row, site.store.accountByID .user id = some row → id < site.store.nextID)
    (heeded : Every (Traffic.take (serve setup))
      (Traffic.Heeds (serve setup) { forward := true } fun _ write => SessionsGated setup write)
      (Chronicle.opened site) happenings)
    (token : String) (user : Account) (session : Session)
    (accepted : ((resolveSession setup token).run
      (Traffic.run (serve setup) site happenings).site).1 = .ok (.resolved user session)) :
    Admitted setup user (Traffic.run (serve setup) site happenings).site.unix := by
  refine Gated.resolved (Traffic.kept (fun _ site => Gated setup site)
    ⟨Int.ediv_nonneg epoch (by decide), known, by simp [fresh], by simp [fresh]⟩
    (serve_vouched setup)
    (fun _ _ gated vouched fits => gated.write vouched fits)
    (fun _ before later gated weather same => ?_) heeded) accepted
  have passed : before.unix ≤ later.unix := Int.ediv_le_ediv (by decide) (weather.1 rfl)
  obtain ⟨epoch, known, owned, unbarred⟩ := gated
  rw [← same] at known owned unbarred
  refine ⟨Int.le_trans epoch passed, known, owned, fun session listed row hit => ?_⟩
  obtain ⟨unlocked, verified⟩ := unbarred session listed row hit
  exact ⟨Int.le_trans unlocked passed, verified⟩

def joining : List (Happening Call) := .call (.register newcomer) :: List.replicate 9 (.advance 0)

def bob : Account where
  id := 1
  username := "bob"
  email := "bob@example.org"
  passwordHash := "pw"
  emailVerified := true

theorem resolved_sessions_admitted_joined :
    Admitted plain bob (Traffic.run (serve plain) empty joining).site.unix :=
  resolved_sessions_admitted plain (by decide) rfl
    (by simp [empty, Store.accountByID, Store.accounts]) (by decide +kernel) "token" bob
    ⟨2, 1, "token", 2593000⟩ (by decide +kernel)

def strict : Setup := { plain with config := { requireEmailVerification := true } }

/-- The session that `Register` returns is honoured although the address is not verified. -/
theorem unverified_session_resolved :
    ((resolveSession strict "token").run (Traffic.run (serve strict) empty joining).site).1 =
        .ok (.resolved { bob with emailVerified := false } ⟨3, 1, "token", 2593000⟩) ∧
      ¬ Admitted strict { bob with emailVerified := false }
        (Traffic.run (serve strict) empty joining).site.unix :=
  ⟨by decide +kernel, fun admitted => nomatch admitted.2.2.2 rfl⟩

def Attempted : Change → Prop
  | .createAccount .. => False
  | .recordLoginSuccess .user account _ checked => account.lockedUntil ≤ checked
  | .recordLoginFailure .user account failed locked now =>
    let locks := lockoutThreshold ≤ account.failedLogins + 1
    failed = (if locks then 0 else account.failedLogins + 1) ∧
      locked = if locks then now + lockoutDuration else account.lockedUntil
  | _ => True

def failed (id : Nat) (write : Write) : Bool :=
  match write.change with
  | .recordLoginFailure .user account _ _ _ => account.id == id
  | _ => false

def succeeded (id : Nat) (write : Write) : Option Int :=
  match write.change with
  | .recordLoginSuccess .user account start _ => if account.id = id then some start else none
  | _ => none

structure Tally where
  count : Nat := 0
  reachedAt : List Int := []

def Tally.add (id : Nat) (tally : Tally) (write : Write) : Tally :=
  if failed id write then
    { count := tally.count + 1
      reachedAt := if tally.count + 1 = lockoutThreshold then tally.reachedAt ++ [write.site.clock]
        else tally.reachedAt }
  else if (succeeded id write).isSome then { tally with count := 0 } else tally

def tally (id : Nat) (record : List Write) : Tally := record.foldl (Tally.add id) {}

/-- What an attempt has read still holds when it is recorded, no lock runs out while a login is
under way or in the second in which it began, and logins succeed in the order in which they
began. -/
def InTurn (id : Nat) (record : List Write) (write : Write) : Prop :=
  match write.change with
  | .recordLoginFailure .user account _ _ now => account.id = id →
      (∃ row ∈ write.site.store.accountByID .user id,
        row.failedLogins = account.failedLogins ∧ row.lockedUntil = account.lockedUntil) ∧
      (lockoutThreshold ≤ account.failedLogins + 1 → write.site.unix = now)
  | .recordLoginSuccess .user account start checked => account.id = id →
      (∃ row ∈ write.site.store.accountByID .user id, row.lockedUntil = account.lockedUntil) ∧
      (start / second ≤ account.lockedUntil → checked < account.lockedUntil) ∧
      ∀ earlier ∈ record, ∀ begun ∈ succeeded id earlier, begun ≤ start
  | _ => True

instance (record : List Write) (write : Write) : Decidable (InTurn id record write) :=
  match write with
  | ⟨_, _⟩ => by
    unfold InTurn
    dsimp only
    split <;> infer_instance

structure Counted (id : Nat) (record : List Write) (site : Site Store) : Prop where
  count : ∀ row ∈ site.store.accountByID .user id,
    row.failedLogins = ((tally id record).count % 10 : Nat)
  past : ∀ time ∈ (tally id record).reachedAt, time ≤ site.clock
  standing : ∀ time ∈ (tally id record).reachedAt,
    (∀ row ∈ site.store.accountByID .user id, time / second + lockoutDuration ≤ row.lockedUntil) ∨
      ∃ write ∈ record, ∃ begun ∈ succeeded id write, time + lockoutDuration * second ≤ begun
  served : ∀ earlier login later, record = earlier ++ login :: later →
    ∀ begun ∈ succeeded id login, ∀ time ∈ (tally id earlier).reachedAt,
      time + lockoutDuration * second ≤ begun

theorem split_last {Item : Type} {items earlier later : List Item} {last item : Item}
    (split : items ++ [last] = earlier ++ item :: later) :
    (items = earlier ∧ last = item) ∨ ∃ middle, items = earlier ++ item :: middle := by
  obtain rfl | ⟨middle, final, rfl⟩ := later.eq_nil_or_concat
  · exact .inl (by simpa using List.append_inj' split rfl)
  · rw [List.concat_eq_append, ← List.cons_append, ← List.append_assoc] at split
    exact .inr ⟨middle, (List.append_inj' split rfl).1⟩

theorem edit_idle (named : row.id = id)
    (steady : failed id ⟨site, change⟩ = false) (quiet : succeeded id ⟨site, change⟩ = none) :
    (change.edit .user row).failedLogins = row.failedLogins ∧
      (change.edit .user row).lockedUntil = row.lockedUntil := by
  cases change <;> simp only [Change.edit] <;> grind [failed, succeeded]

theorem failed_eq_true {write : Write} (tried : failed id write = true) :
    ∃ account tries ending now,
      write.change = .recordLoginFailure .user account tries ending now ∧ account.id = id := by
  unfold failed at tried
  split at tried
  · exact ⟨_, _, _, _, ‹_›, eq_of_beq tried⟩
  · cases tried

theorem succeeded_eq_some {write : Write} (won : succeeded id write = some begun) :
    ∃ account checked,
      write.change = .recordLoginSuccess .user account begun checked ∧ account.id = id := by
  grind [succeeded]

theorem tally_concat {record : List Write} {write : Write} :
    tally id (record ++ [write]) = (tally id record).add id write := by
  simp [tally]

theorem row_after (attempted : Attempted change)
    (listed : (change.apply store).2.accountByID .user id = some row) :
    ∃ before, store.accountByID .user id = some before ∧ before.id = id ∧
      row = change.edit .user before := by
  obtain ⟨before, found, same⟩ | ⟨_, _, _, _, rfl⟩ := account_after listed
  · exact ⟨before, found, accountByID_id found, same⟩
  · exact attempted.elim

section

variable {record : List Write} {write : Write}

theorem waited {time : Int} (passed : time / second + lockoutDuration < begun / second) :
    time + lockoutDuration * second ≤ begun := by
  simp only [lockoutDuration, show second = 1000000000 from rfl] at *
  omega

theorem Counted.began (counted : Counted id record write.site)
    (attempted : Attempted write.change) (fits : InTurn id record write)
    (won : succeeded id write = some begun) :
    ∀ time ∈ (tally id record).reachedAt, time + lockoutDuration * second ≤ begun := by
  intro time reached
  obtain ⟨site, change⟩ := write
  obtain ⟨account, checked, rfl, named⟩ := succeeded_eq_some won
  obtain ⟨⟨row, hit, asRead⟩, steady, order⟩ := fits named
  obtain stands | ⟨write, listed, start, is, ended⟩ := counted.standing time reached
  · have unlocked : account.lockedUntil < begun / second :=
      Int.not_le.mp fun early => Int.not_le.mpr (steady early) attempted
    exact waited (Int.lt_of_le_of_lt (asRead ▸ stands row hit) unlocked)
  · exact Int.le_trans ended (order write listed start is)

theorem Counted.served_write (counted : Counted id record write.site)
    (attempted : Attempted write.change) (fits : InTurn id record write) :
    ∀ earlier login later, record ++ [write] = earlier ++ login :: later →
      ∀ begun ∈ succeeded id login, ∀ time ∈ (tally id earlier).reachedAt,
        time + lockoutDuration * second ≤ begun := by
  intro earlier login later split
  obtain ⟨rfl, rfl⟩ | ⟨middle, rfl⟩ := split_last split
  · exact fun _ won => counted.began attempted fits won
  · exact counted.served earlier login middle rfl

theorem count_after (tried : failed id write = true) :
    (tally id (record ++ [write])).count = (tally id record).count + 1 := by
  rw [tally_concat, Tally.add, if_pos tried]

theorem reached_after {time : Int} (tried : failed id write = true)
    (listed : time ∈ (tally id (record ++ [write])).reachedAt) :
    time ∈ (tally id record).reachedAt ∨
      time = write.site.clock ∧ (tally id record).count + 1 = lockoutThreshold := by
  rw [tally_concat, Tally.add, if_pos tried] at listed
  grind

theorem Counted.failure (counted : Counted id record write.site)
    (attempted : Attempted write.change) (fits : InTurn id record write)
    (tried : failed id write = true) :
    Counted id (record ++ [write]) (write.site.after write.change) := by
  have served := counted.served_write attempted fits
  obtain ⟨site, change⟩ := write
  obtain ⟨account, tries, ending, now, rfl, rfl⟩ := failed_eq_true tried
  obtain ⟨⟨stored, hit, asRead, asLocked⟩, instant⟩ := fits rfl
  have counts := counted.count stored hit
  have after (row : Account) (listed : row ∈ (Change.apply
      (.recordLoginFailure .user account tries ending now) site.store).2.accountByID .user
        account.id) : row.failedLogins = tries ∧ row.lockedUntil = ending := by
    obtain ⟨before, _, named, rfl⟩ := row_after attempted listed
    simp [Change.edit, named]
  obtain ⟨triesAre, endingIs⟩ := attempted
  refine ⟨fun row listed => ?_, fun time listed => ?_, fun time listed => ?_, served⟩
  · rw [count_after tried, (after row listed).1, triesAre]
    by_cases locks : lockoutThreshold ≤ account.failedLogins + 1
    · rw [if_pos locks]
      simp only [lockoutThreshold] at locks
      omega
    rw [if_neg locks]
    simp only [lockoutThreshold] at locks
    omega
  · obtain old | ⟨rfl, _⟩ := reached_after tried listed
    · exact counted.past time old
    · exact Int.le_refl _
  · obtain old | ⟨rfl, threshold⟩ := reached_after tried listed
    · refine (counted.standing time old).imp (fun stands row listed => ?_) ?_
      · have passed : time ≤ site.clock := counted.past time old
        rw [(after row listed).2, endingIs]
        split
        · rename_i locks
          rw [← instant locks]
          exact Int.add_le_add_right (Int.ediv_le_ediv (by decide) passed) _
        · exact asLocked ▸ stands stored hit
      · rintro ⟨write, listed, ended⟩
        exact ⟨write, List.mem_append_left _ listed, ended⟩
    · have locks : lockoutThreshold ≤ account.failedLogins + 1 := by
        simp only [lockoutThreshold] at *
        omega
      refine .inl fun row listed => Int.le_of_eq ?_
      rw [(after row listed).2, endingIs, if_pos locks, ← instant locks, Site.unix]

theorem Counted.success (counted : Counted id record write.site)
    (attempted : Attempted write.change) (fits : InTurn id record write)
    (won : succeeded id write = some begun) :
    Counted id (record ++ [write]) (write.site.after write.change) := by
  have began := counted.began attempted fits won
  have served := counted.served_write attempted fits
  obtain ⟨site, change⟩ := write
  obtain ⟨account, checked, rfl, rfl⟩ := succeeded_eq_some won
  have same : tally account.id
      (record ++ [⟨site, .recordLoginSuccess .user account begun checked⟩]) =
        { tally account.id record with count := 0 } := by
    rw [tally_concat, Tally.add, won]
    rfl
  refine ⟨fun row listed => ?_, same ▸ counted.past, fun time reached => .inr ?_, served⟩
  · obtain ⟨before, _, named, rfl⟩ := row_after attempted listed
    simp [Change.edit, named, same]
  · simp_all

theorem Counted.idle (counted : Counted id record write.site)
    (attempted : Attempted write.change) (fits : InTurn id record write)
    (steady : failed id write = false) (quiet : succeeded id write = none) :
    Counted id (record ++ [write]) (write.site.after write.change) := by
  have same : tally id (record ++ [write]) = tally id record := by
    rw [tally_concat, Tally.add, steady, quiet]
    rfl
  refine ⟨fun row listed => ?_, same ▸ counted.past, fun time reached => ?_,
    counted.served_write attempted fits⟩
  · obtain ⟨before, found, named, rfl⟩ := row_after attempted listed
    rw [(edit_idle named steady quiet).1, same, counted.count before found]
  rw [same] at reached
  refine (counted.standing time reached).imp (fun stands row listed => ?_) ?_
  · obtain ⟨before, found, named, rfl⟩ := row_after attempted listed
    rw [(edit_idle named steady quiet).2]
    exact stands before found
  · rintro ⟨write, listed, ended⟩
    exact ⟨write, List.mem_append_left _ listed, ended⟩

end

def carol : Account where
  id := 1
  username := "carol"
  email := "carol@example.org"
  passwordHash := "pw"

def office : Site Store :=
  { store := { users := [carol], nextID := 2 }, clock := 1000 * second + 900000000 }

def attempt (password : String) : LoginInput where
  identifier := "carol"
  password := password
  session := some "token"

def inTurn (thread : Nat) (password : String) : List (Happening LoginInput) :=
  .call (attempt password) :: List.replicate 9 (.advance thread)

def guessedUntil (time : Int) : List (Happening LoginInput) :=
  (List.range 10).flatMap (inTurn · "guess") ++ .clock time :: inTurn 10 "pw"

def burst : List (Happening LoginInput) :=
  List.replicate 10 (.call (attempt "guess")) ++
    (List.range 10).flatMap (fun thread => List.replicate 4 (.advance thread)) ++
      (List.range 10).map .advance ++ inTurn 10 "pw"

/-- The lock of a failure at 1000.9 s is over at 1900 s, although the attempts came in turn. -/
theorem lock_ends_early :
    (Traffic.run (login plain) office (guessedUntil (1900 * second))).answer 10 =
        some (.ok (.loggedIn { carol with lockedUntil := 1900 } "token")) ∧
      1900 * second < office.clock + lockoutDuration * second := by
  decide +kernel

end Cashp.Auth
