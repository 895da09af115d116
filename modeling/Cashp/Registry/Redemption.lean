import Cashp.Registry.Rows

/-!
The budget of enrollment tokens. A token is looked at and spent in one transaction, under the number
of uses that was read. The clock it is judged by was read before the transaction.
-/

namespace Cashp.Registry

open Kit Kit.Program Kit.Duration
open Nodes (unixOf)

/-- The tokens that one statement revokes. -/
inductive Scope
  | token (id : String)
  | expired (now : Int)
  | bound (nodeID : String)

def Scope.covers : Scope → TokenRow → Bool
  | .token id, row => row.id == id
  | .expired now, row => lapsed now row
  | .bound nodeID, row => row.nodeID == nodeID

/-- The clock somebody reads, a token that is redeemed, by its hash and with the reading of the
clock it is judged by, and tokens that are revoked. -/
inductive Redemption
  | read (now : Int)
  | redeemed (hash : String) (now : Int)
  | revoked (scope : Scope)

def Realm.voids (realm : Realm) (scope : Scope) (revokedAt : Int) : Option Redemption :=
  if realm.commits ∧ revokedAt ≠ 0 then some (.revoked scope) else none

def redeemed {Reply : Type} : Stmt Reply → Realm → Option Redemption
  | .tasks .clock, realm => some (.read realm.clock.now)
  | .enroll job, realm => (realm.redeems job).map fun _ => .redeemed job.hash job.now
  | .revokeToken revokedAt id, realm => realm.voids (.token id) revokedAt
  | .expireTokens now, realm => realm.voids (.expired now) now
  | .retire revokedAt nodeID, realm => realm.voids (.bound nodeID) revokedAt
  | _, _ => none

def redeems (hash : String) : Redemption → Bool
  | .redeemed other _ => other == hash
  | _ => false

/-- The tokens that a call puts out of use, once it has succeeded. -/
def Call.voids (told : List Redemption) (row : TokenRow) : Call → Prop
  | .revokeEnrollmentToken tokenID => row.id = tokenID
  | .expireEnrollmentTokens => ∃ now, .read now ∈ told ∧ lapsed (unixOf now) row = true
  | .remove req => row.nodeID = req.nodeID
  | _ => False

def redeemers (setup : Setup) (hash : String) (fleet : Fleet Redemption) : List Nat :=
  (List.range fleet.calls.length).filter fun thread =>
    match fleet.calls[thread]?, fleet.answer thread with
    | some (.enroll req _), some (.ok _) => setup.digest req.secret == hash
    | _, _ => false

def TokenRow.expiry (row : TokenRow) : Int := (scanEnrollment row).expiresAt

def TokenRow.Void (tables : Tables) (row : TokenRow) : Prop :=
  row.revokedAt ≠ 0 ∨
    row.nodeID ≠ "" ∧ ∃ node ∈ tables.nodes.rows, node.id = row.nodeID ∧ node.state = .removed

structure Honoured (setup : Setup) (first middle : Fleet Redemption) (later : List Happening)
    (fleet : Fleet Redemption) : Prop where
  within : ∀ row ∈ fleet.state.tables.tokens.rows,
    ((redeemers setup row.tokenHash fleet).length : Int) ≤ row.maxUses.uses
  /-- Who enrolls with a token that is void by now has redeemed it before. -/
  void : ∀ row ∈ middle.state.tables.tokens.rows, row.Void middle.state.tables →
    ∀ thread ∈ redeemers setup row.tokenHash fleet,
      ∃ now, (thread, .redeemed row.tokenHash now) ∈ middle.log
  /-- Who enrolls with a token that a call has put out of use by now has redeemed it before. -/
  revoked : ∀ row ∈ first.state.tables.tokens.rows, ∀ caller call answer,
    first.calls.length ≤ caller → middle.calls[caller]? = some call →
    middle.answer caller = some (.ok answer) → call.voids (middle.eventsOf caller) row →
    ∀ thread ∈ redeemers setup row.tokenHash fleet,
      ∃ now, (thread, .redeemed row.tokenHash now) ∈ middle.log
  inTime : ∀ row ∈ fleet.state.tables.tokens.rows, row.expiry ≠ zeroTime →
    ∀ thread now, (thread, .redeemed row.tokenHash now) ∈ fleet.log → now < row.expiry
  /-- Who enrolls with a token that has expired by now has looked at the clock before, unless
  the clock is put back. -/
  lapsed : ∀ row ∈ middle.state.tables.tokens.rows, row.expiry ≠ zeroTime →
    row.expiry ≤ middle.state.clock.now →
    (∀ reading, .clock reading ∈ later → row.expiry ≤ reading.now) →
    ∀ thread ∈ redeemers setup row.tokenHash fleet,
      ∃ now, now < row.expiry ∧ (thread, .read now) ∈ middle.log

structure TokenRow.Precedes (row next : TokenRow) : Prop where
  id : next.id = row.id
  hash : next.tokenHash = row.tokenHash
  nodeID : next.nodeID = row.nodeID
  expiresAt : next.expiresAt = row.expiresAt
  revoked : row.revokedAt ≠ 0 → next.revokedAt ≠ 0

theorem TokenRow.Precedes.refl (row : TokenRow) : row.Precedes row :=
  ⟨rfl, rfl, rfl, rfl, fun revoked => revoked⟩

theorem TokenRow.Precedes.trans {first second third : TokenRow} (early : first.Precedes second)
    (late : second.Precedes third) : first.Precedes third :=
  ⟨late.id.trans early.id, late.hash.trans early.hash, late.nodeID.trans early.nodeID,
    late.expiresAt.trans early.expiresAt, late.revoked ∘ early.revoked⟩

abbrev TokenTable.Evolve (before after : TokenTable) : Prop :=
  Table.Evolve TokenRow.Precedes before after

theorem TokenTable.Evolve.trans {first second third : TokenTable} (early : first.Evolve second)
    (late : second.Evolve third) : first.Evolve third :=
  Table.Evolve.trans (fun _ _ _ => TokenRow.Precedes.trans) early late

variable {row : TokenRow}

theorem TokenRow.Void.later {tables after : Tables} {next : TokenRow} (void : row.Void tables)
    (follows : row.Precedes next) (evolve : tables.nodes.Evolve after.nodes) : next.Void after := by
  rcases void with revoked | ⟨bound, node, listed, same, removed⟩
  · exact .inl (follows.revoked revoked)
  obtain ⟨last, present, precedes⟩ := evolve node listed
  refine .inr ⟨follows.nodeID ▸ bound, last, present, ?_, precedes.removed removed⟩
  rw [precedes.id, same, follows.nodeID]

theorem TokenRow.Precedes.covers {next : TokenRow} (follows : row.Precedes next) (scope : Scope) :
    scope.covers next = scope.covers row := by
  cases scope with
  | token => simp only [Scope.covers, follows.id]
  | expired => simp only [Scope.covers, lapsed, follows.expiresAt]
  | bound => simp only [Scope.covers, follows.nodeID]

theorem hash_unique : TokenRow.tokenHash ∈ [TokenRow.id, TokenRow.tokenHash] :=
  List.mem_cons_of_mem _ List.mem_cons_self

variable {realm : Realm} {Reply : Type} {noted : Option Redemption} {now : Int}
  {tokens after : TokenTable}

def Unredeemed (noted : Option Redemption) : Prop :=
  ∀ hash now, noted ≠ some (.redeemed hash now)

inductive TokenStep (realm : Realm) (after : TokenTable) (noted : Option Redemption) : Prop
  | kept (quiet : Unredeemed noted) (same : after = realm.tables.tokens)
  | revoked (quiet : Unredeemed noted) (matching : TokenRow → Bool) (revokedAt : Int)
      (same : after = realm.tables.tokens.revoke matching revokedAt)
  | issued (quiet : Unredeemed noted) (row : TokenRow) (unused : row.uses = 0)
      (inserted : realm.tables.tokens.insert row = some after)
  | spent (token : TokenRow) (now revokedAt : Int)
      (redeems : noted = some (.redeemed token.tokenHash now))
      (listed : token ∈ realm.tables.tokens.rows) (valid : ¬ token.Void realm.tables)
      (inTime : token.expiry ≠ zeroTime → now < token.expiry)
      (left : token.uses < token.maxUses.uses)
      (same : after = realm.tables.tokens.spend (consumes token.id token.uses) (token.uses + 1)
        revokedAt)

theorem live_iff {token : EnrollmentToken} : token.live now = true ↔
    token.revokedAt = zeroTime ∧ (token.expiresAt ≠ zeroTime → now < token.expiresAt) ∧
      token.uses < token.maxUses.uses := by
  grind [EnrollmentToken.live]

theorem consumes_iff {id : String} {seen : Int} :
    consumes id seen row = true ↔ row.id = id ∧ row.uses = seen ∧ row.revokedAt = 0 := by
  simp [consumes, and_assoc]

theorem Redeemed.valid {job : EnrollJob} {before after : Tables} {token : TokenRow}
    {credential : CredentialRow} {node : Node} {secret : String}
    (redeemed : Redeemed job before after token credential node secret) : ¬ token.Void before := by
  rintro (revoked | ⟨bound, removed, listed, same, state⟩)
  · obtain ⟨row, stored, hit⟩ : ∃ row ∈ before.tokens.rows,
        consumes token.id token.uses row = true := by
      by_contra missed
      refine redeemed.hit (Table.affected_eq_zero.mpr fun row stored => ?_)
      exact Bool.eq_false_iff.mpr fun hit => missed ⟨row, stored, hit⟩
    obtain ⟨id, _, unrevoked⟩ := consumes_iff.mp hit
    have only : row = token :=
      Table.eq_of_column List.mem_cons_self stored redeemed.listed id
    rw [only] at unrevoked
    exact revoked unrevoked
  · cases redeemed.joined with
    | create row free => exact bound free
    | rejoin row name address agentVersion _ there own allowed =>
      have only : row = removed :=
        Table.eq_of_column List.mem_cons_self there listed (own.trans same.symm)
      rw [only, state, canTransition_removed] at allowed
      cases allowed

theorem tokenStep (stmt : Stmt Reply) (realm : Realm) :
    TokenStep realm (execute stmt realm).2.tables.tokens (redeemed stmt realm) := by
  have silent : Unredeemed none := fun _ _ same => nomatch same
  have revokes : ∀ (scope : Scope) (revokedAt : Int) {Value : Type} (reply : Value)
      (later : Realm), later.tables.tokens = realm.tables.tokens.revoke scope.covers revokedAt →
      TokenStep realm (realm.write reply later).2.tables.tokens (realm.voids scope revokedAt) := by
    intro scope revokedAt Value reply later same
    have quiet : Unredeemed (realm.voids scope revokedAt) := by
      intro hash now noted
      rw [Realm.voids] at noted
      split at noted <;> cases noted
    rw [write_realm]
    split
    · exact .revoked quiet _ revokedAt same
    · exact .kept quiet rfl
  cases stmt with
  | tasks stmt =>
    refine .kept (fun hash now same => ?_) rfl
    cases stmt with
    | clock | _ => cases same
  | control => exact .kept silent (write_part (·.tables.tokens) rfl)
  | node | list | credential => exact .kept silent (ask_part (·.tables.tokens) _)
  | updateNode => exact .kept silent (write_part (·.tables.tokens) rfl)
  | useCredential | revokeCredentials => exact .kept silent (write_part (·.tables.tokens) rfl)
  | issueToken id hash role nodeID maxUses expiresAt =>
    obtain same | ⟨tokens, inserted, _, after⟩ := issueToken_cases id hash role nodeID maxUses
      expiresAt realm
    · exact .kept silent (by rw [same])
    · exact .issued silent _ rfl (by rw [after]; exact inserted)
  | revokeToken revokedAt id => exact revokes (.token id) revokedAt _ _ rfl
  | expireTokens now => exact revokes (.expired now) now _ _ rfl
  | retire revokedAt nodeID => exact revokes (.bound nodeID) revokedAt _ _ rfl
  | enroll job =>
    change TokenStep _ _ ((realm.redeems job).map _)
    obtain ⟨fails, same⟩ | ⟨node, secret, tables, token, credential, redeems, after, facts⟩ :=
      enroll_cases job realm
    · rw [fails, same]
      exact .kept silent rfl
    obtain ⟨_, inTime, left⟩ := live_iff.mp facts.live
    rw [redeems, after]
    exact .spent token job.now _ (by rw [facts.hash]; rfl) facts.listed facts.valid inTime left
      facts.spent

theorem redeemed_revokes {stmt : Stmt Reply} {scope : Scope}
    (noted : redeemed stmt realm = some (.revoked scope)) : ∃ revokedAt, revokedAt ≠ 0 ∧
      (execute stmt realm).2.tables.tokens =
        realm.tables.tokens.revoke scope.covers revokedAt := by
  have written : ∀ (other : Scope) (revokedAt : Int) {Value : Type} (reply : Value)
      (later : Realm), later.tables.tokens = realm.tables.tokens.revoke other.covers revokedAt →
      realm.voids other revokedAt = some (.revoked scope) → ∃ revokedAt, revokedAt ≠ 0 ∧
        (realm.write reply later).2.tables.tokens =
          realm.tables.tokens.revoke scope.covers revokedAt := by
    intro other revokedAt Value reply later same noted
    rw [Realm.voids, Option.ite_none_right_eq_some] at noted
    obtain ⟨⟨carried, dated⟩, wrote⟩ := noted
    cases wrote
    rw [write_realm, if_pos carried]
    exact ⟨revokedAt, dated, same⟩
  cases stmt with
  | tasks stmt => cases stmt <;> cases noted
  | revokeToken revokedAt id => exact written (.token id) revokedAt _ _ rfl noted
  | expireTokens now => exact written (.expired now) now _ _ rfl noted
  | retire revokedAt nodeID => exact written (.bound nodeID) revokedAt _ _ rfl noted
  | enroll =>
    obtain ⟨_, _, same⟩ := Option.map_eq_some_iff.mp noted
    cases same
  | _ => cases noted

theorem revoke_revokes {matching : TokenRow → Bool} {revokedAt : Int} (dated : revokedAt ≠ 0)
    (listed : row ∈ tokens.rows) (hit : matching row = true) :
    ∃ next ∈ (tokens.revoke matching revokedAt).rows,
      row.Precedes next ∧ next.revokedAt ≠ 0 := by
  by_cases unrevoked : row.revokedAt = 0
  · refine ⟨{ row with revokedAt := revokedAt }, Table.mem_update.mpr ⟨row, listed,
      Table.assignWhere_of ?_⟩, ⟨rfl, rfl, rfl, rfl, fun _ => dated⟩, dated⟩
    rw [hit, unrevoked]
    rfl
  · refine ⟨row, Table.mem_update.mpr ⟨row, listed, Table.assignWhere_not ?_⟩, .refl row,
      unrevoked⟩
    rw [hit, Bool.true_and, beq_eq_false_iff_ne]
    exact unrevoked

theorem TokenStep.evolve
    (step : TokenStep realm after noted) : realm.tables.tokens.Evolve after := by
  cases step with
  | kept quiet same =>
    rw [same]
    exact Table.evolve_refl TokenRow.Precedes.refl
  | revoked quiet matching revokedAt same =>
    rw [same]
    refine Table.evolve_update TokenRow.Precedes.refl fun row _ hit => ⟨rfl, rfl, rfl, rfl, ?_⟩
    simp_all
  | issued quiet row unused inserted => exact Table.evolve_insert TokenRow.Precedes.refl inserted
  | spent token now revokedAt redeems listed valid inTime left same =>
    rw [same]
    refine Table.evolve_update TokenRow.Precedes.refl fun row _ hit => ⟨rfl, rfl, rfl, rfl, ?_⟩
    exact fun revoked => absurd (consumes_iff.mp hit).2.2 revoked

theorem TokenStep.refuses
    (step : TokenStep realm after noted) (listed : row ∈ realm.tables.tokens.rows)
    (void : row.Void realm.tables) (now : Int) : noted ≠ some (.redeemed row.tokenHash now) := by
  cases step with
  | kept quiet => exact quiet _ _
  | revoked quiet => exact quiet _ _
  | issued quiet => exact quiet _ _
  | spent token read revokedAt redeems there valid =>
    intro wrote
    rw [redeems, Option.some.injEq, Redemption.redeemed.injEq] at wrote
    have only : token = row := Table.eq_of_column hash_unique there listed wrote.1
    exact valid (only ▸ void)

structure Counted (events : List Redemption) (tokens : TokenTable) : Prop where
  uses : ∀ row ∈ tokens.rows, row.uses = events.countP (redeems row.tokenHash)
  within : ∀ row ∈ tokens.rows, row.uses ≤ row.maxUses.uses
  vouched : ∀ hash now, .redeemed hash now ∈ events → ∃ row ∈ tokens.rows,
    row.tokenHash = hash ∧ (row.expiry ≠ zeroTime → now < row.expiry)

variable {events : List Redemption}

theorem count_unredeemed (quiet : Unredeemed noted) (hash : String) :
    (events ++ noted.toList).countP (redeems hash) = events.countP (redeems hash) := by
  cases noted with
  | none => rw [Option.toList_none, List.append_nil]
  | some event =>
    cases event with
    | read | revoked => simp [redeems]
    | redeemed other now => exact absurd rfl (quiet other now)

theorem vouched_later (evolve : tokens.Evolve after)
    (vouched : ∀ hash now, .redeemed hash now ∈ events → ∃ row ∈ tokens.rows,
      row.tokenHash = hash ∧ (row.expiry ≠ zeroTime → now < row.expiry))
    (new : ∀ hash now, noted = some (.redeemed hash now) → ∃ row ∈ tokens.rows,
      row.tokenHash = hash ∧ (row.expiry ≠ zeroTime → now < row.expiry)) :
    ∀ hash now, .redeemed hash now ∈ events ++ noted.toList → ∃ row ∈ after.rows,
      row.tokenHash = hash ∧ (row.expiry ≠ zeroTime → now < row.expiry) := by
  intro hash now listed
  obtain ⟨row, there, same, inTime⟩ : ∃ row ∈ tokens.rows,
      row.tokenHash = hash ∧ (row.expiry ≠ zeroTime → now < row.expiry) := by
    grind
  obtain ⟨next, present, follows⟩ := evolve row there
  have expiry : next.expiry = row.expiry := congrArg Nodes.unixOrZero follows.expiresAt
  exact ⟨next, present, follows.hash.trans same, expiry ▸ inTime⟩

theorem TokenStep.counted (step : TokenStep realm after noted)
    (counted : Counted events realm.tables.tokens) : Counted (events ++ noted.toList) after := by
  have evolve := step.evolve
  cases step with
  | kept quiet same =>
    subst same
    refine ⟨fun row listed => ?_, counted.within, vouched_later evolve counted.vouched ?_⟩
    · rw [count_unredeemed quiet]
      exact counted.uses row listed
    · exact fun hash now redeems => absurd redeems (quiet hash now)
  | revoked quiet matching revokedAt same =>
    subst same
    have before : ∀ row ∈ (realm.tables.tokens.revoke matching revokedAt).rows,
        ∃ old ∈ realm.tables.tokens.rows, row.tokenHash = old.tokenHash ∧ row.uses = old.uses ∧
          row.maxUses = old.maxUses := by
      intro row listed
      rcases Table.mem_of_assigned listed with same | ⟨old, there, _, rfl⟩
      · exact ⟨row, same, rfl, rfl, rfl⟩
      · exact ⟨old, there, rfl, rfl, rfl⟩
    refine ⟨fun row listed => ?_, fun row listed => ?_, vouched_later evolve counted.vouched ?_⟩
    · obtain ⟨old, there, hash, uses, _⟩ := before row listed
      rw [count_unredeemed quiet, hash, uses]
      exact counted.uses old there
    · obtain ⟨old, there, _, uses, budget⟩ := before row listed
      rw [uses, budget]
      exact counted.within old there
    · exact fun hash now redeems => absurd redeems (quiet hash now)
  | issued quiet added unused inserted =>
    have fresh : events.countP (redeems added.tokenHash) = 0 := by
      refine List.countP_eq_zero.mpr fun event listed hit => ?_
      cases event with
      | read | revoked => cases hit
      | redeemed hash now =>
        obtain ⟨row, there, same, _⟩ := counted.vouched hash now listed
        exact Table.insert_apart inserted hash_unique there (same.trans (beq_iff_eq.mp hit))
    have rows := Table.insert_rows inserted
    refine ⟨fun row listed => ?_, fun row listed => ?_, vouched_later evolve counted.vouched ?_⟩
    · rw [rows] at listed
      rw [count_unredeemed quiet]
      rcases List.mem_append.mp listed with before | last
      · exact counted.uses row before
      · rw [List.mem_singleton.mp last, unused, fresh]
        rfl
    · rw [rows] at listed
      rcases List.mem_append.mp listed with before | last
      · exact counted.within row before
      · rw [List.mem_singleton.mp last, unused]
        exact Int.le_trans (by decide) added.maxUses.positive
    · exact fun hash now redeems => absurd redeems (quiet hash now)
  | spent token now revokedAt wrote listed valid inTime left same =>
    subst same
    -- The one row that is written is the one whose uses and hash were read.
    have unrevoked : token.revokedAt = 0 := not_not.mp fun revoked => valid (.inl revoked)
    have hit : consumes token.id token.uses token = true :=
      consumes_iff.mpr ⟨rfl, rfl, unrevoked⟩
    have found : ∀ old ∈ realm.tables.tokens.rows, consumes token.id token.uses old = true →
        old = token := fun old stored selected =>
      Table.eq_of_column List.mem_cons_self stored listed (consumes_iff.mp selected).1
    have noticed : ∀ hash, (events ++ noted.toList).countP (redeems hash) =
        events.countP (redeems hash) + if token.tokenHash = hash then 1 else 0 := by
      intro hash
      rw [wrote, Option.toList_some, List.countP_append, List.countP_singleton]
      simp only [redeems, beq_iff_eq]
    refine ⟨fun row there => ?_, fun row there => ?_, vouched_later evolve counted.vouched ?_⟩
    · obtain ⟨old, stored, rfl⟩ := Table.mem_update.mp there
      rw [noticed]
      by_cases same : old = token
      · rw [same, Table.assignWhere_of hit, if_pos rfl]
        change token.uses + 1 = _
        rw [counted.uses token listed]
        rfl
      · have missed : consumes token.id token.uses old = false :=
          Bool.eq_false_iff.mpr fun selected => same (found old stored selected)
        rw [Table.assignWhere_not missed,
          if_neg fun hash => same (Table.eq_of_column hash_unique stored listed hash.symm)]
        exact counted.uses old stored
    · rcases Table.mem_of_assigned there with before | ⟨old, stored, selected, rfl⟩
      · exact counted.within row before
      · rw [found old stored selected]
        exact left
    · grind

structure Redeems (setup : Setup) (call : Call) (answer : Except RegistryError Answer)
    (told : List Redemption) : Prop where
  enrolls : ∀ req drawn value, call = .enroll req drawn → answer = .ok value →
    ∃ now, .read now ∈ told ∧ .redeemed (setup.digest req.secret) now ∈ told
  revokes : ∀ value row, answer = .ok value → call.voids told row →
    ∃ scope : Scope, scope.covers row = true ∧ .revoked scope ∈ told

theorem enroll_redeems (setup : Setup) (req : EnrollRequest) (drawn : Drawn)
    {told : List Redemption} :
    (enroll setup req drawn).Tells redeemed registry.rely
      (fun answer told _ => ∀ value, answer = .ok value →
        ∃ now, .read now ∈ told ∧ .redeemed (setup.digest req.secret) now ∈ told) told realm := by
  refine tells_after unanswered fun _ told later => ?_
  refine tells_after unanswered fun _ told later => ?_
  intro ticked _ last _
  cases answer : (execute (Stmt.enroll ⟨setup, req, _, drawn⟩) last).1 with
  | error => exact fun _ same => nomatch same
  | ok ended =>
    cases ended with
    | error => exact fun _ same => nomatch same
    | ok result =>
      intro _ _
      refine ⟨ticked.clock.now, ?_, ?_⟩
      · exact List.mem_append_left _ (List.mem_append_right _ List.mem_cons_self)
      · refine List.mem_append_right _ (Option.mem_toList.mpr ?_)
        exact Option.map_eq_some_iff.mpr ⟨result, enroll_answer answer, rfl⟩

theorem voids_listed {told : List Redemption} {scope : Scope} {revokedAt : Int}
    (carried : realm.commits = true) (dated : revokedAt ≠ 0) :
    .revoked scope ∈ told ++ (realm.voids scope revokedAt).toList := by
  rw [Realm.voids, if_pos ⟨carried, dated⟩]
  exact List.mem_append_right _ List.mem_cons_self

theorem revokeEnrollmentToken_voids (tokenID : String) {told : List Redemption} :
    (revokeEnrollmentToken tokenID).Tells redeemed registry.rely
      (fun answer told _ => ∀ value, answer = .ok value → .revoked (.token tokenID) ∈ told)
        told realm := by
  intro ticked _ last _
  cases answer : (execute (Stmt.revokeToken _ tokenID) last).1 with
  | error => exact fun _ same => nomatch same
  | ok => exact fun _ _ => voids_listed (write_ok answer).1 (unixOf_dated ticked.clock)

/-- The call reads the clock once and revokes what has expired by that reading. -/
theorem expireEnrollmentTokens_voids :
    expireEnrollmentTokens.Tells redeemed registry.rely (fun answer told _ => ∀ value,
      answer = .ok value → ∀ now, .read now ∈ told → .revoked (.expired (unixOf now)) ∈ told)
        [] realm := by
  intro ticked _ last _
  cases answer : (execute (Stmt.expireTokens _) last).1 with
  | error => exact fun _ same => nomatch same
  | ok =>
    intro _ _ now read
    have dated := unixOf_dated ticked.clock
    have only : now = ticked.clock.now := by
      rcases List.mem_append.mp read with clock | other
      · simp_all [redeemed]
      change _ ∈ (last.voids _ _).toList at other
      rw [Realm.voids, if_pos ⟨(write_ok answer).1, dated⟩] at other
      cases List.mem_singleton.mp other
    rw [only]
    exact voids_listed (write_ok answer).1 dated

theorem remove_voids (req : RemoveRequest) {told : List Redemption} :
    (remove req).Tells redeemed registry.rely
      (fun answer told _ => ∀ value, answer = .ok value → .revoked (.bound req.nodeID) ∈ told)
        told realm := by
  refine tells_after unanswered fun _ told later => ?_
  refine get_tells unanswered fun node told later same => ?_
  refine tells_after unanswered fun _ told later => ?_
  intro ticked _ last _
  cases answer : (execute (Stmt.retire _ node.id) last).1 with
  | error => exact fun _ same => nomatch same
  | ok =>
    rw [← same]
    exact (tells_kept (voids_listed (write_ok answer).1 (unixOf_dated ticked.clock))).imp
      fun _ _ _ listed _ _ => listed

theorem serve_redeems (json : Nodes.Json) (setup : Setup) (call : Call) (realm : Realm) :
    (call.serve json setup).Tells redeemed registry.rely
      (fun answer told _ => Redeems setup call answer told) [] realm := by
  cases call with
  | enroll req drawn =>
    refine (answering_tells (enroll_redeems setup req drawn)).imp fun answer told later ended => ?_
    refine ⟨?_, fun _ _ _ none => False.elim none⟩
    rintro _ _ value ⟨⟩ ok
    obtain ⟨result, _, held⟩ := ended value ok
    exact held
  | revokeEnrollmentToken tokenID =>
    refine (answering_tells (revokeEnrollmentToken_voids tokenID)).imp
      fun answer told later ended => ⟨fun _ _ _ same => (nomatch same),
        fun value row ok named => ?_⟩
    obtain ⟨_, _, listed⟩ := ended value ok
    exact ⟨.token tokenID, beq_iff_eq.mpr named, listed⟩
  | expireEnrollmentTokens =>
    refine (answering_tells expireEnrollmentTokens_voids).imp
      fun answer told later ended => ⟨fun _ _ _ same => (nomatch same), fun value row ok late => ?_⟩
    grind [Scope.covers, Call.voids]
  | remove req =>
    refine (answering_tells (remove_voids req)).imp
      fun answer told later ended => ⟨fun _ _ _ same => (nomatch same),
        fun value row ok bound => ?_⟩
    obtain ⟨_, _, listed⟩ := ended value ok
    exact ⟨.bound req.nodeID, beq_iff_eq.mpr bound, listed⟩
  | _ =>
    exact (tells_true _ _ _).imp fun _ _ _ _ =>
      ⟨fun _ _ _ same => (nomatch same), fun _ _ _ none => False.elim none⟩

variable {json : Nodes.Json} {setup : Setup} {fleet middle : Fleet Redemption} {thread : Nat}

def CountedIn (events : List Redemption) (realm : Realm) : Prop :=
  Counted events realm.tables.tokens

structure Accounted (setup : Setup) (fleet : Fleet Redemption) : Prop where
  sound : fleet.Sound redeemed fun call answer told _ => Redeems setup call answer told
  counted : CountedIn fleet.events fleet.state

theorem Accounted.take (accounted : Accounted setup fleet) (happening : Happening) :
    Accounted setup (fleet.take redeemed json setup happening) := by
  refine ⟨(Fleet.Sound.take (serve_redeems json setup) (fun _ _ _ _ _ ended _ => ended)
    accounted.sound happening).1, ?_⟩
  refine Fleet.kept_take ?_ (fun _ _ _ _ _ counted => counted) accounted.counted happening
  exact fun stmt _ realm counted => (tokenStep stmt realm).counted counted

theorem mem_redeemers {hash : String}
    (listed : thread ∈ redeemers setup hash fleet) : ∃ req drawn value,
      fleet.calls[thread]? = some (.enroll req drawn) ∧
        fleet.answer thread = some (.ok value) ∧ setup.digest req.secret = hash := by
  grind [redeemers]

theorem Accounted.recorded (accounted : Accounted setup fleet) {hash : String}
    (listed : thread ∈ redeemers setup hash fleet) :
    ∃ now, (thread, .read now) ∈ fleet.log ∧ (thread, .redeemed hash now) ∈ fleet.log := by
  obtain ⟨req, drawn, value, called, answered, rfl⟩ := mem_redeemers listed
  obtain ⟨now, read, redeemed⟩ :=
    (accounted.sound.answered called answered).enrolls req drawn value rfl rfl
  exact ⟨now, Docket.mem_eventsOf.mp read, Docket.mem_eventsOf.mp redeemed⟩

theorem Accounted.within (accounted : Accounted setup fleet) :
    ∀ row ∈ fleet.state.tables.tokens.rows,
      ((redeemers setup row.tokenHash fleet).length : Int) ≤ row.maxUses.uses := by
  intro row listed
  have each : redeemers setup row.tokenHash fleet ⊆
      (fleet.log.filter fun item => redeems row.tokenHash item.2).map Prod.fst := by
    intro thread present
    obtain ⟨now, _, noted⟩ := accounted.recorded present
    exact List.mem_map.mpr ⟨_, List.mem_filter.mpr ⟨noted, beq_self_eq_true _⟩, rfl⟩
  have distinct : (redeemers setup row.tokenHash fleet).Nodup := List.nodup_range.filter _
  have fewer := (List.subperm_of_subset distinct each).length_le
  have counts : ((fleet.log.filter fun item => redeems row.tokenHash item.2).map
      Prod.fst).length = fleet.events.countP (redeems row.tokenHash) := by
    rw [List.length_map, ← List.countP_eq_length_filter]
    change _ = (fleet.log.map Prod.snd).countP _
    rw [List.countP_map]
    rfl
  have uses := accounted.counted.uses row listed
  have within := accounted.counted.within row listed
  omega

theorem Accounted.inTime (accounted : Accounted setup fleet)
    (listed : row ∈ fleet.state.tables.tokens.rows) (dated : row.expiry ≠ zeroTime)
    (noted : (thread, .redeemed row.tokenHash now) ∈ fleet.log) : now < row.expiry := by
  have recorded : .redeemed row.tokenHash now ∈ fleet.events :=
    List.mem_map.mpr ⟨_, noted, rfl⟩
  obtain ⟨other, there, same, inTime⟩ := accounted.counted.vouched _ _ recorded
  rw [Table.eq_of_column hash_unique there listed same] at inTime
  exact inTime dated

def EvolvedFrom (tokens : TokenTable) (_ : List Redemption) (realm : Realm) : Prop :=
  tokens.Evolve realm.tables.tokens

structure Onward (setup : Setup) (middle fleet : Fleet Redemption) : Prop where
  accounted : Accounted setup fleet
  tokens : EvolvedFrom middle.state.tables.tokens fleet.events fleet.state
  nodes : middle.state.tables.nodes.Evolve fleet.state.tables.nodes
  void : ∀ row ∈ middle.state.tables.tokens.rows, row.Void middle.state.tables →
    ∀ thread now, (thread, .redeemed row.tokenHash now) ∈ fleet.log →
      (thread, .redeemed row.tokenHash now) ∈ middle.log
  revoked : ∀ row ∈ middle.state.tables.tokens.rows, ∀ thread (scope : Scope),
    scope.covers row = true → (thread, .revoked scope) ∈ fleet.log →
      (thread, .revoked scope) ∈ middle.log ∨
        ∃ next ∈ fleet.state.tables.tokens.rows, row.Precedes next ∧ next.revokedAt ≠ 0

theorem Onward.take (onward : Onward setup middle fleet) (happening : Happening) :
    Onward setup middle (fleet.take redeemed json setup happening) := by
  have same : EvolvedFrom fleet.state.tables.tokens fleet.events fleet.state :=
    Table.evolve_refl TokenRow.Precedes.refl
  have evolves : EvolvedFrom fleet.state.tables.tokens
      (fleet.take redeemed json setup happening).events
      (fleet.take redeemed json setup happening).state := by
    refine Fleet.kept_take ?_ (fun _ _ _ _ _ evolved => evolved) same happening
    exact fun stmt _ realm evolved => evolved.trans (tokenStep stmt realm).evolve
  refine ⟨onward.accounted.take happening, onward.tokens.trans evolves, onward.nodes.trans ?_,
    fun row listed void thread now noted => ?_, fun row listed thread scope covered noted => ?_⟩
  · exact (Fleet.Sound.take (serve_redeems json setup) (fun _ _ _ _ _ ended _ => ended)
      onward.accounted.sound happening).2
  -- A token stays void, and a void one is not redeemed.
  · refine onward.void row listed void thread now ((Docket.mem_log_take noted).resolve_right ?_)
    rintro ⟨Reply, stmt, wrote, _⟩
    obtain ⟨next, there, follows⟩ := onward.tokens row listed
    rw [← follows.hash] at wrote
    exact (tokenStep stmt fleet.state).refuses there (void.later follows onward.nodes) now wrote
  -- Whatever becomes of a row, it stays revoked.
  · obtain before | ⟨Reply, stmt, wrote, after⟩ := Docket.mem_log_take noted
    · refine (onward.revoked row listed thread scope covered before).imp_right ?_
      rintro ⟨next, there, follows, revoked⟩
      obtain ⟨last, present, precedes⟩ := evolves next there
      exact ⟨last, present, follows.trans precedes, precedes.revoked revoked⟩
    · obtain ⟨next, there, follows⟩ := onward.tokens row listed
      obtain ⟨revokedAt, dated, same⟩ := redeemed_revokes wrote
      obtain ⟨last, present, precedes, revoked⟩ :=
        revoke_revokes dated there ((follows.covers scope).trans covered)
      refine .inr ⟨last, ?_, follows.trans precedes, revoked⟩
      rw [show (fleet.take redeemed json setup happening).state = _ from after, same]
      exact present

theorem clock_kept (stmt : Stmt Reply) (realm : Realm) :
    (execute stmt realm).2.clock = realm.clock := by
  cases stmt with
  | tasks => rfl
  | control => exact write_part (·.clock) rfl
  | _ => exact tabular_part (·.clock) rfl fun _ => rfl

theorem read_clock {stmt : Stmt Reply}
    (noted : redeemed stmt realm = some (.read now)) : now = realm.clock.now := by
  cases stmt with
  | tasks stmt =>
    cases stmt with
    | clock =>
      cases noted
      rfl
    | _ => cases noted
  | enroll =>
    obtain ⟨_, _, same⟩ := Option.map_eq_some_iff.mp noted
    cases same
  | revokeToken | expireTokens | retire =>
    obtain ⟨_, same⟩ := Option.ite_none_right_eq_some.mp noted
    cases same
  | _ => cases noted

def Forward (limit : Int) : Happening → Prop
  | .clock reading => limit ≤ reading.now
  | _ => True

structure Past (limit : Int) (middle fleet : Fleet Redemption) : Prop where
  clock : limit ≤ fleet.state.clock.now
  read : ∀ thread now, now < limit → (thread, .read now) ∈ fleet.log →
    (thread, .read now) ∈ middle.log

theorem Past.take {limit : Int} (past : Past limit middle fleet) {happening : Happening}
    (forward : Forward limit happening) :
    Past limit middle (fleet.take redeemed json setup happening) := by
  refine ⟨?_, fun thread now early noted => past.read thread now early ?_⟩
  · cases happening with
    | clock => exact forward
    | call | actions | link => exact past.clock
    | advance thread =>
      obtain same | ⟨Reply, stmt, rest, _, after⟩ :=
        Docket.advance_cases fleet redeemed (Call.serve json setup) thread
      · rw [show fleet.take redeemed json setup (.advance thread) = fleet from same]
        exact past.clock
      rw [show fleet.take redeemed json setup (.advance thread) = _ from after]
      change limit ≤ (execute stmt fleet.state).2.clock.now
      rw [clock_kept]
      exact past.clock
  · refine (Docket.mem_log_take noted).resolve_right ?_
    rintro ⟨Reply, stmt, wrote, _⟩
    have same := read_clock wrote
    have late := past.clock
    omega

/-- In every run, tokens are redeemed within their budget and by a clock within their time, and not
any more when they are void or a call has put them out of use. -/
theorem tokens_honoured (json : Nodes.Json) (setup : Setup) (clock : Clock)
    (early between late : List Happening) :
    let first := lastState (Fleet.take redeemed json setup) (Fleet.opened clock) early
    let middle := lastState (Fleet.take redeemed json setup) first between
    Honoured setup first middle late (lastState (Fleet.take redeemed json setup) middle late) := by
  intro first middle
  have accounted : Accounted setup first := by
    refine lastState_of_kept (Accounted setup) ⟨Fleet.sound_opened clock, ?_⟩
      fun happening fleet accounted => accounted.take happening
    exact ⟨fun _ listed => (nomatch listed), fun _ listed => (nomatch listed),
      fun _ _ listed => (nomatch listed)⟩
  have follows : ∀ (start : Fleet Redemption) happenings, Accounted setup start →
      Onward setup start (lastState (Fleet.take redeemed json setup) start happenings) := by
    intro start happenings accounted
    refine lastState_of_kept (Onward setup start) ?_ fun happening fleet onward =>
      onward.take happening
    exact ⟨accounted, Table.evolve_refl TokenRow.Precedes.refl, .refl _,
      fun _ _ _ _ _ noted => noted, fun _ _ _ _ _ noted => .inl noted⟩
  have reached := follows first between accounted
  have onward := follows middle late reached.accounted
  have void : ∀ row ∈ middle.state.tables.tokens.rows, row.Void middle.state.tables →
      ∀ thread ∈ redeemers setup row.tokenHash
          (lastState (Fleet.take redeemed json setup) middle late),
        ∃ now, (thread, .redeemed row.tokenHash now) ∈ middle.log := by
    intro row listed void thread redeems
    obtain ⟨now, _, noted⟩ := onward.accounted.recorded redeems
    exact ⟨now, onward.void row listed void thread now noted⟩
  refine ⟨onward.accounted.within, void, ?_, ?_, ?_⟩
  · intro row listed caller call answer later called answered covers thread redeems
    obtain ⟨scope, covered, noted⟩ :=
      (reached.accounted.sound.answered called answered).revokes answer row rfl covers
    obtain before | ⟨next, there, precedes, revoked⟩ :=
      reached.revoked row listed caller scope covered (Docket.mem_eventsOf.mp noted)
    · -- The caller had not called yet.
      have inside := accounted.sound.chronicle.listed _ before
      rw [← accounted.sound.served] at inside
      exact absurd inside (Nat.not_lt.mpr later)
    rw [← precedes.hash] at redeems ⊢
    exact void next there (.inl revoked) thread redeems
  · exact fun row listed dated thread now noted => onward.accounted.inTime listed dated noted
  intro row listed dated expired forward thread redeems
  -- From the middle on every reading of the clock is too late.
  have past : Past row.expiry middle
      (lastState (Fleet.take redeemed json setup) middle late) := by
    refine lastState_of_invariant (Past row.expiry middle) ⟨expired, fun _ _ _ noted => noted⟩
      (every_of_forall fun happening there => ?_) fun happening fleet past forward =>
        past.take forward
    cases happening with
    | clock reading => exact forward reading there
    | _ => trivial
  obtain ⟨now, read, noted⟩ := onward.accounted.recorded redeems
  obtain ⟨next, there, follows⟩ := onward.tokens row listed
  have expiry : next.expiry = row.expiry := congrArg Nodes.unixOrZero follows.expiresAt
  rw [← follows.hash] at noted
  have inTime := onward.accounted.inTime there (expiry ▸ dated) noted
  rw [expiry] at inTime
  exact ⟨now, inTime, past.read thread now inTime read⟩

def tardy : List Happening := Sample.joining .managed |>.dropLast

/-- The clock passes the expiry between the reading and the transaction. -/
theorem expired_token_redeemed :
    let middle := lastState (Fleet.take redeemed Sample.json Sample.setup)
      (Fleet.opened Sample.clock) (tardy ++ [.clock ⟨1000000 * second, by decide⟩])
    let fleet := lastState (Fleet.take redeemed Sample.json Sample.setup) middle [.advance 1]
    (middle.state.tables.tokens.rows.map fun row =>
        (decide (row.expiry ≤ middle.state.clock.now),
          redeemers Sample.setup row.tokenHash middle,
          redeemers Sample.setup row.tokenHash fleet)) = [(true, [], [1])] := by
  decide +kernel

end Cashp.Registry
