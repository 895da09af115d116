import Cashp.Kit.Hindsight
import Cashp.Registry.Rows

/-!
An enrollment revokes what the node had and issues a credential in the same transaction, so whatever
is not revoked was issued last.
-/

namespace Cashp.Registry

open Kit Kit.Program
open Nodes (State unixOf)

/-- A credential that is issued, with its digest and the clock of the call, the credentials of a
node that are revoked, a node that is removed, and what the lookups have found. -/
inductive Trace
  | issued (nodeID secret hash : String) (now : Int)
  | revoked (nodeID : String)
  | removed (nodeID : String)
  | looked (row : CredentialRow)
  | saw (row : NodeRow)

def Realm.revokes (realm : Realm) (revokedAt : Int) (nodeID : String) : Option Trace :=
  if realm.commits ∧ revokedAt ≠ 0 then some (.revoked nodeID) else none

def traced {Reply : Type} : Stmt Reply → Realm → Option Trace
  | .enroll job, realm =>
    (realm.redeems job).map fun result =>
      .issued result.1.id result.2 (job.setup.digest result.2) job.now
  | .revokeCredentials revokedAt nodeID, realm => realm.revokes revokedAt nodeID
  | .retire revokedAt nodeID, realm => realm.revokes revokedAt nodeID
  | .updateNode (.state .removed _ _) id version, realm =>
    if realm.commits then
      (realm.tables.nodes.find (selectsNode id version)).map fun row => .removed row.id
    else none
  | .credential hash, realm =>
    if realm.link = .up then
      (realm.tables.credentials.find fun row => row.tokenHash == hash).map .looked
    else none
  | .node id, realm =>
    if realm.link = .up then (realm.tables.nodes.find fun row => row.id == id).map .saw else none
  | _, _ => none

def handles (nodeID : String) : Trace → Bool
  | .issued other _ _ _ => other == nodeID
  | .revoked other => other == nodeID
  | _ => false

def Call.leaves (setup : Setup) (told : List Trace) : Call → Answer → Prop
  | .enroll _ _, .enrolled enrollment =>
    ∃ now, .issued enrollment.node.id enrollment.credential
      (setup.digest enrollment.credential) now ∈ told
  | .revokeCredentials nodeID, _ => .revoked nodeID ∈ told
  | .remove req, _ => .revoked req.nodeID ∈ told ∧ .removed req.nodeID ∈ told
  | _, _ => True

/-- No other secret that is issued has the digest of this one. -/
def Distinguished (setup : Setup) (log : List (Nat × Trace)) (secret : String) : Prop :=
  ∀ thread nodeID other hash now, (thread, .issued nodeID other hash now) ∈ log →
    setup.digest other = setup.digest secret → other = secret

/-- When the credential was looked up, the secret, by its digest, was the last one issued to the
node and not revoked since, and when the node was looked up, it was not removed. -/
structure Authentic (setup : Setup) (log : List (Nat × Trace)) (thread : Nat) (secret : String)
    (node : Node) : Prop where
  current : ∃ front row back issued now, log = front ++ (thread, .looked row) :: back ∧
    latest (handles node.id) (front.map Prod.snd) =
      some (.issued node.id issued (setup.digest secret) now) ∧
    setup.digest issued = setup.digest secret ∧
    (Distinguished setup log secret → issued = secret)
  present : ∃ front row back, log = front ++ (thread, .saw row) :: back ∧
    .removed node.id ∉ front.map Prod.snd
  role : ∃ body, parseToken secret = some (tokenPrefixFor node.role, body)

structure Credentialed (setup : Setup) (middle fleet : Fleet Trace) : Prop where
  single : ∀ first ∈ fleet.state.tables.credentials.rows,
    ∀ second ∈ fleet.state.tables.credentials.rows, first.nodeID = second.nodeID →
      first.revokedAt = 0 → second.revokedAt = 0 → first = second
  role : ∀ row ∈ middle.state.tables.nodes.rows, ∃ next ∈ fleet.state.tables.nodes.rows,
    next.id = row.id ∧ next.role = row.role
  leaves : ∀ thread call answer, fleet.calls[thread]? = some call →
    fleet.answer thread = some (.ok answer) → call.leaves setup (fleet.eventsOf thread) answer
  authentic : ∀ thread secret id, fleet.calls[thread]? = some (.authenticate secret) →
    fleet.answer thread = some (.ok (.authenticated id)) →
      Authentic setup fleet.log thread secret id.node

variable {realm : Realm} {Reply : Type} {setup : Setup}
variable {before : CredentialTable} {nodeID : String} {revokedAt : Int} {stmt : Stmt Reply}
variable {row : CredentialRow}

def Stems (before : CredentialTable) (row : CredentialRow) : Prop :=
  ∃ old ∈ before.rows, old.revokedAt = 0 ∧ old.nodeID = row.nodeID ∧ old.tokenHash = row.tokenHash

theorem stems_of_mem (listed : row ∈ before.rows)
    (unrevoked : row.revokedAt = 0) : Stems before row :=
  ⟨row, listed, unrevoked, rfl, rfl⟩

inductive CredentialStep (before after : CredentialTable) (noted : Option Trace) : Prop
  | kept (quiet : ∀ nodeID, noted.filter (handles nodeID) = none)
      (stems : ∀ row ∈ after.rows, row.revokedAt = 0 → Stems before row)
  | revoked (nodeID : String) (wrote : noted = some (.revoked nodeID))
      (stems : ∀ row ∈ after.rows, row.revokedAt = 0 → row.nodeID ≠ nodeID ∧ Stems before row)
  | issued (secret : String) (now : Int) (credential : CredentialRow)
      (wrote : noted = some (.issued credential.nodeID secret credential.tokenHash now))
      (stems : ∀ row ∈ after.rows, row.revokedAt = 0 → row = credential ∨
        (unixOf now ≠ 0 → row.nodeID ≠ credential.nodeID) ∧ Stems before row)

theorem stems_of_revoke (listed : row ∈ (before.revoke nodeID revokedAt).rows)
    (unrevoked : row.revokedAt = 0) : (revokedAt ≠ 0 → row.nodeID ≠ nodeID) ∧ Stems before row := by
  obtain ⟨old, stored, rfl⟩ := Table.mem_update.mp listed
  grind [Table.assignWhere, Stems]

theorem revoke_step {Value : Type} {reply : Value} {later : Realm}
    (same : later.tables.credentials = realm.tables.credentials.revoke nodeID revokedAt) :
    CredentialStep realm.tables.credentials (realm.write reply later).2.tables.credentials
      (realm.revokes revokedAt nodeID) := by
  rw [write_realm, Realm.revokes]
  cases carried : realm.commits with
  | false =>
    rw [if_neg (by simp), if_neg (by simp)]
    exact .kept (fun _ => rfl) fun row listed unrevoked => stems_of_mem listed unrevoked
  | true =>
    rw [if_pos rfl, same]
    by_cases dated : revokedAt = 0
    · rw [if_neg fun both => both.2 dated]
      exact .kept (fun _ => rfl) fun row listed unrevoked =>
        (stems_of_revoke listed unrevoked).2
    rw [if_pos ⟨rfl, dated⟩]
    refine .revoked nodeID rfl fun row listed unrevoked => ?_
    obtain ⟨other, stems⟩ := stems_of_revoke listed unrevoked
    exact ⟨other dated, stems⟩

theorem handles_found {Row : Type} {answers : Prop} [Decidable answers] {found : Option Row}
    {note : Row → Trace} (aside : ∀ row, handles nodeID (note row) = false) :
    Option.filter (handles nodeID) (if answers then found.map note else none) = none := by
  split
  · cases found <;> simp [aside]
  · rfl

theorem credentialStep (stmt : Stmt Reply) (realm : Realm) :
    CredentialStep realm.tables.credentials (execute stmt realm).2.tables.credentials
      (traced stmt realm) := by
  have still : ∀ {after : CredentialTable} {noted : Option Trace},
      after = realm.tables.credentials → (∀ nodeID, noted.filter (handles nodeID) = none) →
        CredentialStep realm.tables.credentials after noted := by
    intro after noted same quiet
    subst same
    exact .kept quiet fun row listed unrevoked => stems_of_mem listed unrevoked
  cases stmt with
  | tasks => exact still rfl fun _ => rfl
  | control => exact still (write_part (·.tables.credentials) rfl) fun _ => rfl
  | node id =>
    refine still (ask_part (·.tables.credentials) _) fun nodeID => ?_
    exact handles_found fun _ => rfl
  | credential hash =>
    refine still (ask_part (·.tables.credentials) _) fun nodeID => ?_
    exact handles_found fun _ => rfl
  | list => exact still (ask_part (·.tables.credentials) _) fun _ => rfl
  | updateNode change id version =>
    refine still (write_part (·.tables.credentials) rfl) fun nodeID => ?_
    cases change with
    | state target =>
      cases target with
      | removed => exact handles_found fun _ => rfl
      | _ => rfl
    | _ => rfl
  | issueToken id hash role nodeID maxUses expiresAt =>
    obtain same | ⟨tokens, _, _, after⟩ := issueToken_cases id hash role nodeID maxUses expiresAt
      realm
    · exact still (by rw [same]) fun _ => rfl
    · exact still (by rw [after]; rfl) fun _ => rfl
  | revokeToken | expireTokens => exact still (write_part (·.tables.credentials) rfl) fun _ => rfl
  | useCredential usedAt id =>
    refine .kept (fun _ => rfl) fun row listed unrevoked => ?_
    rw [show (execute (Stmt.useCredential usedAt id) realm).2 = _ from write_realm _ _] at listed
    split at listed
    · rcases Table.mem_of_assigned listed with before | ⟨old, stored, _, rfl⟩
      · exact stems_of_mem before unrevoked
      · exact ⟨old, stored, unrevoked, rfl, rfl⟩
    · exact stems_of_mem listed unrevoked
  | revokeCredentials | retire => exact revoke_step rfl
  | enroll job =>
    change CredentialStep _ _ ((realm.redeems job).map _)
    obtain ⟨fails, same⟩ | ⟨node, secret, tables, token, credential, redeems, after, facts⟩ :=
      enroll_cases job realm
    · rw [fails, same]
      exact still rfl fun _ => rfl
    rw [redeems, after]
    refine .issued secret job.now credential ?_ fun row listed unrevoked => ?_
    · rw [facts.owner, facts.digest]
      rfl
    rw [Table.insert_rows facts.inserted] at listed
    rcases List.mem_append.mp listed with before | new
    · obtain ⟨other, stems⟩ := stems_of_revoke before unrevoked
      exact .inr ⟨facts.owner ▸ other, stems⟩
    · exact .inl (List.mem_singleton.mp new)

variable {events : List Trace} {told : List Trace}

def Issued (events : List Trace) (credentials : CredentialTable) : Prop :=
  ∀ row ∈ credentials.rows, row.revokedAt = 0 → ∃ secret now,
    latest (handles row.nodeID) events = some (.issued row.nodeID secret row.tokenHash now)

theorem Issued.of_stems (issued : Issued events before) (stems : Stems before row) : ∃ secret now,
    latest (handles row.nodeID) events = some (.issued row.nodeID secret row.tokenHash now) := by
  obtain ⟨old, listed, unrevoked, owner, hash⟩ := stems
  rw [← owner, ← hash]
  exact issued old listed unrevoked

theorem Issued.step {after : CredentialTable} {noted : Option Trace} (issued : Issued events before)
    (step : CredentialStep before after noted)
    (dated : ∀ nodeID secret hash now, noted = some (.issued nodeID secret hash now) →
      unixOf now ≠ 0) : Issued (events ++ noted.toList) after := by
  intro row listed unrevoked
  rw [latest_append]
  cases step with
  | kept quiet stems =>
    rw [quiet]
    exact issued.of_stems (stems row listed unrevoked)
  | revoked nodeID wrote stems =>
    obtain ⟨other, stems⟩ := stems row listed unrevoked
    rw [wrote, Option.filter_some,
      if_neg (show ¬ handles row.nodeID (.revoked nodeID) = true by
        simpa [handles] using Ne.symm other)]
    exact issued.of_stems stems
  | issued secret now credential wrote stems =>
    rcases stems row listed unrevoked with rfl | ⟨other, stems⟩
    · refine ⟨secret, now, ?_⟩
      rw [wrote, Option.filter_some, if_pos (show handles row.nodeID
        (.issued row.nodeID secret row.tokenHash now) = true from beq_self_eq_true row.nodeID)]
      rfl
    · have apart := other (dated _ _ _ _ wrote)
      rw [wrote, Option.filter_some, if_neg (show ¬ handles row.nodeID
        (.issued credential.nodeID secret credential.tokenHash now) = true by
          simpa [handles] using Ne.symm apart)]
      exact issued.of_stems stems

theorem Issued.single {credentials : CredentialTable} (issued : Issued events credentials)
    {first second : CredentialRow} (here : first ∈ credentials.rows)
    (there : second ∈ credentials.rows) (owner : first.nodeID = second.nodeID)
    (good : first.revokedAt = 0) (fine : second.revokedAt = 0) : first = second := by
  obtain ⟨secret, now, last⟩ := issued first here good
  obtain ⟨other, then_, same⟩ := issued second there fine
  rw [owner, same, Option.some.injEq, Trace.issued.injEq] at last
  have column : CredentialRow.tokenHash ∈ [CredentialRow.id, CredentialRow.tokenHash] :=
    List.mem_cons_of_mem _ List.mem_cons_self
  exact Table.eq_of_column column here there last.2.2.1.symm

def Truthful {Reply : Type} (stmt : Stmt Reply) (realm : Realm) : Trace → Prop
  | .looked row => row ∈ realm.tables.credentials.rows
  | .saw row => row ∈ realm.tables.nodes.rows
  | .removed nodeID => ∃ row ∈ (execute stmt realm).2.tables.nodes.rows,
      row.id = nodeID ∧ row.state = .removed
  | .issued .. => ¬ Unenrolling stmt
  | .revoked _ => True

theorem traced_truthful {trace : Trace} (noted : traced stmt realm = some trace) :
    Truthful stmt realm trace := by
  cases stmt with
  | credential | node =>
    obtain ⟨_, found⟩ := Option.ite_none_right_eq_some.mp noted
    obtain ⟨row, stored, rfl⟩ := Option.map_eq_some_iff.mp found
    exact (Table.find_mem stored).1
  | updateNode change id version =>
    cases change with
    | state target reason changedAt =>
      cases target with
      | removed =>
        obtain ⟨carried, found⟩ := Option.ite_none_right_eq_some.mp noted
        obtain ⟨row, stored, rfl⟩ := Option.map_eq_some_iff.mp found
        obtain ⟨listed, hit⟩ := Table.find_mem stored
        refine ⟨(NodeUpdate.state .removed reason changedAt).apply row, ?_, rfl, rfl⟩
        rw [updateNode_nodes, if_pos carried]
        exact Table.mem_update.mpr ⟨row, listed, Table.assignWhere_of hit⟩
      | _ => cases noted
    | _ => cases noted
  | enroll =>
    obtain ⟨result, _, rfl⟩ := Option.map_eq_some_iff.mp noted
    exact id
  | revokeCredentials | retire =>
    obtain ⟨_, same⟩ := Option.ite_none_right_eq_some.mp noted
    cases same
    trivial
  | _ => cases noted

def Proper (setup : Setup) (told : List Trace) : Prop :=
  ∀ nodeID secret hash now, .issued nodeID secret hash now ∈ told →
    hash = setup.digest secret ∧ unixOf now ≠ 0

def Finds (setup : Setup) (secret : String) (node : Node) (told : List Trace) : Prop :=
  ∃ row found, .looked row ∈ told ∧ .saw found ∈ told ∧ row.tokenHash = setup.digest secret ∧
    row.revokedAt = 0 ∧ row.nodeID = found.id ∧ node = scanNodeRow found ∧
    found.state ≠ .removed ∧ ∃ body, parseToken secret = some (tokenPrefixFor node.role, body)

structure Ends (setup : Setup) (call : Call) (answer : Except RegistryError Answer)
    (told : List Trace) : Prop where
  proper : Proper setup told
  leaves : ∀ value, answer = .ok value → call.leaves setup told value
  finds : ∀ secret id, call = .authenticate secret → answer = .ok (.authenticated id) →
    Finds setup secret id.node told

theorem proper_of_unenrolling (other : Unenrolling stmt) (proper : Proper setup told) :
    Proper setup (told ++ (traced stmt realm).toList) := by
  intro nodeID secret hash now listed
  rcases List.mem_append.mp listed with before | new
  · exact proper nodeID secret hash now before
  · exact absurd other (traced_truthful (Option.mem_toList.mp new))

theorem serve_proper (json : Nodes.Json) {call : Call}
    (other : ∀ req drawn, call ≠ .enroll req drawn) :
    (call.serve json setup).Tells traced registry.rely (fun _ told _ => Proper setup told) []
      realm := by
  refine tells_of_uses ((unenrolling_composes.serve json setup other).mono
    fun stmt aside told later proper => proper_of_unenrolling aside proper) ?_
  intro _ _ _ _ listed
  cases listed

theorem enroll_ends (req : EnrollRequest) (drawn : Drawn) (proper : Proper setup told) :
    (enroll setup req drawn).Tells traced registry.rely
      (fun answer told _ => Proper setup told ∧ ∀ enrollment, answer = .ok enrollment →
        ∃ now, .issued enrollment.node.id enrollment.credential
          (setup.digest enrollment.credential) now ∈ told) told realm := by
  refine under_refuse (fun _ => ⟨proper, fun _ same => nomatch same⟩) fun _ => ?_
  cases validateFacts req.facts with
  | error => exact ⟨proper, fun _ same => nomatch same⟩
  | ok =>
    intro ticked _ last _
    have clocked : Proper setup (told ++ (traced (.tasks .clock) ticked).toList) :=
      proper_of_unenrolling trivial proper
    have issues : Proper setup (told ++ (traced (.tasks .clock) ticked).toList ++
        (traced (.enroll ⟨setup, req, ticked.clock.now, drawn⟩) last).toList) := by
      intro nodeID secret hash now listed
      rcases List.mem_append.mp listed with before | new
      · exact clocked nodeID secret hash now before
      obtain ⟨result, _, same⟩ := Option.map_eq_some_iff.mp (Option.mem_toList.mp new)
      cases same
      exact ⟨rfl, unixOf_dated ticked.clock⟩
    cases answer : (execute (Stmt.enroll ⟨setup, req, _, drawn⟩) last).1 with
    | error => exact ⟨issues, fun _ same => nomatch same⟩
    | ok ended =>
      cases ended with
      | error => exact ⟨issues, fun _ same => nomatch same⟩
      | ok result =>
        refine ⟨issues, fun enrollment same => ?_⟩
        cases same
        refine ⟨ticked.clock.now, List.mem_append_right _ (Option.mem_toList.mpr ?_)⟩
        exact Option.map_eq_some_iff.mpr ⟨result, enroll_answer answer, rfl⟩

theorem revokes_listed (carried : realm.commits = true) (dated : revokedAt ≠ 0) :
    .revoked nodeID ∈ told ++ (realm.revokes revokedAt nodeID).toList := by
  rw [Realm.revokes, if_pos ⟨carried, dated⟩]
  exact List.mem_append_right _ List.mem_cons_self

theorem revokeCredentials_leaves (nodeID : String) :
    (revokeCredentials nodeID).Tells traced registry.rely
      (fun answer told _ => ∀ value, answer = .ok value → .revoked nodeID ∈ told) told realm := by
  refine tells_after unanswered fun _ told later => ?_
  intro ticked _ last _
  cases answer : (execute (Stmt.revokeCredentials _ nodeID) last).1 with
  | error => exact fun _ same => nomatch same
  | ok => exact fun _ _ => revokes_listed (write_ok answer).1 (unixOf_dated ticked.clock)

theorem transition_removes (nodeID reason : String) :
    (transition nodeID .removed reason).Tells traced registry.rely
      (fun answer told _ => ∀ value, answer = .ok value → .removed nodeID ∈ told) told realm := by
  refine transition_tells unanswered ?_
  intro node told last clean changedAt version row id found carried _ _
  refine List.mem_append_right _ (Option.mem_toList.mpr ?_)
  change (if last.commits then _ else none) = _
  rw [if_pos carried, found, Option.map_some, id]

theorem remove_leaves (req : RemoveRequest) :
    (remove req).Tells traced registry.rely (fun answer told _ => ∀ value, answer = .ok value →
      .revoked req.nodeID ∈ told ∧ .removed req.nodeID ∈ told) told realm := by
  refine tells_after unanswered fun _ told later => ?_
  refine get_tells unanswered fun node told later same => ?_
  refine tells_after unanswered fun _ told later => ?_
  have rest : ∀ (told : List Trace) (later : Realm), .revoked req.nodeID ∈ told → (do
      let _ ← dispatching (Nodes.cancelQueued node.id "node removed")
      dropMember node
      transition node.id .removed req.reason : Service Node).Tells traced registry.rely
        (fun answer told _ => ∀ value, answer = .ok value →
          .revoked req.nodeID ∈ told ∧ .removed req.nodeID ∈ told) told later := by
    intro told later listed
    refine tells_after_kept unanswered listed fun _ told later listed => ?_
    refine tells_after_kept unanswered listed fun _ told later listed => ?_
    rw [← same] at listed ⊢
    refine ((tells_kept listed).and (transition_removes node.id req.reason)).imp ?_
    exact fun answer told later both value ok => ⟨both.1, both.2 value ok⟩
  intro ticked _ last _
  cases answer : (execute (Stmt.retire _ node.id) last).1 with
  | error => exact fun _ same => nomatch same
  | ok =>
    refine rest _ _ ?_
    rw [← same]
    exact revokes_listed (write_ok answer).1 (unixOf_dated ticked.clock)

theorem credentialNode_tells {Result : Type} {next : Node → Service Result}
    {post : Except RegistryError Result → List Trace → Realm → Prop}
    (failed : ∀ failure told realm, post (.error failure) told realm)
    (rest : ∀ row later, row.id = nodeID →
      (next (scanNodeRow row)).Tells traced registry.rely post (told ++ [.saw row]) later) :
    (credentialNode nodeID >>= next).Tells traced registry.rely post told realm := by
  rw [credentialNode, get]
  cases Nodes.validateNodeID nodeID with
  | error => exact failed _ _ _
  | ok =>
    intro later _
    cases answer : (execute (Stmt.node nodeID) later).1 with
    | error => exact failed _ _ _
    | ok found =>
      cases found with
      | none => exact failed _ _ _
      | some row =>
        obtain ⟨up, asked⟩ := ask_ok answer
        have noted : traced (.node nodeID) later = some (.saw row) := by
          change (if later.link = .up then _ else none) = _
          rw [if_pos up, ← asked]
          rfl
        have goes := rest row (execute (Stmt.node nodeID) later).2
          (node_found answer row rfl).2
        rw [show [Trace.saw row] = (traced (.node nodeID) later).toList by rw [noted]; rfl]
          at goes
        exact goes

theorem authenticate_finds (secret : String) :
    (authenticate setup secret).Tells traced registry.rely
      (fun answer told _ => ∀ id, answer = .ok id → Finds setup secret id.node told) told
      realm := by
  rw [authenticate]
  split
  · exact unanswered _ _ realm
  rename_i lead body parsed
  refine tells_after unanswered fun _ told later => ?_
  refine tells_after unanswered fun now told later => ?_
  intro found _
  cases answer : (execute (Stmt.credential (setup.digest secret)) found).1 with
  | error => exact unanswered _ _ found
  | ok answered =>
    cases answered with
    | none => exact unanswered _ _ found
    | some row =>
      obtain ⟨up, asked⟩ := ask_ok answer
      have hash : row.tokenHash = setup.digest secret :=
        beq_iff_eq.mp (Table.find_mem asked.symm).2
      refine under_refuse (fun _ _ same => by cases same) fun _ => ?_
      refine under_refuse (fun _ _ same => by cases same) fun unrevoked => ?_
      refine under_refuse (fun _ _ same => by cases same) fun _ => ?_
      refine credentialNode_tells unanswered fun node later owner => ?_
      refine under_refuse (fun _ _ same => by cases same) fun present => ?_
      refine under_refuse (fun _ _ same => by cases same) fun matching => ?_
      intro last _
      cases (execute (Stmt.useCredential (unixOf now) row.id) last).1 with
      | error => exact unanswered _ _ last
      | ok =>
        intro id same
        cases same
        have looked : traced (.credential (setup.digest secret)) found =
            some (.looked row) := by
          change (if found.link = .up then _ else none) = _
          rw [if_pos up, ← asked]
          rfl
        refine ⟨row, node, ?_, ?_, hash, not_not.mp unrevoked, owner.symm, rfl, present,
          body, ?_⟩
        · simp_all
        · exact List.mem_append_left _ (List.mem_append_right _ List.mem_cons_self)
        · rw [parsed, not_not.mp matching]

theorem ends_of {json : Nodes.Json} {call : Call} (other : ∀ req drawn, call ≠ .enroll req drawn)
    (ended : (call.serve json setup).Tells traced registry.rely (fun answer told _ =>
      ∀ value, answer = .ok value → call.leaves setup told value ∧
        ∀ secret id, call = .authenticate secret → value = .authenticated id →
          Finds setup secret id.node told) [] realm) :
    (call.serve json setup).Tells traced registry.rely
      (fun answer told _ => Ends setup call answer told) [] realm :=
  ((serve_proper json other).and ended).imp fun _ _ _ both =>
    ⟨both.1, fun value same => (both.2 value same).1,
      fun secret id own same => (both.2 _ same).2 secret id own rfl⟩

theorem serve_ends (json : Nodes.Json) (setup : Setup) (call : Call) (realm : Realm) :
    (call.serve json setup).Tells traced registry.rely
      (fun answer told _ => Ends setup call answer told) [] realm := by
  cases call with
  | enroll req drawn =>
    have nothing : Proper setup [] := fun _ _ _ _ listed => nomatch listed
    refine under_bind ((enroll_ends req drawn nothing).imp fun answer told later ended => ?_)
    cases answer with
    | ok enrollment =>
      refine ⟨ended.1, fun value same => ?_, fun _ _ same => nomatch same⟩
      cases same
      exact ended.2 enrollment rfl
    | error =>
      exact ⟨ended.1, fun _ same => (nomatch same), fun _ _ same => (nomatch same)⟩
  | authenticate secret =>
    refine ends_of (fun _ _ same => nomatch same) ?_
    refine (answering_tells (authenticate_finds secret)).imp
      fun answer told _ finds value ok => ?_
    grind [Call.leaves]
  | revokeCredentials nodeID =>
    refine ends_of (fun _ _ same => nomatch same) ?_
    refine (answering_tells (revokeCredentials_leaves nodeID)).imp
      fun answer told _ leaves value ok => ?_
    obtain ⟨_, _, listed⟩ := leaves value ok
    exact ⟨listed, fun _ _ same => nomatch same⟩
  | remove req =>
    refine ends_of (fun _ _ same => nomatch same) ?_
    refine (answering_tells (remove_leaves req)).imp fun answer told _ leaves value ok => ?_
    obtain ⟨_, _, listed⟩ := leaves value ok
    exact ⟨listed, fun _ _ same => nomatch same⟩
  | _ =>
    refine ends_of (fun _ _ same => nomatch same) ((tells_true _ _ _).imp ?_)
    exact fun _ _ _ _ _ _ => ⟨trivial, fun _ _ same => nomatch same⟩

variable {json : Nodes.Json} {fleet middle : Fleet Trace}

def Warranted (front : List Trace) : Trace → Prop
  | .looked row => row.revokedAt = 0 → ∃ secret now,
      latest (handles row.nodeID) front = some (.issued row.nodeID secret row.tokenHash now)
  | .saw row => row.state ≠ .removed → .removed row.id ∉ front
  | _ => True

structure Trusted (setup : Setup) (fleet : Fleet Trace) : Prop where
  sound : fleet.Sound traced fun call answer told _ => Ends setup call answer told
  issued : Issued fleet.events fleet.state.tables.credentials
  gone : ∀ nodeID, .removed nodeID ∈ fleet.events →
    ∃ row ∈ fleet.state.tables.nodes.rows, row.id = nodeID ∧ row.state = .removed
  warranted : Heralded Warranted fleet.events

theorem proper_events (sound : fleet.Sound traced fun call answer told _ =>
    Ends setup call answer told) : Proper setup fleet.events := by
  intro nodeID secret hash now listed
  obtain ⟨⟨thread, event⟩, noted, rfl⟩ := List.mem_map.mp listed
  have inside : thread < fleet.calls.length := by
    rw [sound.served]
    exact sound.chronicle.listed _ noted
  have proper : Proper setup (fleet.eventsOf thread) :=
    sound.so_far (fun _ _ _ _ ended => ended.proper)
      (fun _ told more proper _ _ _ _ there => proper _ _ _ _ (List.mem_append_left _ there))
      (List.getElem?_eq_getElem inside)
  exact proper nodeID secret hash now (Docket.mem_eventsOf.mpr noted)

theorem Trusted.take (trusted : Trusted setup fleet) (happening : Happening) :
    Trusted setup (fleet.take traced json setup happening) := by
  obtain ⟨sound, evolve⟩ := Fleet.Sound.take (serve_ends json setup)
    (fun _ _ _ _ _ ended _ => ended) trusted.sound happening
  have proper := proper_events sound
  obtain ⟨events, tables⟩ | ⟨Reply, stmt, events, state⟩ :=
    Fleet.take_cases traced json setup happening fleet
  · refine ⟨sound, ?_, ?_, ?_⟩
    · rw [events, tables]
      exact trusted.issued
    · rw [events, tables]
      exact trusted.gone
    · rw [events]
      exact trusted.warranted
  · rw [events] at proper
    refine ⟨sound, ?_, ?_, ?_⟩
    · rw [events, state]
      refine trusted.issued.step (credentialStep stmt fleet.state) fun _ _ _ _ noted => ?_
      exact (proper _ _ _ _ (List.mem_append_right _ (Option.mem_toList.mpr noted))).2
    · intro nodeID listed
      rw [events] at listed
      rcases List.mem_append.mp listed with before | new
      · obtain ⟨row, there, same, removed⟩ := trusted.gone nodeID before
        obtain ⟨next, present, follows⟩ := evolve row there
        exact ⟨next, present, follows.id.trans same, follows.removed removed⟩
      · rw [state]
        exact traced_truthful (Option.mem_toList.mp new)
    · rw [events]
      refine trusted.warranted.append fun event noted => ?_
      have truthful := traced_truthful noted
      cases event with
      | looked row => exact trusted.issued row truthful
      | saw row =>
        intro present removed
        obtain ⟨other, there, same, gone⟩ := trusted.gone row.id removed
        rw [Table.eq_of_column List.mem_cons_self there truthful same] at gone
        exact present gone
      | _ => trivial

theorem Trusted.heralds (trusted : Trusted setup fleet) {thread : Nat} {event : Trace}
    (noted : event ∈ fleet.eventsOf thread) : ∃ front back,
      fleet.log = front ++ (thread, event) :: back ∧ Warranted (front.map Prod.snd) event := by
  obtain ⟨front, back, log⟩ := List.append_of_mem (Docket.mem_eventsOf.mp noted)
  refine ⟨front, back, log, trusted.warranted _ _ (back.map Prod.snd) ?_⟩
  change fleet.log.map Prod.snd = _
  rw [log, List.map_append, List.map_cons]

theorem Trusted.authentic (trusted : Trusted setup fleet)
    {thread : Nat} {secret : String} {id : Identity}
    (called : fleet.calls[thread]? = some (.authenticate secret))
    (answered : fleet.answer thread = some (.ok (.authenticated id))) :
    Authentic setup fleet.log thread secret id.node := by
  obtain ⟨row, found, looked, saw, hash, unrevoked, owner, same, present, role⟩ :=
    (trusted.sound.answered called answered).finds secret id rfl rfl
  have named : row.nodeID = id.node.id := by
    rw [owner, same]
    rfl
  refine ⟨?_, ?_, role⟩
  · obtain ⟨front, back, log, heralded⟩ := trusted.heralds looked
    obtain ⟨issued, now, last⟩ := heralded unrevoked
    obtain ⟨⟨issuer, _⟩, there, rfl⟩ := List.mem_map.mp (latest_mem last).1
    have noted : (issuer, .issued row.nodeID issued row.tokenHash now) ∈ fleet.log := by
      rw [log]
      exact List.mem_append_left _ there
    have listed : .issued row.nodeID issued row.tokenHash now ∈ fleet.events :=
      List.mem_map_of_mem noted
    have digest := (proper_events trusted.sound _ _ _ _ listed).1.symm.trans hash
    rw [named, hash] at last
    exact ⟨front, row, back, issued, now, log, last, digest,
      fun apart => apart _ _ _ _ _ noted digest⟩
  · obtain ⟨front, back, log, heralded⟩ := trusted.heralds saw
    have absent := heralded present
    grind

/-- In every run, a node has one good credential at most and keeps its role, and whoever
authenticates has the credential that was issued to the node last. -/
theorem credentials_guarded (json : Nodes.Json) (setup : Setup) (clock : Clock)
    (early late : List Happening) :
    let middle := lastState (Fleet.take traced json setup) (Fleet.opened clock) early
    Credentialed setup middle (lastState (Fleet.take traced json setup) middle late) := by
  intro middle
  have trusted : Trusted setup middle := by
    refine lastState_of_kept (Trusted setup) ⟨Fleet.sound_opened clock, ?_, ?_, heralded_nil⟩
      fun happening fleet trusted => trusted.take happening
    · exact fun _ listed => nomatch listed
    · exact fun _ listed => nomatch listed
  have onward : Trusted setup (lastState (Fleet.take traced json setup) middle late) ∧
      middle.state.tables.nodes.Evolve
        (lastState (Fleet.take traced json setup) middle late).state.tables.nodes := by
    refine lastState_of_kept (fun fleet => Trusted setup fleet ∧
      middle.state.tables.nodes.Evolve fleet.state.tables.nodes) ⟨trusted, .refl _⟩ ?_
    rintro happening fleet ⟨trusted, evolve⟩
    have next := (Fleet.Sound.take (serve_ends json setup) (fun _ _ _ _ _ ended _ => ended)
      trusted.sound happening).2
    exact ⟨trusted.take happening, evolve.trans next⟩
  obtain ⟨later, evolve⟩ := onward
  refine ⟨?_, ?_, ?_, ?_⟩
  · intro first here second there owner good fine
    exact later.issued.single here there owner good fine
  · intro row listed
    obtain ⟨next, there, follows⟩ := evolve row listed
    exact ⟨next, there, follows.id, follows.role⟩
  · intro thread call answer called answered
    exact (later.sound.answered called answered).leaves answer rfl
  · intro thread secret id called answered
    exact later.authentic called answered

theorem joined_node_authenticates :
    let early := Sample.joining .managed
    let late := Sample.calling 2 (.authenticate Sample.managedSecret) 4
    let middle := lastState (Fleet.take traced Sample.json Sample.setup)
      (Fleet.opened Sample.clock) early
    let fleet := lastState (Fleet.take traced Sample.json Sample.setup) middle late
    (fleet.answer 2).any Except.isOk = true ∧
      Distinguished Sample.setup fleet.log Sample.managedSecret ∧
      Credentialed Sample.setup middle fleet := by
  intro early late middle fleet
  exact ⟨by decide +kernel, fun _ _ _ _ _ _ same => same, credentials_guarded _ _ _ early late⟩

end Cashp.Registry
