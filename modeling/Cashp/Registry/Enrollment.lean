import Cashp.Kit.Program
import Cashp.Kit.Table
import Cashp.Registry.EnrollCore

/-!
What the transaction of an enrollment does while nobody else is at work.
-/

namespace Cashp.Registry

open Kit Kit.Program
open Nodes (unixOf)

inductive Joined (now : Int) (token : EnrollmentToken) (before after : NodeTable) (node : Node) :
    Prop
  | rejoin (row : NodeRow) (name address agentVersion : String) (bound : token.nodeID ≠ "")
      (listed : row ∈ before.rows) (same : row.id = token.nodeID)
      (allowed : canTransition row.state .enrolled = true)
      (written : after =
        (NodeUpdate.rejoin name address agentVersion (unixOf now)).assign row.id
          (some row.version) before)
      (id : node.id = row.id)
  | create (row : NodeRow) (free : token.nodeID = "") (inserted : before.insert row = some after)
      (state : row.state = .enrolled) (id : node.id = row.id)

variable {job : EnrollJob} {token : EnrollmentToken} {tables : Tables} {held : List String}
  {session : Session} {node : Node} {secret nodeID name address agentVersion : String} {now : Int}

theorem insertNode_stored {row : NodeRow}
    (ran : execute (TxStmt.insertNode row) ⟨tables, held, []⟩ = (true, session)) :
    ∃ nodes, tables.nodes.insert row = some nodes ∧
      session = ⟨{ tables with nodes := nodes }, row.id :: held, []⟩ := by
  change TxStmt.effect (.insertNode row) ⟨tables, held, []⟩ = _ at ran
  grind [TxStmt.effect]

theorem insertCredential_stored {row : CredentialRow}
    (ran : execute (TxStmt.insertCredential row) ⟨tables, held, []⟩ = (true, session)) :
    ∃ credentials, tables.credentials.insert row = some credentials ∧
      session = ⟨{ tables with credentials := credentials }, held, []⟩ := by
  change TxStmt.effect (.insertCredential row) ⟨tables, held, []⟩ = _ at ran
  grind [TxStmt.effect]

theorem stored_ok {Value : Type} {stmt : TxStmt Bool} {failure : RegistryError}
    {onward : Transaction Value} {first last : Session} {value : Value}
    (ran : (do
      let stored ← perform stmt
      refuse (stored = false) failure
      onward : Transaction Value).run first = (.ok value, last)) :
    ∃ middle, execute stmt first = (true, middle) ∧ onward.run middle = (.ok value, last) := by
  obtain ⟨stored, middle, executed, refused⟩ := ran_bind ran
  obtain ⟨fresh, goes⟩ := ran_refuse refused
  rw [run_perform] at executed
  cases executed
  exact ⟨_, Prod.ext ((Bool.not_eq_false _).mp fresh) rfl, goes⟩

theorem enrollNodeRow_ok (wanted : token.nodeID ≠ "" → nodeID = token.nodeID)
    (ran : (enrollNodeRow token nodeID name address agentVersion now (token.nodeID ≠ "")).run
      ⟨tables, held, []⟩ = (.ok node, session)) :
    ∃ nodes held', session = ⟨{ tables with nodes := nodes }, held', []⟩ ∧
      Joined now token tables.nodes nodes node := by
  rw [enrollNodeRow] at ran
  by_cases bound : token.nodeID ≠ ""
  · rw [if_pos (by simpa using bound)] at ran
    cases found : tables.nodes.find fun row => row.id == nodeID with
    | none =>
      rw [run_step, show (execute (TxStmt.node nodeID) ⟨tables, held, []⟩).1 =
        none from found] at ran
      cases ran
    | some row =>
      rw [run_step, show (execute (TxStmt.node nodeID) ⟨tables, held, []⟩).1 = some row from found]
        at ran
      obtain ⟨listed, same⟩ := Table.find_mem found
      obtain ⟨_, ran⟩ := ran_refuse ran
      obtain ⟨allowed, ran⟩ := ran_refuse ran
      cases ran
      exact ⟨_, _, rfl, .rejoin row name address agentVersion bound listed
        ((beq_iff_eq.mp same).trans (wanted bound)) ((Bool.not_eq_false _).mp allowed) rfl rfl⟩
  · rw [if_neg (by simpa using bound)] at ran
    cases found : tables.nodes.find fun row => row.id == nodeID with
    | some row =>
      rw [run_step, show (execute (TxStmt.node nodeID) ⟨tables, held, []⟩).1 = some row from found]
        at ran
      cases ran
    | none =>
      rw [run_step, show (execute (TxStmt.node nodeID) ⟨tables, held, []⟩).1 =
        none from found] at ran
      obtain ⟨middle, executed, ran⟩ := stored_ok ran
      obtain ⟨nodes, inserted, rfl⟩ := insertNode_stored executed
      cases ran
      exact ⟨nodes, _, rfl, .create _ (not_not.mp bound) inserted rfl rfl⟩

theorem issueCredential_ok {setup : Setup} {drawn : Drawn}
    (ran : (issueCredential setup node now drawn).run ⟨tables, held, []⟩ = (.ok secret, session)) :
    ∃ row credentials, session = ⟨{ tables with credentials := credentials }, held, []⟩ ∧
      (tables.credentials.revoke node.id (unixOf now)).insert row = some credentials ∧
      row.nodeID = node.id ∧ row.tokenHash = setup.digest secret ∧ row.revokedAt = 0 := by
  obtain ⟨_, revoked, executed, ran⟩ := ran_bind ran
  rw [run_perform] at executed
  cases executed
  cases drawn with
  | mk body id =>
    rw [Setup.generateToken] at ran
    split at ran
    · cases ran
    rename_i generated
    split at ran
    · cases ran
    obtain ⟨middle, executed, ran⟩ := stored_ok ran
    obtain ⟨credentials, inserted, rfl⟩ := insertCredential_stored executed
    cases ran
    refine ⟨_, credentials, rfl, inserted, rfl, ?_, rfl⟩
    split at generated
    · obtain ⟨body, _, pair⟩ := Option.map_eq_some_iff.mp generated
      cases pair
      rfl
    · cases generated

theorem consumeEnrollment_ok
    (ran : (consumeEnrollment token now).run ⟨tables, held, []⟩ = (.ok (), session)) :
    tables.tokens.affected (consumes token.id token.uses) ≠ 0 ∧ session = ⟨{ tables with
        tokens := tables.tokens.spend (consumes token.id token.uses) (token.uses + 1)
          (if token.maxUses.uses ≤ token.uses + 1 then unixOf now else 0) }, held, []⟩ := by
  obtain ⟨affected, middle, executed, refused⟩ := ran_bind ran
  rw [run_perform] at executed
  cases executed
  obtain ⟨hit, rfl⟩ := run_refuse_passed refused
  exact ⟨hit, rfl⟩

structure Redeemed (job : EnrollJob) (before after : Tables) (token : TokenRow)
    (credential : CredentialRow) (node : Node) (secret : String) : Prop where
  listed : token ∈ before.tokens.rows
  hash : token.tokenHash = job.hash
  live : (scanEnrollment token).live job.now = true
  hit : before.tokens.affected (consumes token.id token.uses) ≠ 0
  spent : after.tokens = before.tokens.spend (consumes token.id token.uses) (token.uses + 1)
    (if token.maxUses.uses ≤ token.uses + 1 then unixOf job.now else 0)
  joined : Joined job.now (scanEnrollment token) before.nodes after.nodes node
  inserted : (before.credentials.revoke node.id (unixOf job.now)).insert credential =
    some after.credentials
  owner : credential.nodeID = node.id
  digest : credential.tokenHash = job.setup.digest secret
  unrevoked : credential.revokedAt = 0

theorem enrollNodeID_bound {req : EnrollRequest} (wanted : enrollNodeID token req = .ok nodeID)
    (bound : token.nodeID ≠ "") : nodeID = token.nodeID := by
  rw [enrollNodeID, if_pos bound] at wanted
  cases wanted
  rfl

theorem enrollTx_ok (ran : (enrollTx job).run ⟨tables, [], []⟩ = (.ok (node, secret), session)) :
    ∃ token credential, Redeemed job tables session.tables token credential node secret := by
  rw [enrollTx, run_step] at ran
  cases found : tables.tokens.find fun row => row.tokenHash == job.hash with
  | none =>
    rw [show (execute (TxStmt.token job.hash) ⟨tables, [], []⟩).1 = none from found] at ran
    cases ran
  | some row =>
    rw [show (execute (TxStmt.token job.hash) ⟨tables, [], []⟩).1 = some row from found] at ran
    obtain ⟨listed, same⟩ := Table.find_mem found
    obtain ⟨_, ran⟩ := ran_refuse ran
    obtain ⟨live, ran⟩ := ran_refuse ran
    obtain ⟨_, ran⟩ := ran_refuse ran
    obtain ⟨nodeID, wanted, ran⟩ := ran_ofExcept ran
    obtain ⟨_, _, ran⟩ := ran_ofExcept ran
    obtain ⟨_, ran⟩ := ran_refuse ran
    obtain ⟨_, _, joins, ran⟩ := ran_bind ran
    obtain ⟨nodes, held, rfl, joined⟩ := enrollNodeRow_ok (enrollNodeID_bound wanted) joins
    obtain ⟨_, _, issues, ran⟩ := ran_bind ran
    obtain ⟨credential, credentials, rfl, inserted, owner, digest, unrevoked⟩ :=
      issueCredential_ok issues
    obtain ⟨_, _, consumes, ran⟩ := ran_bind ran
    obtain ⟨hit, rfl⟩ := consumeEnrollment_ok consumes
    cases ran
    exact ⟨row, credential, listed, beq_iff_eq.mp same, (Bool.not_eq_false _).mp live, hit, rfl,
      joined, inserted, owner, digest, unrevoked⟩

end Cashp.Registry
