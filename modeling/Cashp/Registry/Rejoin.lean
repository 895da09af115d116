import Cashp.Registry.Enrollment

/-!
A node rejoins while others write its row. The transaction updates the row under the version it has
read, but does not look at whether the update has found it.
-/

namespace Cashp.Registry

open Kit Kit.Program
open Nodes (unixOf)

structure NodeRow.Shows (row : NodeRow) (node : Node) : Prop where
  state : row.state = node.state
  name : row.name = node.name
  address : row.address = node.address
  enrolledAt : row.enrolledAt = unixOf node.enrolledAt
  lastSeen : row.lastSeen = unixOf node.lastSeen

instance (row : NodeRow) (node : Node) : Decidable (row.Shows node) :=
  decidable_of_iff (row.state = node.state ∧ row.name = node.name ∧ row.address = node.address ∧
    row.enrolledAt = unixOf node.enrolledAt ∧ row.lastSeen = unixOf node.lastSeen)
    ⟨fun ⟨state, name, address, enrolledAt, lastSeen⟩ =>
      ⟨state, name, address, enrolledAt, lastSeen⟩,
    fun shows => ⟨shows.state, shows.name, shows.address, shows.enrolledAt, shows.lastSeen⟩⟩

def Session.Stores (session : Session) (node : Node) : Prop :=
  ∃ row ∈ session.tables.nodes.rows, row.id = node.id ∧ row.Shows node

instance (session : Session) (node : Node) : Decidable (session.Stores node) :=
  inferInstanceAs (Decidable (∃ row ∈ _, _))

/-- Nobody else commits an update of the node between the statement that reads its row and the one
that writes it. -/
def Untouched (nodeID : String) (arrivals : List (List NodeWrite)) : Prop :=
  ∀ write ∈ arrivals.getD 2 [], write.id ≠ nodeID

instance (nodeID : String) (arrivals : List (List NodeWrite)) :
    Decidable (Untouched nodeID arrivals) :=
  inferInstanceAs (Decidable (∀ write ∈ _, _))

variable {session : Session} {nodes : NodeTable} {row : NodeRow}

theorem assign_keeps {write : NodeWrite} (listed : row ∈ nodes.rows) (other : write.id ≠ row.id) :
    row ∈ (write.change.assign write.id write.version nodes).rows := by
  refine List.mem_map.mpr ⟨row, listed, Table.assignWhere_not ?_⟩
  rw [selectsNode, beq_eq_false_iff_ne.mpr (Ne.symm other), Bool.false_and]

theorem place_keeps {writes : List NodeWrite} (listed : row ∈ nodes.rows)
    (kept : ∀ write ∈ writes, write.id ∈ session.held ∨ write.id ≠ row.id) :
    row ∈ (writes.foldl session.place nodes).rows := by
  induction writes generalizing nodes with
  | nil => exact listed
  | cons write later ih =>
    refine ih ?_ fun other member => kept other (List.mem_cons_of_mem _ member)
    rw [Session.place]
    split
    · exact listed
    · rename_i free
      exact assign_keeps listed ((kept write List.mem_cons_self).resolve_left free)

theorem arrive_tokens : session.arrive.tables.tokens = session.tables.tokens := by
  rw [Session.arrive]
  split <;> rfl

theorem arrive_held : session.arrive.held = session.held := by
  rw [Session.arrive]
  split <;> rfl

theorem arrive_arrivals : session.arrive.arrivals = session.arrivals.tail := by
  grind [Session.arrive]

theorem arrive_keeps (listed : row ∈ session.tables.nodes.rows)
    (kept : ∀ write ∈ session.arrivals.headD [], write.id ∈ session.held ∨ write.id ≠ row.id) :
    row ∈ session.arrive.tables.nodes.rows := by
  rw [Session.arrive]
  split
  · exact listed
  rename_i writes later some
  rw [some] at kept
  exact place_keeps listed kept

def Aside {Reply : Type} : TxStmt Reply → Prop
  | .updateNode .. => False
  | _ => True

def Session.Holds (before after : Session) : Prop :=
  (∀ row ∈ before.tables.nodes.rows, row.id ∈ before.held → row ∈ after.tables.nodes.rows) ∧
    before.held ⊆ after.held

theorem arrive_holds : session.Holds session.arrive := by
  refine ⟨fun row listed held => arrive_keeps listed fun write _ => ?_, ?_⟩
  · by_cases same : write.id = row.id
    · exact .inl (same ▸ held)
    · exact .inr same
  · rw [arrive_held]
    exact List.Subset.refl _

theorem Session.Holds.trans {first second third : Session} (early : first.Holds second)
    (late : second.Holds third) : first.Holds third :=
  ⟨fun row listed held => late.1 row (early.1 row listed held) (early.2 held),
    List.Subset.trans early.2 late.2⟩

theorem effect_holds {Reply : Type} (stmt : TxStmt Reply) (aside : Aside stmt) :
    session.Holds (stmt.effect session).2 := by
  have still : session.Holds session := ⟨fun _ listed _ => listed, List.Subset.refl _⟩
  cases stmt with
  | updateNode => exact aside.elim
  | token | node | revokeCredentials | consume => exact still
  | insertCredential =>
    rw [TxStmt.effect]
    split
    · exact still
    · exact still
  | insertNode added =>
    rw [TxStmt.effect]
    grind [Session.Holds, Table.insert]

theorem run_holds {Value : Type} {program : Transaction Value} {first last : Session}
    {answer : Except RegistryError Value} (uses : program.Uses Aside)
    (ran : program.run first = (answer, last)) : first.Holds last := by
  have held : first.Holds (program.run first).2 :=
    final_of_uses uses (fun _ => ⟨fun _ listed _ => listed, List.Subset.refl _⟩)
      (fun _ _ _ early late => early.trans late)
      (fun stmt _ aside => arrive_holds.trans (effect_holds stmt aside)) first
  rwa [ran] at held

theorem issueCredential_aside (setup : Setup) (node : Node) (now : Int) (drawn : Drawn) :
    (issueCredential setup node now drawn).Uses Aside := by
  refine uses_then trivial fun _ => ?_
  split
  · trivial
  split
  · trivial
  · exact uses_then trivial fun _ =>
      uses_refused fun _ => trivial

theorem consumeEnrollment_aside (token : EnrollmentToken) (now : Int) :
    (consumeEnrollment token now).Uses Aside :=
  uses_then trivial fun _ => uses_refuse _ _

theorem updateNode_writes (change : NodeUpdate)
    (listed : row ∈ session.arrive.tables.nodes.rows) :
    let after := (execute (TxStmt.updateNode change row.id row.version) session).2
    change.apply row ∈ after.tables.nodes.rows ∧ row.id ∈ after.held := by
  have hit : selectsNode row.id (some row.version) row = true := by
    simp [selectsNode]
  constructor
  · exact List.mem_map.mpr ⟨row, listed, Table.assignWhere_of hit⟩
  have found :
      session.arrive.tables.nodes.affected (selectsNode row.id (some row.version)) ≠ 0 := by
    intro none
    have missed := Table.affected_eq_zero.mp none row listed
    rw [hit] at missed
    cases missed
  change row.id ∈ if _ then _ else _
  rw [if_neg found]
  exact List.mem_cons_self

theorem rejoin_stores {token : EnrollmentToken} {nodeID name address agentVersion : String}
    {now : Int} {node : Node} {last : Session}
    (ran : (enrollNodeRow token nodeID name address agentVersion now true).run session =
      (.ok node, last)) (apart : ∀ write ∈ session.arrivals.tail.headD [], write.id ≠ nodeID) :
    ∃ row ∈ last.tables.nodes.rows, row.id ∈ last.held ∧ row.id = node.id ∧ row.Shows node := by
  rw [enrollNodeRow, if_pos rfl, run_step] at ran
  cases found : session.arrive.tables.nodes.find fun row => row.id == nodeID with
  | none =>
    rw [show (execute (TxStmt.node nodeID) session).1 = none from found] at ran
    cases ran
  | some row =>
    rw [show (execute (TxStmt.node nodeID) session).1 = some row from found] at ran
    obtain ⟨listed, same⟩ := Table.find_mem found
    obtain ⟨_, ran⟩ := ran_refuse ran
    obtain ⟨_, ran⟩ := ran_refuse ran
    -- the row that was read is still there when the update comes to it
    have there : row ∈ session.arrive.arrive.tables.nodes.rows := by
      refine arrive_keeps listed fun write member => .inr ?_
      rw [arrive_arrivals] at member
      rw [beq_iff_eq.mp same]
      exact apart write member
    obtain ⟨written, held⟩ :=
      updateNode_writes (.rejoin name address agentVersion (unixOf now)) there
    cases ran
    exact ⟨_, written, held, rfl, rfl, rfl, rfl, rfl, rfl⟩

theorem headD_tail_tail {Item : Type} (items : List (List Item)) :
    items.tail.tail.headD [] = items.getD 2 [] := by
  rcases items with _ | ⟨first, _ | ⟨second, _ | ⟨third, rest⟩⟩⟩ <;> rfl

/-- If nobody else updates the node in between, then a node that rejoins is stored as it is
returned. -/
theorem rejoin_stored_as_returned (job : EnrollJob) (tables : Tables) (token : TokenRow)
    (arrivals : List (List NodeWrite)) (node : Node) (secret : String) (session : Session)
    (presented : token ∈ tables.tokens.rows) (hash : token.tokenHash = job.hash)
    (bound : token.nodeID ≠ "") (apart : Untouched token.nodeID arrivals)
    (ran : (enrollTx job).run ⟨tables, [], arrivals⟩ = (.ok (node, secret), session)) :
    session.Stores node := by
  have found : (Session.arrive ⟨tables, [], arrivals⟩).tables.tokens.find
      (fun row => row.tokenHash == job.hash) = some token := by
    rw [arrive_tokens]
    have unique : TokenRow.tokenHash ∈ [TokenRow.id, TokenRow.tokenHash] := by simp
    refine Table.find_unique unique presented (beq_iff_eq.mpr hash) fun other hit => ?_
    rw [beq_iff_eq.mp hit, hash]
  rw [enrollTx, run_step, show (execute (TxStmt.token job.hash) _).1 = some token from found] at ran
  obtain ⟨_, ran⟩ := ran_refuse ran
  obtain ⟨_, ran⟩ := ran_refuse ran
  obtain ⟨_, ran⟩ := ran_refuse ran
  obtain ⟨nodeID, wanted, ran⟩ := ran_ofExcept ran
  obtain ⟨_, _, ran⟩ := ran_ofExcept ran
  obtain ⟨_, ran⟩ := ran_refuse ran
  obtain ⟨joined, middle, joins, ran⟩ := ran_bind ran
  obtain ⟨credential, issued, issues, ran⟩ := ran_bind ran
  obtain ⟨_, consumed, consumes, ran⟩ := ran_bind ran
  cases ran
  have rejoins : decide ((scanEnrollment token).nodeID ≠ "") = true := decide_eq_true bound
  rw [rejoins] at joins
  have same : nodeID = token.nodeID := enrollNodeID_bound wanted bound
  have stored := rejoin_stores joins fun write member => by
    rw [same]
    refine apart write ?_
    rw [← headD_tail_tail]
    change write ∈ (Session.arrive ⟨tables, [], arrivals⟩).arrivals.tail.headD [] at member
    rwa [arrive_arrivals] at member
  obtain ⟨row, listed, held, id, shown⟩ := stored
  have kept : middle.Holds session :=
    (run_holds (issueCredential_aside _ _ _ _) issues).trans
      (run_holds (consumeEnrollment_aside _ _) consumes)
  exact ⟨row, kept.1 row listed held, id, shown⟩

def rejoining : EnrollJob where
  setup := ⟨id, 0, Int.le_refl 0⟩
  req :=
    { secret := "adm_agt_0123456789abcdefghijklmnopqrstuv", nodeID := "", name := "", address := ""
      agentVersion := "1.1"
      facts := ⟨"linux", "amd64", "6.1", "edge-1", 4, 1024, 1024, []⟩ }
  now := 1000 * Duration.second
  drawn := ⟨some "vutsrqponmlkjihgfedcba9876543210", some "cred-1"⟩

def rejoiningTables : Tables where
  nodes := ⟨[
    { id := "edge-1", name := "edge", role := .managed, state := .offline
      stateReason := "liveness sweep", address := "", agentVersion := "1.0", cordoned := false
      maintenance := false, enrolledAt := 100, lastSeen := 400, stateChangedAt := 700
      createdAt := 100, updatedAt := 700, version := 3 }], by simp⟩
  tokens := ⟨[⟨"token-1", "adm_agt_0123456789abcdefghijklmnopqrstuv", .managed, "edge-1",
    ⟨1, by decide⟩, 0, 4600, 0⟩], by simp⟩
  credentials := .empty

def rejoinedNode : Node where
  id := "edge-1"
  name := "edge-1"
  role := .managed
  state := .enrolled
  stateReason := "rejoined"
  address := ""
  agentVersion := "1.1"
  cordoned := false
  maintenance := false
  enrolledAt := 1000 * Duration.second
  lastSeen := 1000 * Duration.second
  stateChangedAt := 1000 * Duration.second
  createdAt := 100 * Duration.second
  updatedAt := 1000 * Duration.second
  version := 4

theorem rejoin_alone_stored :
    let outcome := (enrollTx rejoining).run ⟨rejoiningTables, [], []⟩
    outcome.1 = .ok (rejoinedNode, "adm_agt_vutsrqponmlkjihgfedcba9876543210") ∧
      outcome.2.Stores rejoinedNode := by
  intro outcome
  have answered : outcome.1 = .ok (rejoinedNode, "adm_agt_vutsrqponmlkjihgfedcba9876543210") := by
    decide +kernel
  refine ⟨answered, ?_⟩
  exact rejoin_stored_as_returned rejoining rejoiningTables _ [] rejoinedNode _ outcome.2
    List.mem_cons_self rfl (by decide) (by decide) (Prod.ext answered rfl)

/-- A contact is recorded between the two statements. The update of the transaction then finds no
row, and the node that is returned as enrolled stays offline. -/
theorem rejoin_amid_contact_not_stored :
    let contact : NodeWrite := ⟨.contact 999 "1.0", "edge-1", none⟩
    let outcome := (enrollTx rejoining).run ⟨rejoiningTables, [], [[], [], [contact]]⟩
    outcome.1 = .ok (rejoinedNode, "adm_agt_vutsrqponmlkjihgfedcba9876543210") ∧
      ¬ outcome.2.Stores rejoinedNode := by
  decide +kernel

end Cashp.Registry
