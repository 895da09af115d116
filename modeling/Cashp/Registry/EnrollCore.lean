import Cashp.Kit.ProgramCore
import Cashp.Kit.TableCore
import Cashp.Registry.ModelsCore

/-!
The tables of nodes, enrollment tokens and credentials, and the transaction that redeems a token
(`enroll.go`). The inventory a node reports is checked, its table left out.
-/

namespace Cashp.Registry

open Kit Kit.Program
open Nodes (Role State maxNodeNameLen truncate unixOf unixOrZero validateNodeID)

abbrev NodeTable := Table NodeRow [NodeRow.id]

abbrev TokenTable := Table TokenRow [TokenRow.id, TokenRow.tokenHash]

abbrev CredentialTable := Table CredentialRow [CredentialRow.id, CredentialRow.tokenHash]

structure Tables where
  nodes : NodeTable
  tokens : TokenTable
  credentials : CredentialTable

def Tables.empty : Tables := ⟨.empty, .empty, .empty⟩

inductive NodeUpdate
  | state (target : State) (reason : String) (changedAt : Int)
  | flags (cordoned maintenance : Bool) (reason : String) (updatedAt : Int)
  | contact (lastSeen : Int) (agentVersion : String)
  | rejoin (name address agentVersion : String) (enrolledAt : Int)

def NodeUpdate.apply (change : NodeUpdate) (row : NodeRow) : NodeRow :=
  match change with
  | .state target reason changedAt =>
    { row with
      state := target, stateReason := reason, stateChangedAt := changedAt
      updatedAt := changedAt, version := row.version + 1 }
  | .flags cordoned maintenance reason updatedAt =>
    { row with
      cordoned := cordoned, maintenance := maintenance, stateReason := reason
      updatedAt := updatedAt, version := row.version + 1 }
  | .contact lastSeen agentVersion =>
    { row with
      lastSeen := lastSeen, agentVersion := agentVersion, updatedAt := lastSeen
      version := row.version + 1 }
  | .rejoin name address agentVersion enrolledAt =>
    { row with
      name := name, address := address, agentVersion := agentVersion, state := .enrolled
      stateReason := "rejoined", stateChangedAt := enrolledAt, enrolledAt := enrolledAt
      lastSeen := enrolledAt, updatedAt := enrolledAt, version := row.version + 1 }

theorem NodeUpdate.apply_id (change : NodeUpdate) (row : NodeRow) :
    (change.apply row).id = row.id := by
  cases change <;> rfl

def selectsNode (id : String) (version : Option Int) (row : NodeRow) : Bool :=
  row.id == id && version.all fun version => row.version == version

def NodeUpdate.assign (change : NodeUpdate) (id : String) (version : Option Int)
    (nodes : NodeTable) : NodeTable :=
  nodes.update (selectsNode id version) change.apply fun _ listed row => by
    rw [List.mem_singleton] at listed
    rw [listed]
    exact change.apply_id row

def TokenTable.spend (tokens : TokenTable) (matching : TokenRow → Bool) (uses revokedAt : Int) :
    TokenTable :=
  tokens.update matching (fun row => { row with uses := uses, revokedAt := revokedAt })
    fun _ listed row => by
      simp only [List.mem_cons, List.not_mem_nil, or_false] at listed
      rcases listed with rfl | rfl <;> rfl

def TokenTable.revoke (tokens : TokenTable) (matching : TokenRow → Bool) (revokedAt : Int) :
    TokenTable :=
  tokens.update (fun row => matching row && row.revokedAt == 0)
    (fun row => { row with revokedAt := revokedAt }) fun _ listed row => by
      simp only [List.mem_cons, List.not_mem_nil, or_false] at listed
      rcases listed with rfl | rfl <;> rfl

def CredentialTable.revoke (credentials : CredentialTable) (nodeID : String) (revokedAt : Int) :
    CredentialTable :=
  credentials.update (fun row => row.nodeID == nodeID && row.revokedAt == 0)
    (fun row => { row with revokedAt := revokedAt }) fun _ listed row => by
      simp only [List.mem_cons, List.not_mem_nil, or_false] at listed
      rcases listed with rfl | rfl <;> rfl

structure NodeWrite where
  change : NodeUpdate
  id : String
  version : Option Int

/-- An open transaction: the tables as it sees them, the nodes whose rows it has written, and the
updates of others that are committed before each of its statements. -/
structure Session where
  tables : Tables
  held : List String
  arrivals : List (List NodeWrite)

namespace Session

def place (session : Session) (nodes : NodeTable) (write : NodeWrite) : NodeTable :=
  if write.id ∈ session.held then nodes else write.change.assign write.id write.version nodes

def arrive (session : Session) : Session :=
  match session.arrivals with
  | [] => session
  | writes :: later =>
    { session with
      tables :=
        { session.tables with nodes := writes.foldl session.place session.tables.nodes }
      arrivals := later }

end Session

inductive TxStmt : Type → Type 1
  | token (hash : String) : TxStmt (Option TokenRow)
  | node (id : String) : TxStmt (Option NodeRow)
  | updateNode (change : NodeUpdate) (id : String) (version : Int) : TxStmt Nat
  | insertNode (row : NodeRow) : TxStmt Bool
  | revokeCredentials (revokedAt : Int) (nodeID : String) : TxStmt Nat
  | insertCredential (row : CredentialRow) : TxStmt Bool
  | consume (uses revokedAt : Int) (id : String) (seen : Int) : TxStmt Nat

def consumes (id : String) (seen : Int) (row : TokenRow) : Bool :=
  row.id == id && row.uses == seen && row.revokedAt == 0

def TxStmt.effect {Reply : Type} : TxStmt Reply → Session → Reply × Session
  | .token hash, session => (session.tables.tokens.find fun row => row.tokenHash == hash, session)
  | .node id, session => (session.tables.nodes.find fun row => row.id == id, session)
  | .updateNode change id version, session =>
    let affected := session.tables.nodes.affected (selectsNode id (some version))
    (affected,
      { session with
        tables :=
          { session.tables with nodes := change.assign id (some version) session.tables.nodes }
        held := if affected = 0 then session.held else id :: session.held })
  | .insertNode row, session =>
    match session.tables.nodes.insert row with
    | some nodes =>
      (true,
        { session with
          tables := { session.tables with nodes := nodes }, held := row.id :: session.held })
    | none => (false, session)
  | .revokeCredentials revokedAt nodeID, session =>
    (session.tables.credentials.affected fun row => row.nodeID == nodeID && row.revokedAt == 0,
      { session with
        tables :=
          { session.tables with
            credentials := session.tables.credentials.revoke nodeID revokedAt } })
  | .insertCredential row, session =>
    match session.tables.credentials.insert row with
    | some credentials =>
      (true, { session with tables := { session.tables with credentials := credentials } })
    | none => (false, session)
  | .consume uses revokedAt id seen, session =>
    (session.tables.tokens.affected (consumes id seen),
      { session with
        tables :=
          { session.tables with
            tokens := session.tables.tokens.spend (consumes id seen) uses revokedAt } })

instance : Machine TxStmt Session := ⟨fun stmt session => stmt.effect session.arrive⟩

abbrev Transaction (Value : Type) := Program TxStmt RegistryError Value

def enrollNodeRow (token : EnrollmentToken) (nodeID name address agentVersion : String)
    (now : Int) (rejoin : Bool) : Transaction Node := do
  if rejoin then
    match ← perform (.node nodeID) with
    | none => .fail (.node .nodeNotFound)
    | some row =>
      let node := scanNodeRow row
      refuse (node.role ≠ token.role) (.node .invalidRole)
      refuse (canTransition node.state .enrolled = false) (.node .invalidTransition)
      let _ ← perform (.updateNode (.rejoin name address agentVersion (unixOf now)) node.id
        node.version)
      pure { node with
        name := name, address := address, agentVersion := agentVersion, state := .enrolled
        stateReason := "rejoined", stateChangedAt := now, enrolledAt := now, lastSeen := now
        updatedAt := now, version := node.version + 1 }
  else
    match ← perform (.node nodeID) with
    | some _ => .fail (.node .nodeExists)
    | none =>
      let stored ← perform (.insertNode
        { id := nodeID, name := name, role := token.role, state := .enrolled
          stateReason := "enrolled", address := address, agentVersion := agentVersion
          cordoned := false, maintenance := false, enrolledAt := unixOf now
          lastSeen := unixOf now, stateChangedAt := unixOf now, createdAt := unixOf now
          updatedAt := unixOf now, version := 1 })
      refuse (stored = false) (.internal "create node")
      pure
        { id := nodeID, name := name, role := token.role, state := .enrolled
          stateReason := "enrolled", address := address, agentVersion := agentVersion
          cordoned := false, maintenance := false, enrolledAt := now, lastSeen := now
          stateChangedAt := now, createdAt := now, updatedAt := now, version := 1 }

def issueCredential (setup : Setup) (node : Node) (now : Int) (drawn : Drawn) :
    Transaction String := do
  let _ ← perform (.revokeCredentials (unixOf now) node.id)
  match setup.generateToken (tokenPrefixFor node.role) drawn.body with
  | none => .fail (.internal "generate node credential")
  | some (secret, hash) =>
    match drawn.id with
    | none => .fail (.internal "generate credential id")
    | some id => do
      let expires := if 0 < setup.credTTL then unixOf (now + setup.credTTL) else 0
      let stored ← perform (.insertCredential
        { id := id, nodeID := node.id, tokenHash := hash, expiresAt := expires
          revokedAt := 0, lastUsedAt := 0 })
      refuse (stored = false) (.internal "store node credential")
      pure secret

def consumeEnrollment (token : EnrollmentToken) (now : Int) : Transaction Unit := do
  let uses := token.uses + 1
  let revokedAt := if token.maxUses.uses ≤ uses then unixOf now else 0
  let affected ← perform (.consume uses revokedAt token.id token.uses)
  refuse (affected = 0) .enrollmentRejected

structure EnrollJob where
  setup : Setup
  req : EnrollRequest
  now : Int
  drawn : Drawn

def EnrollJob.hash (job : EnrollJob) : String := job.setup.digest job.req.secret

def enrollNodeID (token : EnrollmentToken) (req : EnrollRequest) : Except RegistryError String :=
  if token.nodeID ≠ "" then .ok token.nodeID
  else
    let nodeID := lowerText (trimSpace req.nodeID)
    ((validateNodeID nodeID).mapError .node).map fun _ => nodeID

def enrollTx (job : EnrollJob) : Transaction (Node × String) := do
  match ← perform (.token job.hash) with
  | none => .fail .enrollmentRejected
  | some row =>
    let token := scanEnrollment row
    refuse (job.setup.digest row.tokenHash ≠ job.setup.digest job.hash) .enrollmentRejected
    refuse (token.live job.now = false) .enrollmentRejected
    refuse (token.role.valid = false) .enrollmentRejected
    let nodeID ← ofExcept (enrollNodeID token job.req)
    let name := truncate job.req.name maxNodeNameLen
    let name := if name = "" then nodeID else name
    ofExcept (validateNodeName name)
    let address := truncate job.req.address maxAddressLen
    let agentVersion := truncate job.req.agentVersion maxVersionLen
    refuse (agentVersion ≠ "" ∧ isPrintableToken agentVersion = false) .invalidFacts
    let node ← enrollNodeRow token nodeID name address agentVersion job.now
      (token.nodeID ≠ "")
    let credential ← issueCredential job.setup node job.now job.drawn
    consumeEnrollment token job.now
    pure (node, credential)

end Cashp.Registry
