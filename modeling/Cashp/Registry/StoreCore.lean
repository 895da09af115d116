import Cashp.Cluster.StoreCore
import Cashp.Nodes.StoreCore
import Cashp.Registry.EnrollCore

/-!
Everything the node service keeps, and its statements, with those of dispatching and of the control
plane. A transaction is one statement.
-/

namespace Cashp.Registry

open Kit Kit.Duration
open Nodes (Fault Link Role unixOf)

structure Clock where
  now : Int
  dated : second ≤ now

structure Realm where
  tables : Tables
  tasks : Nodes.Tasks
  actions : List Nodes.Registered
  cluster : Cluster.Store
  clock : Clock
  link : Link

def NodeTable.brief (nodes : NodeTable) : Nodes.Registry where
  rows := nodes.rows.map NodeRow.brief
  unique := by
    intro column listed
    rw [List.mem_singleton] at listed
    have distinct := nodes.unique NodeRow.id List.mem_cons_self
    rw [listed, List.map_map]
    exact distinct

def Realm.world (realm : Realm) : Nodes.World where
  nodes := realm.tables.nodes.brief
  actions := realm.actions
  tasks := realm.tasks
  now := realm.clock.now
  link := realm.link

inductive ControlStmt : Type → Type 1
  | heartbeat (hb : Cluster.Heartbeat) (now : Int) : ControlStmt (Except Cluster.ClusterError Unit)
  | acquireLock (name owner : String) (ttl : Int) (token : String) (now : Int) :
      ControlStmt (Except Cluster.ClusterError Cluster.Lock)
  | refresh (lock : Cluster.Lock) (ttl now : Int) :
      ControlStmt (Except Cluster.ClusterError Cluster.Lock)
  | release (lock : Cluster.Lock) : ControlStmt Unit
  | electPrimary (nodeID token : String) (now : Int) :
      ControlStmt (Except Cluster.ClusterError Bool)
  | removeNode (nodeID : String) : ControlStmt Unit

def ControlStmt.execute {Reply : Type} : ControlStmt Reply → Cluster.Store → Reply × Cluster.Store
  | .heartbeat hb now, store => store.heartbeat hb now
  | .acquireLock name owner ttl token now, store =>
    let outcome := Cluster.acquireLock store.locks name owner ttl token now
    (outcome.1, { store with locks := outcome.2 })
  | .refresh lock ttl now, store =>
    let outcome := lock.refresh store.locks ttl now
    (outcome.1, { store with locks := outcome.2 })
  | .release lock, store => ((), { store with locks := lock.release store.locks })
  | .electPrimary nodeID token now, store => store.electPrimary nodeID token now
  | .removeNode nodeID, store => ((), store.removeNode nodeID)

inductive Stmt : Type → Type 1
  | tasks {Reply : Type} (stmt : Nodes.Stmt Reply) : Stmt Reply
  | control {Reply : Type} (stmt : ControlStmt Reply) : Stmt (Except Fault Reply)
  | node (id : String) : Stmt (Except Fault (Option NodeRow))
  | list : Stmt (Except Fault (List NodeRow))
  | updateNode (change : NodeUpdate) (id : String) (version : Option Int) : Stmt (Except Fault Nat)
  | issueToken (id hash : String) (role : Role) (nodeID : String) (maxUses : Budget)
      (expiresAt : Int) : Stmt (Except Fault Unit)
  | revokeToken (revokedAt : Int) (id : String) : Stmt (Except Fault Nat)
  | expireTokens (now : Int) : Stmt (Except Fault Nat)
  | credential (hash : String) : Stmt (Except Fault (Option CredentialRow))
  | useCredential (usedAt : Int) (id : String) : Stmt (Except Fault Unit)
  | revokeCredentials (revokedAt : Int) (nodeID : String) : Stmt (Except Fault Nat)
  | retire (revokedAt : Int) (nodeID : String) : Stmt (Except Fault Unit)
  | enroll (job : EnrollJob) : Stmt (Except Fault (Except RegistryError (Node × String)))

namespace Realm

variable {Reply : Type}

def ask (realm : Realm) (reply : Reply) : Except Fault Reply × Realm :=
  match realm.link with
  | .up => (.ok reply, realm)
  | .refuses fault => (.error fault, realm)
  | .loses fault => (.error fault, realm)

def write (realm : Realm) (reply : Reply) (after : Realm) : Except Fault Reply × Realm :=
  match realm.link with
  | .up => (.ok reply, after)
  | .refuses fault => (.error fault, realm)
  | .loses fault => (.error fault, after)

def commits (realm : Realm) : Bool :=
  match realm.link with
  | .refuses _ => false
  | _ => true

def setNodes (realm : Realm) (nodes : NodeTable) : Realm :=
  { realm with tables := { realm.tables with nodes := nodes } }

def setTokens (realm : Realm) (tokens : TokenTable) : Realm :=
  { realm with tables := { realm.tables with tokens := tokens } }

def setCredentials (realm : Realm) (credentials : CredentialTable) : Realm :=
  { realm with tables := { realm.tables with credentials := credentials } }

def enrolling (realm : Realm) (job : EnrollJob) : Except RegistryError (Node × String) × Session :=
  (enrollTx job).run ⟨realm.tables, [], []⟩

end Realm

def lapsed (now : Int) (row : TokenRow) : Bool :=
  decide (0 < row.expiresAt) && decide (row.expiresAt ≤ now)

def CredentialTable.use (credentials : CredentialTable) (id : String) (usedAt : Int) :
    CredentialTable :=
  credentials.update (fun row => row.id == id) (fun row => { row with lastUsedAt := usedAt })
    fun _ listed row => by
      simp only [List.mem_cons, List.not_mem_nil, or_false] at listed
      rcases listed with rfl | rfl <;> rfl

def Stmt.execute {Reply : Type} : Stmt Reply → Realm → Reply × Realm
  | .tasks stmt, realm =>
    let outcome := stmt.execute realm.world
    (outcome.1, { realm with actions := outcome.2.actions, tasks := outcome.2.tasks })
  | .control stmt, realm =>
    let outcome := stmt.execute realm.cluster
    realm.write outcome.1 { realm with cluster := outcome.2 }
  | .node id, realm => realm.ask (realm.tables.nodes.find fun row => row.id == id)
  | .list, realm =>
    realm.ask (realm.tables.nodes.selectOrdered (fun _ => true)
      fun first next => first.id ≤ next.id)
  | .updateNode change id version, realm =>
    realm.write (realm.tables.nodes.affected (selectsNode id version))
      (realm.setNodes (change.assign id version realm.tables.nodes))
  | .issueToken id hash role nodeID maxUses expiresAt, realm =>
    match realm.tables.tokens.insert ⟨id, hash, role, nodeID, maxUses, 0, expiresAt, 0⟩ with
    | some tokens => realm.write () (realm.setTokens tokens)
    | none => (.error .constraint, realm)
  | .revokeToken revokedAt id, realm =>
    realm.write (realm.tables.tokens.affected fun row => row.id == id && row.revokedAt == 0)
      (realm.setTokens (realm.tables.tokens.revoke (fun row => row.id == id) revokedAt))
  | .expireTokens now, realm =>
    realm.write (realm.tables.tokens.affected fun row => lapsed now row && row.revokedAt == 0)
      (realm.setTokens (realm.tables.tokens.revoke (lapsed now) now))
  | .credential hash, realm =>
    realm.ask (realm.tables.credentials.find fun row => row.tokenHash == hash)
  | .useCredential usedAt id, realm =>
    realm.write () (realm.setCredentials (realm.tables.credentials.use id usedAt))
  | .revokeCredentials revokedAt nodeID, realm =>
    realm.write
      (realm.tables.credentials.affected fun row => row.nodeID == nodeID && row.revokedAt == 0)
      (realm.setCredentials (realm.tables.credentials.revoke nodeID revokedAt))
  | .retire revokedAt nodeID, realm =>
    realm.write ()
      ((realm.setCredentials (realm.tables.credentials.revoke nodeID revokedAt)).setTokens
        (realm.tables.tokens.revoke (fun row => row.nodeID == nodeID) revokedAt))
  | .enroll job, realm =>
    match realm.enrolling job with
    | (.ok result, session) => realm.write (.ok result) { realm with tables := session.tables }
    -- what the transaction has done until then is rolled back
    | (.error failure, _) => realm.ask (.error failure)

instance : Machine Stmt Realm := ⟨Stmt.execute⟩

abbrev Service (Value : Type) := Program Stmt RegistryError Value

end Cashp.Registry
