import Cashp.Kit.Duration
import Cashp.Kit.TableCore
import Cashp.Kit.Text
import Mathlib.Data.String.Basic

/-!
The tables `nodes` and `cluster_locks` (`cluster.go`) and the transactions on them. Instants are
nanoseconds, the columns hold whole seconds. Random tokens and clock readings are arguments.
-/

namespace Cashp.Cluster

open Kit Duration

def degradedAfter : Int := 90 * second
def primaryLeaseTTL : Int := 90 * second
def primaryLockName : String := "cluster.primary"

inductive ClusterError
  | heartbeatWithoutNode
  | lockWithoutName
  | electionWithoutNode
  | lockHeld

def ClusterError.message : ClusterError → String
  | .heartbeatWithoutNode => "cluster: heartbeat requires a node id"
  | .lockWithoutName => "cluster: lock requires a name"
  | .electionWithoutNode => "cluster: election requires a node id"
  | .lockHeld => "cluster: lock is held by another node"

structure SecretVersions where
  installationSecret : Int := 0
  serverEncryptionKey : Int := 0
  cookieSigningKey : Int := 0
  csrfTokenSecret : Int := 0
  learnedOrigins : Int := 0

structure Heartbeat where
  nodeID : String
  address : String := ""
  appVersion : String := ""
  commitHash : String := ""
  secrets : SecretVersions := {}
  startedAt : Int := zeroTime

structure Member where
  nodeID : String
  address : String
  appVersion : String
  commitHash : String
  secrets : SecretVersions
  startedAt : Int
  lastSeen : Int
  stale : Bool
  version : Int

structure LockRow where
  name : String
  owner : String
  token : String
  acquiredAt : Int
  expiresAt : Int

structure Lock where
  name : String
  owner : String
  token : String
  expiresAt : Int
deriving DecidableEq

abbrev Members := Table Member [Member.nodeID]

abbrev Locks := Table LockRow [LockRow.name]

structure Store where
  nodes : Members
  locks : Locks

def Store.empty : Store := ⟨.empty, .empty⟩

def effectiveTTL (ttl : Int) : Int := if ttl ≤ 0 then primaryLeaseTTL else ttl

def Locks.setExpiry (locks : Locks) (matching : LockRow → Bool) (expiresAt : Int) : Locks :=
  locks.update matching (fun row => { row with expiresAt := expiresAt }) fun _ listed row => by
    rw [List.mem_singleton] at listed
    rw [listed]

def acquireLock (locks : Locks) (name owner : String) (ttl : Int) (token : String) (now : Int) :
    Except ClusterError Lock × Locks :=
  if trimSpace name = "" then (.error .lockWithoutName, locks)
  else
    let expires := now + effectiveTTL ttl
    let cleared := locks.delete fun row =>
      row.name == name && decide (row.expiresAt ≤ now / second)
    match cleared.insert ⟨name, owner, token, now / second, expires / second⟩ with
    | some locks => (.ok ⟨name, owner, token, expires⟩, locks)
    -- the transaction is rolled back
    | none => (.error .lockHeld, locks)

namespace Lock

def refreshes (lock : Lock) (now : Int) (row : LockRow) : Bool :=
  row.name == lock.name && row.token == lock.token && decide (now / second < row.expiresAt)

def refresh (lock : Lock) (locks : Locks) (ttl now : Int) : Except ClusterError Lock × Locks :=
  let expires := now + effectiveTTL ttl
  if locks.affected (lock.refreshes now) = 0 then (.error .lockHeld, locks)
  else
    (.ok { lock with expiresAt := expires },
      locks.setExpiry (lock.refreshes now) (expires / second))

def release (lock : Lock) (locks : Locks) : Locks :=
  locks.delete fun row => row.name == lock.name && row.token == lock.token

end Lock

def Member.healthy (member : Member) (now : Int) : Bool :=
  decide ((now - degradedAfter) / second ≤ member.lastSeen) && !member.stale

namespace Store

def heartbeatUpdate (store : Store) (hb : Heartbeat) (now : Int) : Store :=
  { store with
    nodes := store.nodes.update (fun row => row.nodeID == hb.nodeID)
      (fun row =>
        { row with
          address := hb.address, appVersion := hb.appVersion, commitHash := hb.commitHash
          secrets := hb.secrets, lastSeen := now / second, version := row.version + 1 })
      fun _ listed row => by
        rw [List.mem_singleton] at listed
        rw [listed] }

def heartbeat (store : Store) (hb : Heartbeat) (now : Int) : Except ClusterError Unit × Store :=
  if trimSpace hb.nodeID = "" then (.error .heartbeatWithoutNode, store)
  else if 0 < store.nodes.affected fun row => row.nodeID == hb.nodeID then
    (.ok (), store.heartbeatUpdate hb now)
  else
    let started := if hb.startedAt = zeroTime then now else hb.startedAt
    match store.nodes.insert ⟨hb.nodeID, hb.address, hb.appVersion, hb.commitHash, hb.secrets,
        started / second, now / second, false, 1⟩ with
    | some nodes => (.ok (), { store with nodes := nodes })
    | none => (.ok (), store.heartbeatUpdate hb now)

def markStale (store : Store) (nodeID : String) (stale : Bool) : Store :=
  { store with
    nodes := store.nodes.update (fun row => row.nodeID == nodeID)
      (fun row => { row with stale := stale, version := row.version + 1 })
      fun _ listed row => by
        rw [List.mem_singleton] at listed
        rw [listed] }

def removeNode (store : Store) (nodeID : String) : Store where
  locks := store.locks.delete fun row => row.name == primaryLockName && row.owner == nodeID
  nodes := store.nodes.delete fun row => row.nodeID == nodeID

def healthyNodes (store : Store) (now : Int) : List String :=
  (store.nodes.selectOrdered (fun row => row.healthy now)
    fun first next => first.nodeID ≤ next.nodeID).map Member.nodeID

def lowestHealthyNode (store : Store) (now : Int) : String :=
  (((store.nodes.select fun row => row.healthy now).map Member.nodeID).min?).getD ""

def lease (store : Store) : Option LockRow :=
  store.locks.find fun row => row.name == primaryLockName

def claimLease (store : Store) (nodeID token : String) (now : Int) : Bool × Store :=
  let cleared := store.locks.delete fun row => row.name == primaryLockName
  match cleared.insert ⟨primaryLockName, nodeID, token, now / second,
      (now + primaryLeaseTTL) / second⟩ with
  | some locks => (true, { store with locks := locks })
  | none => (false, { store with locks := cleared })

def electPrimary (store : Store) (nodeID token : String) (now : Int) :
    Except ClusterError Bool × Store :=
  if trimSpace nodeID = "" then (.error .electionWithoutNode, store)
  else
    let contest :=
      let eligible := store.lowestHealthyNode now
      if eligible ≠ "" ∧ eligible ≠ nodeID then (.ok false, store)
      else
        let claimed := store.claimLease nodeID token now
        (.ok claimed.1, claimed.2)
    match store.lease with
    | none => contest
    | some row =>
      if now / second < row.expiresAt then
        if row.owner ≠ nodeID then (.ok false, store)
        else
          (.ok true,
            { store with
              locks := store.locks.setExpiry
                (fun row => row.name == primaryLockName && row.owner == nodeID)
                ((now + primaryLeaseTTL) / second) })
      else contest

def primaryID (store : Store) (now : Int) : Option String :=
  match store.lease with
  | none => none
  | some row => if row.expiresAt ≤ now / second then none else some row.owner

end Store

end Cashp.Cluster
