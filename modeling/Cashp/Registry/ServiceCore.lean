import Cashp.Kit.DocketCore
import Cashp.Nodes.DispatchCore
import Cashp.Registry.StoreCore

/-!
The node service: the lifecycle (`state.go`), enrollment and authentication (`enroll.go`) and the
handles on the control plane (`cluster.go`), without the audit lines.
-/

namespace Cashp.Registry

open Kit Kit.Program Kit.Duration
open Nodes (Fault Link Role State maxReasonLen truncate unixOf validateNodeID)

variable {Reply Value : Type}

def query (operation : String) (stmt : Stmt (Except Fault Reply)) : Service Reply := do
  match ← perform stmt with
  | .ok reply => pure reply
  | .error _ => .fail (.internal operation)

def clock : Service Int := perform (.tasks .clock)

def dispatching (program : Nodes.Service Value) : Service Value :=
  program.translate .tasks .node

def get (nodeID : String) : Service Node := do
  ofExcept ((validateNodeID nodeID).mapError .node)
  match ← query "load node" (.node nodeID) with
  | some row => pure (scanNodeRow row)
  | none => .fail (.node .nodeNotFound)

def list : Service (List Node) := do
  let rows ← query "list nodes" .list
  pure (rows.map scanNodeRow)

/-- `UpdateVersioned`, with `wrapVersioned` around it. -/
def updateVersioned (operation : String) (change : NodeUpdate) (id : String) (version : Int) :
    Service Unit := do
  let affected ← query operation (.updateNode change id (some version))
  refuse (affected = 0) (.node .concurrentUpdate)

def transition (nodeID : String) (target : State) (reason : String) : Service Node := do
  let node ← get nodeID
  refuse (canTransition node.state target = false) (.node .invalidTransition)
  let now ← clock
  let clean := truncate reason maxReasonLen
  updateVersioned "update node state" (.state target clean (unixOf now)) node.id node.version
  pure { node with
    state := target, stateReason := clean, stateChangedAt := now, updatedAt := now
    version := node.version + 1 }

/-- `Transition`, which leaves removal to `remove`. -/
def transitionTo (nodeID : String) (target : State) (reason : String) : Service Node := do
  refuse (target = .removed) .confirmationRequired
  transition nodeID target reason

def recordContact (id : Identity) (agentVersion : String) : Service Node := do
  let node := id.node
  let now ← clock
  let trimmed := trimSpace agentVersion
  refuse (trimmed ≠ "" ∧ isPrintableToken trimmed = false) .invalidFacts
  let version := truncate agentVersion maxVersionLen
  let version := if version = "" then node.agentVersion else version
  let _ ← query "record node contact" (.updateNode (.contact (unixOf now) version) node.id none)
  let node := { node with
    lastSeen := now, agentVersion := version, updatedAt := now, version := node.version + 1 }
  if node.maintenance ∨ node.state = .drained ∨ node.state = .online then pure node
  else if canTransition node.state .online = false then pure node
  else transition node.id .online "contact"

structure FlagUpdate where
  cordoned : Option Bool := none
  maintenance : Option Bool := none

def setFlags (nodeID : String) (upd : FlagUpdate) (reason : String) : Service Node := do
  let node ← get nodeID
  refuse (node.state = .removed) (.node .invalidTransition)
  let cordoned := upd.cordoned.getD node.cordoned
  let maintenance := upd.maintenance.getD node.maintenance
  let now ← clock
  let clean := truncate reason maxReasonLen
  updateVersioned "update node scheduling flags" (.flags cordoned maintenance clean (unixOf now))
    node.id node.version
  pure { node with
    cordoned := cordoned, maintenance := maintenance, stateReason := clean, updatedAt := now
    version := node.version + 1 }

def cordon (nodeID reason : String) : Service Node :=
  setFlags nodeID { cordoned := some true } reason

def uncordon (nodeID : String) : Service Node := setFlags nodeID { cordoned := some false } ""

def setMaintenance (nodeID : String) (on : Bool) (reason : String) : Service Node :=
  setFlags nodeID { maintenance := some on } reason

structure DrainResult where
  node : Node
  cancelledTasks : Nat

def drain (nodeID reason : String) : Service DrainResult := do
  let node ← get nodeID
  refuse (canTransition node.state .drained = false) (.node .invalidTransition)
  let _ ← setFlags nodeID { cordoned := some true } reason
  let cancelled ← dispatching (Nodes.cancelQueued nodeID "node drained")
  let drained ← transition nodeID .drained reason
  pure ⟨drained, cancelled⟩

structure RemoveRequest where
  nodeID : String
  confirm : Bool
  reason : String

def dropMember (node : Node) : Service Unit :=
  if node.role = .cluster then query "remove cluster member" (.control (.removeNode node.id))
  else pure ()

def remove (req : RemoveRequest) : Service Node := do
  refuse (req.confirm = false) .confirmationRequired
  let node ← get req.nodeID
  refuse (canTransition node.state .removed = false) (.node .invalidTransition)
  let now ← clock
  match ← perform (.retire (unixOf now) node.id) with
  | .error _ => .fail .aborted
  | .ok () => do
    let _ ← dispatching (Nodes.cancelQueued node.id "node removed")
    dropMember node
    transition node.id .removed req.reason

def offlineAfter : Int := 5 * minute

structure SweepResult where
  degraded : Nat
  offline : Nat

def wantedState (age : Int) : Option State :=
  if offlineAfter ≤ age then some .offline
  else if Cluster.degradedAfter ≤ age then some .degraded
  else none

def reclassified (node : Node) (now : Int) : Option State :=
  if node.maintenance then none
  else if node.state ∉ [State.online, .degraded, .enrolled] then none
  else
    let reference := if node.lastSeen = zeroTime then node.enrolledAt else node.lastSeen
    if reference = zeroTime then none
    else (wantedState (between reference now)).filter fun wanted => node.state ≠ wanted

/-- The loop of `SweepLiveness`. Its result is lost with an error. -/
def sweepEach (now : Int) : List Node → SweepResult → Service SweepResult
  | [], result => pure result
  | node :: rest, result =>
    match reclassified node now with
    | none => sweepEach now rest result
    | some wanted => do
      let _ ← transition node.id wanted "liveness sweep"
      sweepEach now rest
        (if wanted = .offline then { result with offline := result.offline + 1 }
        else { result with degraded := result.degraded + 1 })

def sweepLiveness : Service SweepResult := do
  let nodes ← list
  let now ← clock
  sweepEach now nodes ⟨0, 0⟩

def checkBound (req : EnrollmentRequest) : Service Unit :=
  if req.nodeID = "" then pure ()
  else do
    let node ← get req.nodeID
    refuse (node.role ≠ req.role) (.node .invalidRole)
    refuse (node.state = .removed) (.node .invalidTransition)

def issueEnrollmentToken (setup : Setup) (req : EnrollmentRequest) (drawn : Drawn) :
    Service IssuedEnrollment := do
  refuse (req.role.valid = false) (.node .invalidRole)
  checkBound req
  let uses := enrollmentUses req.maxUses
  let ttl := enrollmentTTL req.ttl
  match setup.generateToken (tokenPrefixFor req.role) drawn.body with
  | none => .fail (.internal "generate enrollment token")
  | some (secret, hash) =>
    match drawn.id with
    | none => .fail (.internal "generate enrollment token id")
    | some id => do
      let now ← clock
      query "store enrollment token"
        (.issueToken id hash req.role req.nodeID uses (unixOf (now + ttl)))
      pure ⟨⟨id, req.role, req.nodeID, uses, 0, now + ttl, zeroTime⟩, secret⟩

def rekey (setup : Setup) (nodeID : String) (drawn : Drawn) : Service IssuedEnrollment := do
  let node ← get nodeID
  issueEnrollmentToken setup ⟨node.role, node.id, 0, 0⟩ drawn

def revokeEnrollmentToken (tokenID : String) : Service Unit := do
  let now ← clock
  let _ ← query "revoke enrollment token" (.revokeToken (unixOf now) tokenID)
  pure ()

def expireEnrollmentTokens : Service Nat := do
  let now ← clock
  query "expire enrollment tokens" (.expireTokens (unixOf now))

def enroll (setup : Setup) (req : EnrollRequest) (drawn : Drawn) : Service Enrollment := do
  refuse ((parseToken req.secret).isNone) .enrollmentRejected
  let _ ← ofExcept (validateFacts req.facts)
  let now ← clock
  match ← perform (.enroll ⟨setup, req, now, drawn⟩) with
  | .error _ => .fail .aborted
  | .ok (.error failure) => .fail failure
  | .ok (.ok (node, credential)) =>
    pure ⟨node, credential, if 0 < setup.credTTL then now + setup.credTTL else zeroTime⟩

def credentialNode (nodeID : String) : Service Node := do
  match ← attempt (get nodeID) with
  | .ok node => pure node
  | .error _ => .fail .credentialRejected

def authenticate (setup : Setup) (secret : String) : Service Identity := do
  match parseToken secret with
  | none => .fail .credentialRejected
  | some (lead, _) => do
    refuse (lead ≠ clusterTokenPrefix ∧ lead ≠ managedTokenPrefix) .credentialRejected
    let hash := setup.digest secret
    let now ← clock
    match ← query "load node credential" (.credential hash) with
    | none => .fail .credentialRejected
    | some row => do
      refuse (setup.digest row.tokenHash ≠ setup.digest hash) .credentialRejected
      refuse (row.revokedAt ≠ 0) .credentialRejected
      refuse (row.expiresAt ≠ 0 ∧ row.expiresAt ≤ now / second) .credentialRejected
      let node ← credentialNode row.nodeID
      refuse (node.state = .removed) .credentialRejected
      refuse (lead ≠ tokenPrefixFor node.role) .credentialRejected
      query "record credential use" (.useCredential (unixOf now) row.id)
      pure ⟨node, row.id⟩

def revokeCredentials (nodeID : String) : Service Nat := do
  ofExcept ((validateNodeID nodeID).mapError .node)
  let now ← clock
  query "revoke node credentials" (.revokeCredentials (unixOf now) nodeID)

structure ControlPlane where
  nodeID : String

def controlPlaneFor (node : Node) : Except RegistryError ControlPlane :=
  if node.role ≠ .cluster then .error .notClusterNode
  else if node.state = .removed then .error (.node .invalidTransition)
  else .ok ⟨node.id⟩

def controlPlane (nodeID : String) : Service ControlPlane := do
  let node ← get nodeID
  ofExcept (controlPlaneFor node)

def controlled (operation : String) (stmt : ControlStmt (Except Cluster.ClusterError Value)) :
    Service Value := do
  match ← query operation (.control stmt) with
  | .ok value => pure value
  | .error _ => .fail (.internal operation)

namespace ControlPlane

def heartbeat (handle : ControlPlane) (hb : Cluster.Heartbeat) : Service Unit := do
  let now ← clock
  controlled "cluster heartbeat" (.heartbeat { hb with nodeID := handle.nodeID } now)

def acquireLock (handle : ControlPlane) (name : String) (ttl : Int) (drawn : String) :
    Service Cluster.Lock := do
  let now ← clock
  controlled "acquire cluster lock" (.acquireLock name handle.nodeID ttl drawn now)

def electPrimary (handle : ControlPlane) (drawn : String) : Service Bool := do
  let now ← clock
  controlled "elect cluster primary" (.electPrimary handle.nodeID drawn now)

end ControlPlane

def refreshLock (lock : Cluster.Lock) (ttl : Int) : Service Cluster.Lock := do
  let now ← clock
  controlled "refresh cluster lock" (.refresh lock ttl now)

def releaseLock (lock : Cluster.Lock) : Service Unit :=
  query "release cluster lock" (.control (.release lock))

inductive Call
  | tasks (request : Nodes.Request)
  | get (nodeID : String)
  | transitionTo (nodeID : String) (target : State) (reason : String)
  | recordContact (id : Identity) (agentVersion : String)
  | cordon (nodeID reason : String)
  | uncordon (nodeID : String)
  | setMaintenance (nodeID : String) (on : Bool) (reason : String)
  | drain (nodeID reason : String)
  | remove (req : RemoveRequest)
  | sweepLiveness
  | issueEnrollmentToken (req : EnrollmentRequest) (drawn : Drawn)
  | rekey (nodeID : String) (drawn : Drawn)
  | revokeEnrollmentToken (tokenID : String)
  | expireEnrollmentTokens
  | enroll (req : EnrollRequest) (drawn : Drawn)
  | authenticate (secret : String)
  | revokeCredentials (nodeID : String)
  | controlPlane (nodeID : String)
  | heartbeat (handle : ControlPlane) (hb : Cluster.Heartbeat)
  | acquireLock (handle : ControlPlane) (name : String) (ttl : Int) (drawn : String)
  | electPrimary (handle : ControlPlane) (drawn : String)
  | refreshLock (lock : Cluster.Lock) (ttl : Int)
  | releaseLock (lock : Cluster.Lock)

inductive Answer
  | tasks (answer : Nodes.Answer)
  | node (node : Node)
  | drained (result : DrainResult)
  | removed (node : Node)
  | swept (result : SweepResult)
  | issued (issued : IssuedEnrollment)
  | enrolled (enrollment : Enrollment)
  | authenticated (id : Identity)
  | handle (handle : ControlPlane)
  | lock (lock : Cluster.Lock)
  | elected (won : Bool)
  | count (count : Nat)
  | finished

def answering (wrap : Value → Answer) (program : Service Value) : Service Answer := do
  let value ← program
  pure (wrap value)

def Call.serve (json : Nodes.Json) (setup : Setup) : Call → Service Answer
  | .tasks request => answering .tasks (dispatching (request.serve json))
  | .get nodeID => answering .node (Registry.get nodeID)
  | .transitionTo nodeID target reason =>
    answering .node (Registry.transitionTo nodeID target reason)
  | .recordContact id agentVersion => answering .node (Registry.recordContact id agentVersion)
  | .cordon nodeID reason => answering .node (Registry.cordon nodeID reason)
  | .uncordon nodeID => answering .node (Registry.uncordon nodeID)
  | .setMaintenance nodeID on reason =>
    answering .node (Registry.setMaintenance nodeID on reason)
  | .drain nodeID reason => answering .drained (Registry.drain nodeID reason)
  | .remove req => answering .removed (Registry.remove req)
  | .sweepLiveness => answering .swept Registry.sweepLiveness
  | .issueEnrollmentToken req drawn =>
    answering .issued (Registry.issueEnrollmentToken setup req drawn)
  | .rekey nodeID drawn => answering .issued (Registry.rekey setup nodeID drawn)
  | .revokeEnrollmentToken tokenID =>
    answering (fun _ => .finished) (Registry.revokeEnrollmentToken tokenID)
  | .expireEnrollmentTokens => answering .count Registry.expireEnrollmentTokens
  | .enroll req drawn => answering .enrolled (Registry.enroll setup req drawn)
  | .authenticate secret => answering .authenticated (Registry.authenticate setup secret)
  | .revokeCredentials nodeID => answering .count (Registry.revokeCredentials nodeID)
  | .controlPlane nodeID => answering .handle (Registry.controlPlane nodeID)
  | .heartbeat handle hb => answering (fun _ => .finished) (handle.heartbeat hb)
  | .acquireLock handle name ttl drawn => answering .lock (handle.acquireLock name ttl drawn)
  | .electPrimary handle drawn => answering .elected (handle.electPrimary drawn)
  | .refreshLock lock ttl => answering .lock (Registry.refreshLock lock ttl)
  | .releaseLock lock => answering (fun _ => .finished) (Registry.releaseLock lock)

/-- The clock, the table of actions of a restarted process and the connection to the database change
as they please. -/
inductive Happening
  | call (request : Call)
  | advance (thread : Nat)
  | clock (reading : Clock)
  | actions (table : List Nodes.Registered)
  | link (state : Link)

def Happening.turn : Happening → Kit.Turn Realm Call
  | .call request => .call request
  | .advance thread => .advance thread
  | .clock reading => .disturb fun realm => { realm with clock := reading }
  | .actions table => .disturb fun realm => { realm with actions := table }
  | .link state => .disturb fun realm => { realm with link := state }

def Realm.installed (clock : Clock) : Realm where
  tables := .empty
  tasks := .empty
  actions := Nodes.coreActions.map Nodes.ActionSpec.registered
  cluster := .empty
  clock := clock
  link := .up

abbrev Fleet (Event : Type) := Docket Stmt RegistryError Answer Realm Event Call

namespace Fleet

variable {Event : Type} (entry : {Reply : Type} → Stmt Reply → Realm → Option Event)
  (json : Nodes.Json) (setup : Setup)

def take (happening : Happening) (fleet : Fleet Event) : Fleet Event :=
  Docket.take entry (Call.serve json setup) happening.turn fleet

def opened (clock : Clock) : Fleet Event := Docket.opened (Realm.installed clock)

def Fits (fine : Call → List Event → Event → Prop) (happening : Happening)
    (fleet : Fleet Event) : Prop :=
  Docket.Fits entry fine happening.turn fleet

instance {entry : {Reply : Type} → Stmt Reply → Realm → Option Event}
    {fine : Call → List Event → Event → Prop}
    [decides : ∀ call events event, Decidable (fine call events event)] (happening : Happening)
    (fleet : Fleet Event) : Decidable (fleet.Fits entry fine happening) :=
  inferInstanceAs (Decidable (Docket.Fits entry fine happening.turn fleet))

end Fleet

end Cashp.Registry
