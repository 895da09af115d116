import Cashp.Kit.RecordCore
import Cashp.Nodes.StoreCore

/-!
Dispatching work to nodes (`dispatch.go`), without the audit lines and the wake-up push.
-/

namespace Cashp.Nodes

open Kit Kit.Program Kit.Duration

variable {Reply Value : Type}

def query (operation : String) (stmt : Stmt (Except Fault Reply)) : Service Reply := do
  match ← perform stmt with
  | .ok reply => pure reply
  | .error _ => .fail (.internal operation)

def clock : Service Int := perform .clock

def registerAction (spec : ActionSpec) : Service Unit := do
  ofExcept (validateActionName spec.name)
  refuse (spec.roles.any fun role => !role.valid) .invalidRole
  refuse (spec.maxPayloadBytes < 0 ∨ maxPayloadBytesLimit < spec.maxPayloadBytes) .payloadTooLarge
  let stored ← perform (.register spec.registered)
  refuse (stored = false) .nodeExists

def action (name : String) : Service Registered := do
  match ← perform (.action name) with
  | some registered => pure registered
  | none => .fail .unknownAction

inductive UpdateError
  | conflict
  | fault (cause : Fault)

def updateVersioned (change : TaskUpdate) (id : String) (version : Int) :
    Service (Except UpdateError Unit) := do
  match ← perform (.update change id version) with
  | .error cause => pure (.error (.fault cause))
  | .ok affected => pure (if affected = 0 then .error .conflict else .ok ())

def wrapVersioned (operation : String) : Except UpdateError Unit → Service Unit
  | .ok () => pure ()
  | .error .conflict => .fail .concurrentUpdate
  | .error (.fault _) => .fail (.internal operation)

def get (nodeID : String) : Service Node := do
  ofExcept (validateNodeID nodeID)
  match ← query "load node" (.node nodeID) with
  | some node => pure node
  | none => .fail .nodeNotFound

/-- `drawn` is the identifier the random source comes up with, if it does. -/
def dispatch (json : Json) (req : DispatchRequest) (drawn : Option String) : Service Task := do
  let node ← get req.nodeID
  let registered ← action req.action
  let spec := registered.spec
  refuse (spec.allows node.role = false) .actionNotAllowed
  refuse (node.schedulable = false) .nodeNotSchedulable
  let payload ← ofExcept (normalizePayload json req.payload spec.maxPayloadBytes)
  let timeout := if 0 < req.timeout then req.timeout else spec.timeout
  let timeout := if maxTaskTimeout < timeout then maxTaskTimeout else timeout
  let attempts := if 0 < req.maxAttempts then req.maxAttempts else spec.maxAttempts
  let attempts := if maxTaskAttempts < attempts then maxTaskAttempts else attempts
  match drawn with
  | none => .fail (.internal "generate task id")
  | some id => do
    let now ← clock
    let createdBy := truncate req.actor maxNodeNameLen
    query "store node task" (.insertTask
      { id := id, nodeID := node.id, action := spec.name, payload := payload
        state := .queued, attempts := 0, maxAttempts := attempts
        timeoutSeconds := timeout.tdiv second, createdBy := createdBy, createdAt := unixOf now
        nextAttemptAt := unixOf now, claimedAt := 0, deadlineAt := 0, finishedAt := 0
        exitCode := 0, result := "", error := "", version := 1 })
    pure
      { id := id, nodeID := node.id, action := spec.name, payload := payload
        state := .queued, attempts := 0, maxAttempts := attempts, timeout := timeout
        createdBy := createdBy, createdAt := now, nextAttemptAt := now
        claimedAt := zeroTime, deadlineAt := zeroTime, finishedAt := zeroTime
        exitCode := 0, result := "", error := "", version := 1 }

def claimEach (now : Int) : List Task → Service (List Task)
  | [] => pure []
  | task :: rest => do
    let deadline := now + task.timeout
    match ← updateVersioned (.claim (unixOf now) (unixOf deadline)) task.id task.version with
    | .error .conflict => claimEach now rest
    | .error (.fault _) => .fail (.internal "claim node task")
    | .ok () =>
      let claimed ← claimEach now rest
      pure ({ task with
        state := .dispatched, attempts := task.attempts + 1, claimedAt := now
        deadlineAt := deadline, version := task.version + 1 } :: claimed)

def claim (node : Node) (limit : Int) : Service (List Task) := do
  let limit := if limit ≤ 0 ∨ maxClaimBatch < limit then maxClaimBatch else limit
  refuse (node.state = .removed ∨ node.state = .drained) .nodeNotSchedulable
  let now ← clock
  let candidates ← query "list claimable tasks" (.claimable node.id (unixOf now) limit.toNat)
  claimEach now (candidates.map scanTaskRow)

def task (id : String) : Service Task := do
  match ← query "load node task" (.task id) with
  | some row => pure (scanTaskRow row)
  | none => .fail .taskNotFound

def taskFor (nodeID taskID : String) : Service Task := do
  match ← query "load node task" (.taskOf taskID nodeID) with
  | some row => pure (scanTaskRow row)
  | none => .fail .taskNotFound

def failAttempt (task : Task) (exitCode : Int) (result failure : String) (now : Int) :
    Service Task := do
  if task.attempts < task.maxAttempts then
    let next := now + retryDelay task.attempts
    let stored ← updateVersioned (.requeue (unixOf next) exitCode result failure) task.id
      task.version
    wrapVersioned "requeue node task" stored
    pure { task with
      state := .queued, nextAttemptAt := next, claimedAt := zeroTime, deadlineAt := zeroTime
      exitCode := exitCode, result := result, error := failure, version := task.version + 1 }
  else
    let stored ← updateVersioned (.fail (unixOf now) exitCode result failure) task.id task.version
    wrapVersioned "fail node task" stored
    pure { task with
      state := .failed, finishedAt := now, claimedAt := zeroTime, deadlineAt := zeroTime
      exitCode := exitCode, result := result, error := failure, version := task.version + 1 }

def report (node : Node) (res : TaskResult) : Service Task := do
  let task ← taskFor node.id res.taskID
  refuse (task.state ≠ .dispatched) .taskNotClaimed
  let result := truncate res.result maxResultLen
  let failure := truncate res.error maxErrorLen
  let now ← clock
  if res.success then
    let stored ← updateVersioned (.succeed (unixOf now) res.exitCode result) task.id task.version
    wrapVersioned "record task result" stored
    pure { task with
      state := .succeeded, finishedAt := now, exitCode := res.exitCode, result := result
      error := "", version := task.version + 1 }
  else
    let failure := if failure = "" then "node reported failure" else failure
    failAttempt task res.exitCode result failure now

/-- The loop of `ReapTasks`. Its count is lost with an error. -/
def reapEach (now : Int) : List Task → Service Nat
  | [] => pure 0
  | task :: rest => do
    match ← attempt (failAttempt task 0 task.result "attempt timed out" now) with
    | .ok _ => do
      let reaped ← reapEach now rest
      pure (reaped + 1)
    | .error .concurrentUpdate => reapEach now rest
    | .error failure => .fail failure

def reapTasks : Service Nat := do
  let now ← clock
  let stale ← query "list timed out tasks" (.overdue (unixOf now))
  reapEach now (stale.map scanTaskRow)

def cancelTask (taskID reason : String) : Service Task := do
  let task ← task taskID
  refuse (task.terminal = true) .invalidTransition
  let now ← clock
  let clean := truncate reason maxReasonLen
  let clean := if clean = "" then "cancelled by operator" else clean
  let stored ← updateVersioned (.cancel (unixOf now) clean) task.id task.version
  wrapVersioned "cancel node task" stored
  pure { task with
    state := .cancelled, finishedAt := now, claimedAt := zeroTime, deadlineAt := zeroTime
    error := clean, version := task.version + 1 }

def cancelQueued (nodeID reason : String) : Service Nat := do
  let now ← clock
  query "cancel queued tasks" (.withdraw (unixOf now) (truncate reason maxReasonLen) nodeID)

inductive Request
  | registerAction (spec : ActionSpec)
  | dispatch (req : DispatchRequest) (drawn : Option String)
  | claim (node : Node) (limit : Int)
  | report (node : Node) (res : TaskResult)
  | reapTasks
  | cancelTask (taskID reason : String)
  | cancelQueued (nodeID reason : String)

inductive Answer
  | registered
  | dispatched (task : Task)
  | claimed (tasks : List Task)
  | reported (task : Task)
  | reaped (count : Nat)
  | cancelled (task : Task)
  | withdrawn (count : Nat)

def Request.serve (json : Json) : Request → Service Answer
  | .registerAction spec => do
    Nodes.registerAction spec
    pure .registered
  | .dispatch req drawn => do
    let task ← Nodes.dispatch json req drawn
    pure (.dispatched task)
  | .claim node limit => do
    let tasks ← Nodes.claim node limit
    pure (.claimed tasks)
  | .report node res => do
    let task ← Nodes.report node res
    pure (.reported task)
  | .reapTasks => do
    let count ← Nodes.reapTasks
    pure (.reaped count)
  | .cancelTask taskID reason => do
    let task ← Nodes.cancelTask taskID reason
    pure (.cancelled task)
  | .cancelQueued nodeID reason => do
    let count ← Nodes.cancelQueued nodeID reason
    pure (.withdrawn count)

/-- Clocks, the table of nodes, the table of actions of a restarted process and the connection to
the database change as they please. -/
inductive Happening
  | call (request : Request)
  | advance (thread : Nat)
  | clock (now : Int)
  | nodes (table : Registry)
  | actions (table : List Registered)
  | link (state : Link)

def Happening.move (json : Json) : Happening → Move Stmt NodeError Answer World
  | .call request => .spawn (request.serve json)
  | .advance thread => .advance thread
  | .clock now => .disturb fun world => { world with now := now }
  | .nodes table => .disturb fun world => { world with nodes := table }
  | .actions table => .disturb fun world => { world with actions := table }
  | .link state => .disturb fun world => { world with link := state }

structure Attempt where
  taskID : String
  number : Int
deriving DecidableEq

def claimCommitted {Reply : Type} : Stmt Reply → World → Option Attempt
  | .update (.claim claimedAt deadlineAt) id version, world =>
    if world.commits then
      (world.tasks.find (TaskUpdate.selects (.claim claimedAt deadlineAt) id version)).map
        fun row => ⟨row.id, row.attempts + 1⟩
    else none
  | _, _ => none

abbrev Fleet := Chronicle Stmt NodeError Answer World Attempt

def Fleet.take (json : Json) (happening : Happening) (fleet : Fleet) : Fleet :=
  fleet.play claimCommitted (happening.move json)

def World.installed (now : Int) : World :=
  ⟨.empty, coreActions.map ActionSpec.registered, .empty, now, .up⟩

end Cashp.Nodes
