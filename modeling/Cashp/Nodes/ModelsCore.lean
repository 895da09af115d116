import Cashp.Kit.Duration
import Cashp.Kit.Text

/-!
Nodes, their actions and the tasks that ask for them (`nodes.go`, `dispatch.go`, `validate.go`).
Instants are nanoseconds; the columns hold whole seconds.
-/

namespace Cashp.Nodes

open Kit Kit.Duration

inductive NodeError
  | nodeNotFound
  | nodeExists
  | invalidNodeID
  | invalidRole
  | concurrentUpdate
  | invalidTransition
  | actionNotAllowed
  | unknownAction
  | payloadTooLarge
  | invalidPayload
  | nodeNotSchedulable
  | taskNotFound
  | taskNotClaimed
  /-- `wrapInternal`, with the operation that failed. -/
  | internal (operation : String)
deriving DecidableEq

def maxNodeIDLen : Nat := 63
def minNodeIDLen : Nat := 2
def maxNodeNameLen : Nat := 64
def maxActionLen : Nat := 64
def maxReasonLen : Nat := 200
def maxResultLen : Nat := 4 * 1024
def maxErrorLen : Nat := 1024

def stripControlChars (text : String) : String :=
  String.ofList (text.toList.filter fun char =>
    char = '\t' || char = '\n' || char = '\r' || !(char.toNat < 0x20 || char.toNat = 0x7f))

def fitting : Nat → List Char → List Char
  | _, [] => []
  | room, char :: rest =>
    if char.utf8Size ≤ room then char :: fitting (room - char.utf8Size) rest else []

/-- A character that the limit would cut through is dropped; the source keeps its first bytes. -/
def truncate (text : String) (limit : Nat) : String :=
  let clean := stripControlChars (trimSpace text)
  if clean.utf8ByteSize ≤ limit then clean else String.ofList (fitting limit clean.toList)

def isLowerOrDigit (char : Char) : Bool :=
  (decide ('a' ≤ char) && decide (char ≤ 'z')) || (decide ('0' ≤ char) && decide (char ≤ '9'))

def separated : Option Char → List Char → Bool
  | _, [] => true
  | previous, char :: rest =>
    (if isLowerOrDigit char then true
    else if char = '-' || char = '.' then
      previous.isSome && !rest.isEmpty && previous != some '-' && previous != some '.'
    else false) && separated (some char) rest

def validateNodeID (id : String) : Except NodeError Unit :=
  if id.utf8ByteSize < minNodeIDLen ∨ maxNodeIDLen < id.utf8ByteSize then .error .invalidNodeID
  else if separated none id.toList then .ok () else .error .invalidNodeID

def validateActionName (action : String) : Except NodeError Unit :=
  let chars := action.toList
  if action = "" ∨ maxActionLen < action.utf8ByteSize then .error .unknownAction
  else if chars.all (fun char => isLowerOrDigit char || char = '_' || char = '.') ∧
      chars.head? ≠ some '.' ∧ chars.getLast? ≠ some '.' ∧ chars.count '.' = 1 then .ok ()
  else .error .unknownAction

inductive Role
  | cluster
  | managed
  | other (name : String)
deriving DecidableEq

def Role.valid : Role → Bool
  | .cluster | .managed => true
  | .other _ => false

inductive State
  | pending
  | enrolled
  | online
  | degraded
  | offline
  | drained
  | removed
deriving DecidableEq

structure Node where
  id : String
  role : Role
  state : State
  cordoned : Bool
  maintenance : Bool

def Node.schedulable (node : Node) : Bool :=
  if node.cordoned || node.maintenance then false
  else match node.state with
    | .enrolled | .online | .degraded => true
    | _ => false

def defaultMaxPayloadBytes : Int := 16 * 1024
def maxPayloadBytesLimit : Int := 256 * 1024
def maxClaimBatch : Int := 32
def defaultTaskTimeout : Int := 5 * minute
def maxTaskTimeout : Int := 60 * minute
def defaultMaxAttempts : Int := 3
def maxTaskAttempts : Int := 10
def retryBaseDelay : Int := 5 * second
def retryMaxDelay : Int := 5 * minute

structure ActionSpec where
  name : String
  description : String
  roles : List Role
  maxPayloadBytes : Int
  timeout : Int
  maxAttempts : Int
deriving DecidableEq

def ActionSpec.allows (spec : ActionSpec) (role : Role) : Bool :=
  spec.roles.isEmpty || spec.roles.contains role

def ActionSpec.normalized (spec : ActionSpec) : ActionSpec :=
  let timeout := if spec.timeout ≤ 0 then defaultTaskTimeout else spec.timeout
  let attempts := if spec.maxAttempts ≤ 0 then defaultMaxAttempts else spec.maxAttempts
  { spec with
    description := truncate spec.description maxReasonLen
    maxPayloadBytes :=
      if spec.maxPayloadBytes = 0 then defaultMaxPayloadBytes else spec.maxPayloadBytes
    timeout := if maxTaskTimeout < timeout then maxTaskTimeout else timeout
    maxAttempts := if maxTaskAttempts < attempts then maxTaskAttempts else attempts }

theorem ActionSpec.normalized_attempts (spec : ActionSpec) :
    1 ≤ spec.normalized.maxAttempts ∧ spec.normalized.maxAttempts ≤ maxTaskAttempts := by
  simp only [normalized, maxTaskAttempts, defaultMaxAttempts]
  omega

structure Registered where
  spec : ActionSpec
  budget : 1 ≤ spec.maxAttempts ∧ spec.maxAttempts ≤ maxTaskAttempts

def ActionSpec.registered (spec : ActionSpec) : Registered :=
  ⟨spec.normalized, spec.normalized_attempts⟩

def sameAction (first second : ActionSpec) : Bool := first = second

def coreActions : List ActionSpec :=
  [{ name := "agent.ping", description := "Liveness probe answered by the node", roles := []
     maxPayloadBytes := 0, timeout := 30 * second, maxAttempts := 1 },
   { name := "agent.collect_facts"
     description := "Ask the node to re-report its capability inventory", roles := []
     maxPayloadBytes := 0, timeout := 2 * minute, maxAttempts := 0 },
   { name := "agent.upgrade", description := "Ask a managed node to upgrade its agent binary"
     roles := [.managed], maxPayloadBytes := 0, timeout := 10 * minute, maxAttempts := 0 },
   { name := "cluster.reload_config"
     description := "Ask a cluster node to reload its configuration", roles := [.cluster]
     maxPayloadBytes := 0, timeout := minute, maxAttempts := 0 }]

inductive Decoded
  | failed
  | null
  | object (trailing : Bool)

structure Json where
  decode : String → Decoded
  compact : String → Option String

def normalizePayload (json : Json) (raw : String) (limit : Int) : Except NodeError String :=
  let limit := if limit ≤ 0 then defaultMaxPayloadBytes else limit
  if raw = "" then .ok "\x7b\x7d"
  else if limit < raw.utf8ByteSize then .error .payloadTooLarge
  else match json.decode raw with
    | .object false =>
      match json.compact raw with
      | none => .error .invalidPayload
      | some text => if limit < text.utf8ByteSize then .error .payloadTooLarge else .ok text
    | _ => .error .invalidPayload

inductive TaskState
  | queued
  | dispatched
  | succeeded
  | failed
  | cancelled
deriving DecidableEq

def TaskState.terminal : TaskState → Bool
  | .succeeded | .failed | .cancelled => true
  | _ => false

structure TaskRow where
  id : String
  nodeID : String
  action : String
  payload : String
  state : TaskState
  attempts : Int
  maxAttempts : Int
  timeoutSeconds : Int
  createdBy : String
  createdAt : Int
  nextAttemptAt : Int
  claimedAt : Int
  deadlineAt : Int
  finishedAt : Int
  exitCode : Int
  result : String
  error : String
  version : Int
deriving DecidableEq

structure Task where
  id : String
  nodeID : String
  action : String
  payload : String
  state : TaskState
  attempts : Int
  maxAttempts : Int
  timeout : Int
  createdBy : String
  createdAt : Int
  nextAttemptAt : Int
  claimedAt : Int
  deadlineAt : Int
  finishedAt : Int
  exitCode : Int
  result : String
  error : String
  version : Int

def Task.terminal (task : Task) : Bool := task.state.terminal

def unixOrZero (seconds : Int) : Int := if seconds ≤ 0 then zeroTime else seconds * second

def unixOf (instant : Int) : Int := if instant = zeroTime then 0 else instant / second

def scanTaskRow (row : TaskRow) : Task where
  id := row.id
  nodeID := row.nodeID
  action := row.action
  payload := row.payload
  state := row.state
  attempts := row.attempts
  maxAttempts := row.maxAttempts
  timeout := row.timeoutSeconds * second
  createdBy := row.createdBy
  createdAt := unixOrZero row.createdAt
  nextAttemptAt := unixOrZero row.nextAttemptAt
  claimedAt := unixOrZero row.claimedAt
  deadlineAt := unixOrZero row.deadlineAt
  finishedAt := unixOrZero row.finishedAt
  exitCode := row.exitCode
  result := row.result
  error := row.error
  version := row.version

def retryRounds : Nat → Int → Int
  | 0, delay => if retryMaxDelay < delay then retryMaxDelay else delay
  | rounds + 1, delay =>
    if retryMaxDelay ≤ delay * 2 then retryMaxDelay else retryRounds rounds (delay * 2)

def retryDelay (attempts : Int) : Int :=
  let attempts := if attempts < 1 then 1 else attempts
  retryRounds (attempts - 1).toNat retryBaseDelay

structure DispatchRequest where
  nodeID : String
  action : String
  payload : String
  timeout : Int
  maxAttempts : Int
  actor : String

structure TaskResult where
  taskID : String
  success : Bool
  exitCode : Int
  result : String
  error : String

end Cashp.Nodes
