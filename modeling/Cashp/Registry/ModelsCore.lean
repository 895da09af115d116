import Mathlib.Data.List.Sort
import Cashp.Nodes.ModelsCore

/-!
The life of a node (`nodes.go`, `state.go`, `enroll.go`, `validate.go`, `token.go`). Instants are
nanoseconds; the columns hold whole seconds, and zero for nothing.
-/

namespace Cashp.Registry

open Kit Kit.Duration
open Nodes (NodeError Role State maxNodeNameLen truncate unixOf unixOrZero validateNodeID)

inductive RegistryError
  | node (cause : NodeError)
  | invalidNodeName
  | invalidFacts
  | enrollmentRejected
  | credentialRejected
  | notClusterNode
  | confirmationRequired
  | aborted
deriving DecidableEq

abbrev RegistryError.internal (operation : String) : RegistryError := .node (.internal operation)

def maxAddressLen : Nat := 255
def maxVersionLen : Nat := 32
def maxKernelLen : Nat := 64
def maxHostnameLen : Nat := 253
def maxBackends : Nat := 32
def maxBackendLen : Nat := 24
def maxCPUCores : Int := 4096
def maxMemoryBytes : Int := 2 ^ 50
def maxDiskBytes : Int := 2 ^ 60

def isAlphanumericChar (char : Char) : Bool :=
  (decide ('0' ≤ char) && decide (char ≤ '9')) || (decide ('a' ≤ char) && decide (char ≤ 'z')) ||
    (decide ('A' ≤ char) && decide (char ≤ 'Z'))

def validateNodeName (name : String) : Except RegistryError Unit :=
  if name = "" ∨ maxNodeNameLen < name.utf8ByteSize then .error .invalidNodeName
  else if trimSpace name ≠ name then .error .invalidNodeName
  else if name.toList.all fun char =>
      isAlphanumericChar char || char = ' ' || char = '-' || char = '_' || char = '.' then .ok ()
  else .error .invalidNodeName

def isPrintableToken (text : String) : Bool :=
  text.toList.all fun char => decide (' ' < char) && decide (char ≤ '~')

structure Facts where
  os : String
  arch : String
  kernel : String
  hostname : String
  cpuCores : Int
  memoryBytes : Int
  diskBytes : Int
  backends : List String

def allowedOS : List String := ["linux"]

def allowedArch : List String := ["amd64", "arm64", "arm", "386", "riscv64", "ppc64le", "s390x"]

def allowedBackends : List String :=
  ["docker", "podman", "incus", "libvirt", "qemu", "systemd", "openrc", "apt", "apk", "dnf",
    "pacman"]

def normalizeBackends : List String → List String → Except RegistryError (List String)
  | seen, [] => .ok seen
  | seen, raw :: rest =>
    let backend := lowerText (trimSpace raw)
    if maxBackendLen < backend.utf8ByteSize ∨ backend ∉ allowedBackends then
      .error .invalidFacts
    else if backend ∈ seen then normalizeBackends seen rest
    else normalizeBackends (seen ++ [backend]) rest

def validateFacts (facts : Facts) : Except RegistryError Facts := do
  let kernel := trimSpace facts.kernel
  if kernel = "" ∨ isPrintableToken kernel = false then throw .invalidFacts
  let out : Facts :=
    { facts with
      os := lowerText (trimSpace facts.os), arch := lowerText (trimSpace facts.arch)
      kernel := truncate facts.kernel maxKernelLen
      hostname := lowerText (truncate facts.hostname maxHostnameLen), backends := [] }
  if out.os ∉ allowedOS then throw .invalidFacts
  if out.arch ∉ allowedArch then throw .invalidFacts
  if out.hostname ≠ "" ∧ (validateNodeID out.hostname).isOk = false then throw .invalidFacts
  if out.cpuCores < 1 ∨ maxCPUCores < out.cpuCores then throw .invalidFacts
  if out.memoryBytes < 1 ∨ maxMemoryBytes < out.memoryBytes then throw .invalidFacts
  if out.diskBytes < 0 ∨ maxDiskBytes < out.diskBytes then throw .invalidFacts
  if maxBackends < facts.backends.length then throw .invalidFacts
  let backends ← normalizeBackends [] facts.backends
  pure { out with backends := backends.insertionSort (· ≤ ·) }

def clusterTokenPrefix : String := "adm_"
def managedTokenPrefix : String := "adm_agt_"

def tokenPrefixes : List String := ["adm_agt_", "usr_agt_", "org_agt_", "adm_", "usr_", "org_"]

def tokenRandomLen : Nat := 32

def tokenPrefixFor (role : Role) : String :=
  if role = .cluster then clusterTokenPrefix else managedTokenPrefix

def isAlphanumeric (text : String) : Bool :=
  text.toList.all isAlphanumericChar && !text.isEmpty

def parseToken (plaintext : String) : Option (String × String) :=
  match tokenPrefixes.find? fun lead => lead.toList.isPrefixOf plaintext.toList with
  | none => none
  | some lead =>
    let body := String.ofList (plaintext.toList.drop lead.length)
    if body.utf8ByteSize ≠ tokenRandomLen ∨ isAlphanumeric body = false then none
    else some (lead, body)

structure Setup where
  digest : String → String
  credTTL : Int
  lasting : 0 ≤ credTTL

structure Drawn where
  body : Option String
  id : Option String

def Setup.generateToken (setup : Setup) (lead : String) (body : Option String) :
    Option (String × String) :=
  if lead ∈ tokenPrefixes then body.map fun body => (lead ++ body, setup.digest (lead ++ body))
  else none

structure NodeRow where
  id : String
  name : String
  role : Role
  state : State
  stateReason : String
  address : String
  agentVersion : String
  cordoned : Bool
  maintenance : Bool
  enrolledAt : Int
  lastSeen : Int
  stateChangedAt : Int
  createdAt : Int
  updatedAt : Int
  version : Int
deriving DecidableEq

structure Node where
  id : String
  name : String
  role : Role
  state : State
  stateReason : String
  address : String
  agentVersion : String
  cordoned : Bool
  maintenance : Bool
  enrolledAt : Int
  lastSeen : Int
  stateChangedAt : Int
  createdAt : Int
  updatedAt : Int
  version : Int
deriving DecidableEq

def scanNodeRow (row : NodeRow) : Node where
  id := row.id
  name := row.name
  role := row.role
  state := row.state
  stateReason := row.stateReason
  address := row.address
  agentVersion := row.agentVersion
  cordoned := row.cordoned
  maintenance := row.maintenance
  enrolledAt := unixOrZero row.enrolledAt
  lastSeen := unixOrZero row.lastSeen
  stateChangedAt := unixOrZero row.stateChangedAt
  createdAt := unixOrZero row.createdAt
  updatedAt := unixOrZero row.updatedAt
  version := row.version

def NodeRow.brief (row : NodeRow) : Nodes.Node where
  id := row.id
  role := row.role
  state := row.state
  cordoned := row.cordoned
  maintenance := row.maintenance

def allowedTransitions : State → List State
  | .pending => [.enrolled, .removed]
  | .enrolled => [.online, .degraded, .offline, .drained, .enrolled, .removed]
  | .online => [.degraded, .offline, .drained, .enrolled, .removed]
  | .degraded => [.online, .offline, .drained, .enrolled, .removed]
  | .offline => [.online, .degraded, .drained, .enrolled, .removed]
  | .drained => [.enrolled, .online, .removed]
  | .removed => []

def canTransition (current next : State) : Bool := (allowedTransitions current).contains next

theorem canTransition_removed (next : State) : canTransition .removed next = false := rfl

def defaultEnrollmentTTL : Int := 60 * minute
def maxEnrollmentTTL : Int := 7 * 24 * 60 * minute
def defaultEnrollmentUses : Int := 1
def maxEnrollmentUses : Int := 64

structure Budget where
  uses : Int
  positive : 1 ≤ uses
deriving DecidableEq

def enrollmentUses (requested : Int) : Budget where
  uses :=
    let uses := if requested ≤ 0 then defaultEnrollmentUses else requested
    if maxEnrollmentUses < uses then maxEnrollmentUses else uses
  positive := by
    simp only [defaultEnrollmentUses, maxEnrollmentUses]
    omega

def enrollmentTTL (requested : Int) : Int :=
  let ttl := if requested ≤ 0 then defaultEnrollmentTTL else requested
  if maxEnrollmentTTL < ttl then maxEnrollmentTTL else ttl

structure TokenRow where
  id : String
  tokenHash : String
  role : Role
  nodeID : String
  maxUses : Budget
  uses : Int
  expiresAt : Int
  revokedAt : Int
deriving DecidableEq

structure EnrollmentToken where
  id : String
  role : Role
  nodeID : String
  maxUses : Budget
  uses : Int
  expiresAt : Int
  revokedAt : Int

def scanEnrollment (row : TokenRow) : EnrollmentToken where
  id := row.id
  role := row.role
  nodeID := row.nodeID
  maxUses := row.maxUses
  uses := row.uses
  expiresAt := unixOrZero row.expiresAt
  revokedAt := unixOrZero row.revokedAt

def EnrollmentToken.live (token : EnrollmentToken) (now : Int) : Bool :=
  if token.revokedAt ≠ zeroTime then false
  else if token.expiresAt ≠ zeroTime ∧ token.expiresAt ≤ now then false
  else decide (token.uses < token.maxUses.uses)

structure CredentialRow where
  id : String
  nodeID : String
  tokenHash : String
  expiresAt : Int
  revokedAt : Int
  lastUsedAt : Int

structure EnrollmentRequest where
  role : Role
  nodeID : String
  maxUses : Int
  ttl : Int

structure IssuedEnrollment where
  token : EnrollmentToken
  secret : String

structure EnrollRequest where
  secret : String
  nodeID : String
  name : String
  address : String
  agentVersion : String
  facts : Facts

structure Enrollment where
  node : Node
  credential : String
  credentialExpiresAt : Int

structure Identity where
  node : Node
  credentialID : String

end Cashp.Registry
