import Cashp.Guard.IdentifierCore
import Cashp.Kit.Path
import Mathlib.Algebra.Ring.Int.Defs
import Mathlib.Data.Rat.Defs

/-!
What a tenant's container or virtual machine may ask for (`workload.go`). Maps are lists in the
order they are gone through. Accepted mount sources lie in the directory of the tenant.
-/

namespace Cashp.Guard

open Kit

inductive Backend
  | docker
  | podman
  | incus
  | libvirt
  | other (name : String)

def deniedCapabilities : List String :=
  ["AUDIT_CONTROL", "BLOCK_SUSPEND", "DAC_OVERRIDE", "DAC_READ_SEARCH", "MAC_ADMIN",
    "MAC_OVERRIDE", "MKNOD", "NET_ADMIN", "NET_RAW", "SETFCAP", "SYS_ADMIN", "SYS_BOOT",
    "SYS_MODULE", "SYS_PTRACE", "SYS_RAWIO", "SYS_RESOURCE", "SYS_TIME", "WAKE_ALARM"]

def engineSocketNames : List String :=
  ["docker.sock", "containerd.sock", "containerd-shim", "podman.sock", "crio.sock",
    "libvirt-sock", "virtqemud-sock", "unix.socket", "incus.sock", "lxd.sock", "buildkitd.sock"]

def deniedHostPaths : List String :=
  ["/boot", "/dev", "/etc", "/home", "/lib", "/lib64", "/proc", "/root", "/run", "/sbin", "/sys",
    "/usr", "/var/lib/containerd", "/var/lib/docker", "/var/lib/incus", "/var/lib/libvirt",
    "/var/lib/lxd", "/var/run"]

def allowedSysctls : List String :=
  ["net.ipv4.ip_unprivileged_port_start", "net.ipv4.tcp_keepalive_intvl",
    "net.ipv4.tcp_keepalive_probes", "net.ipv4.tcp_keepalive_time"]

def unconfinedMarkers : List String :=
  ["unconfined", "label=disable", "label:disable", "seccomp=undefined",
    "no-new-privileges=false", "no-new-privileges:false", "apparmor=", "systempaths=unconfined"]

def noNewPrivileges : String := "no-new-privileges:true"

structure Mount where
  source : String
  target : String

inductive Cores
  | nan
  | infinite (negative : Bool)
  | finite (value : Rat)
  deriving DecidableEq

namespace Cores

def lt : Cores → Cores → Bool
  | .nan, _ | _, .nan => false
  | .infinite true, .infinite negative => !negative
  | .infinite true, .finite _ => true
  | .infinite false, _ => false
  | .finite _, .infinite negative => !negative
  | .finite first, .finite second => decide (first < second)

def le (first second : Cores) : Bool := first.lt second || (first == second && first != .nan)

end Cores

structure WorkloadPolicy where
  tenantDataRoot : String
  maxCPUCores : Cores
  maxMemoryBytes : Int
  maxPids : Int
  maxStorageBytes : Int
  maxVCPUs : Int
  allowedDevices : List String := []
  allowedPassthrough : List String := []

def defaultWorkloadPolicy (tenantDataRoot : String) : WorkloadPolicy where
  tenantDataRoot
  maxCPUCores := .finite 4
  maxMemoryBytes := 8 * 2 ^ 30
  maxPids := 512
  maxStorageBytes := 64 * 2 ^ 30
  maxVCPUs := 4

structure WorkloadSpec where
  backend : Backend
  tenantID : String
  name : String
  image : String
  privileged : Bool := false
  hostNetwork : Bool := false
  hostPID : Bool := false
  hostIPC : Bool := false
  hostUTS : Bool := false
  hostUserNS : Bool := false
  networkName : String
  capAdd : List String := []
  capDrop : List String := []
  securityOpt : List String := []
  devices : List String := []
  mounts : List Mount := []
  sysctls : List (String × String) := []
  env : List (String × String) := []
  cpuCores : Cores
  memoryBytes : Int
  pidsLimit : Int
  storageBytes : Int

def tenantNetworkName (tenantID : String) : String := "cashp-t-" ++ tenantID

def tenantRoot (policy : WorkloadPolicy) (tenantID : String) : Except DenyError String := do
  denyWhen (Path.isAbs policy.tenantDataRoot.toList = false) .workloadUnsafe
    "tenant data root is not absolute"
  validateIdentifier "tenant id" tenantID
  .ok (String.ofList
    (Path.join [Path.clean policy.tenantDataRoot.toList, tenantID.toList]))

def checkNamespaces (spec : WorkloadSpec) : Verdict := do
  denyWhen (spec.privileged = true) .workloadUnsafe "privileged mode is never permitted"
  denyWhen (spec.hostNetwork = true) .workloadUnsafe "host network namespace is never permitted"
  denyWhen (spec.hostPID = true) .workloadUnsafe "host PID namespace is never permitted"
  denyWhen (spec.hostIPC = true) .workloadUnsafe "host IPC namespace is never permitted"
  denyWhen (spec.hostUTS = true) .workloadUnsafe "host UTS namespace is never permitted"
  denyWhen (spec.hostUserNS = true) .workloadUnsafe "host user namespace is never permitted"

def capabilityName (capability : String) : String :=
  let name := upperText (trimSpace capability)
  if beginsWith name "CAP_" then String.ofList (name.toList.drop 4) else name

def checkCapability (capability : String) : Verdict := do
  let name := capabilityName capability
  denyWhen (name = "") .workloadUnsafe "empty capability requested"
  denyWhen (name = "ALL") .workloadUnsafe "capability ALL is never permitted"
  denyWhen (deniedCapabilities.contains name = true) .workloadUnsafe
    ("capability " ++ name ++ " is never permitted")

def checkCapabilities (spec : WorkloadSpec) : Verdict := do
  denyWhen (spec.capDrop.any (fun c => upperText (trimSpace c) == "ALL") = false) .workloadUnsafe
    "capabilities must be dropped with ALL"
  checkEach checkCapability spec.capAdd

def normalizedOpt (opt : String) : String :=
  lowerText (String.ofList ((trimSpace opt).toList.filter (· != ' ')))

def isNoNewPrivileges (opt : String) : Bool :=
  normalizedOpt opt == noNewPrivileges || normalizedOpt opt == "no-new-privileges=true"

def checkSecurityOpt (opt : String) : Verdict :=
  denyWhen (isNoNewPrivileges opt = false ∧
      unconfinedMarkers.any (containsText (normalizedOpt opt)) = true) .workloadUnsafe
    ("security option " ++ opt ++ " weakens confinement")

def checkSecurityOpts (opts : List String) : Verdict := do
  checkEach checkSecurityOpt opts
  denyWhen (opts.any isNoNewPrivileges = false) .workloadUnsafe
    ("security options must include " ++ noNewPrivileges)

def checkDevice (allowed : List String) (requested : String) : Verdict := do
  let device := trimSpace requested
  denyWhen (device = "") .workloadUnsafe "empty device requested"
  denyWhen (allowed.contains device = false) .workloadUnsafe
    ("device " ++ device ++ " is not in the allowed set")

def checkDevices (requested allowed : List String) : Verdict :=
  checkEach (checkDevice allowed) requested

def isCleanAbs (path : String) : Bool :=
  Path.isAbs path.toList && Path.clean path.toList == path.toList

def checkMount (tenantRoot : String) (mount : Mount) : Verdict := do
  let source := mount.source
  denyWhen (source = "" ∨ mount.target = "") .workloadUnsafe "mount is missing a source or target"
  denyWhen (source.toList.contains '\x00' = true ∨ mount.target.toList.contains '\x00' = true)
    .workloadUnsafe "mount path contains a null byte"
  denyWhen (Path.isAbs source.toList = false) .workloadUnsafe
    ("mount source " ++ source ++ " is not absolute")
  denyWhen (Path.clean source.toList ≠ source.toList) .workloadUnsafe
    ("mount source " ++ source ++ " is not a clean path")
  denyWhen (engineSocketNames.any
      (containsText (lowerText (String.ofList (Path.base source.toList)))) = true) .workloadUnsafe
    ("mount source " ++ source ++ " is an engine control socket")
  denyWhen (deniedHostPaths.any
      (fun denied => source == denied || beginsWith source (denied ++ "/")) = true) .workloadUnsafe
    ("mount source " ++ source ++ " is a protected host path")
  denyWhen (source ≠ tenantRoot ∧ beginsWith source (tenantRoot ++ "/") = false) .workloadUnsafe
    ("mount source " ++ source ++ " is outside the tenant directory")
  denyWhen (isCleanAbs mount.target = false) .workloadUnsafe
    ("mount target " ++ mount.target ++ " is not a clean absolute path")

def checkMounts (mounts : List Mount) (tenantRoot : String) : Verdict :=
  checkEach (checkMount tenantRoot) mounts

def checkSysctl (sysctl : String × String) : Verdict := do
  denyWhen (allowedSysctls.contains sysctl.1 = false) .workloadUnsafe
    ("sysctl " ++ sysctl.1 ++ " is not permitted")
  denyWhen ((validateEnvVarValue sysctl.2).allowed = false) .workloadUnsafe
    ("sysctl " ++ sysctl.1 ++ " has an unusable value")

def checkSysctls (sysctls : List (String × String)) : Verdict := checkEach checkSysctl sysctls

def checkNetwork (networkName tenantID : String) : Verdict :=
  denyWhen (networkName ≠ tenantNetworkName tenantID) .workloadUnsafe
    ("network " ++ networkName ++ " is not the tenant network")

def checkLimit (amount ceiling : Int) (limit : String) : Verdict :=
  denyWhen (amount ≤ 0 ∨ ceiling ≤ 0 ∨ ceiling < amount) .workloadUnsafe
    (limit ++ " is missing or above the ceiling")

def checkLimits (spec : WorkloadSpec) (policy : WorkloadPolicy) : Verdict := do
  denyWhen (spec.cpuCores.le (.finite 0) = true ∨ policy.maxCPUCores.le (.finite 0) = true ∨
      policy.maxCPUCores.lt spec.cpuCores = true) .workloadUnsafe
    "cpu limit is missing or above the ceiling"
  checkLimit spec.memoryBytes policy.maxMemoryBytes "memory limit"
  checkLimit spec.pidsLimit policy.maxPids "pids limit"
  checkLimit spec.storageBytes policy.maxStorageBytes "storage limit"

def checkBackend : Backend → Verdict
  | .other name => deny .workloadUnsafe ("unsupported backend " ++ name)
  | _ => .ok ()

def validateWorkload (spec : WorkloadSpec) (policy : WorkloadPolicy) : Verdict := do
  checkBackend spec.backend
  validateIdentifier "workload name" spec.name
  validateImageReference spec.image
  let root ← tenantRoot policy spec.tenantID
  checkNamespaces spec
  checkCapabilities spec
  checkSecurityOpts spec.securityOpt
  checkDevices spec.devices policy.allowedDevices
  checkMounts spec.mounts root
  checkSysctls spec.sysctls
  let _ ← validateEnvVars spec.env
  checkNetwork spec.networkName spec.tenantID
  checkLimits spec policy

structure VMSpec where
  tenantID : String
  name : String
  arch : String
  vcpus : Int
  memoryBytes : Int
  diskBytes : Int
  diskPaths : List String := []
  passthroughDevices : List String := []
  networkName : String
  hostBridge : Bool := false
  consoleListen : String

def isLoopbackHost (host : String) : Bool :=
  let bracket (c : Char) : Bool := c == '[' || c == ']'
  let bare := (((trimSpace host).toList.dropWhile bracket).reverse.dropWhile bracket).reverse
  ["127.0.0.1", "::1", "localhost"].contains (lowerText (String.ofList bare))

def checkConsoleListen (addr : String) : Verdict :=
  denyWhen (isLoopbackHost addr = false) .workloadUnsafe
    ("console listen address " ++ addr ++ " is not loopback")

def validateVM (spec : VMSpec) (policy : WorkloadPolicy) : Verdict := do
  validateIdentifier "vm name" spec.name
  validateIdentifier "architecture" spec.arch
  let root ← tenantRoot policy spec.tenantID
  denyWhen (spec.hostBridge = true) .workloadUnsafe "host bridge attachment is never permitted"
  checkNetwork spec.networkName spec.tenantID
  checkDevices spec.passthroughDevices policy.allowedPassthrough
  checkMounts (spec.diskPaths.map fun path => ⟨path, "/dev/null"⟩) root
  checkConsoleListen spec.consoleListen
  checkLimit spec.vcpus policy.maxVCPUs "vcpu count"
  checkLimit spec.memoryBytes policy.maxMemoryBytes "memory limit"
  checkLimit spec.diskBytes policy.maxStorageBytes "disk limit"

open Path

variable {policy : WorkloadPolicy} {tenantID root source field : String} {mount : Mount}

def Accepts (policy : WorkloadPolicy) (tenantID source : String) : Prop :=
  (∃ spec, validateWorkload spec policy = .ok () ∧ spec.tenantID = tenantID ∧
    ∃ mount ∈ spec.mounts, mount.source = source) ∨
  (∃ spec, validateVM spec policy = .ok () ∧ spec.tenantID = tenantID ∧ source ∈ spec.diskPaths)

theorem checkIdentifierFrom_ok {value : String} {previous : Char} {chars : List Char}
    (fine : checkIdentifierFrom field value previous chars = .ok ()) :
    ∀ c ∈ chars, isLowerAlnum c = true ∨ c = '-' ∨ c = '_' := by
  induction chars generalizing previous with
  | nil => simp
  | cons c rest ih =>
    rw [List.forall_mem_cons]
    unfold checkIdentifierFrom at fine
    split at fine
    · rename_i alnum
      exact ⟨.inl alnum, ih fine⟩
    rw [denyWhen_bind_ok, denyWhen_bind_ok] at fine
    refine ⟨.inr ?_, ih fine.2.2⟩
    by_contra neither
    exact fine.1 (not_or.mp neither)

theorem validateIdentifier_proper {value : String}
    (valid : validateIdentifier field value = .ok ()) : Proper value.toList := by
  simp only [validateIdentifier, checkCommon, verdict_bind_ok, denyWhen_eq_ok] at valid
  obtain ⟨⟨solid, -⟩, -, chars⟩ := valid
  have fine := checkIdentifierFrom_ok chars
  have absent : ∀ c, isLowerAlnum c = false → c ≠ '-' → c ≠ '_' → c ∉ value.toList := by
    grind
  have noDot := absent '.' (by decide) (by decide) (by decide)
  refine ⟨fun empty => solid (String.toList_inj.mp empty),
    absent '/' (by decide) (by decide) (by decide), fun dot => ?_, fun dotdot => ?_⟩
  · exact noDot (dot ▸ List.mem_cons_self)
  · exact noDot (dotdot ▸ List.mem_cons_self)

def dataRoot (policy : WorkloadPolicy) : List Component :=
  normal true (pieces policy.tenantDataRoot.toList)

theorem tenantRoot_ok (rooted : tenantRoot policy tenantID = .ok root) :
    Proper tenantID.toList ∧ root.toList = render true (dataRoot policy ++ [tenantID.toList]) := by
  simp only [tenantRoot, verdict_bind_ok, denyWhen_eq_ok, Bool.not_eq_false] at rooted
  obtain ⟨absolute, valid, same⟩ := rooted
  have proper := validateIdentifier_proper valid
  refine ⟨proper, ?_⟩
  cases same
  rw [String.toList_ofList, clean_abs absolute, join_render (normal_proper _) proper]
  rfl

theorem checkMount_ok (fine : checkMount root mount = .ok ()) :
    isAbs mount.source.toList = true ∧ clean mount.source.toList = mount.source.toList ∧
      (mount.source = root ∨ beginsWith mount.source (root ++ "/") = true) := by
  simp only [checkMount, denyWhen_bind_ok, Bool.not_eq_false, not_not] at fine
  grind

structure Inside (policy : WorkloadPolicy) (tenantID source root : String) : Prop where
  rooted : tenantRoot policy tenantID = .ok root
  under : source = root ∨ beginsWith source (root ++ "/") = true
  cleaned : source.toList = render true (normal true (pieces source.toList))

theorem inside_of_check (rooted : tenantRoot policy tenantID = .ok root)
    (fine : checkMount root mount = .ok ()) : Inside policy tenantID mount.source root := by
  obtain ⟨absolute, cleaned, under⟩ := checkMount_ok fine
  exact ⟨rooted, under, cleaned.symm.trans (clean_abs absolute)⟩

theorem Accepts.inside (accepted : Accepts policy tenantID source) :
    ∃ root, Inside policy tenantID source root := by
  rcases accepted with ⟨spec, valid, rfl, mount, member, rfl⟩ | ⟨spec, valid, rfl, member⟩
  · rw [validateWorkload, verdict_bind_ok, verdict_bind_ok, verdict_bind_ok, bind_ok] at valid
    obtain ⟨-, -, -, root, rooted, valid⟩ := valid
    simp only [verdict_bind_ok] at valid
    obtain ⟨-, -, -, -, mounts, -⟩ := valid
    exact ⟨root, inside_of_check rooted (checkEach_ok.mp mounts mount member)⟩
  · rw [validateVM, verdict_bind_ok, verdict_bind_ok, bind_ok] at valid
    obtain ⟨-, -, root, rooted, valid⟩ := valid
    simp only [verdict_bind_ok] at valid
    obtain ⟨-, -, -, mounts, -⟩ := valid
    exact ⟨root, inside_of_check rooted (checkEach_ok.mp mounts ⟨source, "/dev/null"⟩
      (List.mem_map.mpr ⟨source, member, rfl⟩))⟩

theorem Inside.components (inside : Inside policy tenantID source root) :
    dataRoot policy ++ [tenantID.toList] <+: normal true (pieces source.toList) := by
  obtain ⟨proper, same⟩ := tenantRoot_ok inside.rooted
  have proper' : ∀ component ∈ dataRoot policy ++ [tenantID.toList], Proper component := by
    intro component member
    rcases List.mem_append.mp member with above | own
    · exact normal_proper _ component above
    · exact List.mem_singleton.mp own ▸ proper
  refine components_under proper' (normal_proper _) (by simp) ?_
  rw [← inside.cleaned, ← same]
  refine inside.under.imp (congrArg String.toList) fun begins => ?_
  have start := List.isPrefixOf_iff_prefix.mp begins
  rwa [String.toList_append] at start

/-- Sources accepted for one tenant are accepted for no other; each is the directory of the tenant
or a clean path below it. -/
theorem mount_sources_isolated (policy : WorkloadPolicy) :
    (∀ tenantID other source, tenantID ≠ other → Accepts policy tenantID source →
      ¬ Accepts policy other source) ∧ (∀ tenantID source, Accepts policy tenantID source →
      ∃ root, tenantRoot policy tenantID = .ok root ∧
        (source = root ∨ ∃ below, source = root ++ "/" ++ below) ∧
        ∀ piece ∈ pieces source.toList, piece ≠ dot ∧ piece ≠ dotdot) := by
  constructor
  · intro tenantID other source apart accepted accepted'
    obtain ⟨root, inside⟩ := accepted.inside
    obtain ⟨root', inside'⟩ := accepted'.inside
    have same := List.IsPrefix.eq_of_length_le
      (List.prefix_of_prefix_length_le inside.components inside'.components (by simp)) (by simp)
    exact apart (String.toList_inj.mp (List.singleton_inj.mp (List.append_cancel_left same)))
  · intro tenantID source accepted
    obtain ⟨root, inside⟩ := accepted.inside
    refine ⟨root, inside.rooted, inside.under.imp id fun begins => ?_, fun piece member => ?_⟩
    · obtain ⟨below, same⟩ := List.isPrefixOf_iff_prefix.mp begins
      refine ⟨String.ofList below, String.toList_inj.mp ?_⟩
      simp only [← same, String.toList_append, String.toList_ofList]
    rw [inside.cleaned, pieces_render (normal_proper _)] at member
    split at member
    · simp only [List.mem_cons, List.not_mem_nil, or_false, or_self] at member
      subst member
      exact ⟨by decide, by decide⟩
    rcases List.mem_cons.mp member with rfl | component
    · exact ⟨by decide, by decide⟩
    · have proper := normal_proper _ piece component
      exact ⟨proper.named, proper.down⟩

def webServer : WorkloadSpec where
  backend := .docker
  tenantID := "acme"
  name := "web"
  image := "docker.io/library/nginx:1.27"
  networkName := tenantNetworkName "acme"
  capDrop := ["ALL"]
  securityOpt := [noNewPrivileges]
  mounts := [⟨"/srv/acme/data", "/data"⟩]
  cpuCores := .finite 1
  memoryBytes := 2 ^ 28
  pidsLimit := 64
  storageBytes := 2 ^ 30

theorem web_mount_isolated :
    Accepts (defaultWorkloadPolicy "/srv") "acme" "/srv/acme/data" ∧
      ¬ Accepts (defaultWorkloadPolicy "/srv") "globex" "/srv/acme/data" := by
  have accepted : Accepts (defaultWorkloadPolicy "/srv") "acme" "/srv/acme/data" :=
    .inl ⟨webServer, by rfl, rfl, _, List.mem_cons_self, rfl⟩
  exact ⟨accepted, (mount_sources_isolated _).1 _ _ _ (by decide) accepted⟩

end Cashp.Guard
