import Mathlib.Data.List.Basic

/-!
The names of backend objects (`validate.go`). Texts are the bytes of the source's strings.
-/

namespace Cashp.Orchestrator

abbrev Bytes := List UInt8

def ascii (text : String) : Bytes := text.toList.map fun c => c.toNat.toUInt8

inductive Class
  | native
  | appManaged
  | tenant
  | other (name : Bytes)
  deriving DecidableEq

inductive OrchestratorError
  | validation (field rule : String)
  | isolation (service : Class) (field rule : String)

abbrev Check := Except OrchestratorError Unit

structure Ref where
  service : Class
  tenantID : Bytes
  name : Bytes

def maxTenantIDLen : Nat := 24
def maxWorkloadNameLen : Nat := 28
def maxQualifiedNameLen : Nat := 63

def namePrefix : Bytes := ascii "cashp"
def systemTenantID : Bytes := ascii "sys"
def nameSeparator : Bytes := ascii "--"

def shellMetaChars : Bytes := ascii "`$&;|<>()[]\x7b\x7d!*?~'\"\\\n\r\t\x0b\x0c\x00"

def reservedTenantIDs : List Bytes :=
  [systemTenantID, ascii "system", ascii "cashp", ascii "root", ascii "admin"]

def isLabelByte (byte : UInt8) : Bool :=
  (97 ≤ byte && byte ≤ 122) || (48 ≤ byte && byte ≤ 57)

def labelFrom (within : Bool) : Bytes → Bool
  | [] => within
  | byte :: rest =>
    if isLabelByte byte then labelFrom true rest else within && byte == 45 && labelFrom false rest

def dnsLabel (text : Bytes) : Bool := labelFrom false text

def hasUnsafeChars (text : Bytes) : Bool :=
  text.any (shellMetaChars.contains ·) || text.any ((ascii " \t\n\r").contains ·) ||
    (text.dropInfix? (ascii "..")).isSome

def validateLabel (field : String) (maxLen : Nat) (text : Bytes) : Check :=
  if text = [] then .error (.validation field "required")
  else if maxLen < text.length then .error (.validation field "too_long")
  else if hasUnsafeChars text || !dnsLabel text then .error (.validation field "charset")
  else .ok ()

def validateTenantID (id : Bytes) : Check := do
  validateLabel "tenant_id" maxTenantIDLen id
  if reservedTenantIDs.contains id then .error (.validation "tenant_id" "reserved") else .ok ()

def validateWorkloadName : Bytes → Check := validateLabel "name" maxWorkloadNameLen

def Ref.validateOwner (ref : Ref) : Check :=
  match ref.service with
  | .appManaged =>
    if ref.tenantID ≠ systemTenantID then .error (.validation "tenant_id" "app_managed_tenant")
    else .ok ()
  | .tenant => validateTenantID ref.tenantID
  | .native => .error (.isolation .native "class"
      "native host services are managed by the service supervisor, not the orchestrator")
  | .other _ => .error (.validation "class" "unknown")

def Ref.validate (ref : Ref) : Check := do
  ref.validateOwner
  validateWorkloadName ref.name

def Ref.objectName (ref : Ref) : Bytes :=
  if ref.service = .appManaged then
    namePrefix ++ ascii "-" ++ systemTenantID ++ nameSeparator ++ ref.name
  else namePrefix ++ ascii "-t-" ++ ref.tenantID ++ nameSeparator ++ ref.name

def Ref.qualified (ref : Ref) : Except OrchestratorError Bytes := do
  ref.validate
  if maxQualifiedNameLen < ref.objectName.length then
    .error (.validation "name" "qualified_too_long")
  else .ok ref.objectName

def parseTenantName (tenantAndName : Bytes) : Option Ref :=
  match tenantAndName.dropInfix? nameSeparator with
  | none => none
  | some (tenant, name) =>
    if (validateTenantID tenant).isOk && (validateWorkloadName name).isOk then
      some ⟨.tenant, tenant, name⟩
    else none

def parseQualified (qualified : Bytes) : Option Ref :=
  match qualified.dropPrefix? (namePrefix ++ ascii "-") with
  | none => none
  | some rest =>
    match rest.dropPrefix? (systemTenantID ++ nameSeparator) with
    | some sysName =>
      if (validateWorkloadName sysName).isOk then
        some ⟨.appManaged, systemTenantID, sysName⟩
      else none
    | none =>
      match rest.dropPrefix? (ascii "t-") with
      | none => none
      | some tenantAndName => parseTenantName tenantAndName

variable {ref : Ref} {text front back rest name : Bytes} {within : Bool}

theorem dropPrefix?_eq_some {start : Bytes} :
    text.dropPrefix? start = some rest ↔ text = start ++ rest := by
  rw [List.dropPrefix?_eq_some_iff]
  simp

theorem dropPrefix?_append (start rest : Bytes) : (start ++ rest).dropPrefix? start = some rest :=
  List.dropPrefix?_append_of_beq rest (beq_self_eq_true start)

theorem labelByte_of_first {byte : UInt8} (label : labelFrom false (byte :: rest) = true) :
    byte ≠ 45 := by
  rintro rfl
  simp [labelFrom, isLabelByte] at label

theorem label_before_separator (label : labelFrom within text = true)
    (split : text ++ nameSeparator ++ name = front ++ nameSeparator ++ back) :
    text.length ≤ front.length := by
  induction text generalizing within front with
  | nil => exact Nat.zero_le _
  | cons byte rest ih =>
    have separator : nameSeparator = [45, 45] := by decide +kernel
    rw [separator] at split ih
    cases front with
    | cons =>
      simp only [List.cons_append, List.cons.injEq] at split
      have next : ∃ later, labelFrom later rest = true := by
        simp only [labelFrom] at label
        grind
      obtain ⟨later, label⟩ := next
      exact Nat.succ_le_succ (ih label split.2)
    | nil =>
      simp only [List.cons_append, List.nil_append, List.cons.injEq] at split
      obtain ⟨rfl, split⟩ := split
      have tail : labelFrom false rest = true := by
        simp [labelFrom, isLabelByte] at label
        exact label.2
      cases rest with
      | nil => simp [labelFrom] at tail
      | cons =>
        simp only [List.cons_append, List.cons.injEq] at split
        exact absurd split.1 (labelByte_of_first tail)

theorem cut_label (label : dnsLabel text = true) :
    (text ++ nameSeparator ++ name).dropInfix? nameSeparator = some (text, name) := by
  rw [List.dropInfix?_eq_some_iff]
  refine ⟨⟨nameSeparator, rfl, beq_self_eq_true _⟩, fun front found back split same => ?_⟩
  rw [eq_of_beq same] at split
  exact label_before_separator label split

theorem validateLabel_ok {field : String} {maxLen : Nat}
    (valid : validateLabel field maxLen text = .ok ()) :
    text.length ≤ maxLen ∧ dnsLabel text = true := by
  unfold validateLabel at valid
  grind

theorem check_then {Value : Type} {check : Check} {next : Unit → Except OrchestratorError Value}
    {value : Value} : (check >>= next) = .ok value ↔ check = .ok () ∧ next () = .ok value := by
  cases check with
  | error | ok => simp [bind, Except.bind]

theorem isOk_iff {check : Check} : check.isOk = true ↔ check = .ok () := by
  cases check with
  | error | ok => simp [Except.isOk, Except.toBool]

theorem validate_ok : ref.validate = .ok () ↔ validateWorkloadName ref.name = .ok () ∧
    (ref.service = .appManaged ∧ ref.tenantID = systemTenantID ∨
      ref.service = .tenant ∧ validateTenantID ref.tenantID = .ok ()) := by
  obtain ⟨service, tenantID, name⟩ := ref
  rw [Ref.validate, check_then, and_comm]
  refine and_congr_right fun _ => ?_
  cases service with
  | appManaged => by_cases same : tenantID = systemTenantID <;> simp [Ref.validateOwner, same]
  | _ => simp [Ref.validateOwner]

theorem validateTenantID_label (valid : validateTenantID text = .ok ()) :
    text.length ≤ maxTenantIDLen ∧ dnsLabel text = true :=
  validateLabel_ok (check_then.mp valid).1

theorem objectName_short (valid : ref.validate = .ok ()) :
    ref.objectName.length ≤ maxQualifiedNameLen := by
  obtain ⟨named, kind⟩ := validate_ok.mp valid
  have name : ref.name.length ≤ 28 := (validateLabel_ok named).1
  have parts : namePrefix.length = 5 ∧ (ascii "-").length = 1 ∧ (ascii "-t-").length = 3 ∧
      systemTenantID.length = 3 ∧ nameSeparator.length = 2 := by decide +kernel
  unfold Ref.objectName maxQualifiedNameLen
  rcases kind with ⟨app, _⟩ | ⟨tenant, owned⟩
  · rw [if_pos app]
    simp only [List.length_append]
    omega
  have owner : ref.tenantID.length ≤ 24 := (validateTenantID_label owned).1
  rw [if_neg (by simp [tenant])]
  simp only [List.length_append]
  omega

theorem qualified_eq_ok :
    ref.qualified = .ok text ↔ ref.validate = .ok () ∧ text = ref.objectName := by
  unfold Ref.qualified
  rw [check_then]
  refine and_congr_right fun valid => ?_
  rw [if_neg (Nat.not_lt.mpr (objectName_short valid)), Except.ok.injEq, eq_comm]

theorem parse_objectName (valid : ref.validate = .ok ()) :
    parseQualified ref.objectName = some ref := by
  obtain ⟨named, kind⟩ := validate_ok.mp valid
  obtain ⟨service, tenantID, name⟩ := ref
  unfold parseQualified Ref.objectName
  rcases kind with ⟨rfl, rfl⟩ | ⟨rfl, owned⟩
  · have first : namePrefix ++ ascii "-" ++ systemTenantID ++ nameSeparator ++ name =
        (namePrefix ++ ascii "-") ++ ((systemTenantID ++ nameSeparator) ++ name) := by
      simp only [List.append_assoc]
    simp only [if_true, first, dropPrefix?_append, isOk_iff.mpr named]
  · have first : namePrefix ++ ascii "-t-" ++ tenantID ++ nameSeparator ++ name =
        (namePrefix ++ ascii "-") ++ (ascii "t-" ++ (tenantID ++ nameSeparator ++ name)) := by
      have mark : ascii "-t-" = ascii "-" ++ ascii "t-" := by decide +kernel
      simp only [mark, List.append_assoc]
    have apart : (ascii "t-" ++ (tenantID ++ nameSeparator ++ name)).dropPrefix?
        (systemTenantID ++ nameSeparator) = none := rfl
    have cut : (tenantID ++ nameSeparator ++ name).dropInfix? nameSeparator =
        some (tenantID, name) := cut_label (validateTenantID_label owned).2
    simp only [reduceCtorEq, if_false, first, dropPrefix?_append, apart, parseTenantName, cut,
      isOk_iff.mpr named, isOk_iff.mpr owned, Bool.and_self, if_true]

theorem parseTenantName_some (parsed : parseTenantName text = some ref) :
    ref.validate = .ok () ∧ ref.service = .tenant ∧
      text = ref.tenantID ++ nameSeparator ++ ref.name := by
  unfold parseTenantName at parsed
  split at parsed
  · cases parsed
  rename_i tenant name cut
  split at parsed
  · rename_i accepted
    cases parsed
    obtain ⟨owned, named⟩ := Bool.and_eq_true_iff.mp accepted
    obtain ⟨⟨found, split, same⟩, _⟩ := List.dropInfix?_eq_some_iff.mp cut
    rw [eq_of_beq same] at split
    exact ⟨validate_ok.mpr ⟨isOk_iff.mp named, .inr ⟨rfl, isOk_iff.mp owned⟩⟩, rfl, split⟩
  · cases parsed

theorem qualified_of_parse (parsed : parseQualified text = some ref) :
    ref.qualified = .ok text := by
  unfold parseQualified at parsed
  split at parsed
  · cases parsed
  rename_i rest start
  rw [dropPrefix?_eq_some] at start
  split at parsed
  · rename_i sysName system
    rw [dropPrefix?_eq_some] at system
    split at parsed
    · rename_i named
      cases parsed
      refine qualified_eq_ok.mpr ⟨validate_ok.mpr ⟨isOk_iff.mp named, .inl ⟨rfl, rfl⟩⟩, ?_⟩
      rw [start, system, Ref.objectName, if_pos rfl]
      simp only [List.append_assoc]
    · cases parsed
  · split at parsed
    · cases parsed
    rename_i tenant
    rw [dropPrefix?_eq_some] at tenant
    obtain ⟨valid, service, split⟩ := parseTenantName_some parsed
    refine qualified_eq_ok.mpr ⟨valid, ?_⟩
    have mark : ascii "-t-" = ascii "-" ++ ascii "t-" := by decide +kernel
    rw [start, tenant, split, Ref.objectName, if_neg (by simp [service]), mark]
    simp only [List.append_assoc]

/-- Accepted refs and the names that are recognised belong to each other, one to one. -/
theorem qualified_names_apart : (∀ ref : Ref, ref.validate = .ok () →
      ∃ text, ref.qualified = .ok text ∧ parseQualified text = some ref) ∧
    (∀ text ref, parseQualified text = some ref → ref.qualified = .ok text) ∧
    (∀ (first second : Ref) (text : Bytes), first.qualified = .ok text →
      second.qualified = .ok text → first = second) := by
  have back (ref : Ref) (text : Bytes) (named : ref.qualified = .ok text) :
      parseQualified text = some ref := by
    obtain ⟨valid, rfl⟩ := qualified_eq_ok.mp named
    exact parse_objectName valid
  refine ⟨fun ref valid => ?_, fun text ref parsed => qualified_of_parse parsed,
    fun first second text one other => ?_⟩
  · exact ⟨ref.objectName, qualified_eq_ok.mpr ⟨valid, rfl⟩, parse_objectName valid⟩
  · exact Option.some.inj ((back first text one).symm.trans (back second text other))

end Cashp.Orchestrator
