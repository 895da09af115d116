/-!
Denials (`guard.go`): a reason, a detail for the log, and the code the client sees.
-/

namespace Cashp.Guard

inductive Reason
  | subjectInvalid
  | subjectInactive
  | roleUnknown
  | actionUnknown
  | resourceInvalid
  | crossTenant
  | noGrant
  | platformControlled
  | primaryAdminImmutable
  | peerAdminCredential
  | quotaExceeded
  | rateLimited
  | lockedOut
  | workloadUnsafe
  | invalidInput
  | outboundBlocked
  | bodyTooLarge
  | unsupportedMediaType
  | hostNotAllowed
  | signatureInvalid
  | replay

inductive ErrorCode
  | badRequest
  | validation
  | unauthorized
  | forbidden
  | accountLocked
  | notFound
  | conflict
  | payloadTooLarge
  | rateLimited
  | quotaExceeded

def codeForReason : Reason → ErrorCode
  | .subjectInvalid => .unauthorized
  | .subjectInactive => .accountLocked
  | .roleUnknown => .forbidden
  | .actionUnknown => .forbidden
  | .resourceInvalid => .forbidden
  | .crossTenant => .notFound
  | .noGrant => .forbidden
  | .platformControlled => .forbidden
  | .primaryAdminImmutable => .forbidden
  | .peerAdminCredential => .forbidden
  | .quotaExceeded => .quotaExceeded
  | .rateLimited => .rateLimited
  | .lockedOut => .accountLocked
  | .workloadUnsafe => .validation
  | .invalidInput => .validation
  | .outboundBlocked => .forbidden
  | .bodyTooLarge => .payloadTooLarge
  | .unsupportedMediaType => .badRequest
  | .hostNotAllowed => .badRequest
  | .signatureInvalid => .unauthorized
  | .replay => .conflict

structure DenyError where
  reason : Reason
  code : ErrorCode
  detail : String

abbrev Verdict := Except DenyError Unit

def deny {Value : Type} (reason : Reason) (detail : String) : Except DenyError Value :=
  .error ⟨reason, codeForReason reason, detail⟩

def Verdict.allowed : Verdict → Bool
  | .ok () => true
  | .error _ => false

def denyWhen (bad : Prop) [Decidable bad] (reason : Reason) (detail : String) : Verdict :=
  if bad then deny reason detail else .ok ()

def checkEach {Item : Type} (check : Item → Verdict) : List Item → Verdict
  | [] => .ok ()
  | item :: rest => do
    check item
    checkEach check rest

variable {Value Result : Type} {bad : Prop} {reason : Reason} {detail : String}

@[simp]
theorem deny_ne_ok (reason : Reason) (detail : String) (value : Value) :
    deny reason detail ≠ .ok value :=
  nofun

@[simp]
theorem denyWhen_eq_ok [Decidable bad] : denyWhen bad reason detail = .ok () ↔ ¬ bad := by
  unfold denyWhen
  by_cases holds : bad
  · simp [holds]
  · simp [holds]

@[simp]
theorem denyWhen_bind_ok [Decidable bad] {next : Unit → Except DenyError Value} {value : Value} :
    (denyWhen bad reason detail >>= next) = .ok value ↔ ¬ bad ∧ next () = .ok value := by
  unfold denyWhen
  by_cases holds : bad
  · simp [holds, bind, Except.bind, deny]
  · simp [holds, bind, Except.bind]

theorem bind_ok {first : Except DenyError Value} {next : Value → Except DenyError Result}
    {result : Result} :
    (first >>= next) = .ok result ↔ ∃ value, first = .ok value ∧ next value = .ok result := by
  cases first with
  | error | ok => simp [bind, Except.bind]

theorem verdict_bind_ok {Result : Type} {first : Verdict} {next : Unit → Except DenyError Result}
    {result : Result} : (first >>= next) = .ok result ↔ first = .ok () ∧ next () = .ok result := by
  cases first with
  | error | ok => simp [bind, Except.bind]

theorem checkEach_ok {Item : Type} {check : Item → Verdict} {items : List Item} :
    checkEach check items = .ok () ↔ ∀ item ∈ items, check item = .ok () := by
  induction items with
  | nil => simp [checkEach]
  | cons item rest ih =>
    rw [checkEach, verdict_bind_ok, List.forall_mem_cons, ← ih]

end Cashp.Guard
