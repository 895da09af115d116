import Cashp.Billing.InvoicesCore

/-!
Charging an invoice through the enabled providers in failover order, and returning
money (`payments.go`).
-/

namespace Cashp

open Kit Kit.Program

def listPaymentMethods (tenantID : String) : Service (List PaymentMethod) :=
  perform (.method (.ofTenant tenantID))

def attemptByKey (key : String) : Service PaymentAttempt := do
  require (← perform (.attempt (.byKey key))) (errNotFound "payment attempt")

def pickMethod (methods : List PaymentMethod) (providerName : String) : Option PaymentMethod :=
  match methods.find? (fun method =>
      method.provider == providerName && method.isDefault && method.state == .active) with
  | some method => some method
  | none => methods.find? (fun method =>
    method.provider == providerName && method.state == .active)

def usableMethod (methods : List PaymentMethod) (providerName : String) : Option PaymentMethod :=
  (pickMethod methods providerName).filter (fun method => method.id != "")

def nextAttemptNumber (invoiceID : String) : Service Int := do
  let count ← perform (.attempt (.countOf invoiceID))
  pure (count + 1)

def mapChargeState : ChargeState → PaymentState
  | .succeeded => .succeeded
  | .authorized => .authorized
  | .pending => .pending
  | .failed => .failed

def insertAttempt (attempt : PaymentAttempt) : Service Unit := do
  if ← perform (.attempt (.insert attempt)) then
    pure ()
  else if ← perform .isAlreadyExists then
    .fail (errConflict "That payment is already in progress.")
  else
    .fail (errInternal "Could not record the payment attempt.")

def completeAttempt (attempt : PaymentAttempt) (state : PaymentState)
    (reference code message : String) : Service Unit := do
  let now ← unix
  let _ ← perform (.attempt (.complete state reference code message now attempt.id))
  pure ()

/-- What a charge hands back: Go returns the attempt and the error side by side, and
the zero attempt when nothing was recorded. -/
structure ChargeOutcome where
  attempt : Option PaymentAttempt := none
  error : Option BillingError := none

def ChargeOutcome.settled (outcome : ChargeOutcome) : Bool :=
  match outcome.attempt, outcome.error with
  | some attempt, none => attempt.state == .succeeded
  | _, _ => false

def newAttempt (record : ProviderRecord) (inv : Invoice) (method : PaymentMethod) (id key : String)
    (amount attemptNumber now : Int) : PaymentAttempt :=
  { id := id, tenantID := inv.tenantID, accountID := inv.accountID, invoiceID := inv.id
    methodID := method.id, provider := record.name, idempotencyKey := key, amountMinor := amount
    currency := inv.currency, state := .pending, attemptNumber := attemptNumber
    attemptedAt := now }

def chargeRequest (inv : Invoice) (method : PaymentMethod) (key : String) (amount : Int) :
    ChargeRequest :=
  { idempotencyKey := key, amountMinor := amount, currency := inv.currency
    methodToken := method.providerToken, customerRef := method.providerCustomer
    description := "cashp invoice " ++ inv.number, invoiceNumber := inv.number, capture := true }

def refuseAttempt (attempt : PaymentAttempt) (code message : String) (failure : BillingError) :
    Service ChargeOutcome := do
  completeAttempt attempt .failed "" code message
  pure { attempt := some attempt, error := some failure }

def finishCharge (record : ProviderRecord) (attempt : PaymentAttempt) (result : ChargeResult) :
    Service ChargeOutcome := do
  let state := mapChargeState result.state
  let answered : PaymentAttempt :=
    { attempt with
      state := state, providerRef := result.reference, failureCode := result.failureCode
      failureMessage := result.failureMessage }
  completeAttempt answered state result.reference result.failureCode result.failureMessage
  if state = .succeeded then
    recordProviderHealth record .healthy
    pure { attempt := some answered }
  else
    pure { attempt := some answered }

def chargeWith (record : ProviderRecord) (provider : Provider) (inv : Invoice)
    (method : PaymentMethod) (attempt : PaymentAttempt) : Service ChargeOutcome := do
  if provider.supports inv.currency = false then
    let detail := "This provider does not accept " ++ inv.currency ++ "."
    refuseAttempt attempt "currency_unsupported" detail (errValidation detail)
  else
    match ← perform (.call (.charge record.name provider
        (chargeRequest inv method attempt.idempotencyKey attempt.amountMinor))) with
    | .error reason =>
      completeAttempt attempt .failed "" "provider_error" reason
      recordProviderHealth record .degraded
      pure { attempt := some attempt, error := some (errUpstream record.name reason) }
    | .ok result => finishCharge record attempt result

def chargeThrough (record : ProviderRecord) (inv : Invoice) (method : PaymentMethod)
    (key : String) (amount attemptNumber : Int) : Service ChargeOutcome := do
  let id ← newID
  let now ← unix
  let attempt := newAttempt record inv method id key amount attemptNumber now
  match ← (insertAttempt attempt).attempt with
  | .error failure => pure { error := some failure }
  | .ok _ =>
    match ← (driverInstance record).attempt with
    | .error failure => refuseAttempt attempt "provider_unavailable" failure.text failure
    | .ok provider => chargeWith record provider inv method attempt

def chargeKey (idempotencyKey : String) (index : Nat) (providerName : String) : String :=
  if 0 < index then idempotencyKey ++ ":" ++ providerName else idempotencyKey

def bookCharge (tenantID : String) (inv : Invoice) (amount : Int) (outcome : ChargeOutcome) :
    Service ChargeOutcome := do
  match ← (recordPayment tenantID inv.id amount).attempt with
  | .ok _ => pure outcome
  | .error failure => pure { outcome with error := some failure }

/-- The failover loop. It stops on a settled charge, or after the first provider it
tried when failover is manual. -/
def chargeInOrder (tenantID idempotencyKey : String) (inv : Invoice)
    (methods : List PaymentMethod) (amount : Int) (failoverAllowed : Bool) :
    List ProviderRecord → Nat → Int → ChargeOutcome → Service ChargeOutcome
  | [], _, _, last => pure last
  | record :: rest, index, attemptNumber, last => do
    match usableMethod methods record.name with
    | none =>
      chargeInOrder tenantID idempotencyKey inv methods amount failoverAllowed rest
        (index + 1) attemptNumber last
    | some method =>
      let outcome ← chargeThrough record inv method
        (chargeKey idempotencyKey index record.name) amount attemptNumber
      if outcome.settled then
        bookCharge tenantID inv amount outcome
      else if failoverAllowed = false then
        pure outcome
      else
        chargeInOrder tenantID idempotencyKey inv methods amount failoverAllowed rest
          (index + 1) (attemptNumber + 1) outcome

def chargeFresh (tenantID invoiceID idempotencyKey : String) : Service ChargeOutcome := do
  let inv ← invoice tenantID invoiceID
  refuse (inv.balanceDueMinor ≤ 0) (errValidation "That invoice has nothing left to pay.")
  refuse (inv.state = .draft)
    (errValidation "A draft invoice cannot be charged; issue it first.")
  let methods ← listPaymentMethods tenantID
  refuse (methods = []) (errValidation "No payment method is stored for this account.")
  let records ← enabledProviders
  refuse (records.isEmpty = true) errNoProvider
  let attemptNumber ← nextAttemptNumber inv.id
  let mode ← setting "failover_mode" "automatic"
  chargeInOrder tenantID idempotencyKey inv methods inv.balanceDueMinor (mode != "manual") records
    0 attemptNumber {}

def chargeInvoice (tenantID invoiceID idempotencyKey : String) : Service ChargeOutcome := do
  refuse (isBlank idempotencyKey = true)
    (errValidation "An idempotency key is required for a charge.")
  match ← (attemptByKey idempotencyKey).attempt with
  | .ok prior =>
    refuse (prior.tenantID ≠ tenantID)
      (errForbidden "That idempotency key belongs to another account.")
    pure { attempt := some prior }
  | .error failure =>
    if isNotFound failure then chargeFresh tenantID invoiceID idempotencyKey else .fail failure

def settledAttempt (tenantID invoiceID : String) : Service PaymentAttempt := do
  require (← perform (.attempt (.settled tenantID invoiceID)))
    (errValidation "That invoice has no settled payment to refund.")

def attemptsForInvoice (tenantID invoiceID : String) : Service (List PaymentAttempt) :=
  perform (.attempt (.ofInvoice tenantID invoiceID))

def refundRequest (attempt : PaymentAttempt) (inv : Invoice) (amountMinor : Int)
    (reason : String) : RefundRequest :=
  { idempotencyKey := "refund:" ++ attempt.id ++ ":" ++ itoa amountMinor
    reference := attempt.providerRef, amountMinor := amountMinor, currency := inv.currency
    reason := reason }

def refundState : ChargeState → PaymentState
  | .pending => .pending
  | .authorized => .authorized
  | .succeeded => .succeeded
  | .failed => .failed

def refundCompletedAt (state : ChargeState) : Service Int :=
  if state = .succeeded then unix else pure 0

def recordRefund (refund : Refund) : Service Unit := do
  let stored ← perform (.refund (.insert refund))
  refuse (stored = false) (errInternal "Could not record the refund.")

def refundPayment (tenantID invoiceID : String) (amountMinor : Int) (reason actor : String) :
    Service Refund := do
  let inv ← invoice tenantID invoiceID
  refuse (amountMinor ≤ 0 ∨ inv.paidMinor < amountMinor)
    (errValidation "A refund cannot exceed what was actually paid.")
  let attempt ← settledAttempt tenantID inv.id
  let provider ← providerInstance attempt.provider
  match ← perform (.call (.refund attempt.provider provider
      (refundRequest attempt inv amountMinor reason))) with
  | .error cause => .fail (errUpstream attempt.provider cause)
  | .ok result =>
    let note ← issueCreditNote tenantID inv.id amountMinor .refund reason actor
    let id ← newID
    let createdAt ← unix
    let completedAt ← refundCompletedAt result.state
    let refund : Refund :=
      { id := id, tenantID := tenantID, invoiceID := inv.id, attemptID := attempt.id
        creditNoteID := note.id, provider := attempt.provider, providerRef := result.reference
        amountMinor := amountMinor, currency := inv.currency
        kind := if amountMinor = inv.totalMinor then .full else .part
        state := refundState result.state, reason := reason, createdAt := createdAt
        completedAt := completedAt }
    recordRefund refund
    pure refund

end Cashp
