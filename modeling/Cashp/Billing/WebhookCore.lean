import Cashp.Billing.PaymentsCore
import Cashp.Billing.SubscriptionsCore
import Mathlib.Algebra.Group.Nat.Defs

/-!
Inbound provider deliveries (`webhook.go`) and the way one driver maps its vocabulary onto the
normalized events and states (`provider/stripe/stripe.go`).
-/

namespace Cashp

open Kit Kit.Program

def maxWebhookBody : Nat := 2 ^ 20

structure WebhookResult where
  provider : String
  eventID : String := ""
  eventType : Option EventKind := none
  state : WebhookState := .rejected
  duplicate : Bool := false
  detail : String := ""

structure WebhookOutcome where
  result : WebhookResult
  error : Option BillingError := none

def attemptByReference (providerName reference : String) : Service (Option PaymentAttempt) :=
  if isBlank reference then pure none
  else perform (.attempt (.byReference providerName reference))

def refundAlreadyBooked (attemptID : String) (amountMinor : Int) : Service Bool := do
  let count ← perform (.refund (.countBooked attemptID amountMinor))
  pure (decide (0 < count))

def webhookEvent (id : String) : Service (Option WebhookEvent) := perform (.webhook (.byID id))

def recordWebhook (event : WebhookEvent) : Service Unit := do
  if ← perform (.webhook (.insert event)) then
    pure ()
  else if ← perform .isAlreadyExists then
    .fail (errConflict "That webhook event was already received.")
  else
    .fail (errInternal "Could not record the webhook event.")

def finishWebhook (id : String) (state : WebhookState) (detail : String) : Service Unit := do
  let now ← unix
  let _ ← perform (.webhook (.finish state detail now id))
  pure ()

def recoverSubscription (tenantID : String) : Service Unit := do
  match ← (activeSubscription tenantID).attempt with
  | .ok sub =>
    if sub.state = .pastDue then
      let _ ← transition sub .paymentRecovered
      pure ()
    else
      pure ()
  | .error _ => pure ()

def settleAttempt (attempt : PaymentAttempt) (event : Event) (state : PaymentState) :
    Service (WebhookState × String) := do
  completeAttempt attempt state event.reference "" event.detail
  if state ≠ .succeeded then
    pure (.processed, "attempt marked failed")
  else
    let amount := if 0 < event.amountMinor then event.amountMinor else attempt.amountMinor
    let _ ← recordPayment attempt.tenantID attempt.invoiceID amount
    recoverSubscription attempt.tenantID
    pure (.processed, "payment recorded")

def applyPaymentEvent (providerName : String) (event : Event) (state : PaymentState) :
    Service (WebhookState × String) := do
  match ← attemptByReference providerName event.reference with
  | none => pure (.ignored, "no matching payment attempt")
  | some attempt =>
    if attempt.state = state then
      pure (.processed, "attempt already in " ++ state.text)
    else
      settleAttempt attempt event state

def bookRefund (providerName : String) (event : Event) (attempt : PaymentAttempt) (amount : Int) :
    Service (WebhookState × String) := do
  let note ← issueCreditNote attempt.tenantID attempt.invoiceID amount .refund
    "refunded at the provider" "system"
  let id ← newID
  let createdAt ← unix
  let completedAt ← unix
  recordRefund
    { id := id, tenantID := attempt.tenantID, invoiceID := attempt.invoiceID
      attemptID := attempt.id, creditNoteID := note.id, provider := providerName
      providerRef := event.reference, amountMinor := amount, currency := attempt.currency
      kind := if attempt.amountMinor ≤ amount then .full else .part, state := .succeeded
      reason := "provider refund", createdAt := createdAt, completedAt := completedAt }
  pure (.processed, "credit note " ++ note.number ++ " issued")

def applyRefundEvent (providerName : String) (event : Event) : Service (WebhookState × String) := do
  match ← attemptByReference providerName event.reference with
  | none => pure (.ignored, "no matching payment attempt")
  | some attempt =>
    let amount := if event.amountMinor ≤ 0 then attempt.amountMinor else event.amountMinor
    if ← refundAlreadyBooked attempt.id amount then
      pure (.processed, "refund already booked")
    else
      bookRefund providerName event attempt amount

def applyDisputeEvent (providerName : String) (event : Event) :
    Service (WebhookState × String) := do
  match ← attemptByReference providerName event.reference with
  | none => pure (.ignored, "no matching payment attempt")
  | some attempt =>
    let _ ← markInvoiceState attempt.tenantID attempt.invoiceID .disputed
    pure (.processed, "invoice marked disputed")

def applyMethodExpiring (providerName : String) (event : Event) :
    Service (WebhookState × String) := do
  match ← perform (.method (.byToken providerName event.reference)) with
  | none => pure (.ignored, "no matching payment method")
  | some method =>
    let _ ← perform (.method (.setState .expired method.id))
    pure (.processed, "payment method flagged expiring")

def applyWebhook (providerName : String) (event : Event) : Service (WebhookState × String) :=
  match event.kind with
  | .paymentSucceeded => applyPaymentEvent providerName event .succeeded
  | .paymentFailed => applyPaymentEvent providerName event .failed
  | .refunded => applyRefundEvent providerName event
  | .disputed => applyDisputeEvent providerName event
  | .methodExpiring => applyMethodExpiring providerName event
  | .ignored => pure (.ignored, "no action for " ++ event.kind.text)

def authenticate (providerName : String) (delivery : Delivery) : Service Event := do
  let record ← providerByName providerName
  refuse (record.enabled = false) (errProviderDisabled providerName)
  refuse (maxWebhookBody < delivery.body.length)
    (errValidation "The webhook body is too large.")
  let secret ← webhookSecret providerName
  refuse (secret = "") (errValidation "No webhook secret is configured for this provider.")
  let provider ← driverInstance record
  match provider.verifyWebhook delivery secret with
  | .ok event => pure event
  | .error _ => .fail (errForbidden "The webhook signature could not be verified.")

def ledgerKey (providerName eventID : String) : String := providerName ++ ":" ++ eventID

def applyRecorded (providerName : String) (event : Event) (result : WebhookResult) :
    Service WebhookOutcome := do
  match ← (applyWebhook providerName event).attempt with
  | .error failure =>
    finishWebhook (ledgerKey providerName event.id) .failed failure.text
    pure { result := { result with state := .failed, detail := failure.text }
           error := some failure }
  | .ok (state, detail) =>
    finishWebhook (ledgerKey providerName event.id) state detail
    pure { result := { result with state := state, detail := detail } }

def applyDelivery (providerName : String) (event : Event) : Service WebhookOutcome := do
  let result : WebhookResult :=
    { provider := providerName, eventID := event.id, eventType := some event.kind }
  match ← webhookEvent (ledgerKey providerName event.id) with
  | some existing =>
    pure { result := { result with
      duplicate := true, state := existing.state, detail := "already processed" } }
  | none =>
    let now ← unix
    match ← (recordWebhook
        { id := ledgerKey providerName event.id, provider := providerName, eventID := event.id
          eventType := event.kind, state := .received, receivedAt := now }).attempt with
    | .error failure =>
      if isConflictErr failure then
        pure { result := { result with duplicate := true, state := .processed } }
      else
        pure { result := result, error := some failure }
    | .ok _ => applyRecorded providerName event result

def handleWebhook (providerName : String) (delivery : Delivery) : Service WebhookOutcome := do
  match ← (authenticate providerName delivery).attempt with
  | .error failure => pure { result := { provider := providerName }, error := some failure }
  | .ok event => applyDelivery providerName event

def attemptByEventProvider (event : WebhookEvent) : Service (Option PaymentAttempt) :=
  perform (.attempt (.recentOf event.provider (event.receivedAt - secondsPerDay)))

def replayFromProvider (event : WebhookEvent) : Service (WebhookState × String) := do
  let provider ← providerInstance event.provider
  match ← attemptByEventProvider event with
  | none => pure (.ignored, "no matching payment attempt")
  | some attempt =>
    match ← perform (.call (.getPayment event.provider provider attempt.providerRef)) with
    | .error cause => .fail (errUpstream event.provider cause)
    | .ok live =>
      applyPaymentEvent event.provider
        { id := event.eventID, kind := event.eventType, reference := attempt.providerRef
          amountMinor := live.amountMinor, currency := live.currency
          detail := live.failureMessage } (mapChargeState live.state)

def retryEach : List WebhookEvent → Service Unit
  | [] => pure ()
  | event :: rest => do
    match ← (replayFromProvider event).attempt with
    | .error failure =>
      finishWebhook event.id .deadLetter failure.text
      retryEach rest
    | .ok (state, detail) =>
      finishWebhook event.id state detail
      retryEach rest

def retryFailedWebhooks : Service Unit := do
  let pending ← perform (.webhook .failedFirst)
  retryEach pending

def mapEventKind (stripeType : String) : EventKind :=
  if ["payment_intent.succeeded", "charge.succeeded"].contains stripeType then .paymentSucceeded
  else if ["payment_intent.payment_failed", "charge.failed"].contains stripeType then .paymentFailed
  else if ["charge.refunded", "refund.created"].contains stripeType then .refunded
  else if stripeType == "charge.dispute.created" then .disputed
  else if ["payment_method.automatically_updated", "customer.source.expiring"].contains stripeType
  then .methodExpiring
  else .ignored

structure PaymentError where
  code : String
  declineCode : String
  message : String

structure PaymentIntent where
  id : String
  status : String
  amount : Int
  currency : String
  lastPaymentError : Option PaymentError

def PaymentIntent.chargeState (intent : PaymentIntent) : ChargeState :=
  if intent.status == "succeeded" then .succeeded
  else if intent.status == "requires_capture" then .authorized
  else if ["processing", "requires_confirmation", "requires_action"].contains intent.status
  then .pending
  else .failed

def PaymentIntent.result (intent : PaymentIntent) : ChargeResult :=
  let base : ChargeResult :=
    { reference := intent.id, state := intent.chargeState, amountMinor := intent.amount
      currency := upperText intent.currency }
  match intent.lastPaymentError with
  | none => base
  | some failure =>
    { base with
      failureCode := if failure.declineCode = "" then failure.code else failure.declineCode
      failureMessage := failure.message
      state := if base.state = .succeeded then .succeeded else .failed }

end Cashp
