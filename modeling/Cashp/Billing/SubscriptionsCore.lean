import Cashp.Billing.InvoicesCore

/-!
The subscription lifecycle (`subscriptions.go`), with the writes of the renewal and dunning passes.
Every write of a row read before is guarded by its version.
-/

namespace Cashp

open Kit Kit.Program

def planChangeError : BillingError :=
  errConflict "The subscription changed while you were editing it; reload and try again."

def updateSubscription (change : SubscriptionUpdate) (sub : Subscription) (tenantID : String) :
    Service Unit := do
  let affected ← perform (.subscription (.update change sub.id tenantID sub.version))
  requireRows affected planChangeError

def openingState (target : Plan) : SubscriptionState :=
  if 0 < target.trialDays then .trialing
  else if target.priceMinor = 0 then .active
  else .pendingActivation

def openingSubscription (target : Plan) (buyer : Account) (id tenantID : String) (now : Int) :
    Subscription :=
  { id := id, tenantID := tenantID, accountID := buyer.id, planID := target.id
    state := openingState target, cycle := target.cycle, currency := target.currency
    priceMinor := target.priceMinor
    trialEndsAt := if 0 < target.trialDays then addDays now target.trialDays else 0
    periodStart := now, periodEnd := (advancePeriod now target.cycle).getD 0
    createdAt := now, updatedAt := now }

def openSubscription (tenantID planID : String) : Service Subscription := do
  let target ← plan planID
  refuse (target.active = false) (errValidation "That plan is not open for new subscriptions.")
  let buyer ← ensureAccount tenantID
  let now ← unix
  let id ← newID
  let opened := openingSubscription target buyer id tenantID now
  let stored ← perform (.subscription (.insert opened))
  refuse (stored = false) (errInternal "Could not create the subscription.")
  pure opened

def subscribe (tenantID planID : String) : Service Subscription := do
  match ← (activeSubscription tenantID).attempt with
  | .ok _ => .fail (errConflict
      "This tenant already has an active subscription; change the plan instead.")
  | .error failure => if isNotFound failure then openSubscription tenantID planID else .fail failure

def prorationPreview (sub : Subscription) (target : Plan) (now : Int) : ProrationPreview :=
  let period := sub.periodEnd - sub.periodStart
  let remaining := if sub.periodEnd - now < 0 then 0 else sub.periodEnd - now
  let preview : ProrationPreview :=
    { fromPlanID := sub.planID, toPlanID := target.id, currency := sub.currency
      effectiveAt := now, periodSec := period, remainingSec := remaining }
  if target.priceMinor ≤ sub.priceMinor then
    { preview with effectiveAt := sub.periodEnd }
  else if period ≤ 0 ∨ remaining = 0 then
    { preview with
      immediate := true, chargeMinor := target.priceMinor, dueNowMinor := target.priceMinor }
  else
    let credit := prorate sub.priceMinor remaining period
    let charge := prorate target.priceMinor remaining period
    { preview with
      immediate := true, creditMinor := credit, chargeMinor := charge
      dueNowMinor := if 0 ≤ charge - credit then charge - credit else 0
      refundMinor := if 0 ≤ charge - credit then 0 else -(charge - credit) }

def previewPlanChange (tenantID toPlanID : String) : Service ProrationPreview := do
  let sub ← activeSubscription tenantID
  let target ← plan toPlanID
  refuse (target.id = sub.planID) (errValidation "The tenant is already on that plan.")
  refuse (target.currency ≠ sub.currency) (errValidation "A plan change cannot cross currencies.")
  refuse (target.active = false) (errValidation "That plan is not open for new subscriptions.")
  let now ← unix
  pure (prorationPreview sub target now)

def settleProration (tenantID : String) (sub : Subscription) (target : Plan)
    (preview : ProrationPreview) : Service Unit := do
  if 0 < preview.dueNowMinor then
    let _ ← raiseProrationInvoice tenantID sub target preview
    creditAccountBalance tenantID preview.refundMinor
  else
    creditAccountBalance tenantID preview.refundMinor

def moveOn (source : SubscriptionState) (event : LifecycleEvent) (refusal : String → BillingError) :
    Service SubscriptionState :=
  match nextSubscriptionState source event with
  | .ok target => .done target
  | .error reason => .fail (refusal reason)

def changePlan (tenantID toPlanID : String) : Service Subscription := do
  let preview ← previewPlanChange tenantID toPlanID
  let sub ← activeSubscription tenantID
  let target ← plan toPlanID
  let now ← unix
  if preview.immediate = false then
    updateSubscription (.schedulePlan target.id preview.effectiveAt now) sub tenantID
    subscription tenantID sub.id
  else
    let nextState ← moveOn sub.state .planChanged fun _ => errConflict
      ("A plan change is not allowed while the subscription is " ++ sub.state.text ++ ".")
    updateSubscription (.changePlan target.id target.priceMinor target.cycle nextState now)
      sub tenantID
    settleProration tenantID sub target preview
    subscription tenantID sub.id

def cancel (tenantID subID : String) (immediate : Bool) : Service Subscription := do
  let sub ← subscription tenantID subID
  let nextState ← moveOn sub.state .cancelled fun _ => errConflict
    ("This subscription is already " ++ sub.state.text ++ ".")
  let now ← unix
  let endedAt := if immediate then now else 0
  updateSubscription (.cancel nextState now endedAt (!immediate)) sub tenantID
  subscription tenantID sub.id

def resume (tenantID subID : String) : Service Subscription := do
  let sub ← subscription tenantID subID
  if sub.state = .cancelled ∧ sub.endedAt = 0 then
    let now ← unix
    updateSubscription (.withdrawCancellation .active now) sub tenantID
    subscription tenantID sub.id
  else
    let nextState ← moveOn sub.state .resumed fun _ => errConflict
      ("A subscription that is " ++ sub.state.text ++ " cannot be resumed.")
    let now ← unix
    updateSubscription (.setState nextState now) sub tenantID
    subscription tenantID sub.id

def transition (sub : Subscription) (event : LifecycleEvent) : Service Subscription := do
  let nextState ← moveOn sub.state event errConflict
  let now ← unix
  let endedAt := if nextState = .expired ∧ sub.endedAt = 0 then now else sub.endedAt
  updateSubscription (.transition nextState endedAt now) sub sub.tenantID
  subscription sub.tenantID sub.id

def graceLength (target : Except BillingError Plan) : Int :=
  match target with
  | .ok found => if 0 < found.graceDays then found.graceDays else 7
  | .error _ => 7

def startGrace (sub : Subscription) : Service Subscription := do
  let target ← (plan sub.planID).attempt
  let started ← unix
  let updated ← transition sub .paymentFailed
  let now ← unix
  let _ ← perform (.subscription (.setGrace (addDays started (graceLength target)) now
    updated.id updated.tenantID))
  subscription updated.tenantID updated.id

def advanceFrom (sub : Subscription) (start : Int) : Service Subscription := do
  match advancePeriod start sub.cycle with
  | none => pure sub
  | some periodEnd =>
    let now ← unix
    updateSubscription (.advance start periodEnd now) sub sub.tenantID
    subscription sub.tenantID sub.id

def advanceRenewal (sub : Subscription) : Service Subscription := do
  if sub.periodEnd = 0 then
    let start ← unix
    advanceFrom sub start
  else
    advanceFrom sub sub.periodEnd

def applyPendingPlan (sub : Subscription) : Service Subscription := do
  let today ← unix
  if sub.pendingPlanID = "" ∨ today < sub.pendingEffectiveAt then
    pure sub
  else
    let target ← plan sub.pendingPlanID
    let now ← unix
    updateSubscription (.applyPlan target.id target.priceMinor target.cycle now) sub sub.tenantID
    subscription sub.tenantID sub.id

def dueSubscriptions (cutoff : Int) : Service (List Subscription) :=
  perform (.subscription (.due cutoff))

end Cashp
