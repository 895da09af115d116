import Cashp.Billing.PaymentsCore
import Cashp.Billing.SubscriptionsCore

/-!
The renewal and dunning passes (`dunning.go`).
-/

namespace Cashp

open Kit Kit.Program

def insertDay (day : Int) : List Int → List Int
  | [] => [day]
  | existing :: rest => if day < existing then day :: existing :: rest
      else existing :: insertDay day rest

def addDay (days : List Int) (part : String) : List Int :=
  match parseInt64 (trimSpace part) with
  | some day => if day ≤ 0 ∨ day ∈ days then days else insertDay day days
  | none => days

def splitCommas : List Char → List Char → List String
  | [], part => [String.ofList part.reverse]
  | c :: rest, part =>
    if c = ',' then String.ofList part.reverse :: splitCommas rest []
    else splitCommas rest (c :: part)

def parseDayList (raw : String) : List Int :=
  (splitCommas raw.toList []).foldl addDay []

def retrySchedule : Service (List Int) := do
  let raw ← setting "retry_schedule_days" "1,3,5,7"
  let days := parseDayList raw
  pure (if days = [] then parseDayList "1,3,5,7" else days)

def graceDays : Service Int := do
  let days ← settingInt "grace_period_days" 7
  pure (if days < 0 then 7 else days)

def dueRetryOffset (schedule : List Int) (dueAt now : Int) (attemptsMade : Nat) : Option Int :=
  if dueAt ≤ 0 ∨ now < dueAt then none
  else
    match schedule.drop attemptsMade with
    | [] => none
    | offset :: _ => if offset ≤ (now - dueAt).tdiv secondsPerDay then some offset else none

def suspend (sub : Subscription) (inv : Invoice) : Service Unit := do
  let _ ← transition sub .graceExpired
  if inv.state ≠ .overdue then
    let _ ← markInvoiceState inv.tenantID inv.id .overdue
    pure ()
  else
    pure ()

def escalateSubscription (inv : Invoice) (sub : Subscription) (graceSeconds now : Int) :
    Service Unit := do
  if sub.state = .active ∨ sub.state = .trialing then
    let moved ← transition sub .paymentFailed
    let _ ← startGrace moved
    pure ()
  else if sub.state ≠ .pastDue then
    pure ()
  else
    let graceEnd := if sub.graceEndsAt ≤ 0 then inv.dueAt + graceSeconds else sub.graceEndsAt
    if now < graceEnd then pure () else suspend sub inv

def escalate (inv : Invoice) (graceSeconds now : Int) : Service Unit := do
  if inv.subscriptionID = "" then
    if inv.state = .due ∧ inv.dueAt < now then
      let _ ← markInvoiceState inv.tenantID inv.id .overdue
      pure ()
    else
      pure ()
  else
    match ← (subscription inv.tenantID inv.subscriptionID).attempt with
    | .error failure => if isNotFound failure then pure () else .fail failure
    | .ok sub => escalateSubscription inv sub graceSeconds now

def dunningKey (inv : Invoice) (offset : Int) : String :=
  "dunning:" ++ inv.id ++ ":" ++ itoa offset

def retryCharge (schedule : List Int) (inv : Invoice) (now : Int) : Service Invoice := do
  let attempts ← attemptsForInvoice inv.tenantID inv.id
  match dueRetryOffset schedule inv.dueAt now attempts.length with
  | none => pure inv
  | some offset =>
    let _ ← (chargeInvoice inv.tenantID inv.id (dunningKey inv offset)).attempt
    match ← (invoice inv.tenantID inv.id).attempt with
    | .ok fresh => pure fresh
    | .error _ => pure inv

def dunInvoice (schedule : List Int) (graceSeconds now : Int) (inv : Invoice) : Service Unit := do
  if inv.balanceDueMinor ≤ 0 then
    pure ()
  else
    let current ← retryCharge schedule inv now
    if current.balanceDueMinor ≤ 0 then
      pure ()
    else
      let _ ← (escalate current graceSeconds now).attempt
      pure ()

def dunEach (schedule : List Int) (graceSeconds now : Int) : List Invoice → Service Unit
  | [] => pure ()
  | inv :: rest => do
    dunInvoice schedule graceSeconds now inv
    dunEach schedule graceSeconds now rest

/-- The grace in seconds is exact for settings of up to `10 ^ 14` days. -/
def runDunning : Service Unit := do
  if ← enabled then
    let now ← unix
    let invoices ← openInvoices now
    let schedule ← retrySchedule
    let days ← graceDays
    dunEach schedule (days * secondsPerDay) now invoices
  else
    pure ()

def convertTrial (sub : Subscription) (now : Int) : Service Subscription :=
  if sub.state = .trialing ∧ 0 < sub.trialEndsAt ∧ sub.trialEndsAt ≤ now then
    transition sub .trialConverted
  else pure sub

def promotePlan (sub : Subscription) (now : Int) : Service Subscription :=
  if sub.pendingPlanID ≠ "" ∧ 0 < sub.pendingEffectiveAt ∧ sub.pendingEffectiveAt ≤ now then
    applyPendingPlan sub
  else pure sub

def renewalKey (sub : Subscription) (inv : Invoice) : String :=
  "renewal:" ++ sub.id ++ ":" ++ itoa inv.periodStart

def billPeriod (sub : Subscription) : Service Unit := do
  let inv ← generateSubscriptionInvoice sub
  let advanced ← advanceRenewal sub
  if 0 < inv.balanceDueMinor then
    let _ ← (chargeInvoice advanced.tenantID inv.id (renewalKey advanced inv)).attempt
    pure ()
  else
    pure ()

def renewOne (sub : Subscription) (now : Int) : Service Unit := do
  let current ← convertTrial sub now
  if now < current.periodEnd then
    pure ()
  else if current.cancelAtPeriodEnd then
    let _ ← transition current .periodEnded
    pure ()
  else
    let current ← promotePlan current now
    billPeriod current

def renewEach (now : Int) : List Subscription → Service Unit
  | [] => pure ()
  | sub :: rest => do
    let _ ← (renewOne sub now).attempt
    renewEach now rest

def runRenewals : Service Unit := do
  if ← enabled then
    let now ← unix
    let subs ← dueSubscriptions now
    renewEach now subs
  else
    pure ()

end Cashp
