import Cashp.Billing.MoneyCore
import Cashp.Billing.StateCore

/-!
The billing records (`models.go`), the errors (`errors.go`) and the provider interface
(`provider/provider.go`). Fields that no modelled function reads are left out.
-/

namespace Cashp

inductive ErrorCode
  | unavailable
  | notFound
  | validation
  | conflict
  | forbidden
  | internal
  deriving DecidableEq

def ErrorCode.text : ErrorCode → String
  | .unavailable => "UNAVAILABLE"
  | .notFound => "NOT_FOUND"
  | .validation => "VALIDATION_FAILED"
  | .conflict => "CONFLICT"
  | .forbidden => "FORBIDDEN"
  | .internal => "SERVER_ERROR"

structure BillingError where
  code : ErrorCode
  status : Nat
  message : String
  cause : Option String := none
  deriving DecidableEq

def BillingError.text (failure : BillingError) : String :=
  failure.code.text ++ ": " ++ failure.message ++
    match failure.cause with
    | some cause => ": " ++ cause
    | none => ""

def isNotFound (failure : BillingError) : Bool := failure.code == .notFound

def isConflictErr (failure : BillingError) : Bool := failure.code == .conflict

def errProviderDisabled (name : String) : BillingError :=
  { code := .unavailable, status := 503
    message := "Payment provider \"" ++ name ++ "\" is not enabled." }

def errNoProvider : BillingError :=
  { code := .unavailable, status := 503
    message := "No payment provider is enabled; the invoice was issued for manual payment." }

def errNotFound (kind : String) : BillingError :=
  { code := .notFound, status := 404, message := "No such " ++ kind ++ "." }

def errValidation (message : String) : BillingError :=
  { code := .validation, status := 422, message := message }

def errConflict (message : String) : BillingError :=
  { code := .conflict, status := 409, message := message }

def errForbidden (message : String) : BillingError :=
  { code := .forbidden, status := 403, message := message }

def errImmutable (number : String) : BillingError :=
  { code := .conflict, status := 409
    message := "Invoice " ++ number ++
      " has been issued and cannot be changed; raise a credit note instead." }

def errInternal (message : String) : BillingError :=
  { code := .internal, status := 500, message := message }

def errUpstream (provider cause : String) : BillingError :=
  { code := .unavailable, status := 503, cause := some cause
    message := "Payment provider \"" ++ provider ++ "\" is not responding." }

structure Account where
  id : String
  tenantID : String
  currency : String
  billingEmail : String := ""
  legalName : String := ""
  addressLine1 : String := ""
  addressLine2 : String := ""
  city : String := ""
  region : String := ""
  postalCode : String := ""
  country : String := ""
  taxID : String := ""
  taxIDStatus : TaxIDStatus := .none
  isBusiness : Bool := false
  balanceMinor : Int := 0
  createdAt : Int := 0
  updatedAt : Int := 0
  version : Int := 1

structure PlanQuota where
  id : String
  planID : String
  resource : String
  limitValue : Int
  enforcement : Enforcement
  burstValue : Int
  overageUnitPriceMinor : Int
  deriving DecidableEq

structure Plan where
  id : String
  code : String
  name : String
  currency : String
  priceMinor : Int
  cycle : Cycle
  trialDays : Int
  graceDays : Int
  overagePolicy : OveragePolicy
  active : Bool
  quotas : List PlanQuota := []
  deriving DecidableEq

structure QuotaOverride where
  id : String
  tenantID : String
  resource : String
  limitValue : Int
  enforcement : Enforcement
  createdAt : Int
  expiresAt : Int

structure Subscription where
  id : String
  tenantID : String
  accountID : String
  planID : String
  state : SubscriptionState
  cycle : Cycle
  currency : String
  priceMinor : Int
  quantity : Int := 1
  trialEndsAt : Int := 0
  periodStart : Int
  periodEnd : Int := 0
  graceEndsAt : Int := 0
  cancelAtPeriodEnd : Bool := false
  cancelledAt : Int := 0
  endedAt : Int := 0
  pendingPlanID : String := ""
  pendingEffectiveAt : Int := 0
  createdAt : Int
  updatedAt : Int
  version : Int := 1
  deriving DecidableEq

def SubscriptionState.entitles (state : SubscriptionState) (endedAt : Int) : Bool :=
  match state with
  | .trialing | .active | .pastDue => true
  | .cancelled => endedAt == 0
  | _ => false

def Subscription.active (sub : Subscription) : Bool :=
  sub.state.entitles sub.endedAt

structure Meter where
  code : String
  name : String
  meterType : MeterType
  resource : String
  unit : String
  deriving DecidableEq

structure UsageRecord where
  id : String
  tenantID : String
  meterCode : String
  periodStart : Int
  periodEnd : Int
  value : Int
  samples : Int := 1
  state : UsageState := .included
  dimensions : String
  recordedAt : Int
  deriving DecidableEq

structure UsageTotal where
  meter : String
  total : Int
  resource : String

structure UsageRollup where
  id : String
  tenantID : String
  meterCode : String
  periodStart : Int
  periodEnd : Int
  totalValue : Int
  includedValue : Int
  overageValue : Int
  invoiced : Bool
  rolledAt : Int

structure InvoiceLine where
  id : String := ""
  invoiceID : String := ""
  tenantID : String := ""
  position : Int := 0
  kind : LineKind
  description : String
  quantityMilli : Int
  unitPriceMinor : Int
  amountMinor : Int
  taxRateBPS : Int := 0
  taxMinor : Int := 0
  meterCode : String := ""
  linePeriodStart : Int := 0
  linePeriodEnd : Int := 0
  deriving DecidableEq

structure BuyerSnapshot where
  legalName : String
  billingEmail : String
  addressLine1 : String
  addressLine2 : String
  city : String
  region : String
  postalCode : String
  country : String
  taxID : String
  isBusiness : Bool
  deriving DecidableEq

def buyerSnapshot (account : Account) : BuyerSnapshot where
  legalName := account.legalName
  billingEmail := account.billingEmail
  addressLine1 := account.addressLine1
  addressLine2 := account.addressLine2
  city := account.city
  region := account.region
  postalCode := account.postalCode
  country := account.country
  taxID := account.taxID
  isBusiness := account.isBusiness

structure Invoice where
  id : String
  tenantID : String
  accountID : String
  subscriptionID : String
  number : String := ""
  state : InvoiceState
  currency : String
  subtotalMinor : Int := 0
  discountMinor : Int := 0
  taxMinor : Int := 0
  totalMinor : Int := 0
  paidMinor : Int := 0
  creditedMinor : Int := 0
  taxRateBPS : Int := 0
  taxKind : TaxKind := .none
  taxJurisdiction : String := ""
  reverseCharge : Bool := false
  periodStart : Int
  periodEnd : Int
  issuedAt : Int := 0
  dueAt : Int := 0
  paidAt : Int := 0
  voidedAt : Int := 0
  buyer : Option BuyerSnapshot := none
  lines : List InvoiceLine := []
  createdAt : Int
  updatedAt : Int
  version : Int := 1
  deriving DecidableEq

def Invoice.balanceDueMinor (inv : Invoice) : Int :=
  clampNonNegative (inv.totalMinor - inv.paidMinor - inv.creditedMinor)

structure ProrationPreview where
  fromPlanID : String
  toPlanID : String
  currency : String
  creditMinor : Int := 0
  chargeMinor : Int := 0
  dueNowMinor : Int := 0
  refundMinor : Int := 0
  immediate : Bool := false
  effectiveAt : Int
  remainingSec : Int := 0
  periodSec : Int := 0

structure CreditNote where
  id : String
  tenantID : String
  invoiceID : String
  number : String
  currency : String
  amountMinor : Int
  taxMinor : Int
  reason : CreditReason
  note : String
  issuedAt : Int
  createdBy : String

structure PaymentMethod where
  id : String
  tenantID : String
  provider : String
  providerToken : String
  providerCustomer : String
  isDefault : Bool
  state : MethodState
  createdAt : Int

structure PaymentAttempt where
  id : String
  tenantID : String
  accountID : String
  invoiceID : String
  methodID : String
  provider : String
  idempotencyKey : String
  amountMinor : Int
  currency : String
  state : PaymentState
  providerRef : String := ""
  failureCode : String := ""
  failureMessage : String := ""
  attemptNumber : Int
  attemptedAt : Int
  completedAt : Int := 0

structure Refund where
  id : String
  tenantID : String
  invoiceID : String
  attemptID : String
  creditNoteID : String
  provider : String
  providerRef : String
  amountMinor : Int
  currency : String
  kind : RefundKind
  state : PaymentState
  reason : String
  createdAt : Int
  completedAt : Int

structure TaxRate where
  id : String
  country : String
  region : String
  kind : TaxKind
  name : String
  rateBPS : Int
  reverseChargeB2B : Bool
  active : Bool

structure ProviderRecord where
  name : String
  enabled : Bool
  testMode : Bool
  priority : Int
  credentials : Except BillingError (List (String × String))
  credentialsTest : Except BillingError (List (String × String))
  healthState : HealthState

inductive EventKind
  | paymentSucceeded
  | paymentFailed
  | refunded
  | disputed
  | methodExpiring
  | ignored
  deriving DecidableEq

def EventKind.text : EventKind → String
  | .paymentSucceeded => "payment.succeeded"
  | .paymentFailed => "payment.failed"
  | .refunded => "payment.refunded"
  | .disputed => "payment.disputed"
  | .methodExpiring => "method.expiring"
  | .ignored => "ignored"

structure WebhookEvent where
  id : String
  provider : String
  eventID : String
  eventType : EventKind
  state : WebhookState
  detail : String := ""
  receivedAt : Int
  processedAt : Int := 0

inductive ChargeState
  | pending
  | authorized
  | succeeded
  | failed
  deriving DecidableEq

structure ChargeRequest where
  idempotencyKey : String
  amountMinor : Int
  currency : String
  methodToken : String
  customerRef : String
  description : String
  invoiceNumber : String
  capture : Bool

structure ChargeResult where
  reference : String
  state : ChargeState
  amountMinor : Int
  currency : String
  failureCode : String := ""
  failureMessage : String := ""

structure RefundRequest where
  idempotencyKey : String
  reference : String
  amountMinor : Int
  currency : String
  reason : String

structure RefundResult where
  reference : String
  state : ChargeState
  amountMinor : Int

structure Event where
  id : String
  kind : EventKind
  reference : String
  amountMinor : Int
  currency : String
  detail : String

structure Delivery where
  header : List (String × String)
  body : List UInt8

structure Provider where
  currencies : List String
  charge : Nat → ChargeRequest → Except String ChargeResult
  refund : Nat → RefundRequest → Except String RefundResult
  getPayment : Nat → String → Except String ChargeResult
  verifyWebhook : Delivery → String → Except String Event

def Provider.supports (provider : Provider) (currency : String) : Bool :=
  provider.currencies.isEmpty || provider.currencies.contains currency

structure Config where
  credentials : List (String × String)
  testMode : Bool

abbrev Driver := Config → Except String Provider

inductive ProviderCall
  | charge (provider : String) (request : ChargeRequest) (answer : Except String ChargeResult)
  | refund (provider : String) (request : RefundRequest) (answer : Except String RefundResult)
  | getPayment (provider : String) (reference : String) (answer : Except String ChargeResult)

end Cashp
