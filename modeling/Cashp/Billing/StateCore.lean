import Mathlib.Data.List.Basic

/-!
The lifecycle states of subscriptions, invoices, payments and webhook deliveries, and the legal
moves (`state.go`).
-/

namespace Cashp

inductive SubscriptionState
  | pendingActivation
  | trialing
  | active
  | pastDue
  | paused
  | cancelled
  | expired
  deriving DecidableEq

def SubscriptionState.text : SubscriptionState → String
  | .pendingActivation => "pending_activation"
  | .trialing => "trialing"
  | .active => "active"
  | .pastDue => "past_due"
  | .paused => "paused"
  | .cancelled => "cancelled"
  | .expired => "expired"

inductive LifecycleEvent
  | subscriptionCreated
  | trialStarted
  | trialConverted
  | trialExpired
  | paymentAdded
  | paymentFailed
  | paymentRecovered
  | renewed
  | userPaused
  | resumed
  | cancelled
  | graceExpired
  | autoExpired
  | periodEnded
  | planChanged
  deriving DecidableEq

def LifecycleEvent.text : LifecycleEvent → String
  | .subscriptionCreated => "subscription_created"
  | .trialStarted => "trial_started"
  | .trialConverted => "trial_converted"
  | .trialExpired => "trial_expired"
  | .paymentAdded => "payment_method_added"
  | .paymentFailed => "payment_failed"
  | .paymentRecovered => "payment_recovered"
  | .renewed => "renewed"
  | .userPaused => "user_paused"
  | .resumed => "resumed"
  | .cancelled => "cancelled"
  | .graceExpired => "grace_expired"
  | .autoExpired => "auto_expired"
  | .periodEnded => "period_ended"
  | .planChanged => "subscription_modified"

def nextSubscriptionState (source : SubscriptionState) (event : LifecycleEvent) :
    Except String SubscriptionState :=
  match source, event with
  | .pendingActivation, .paymentAdded => .ok .active
  | .pendingActivation, .trialStarted => .ok .trialing
  | .pendingActivation, .cancelled => .ok .cancelled
  | .trialing, .trialConverted => .ok .active
  | .trialing, .trialExpired => .ok .expired
  | .trialing, .cancelled => .ok .cancelled
  | .active, .paymentFailed => .ok .pastDue
  | .active, .userPaused => .ok .paused
  | .active, .cancelled => .ok .cancelled
  | .active, .renewed => .ok .active
  | .active, .planChanged => .ok .active
  | .pastDue, .paymentRecovered => .ok .active
  | .pastDue, .graceExpired => .ok .expired
  | .pastDue, .cancelled => .ok .cancelled
  | .paused, .resumed => .ok .active
  | .paused, .cancelled => .ok .cancelled
  | .paused, .autoExpired => .ok .expired
  | .cancelled, .periodEnded => .ok .expired
  | source, event =>
    .error ("billing: \"" ++ event.text ++ "\" is not a legal event in state \"" ++
      source.text ++ "\"")

inductive InvoiceState
  | draft
  | issued
  | due
  | overdue
  | processing
  | partlyPaid
  | paid
  | disputed
  | cancelled
  | refunded
  deriving DecidableEq

def InvoiceState.text : InvoiceState → String
  | .draft => "draft"
  | .issued => "issued"
  | .due => "due"
  | .overdue => "overdue"
  | .processing => "processing"
  | .partlyPaid => "partial"
  | .paid => "paid"
  | .disputed => "disputed"
  | .cancelled => "cancelled"
  | .refunded => "refunded"

def invoiceTargets : InvoiceState → List InvoiceState
  | .draft => [.issued, .cancelled]
  | .issued => [.due, .processing, .disputed, .cancelled]
  | .due => [.overdue, .processing, .partlyPaid, .disputed, .cancelled]
  | .overdue => [.processing, .partlyPaid, .disputed, .cancelled]
  | .processing => [.paid, .partlyPaid, .due, .disputed]
  | .partlyPaid => [.processing, .paid, .overdue, .disputed, .cancelled]
  | .paid => [.refunded, .disputed]
  | .disputed => [.paid, .refunded, .cancelled, .due]
  | .cancelled => []
  | .refunded => []

def canTransitionInvoice (source target : InvoiceState) : Bool :=
  (invoiceTargets source).contains target

def invoiceFrozen (state : InvoiceState) : Bool :=
  decide (state ≠ .draft)

inductive Cycle
  | monthly
  | quarterly
  | semiAnnual
  | annual
  | biennial
  | triennial
  | lifetime
  deriving DecidableEq

def cycleMonths : Cycle → Int
  | .monthly => 1
  | .quarterly => 3
  | .semiAnnual => 6
  | .annual => 12
  | .biennial => 24
  | .triennial => 36
  | .lifetime => 0

inductive PaymentState
  | pending
  | authorized
  | succeeded
  | failed
  | voided
  | refunded
  deriving DecidableEq

def PaymentState.text : PaymentState → String
  | .pending => "pending"
  | .authorized => "authorized"
  | .succeeded => "succeeded"
  | .failed => "failed"
  | .voided => "voided"
  | .refunded => "refunded"

inductive RefundKind
  | full
  | part

inductive CreditReason
  | adjustment
  | refund
  | goodwill
  | error

inductive WebhookState
  | received
  | processed
  | ignored
  | rejected
  | failed
  | deadLetter
  deriving DecidableEq

inductive HealthState
  | unknown
  | healthy
  | degraded
  | unhealthy

inductive MethodState
  | active
  | expired
  | removed
  deriving DecidableEq

inductive LineKind
  | subscription
  | proration
  | overage
  | adjustment
  | credit
  deriving DecidableEq

inductive MeterType
  | counter
  | gauge
  | histogram
  deriving DecidableEq

inductive UsageState
  | included
  | overage
  | exempt
  deriving DecidableEq

inductive TaxKind
  | none
  | vat
  | gst
  | sales
  deriving DecidableEq

inductive TaxIDStatus
  | none
  | unverified
  | valid
  | invalid
  deriving DecidableEq

inductive Enforcement
  | hard
  | soft
  | burst
  deriving DecidableEq

inductive OveragePolicy
  | block
  | allowWithCharge
  | allowWithWarning
  | throttle
  deriving DecidableEq

theorem nextSubscriptionState_from_cancelled (event : LifecycleEvent) (target : SubscriptionState)
    (moved : nextSubscriptionState .cancelled event = .ok target) :
    event = .periodEnded ∧ target = .expired := by
  cases event <;> simp_all [nextSubscriptionState]

theorem nextSubscriptionState_resumed (source target : SubscriptionState)
    (moved : nextSubscriptionState source .resumed = .ok target) :
    source = .paused ∧ target = .active := by
  cases source <;> simp [nextSubscriptionState] at moved ⊢
  exact moved.symm

theorem nextSubscriptionState_planChanged (source target : SubscriptionState)
    (moved : nextSubscriptionState source .planChanged = .ok target) :
    source = .active ∧ target = .active := by
  cases source <;> simp [nextSubscriptionState] at moved ⊢
  exact moved.symm

end Cashp
