import Cashp.Billing.ModelsCore
import Cashp.Kit.ProgramCore
import Cashp.Kit.TableCore

/-!
The billing tables (`schema.go`) and every SQL statement the service issues on them. A statement is
one atomic command, and an update answers how many rows it touched, as `RowsAffected` does.
-/

namespace Cashp

open Kit

inductive SubscriptionUpdate
  | schedulePlan (planID : String) (effectiveAt now : Int)
  | changePlan (planID : String) (priceMinor : Int) (cycle : Cycle) (state : SubscriptionState)
      (now : Int)
  | cancel (state : SubscriptionState) (now endedAt : Int) (cancelAtEnd : Bool)
  | withdrawCancellation (state : SubscriptionState) (now : Int)
  | setState (state : SubscriptionState) (now : Int)
  | transition (state : SubscriptionState) (endedAt now : Int)
  | advance (periodStart periodEnd now : Int)
  | applyPlan (planID : String) (priceMinor : Int) (cycle : Cycle) (now : Int)

def SubscriptionUpdate.apply (update : SubscriptionUpdate) (sub : Subscription) : Subscription :=
  match update with
  | .schedulePlan planID effectiveAt now =>
    { sub with
      pendingPlanID := planID, pendingEffectiveAt := effectiveAt, updatedAt := now
      version := sub.version + 1 }
  | .changePlan planID priceMinor cycle state now =>
    { sub with
      planID := planID, priceMinor := priceMinor, cycle := cycle, state := state
      pendingPlanID := "", pendingEffectiveAt := 0, updatedAt := now
      version := sub.version + 1 }
  | .cancel state now endedAt cancelAtEnd =>
    { sub with
      state := state, cancelledAt := now, endedAt := endedAt
      cancelAtPeriodEnd := cancelAtEnd, pendingPlanID := "", pendingEffectiveAt := 0
      updatedAt := now, version := sub.version + 1 }
  | .withdrawCancellation state now =>
    { sub with
      state := state, cancelledAt := 0, cancelAtPeriodEnd := false, updatedAt := now
      version := sub.version + 1 }
  | .setState state now =>
    { sub with state := state, updatedAt := now, version := sub.version + 1 }
  | .transition state endedAt now =>
    { sub with
      state := state, endedAt := endedAt, updatedAt := now, version := sub.version + 1 }
  | .advance periodStart periodEnd now =>
    { sub with
      periodStart := periodStart, periodEnd := periodEnd, graceEndsAt := 0
      updatedAt := now, version := sub.version + 1 }
  | .applyPlan planID priceMinor cycle now =>
    { sub with
      planID := planID, priceMinor := priceMinor, cycle := cycle, pendingPlanID := ""
      pendingEffectiveAt := 0, updatedAt := now, version := sub.version + 1 }

theorem SubscriptionUpdate.apply_id (update : SubscriptionUpdate) (sub : Subscription) :
    (update.apply sub).id = sub.id := by
  cases update <;> rfl

abbrev Subscriptions := Table Subscription [Subscription.id]

inductive SubscriptionStmt : Type → Type
  | byID (subID tenantID : String) : SubscriptionStmt (Option Subscription)
  | entitled (tenantID : String) : SubscriptionStmt (List Subscription)
  | due (cutoff : Int) : SubscriptionStmt (List Subscription)
  | insert (sub : Subscription) : SubscriptionStmt Bool
  | update (change : SubscriptionUpdate) (subID tenantID : String) (version : Int) :
      SubscriptionStmt Nat
  | setGrace (graceEnds now : Int) (subID tenantID : String) : SubscriptionStmt Nat

def Subscription.isRow (subID tenantID : String) (sub : Subscription) : Bool :=
  sub.id == subID && sub.tenantID == tenantID

def Subscription.isVersion (subID tenantID : String) (version : Int) (sub : Subscription) : Bool :=
  sub.isRow subID tenantID && sub.version == version

def Subscription.withGrace (graceEnds now : Int) (sub : Subscription) : Subscription :=
  { sub with graceEndsAt := graceEnds, updatedAt := now }

def Subscription.isEntitledState (tenantID : String) (sub : Subscription) : Bool :=
  sub.tenantID == tenantID && [.active, .trialing, .pastDue, .cancelled].contains sub.state

def Subscription.isDue (cutoff : Int) (sub : Subscription) : Bool :=
  decide (0 < sub.periodEnd ∧ sub.periodEnd ≤ cutoff) &&
    [.active, .trialing, .cancelled].contains sub.state

def SubscriptionStmt.execute : SubscriptionStmt Reply → Subscriptions → Reply × Subscriptions
  | .byID subID tenantID, table => (table.find (Subscription.isRow subID tenantID), table)
  | .entitled tenantID, table =>
    (table.selectOrdered (Subscription.isEntitledState tenantID)
      (fun first second => second.createdAt ≤ first.createdAt), table)
  | .due cutoff, table =>
    (table.selectOrdered (Subscription.isDue cutoff)
      (fun first second => first.periodEnd ≤ second.periodEnd), table)
  | .insert sub, table =>
    match table.insert sub with
    | some grown => (true, grown)
    | none => (false, table)
  | .update change subID tenantID version, table =>
    (table.affected (Subscription.isVersion subID tenantID version),
      table.update (Subscription.isVersion subID tenantID version) change.apply
        (by simp [SubscriptionUpdate.apply_id]))
  | .setGrace graceEnds now subID tenantID, table =>
    (table.affected (Subscription.isRow subID tenantID),
      table.update (Subscription.isRow subID tenantID) (Subscription.withGrace graceEnds now)
        (by simp [Subscription.withGrace]))

structure TaxResult where
  kind : TaxKind := .none
  jurisdiction : String := ""
  rateBPS : Int := 0
  amountMinor : Int := 0
  reverseCharge : Bool := false

inductive InvoiceUpdate
  | recalculate (subtotal total : Int) (tax : TaxResult) (now : Int)
  | issue (number : String) (now dueAt : Int) (buyer : BuyerSnapshot)
  | pay (amountMinor now : Int)
  | settle (state : InvoiceState) (paidAt now : Int)
  | mark (state : InvoiceState) (voidedAt now : Int)

def InvoiceUpdate.apply (update : InvoiceUpdate) (inv : Invoice) : Invoice :=
  match update with
  | .recalculate subtotal total tax now =>
    { inv with
      subtotalMinor := subtotal, taxMinor := tax.amountMinor, totalMinor := total
      taxRateBPS := tax.rateBPS, taxKind := tax.kind, taxJurisdiction := tax.jurisdiction
      reverseCharge := tax.reverseCharge, updatedAt := now, version := inv.version + 1 }
  | .issue number now dueAt buyer =>
    { inv with
      number := number, state := .issued, issuedAt := now, dueAt := dueAt
      buyer := some buyer, updatedAt := now, version := inv.version + 1 }
  | .pay amountMinor now =>
    { inv with
      paidMinor := inv.paidMinor + amountMinor, updatedAt := now, version := inv.version + 1 }
  | .settle state paidAt now =>
    { inv with state := state, paidAt := paidAt, updatedAt := now, version := inv.version + 1 }
  | .mark state voidedAt now =>
    { inv with
      state := state, voidedAt := voidedAt, updatedAt := now, version := inv.version + 1 }

theorem InvoiceUpdate.apply_id (update : InvoiceUpdate) (inv : Invoice) :
    (update.apply inv).id = inv.id := by
  cases update <;> rfl

abbrev Invoices := Table Invoice [Invoice.id]

inductive InvoiceStmt : Type → Type
  | byID (invoiceID tenantID : String) : InvoiceStmt (Option Invoice)
  | openBefore (dueBefore : Int) : InvoiceStmt (List Invoice)
  | insert (inv : Invoice) : InvoiceStmt Bool
  | update (change : InvoiceUpdate) (invoiceID tenantID : String) (version : Int) :
      InvoiceStmt Nat
  | credit (amountMinor now : Int) (invoiceID tenantID : String) : InvoiceStmt Nat

def Invoice.isRow (invoiceID tenantID : String) (inv : Invoice) : Bool :=
  inv.id == invoiceID && inv.tenantID == tenantID

def Invoice.isVersion (invoiceID tenantID : String) (version : Int) (inv : Invoice) : Bool :=
  inv.isRow invoiceID tenantID && inv.version == version

def Invoice.withCredit (amountMinor now : Int) (inv : Invoice) : Invoice :=
  { inv with
    creditedMinor := inv.creditedMinor + amountMinor, updatedAt := now
    version := inv.version + 1 }

def Invoice.isOpen (dueBefore : Int) (inv : Invoice) : Bool :=
  [.issued, .due, .overdue, .partlyPaid].contains inv.state &&
    decide (0 < inv.dueAt ∧ inv.dueAt ≤ dueBefore)

def InvoiceStmt.execute : InvoiceStmt Reply → Invoices → Reply × Invoices
  | .byID invoiceID tenantID, table => (table.find (Invoice.isRow invoiceID tenantID), table)
  | .openBefore dueBefore, table =>
    (table.selectOrdered (Invoice.isOpen dueBefore)
      (fun first second => first.dueAt ≤ second.dueAt), table)
  | .insert inv, table =>
    match table.insert inv with
    | some grown => (true, grown)
    | none => (false, table)
  | .update change invoiceID tenantID version, table =>
    (table.affected (Invoice.isVersion invoiceID tenantID version),
      table.update (Invoice.isVersion invoiceID tenantID version) change.apply
        (by simp [InvoiceUpdate.apply_id]))
  | .credit amountMinor now invoiceID tenantID, table =>
    (table.affected (Invoice.isRow invoiceID tenantID),
      table.update (Invoice.isRow invoiceID tenantID) (Invoice.withCredit amountMinor now)
        (by simp [Invoice.withCredit]))

abbrev InvoiceLines := Table InvoiceLine [InvoiceLine.id]

inductive LineStmt : Type → Type
  | ofInvoice (invoiceID tenantID : String) : LineStmt (List InvoiceLine)
  | insert (line : InvoiceLine) : LineStmt Bool
  | setTaxRate (rateBPS : Int) (invoiceID tenantID : String) : LineStmt Nat

def InvoiceLine.isOf (invoiceID tenantID : String) (line : InvoiceLine) : Bool :=
  line.invoiceID == invoiceID && line.tenantID == tenantID

def LineStmt.execute : LineStmt Reply → InvoiceLines → Reply × InvoiceLines
  | .ofInvoice invoiceID tenantID, table =>
    (table.selectOrdered (InvoiceLine.isOf invoiceID tenantID)
      (fun first second => first.position ≤ second.position), table)
  | .insert line, table =>
    match table.insert line with
    | some grown => (true, grown)
    | none => (false, table)
  | .setTaxRate rateBPS invoiceID tenantID, table =>
    (table.affected (InvoiceLine.isOf invoiceID tenantID),
      table.update (InvoiceLine.isOf invoiceID tenantID)
        (fun line => { line with taxRateBPS := rateBPS }) (by simp))

abbrev Attempts := Table PaymentAttempt [PaymentAttempt.id, PaymentAttempt.idempotencyKey]

inductive AttemptStmt : Type → Type
  | byKey (key : String) : AttemptStmt (Option PaymentAttempt)
  | ofInvoice (tenantID invoiceID : String) : AttemptStmt (List PaymentAttempt)
  | countOf (invoiceID : String) : AttemptStmt Nat
  | byReference (provider reference : String) : AttemptStmt (Option PaymentAttempt)
  | recentOf (provider : String) (since : Int) : AttemptStmt (Option PaymentAttempt)
  | settled (tenantID invoiceID : String) : AttemptStmt (Option PaymentAttempt)
  | insert (attempt : PaymentAttempt) : AttemptStmt Bool
  | complete (state : PaymentState) (reference failureCode failureMessage : String) (now : Int)
      (attemptID : String) : AttemptStmt Nat

def PaymentAttempt.hasReference (provider reference : String) (attempt : PaymentAttempt) : Bool :=
  attempt.provider == provider && attempt.providerRef == reference

def PaymentAttempt.isSettled (tenantID invoiceID : String) (attempt : PaymentAttempt) : Bool :=
  attempt.tenantID == tenantID && attempt.invoiceID == invoiceID &&
    attempt.state == .succeeded

def PaymentAttempt.completed (state : PaymentState) (reference failureCode failureMessage : String)
    (now : Int) (attempt : PaymentAttempt) : PaymentAttempt :=
  { attempt with
    state := state, providerRef := reference, failureCode := failureCode
    failureMessage := failureMessage, completedAt := now }

def latestFirst (first second : PaymentAttempt) : Prop :=
  second.attemptedAt ≤ first.attemptedAt

instance : DecidableRel latestFirst :=
  fun first second => inferInstanceAs (Decidable (second.attemptedAt ≤ first.attemptedAt))

def AttemptStmt.execute : AttemptStmt Reply → Attempts → Reply × Attempts
  | .byKey key, table => (table.find (fun attempt => attempt.idempotencyKey == key), table)
  | .ofInvoice tenantID invoiceID, table =>
    (table.selectOrdered
      (fun attempt => attempt.tenantID == tenantID && attempt.invoiceID == invoiceID)
      (fun first second => first.attemptedAt ≤ second.attemptedAt), table)
  | .countOf invoiceID, table =>
    (table.affected (fun attempt => attempt.invoiceID == invoiceID), table)
  | .byReference provider reference, table =>
    ((table.selectOrdered (PaymentAttempt.hasReference provider reference)
      latestFirst).head?, table)
  | .recentOf provider since, table =>
    ((table.selectOrdered
      (fun attempt => attempt.provider == provider && attempt.providerRef != "" &&
        decide (since ≤ attempt.attemptedAt)) latestFirst).head?, table)
  | .settled tenantID invoiceID, table =>
    ((table.selectOrdered (PaymentAttempt.isSettled tenantID invoiceID)
      (fun first second => second.completedAt ≤ first.completedAt)).head?, table)
  | .insert attempt, table =>
    match table.insert attempt with
    | some grown => (true, grown)
    | none => (false, table)
  | .complete state reference failureCode failureMessage now attemptID, table =>
    (table.affected (fun attempt => attempt.id == attemptID),
      table.update (fun attempt => attempt.id == attemptID)
        (PaymentAttempt.completed state reference failureCode failureMessage now)
        (by simp [PaymentAttempt.completed]))

abbrev Refunds := Table Refund [Refund.id]

inductive RefundStmt : Type → Type
  | countBooked (attemptID : String) (amountMinor : Int) : RefundStmt Nat
  | insert (refund : Refund) : RefundStmt Bool

def RefundStmt.execute : RefundStmt Reply → Refunds → Reply × Refunds
  | .countBooked attemptID amountMinor, table =>
    (table.affected
      (fun refund => refund.attemptID == attemptID && refund.amountMinor == amountMinor), table)
  | .insert refund, table =>
    match table.insert refund with
    | some grown => (true, grown)
    | none => (false, table)

abbrev CreditNotes := Table CreditNote [CreditNote.id]

abbrev WebhookEvents := Table WebhookEvent [WebhookEvent.id]

inductive WebhookStmt : Type → Type
  | byID (id : String) : WebhookStmt (Option WebhookEvent)
  | failedFirst : WebhookStmt (List WebhookEvent)
  | insert (event : WebhookEvent) : WebhookStmt Bool
  | finish (state : WebhookState) (detail : String) (now : Int) (id : String) : WebhookStmt Nat

def WebhookStmt.execute : WebhookStmt Reply → WebhookEvents → Reply × WebhookEvents
  | .byID id, table => (table.find (fun event => event.id == id), table)
  | .failedFirst, table =>
    ((table.selectOrdered (fun event => event.state == .failed)
      (fun first second => first.receivedAt ≤ second.receivedAt)).take 50, table)
  | .insert event, table =>
    match table.insert event with
    | some grown => (true, grown)
    | none => (false, table)
  | .finish state detail now id, table =>
    (table.affected (fun event => event.id == id),
      table.update (fun event => event.id == id)
        (fun event => { event with state := state, detail := detail, processedAt := now })
        (by simp))

structure Sequence where
  scope : String
  nextValue : Int

abbrev Sequences := Table Sequence [Sequence.scope]

inductive SequenceStmt : Type → Type
  | next (scope : String) : SequenceStmt (Option Int)
  | insert (scope : String) : SequenceStmt Bool
  | compareAndSet (scope : String) (expected : Int) : SequenceStmt Nat

def SequenceStmt.execute : SequenceStmt Reply → Sequences → Reply × Sequences
  | .next scope, table =>
    ((table.find (fun sequence => sequence.scope == scope)).map Sequence.nextValue, table)
  | .insert scope, table =>
    match table.insert ⟨scope, 1⟩ with
    | some grown => (true, grown)
    | none => (false, table)
  | .compareAndSet scope expected, table =>
    (table.affected (fun sequence => sequence.scope == scope && sequence.nextValue == expected),
      table.update (fun sequence => sequence.scope == scope && sequence.nextValue == expected)
        (fun sequence => { sequence with nextValue := expected + 1 }) (by simp))

abbrev Accounts := Table Account [Account.id, Account.tenantID]

inductive AccountStmt : Type → Type
  | byTenant (tenantID : String) : AccountStmt (Option Account)
  | insert (account : Account) : AccountStmt Bool
  | addBalance (amountMinor now : Int) (tenantID : String) : AccountStmt Nat

def AccountStmt.execute : AccountStmt Reply → Accounts → Reply × Accounts
  | .byTenant tenantID, table => (table.find (fun account => account.tenantID == tenantID), table)
  | .insert account, table =>
    match table.insert account with
    | some grown => (true, grown)
    | none => (false, table)
  | .addBalance amountMinor now tenantID, table =>
    (table.affected (fun account => account.tenantID == tenantID),
      table.update (fun account => account.tenantID == tenantID)
        (fun account => { account with
          balanceMinor := account.balanceMinor + amountMinor, updatedAt := now }) (by simp))

abbrev Providers := Table ProviderRecord [ProviderRecord.name]

inductive ProviderStmt : Type → Type
  | byName (name : String) : ProviderStmt (Option ProviderRecord)
  | all : ProviderStmt (List ProviderRecord)
  | setHealth (state : HealthState) (name : String) : ProviderStmt Nat

def ProviderRecord.listedBefore (first second : ProviderRecord) : Prop :=
  first.priority < second.priority ∨
    (first.priority = second.priority ∧ ¬ second.name < first.name)

instance : DecidableRel ProviderRecord.listedBefore :=
  fun _ _ => inferInstanceAs (Decidable (_ ∨ (_ ∧ ¬ _)))

def ProviderStmt.execute : ProviderStmt Reply → Providers → Reply × Providers
  | .byName name, table => (table.find (fun record => record.name == name), table)
  | .all, table => (table.selectOrdered (fun _ => true) ProviderRecord.listedBefore, table)
  | .setHealth state name, table =>
    (table.affected (fun record => record.name == name),
      table.update (fun record => record.name == name)
        (fun record => { record with healthState := state }) (by simp))

abbrev Methods := Table PaymentMethod [PaymentMethod.id]

inductive MethodStmt : Type → Type
  | ofTenant (tenantID : String) : MethodStmt (List PaymentMethod)
  | byToken (provider token : String) : MethodStmt (Option PaymentMethod)
  | setState (state : MethodState) (id : String) : MethodStmt Nat

def PaymentMethod.listedBefore (first second : PaymentMethod) : Prop :=
  (first.isDefault = true ∧ second.isDefault = false) ∨
    (first.isDefault = second.isDefault ∧ first.createdAt ≤ second.createdAt)

instance : DecidableRel PaymentMethod.listedBefore :=
  fun _ _ => inferInstanceAs (Decidable ((_ ∧ _) ∨ (_ ∧ _)))

def MethodStmt.execute : MethodStmt Reply → Methods → Reply × Methods
  | .ofTenant tenantID, table =>
    (table.selectOrdered
      (fun method => method.tenantID == tenantID && method.state != .removed)
      PaymentMethod.listedBefore, table)
  | .byToken provider token, table =>
    (table.find (fun method => method.provider == provider && method.providerToken == token),
      table)
  | .setState state id, table =>
    (table.affected (fun method => method.id == id),
      table.update (fun method => method.id == id)
        (fun method => { method with state := state }) (by simp))

abbrev Rollups := Table UsageRollup [UsageRollup.id]

inductive RollupStmt : Type → Type
  | pendingOf (tenantID : String) (periodStart periodEnd : Int) : RollupStmt (List UsageRollup)
  | markInvoiced (id : String) : RollupStmt Nat
  | replace (rollup : UsageRollup) : RollupStmt Nat
  | insert (rollup : UsageRollup) : RollupStmt Bool

def UsageRollup.isPending (tenantID meterCode : String) (periodStart : Int)
    (rollup : UsageRollup) : Bool :=
  rollup.tenantID == tenantID && rollup.meterCode == meterCode &&
    rollup.periodStart == periodStart && !rollup.invoiced

def UsageRollup.retotalled (latest rollup : UsageRollup) : UsageRollup :=
  { rollup with
    totalValue := latest.totalValue, includedValue := latest.includedValue
    overageValue := latest.overageValue, periodEnd := latest.periodEnd
    rolledAt := latest.rolledAt }

def RollupStmt.execute : RollupStmt Reply → Rollups → Reply × Rollups
  | .pendingOf tenantID periodStart periodEnd, table =>
    (table.selectOrdered
      (fun rollup => rollup.tenantID == tenantID &&
        decide (periodStart ≤ rollup.periodStart ∧ rollup.periodStart < periodEnd) &&
        !rollup.invoiced)
      (fun first second => ¬ second.meterCode < first.meterCode), table)
  | .markInvoiced id, table =>
    (table.affected (fun rollup => rollup.id == id),
      table.update (fun rollup => rollup.id == id)
        (fun rollup => { rollup with invoiced := true }) (by simp))
  | .replace latest, table =>
    (table.affected (UsageRollup.isPending latest.tenantID latest.meterCode latest.periodStart),
      table.update (UsageRollup.isPending latest.tenantID latest.meterCode latest.periodStart)
        latest.retotalled (by simp [UsageRollup.retotalled]))
  | .insert rollup, table =>
    match table.insert rollup with
    | some grown => (true, grown)
    | none => (false, table)

structure Catalogue where
  settings : List (String × String) := []
  plans : List Plan := []
  planQuotas : List PlanQuota := []
  quotaOverrides : List QuotaOverride := []
  meters : List Meter := []
  taxRates : List TaxRate := []

inductive CatalogueStmt : Type → Type
  | setting (key : String) : CatalogueStmt (Option String)
  | plan (planID : String) : CatalogueStmt (Option Plan)
  | quotasOf (planID : String) : CatalogueStmt (List PlanQuota)
  | override (tenantID resource : String) (now : Int) : CatalogueStmt (Option QuotaOverride)
  | meter (code : String) : CatalogueStmt (Option Meter)
  | taxRate (country region : String) : CatalogueStmt (Option TaxRate)

def CatalogueStmt.read : CatalogueStmt Reply → Catalogue → Reply
  | .setting key, catalogue =>
    (catalogue.settings.find? (fun entry => entry.1 == key)).map Prod.snd
  | .plan planID, catalogue => catalogue.plans.find? (fun plan => plan.id == planID)
  | .quotasOf planID, catalogue =>
    (catalogue.planQuotas.filter (fun quota => quota.planID == planID)).insertionSort
      (fun first second => ¬ second.resource < first.resource)
  | .override tenantID resource now, catalogue =>
    ((catalogue.quotaOverrides.filter (fun grant => grant.tenantID == tenantID &&
      grant.resource == resource && (grant.expiresAt == 0 || decide (now < grant.expiresAt)))
      ).insertionSort (fun first second => second.createdAt ≤ first.createdAt)).head?
  | .meter code, catalogue => catalogue.meters.find? (fun meter => meter.code == code)
  | .taxRate country region, catalogue =>
    catalogue.taxRates.find? (fun rate => rate.country == country && rate.region == region &&
      rate.active)

abbrev Usage := Table UsageRecord [UsageRecord.id]

inductive UsageStmt : Type → Type
  | find (tenantID meterCode : String) (periodStart : Int) (dimensions : String) :
      UsageStmt (Option UsageRecord)
  | totals (tenantID : String) (periodStart periodEnd : Int) : UsageStmt (List UsageTotal)
  | insert (record : UsageRecord) : UsageStmt Bool
  | set (value periodEnd now : Int) (id : String) : UsageStmt Nat

def UsageRecord.isRow (tenantID meterCode : String) (periodStart : Int) (dimensions : String)
    (record : UsageRecord) : Bool :=
  record.tenantID == tenantID && record.meterCode == meterCode &&
    record.periodStart == periodStart && record.dimensions == dimensions

def UsageRecord.isWithin (tenantID : String) (periodStart periodEnd : Int)
    (record : UsageRecord) : Bool :=
  record.tenantID == tenantID &&
    decide (periodStart ≤ record.periodStart ∧ record.periodStart < periodEnd)

def UsageRecord.remeasured (value periodEnd now : Int) (record : UsageRecord) : UsageRecord :=
  { record with
    value := value, samples := record.samples + 1, periodEnd := periodEnd, recordedAt := now }

def Usage.totals (meters : List Meter) (records : List UsageRecord) : List UsageTotal :=
  (records.map UsageRecord.meterCode).dedup.filterMap fun code =>
    (meters.find? fun meter => meter.code == code).map fun meter =>
      { meter := code
        total := ((records.filter fun record => record.meterCode == code).map
          UsageRecord.value).sum
        resource := meter.resource }

def UsageStmt.execute : UsageStmt Reply → List Meter → Usage → Reply × Usage
  | .find tenantID meterCode periodStart dimensions, _, table =>
    (table.find (UsageRecord.isRow tenantID meterCode periodStart dimensions), table)
  | .totals tenantID periodStart periodEnd, meters, table =>
    (Usage.totals meters (table.select (UsageRecord.isWithin tenantID periodStart periodEnd)),
      table)
  | .insert record, _, table =>
    match table.insert record with
    | some grown => (true, grown)
    | none => (false, table)
  | .set value periodEnd now id, _, table =>
    (table.affected (fun record => record.id == id),
      table.update (fun record => record.id == id)
        (UsageRecord.remeasured value periodEnd now) (by simp [UsageRecord.remeasured]))

structure World where
  catalogue : Catalogue := {}
  accounts : Accounts := Table.empty
  subscriptions : Subscriptions := Table.empty
  invoices : Invoices := Table.empty
  lines : InvoiceLines := Table.empty
  creditNotes : CreditNotes := Table.empty
  sequences : Sequences := Table.empty
  providers : Providers := Table.empty
  methods : Methods := Table.empty
  attempts : Attempts := Table.empty
  refunds : Refunds := Table.empty
  webhooks : WebhookEvents := Table.empty
  rollups : Rollups := Table.empty
  usage : Usage := Table.empty
  now : Int
  names : Supply
  drawn : List String := []
  drivers : String → Option Driver := fun _ => none
  namesDuplicates : Bool := false
  calls : List ProviderCall := []

def World.usedIDs (world : World) : List String :=
  world.drawn ++ world.accounts.rows.map Account.id ++
    world.subscriptions.rows.map Subscription.id ++ world.invoices.rows.map Invoice.id ++
    world.lines.rows.map InvoiceLine.id ++ world.creditNotes.rows.map CreditNote.id ++
    world.attempts.rows.map PaymentAttempt.id ++ world.attempts.rows.map PaymentAttempt.invoiceID ++
    world.refunds.rows.map Refund.id ++ world.rollups.rows.map UsageRollup.id ++
    world.usage.rows.map UsageRecord.id

inductive CallStmt : Type → Type
  | lookup (name : String) : CallStmt (Option Driver)
  | charge (name : String) (provider : Provider) (request : ChargeRequest) :
      CallStmt (Except String ChargeResult)
  | refund (name : String) (provider : Provider) (request : RefundRequest) :
      CallStmt (Except String RefundResult)
  | getPayment (name : String) (provider : Provider) (reference : String) :
      CallStmt (Except String ChargeResult)

def CallStmt.execute : CallStmt Reply → World → Reply × World
  | .lookup name, world => (world.drivers name, world)
  | .charge name provider request, world =>
    let answer := provider.charge world.calls.length request
    (answer, { world with calls := world.calls ++ [.charge name request answer] })
  | .refund name provider request, world =>
    let answer := provider.refund world.calls.length request
    (answer, { world with calls := world.calls ++ [.refund name request answer] })
  | .getPayment name provider reference, world =>
    let answer := provider.getPayment world.calls.length reference
    (answer, { world with calls := world.calls ++ [.getPayment name reference answer] })

inductive Stmt : Type → Type 1
  | unix : Stmt Int
  | newID : Stmt String
  | isAlreadyExists : Stmt Bool
  | catalogue (stmt : CatalogueStmt Reply) : Stmt Reply
  | account (stmt : AccountStmt Reply) : Stmt Reply
  | subscription (stmt : SubscriptionStmt Reply) : Stmt Reply
  | invoice (stmt : InvoiceStmt Reply) : Stmt Reply
  | line (stmt : LineStmt Reply) : Stmt Reply
  | creditNote (note : CreditNote) : Stmt Bool
  | sequence (stmt : SequenceStmt Reply) : Stmt Reply
  | provider (stmt : ProviderStmt Reply) : Stmt Reply
  | method (stmt : MethodStmt Reply) : Stmt Reply
  | attempt (stmt : AttemptStmt Reply) : Stmt Reply
  | refund (stmt : RefundStmt Reply) : Stmt Reply
  | webhook (stmt : WebhookStmt Reply) : Stmt Reply
  | rollup (stmt : RollupStmt Reply) : Stmt Reply
  | usage (stmt : UsageStmt Reply) : Stmt Reply
  | call (stmt : CallStmt Reply) : Stmt Reply

def Stmt.execute : Stmt Reply → World → Reply × World
  | .unix, world => (world.now, world)
  | .newID, world =>
    let id := world.names.next world.usedIDs
    (id, { world with drawn := id :: world.drawn })
  | .isAlreadyExists, world => (world.namesDuplicates, world)
  | .catalogue stmt, world => (stmt.read world.catalogue, world)
  | .account stmt, world =>
    ((stmt.execute world.accounts).1, { world with accounts := (stmt.execute world.accounts).2 })
  | .subscription stmt, world =>
    ((stmt.execute world.subscriptions).1,
      { world with subscriptions := (stmt.execute world.subscriptions).2 })
  | .invoice stmt, world =>
    ((stmt.execute world.invoices).1, { world with invoices := (stmt.execute world.invoices).2 })
  | .line stmt, world =>
    ((stmt.execute world.lines).1, { world with lines := (stmt.execute world.lines).2 })
  | .creditNote note, world =>
    match world.creditNotes.insert note with
    | some grown => (true, { world with creditNotes := grown })
    | none => (false, world)
  | .sequence stmt, world =>
    ((stmt.execute world.sequences).1,
      { world with sequences := (stmt.execute world.sequences).2 })
  | .provider stmt, world =>
    ((stmt.execute world.providers).1,
      { world with providers := (stmt.execute world.providers).2 })
  | .method stmt, world =>
    ((stmt.execute world.methods).1, { world with methods := (stmt.execute world.methods).2 })
  | .attempt stmt, world =>
    ((stmt.execute world.attempts).1, { world with attempts := (stmt.execute world.attempts).2 })
  | .refund stmt, world =>
    ((stmt.execute world.refunds).1, { world with refunds := (stmt.execute world.refunds).2 })
  | .webhook stmt, world =>
    ((stmt.execute world.webhooks).1, { world with webhooks := (stmt.execute world.webhooks).2 })
  | .rollup stmt, world =>
    ((stmt.execute world.rollups).1, { world with rollups := (stmt.execute world.rollups).2 })
  | .usage stmt, world =>
    ((stmt.execute world.catalogue.meters world.usage).1,
      { world with usage := (stmt.execute world.catalogue.meters world.usage).2 })
  | .call stmt, world => stmt.execute world

instance : Machine Stmt World where
  execute := Stmt.execute

abbrev Service (Value : Type) := Program Stmt BillingError Value

end Cashp
