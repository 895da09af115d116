import Cashp.Billing.DunningCore
import Cashp.Billing.MeteringCore
import Cashp.Billing.WebhookCore
import Cashp.Kit.Program
import Cashp.Kit.Table

/-!
Which tables each program can write, whatever the replies it gets. The other tables are the same
after its run as before.
-/

namespace Cashp

open Kit Kit.Program

inductive Area
  | identifier
  | account
  | subscription
  | invoice
  | draft
  | figures
  | payment
  | credit
  | line
  | entry
  | creditNote
  | sequence
  | provider
  | method
  | attempt
  | charge
  | refund
  | webhook
  | rollup
  | usage
  | call
  deriving DecidableEq

@[grind =]
def AccountStmt.writes : AccountStmt Reply → Bool
  | .byTenant .. => false
  | .insert .. => true
  | .addBalance .. => true

@[grind =]
def SubscriptionStmt.writes : SubscriptionStmt Reply → Bool
  | .byID .. => false
  | .entitled .. => false
  | .due .. => false
  | .insert .. => true
  | .update .. => true
  | .setGrace .. => true

@[grind =]
def InvoiceUpdate.pays : InvoiceUpdate → Bool
  | .recalculate .. => false
  | .issue .. => false
  | .pay .. => true
  | .settle .. => false
  | .mark .. => false

@[grind =]
def InvoiceUpdate.reprices : InvoiceUpdate → Bool
  | .recalculate .. => true
  | .issue .. => true
  | .pay .. => false
  | .settle .. => false
  | .mark .. => false

@[grind =]
def InvoiceStmt.writes : InvoiceStmt Reply → List Area
  | .byID .. => []
  | .openBefore .. => []
  | .insert inv =>
    [.invoice, .draft, .figures] ++ (if inv.paidMinor = 0 then [] else [.payment]) ++
      (if inv.creditedMinor = 0 then [] else [.credit])
  | .update change .. =>
    [.invoice] ++ (if change.pays then [.payment] else []) ++
      (if change.reprices then [.figures] else [])
  | .credit .. => [.invoice, .credit]

@[grind =]
def LineStmt.writes : LineStmt Reply → List Area
  | .ofInvoice .. => []
  | .insert .. => [.line, .entry]
  | .setTaxRate .. => [.line]

@[grind =]
def AttemptStmt.writes : AttemptStmt Reply → List Area
  | .byKey .. => []
  | .ofInvoice .. => []
  | .countOf .. => []
  | .byReference .. => []
  | .recentOf .. => []
  | .settled .. => []
  | .insert .. => [.attempt, .charge]
  | .complete .. => [.attempt]

@[grind =]
def RefundStmt.writes : RefundStmt Reply → Bool
  | .countBooked .. => false
  | .insert .. => true

@[grind =]
def WebhookStmt.writes : WebhookStmt Reply → Bool
  | .byID .. => false
  | .failedFirst => false
  | .insert .. => true
  | .finish .. => true

@[grind =]
def SequenceStmt.writes : SequenceStmt Reply → Bool
  | .next .. => false
  | .insert .. => true
  | .compareAndSet .. => true

@[grind =]
def ProviderStmt.writes : ProviderStmt Reply → Bool
  | .byName .. => false
  | .all => false
  | .setHealth .. => true

@[grind =]
def MethodStmt.writes : MethodStmt Reply → Bool
  | .ofTenant .. => false
  | .byToken .. => false
  | .setState .. => true

@[grind =]
def RollupStmt.writes : RollupStmt Reply → Bool
  | .pendingOf .. => false
  | .markInvoiced .. => true
  | .replace .. => true
  | .insert .. => true

@[grind =]
def UsageStmt.writes : UsageStmt Reply → Bool
  | .find .. => false
  | .totals .. => false
  | .insert .. => true
  | .set .. => true

@[grind =]
def CallStmt.writes : CallStmt Reply → Bool
  | .lookup .. => false
  | .charge .. => true
  | .refund .. => true
  | .getPayment .. => true

@[grind =]
def Stmt.writes : Stmt Reply → List Area
  | .unix => []
  | .newID => [.identifier]
  | .isAlreadyExists => []
  | .catalogue _ => []
  | .account stmt => if stmt.writes then [.account] else []
  | .subscription stmt => if stmt.writes then [.subscription] else []
  | .invoice stmt => stmt.writes
  | .line stmt => stmt.writes
  | .creditNote _ => [.creditNote]
  | .sequence stmt => if stmt.writes then [.sequence] else []
  | .provider stmt => if stmt.writes then [.provider] else []
  | .method stmt => if stmt.writes then [.method] else []
  | .attempt stmt => stmt.writes
  | .refund stmt => if stmt.writes then [.refund] else []
  | .webhook stmt => if stmt.writes then [.webhook] else []
  | .rollup stmt => if stmt.writes then [.rollup] else []
  | .usage stmt => if stmt.writes then [.usage] else []
  | .call stmt => if stmt.writes then [.call] else []

@[grind =]
def Stmt.Within (areas : List Area) {Reply : Type} (stmt : Stmt Reply) : Prop :=
  ∀ area ∈ stmt.writes, area ∈ areas

def Invoice.origin (inv : Invoice) : String × String × String :=
  (inv.id, inv.tenantID, inv.subscriptionID)

def Invoice.figures (inv : Invoice) : Invoice :=
  { inv with
    state := .draft, paidMinor := 0, creditedMinor := 0, paidAt := 0, voidedAt := 0, lines := []
    updatedAt := 0, version := 0 }

def InvoiceLine.entry (line : InvoiceLine) : InvoiceLine := { line with taxRateBPS := 0 }

def PaymentAttempt.origin (attempt : PaymentAttempt) : PaymentAttempt :=
  { attempt with
    state := .pending, providerRef := "", failureCode := "", failureMessage := ""
    completedAt := 0 }

def World.paidOn (world : World) (invoiceID : String) : Int :=
  world.invoices.sumWhere (fun inv => inv.id == invoiceID) Invoice.paidMinor

def World.creditedOn (world : World) (invoiceID : String) : Int :=
  world.invoices.sumWhere (fun inv => inv.id == invoiceID) Invoice.creditedMinor

def Area.Same : Area → World → World → Prop
  | .identifier, before, after => after.drawn = before.drawn
  | .account, before, after => after.accounts = before.accounts
  | .subscription, before, after => after.subscriptions = before.subscriptions
  | .invoice, before, after => after.invoices = before.invoices
  | .draft, before, after =>
    after.invoices.rows.map Invoice.origin = before.invoices.rows.map Invoice.origin
  | .figures, before, after =>
    after.invoices.rows.map Invoice.figures = before.invoices.rows.map Invoice.figures
  | .payment, before, after => after.paidOn = before.paidOn
  | .credit, before, after => after.creditedOn = before.creditedOn
  | .line, before, after => after.lines = before.lines
  | .entry, before, after =>
    after.lines.rows.map InvoiceLine.entry = before.lines.rows.map InvoiceLine.entry
  | .creditNote, before, after => after.creditNotes = before.creditNotes
  | .sequence, before, after => after.sequences = before.sequences
  | .provider, before, after => after.providers = before.providers
  | .method, before, after => after.methods = before.methods
  | .attempt, before, after => after.attempts = before.attempts
  | .charge, before, after =>
    after.attempts.rows.map PaymentAttempt.origin = before.attempts.rows.map PaymentAttempt.origin
  | .refund, before, after => after.refunds = before.refunds
  | .webhook, before, after => after.webhooks = before.webhooks
  | .rollup, before, after => after.rollups = before.rollups
  | .usage, before, after => after.usage = before.usage
  | .call, before, after => after.calls = before.calls

theorem Area.same_refl (area : Area) (world : World) : area.Same world world := by
  cases area <;> rfl

theorem Area.same_trans (area : Area) (first second third : World) (early : area.Same first second)
    (late : area.Same second third) : area.Same first third := by
  cases area <;> exact Eq.trans late early

structure World.Steady (before after : World) : Prop where
  catalogue : after.catalogue = before.catalogue
  now : after.now = before.now
  names : after.names = before.names
  drivers : after.drivers = before.drivers
  namesDuplicates : after.namesDuplicates = before.namesDuplicates

theorem InvoiceUpdate.apply_origin (change : InvoiceUpdate) (inv : Invoice) :
    (change.apply inv).origin = inv.origin := by
  cases change <;> rfl

variable {change : InvoiceUpdate}

theorem InvoiceUpdate.apply_figures (kept : change.reprices = false)
    (inv : Invoice) : (change.apply inv).figures = inv.figures := by
  cases change <;> first | rfl | simp [InvoiceUpdate.reprices] at kept

theorem sumWhere_insert_zero {table grown : Invoices} {inv : Invoice} {weight : Invoice → Int}
    (stored : table.insert inv = some grown) (zero : weight inv = 0) (wanted : Invoice → Bool) :
    grown.sumWhere wanted weight = table.sumWhere wanted weight := by
  rw [Table.sumWhere_insert stored, zero]
  simp

variable {Reply Value : Type} {program : Service Value} {avoided : List Area} {area : Area}

theorem invoice_same (stmt : InvoiceStmt Reply) (world : World) (area : Area)
    (outside : area ∉ stmt.writes) : area.Same world ((Stmt.invoice stmt).execute world).2 := by
  cases stmt with
  | byID | openBefore => exact area.same_refl world
  | insert inv =>
    simp only [Stmt.execute, InvoiceStmt.execute]
    cases stored : world.invoices.insert inv with
    | none => exact area.same_refl world
    | some =>
      cases area with
      | invoice | draft | figures => simp [InvoiceStmt.writes] at outside
      | payment =>
        have unpaid : inv.paidMinor = 0 := by
          by_contra paid
          simp [InvoiceStmt.writes, paid] at outside
        exact funext fun _ => sumWhere_insert_zero stored unpaid _
      | credit =>
        have uncredited : inv.creditedMinor = 0 := by
          by_contra credited
          simp [InvoiceStmt.writes, credited] at outside
        exact funext fun _ => sumWhere_insert_zero stored uncredited _
      | _ => rfl
  | update change =>
    have ids (id : String) (inv : Invoice) :
        ((change.apply inv).id == id) = (inv.id == id) := by rw [change.apply_id]
    cases area with
    | invoice => simp [InvoiceStmt.writes] at outside
    | draft => exact Table.map_update (by simp [InvoiceUpdate.apply_id]) change.apply_origin
    | figures =>
      have kept : change.reprices = false := by
        by_contra reprices
        simp_all [InvoiceStmt.writes]
      exact Table.map_update (by simp [InvoiceUpdate.apply_id]) (change.apply_figures kept)
    | payment =>
      have kept : change.pays = false := by
        by_contra pays
        simp_all [InvoiceStmt.writes]
      refine funext fun id => Table.sumWhere_update (by simp [InvoiceUpdate.apply_id]) (ids id) ?_
      cases change <;> first | exact fun _ => rfl | simp [InvoiceUpdate.pays] at kept
    | credit =>
      exact funext fun id => Table.sumWhere_update (by simp [InvoiceUpdate.apply_id]) (ids id)
        fun _ => by cases change <;> rfl
    | _ => rfl
  | credit =>
    cases area with
    | invoice | credit => simp [InvoiceStmt.writes] at outside
    | draft | figures => exact Table.map_update (by simp [Invoice.withCredit]) fun _ => rfl
    | payment =>
      exact funext fun _ =>
        Table.sumWhere_update (by simp [Invoice.withCredit]) (fun _ => rfl) fun _ => rfl
    | _ => rfl

theorem attempt_same (stmt : AttemptStmt Reply) (world : World) (area : Area)
    (outside : area ∉ stmt.writes) : area.Same world ((Stmt.attempt stmt).execute world).2 := by
  cases stmt with
  | insert attempt =>
    cases area with
    | attempt | charge => simp [AttemptStmt.writes] at outside
    | _ => rfl
  | complete =>
    cases area with
    | attempt => simp [AttemptStmt.writes] at outside
    | charge => exact Table.map_update (by simp [PaymentAttempt.completed]) fun _ => rfl
    | _ => rfl
  | _ => exact area.same_refl world

theorem line_same (stmt : LineStmt Reply) (world : World) (area : Area)
    (outside : area ∉ stmt.writes) : area.Same world ((Stmt.line stmt).execute world).2 := by
  cases stmt with
  | ofInvoice => exact area.same_refl world
  | insert line =>
    cases area with
    | line | entry => simp [LineStmt.writes] at outside
    | _ => rfl
  | setTaxRate =>
    cases area with
    | line => simp [LineStmt.writes] at outside
    | entry => exact Table.map_update (by simp) fun _ => rfl
    | _ => rfl

theorem execute_same (stmt : Stmt Reply) (world : World) (area : Area)
    (outside : area ∉ stmt.writes) : area.Same world (execute stmt world).2 := by
  change area.Same world (stmt.execute world).2
  cases stmt with
  | invoice stmt => exact invoice_same stmt world area outside
  | attempt stmt => exact attempt_same stmt world area outside
  | line stmt => exact line_same stmt world area outside
  | newID => cases area <;> first | rfl | simp [Stmt.writes] at outside
  | creditNote =>
    have elsewhere : area ≠ .creditNote := by
      rintro rfl
      simp [Stmt.writes] at outside
    simp only [Stmt.execute]
    cases area <;> first | exact absurd rfl elsewhere | (split <;> rfl)
  | unix | isAlreadyExists | catalogue => exact area.same_refl world
  | account stmt | subscription stmt | sequence stmt | provider stmt | method stmt
  | refund stmt | webhook stmt | rollup stmt | usage stmt | call stmt =>
    cases stmt <;> cases area <;> first | rfl | exact absurd (List.mem_singleton_self _) outside

theorem execute_steady (stmt : Stmt Reply) (world : World) :
    world.Steady (execute stmt world).2 := by
  change world.Steady (stmt.execute world).2
  cases stmt with
  | creditNote =>
    simp only [Stmt.execute]
    split <;> exact ⟨rfl, rfl, rfl, rfl, rfl⟩
  | call stmt => cases stmt <;> exact ⟨rfl, rfl, rfl, rfl, rfl⟩
  | _ => exact ⟨rfl, rfl, rfl, rfl, rfl⟩

theorem run_steady (program : Service Value) (world : World) :
    world.Steady (program.run world).2 := by
  induction program generalizing world with
  | done | fail => exact ⟨rfl, rfl, rfl, rfl, rfl⟩
  | step stmt rest ih =>
    have first := execute_steady stmt world
    have later := ih (execute stmt world).1 (execute stmt world).2
    exact ⟨later.catalogue.trans first.catalogue, later.now.trans first.now,
      later.names.trans first.names, later.drivers.trans first.drivers,
      later.namesDuplicates.trans first.namesDuplicates⟩

theorem execute_unchanged {stmt : Stmt Reply} (reads : stmt.writes = [])
    (world : World) : (execute stmt world).2 = world := by
  cases stmt with
  | unix | isAlreadyExists | catalogue => rfl
  | newID | creditNote => simp [Stmt.writes] at reads
  | invoice stmt =>
    cases stmt with
    | byID | openBefore => rfl
    | credit | update =>
      simp [Stmt.writes, InvoiceStmt.writes] at reads
    | insert => simp [Stmt.writes, InvoiceStmt.writes] at reads
  | attempt stmt => cases stmt <;> first | rfl | simp [Stmt.writes, AttemptStmt.writes] at reads
  | line stmt => cases stmt <;> first | rfl | simp [Stmt.writes, LineStmt.writes] at reads
  | account stmt | subscription stmt | sequence stmt | provider stmt | method stmt
  | refund stmt | webhook stmt | rollup stmt | usage stmt | call stmt =>
    cases stmt <;> first | rfl | exact absurd reads (List.cons_ne_nil _ _)

theorem run_unchanged
    (uses : program.Uses (Stmt.Within [])) (world : World) : (program.run world).2 = world := by
  induction program generalizing world with
  | done | fail => rfl
  | step stmt rest ih =>
    have silent : stmt.writes = [] :=
      List.eq_nil_iff_forall_not_mem.mpr fun area writes => by simpa using uses.1 area writes
    rw [run, ih _ (uses.2 _), execute_unchanged silent]

def allAreas : List Area := [
  .identifier, .account, .subscription, .invoice, .draft, .figures, .payment, .credit, .line,
  .entry, .creditNote, .sequence, .provider, .method, .attempt, .charge, .refund, .webhook, .rollup,
  .usage, .call
]

def without (avoided : List Area) : List Area := allAreas.filter (fun area => area ∉ avoided)

abbrev Service.Within {Value : Type} (program : Service Value) (areas : List Area) : Prop :=
  program.Uses (Stmt.Within areas)

abbrev Service.Avoids {Value : Type} (program : Service Value) (avoided : List Area) : Prop :=
  program.Within (without avoided)

@[grind =]
theorem mem_without : area ∈ without avoided ↔ area ∉ avoided := by
  have known : area ∈ allAreas := by cases area <;> decide
  simp [without, known]

theorem Stmt.Within.avoids {stmt : Stmt Reply}
    (within : stmt.Within (without avoided)) (listed : area ∈ avoided) : area ∉ stmt.writes :=
  fun writes => mem_without.mp (within area writes) listed

theorem run_same (uses : program.Avoids avoided) (listed : area ∈ avoided)
    (world : World) : area.Same world (program.run world).2 :=
  final_of_uses uses area.same_refl area.same_trans
    (fun stmt state within => execute_same stmt state area (within.avoids listed)) world

theorem run_without (area : Area) (uses : program.Avoids [area]) (world : World) :
    area.Same world (program.run world).2 :=
  run_same uses (List.mem_singleton_self area) world

theorem same_of_run (area : Area) {world later : World}
    {answer : Except BillingError Value} (ran : program.run world = (answer, later))
    (uses : program.Avoids [area]) : area.Same world later := by
  have same := run_without area uses world
  rwa [ran] at same

attribute [grind =] List.cons_subset
attribute [grind ←] List.nil_subset

variable {areas : List Area}

@[grind ←]
theorem within_draft {inv : Invoice} (unpaid : inv.paidMinor = 0)
    (uncredited : inv.creditedMinor = 0) (invoices : Area.invoice ∈ areas)
    (drafts : Area.draft ∈ areas) (figures : Area.figures ∈ areas) :
    (Stmt.invoice (.insert inv)).Within areas := by
  simp [Stmt.Within, Stmt.writes, InvoiceStmt.writes, unpaid, uncredited, invoices, drafts, figures]

@[grind ←]
theorem within_update {invoiceID tenantID : String} {version : Int}
    (kept : change.pays = false) (same : change.reprices = false)
    (invoices : Area.invoice ∈ areas) :
    (Stmt.invoice (.update change invoiceID tenantID version)).Within areas := by
  simp [Stmt.Within, Stmt.writes, InvoiceStmt.writes, kept, same, invoices]

@[grind ←]
theorem within_reprice {invoiceID tenantID : String} {version : Int}
    (kept : change.pays = false) (invoices : Area.invoice ∈ areas)
    (figures : Area.figures ∈ areas) :
    (Stmt.invoice (.update change invoiceID tenantID version)).Within areas := by
  grind

variable {tenantID planID subID invoiceID providerName idempotencyKey : String}
variable {key resource country code name scope tag actor reference message id : String}
variable {amountMinor periodStart periodEnd start amount attemptNumber now stop : Int}
variable {sub : Subscription} {buyer : Account} {record : ProviderRecord} {inv : Invoice}
variable {target : Plan} {preview : ProrationPreview} {event : Event} {attempt : PaymentAttempt}
variable {state : PaymentState} {method : PaymentMethod} {delivery : Delivery}

@[grind ←]
theorem setting_within {fallback : String} : (setting key fallback).Within areas := by
  unfold setting
  grind

@[grind ←]
theorem settingInt_within {fallback : Int} : (settingInt key fallback).Within areas := by
  unfold settingInt
  grind

@[grind ←]
theorem enabled_within : enabled.Within areas := by
  unfold enabled settingBool
  grind

@[grind ←]
theorem unix_within : unix.Within areas := by
  unfold unix
  grind

@[grind ←]
theorem newID_within (identifiers : Area.identifier ∈ areas) : newID.Within areas := by
  unfold newID
  grind

@[grind ←]
theorem require_within {Row : Type} {found : Option Row} {missing : BillingError} :
    (require found missing).Within areas := by
  unfold require
  grind

@[grind ←]
theorem requireRows_within {affected : Nat} {lost : BillingError} :
    (requireRows affected lost).Within areas := by
  unfold requireRows
  grind

@[grind ←]
theorem requireTenant_within : (requireTenant tenantID).Within areas := by
  unfold requireTenant
  grind

@[grind ←]
theorem account_within : (account tenantID).Within areas := by
  unfold account
  grind

@[grind ←]
theorem createAccount_within (covers : [.identifier, .account] ⊆ areas) :
    (createAccount tenantID).Within areas := by
  unfold createAccount baseCurrency
  iterate 3 refine uses_bind (by grind) fun _ => ?_
  grind

@[grind ←]
theorem ensureAccount_within (covers : [.identifier, .account] ⊆ areas) :
    (ensureAccount tenantID).Within areas := by
  unfold ensureAccount
  grind

@[grind ←]
theorem planQuotas_within : (planQuotas planID).Within areas := by
  unfold planQuotas
  grind

@[grind ←]
theorem plan_within : (plan planID).Within areas := by
  unfold plan
  grind

@[grind ←]
theorem subscription_within : (subscription tenantID subID).Within areas := by
  unfold subscription
  grind

@[grind ←]
theorem activeSubscription_within : (activeSubscription tenantID).Within areas := by
  unfold activeSubscription
  grind

@[grind ←]
theorem planQuotaFor_within : (planQuotaFor sub resource).Within areas := by
  unfold planQuotaFor
  grind

@[grind ←]
theorem effectiveQuotaFor_within : (effectiveQuotaFor tenantID resource).Within areas := by
  unfold effectiveQuotaFor quotaOverride
  grind

@[grind ←]
theorem lookupTaxRate_within {region : String} : (lookupTaxRate country region).Within areas := by
  unfold lookupTaxRate countryTaxRate
  grind

@[grind ←]
theorem calculateTax_within {netMinor : Int} : (calculateTax buyer netMinor).Within areas := by
  unfold calculateTax settingBool
  grind

@[grind ←]
theorem meter_within : (meter code).Within areas := by
  unfold meter
  grind

@[grind ←]
theorem pendingRollups_within : (pendingRollups tenantID periodStart periodEnd).Within areas := by
  unfold pendingRollups
  grind

@[grind ←]
theorem markRollupsInvoiced_within {ids : List String} (rollups : Area.rollup ∈ areas) :
    (markRollupsInvoiced ids).Within areas := by
  induction ids with
  | nil => exact uses_pure ()
  | cons =>
    unfold markRollupsInvoiced
    grind

@[grind ←]
theorem driverInstance_within : (driverInstance record).Within areas := by
  unfold driverInstance
  grind

@[grind ←]
theorem providerInstance_within : (providerInstance name).Within areas := by
  unfold providerInstance providerByName
  grind

@[grind ←]
theorem webhookSecret_within : (webhookSecret name).Within areas := by
  unfold webhookSecret providerByName
  grind

@[grind ←]
theorem enabledProviders_within : enabledProviders.Within areas := by
  unfold enabledProviders
  grind

@[grind ←]
theorem recordProviderHealth_within {state : HealthState} (providers : Area.provider ∈ areas) :
    (recordProviderHealth record state).Within areas := by
  unfold recordProviderHealth
  grind

@[grind ←]
theorem invoice_within : (invoice tenantID invoiceID).Within areas := by
  unfold invoice invoiceLines
  grind

@[grind ←]
theorem invoiceCurrency_within : (invoiceCurrency buyer).Within areas := by
  unfold invoiceCurrency baseCurrency
  grind

@[grind ←]
theorem createDraft_within (covers : [.identifier, .account, .invoice, .draft, .figures] ⊆ areas) :
    (createDraft tenantID subID periodStart periodEnd).Within areas := by
  unfold createDraft
  iterate 4 refine uses_bind (by grind) fun _ => ?_
  grind

@[grind ←]
theorem recalculateDraft_within
    (covers : [.identifier, .account, .invoice, .figures, .line] ⊆ areas) :
    (recalculateDraft tenantID inv).Within areas := by
  unfold recalculateDraft
  iterate 4 refine uses_bind (by grind) fun _ => ?_
  grind

@[grind ←]
theorem recalculateInvoice_within
    (covers : [.identifier, .account, .invoice, .figures, .line] ⊆ areas) :
    (recalculateInvoice tenantID invoiceID).Within areas := by
  unfold recalculateInvoice
  grind

@[grind ←]
theorem addLine_within {line : InvoiceLine}
    (covers : [.identifier, .account, .invoice, .figures, .line, .entry] ⊆ areas) :
    (addLine tenantID invoiceID line).Within areas := by
  unfold addLine
  iterate 4 refine uses_bind (by grind) fun _ => ?_
  grind

@[grind ←]
theorem allocateNumber_within {tries : Nat} (sequences : Area.sequence ∈ areas) :
    (allocateNumber scope tag tries).Within areas := by
  induction tries with
  | zero => exact uses_fail _
  | succ =>
    unfold allocateNumber
    grind

@[grind ←]
theorem nextDocumentNumber_within (sequences : Area.sequence ∈ areas) :
    (nextDocumentNumber scope tag).Within areas := by
  unfold nextDocumentNumber
  grind

@[grind ←]
theorem issueInvoice_within
    (covers : [.identifier, .account, .invoice, .figures, .sequence] ⊆ areas) :
    (issueInvoice tenantID invoiceID).Within areas := by
  unfold issueInvoice
  iterate 8 refine uses_bind (by grind) fun _ => ?_
  grind

@[grind ←]
theorem raiseProrationInvoice_within (covers :
      [.identifier, .account, .invoice, .draft, .figures, .line, .entry, .sequence] ⊆ areas) :
    (raiseProrationInvoice tenantID sub target preview).Within areas := by
  unfold raiseProrationInvoice
  iterate 2 refine uses_bind (by grind) fun _ => ?_
  grind

@[grind ←]
theorem settleIfPaid_within (invoices : Area.invoice ∈ areas) :
    (settleIfPaid tenantID invoiceID).Within areas := by
  unfold settleIfPaid settleAs
  grind

@[grind ←]
theorem recordPayment_within (covers : [.invoice, .payment] ⊆ areas) :
    (recordPayment tenantID invoiceID amountMinor).Within areas := by
  unfold recordPayment
  iterate 4 refine uses_bind (by grind) fun _ => ?_
  grind

@[grind ←]
theorem markAs_within {target : InvoiceState} {voidedAt : Int} (invoices : Area.invoice ∈ areas) :
    (markAs tenantID inv target voidedAt).Within areas := by
  unfold markAs
  grind

@[grind ←]
theorem markInvoiceState_within {target : InvoiceState} (invoices : Area.invoice ∈ areas) :
    (markInvoiceState tenantID invoiceID target).Within areas := by
  unfold markInvoiceState
  grind

@[grind ←]
theorem issueCreditNote_within {reason : CreditReason} {note : String}
    (covers : [.identifier, .invoice, .credit, .creditNote, .sequence] ⊆ areas) :
    (issueCreditNote tenantID invoiceID amountMinor reason note actor).Within areas := by
  unfold issueCreditNote
  iterate 11 refine uses_bind (by grind) fun _ => ?_
  grind

@[grind ←]
theorem applyAccountBalance_within (covers : [.identifier, .account, .invoice, .credit] ⊆ areas) :
    (applyAccountBalance inv).Within areas := by
  unfold applyAccountBalance
  iterate 1 refine uses_bind (by grind) fun _ => ?_
  grind

@[grind ←]
theorem billRollups_within {rollups : List UsageRollup} {billed : List String}
    (covers : [.identifier, .account, .invoice, .figures, .line, .entry] ⊆ areas) :
    (billRollups tenantID invoiceID rollups billed).Within areas := by
  induction rollups generalizing billed with
  | nil => exact uses_pure _
  | cons =>
    unfold billRollups
    grind

@[grind ←]
theorem addSubscriptionLine_within
    (covers : [.identifier, .account, .invoice, .figures, .line, .entry] ⊆ areas) :
    (addSubscriptionLine sub target invoiceID).Within areas := by
  unfold addSubscriptionLine
  grind

@[grind ←]
theorem generateSubscriptionInvoice_within
    (covers : [.identifier, .account, .invoice, .draft, .figures, .credit, .line, .entry, .sequence,
      .rollup] ⊆ areas) : (generateSubscriptionInvoice sub).Within areas := by
  unfold generateSubscriptionInvoice
  simp only [List.cons_subset] at covers
  iterate 7 refine uses_bind (by grind) fun _ => ?_
  grind

@[grind ←]
theorem openInvoices_within {dueBefore : Int} : (openInvoices dueBefore).Within areas := by
  unfold openInvoices
  grind

@[grind ←]
theorem updateSubscription_within {change : SubscriptionUpdate}
    (subscriptions : Area.subscription ∈ areas) :
    (updateSubscription change sub tenantID).Within areas := by
  unfold updateSubscription
  grind

@[grind ←]
theorem moveOn_within {source : SubscriptionState} {event : LifecycleEvent}
    {refusal : String → BillingError} : (moveOn source event refusal).Within areas := by
  unfold moveOn
  grind

@[grind ←]
theorem previewPlanChange_within {toPlanID : String} :
    (previewPlanChange tenantID toPlanID).Within areas := by
  unfold previewPlanChange
  iterate 4 refine uses_bind (by grind) fun _ => ?_
  grind

@[grind ←]
theorem settleProration_within (covers :
      [.identifier, .account, .invoice, .draft, .figures, .line, .entry, .sequence] ⊆ areas) :
    (settleProration tenantID sub target preview).Within areas := by
  unfold settleProration creditAccountBalance
  grind

@[grind ←]
theorem transition_within {event : LifecycleEvent} (subscriptions : Area.subscription ∈ areas) :
    (transition sub event).Within areas := by
  unfold transition
  iterate 2 refine uses_bind (by grind) fun _ => ?_
  grind

@[grind ←]
theorem startGrace_within (subscriptions : Area.subscription ∈ areas) :
    (startGrace sub).Within areas := by
  unfold startGrace
  iterate 4 refine uses_bind (by grind) fun _ => ?_
  grind

@[grind ←]
theorem advanceRenewal_within (subscriptions : Area.subscription ∈ areas) :
    (advanceRenewal sub).Within areas := by
  unfold advanceRenewal advanceFrom
  grind

@[grind ←]
theorem dueSubscriptions_within {cutoff : Int} : (dueSubscriptions cutoff).Within areas := by
  unfold dueSubscriptions
  grind

@[grind ←]
theorem listPaymentMethods_within : (listPaymentMethods tenantID).Within areas := by
  unfold listPaymentMethods
  grind

@[grind ←]
theorem attemptByKey_within : (attemptByKey key).Within areas := by
  unfold attemptByKey
  grind

@[grind ←]
theorem nextAttemptNumber_within : (nextAttemptNumber invoiceID).Within areas := by
  unfold nextAttemptNumber
  grind

@[grind ←]
theorem completeAttempt_within (attempts : Area.attempt ∈ areas) :
    (completeAttempt attempt state reference code message).Within areas := by
  unfold completeAttempt
  grind

@[grind ←]
theorem refuseAttempt_within {failure : BillingError} (attempts : Area.attempt ∈ areas) :
    (refuseAttempt attempt code message failure).Within areas := by
  unfold refuseAttempt
  grind

@[grind ←]
theorem chargeWith_within {provider : Provider} (covers : [.provider, .attempt, .call] ⊆ areas) :
    (chargeWith record provider inv method attempt).Within areas := by
  unfold chargeWith finishCharge
  grind

@[grind ←]
theorem chargeThrough_within (covers : [.identifier, .provider, .attempt, .charge, .call] ⊆ areas) :
    (chargeThrough record inv method key amount attemptNumber).Within areas := by
  unfold chargeThrough insertAttempt
  iterate 3 refine uses_bind (by grind) fun _ => ?_
  grind

@[grind ←]
theorem bookCharge_within {outcome : ChargeOutcome} (covers : [.invoice, .payment] ⊆ areas) :
    (bookCharge tenantID inv amount outcome).Within areas := by
  unfold bookCharge
  grind

section

variable (covers : [.identifier, .invoice, .payment, .provider, .attempt, .charge, .call] ⊆ areas)
include covers

@[grind ←]
theorem chargeInOrder_within {methods : List PaymentMethod} {failoverAllowed : Bool}
    {records : List ProviderRecord} {index : Nat} {last : ChargeOutcome} :
    (chargeInOrder tenantID idempotencyKey inv methods amount failoverAllowed records index
      attemptNumber last).Within areas := by
  induction records generalizing index attemptNumber last with
  | nil => exact uses_pure _
  | cons =>
    unfold chargeInOrder
    grind

@[grind ←]
theorem chargeFresh_within : (chargeFresh tenantID invoiceID idempotencyKey).Within areas := by
  unfold chargeFresh
  iterate 9 refine uses_bind (by grind) fun _ => ?_
  grind

@[grind ←]
theorem chargeInvoice_within : (chargeInvoice tenantID invoiceID idempotencyKey).Within areas := by
  unfold chargeInvoice
  iterate 1 refine uses_bind (by grind) fun _ => ?_
  grind

end

@[grind ←]
theorem settledAttempt_within : (settledAttempt tenantID invoiceID).Within areas := by
  unfold settledAttempt
  grind

@[grind ←]
theorem refundCompletedAt_within {state : ChargeState} :
    (refundCompletedAt state).Within areas := by
  unfold refundCompletedAt
  grind

@[grind ←]
theorem recordRefund_within {refund : Refund} (refunds : Area.refund ∈ areas) :
    (recordRefund refund).Within areas := by
  unfold recordRefund
  grind

@[grind ←]
theorem refundPayment_within {reason : String}
    (covers : [.identifier, .invoice, .credit, .creditNote, .sequence, .refund, .call] ⊆ areas) :
    (refundPayment tenantID invoiceID amountMinor reason actor).Within areas := by
  unfold refundPayment
  iterate 5 refine uses_bind (by grind) fun _ => ?_
  grind

@[grind ←]
theorem attemptByReference_within : (attemptByReference providerName reference).Within areas := by
  unfold attemptByReference
  grind

@[grind ←]
theorem refundAlreadyBooked_within {attemptID : String} :
    (refundAlreadyBooked attemptID amountMinor).Within areas := by
  unfold refundAlreadyBooked
  grind

@[grind ←]
theorem recordWebhook_within {event : WebhookEvent} (webhooks : Area.webhook ∈ areas) :
    (recordWebhook event).Within areas := by
  unfold recordWebhook
  grind

@[grind ←]
theorem finishWebhook_within {state : WebhookState} {detail : String}
    (webhooks : Area.webhook ∈ areas) : (finishWebhook id state detail).Within areas := by
  unfold finishWebhook
  grind

@[grind ←]
theorem recoverSubscription_within (subscriptions : Area.subscription ∈ areas) :
    (recoverSubscription tenantID).Within areas := by
  unfold recoverSubscription
  grind

@[grind ←]
theorem applyPaymentEvent_within (covers : [.subscription, .invoice, .payment, .attempt] ⊆ areas) :
    (applyPaymentEvent providerName event state).Within areas := by
  unfold applyPaymentEvent settleAttempt
  grind

@[grind ←]
theorem bookRefund_within
    (covers : [.identifier, .invoice, .credit, .creditNote, .sequence, .refund] ⊆ areas) :
    (bookRefund providerName event attempt amount).Within areas := by
  unfold bookRefund
  iterate 4 refine uses_bind (by grind) fun _ => ?_
  grind

@[grind ←]
theorem applyRefundEvent_within
    (covers : [.identifier, .invoice, .credit, .creditNote, .sequence, .refund] ⊆ areas) :
    (applyRefundEvent providerName event).Within areas := by
  unfold applyRefundEvent
  grind

@[grind ←]
theorem applyMethodExpiring_within (methods : Area.method ∈ areas) :
    (applyMethodExpiring providerName event).Within areas := by
  unfold applyMethodExpiring
  grind

@[grind ←]
theorem applyWebhook_within
    (covers : [.identifier, .subscription, .invoice, .payment, .credit, .creditNote, .sequence,
      .method, .attempt, .refund] ⊆ areas) : (applyWebhook providerName event).Within areas := by
  unfold applyWebhook applyDisputeEvent
  grind

@[grind ←]
theorem authenticate_within : (authenticate providerName delivery).Within areas := by
  unfold authenticate providerByName
  iterate 6 refine uses_bind (by grind) fun _ => ?_
  grind

section

variable (covers : [.identifier, .subscription, .invoice, .payment, .credit, .creditNote, .sequence,
  .method, .attempt, .refund, .webhook] ⊆ areas)
include covers

@[grind ←]
theorem applyRecorded_within {result : WebhookResult} :
    (applyRecorded providerName event result).Within areas := by
  have applied : (applyWebhook providerName event).Within areas :=
    applyWebhook_within (List.Subset.trans (by decide) covers)
  have finished : Area.webhook ∈ areas := covers (by decide)
  clear covers
  unfold applyRecorded
  grind

@[grind ←]
theorem applyDelivery_within : (applyDelivery providerName event).Within areas := by
  have applied (result : WebhookResult) :
      (applyRecorded providerName event result).Within areas :=
    applyRecorded_within covers
  have stored : Area.webhook ∈ areas := covers (by decide)
  clear covers
  unfold applyDelivery webhookEvent
  grind

@[grind ←]
theorem handleWebhook_within : (handleWebhook providerName delivery).Within areas := by
  unfold handleWebhook
  grind

end

@[grind ←]
theorem attemptByEventProvider_within {event : WebhookEvent} :
    (attemptByEventProvider event).Within areas := by
  unfold attemptByEventProvider
  grind

@[grind ←]
theorem retrySchedule_within : retrySchedule.Within areas := by
  unfold retrySchedule
  grind

@[grind ←]
theorem graceDays_within : graceDays.Within areas := by
  unfold graceDays
  grind

@[grind ←]
theorem retryCharge_within {schedule : List Int}
    (covers : [.identifier, .invoice, .payment, .provider, .attempt, .charge, .call] ⊆ areas) :
    (retryCharge schedule inv now).Within areas := by
  unfold retryCharge attemptsForInvoice
  grind

@[grind ←]
theorem convertTrial_within (subscriptions : Area.subscription ∈ areas) :
    (convertTrial sub now).Within areas := by
  unfold convertTrial
  grind

@[grind ←]
theorem promotePlan_within (subscriptions : Area.subscription ∈ areas) :
    (promotePlan sub now).Within areas := by
  unfold promotePlan applyPendingPlan
  grind

@[grind ←]
theorem includedAndOverage_within {entry : UsageTotal} :
    (includedAndOverage tenantID entry).Within areas := by
  unfold includedAndOverage
  grind

@[grind ←]
theorem saveRollup_within {rollup : UsageRollup} (rollups : Area.rollup ∈ areas) :
    (saveRollup rollup).Within areas := by
  unfold saveRollup
  grind

@[grind ←]
theorem rollUpEach_within {totals : List UsageTotal} (covers : [.identifier, .rollup] ⊆ areas) :
    (rollUpEach tenantID start stop now totals).Within areas := by
  induction totals with
  | nil => exact uses_pure _
  | cons =>
    unfold rollUpEach
    grind

@[grind ←]
theorem rollUpUsage_within (covers : [.identifier, .rollup] ⊆ areas) :
    (rollUpUsage tenantID start stop).Within areas := by
  unfold rollUpUsage
  grind

end Cashp
