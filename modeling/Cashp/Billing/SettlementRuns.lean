import Mathlib.Order.ConditionallyCompleteLattice.Basic
import Cashp.Billing.Failover
import Cashp.Billing.Settlement
import Mathlib.Algebra.Order.Group.Int
import Mathlib.Algebra.Order.Pi

/-!
Callers that take turns on one store. Each credits every attempt it settles before it returns,
unless another writer comes between its read of an invoice and its payment on it.
-/

namespace Cashp

open Kit Kit.Program

variable {book : Book} {world : World} {debt : String → Int} {Value Result : Type}
  {tenantID invoiceID : String}
variable {attempt : PaymentAttempt} {key : String} {next : Unit → Service Result}
variable {provider : Provider}

section

variable {program : Service Value} {next : Value → Service Result}
  {post : Except BillingError Result → (String → Int) → World → Prop}

def Owing (debt : String → Int) (_ : Except BillingError Value) (owing : String → Int)
    (_ : World) : Prop :=
  owing = debt

abbrev Service.Even (book : Book) (debt : String → Int) (program : Service Value)
    (world : World) : Prop :=
  program.Pays (settling book) (Owing debt) debt world

theorem pays_quiet (uses : program.Uses Stmt.Quiet) : program.Even book debt world := by
  refine under_of_uses (uses.mono fun _ quiet owing _ same => ?_) rfl
  exact fun _ _ valid _ => ⟨owing, quiet_keeps quiet valid owing, same⟩

theorem quiet_then (uses : program.Uses Stmt.Quiet) (each : ∀ value later, Evolves world later →
      (next value).Pays (settling book) post debt later)
    (stop : ∀ failure later, post (.error failure) debt later) :
    (program >>= next).Pays (settling book) post debt world := by
  refine (pays_quiet uses).andThen (fun value owing later evolves same => ?_)
    fun failure owing later same => ?_
  · subst same
    exact each value later evolves
  · subst same
    exact stop failure later

theorem statement_then {stmt : Stmt Value} (quiet : stmt.Quiet)
    (each : ∀ later, Evolves world later → Sound book later →
      (next (execute stmt later).1).Pays (settling book) post debt (execute stmt later).2) :
    (perform stmt >>= next).Pays (settling book) post debt world :=
  under_then fun later evolves sound _ => ⟨debt, quiet_keeps quiet sound debt,
    each later evolves sound⟩

end

theorem invoice_pays (named : isBlank tenantID = false) (issued : Issued tenantID invoiceID world) :
    (invoice tenantID invoiceID).Pays (settling book) (fun answer owing _ =>
      ∃ inv, answer = .ok inv ∧ inv.id = invoiceID ∧ inv.state ≠ .draft ∧ owing = debt)
      debt world := by
  unfold invoice requireTenant
  refine under_refuse (fun blank => by simp [named] at blank) fun _ => ?_
  refine statement_then trivial fun later evolves _ => ?_
  obtain ⟨row, member, matching, sent⟩ := evolves.issued _ _ issued
  change ((require (later.invoices.find (Invoice.isRow invoiceID tenantID)) _) >>= _).Pays _ _ _ _
  rw [find_invoice member matching]
  refine statement_then trivial fun last _ _ => ?_
  exact ⟨_, rfl, (isRow_iff.mp matching).1, sent, rfl⟩

theorem recordPayment_pays {amountMinor owed : Int} (named : isBlank tenantID = false)
    (issued : Issued tenantID invoiceID world) (positive : 0 < amountMinor)
    (enough : owed ≤ amountMinor) :
    (recordPayment tenantID invoiceID amountMinor).Pays (settling book) (Owing debt)
      (debt + Pi.single invoiceID owed) world := by
  unfold recordPayment
  refine under_refuse (fun bad => by omega) fun _ => ?_
  refine (invoice_pays named issued).andThen (fun inv owing later _ read => ?_)
    fun failure owing later read => by simp at read
  obtain ⟨_, same, here, sent, rfl⟩ := read
  cases same
  subst here
  refine under_refuse (fun drafted => absurd drafted sent) fun _ => ?_
  refine statement_then trivial fun now _ _ => under_then fun then' _ sound lands => ?_
  refine ⟨debt, pay_keeps sound enough positive.le lands, ?_⟩
  refine quiet_then (uses_refuse _ _) (fun _ _ _ => ?_) fun _ _ => rfl
  exact pays_quiet (settleIfPaid_quiet tenantID inv.id)

theorem completeAttempt_pays {state : PaymentState}
    {reference code message : String} (recorded : attempt.origin ∈ world.origins)
    (booked : isBlank reference = false → attempt.amountMinor ≤ book attempt.provider reference) :
    (completeAttempt attempt state reference code message).Pays (settling book)
      (fun answer owing _ => answer = .ok () ∧ owing = debt + owes state attempt) debt world := by
  refine statement_then trivial fun later early _ => under_then fun last late sound _ => ?_
  have still := late.origins (early.origins recorded)
  exact ⟨_, marking_keeps sound still booked, rfl, rfl⟩

theorem failAttempt_pays {code message : String} (recorded : attempt.origin ∈ world.origins) :
    (completeAttempt attempt .failed "" code message).Pays (settling book)
      (fun answer owing _ => answer = .ok () ∧ owing = debt) debt world := by
  refine (completeAttempt_pays recorded fun shown => by simp [isBlank] at shown).imp
    fun answer owing later marked => ⟨marked.1, ?_⟩
  simpa [owes] using marked.2

theorem insertAttempt_pays (fresh : attempt.Sound book world)
    (unsettled : attempt.state ≠ .succeeded) :
    (insertAttempt attempt).Pays (settling book) (fun answer owing later =>
      owing = debt ∧ (answer = .ok () → attempt.origin ∈ later.origins)) debt world := by
  refine under_then fun later evolves sound _ =>
    ⟨debt, insert_keeps sound (fresh.evolve evolves) unsettled, ?_⟩
  cases stored : later.attempts.insert attempt with
  | none =>
    have refused : (execute (Stmt.attempt (.insert attempt)) later).1 = false := by
      change (Stmt.execute _ _).1 = _
      simp [Stmt.execute, AttemptStmt.execute, stored]
    rw [refused]
    refine statement_then trivial fun last _ _ => ?_
    split <;> exact ⟨rfl, fun returned => by simp at returned⟩
  | some grown =>
    have inserted : execute (Stmt.attempt (.insert attempt)) later =
        (true, { later with attempts := grown }) := by
      change Stmt.execute _ _ = _
      simp [Stmt.execute, AttemptStmt.execute, stored]
    rw [inserted]
    exact ⟨rfl, fun _ => by simp [World.origins, Table.insert_rows stored]⟩

theorem buildInstance_honest {record : ProviderRecord} (honest : world.Honest book)
    (built : buildInstance (world.drivers record.name) record = .ok provider) :
    provider.Honest book record.name := by
  unfold buildInstance at built
  split at built
  · simp at built
  rename_i build registered
  split at built
  · simp at built
  split at built
  · simp at built
  split at built
  · rename_i made
    cases built
    exact honest _ _ _ _ registered made
  · simp at built

theorem driverInstance_pays (record : ProviderRecord) :
    (driverInstance record).Pays (settling book) (fun answer owing _ =>
      owing = debt ∧ ∀ provider, answer = .ok provider → provider.Honest book record.name)
      debt world := by
  refine statement_then trivial fun later _ sound => under_ofExcept ⟨rfl, fun provider built => ?_⟩
  exact buildInstance_honest sound.honest built

def Charged (debt : String → Int) (invoiceID : String) (amount : Int)
    (answer : Except BillingError ChargeOutcome) (owing : String → Int) (_ : World) : Prop :=
  ∃ outcome, answer = .ok outcome ∧
    owing = debt + if outcome.settled then Pi.single invoiceID amount else 0

section

variable {record : ProviderRecord} {inv : Invoice} {method : PaymentMethod}
  {attempt : PaymentAttempt}
variable {amount : Int}

theorem health_then {health : HealthState}
    {post : Except BillingError Result → (String → Int) → World → Prop}
    (each : ∀ later, (next ()).Pays (settling book) post debt later) :
    (recordProviderHealth record health >>= next).Pays (settling book) post debt world := by
  have quiet : (Stmt.provider (.setHealth health record.name)).Quiet := trivial
  exact statement_then quiet fun later _ _ => each _

theorem refuseAttempt_pays {code message : String} {failure : BillingError}
    (recorded : attempt.origin ∈ world.origins) :
    (refuseAttempt attempt code message failure).Pays (settling book)
      (Charged debt attempt.invoiceID attempt.amountMinor) debt world := by
  refine (failAttempt_pays recorded).andThen (fun _ owing later _ marked => ?_)
    fun _ _ _ marked => by simp at marked
  exact ⟨_, rfl, by simp [ChargeOutcome.settled, marked.2]⟩

theorem finishCharge_pays {result : ChargeResult} (recorded : attempt.origin ∈ world.origins)
    (booked : isBlank result.reference = false →
      attempt.amountMinor ≤ book attempt.provider result.reference) :
    (finishCharge record attempt result).Pays (settling book)
      (Charged debt attempt.invoiceID attempt.amountMinor) debt world := by
  unfold finishCharge
  refine (completeAttempt_pays recorded booked).andThen
    (fun _ owing later _ marked => ?_) fun _ _ _ marked => by simp at marked
  obtain ⟨-, rfl⟩ := marked
  split
  · rename_i settled
    refine health_then fun _ => ?_
    exact ⟨_, rfl, by simp [owes, ChargeOutcome.settled, settled]⟩
  · rename_i unsettled
    exact ⟨_, rfl, by simp [owes, ChargeOutcome.settled, unsettled]⟩

theorem chargeWith_pays (recorded : attempt.origin ∈ world.origins)
    (honest : provider.Honest book record.name) (same : attempt.provider = record.name) :
    (chargeWith record provider inv method attempt).Pays (settling book)
      (Charged debt attempt.invoiceID attempt.amountMinor) debt world := by
  unfold chargeWith
  split
  · exact refuseAttempt_pays recorded
  refine statement_then trivial fun later evolves _ => ?_
  generalize asked : Stmt.call (.charge record.name provider
    (chargeRequest inv method attempt.idempotencyKey attempt.amountMinor)) = stmt
  have still : attempt.origin ∈ (execute stmt later).2.origins := by
    rw [← asked]
    exact evolves.origins recorded
  cases answered : (execute stmt later).1 with
  | error =>
    refine (failAttempt_pays still).andThen (fun _ owing _ _ marked => ?_)
      fun _ _ _ marked => by simp at marked
    refine health_then fun _ => ?_
    exact ⟨_, rfl, by simp [ChargeOutcome.settled, marked.2]⟩
  | ok =>
    refine finishCharge_pays still fun shown => ?_
    rw [same]
    rw [← asked] at answered
    exact honest.charges _ _ _ answered shown

theorem chargeThrough_pays {number : Int}
    (named : isBlank inv.tenantID = false) (issued : Issued inv.tenantID inv.id world)
    (positive : 0 < amount) :
    (chargeThrough record inv method key amount number).Pays (settling book)
      (Charged debt inv.id amount) debt world := by
  unfold chargeThrough
  refine statement_then trivial fun first early _ => statement_then trivial fun second late _ => ?_
  have fresh : (newAttempt record inv method (execute Stmt.newID first).1 key amount number
      (execute Stmt.unix second).1).Sound book (execute Stmt.unix second).2 :=
    ⟨named, positive, late.issued _ _ (early.issued _ _ issued), fun shown => by
      simp [newAttempt, isBlank] at shown⟩
  refine (insertAttempt_pays fresh (by simp [newAttempt])).attempted
    fun stored owing third _ kept => ?_
  obtain ⟨rfl, recorded⟩ := kept
  cases stored with
  | error => exact ⟨_, rfl, by simp [ChargeOutcome.settled]⟩
  | ok =>
    refine (driverInstance_pays record).attempted fun built owing last further made => ?_
    obtain ⟨rfl, honest⟩ := made
    have still := further.origins (recorded rfl)
    cases built with
    | error => exact refuseAttempt_pays still
    | ok provider => exact chargeWith_pays still (honest provider rfl) rfl

theorem bookCharge_pays {outcome : ChargeOutcome}
    (named : isBlank tenantID = false) (issued : Issued tenantID inv.id world)
    (positive : 0 < amount) :
    (bookCharge tenantID inv amount outcome).Pays (settling book) (Owing debt)
      (debt + Pi.single inv.id amount) world := by
  refine (recordPayment_pays named issued positive le_rfl).attempted
    fun answer owing later _ paid => ?_
  cases answer <;> exact paid

theorem chargeInOrder_pays {methods : List PaymentMethod}
    {failover : Bool} (named : isBlank tenantID = false) (owned : inv.tenantID = tenantID)
    (positive : 0 < amount) (records : List ProviderRecord) (index : Nat) (number : Int)
    (last : ChargeOutcome) {world : World} (issued : Issued tenantID inv.id world) :
    (chargeInOrder tenantID key inv methods amount failover records index number last).Even book
      debt world := by
  induction records generalizing index number last world with
  | nil => rfl
  | cons record rest ih =>
    unfold chargeInOrder
    split
    · exact ih _ _ _ issued
    subst owned
    refine (chargeThrough_pays named issued positive).andThen
      (fun outcome owing later evolves charged => ?_) fun _ _ _ charged => ?_
    · obtain ⟨_, same, rfl⟩ := charged
      cases same
      have still := evolves.issued _ _ issued
      cases settled : outcome.settled with
      | true => exact bookCharge_pays named still positive
      | false =>
        simp only [Bool.false_eq_true, if_false, add_zero]
        split
        · rfl
        · exact ih _ _ _ still
    · simp [Charged] at charged

end

theorem invoice_found_pays : (invoice tenantID invoiceID).Pays (settling book)
    (fun answer owing later => owing = debt ∧ ∀ inv, answer = .ok inv →
      isBlank tenantID = false ∧ inv.tenantID = tenantID ∧
        (inv.state ≠ .draft → Issued tenantID inv.id later)) debt world := by
  unfold invoice requireTenant
  refine under_refuse (fun _ => ⟨rfl, fun _ failed => by simp at failed⟩) fun named => ?_
  refine statement_then trivial fun later _ _ => ?_
  change ((require (later.invoices.find (Invoice.isRow invoiceID tenantID)) _) >>= _).Pays _ _ _ _
  cases found : later.invoices.find (Invoice.isRow invoiceID tenantID) with
  | none => exact ⟨rfl, fun _ failed => by simp at failed⟩
  | some row =>
    refine statement_then trivial fun last evolves _ => ⟨rfl, fun inv returned => ?_⟩
    cases returned
    obtain ⟨member, matching⟩ := Table.find_mem found
    have owned := (isRow_iff.mp matching).2
    exact ⟨by simpa using named, owned, fun sent =>
      evolves.issued tenantID row.id ⟨row, member, isRow_iff.mpr ⟨rfl, owned⟩, sent⟩⟩

theorem chargeFresh_pays : (chargeFresh tenantID invoiceID key).Even book debt world := by
  unfold chargeFresh
  refine invoice_found_pays.andThen (fun inv owing first _ found => ?_) fun _ _ _ found => found.1
  obtain ⟨rfl, facts⟩ := found
  obtain ⟨named, owned, sent⟩ := facts inv rfl
  refine under_refuse (fun _ => rfl) fun due => ?_
  refine under_refuse (fun _ => rfl) fun drafted => ?_
  refine statement_then trivial fun second early _ => ?_
  refine under_refuse (fun _ => rfl) fun _ => ?_
  refine quiet_then (quiet_elsewhere enabledProviders_within) (fun records third late => ?_)
    fun _ _ => rfl
  refine under_refuse (fun _ => rfl) fun _ => ?_
  refine quiet_then (quiet_elsewhere nextAttemptNumber_within) (fun number fourth then' => ?_)
    fun _ _ => rfl
  refine quiet_then (quiet_elsewhere setting_within) (fun mode fifth last => ?_)
    fun _ _ => rfl
  have issued := early.issued _ _ (sent drafted)
  exact chargeInOrder_pays named owned (by omega) records _ _ _
    (last.issued _ _ (then'.issued _ _ (late.issued _ _ issued)))

theorem chargeInvoice_pays : (chargeInvoice tenantID invoiceID key).Even book debt world := by
  unfold chargeInvoice
  refine under_refuse (fun _ => rfl) fun _ => ?_
  refine (pays_quiet (quiet_elsewhere attemptByKey_within)).attempted
    fun answer owing later _ same => ?_
  cases same
  cases answer with
  | ok => exact under_refuse (fun _ => rfl) fun _ => rfl
  | error =>
    dsimp only
    split
    · exact chargeFresh_pays
    · rfl

section

variable {providerName : String} {event : Event} {state : PaymentState} {attempt : PaymentAttempt}
variable {delivery : Delivery}

theorem settleAttempt_pays (sound : attempt.Sound book world)
    (recorded : attempt.origin ∈ world.origins)
    (booked : attempt.amountMinor ≤ book attempt.provider event.reference)
    (covers : book.Covers attempt.provider event.reference event.amountMinor) :
    (settleAttempt attempt event state).Even book debt world := by
  unfold settleAttempt
  refine (completeAttempt_pays recorded fun _ => booked).andThen
    (fun _ owing later evolves marked => ?_) fun _ _ _ marked => by simp at marked
  obtain ⟨-, rfl⟩ := marked
  by_cases settled : state = .succeeded
  · have positive := sound.positive
    have enough : attempt.amountMinor ≤
        if 0 < event.amountMinor then event.amountMinor else attempt.amountMinor := by
      unfold Book.Covers at covers
      split <;> omega
    rw [if_neg (not_not.mpr settled), owes, if_pos settled]
    refine (recordPayment_pays sound.named (evolves.issued _ _ sound.issued)
      (positive.trans_le enough) enough).andThen (fun _ owing _ _ paid => ?_) fun _ _ _ paid => paid
    cases paid
    exact quiet_then (quiet_elsewhere (recoverSubscription_within (by decide)))
      (fun _ _ _ => rfl) fun _ _ => rfl
  · rw [if_pos settled, owes, if_neg settled, add_zero]
    rfl

theorem applyPaymentEvent_pays
    (covers : book.Covers providerName event.reference event.amountMinor) :
    (applyPaymentEvent providerName event state).Even book debt world := by
  unfold applyPaymentEvent attemptByReference
  split
  · rfl
  rename_i shown
  refine statement_then trivial fun later _ sound => ?_
  cases found : (execute (Stmt.attempt (.byReference providerName event.reference)) later).1 with
  | none => rfl
  | some attempt =>
    obtain ⟨member, matching⟩ := Table.mem_selectOrdered.mp (List.mem_of_mem_head? found)
    simp only [PaymentAttempt.hasReference, Bool.and_eq_true, beq_iff_eq] at matching
    obtain ⟨sameProvider, sameReference⟩ := matching
    have kept := sound.attempts attempt member
    subst sameProvider
    dsimp only
    split
    · rfl
    refine settleAttempt_pays kept (List.mem_map_of_mem member) ?_ covers
    rw [← sameReference]
    exact kept.booked (by rw [sameReference]; simpa using shown)

theorem bookRefund_quiet (providerName : String) (event : Event) (attempt : PaymentAttempt)
    (amount : Int) : (bookRefund providerName event attempt amount).Uses Stmt.Quiet := by
  unfold bookRefund
  refine uses_bind (issueCreditNote_quiet _ _ _ _ _ _) fun note => ?_
  iterate 3 refine uses_then trivial fun _ => ?_
  exact uses_bind (quiet_elsewhere (recordRefund_within (by decide))) fun _ => uses_pure _

theorem applyRefundEvent_quiet (providerName : String) (event : Event) :
    (applyRefundEvent providerName event).Uses Stmt.Quiet := by
  refine uses_bind (quiet_elsewhere attemptByReference_within) fun found => ?_
  cases found with
  | none => exact uses_pure _
  | some attempt =>
    refine uses_bind (quiet_elsewhere refundAlreadyBooked_within) fun booked => ?_
    split
    · exact uses_pure _
    · exact bookRefund_quiet providerName event attempt _

theorem applyDisputeEvent_quiet (providerName : String) (event : Event) :
    (applyDisputeEvent providerName event).Uses Stmt.Quiet := by
  refine uses_bind (quiet_elsewhere attemptByReference_within) fun found => ?_
  cases found with
  | none => exact uses_pure _
  | some => exact uses_bind (markInvoiceState_quiet _ _ _) fun _ => uses_pure _

theorem applyWebhook_pays (covers : book.Covers providerName event.reference event.amountMinor) :
    (applyWebhook providerName event).Even book debt world := by
  unfold applyWebhook
  split
  · exact applyPaymentEvent_pays covers
  · exact applyPaymentEvent_pays covers
  · exact pays_quiet (applyRefundEvent_quiet providerName event)
  · exact pays_quiet (applyDisputeEvent_quiet providerName event)
  · exact pays_quiet (quiet_elsewhere (applyMethodExpiring_within (by decide)))
  · rfl

theorem providerByName_pays {name : String} : (providerByName name).Pays (settling book)
    (fun answer owing _ => owing = debt ∧ ∀ record, answer = .ok record → record.name = name)
    debt world := by
  refine statement_then trivial fun later _ _ => ?_
  change (require (later.providers.find fun record => record.name == name) _).Pays _ _ _ _
  cases found : later.providers.find fun record => record.name == name with
  | none => exact ⟨rfl, fun _ failed => by simp at failed⟩
  | some =>
    refine ⟨rfl, fun _ returned => ?_⟩
    cases returned
    simpa using (Table.find_mem found).2

theorem authenticate_pays :
    (authenticate providerName delivery).Pays (settling book) (fun answer owing _ =>
      owing = debt ∧ ∀ event, answer = .ok event →
        book.Covers providerName event.reference event.amountMinor) debt world := by
  have stopped (failure : BillingError) : debt = debt ∧ ∀ event,
      (.error failure : Except BillingError Event) = .ok event →
        book.Covers providerName event.reference event.amountMinor :=
    ⟨rfl, fun _ failed => by simp at failed⟩
  unfold authenticate
  refine providerByName_pays.andThen (fun record owing _ _ named => ?_) fun failure _ _ named => ?_
  · obtain ⟨rfl, same⟩ := named
    refine under_refuse (fun _ => stopped _) fun _ => ?_
    refine under_refuse (fun _ => stopped _) fun _ => ?_
    refine quiet_then (quiet_elsewhere webhookSecret_within) (fun secret _ _ => ?_)
      fun failure _ => stopped failure
    refine under_refuse (fun _ => stopped _) fun _ => ?_
    refine (driverInstance_pays record).andThen (fun provider owing _ _ built => ?_)
      fun failure _ _ built => ⟨built.1, (stopped failure).2⟩
    obtain ⟨rfl, honest⟩ := built
    split
    · rename_i event verified
      refine ⟨rfl, fun _ returned => ?_⟩
      cases returned
      rw [← same record rfl]
      exact (honest provider rfl).events _ _ _ verified
    · exact stopped _
  · exact ⟨named.1, (stopped failure).2⟩

theorem finish_then {id detail : String} {finished : WebhookState}
    (each : ∀ later, (next ()).Even book debt later) :
    (finishWebhook id finished detail >>= next).Even book debt world :=
  quiet_then (quiet_elsewhere (finishWebhook_within (by decide))) (fun _ later _ => each later)
    fun _ _ => rfl

theorem applyRecorded_pays {result : WebhookResult}
    (covers : book.Covers providerName event.reference event.amountMinor) :
    (applyRecorded providerName event result).Even book debt world := by
  refine (applyWebhook_pays covers).attempted fun answer owing _ _ same => ?_
  cases same
  cases answer <;> exact finish_then fun _ => rfl

theorem applyDelivery_pays (covers : book.Covers providerName event.reference event.amountMinor) :
    (applyDelivery providerName event).Even book debt world := by
  refine statement_then trivial fun first _ _ => ?_
  split
  · rfl
  refine statement_then trivial fun second _ _ => ?_
  refine (pays_quiet (quiet_elsewhere (recordWebhook_within (by decide)))).attempted
    fun answer owing _ _ same => ?_
  cases same
  cases answer with
  | error =>
    dsimp only
    split <;> rfl
  | ok => exact applyRecorded_pays covers

theorem handleWebhook_pays : (handleWebhook providerName delivery).Even book debt world := by
  refine authenticate_pays.attempted fun answer owing _ _ verified => ?_
  obtain ⟨rfl, covers⟩ := verified
  cases answer with
  | error => rfl
  | ok event => exact applyDelivery_pays (covers event rfl)

end

theorem providerInstance_pays {name : String} : (providerInstance name).Pays (settling book)
    (fun answer owing _ => owing = debt ∧ ∀ provider, answer = .ok provider →
      provider.Honest book name) debt world := by
  have stopped (failure : BillingError) : ∀ provider,
      (.error failure : Except BillingError Provider) = .ok provider → provider.Honest book name :=
    fun _ failed => by simp at failed
  unfold providerInstance
  refine providerByName_pays.andThen (fun record owing _ _ named => ?_)
    fun failure _ _ named => ⟨named.1, stopped failure⟩
  obtain ⟨rfl, same⟩ := named
  refine under_refuse (fun _ => ⟨rfl, stopped _⟩) fun _ => ?_
  rw [← same record rfl]
  exact driverInstance_pays record

theorem replayFromProvider_pays {event : WebhookEvent} :
    (replayFromProvider event).Even book debt world := by
  unfold replayFromProvider
  refine providerInstance_pays.andThen (fun provider owing _ _ built => ?_)
    fun _ _ _ built => built.1
  obtain ⟨rfl, honest⟩ := built
  refine statement_then trivial fun first _ _ => ?_
  cases (execute (Stmt.attempt (.recentOf event.provider (event.receivedAt - secondsPerDay)))
    first).1 with
  | none => rfl
  | some attempt =>
    refine statement_then trivial fun second _ _ => ?_
    cases answered : (execute (Stmt.call (.getPayment event.provider provider
      attempt.providerRef)) second).1 with
    | error => rfl
    | ok =>
      exact applyPaymentEvent_pays ((honest provider rfl).reports _ _ _ answered)

theorem retryEach_pays (events : List WebhookEvent) {world : World} :
    (retryEach events).Even book debt world := by
  induction events generalizing world with
  | nil => rfl
  | cons event rest ih =>
    refine replayFromProvider_pays.attempted fun answer owing _ _ same => ?_
    cases same
    cases answer <;> exact finish_then fun _ => ih

theorem ignore_pays {program : Service Value}
    (pays : program.Even book debt world) : Service.Even book debt program.ignore world :=
  pays.andThen (fun _ _ _ _ same => same) fun _ _ _ same => same

theorem Caller.pays (caller : Caller) (world : World) : caller.program.Even book debt world := by
  cases caller with
  | charge => exact ignore_pays chargeInvoice_pays
  | deliver => exact ignore_pays handleWebhook_pays
  | retry => exact statement_then trivial fun _ _ _ => retryEach_pays _
  | write writer => exact pays_quiet writer.quiet

theorem Errand.keeps (errand : Errand) (sound : Sound book world) :
    (settling book).Keeps world (errand.change world) 0 0 := by
  refine keeps_of_paid sound ?_ (errand.attempts world) (fun _ _ issued => ?_) fun invoiceID => ?_
  · unfold World.Honest
    rw [errand.drivers]
    exact sound.honest
  · unfold Issued
    rw [errand.invoices]
    exact issued
  · simp [World.paidOn, errand.invoices]

theorem fits_of_unraced {move : DeskMove} {desk : Desk} (solvent : desk.Solvent (settling book))
    (unraced : move.Unraced desk) : desk.Fits (settling book) move.move := by
  cases move with
  | call caller => exact (caller.pays desk.state).imp fun _ _ _ same => le_of_eq same
  | advance thread =>
    simp only [DeskMove.Unraced, DeskMove.move, Pool.Fits] at unraced ⊢
    cases present : desk.threads[thread]? with
    | none => trivial
    | some program =>
      rw [present] at unraced
      cases program with
      | step => exact unraced
      | _ => trivial
  | elsewhere errand => exact errand.keeps solvent.valid

/-- A store that starts even is even whenever every caller has returned, if no payment was raced by
another writer. -/
theorem settled_attempts_credited {desk : Desk} {moves : List DeskMove}
    (idle : desk.threads = []) (sound : Sound book desk.state)
    (even : ∀ invoiceID, desk.state.succeededOn invoiceID ≤ desk.state.paidOn invoiceID)
    (unraced : Every DeskMove.play DeskMove.Unraced desk moves)
    (returned : (playMoves desk moves).quiescent = true) (invoiceID : String) :
    (playMoves desk moves).state.succeededOn invoiceID ≤
      (playMoves desk moves).state.paidOn invoiceID := by
  have start : desk.Solvent (settling book) := by
    refine ⟨sound, [], by simp [idle], fun index thread debt present => ?_, fun invoiceID => ?_⟩
    · simp [idle] at present
    have here := even invoiceID
    change _ - _ ≤ (0 : Int)
    omega
  have solvent : (playMoves desk moves).Solvent (settling book) :=
    start.playAll unraced fun move desk solvent unraced => fits_of_unraced solvent unraced
  have balance : _ - _ ≤ (0 : Int) := solvent.even returned invoiceID
  exact sub_nonpos.mp balance

def announcing : Provider where
  currencies := []
  charge := fun _ request =>
    if request.amountMinor = 500 then
      .ok { reference := "pi", state := .succeeded, amountMinor := 500, currency := "USD" }
    else .error "declined"
  refund := fun _ _ => .error "declined"
  getPayment := fun _ _ => .error "unknown"
  verifyWebhook := fun _ _ => .ok
    { id := "evt", kind := mapEventKind "charge.succeeded", reference := "pi", amountMinor := 500
      currency := "USD", detail := "" }

theorem card_unique :
    ∀ column ∈ [PaymentMethod.id], ([storedCard "pm" "stripe"].map column).Nodup := by simp

def openDesk : Desk where
  state :=
    { invoices := ⟨[openInvoice], openInvoice_unique⟩
      methods := ⟨[storedCard "pm" "stripe"], card_unique⟩
      providers := ⟨[{ enabledProvider "stripe" 1 with
        credentials := .ok [("webhook_secret", "whsec")] }], by simp⟩
      drivers := fun _ => some fun _ => .ok announcing
      now := 30
      names := Supply.outgrow }
  threads := []

theorem openDesk_sound : Sound (fun _ _ => 500) openDesk.state := by
  refine ⟨fun name build config provider registered built => ?_, fun attempt member => ?_⟩
  · cases registered
    cases built
    refine ⟨fun earlier request result answered _ => ?_, fun earlier reference live answered => ?_,
      fun delivery secret event verified => ?_⟩
    · simp only [announcing] at answered
      split at answered
      · omega
      · simp at answered
    · simp [announcing] at answered
    · cases verified
      exact .inr le_rfl
  · exact absurd member List.not_mem_nil

theorem openDesk_even (invoiceID : String) :
    openDesk.state.succeededOn invoiceID ≤ openDesk.state.paidOn invoiceID := by
  simp [World.succeededOn, World.paidOn, openDesk, Table.sumWhere_eq, Table.empty, openInvoice]

def steps (thread count : Nat) : List DeskMove := List.replicate count (.advance thread)

def charging : DeskMove := .call (.charge "acme" "inv" "key")

def markDue : InvoiceWriter := (InvoiceWrite.mark "acme" "inv" .due).writer

/-- The charge begins, the invoice falls due, and when the charge has settled the provider announces
the payment, the charge is repeated and failed deliveries are retried. -/
def overlapping : List DeskMove :=
  charging :: steps 0 3 ++ .call (.write markDue) :: steps 1 6 ++ steps 0 19 ++
    .call (.deliver "stripe" ⟨[], []⟩) :: steps 2 9 ++ charging :: steps 3 1 ++
    .call .retry :: steps 4 1

theorem overlapping_charge_credited :
    (playMoves openDesk overlapping).state.succeededOn "inv" = 500 ∧
      (playMoves openDesk overlapping).state.succeededOn "inv" ≤
        (playMoves openDesk overlapping).state.paidOn "inv" :=
  ⟨by decide +kernel, settled_attempts_credited rfl openDesk_sound openDesk_even
    (by decide +kernel) (by decide +kernel) "inv"⟩

/-- The same, but the charge has read the invoice when the invoice falls due. -/
def raced : List DeskMove :=
  charging :: steps 0 18 ++ .call (.write markDue) :: steps 1 6 ++ steps 0 1 ++
    .call (.deliver "stripe" ⟨[], []⟩) :: steps 2 9 ++ charging :: steps 3 1 ++
    .call .retry :: steps 4 1

theorem raced_payment_lost :
    Sound (fun _ _ => 500) openDesk.state ∧
      (∀ invoiceID, openDesk.state.succeededOn invoiceID ≤ openDesk.state.paidOn invoiceID) ∧
      (playMoves openDesk raced).quiescent = true ∧
      (playMoves openDesk raced).state.webhooks.rows.all (fun event => event.state != .failed) ∧
      (playMoves openDesk raced).state.succeededOn "inv" = 500 ∧
      (playMoves openDesk raced).state.paidOn "inv" = 0 :=
  ⟨openDesk_sound, openDesk_even, by decide +kernel, by decide +kernel, by decide +kernel,
    by decide +kernel⟩

end Cashp
