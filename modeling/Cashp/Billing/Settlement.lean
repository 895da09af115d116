import Mathlib.Order.ConditionallyCompleteLattice.Basic
import Cashp.Billing.Charges
import Cashp.Kit.Pool

/-!
What a settled attempt owes its invoice. An attempt is stored as succeeded first and the invoice is
credited by a guarded write of its own; in between the caller is in debt to the invoice.
-/

namespace Cashp

open Kit Kit.Program

def World.succeededOn (world : World) (invoiceID : String) : Int :=
  world.attempts.sumWhere
    (fun attempt => attempt.invoiceID == invoiceID && attempt.state == .succeeded)
    PaymentAttempt.amountMinor

def World.short (world : World) (invoiceID : String) : Int :=
  world.succeededOn invoiceID - world.paidOn invoiceID

abbrev Book := String → String → Int

def Book.Covers (book : Book) (name reference : String) (amountMinor : Int) : Prop :=
  amountMinor ≤ 0 ∨ book name reference ≤ amountMinor

structure Provider.Honest (book : Book) (name : String) (provider : Provider) : Prop where
  charges : ∀ earlier request result, provider.charge earlier request = .ok result →
    isBlank result.reference = false → request.amountMinor ≤ book name result.reference
  reports : ∀ earlier reference live, provider.getPayment earlier reference = .ok live →
    book.Covers name reference live.amountMinor
  events : ∀ delivery secret event, provider.verifyWebhook delivery secret = .ok event →
    book.Covers name event.reference event.amountMinor

def World.Honest (book : Book) (world : World) : Prop :=
  ∀ name build config provider, world.drivers name = some build → build config = .ok provider →
    provider.Honest book name

structure PaymentAttempt.Sound (book : Book) (world : World) (attempt : PaymentAttempt) : Prop where
  named : isBlank attempt.tenantID = false
  positive : 0 < attempt.amountMinor
  issued : Issued attempt.tenantID attempt.invoiceID world
  booked : isBlank attempt.providerRef = false →
    attempt.amountMinor ≤ book attempt.provider attempt.providerRef

structure Sound (book : Book) (world : World) : Prop where
  honest : world.Honest book
  attempts : ∀ attempt ∈ world.attempts.rows, attempt.Sound book world

structure Evolves (before after : World) : Prop where
  origins : before.origins ⊆ after.origins
  issued : ∀ tenantID invoiceID, Issued tenantID invoiceID before → Issued tenantID invoiceID after

def Stmt.Lands {Reply : Type} (stmt : Stmt Reply) (world : World) : Prop :=
  match stmt with
  | .invoice (.update (.pay _ _) invoiceID tenantID version) =>
    ∃ inv ∈ world.invoices.rows, inv.isVersion invoiceID tenantID version = true
  | _ => True

def settling (book : Book) : Discipline Stmt World (String → Int) where
  valid := Sound book
  rely := Evolves
  refl _ := ⟨List.Subset.refl _, fun _ _ issued => issued⟩
  trans _ _ _ early late :=
    ⟨List.Subset.trans early.origins late.origins, fun _ _ issued =>
      late.issued _ _ (early.issued _ _ issued)⟩
  fine := Stmt.Lands
  short := World.short

def InvoiceUpdate.paying : InvoiceUpdate → Int
  | .pay amountMinor _ => amountMinor
  | _ => 0

def Stmt.Quiet {Reply : Type} (stmt : Stmt Reply) : Prop :=
  match stmt with
  | .attempt (.insert _) => False
  | .attempt (.complete ..) => False
  | .invoice (.insert inv) => 0 ≤ inv.paidMinor
  | .invoice (.update change _ _ _) => change.redrafts = false ∧ 0 ≤ change.paying
  | _ => True

structure InvoiceWriter where
  program : Service Unit
  quiet : program.Uses Stmt.Quiet

inductive InvoiceWrite
  | createDraft (tenantID subscriptionID : String) (periodStart periodEnd : Int)
  | addLine (tenantID invoiceID : String) (line : InvoiceLine)
  | recalculate (tenantID invoiceID : String)
  | issue (tenantID invoiceID : String)
  | pay (tenantID invoiceID : String) (amountMinor : Int)
  | mark (tenantID invoiceID : String) (target : InvoiceState)
  | credit (tenantID invoiceID : String) (amountMinor : Int) (reason : CreditReason)
      (note actor : String)
  | applyBalance (inv : Invoice)

def InvoiceWrite.program : InvoiceWrite → Service Unit
  | .createDraft tenantID subscriptionID periodStart periodEnd =>
    (Cashp.createDraft tenantID subscriptionID periodStart periodEnd).ignore
  | .addLine tenantID invoiceID line => (Cashp.addLine tenantID invoiceID line).ignore
  | .recalculate tenantID invoiceID => (recalculateInvoice tenantID invoiceID).ignore
  | .issue tenantID invoiceID => (issueInvoice tenantID invoiceID).ignore
  | .pay tenantID invoiceID amountMinor => (recordPayment tenantID invoiceID amountMinor).ignore
  | .mark tenantID invoiceID target => (markInvoiceState tenantID invoiceID target).ignore
  | .credit tenantID invoiceID amountMinor reason note actor =>
    (issueCreditNote tenantID invoiceID amountMinor reason note actor).ignore
  | .applyBalance inv => (applyAccountBalance inv).ignore

inductive Caller
  | charge (tenantID invoiceID idempotencyKey : String)
  | deliver (providerName : String) (delivery : Delivery)
  | retry
  | write (writer : InvoiceWriter)

def Caller.program : Caller → Service Unit
  | .charge tenantID invoiceID key => (chargeInvoice tenantID invoiceID key).ignore
  | .deliver providerName delivery => (handleWebhook providerName delivery).ignore
  | .retry => retryFailedWebhooks
  | .write writer => writer.program

structure Errand where
  change : World → World
  attempts : ∀ world, (change world).attempts = world.attempts
  invoices : ∀ world, (change world).invoices = world.invoices
  drivers : ∀ world, (change world).drivers = world.drivers

abbrev Desk := Pool Stmt BillingError Unit World

inductive DeskMove
  | call (caller : Caller)
  | advance (thread : Nat)
  | elsewhere (errand : Errand)

def DeskMove.move : DeskMove → Move Stmt BillingError Unit World
  | .call caller => .spawn caller.program
  | .advance thread => .advance thread
  | .elsewhere errand => .disturb errand.change

def DeskMove.play (move : DeskMove) (desk : Desk) : Desk := Pool.play desk move.move

def playMoves (desk : Desk) (moves : List DeskMove) : Desk := desk.playAll (moves.map DeskMove.move)

def DeskMove.Unraced (move : DeskMove) (desk : Desk) : Prop :=
  match move with
  | .advance thread =>
    match desk.threads[thread]? with
    | some (.step stmt _) => stmt.Lands desk.state
    | _ => True
  | _ => True

instance {Reply : Type} (stmt : Stmt Reply) (world : World) : Decidable (stmt.Lands world) := by
  unfold Stmt.Lands
  split <;> infer_instance

instance (move : DeskMove) (desk : Desk) : Decidable (move.Unraced desk) := by
  unfold DeskMove.Unraced
  split
  · split <;> infer_instance
  · infer_instance

variable {book : Book} {world later : World} {debt : String → Int} {Reply : Type}
variable {stmt : Stmt Reply} {Value : Type} {program : Service Value} {attempt : PaymentAttempt}

theorem honest_execute (honest : world.Honest book) (stmt : Stmt Reply) :
    (execute stmt world).2.Honest book := by
  intro name build config provider registered built
  rw [(execute_steady stmt world).drivers] at registered
  exact honest name build config provider registered built

theorem quiet_freezes (quiet : stmt.Quiet) : stmt.Freezes := by
  cases stmt with
  | invoice stmt =>
    cases stmt with
    | update => exact quiet.1
    | _ => trivial
  | _ => trivial

theorem quiet_attempts (quiet : stmt.Quiet)
    (world : World) : (execute stmt world).2.attempts = world.attempts := by
  refine execute_same stmt world .attempt ?_
  cases stmt with
  | attempt stmt =>
    cases stmt <;> first | exact quiet.elim | simp [Stmt.writes, AttemptStmt.writes]
  | invoice stmt =>
    cases stmt <;> simp [Stmt.writes, InvoiceStmt.writes]
  | line stmt => cases stmt <;> simp [Stmt.writes, LineStmt.writes]
  | _ => grind

theorem quiet_paid (quiet : stmt.Quiet) (world : World)
    (invoiceID : String) : world.paidOn invoiceID ≤ (execute stmt world).2.paidOn invoiceID := by
  by_cases outside : Area.payment ∉ stmt.writes
  · exact le_of_eq (congrFun (execute_same stmt world .payment outside) invoiceID).symm
  cases stmt with
  | invoice stmt =>
    cases stmt with
    | insert inv =>
      change _ ≤ (Stmt.execute _ _).2.paidOn invoiceID
      simp only [Stmt.execute, InvoiceStmt.execute]
      cases stored : world.invoices.insert inv with
      | none => exact le_rfl
      | some =>
        have unsigned : 0 ≤ inv.paidMinor := quiet
        simp only [World.paidOn, Table.sumWhere_insert stored]
        split <;> omega
    | update change =>
      refine Table.sumWhere_update_ge (by simp [InvoiceUpdate.apply_id]) (fun inv => ?_)
        fun inv => ?_
      · rw [change.apply_id]
      · have unsigned := quiet.2
        cases change <;> simp_all [InvoiceUpdate.apply, InvoiceUpdate.paying]
    | _ => exact absurd (by simp [Stmt.writes, InvoiceStmt.writes]) outside
  | attempt stmt => cases stmt <;> exact absurd (by simp [Stmt.writes, AttemptStmt.writes]) outside
  | line stmt => cases stmt <;> exact absurd (by simp [Stmt.writes, LineStmt.writes]) outside
  | _ => exact absurd (by grind) outside

theorem PaymentAttempt.Sound.evolve (sound : attempt.Sound book world)
    (evolves : Evolves world later) : attempt.Sound book later :=
  ⟨sound.named, sound.positive, evolves.issued _ _ sound.issued, sound.booked⟩

theorem keeps_of_paid (sound : Sound book world) (honest : later.Honest book)
    (attempts : later.attempts = world.attempts)
    (issued : ∀ tenantID invoiceID, Issued tenantID invoiceID world →
      Issued tenantID invoiceID later) {owing : String → Int}
    (paid : ∀ invoiceID, world.paidOn invoiceID + debt invoiceID ≤
      later.paidOn invoiceID + owing invoiceID) : (settling book).Keeps world later debt owing := by
  have evolves : Evolves world later := ⟨by simp [World.origins, attempts], issued⟩
  refine ⟨⟨honest, fun attempt member => ?_⟩, evolves, fun invoiceID => ?_⟩
  · rw [attempts] at member
    exact (sound.attempts attempt member).evolve evolves
  have here := paid invoiceID
  simp only [settling, World.short, World.succeededOn, attempts, Pi.add_apply]
  omega

theorem quiet_keeps (quiet : stmt.Quiet) (sound : Sound book world) (debt : String → Int) :
    (settling book).Keeps world (execute stmt world).2 debt debt := by
  refine keeps_of_paid sound (honest_execute sound.honest stmt) (quiet_attempts quiet world)
    (fun _ _ issued => issued_execute (quiet_freezes quiet) issued) fun invoiceID => ?_
  have grown := quiet_paid quiet world invoiceID
  omega

theorem pay_keeps {invoiceID tenantID : String} {version amountMinor now owed : Int}
    (sound : Sound book world) (enough : owed ≤ amountMinor) (positive : 0 ≤ amountMinor)
    (lands : (Stmt.invoice (.update (.pay amountMinor now) invoiceID tenantID version)).Lands
      world) : (settling book).Keeps world
      (execute (Stmt.invoice (.update (.pay amountMinor now) invoiceID tenantID version)) world).2
      (debt + Pi.single invoiceID owed) debt := by
  have quiet : (Stmt.invoice (.update (.pay amountMinor now) invoiceID tenantID version)).Quiet :=
    ⟨rfl, positive⟩
  refine keeps_of_paid sound (honest_execute sound.honest _) (quiet_attempts quiet world)
    (fun _ _ issued => issued_execute (quiet_freezes quiet) issued) fun target => ?_
  by_cases same : target = invoiceID
  · subst same
    obtain ⟨inv, member, hit⟩ := lands
    have written : (InvoiceUpdate.pay amountMinor now).apply inv ∈
        (execute (Stmt.invoice (.update (.pay amountMinor now) target tenantID version))
          world).2.invoices.rows := List.mem_map.mpr ⟨inv, member, Table.assignWhere_of hit⟩
    have here : inv.id = target := by
      simp only [Invoice.isVersion, Bool.and_eq_true] at hit
      exact (isRow_iff.mp hit.1).1
    subst here
    have before := paidOn_of_mem member
    have after : World.paidOn _ inv.id = inv.paidMinor + amountMinor := paidOn_of_mem written
    simp only [Pi.add_apply, Pi.single_eq_same]
    omega
  · have grown := quiet_paid quiet world target
    simp only [Pi.add_apply, Pi.single_eq_of_ne same]
    omega

theorem insert_keeps (sound : Sound book world)
    (fresh : attempt.Sound book world) (unsettled : attempt.state ≠ .succeeded) :
    (settling book).Keeps world (execute (Stmt.attempt (.insert attempt)) world).2 debt debt := by
  change (settling book).Keeps world (Stmt.execute _ _).2 debt debt
  simp only [Stmt.execute, AttemptStmt.execute]
  cases stored : world.attempts.insert attempt with
  | none => exact ⟨sound, (settling book).refl world, le_rfl⟩
  | some =>
    have rows := Table.insert_rows stored
    refine ⟨⟨sound.honest, fun other member => ?_⟩, ⟨?_, fun _ _ issued => issued⟩,
      fun invoiceID => ?_⟩
    · rw [rows, List.mem_append, List.mem_singleton] at member
      rcases member with old | rfl
      · exact ⟨(sound.attempts other old).named, (sound.attempts other old).positive,
          (sound.attempts other old).issued, (sound.attempts other old).booked⟩
      · exact ⟨fresh.named, fresh.positive, fresh.issued, fresh.booked⟩
    · simp [World.origins, rows]
    · simp [settling, World.short, World.succeededOn, World.paidOn,
        Table.sumWhere_insert stored, unsettled]

def owes (state : PaymentState) (attempt : PaymentAttempt) : String → Int :=
  if state = .succeeded then Pi.single attempt.invoiceID attempt.amountMinor else 0

section

variable {attempt : PaymentAttempt} {state : PaymentState} {reference code message : String}
  {now : Int}

def marking (attempt : PaymentAttempt) (state : PaymentState) (reference code message : String)
    (now : Int) : Stmt Nat :=
  .attempt (.complete state reference code message now attempt.id)

theorem marking_succeeded (sound : Sound book world) (recorded : attempt.origin ∈ world.origins)
    (invoiceID : String) :
    (execute (marking attempt state reference code message now) world).2.succeededOn invoiceID ≤
      world.succeededOn invoiceID + owes state attempt invoiceID := by
  obtain ⟨row, member, origin⟩ := List.mem_map.mp recorded
  simp only [PaymentAttempt.origin, PaymentAttempt.mk.injEq] at origin
  obtain ⟨sameID, -, -, sameInvoice, -, -, -, sameAmount, -⟩ := origin
  refine (Table.sumWhere_update_le (by simp [PaymentAttempt.completed])
    fun other there => (sound.attempts other there).positive.le).trans ?_
  rw [← sameID, Table.sumWhere_unique List.mem_cons_self member]
  refine add_le_add le_rfl ?_
  by_cases settled : state = .succeeded
  · by_cases same : invoiceID = attempt.invoiceID
    · simp [owes, PaymentAttempt.completed, settled, same, sameInvoice, sameAmount]
    · simp [owes, PaymentAttempt.completed, settled, sameInvoice, Ne.symm same]
  · simp [owes, PaymentAttempt.completed, settled]

theorem marking_row (sound : Sound book world) (recorded : attempt.origin ∈ world.origins)
    (booked : isBlank reference = false → attempt.amountMinor ≤ book attempt.provider reference)
    {row : PaymentAttempt} (member : row ∈
      (execute (marking attempt state reference code message now) world).2.attempts.rows) :
    row.Sound book world := by
  obtain ⟨old, stored, rfl⟩ := List.mem_map.mp member
  have kept := sound.attempts old stored
  unfold Table.assignWhere
  split
  · rename_i hit
    obtain ⟨first, there, origin⟩ := List.mem_map.mp recorded
    simp only [PaymentAttempt.origin, PaymentAttempt.mk.injEq] at origin
    obtain ⟨sameID, -, -, -, -, sameProvider, -, sameAmount, -⟩ := origin
    have same : old = first := Table.eq_of_column List.mem_cons_self stored there
      ((beq_iff_eq.mp hit).trans sameID.symm)
    subst same
    refine ⟨kept.named, kept.positive, kept.issued, fun shown => ?_⟩
    have enough := booked shown
    simpa [PaymentAttempt.completed, sameProvider, sameAmount] using enough
  · exact kept

theorem marking_keeps (sound : Sound book world) (recorded : attempt.origin ∈ world.origins)
    (booked : isBlank reference = false → attempt.amountMinor ≤ book attempt.provider reference) :
    (settling book).Keeps world
      (execute (marking attempt state reference code message now) world).2 debt
      (debt + owes state attempt) := by
  have origins : (execute (marking attempt state reference code message now) world).2.origins =
      world.origins :=
    execute_same (marking attempt state reference code message now) world .charge
      (by simp [marking, Stmt.writes, AttemptStmt.writes])
  have evolves : Evolves world
      (execute (marking attempt state reference code message now) world).2 :=
    ⟨by rw [origins]; exact List.Subset.refl _, fun _ _ issued => issued⟩
  refine ⟨⟨sound.honest, fun row member => ?_⟩, evolves, fun invoiceID => ?_⟩
  · exact (marking_row sound recorded booked member).evolve evolves
  have grown : (execute (marking attempt state reference code message now)
      world).2.succeededOn invoiceID ≤ _ := marking_succeeded sound recorded invoiceID
  change _ - world.paidOn invoiceID + debt invoiceID ≤
    world.succeededOn invoiceID - world.paidOn invoiceID +
      (debt invoiceID + owes state attempt invoiceID)
  omega

end

theorem quiet_of_freezes
    (within : stmt.Within (without [.payment, .attempt])) (freezes : stmt.Freezes) :
    stmt.Quiet := by
  have unpaid : Area.payment ∉ stmt.writes := within.avoids (by decide)
  have unmarked : Area.attempt ∉ stmt.writes := within.avoids (by decide)
  cases stmt with
  | attempt stmt =>
    cases stmt <;> first | trivial | simp [Stmt.writes, AttemptStmt.writes] at unmarked
  | invoice stmt =>
    cases stmt with
    | insert inv =>
      by_cases none : inv.paidMinor = 0
      · exact none.ge
      · simp [Stmt.writes, InvoiceStmt.writes, none] at unpaid
    | update change =>
      refine ⟨freezes, ?_⟩
      cases change <;> first
        | exact le_rfl
        | simp [Stmt.writes, InvoiceStmt.writes, InvoiceUpdate.pays] at unpaid
    | _ => trivial
  | _ => trivial

theorem quiet_elsewhere (within : program.Avoids [.invoice, .payment, .attempt]) :
    program.Uses Stmt.Quiet := by
  refine within.mono fun stmt inside => quiet_of_freezes ?_ (freezes_of_within ?_) <;>
    exact fun area writes => by
      have allowed := inside area writes
      simp_all [without]

theorem settleIfPaid_quiet (tenantID invoiceID : String) :
    (settleIfPaid tenantID invoiceID).Uses Stmt.Quiet :=
  Uses.mono (Uses.and (settleIfPaid_within (by decide)) settleIfPaid_freezes) fun _ both =>
    quiet_of_freezes both.1 both.2

theorem recordPayment_quiet (tenantID invoiceID : String) (amountMinor : Int) :
    (recordPayment tenantID invoiceID amountMinor).Uses Stmt.Quiet := by
  unfold recordPayment
  by_cases bad : amountMinor ≤ 0
  · rw [refuse, if_pos bad]
    exact uses_fail _
  refine uses_refused fun _ => ?_
  refine uses_bind (quiet_elsewhere invoice_within) fun inv => ?_
  refine uses_refused fun _ => uses_then trivial fun now => ?_
  refine uses_then ⟨rfl, ?_⟩ fun affected => ?_
  · simp only [InvoiceUpdate.paying]
    omega
  · exact uses_refused fun _ => settleIfPaid_quiet tenantID inv.id

theorem markAs_quiet {tenantID : String} {inv : Invoice} {target : InvoiceState} {voidedAt : Int}
    (sent : target ≠ .draft) : (markAs tenantID inv target voidedAt).Uses Stmt.Quiet := by
  unfold markAs requireRows
  refine uses_then trivial fun now => ?_
  refine uses_then ⟨?_, le_rfl⟩ fun affected => ?_
  · simpa [InvoiceUpdate.redrafts] using sent
  · refine uses_refused fun _ => ?_
    exact quiet_elsewhere invoice_within

theorem markInvoiceState_quiet (tenantID invoiceID : String) (target : InvoiceState) :
    (markInvoiceState tenantID invoiceID target).Uses Stmt.Quiet := by
  unfold markInvoiceState
  refine uses_bind (quiet_elsewhere invoice_within) fun inv => ?_
  by_cases drafted : target = .draft
  · rw [refuse, if_pos drafted]
    exact uses_fail _
  refine uses_refused fun _ => uses_refused fun _ => ?_
  split
  · exact uses_then trivial fun voidedAt => markAs_quiet drafted
  · exact markAs_quiet drafted

theorem issueCreditNote_quiet (tenantID invoiceID : String) (amountMinor : Int)
    (reason : CreditReason) (note actor : String) :
    (issueCreditNote tenantID invoiceID amountMinor reason note actor).Uses Stmt.Quiet := by
  unfold issueCreditNote
  refine uses_bind (quiet_elsewhere invoice_within) fun inv => ?_
  iterate 3 refine uses_refused fun _ => ?_
  refine uses_bind (quiet_elsewhere setting_within) fun tag => ?_
  refine uses_bind (quiet_elsewhere (nextDocumentNumber_within (by decide))) fun number => ?_
  iterate 3 refine uses_then trivial fun _ => ?_
  refine uses_refused fun _ => ?_
  iterate 2 refine uses_then trivial fun _ => ?_
  exact uses_bind (settleIfPaid_quiet tenantID inv.id) fun _ => uses_pure _

theorem applyAccountBalance_quiet (inv : Invoice) : (applyAccountBalance inv).Uses Stmt.Quiet := by
  unfold applyAccountBalance
  refine uses_bind (quiet_elsewhere (ensureAccount_within (by decide))) fun _ => ?_
  split
  · exact uses_pure _
  · iterate 3 refine uses_then trivial fun _ => ?_
    exact settleIfPaid_quiet inv.tenantID inv.id

theorem issueInvoice_quiet (tenantID invoiceID : String) :
    (issueInvoice tenantID invoiceID).Uses Stmt.Quiet := by
  unfold issueInvoice
  refine uses_bind (quiet_elsewhere invoice_within) fun inv => ?_
  iterate 2 refine uses_refused fun _ => ?_
  refine uses_bind (quiet_elsewhere (ensureAccount_within (by decide))) fun _ => ?_
  refine uses_bind (quiet_elsewhere setting_within) fun tag => ?_
  refine uses_bind (quiet_elsewhere (nextDocumentNumber_within (by decide))) fun number => ?_
  refine uses_then trivial fun now => ?_
  refine uses_bind (quiet_elsewhere settingInt_within) fun dueDays => ?_
  refine uses_then trivial fun today => ?_
  refine uses_then ⟨rfl, le_rfl⟩ fun _ => uses_refused fun _ => ?_
  exact quiet_elsewhere invoice_within

theorem recalculateInvoice_quiet (tenantID invoiceID : String) :
    (recalculateInvoice tenantID invoiceID).Uses Stmt.Quiet := by
  unfold recalculateInvoice recalculateDraft
  refine uses_bind (quiet_elsewhere invoice_within) fun inv => ?_
  split
  · exact uses_pure _
  refine uses_bind (quiet_elsewhere (ensureAccount_within (by decide))) fun _ => ?_
  refine uses_bind (quiet_elsewhere calculateTax_within) fun tax => ?_
  refine uses_then trivial fun now => ?_
  refine uses_then ⟨rfl, le_rfl⟩ fun _ => uses_refused fun _ => ?_
  split
  · refine uses_then trivial fun _ => ?_
    exact quiet_elsewhere invoice_within
  · exact quiet_elsewhere invoice_within

theorem addLine_quiet (tenantID invoiceID : String) (line : InvoiceLine) :
    (addLine tenantID invoiceID line).Uses Stmt.Quiet := by
  unfold addLine
  refine uses_bind (quiet_elsewhere invoice_within) fun inv => ?_
  refine uses_refused fun _ => ?_
  iterate 2 refine uses_then trivial fun _ => ?_
  exact uses_refused fun _ => recalculateInvoice_quiet tenantID inv.id

theorem createDraft_quiet (tenantID subscriptionID : String) (periodStart periodEnd : Int) :
    (createDraft tenantID subscriptionID periodStart periodEnd).Uses Stmt.Quiet := by
  unfold createDraft
  refine uses_bind (quiet_elsewhere (ensureAccount_within (by decide))) fun _ => ?_
  iterate 2 refine uses_then trivial fun _ => ?_
  refine uses_bind (quiet_elsewhere invoiceCurrency_within) fun currency => ?_
  refine uses_then (le_refl (0 : Int)) fun stored => ?_
  exact uses_refused fun _ => uses_pure _

theorem ignore_quiet (quiet : program.Uses Stmt.Quiet) : program.ignore.Uses Stmt.Quiet :=
  uses_bind quiet fun _ => uses_pure ()

theorem InvoiceWrite.quiet (write : InvoiceWrite) : write.program.Uses Stmt.Quiet := by
  cases write with
  | createDraft => exact ignore_quiet (createDraft_quiet _ _ _ _)
  | addLine => exact ignore_quiet (addLine_quiet _ _ _)
  | recalculate => exact ignore_quiet (recalculateInvoice_quiet _ _)
  | issue => exact ignore_quiet (issueInvoice_quiet _ _)
  | pay => exact ignore_quiet (recordPayment_quiet _ _ _)
  | mark => exact ignore_quiet (markInvoiceState_quiet _ _ _)
  | credit => exact ignore_quiet (issueCreditNote_quiet _ _ _ _ _ _)
  | applyBalance => exact ignore_quiet (applyAccountBalance_quiet _)

def InvoiceWrite.writer (write : InvoiceWrite) : InvoiceWriter := ⟨write.program, write.quiet⟩

end Cashp
