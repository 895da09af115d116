import Cashp.Billing.Reads

/-!
Booking a payment on an issued invoice: alone on the store the guarded write lands, and the invoice
stays issued.
-/

namespace Cashp

open Kit Kit.Program

variable {world : World} {tenantID invoiceID : String} {row inv : Invoice} {amount : Int}
variable {target : InvoiceState}

theorem paidOn_of_mem (member : inv ∈ world.invoices.rows) : world.paidOn inv.id = inv.paidMinor :=
  Table.sumWhere_unique (List.mem_singleton_self Invoice.id) member

theorem find_invoice (member : row ∈ world.invoices.rows)
    (matching : row.isRow invoiceID tenantID = true) :
    world.invoices.find (Invoice.isRow invoiceID tenantID) = some row := by
  refine Table.find_unique (List.mem_singleton_self Invoice.id) member matching fun other hit => ?_
  simp only [Invoice.isRow, Bool.and_eq_true, beq_iff_eq] at hit matching
  rw [hit.1, matching.1]

theorem invoice_run (named : isBlank tenantID = false)
    (member : row ∈ world.invoices.rows) (matching : row.isRow invoiceID tenantID = true) :
    (invoice tenantID invoiceID).run world =
      (.ok { row with lines := (execute (Stmt.line (.ofInvoice invoiceID tenantID)) world).1 },
        world) := by
  unfold invoice requireTenant
  rw [run_unrefused (by simp [named]), run_bind]
  change ((require (world.invoices.find (Invoice.isRow invoiceID tenantID)) _ >>= _).run world) = _
  rw [find_invoice member matching]
  rfl

def Issued (tenantID invoiceID : String) (world : World) : Prop :=
  ∃ inv ∈ world.invoices.rows, inv.isRow invoiceID tenantID = true ∧ inv.state ≠ .draft

instance (tenantID invoiceID : String) (world : World) :
    Decidable (Issued tenantID invoiceID world) :=
  inferInstanceAs (Decidable (∃ inv ∈ world.invoices.rows, _))

def InvoiceUpdate.redrafts : InvoiceUpdate → Bool
  | .settle state _ _ => state == .draft
  | .mark state _ _ => state == .draft
  | _ => false

def Stmt.Freezes {Reply : Type} (stmt : Stmt Reply) : Prop :=
  match stmt with
  | .invoice (.update change _ _ _) => change.redrafts = false
  | _ => True

theorem InvoiceUpdate.apply_issued {change : InvoiceUpdate}
    (fine : change.redrafts = false) (issued : inv.state ≠ .draft) :
    (change.apply inv).state ≠ .draft := by
  cases change <;> simp_all [InvoiceUpdate.redrafts, InvoiceUpdate.apply]

theorem issued_execute {Reply : Type} {stmt : Stmt Reply} (fine : stmt.Freezes)
    (issued : Issued tenantID invoiceID world) :
    Issued tenantID invoiceID (execute stmt world).2 := by
  obtain ⟨inv, member, matching, sent⟩ := issued
  have assigned {wanted : Invoice → Bool} {assign : Invoice → Invoice}
      (row : (assign inv).isRow invoiceID tenantID = inv.isRow invoiceID tenantID)
      (kept : (assign inv).state ≠ .draft) :
      ∃ found ∈ world.invoices.rows.map (Table.assignWhere wanted assign),
        found.isRow invoiceID tenantID = true ∧ found.state ≠ .draft := by
    grind [Table.assignWhere]
  cases stmt with
  | invoice stmt =>
    cases stmt with
    | insert row =>
      refine ⟨inv, ?_, matching, sent⟩
      change inv ∈ (Stmt.execute _ _).2.invoices.rows
      simp only [Stmt.execute, InvoiceStmt.execute]
      cases stored : world.invoices.insert row with
      | none => exact member
      | some => simp [Table.insert_rows stored, member]
    | update change =>
      exact assigned (by cases change <;> rfl) (change.apply_issued fine sent)
    | credit amountMinor now =>
      have kept : (inv.withCredit amountMinor now).state ≠ .draft := sent
      exact assigned rfl kept
    | _ => exact ⟨inv, member, matching, sent⟩
  | creditNote note =>
    have same : (execute (Stmt.creditNote note) world).2.invoices = world.invoices :=
      execute_same (.creditNote note) world .invoice (by simp [Stmt.writes])
    exact ⟨inv, by rwa [same], matching, sent⟩
  | call stmt => cases stmt <;> exact ⟨inv, member, matching, sent⟩
  | _ => exact ⟨inv, member, matching, sent⟩

theorem issued_run {Value : Type} {program : Service Value} (uses : program.Uses Stmt.Freezes)
    (issued : Issued tenantID invoiceID world) :
    Issued tenantID invoiceID (program.run world).2 := by
  induction program generalizing world with
  | done | fail => exact issued
  | step stmt rest ih => exact ih _ (uses.2 _) (issued_execute uses.1 issued)

theorem freezes_of_within {Reply : Type} {stmt : Stmt Reply}
    (within : stmt.Within (without [.invoice])) : stmt.Freezes := by
  have outside : Area.invoice ∉ stmt.writes := within.avoids (by decide)
  cases stmt with
  | invoice stmt =>
    cases stmt with
    | update =>
      simp [Stmt.writes, InvoiceStmt.writes] at outside
    | _ => trivial
  | _ => trivial

theorem settleAs_freezes {paidAt : Int}
    (issued : target ≠ .draft) : (settleAs tenantID inv target paidAt).Uses Stmt.Freezes := by
  unfold settleAs requireRows
  split
  · exact uses_pure _
  refine uses_then trivial fun now => ?_
  refine uses_then ?_ fun affected => ?_
  · simpa [Stmt.Freezes, InvoiceUpdate.redrafts] using issued
  · refine uses_refused fun _ => ?_
    exact invoice_within.mono fun _ within => freezes_of_within within

theorem settleIfPaid_freezes : (settleIfPaid tenantID invoiceID).Uses Stmt.Freezes := by
  unfold settleIfPaid
  refine uses_bind ?_ fun inv => ?_
  · exact invoice_within.mono fun _ within => freezes_of_within within
  split
  · exact uses_then trivial fun paidAt => settleAs_freezes (by decide)
  split
  · exact uses_pure _
  · exact settleAs_freezes (by decide)

def guardedWrite (row : Invoice) (tenantID : String) (change : InvoiceUpdate) : Stmt Nat :=
  .invoice (.update change row.id tenantID row.version)

theorem guardedWrite_lands (change : InvoiceUpdate)
    (member : row ∈ world.invoices.rows) (owned : row.tenantID = tenantID) :
    (execute (guardedWrite row tenantID change) world).1 ≠ 0 ∧
      change.apply row ∈ (execute (guardedWrite row tenantID change) world).2.invoices.rows := by
  have hit : row.isVersion row.id tenantID row.version = true := by
    simp [Invoice.isVersion, Invoice.isRow, owned]
  refine ⟨fun none => ?_, List.mem_map.mpr ⟨row, member, Table.assignWhere_of hit⟩⟩
  have missed := Table.affected_eq_zero.mp none row member
  simp [hit] at missed

theorem isRow_iff :
    row.isRow invoiceID tenantID = true ↔ row.id = invoiceID ∧ row.tenantID = tenantID := by
  simp [Invoice.isRow]

theorem InvoiceUpdate.apply_isRow (change : InvoiceUpdate) (row : Invoice) :
    (change.apply row).isRow invoiceID tenantID = row.isRow invoiceID tenantID := by
  cases change <;> rfl

def Invoice.settledAs (row : Invoice) (target : InvoiceState) (paidAt now : Int) : Invoice :=
  if row.state = target ∨ canTransitionInvoice row.state target = false then row
  else (InvoiceUpdate.settle target paidAt now).apply row

def Invoice.settled (row : Invoice) (now : Int) : Invoice :=
  if row.balanceDueMinor = 0 then row.settledAs .paid now now
  else if row.paidMinor = 0 ∧ row.creditedMinor = 0 then row
  else row.settledAs .partlyPaid 0 now

section

variable (named : isBlank tenantID = false)

include named

theorem settleAs_returns {lines : List InvoiceLine}
    {paidAt : Int} (member : row ∈ world.invoices.rows)
    (owned : row.tenantID = tenantID) :
    ∃ inv later, (settleAs tenantID { row with lines := lines } target paidAt).run world =
      (.ok inv, later) ∧ row.settledAs target paidAt world.now ∈ later.invoices.rows := by
  unfold settleAs requireRows Invoice.settledAs
  split
  · exact ⟨_, _, rfl, member⟩
  have landed := guardedWrite_lands (.settle target paidAt world.now) member owned
  have reread : ((InvoiceUpdate.settle target paidAt world.now).apply row).isRow row.id tenantID =
      true := by
    rw [InvoiceUpdate.apply_isRow]
    exact isRow_iff.mpr ⟨rfl, owned⟩
  exact ⟨_, _, (run_unrefused landed.1).trans
    (invoice_run named landed.2 reread), landed.2⟩

theorem settleIfPaid_returns
    (member : row ∈ world.invoices.rows) (matching : row.isRow invoiceID tenantID = true) :
    ∃ inv later, (settleIfPaid tenantID invoiceID).run world = (.ok inv, later) ∧
      row.settled world.now ∈ later.invoices.rows := by
  have owned := (isRow_iff.mp matching).2
  unfold settleIfPaid
  rw [run_bind_ok (invoice_run named member matching), Invoice.settled]
  change ∃ inv later, Program.run (if row.balanceDueMinor = 0 then _ else _) world = _ ∧ _
  split
  · exact settleAs_returns named member owned
  change ∃ inv later, Program.run (if row.paidMinor = 0 ∧ row.creditedMinor = 0 then _ else _)
    world = _ ∧ _
  split
  · exact ⟨_, _, rfl, member⟩
  · exact settleAs_returns named member owned

theorem recordPayment_run
    (member : row ∈ world.invoices.rows) (matching : row.isRow invoiceID tenantID = true)
    (sent : row.state ≠ .draft) (positive : 0 < amount) :
    (recordPayment tenantID invoiceID amount).run world = (settleIfPaid tenantID row.id).run
        (execute (guardedWrite row tenantID (.pay amount world.now)) world).2 := by
  have counted : (execute (guardedWrite row tenantID (.pay amount world.now)) world).1 ≠ 0 :=
    (guardedWrite_lands _ member (isRow_iff.mp matching).2).1
  unfold recordPayment requireRows
  rw [run_unrefused (by omega),
    run_bind_ok (invoice_run named member matching), run_unrefused sent]
  change (refuse ((execute (guardedWrite row tenantID (.pay amount world.now)) world).1 = 0) _ >>=
    fun _ => settleIfPaid tenantID row.id).run
      (execute (guardedWrite row tenantID (.pay amount world.now)) world).2 = _
  rw [run_unrefused counted]

theorem recordPayment_paid (issued : Issued tenantID invoiceID world) (positive : 0 < amount) :
    ((recordPayment tenantID invoiceID amount).run world).2.paidOn invoiceID =
        world.paidOn invoiceID + amount ∧
      Issued tenantID invoiceID ((recordPayment tenantID invoiceID amount).run world).2 := by
  obtain ⟨row, member, matching, sent⟩ := issued
  obtain ⟨sameID, owned⟩ := isRow_iff.mp matching
  have paid : (InvoiceUpdate.pay amount world.now).apply row ∈
      (execute (guardedWrite row tenantID (.pay amount world.now)) world).2.invoices.rows :=
    (guardedWrite_lands _ member owned).2
  rw [recordPayment_run named member matching sent positive]
  refine ⟨?_, issued_run settleIfPaid_freezes ⟨_, paid, matching, sent⟩⟩
  have settled : World.paidOn _ = _ := run_same
    (show (settleIfPaid tenantID row.id).Avoids [.payment] by
      apply settleIfPaid_within; decide) (List.mem_singleton_self Area.payment)
    (execute (guardedWrite row tenantID (.pay amount world.now)) world).2
  rw [settled, ← sameID, paidOn_of_mem member]
  exact paidOn_of_mem paid

end

theorem invoice_named {later : World}
    (ran : (invoice tenantID invoiceID).run world = (.ok inv, later)) :
    isBlank tenantID = false := by
  unfold invoice requireTenant at ran
  simpa using (ran_refuse ran).1

theorem recordPayment_refused
    (closed : ¬ (isBlank tenantID = false ∧ Issued tenantID invoiceID world)) :
    ((recordPayment tenantID invoiceID amount).run world).2 = world := by
  unfold recordPayment
  by_cases none : amount ≤ 0
  · rw [run_refused none]
  rw [run_unrefused none]
  cases ran : (invoice tenantID invoiceID).run world with
  | mk answer =>
    cases answer with
    | error =>
      rw [run_bind_error ran]
      exact (congrArg Prod.snd ran).symm.trans
        (run_unchanged invoice_within world)
    | ok inv =>
      obtain ⟨rfl, row, member, matching, same⟩ := invoice_ok ran
      have draft : inv.state = .draft := by
        by_contra sent
        rw [same] at sent
        exact closed ⟨invoice_named ran, row, member, matching, sent⟩
      rw [run_bind_ok ran, run_refused draft]

def Gains (tenantID invoiceID : String) (amount gain : Int) (world : World) : Prop :=
  (isBlank tenantID = false ∧ Issued tenantID invoiceID world ∧ gain = amount) ∨
    (¬ (isBlank tenantID = false ∧ Issued tenantID invoiceID world) ∧ gain = 0)

theorem gains_exists (tenantID invoiceID : String) (amount : Int) (world : World) :
    ∃ gain, Gains tenantID invoiceID amount gain world := by
  by_cases payable : isBlank tenantID = false ∧ Issued tenantID invoiceID world
  · exact ⟨amount, .inl ⟨payable.1, payable.2, rfl⟩⟩
  · exact ⟨0, .inr ⟨payable, rfl⟩⟩

theorem Gains.of_invoices {gain : Int} {later : World}
    (gains : Gains tenantID invoiceID amount gain world)
    (same : later.invoices = world.invoices) : Gains tenantID invoiceID amount gain later := by
  unfold Gains Issued at *
  rwa [same]

theorem recordPayment_gains {gain : Int} (positive : 0 < amount)
    (gains : Gains tenantID invoiceID amount gain world) :
    ((recordPayment tenantID invoiceID amount).run world).2.paidOn invoiceID =
        world.paidOn invoiceID + gain ∧ Gains tenantID invoiceID amount gain
        ((recordPayment tenantID invoiceID amount).run world).2 := by
  rcases gains with ⟨named, issued, rfl⟩ | ⟨closed, rfl⟩
  · have booked := recordPayment_paid named issued positive
    exact ⟨booked.1, .inl ⟨named, booked.2, rfl⟩⟩
  · rw [recordPayment_refused closed, Int.add_zero]
    exact ⟨rfl, .inr ⟨closed, rfl⟩⟩

end Cashp
