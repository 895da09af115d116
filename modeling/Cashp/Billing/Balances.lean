import Cashp.Billing.InlineSettlement
import Cashp.Billing.Refunds

/-!
What is still owed on an invoice after a payment or a refund, and the state the invoice is left in.
-/

namespace Cashp

open Kit Kit.Program

variable {world later : World} {row inv : Invoice} {amount : Int} {reason actor : String}

theorem Invoice.settled_balance (row : Invoice) (now : Int) :
    (row.settled now).id = row.id ∧ (row.settled now).balanceDueMinor = row.balanceDueMinor := by
  have moved (target : InvoiceState) (paidAt : Int) :
      (row.settledAs target paidAt now).id = row.id ∧
        (row.settledAs target paidAt now).balanceDueMinor = row.balanceDueMinor := by
    unfold Invoice.settledAs
    split <;> exact ⟨rfl, rfl⟩
  unfold Invoice.settled
  split
  · exact moved _ _
  split
  · exact ⟨rfl, rfl⟩
  · exact moved _ _

theorem recordPayment_settles (member : row ∈ world.invoices.rows)
    (ran : (recordPayment row.tenantID row.id amount).run world = (.ok inv, later)) :
    0 < amount ∧ ((InvoiceUpdate.pay amount world.now).apply row).settled world.now ∈
      later.invoices.rows := by
  obtain ⟨positive, named, found, there, matching, sent⟩ :=
    (recordPayment_ok_iff row.tenantID row.id amount world).mp ⟨inv, by rw [ran]⟩
  obtain rfl := invoice_of_id there member (isRow_iff.mp matching).1
  have paid : (InvoiceUpdate.pay amount world.now).apply found ∈ (execute (guardedWrite found
      found.tenantID (.pay amount world.now)) world).2.invoices.rows :=
    (guardedWrite_lands _ member rfl).2
  obtain ⟨settled, last, returned, stored⟩ :=
    settleIfPaid_returns named paid (isRow_iff.mpr ⟨rfl, rfl⟩ : Invoice.isRow found.id _ _ = true)
  rw [recordPayment_run named member matching sent positive, returned] at ran
  cases ran
  exact ⟨positive, stored⟩

theorem stored_iff {stored : Invoice} {holds : Invoice → Prop}
    (member : stored ∈ later.invoices.rows) :
    (∀ other ∈ later.invoices.rows, other.id = stored.id → holds other) ↔ holds stored :=
  ⟨fun all => all stored member rfl,
    fun held _ there same => invoice_of_id there member same ▸ held⟩

def Invoice.Booked (stored : Invoice) : Prop :=
  (stored.balanceDueMinor = 0 → stored.state = .paid ∧ stored.paidAt ≠ 0) ∧
    (0 < stored.balanceDueMinor → stored.state = .partlyPaid)

def Closes (row : Invoice) (amount : Int) : Prop :=
  row.state = .partlyPaid ∨
    if row.totalMinor ≤ row.paidMinor + amount + row.creditedMinor then row.state = .processing
    else row.state ∈ [.due, .overdue, .processing] ∧
      ¬ (row.paidMinor + amount = 0 ∧ row.creditedMinor = 0)

theorem settled_booked_iff {now : Int} (ticking : now ≠ 0)
    (payable : row.state ∈ [.issued, .due, .overdue, .processing, .partlyPaid]) :
    (((InvoiceUpdate.pay amount now).apply row).settled now).Booked ↔ Closes row amount := by
  have ⟨_, balance⟩ := ((InvoiceUpdate.pay amount now).apply row).settled_balance now
  have owed : ((InvoiceUpdate.pay amount now).apply row).balanceDueMinor =
      clampNonNegative (row.totalMinor - (row.paidMinor + amount) - row.creditedMinor) := rfl
  unfold Invoice.Booked Closes
  rw [balance, Invoice.settled]
  by_cases covered : row.totalMinor ≤ row.paidMinor + amount + row.creditedMinor
  · have nothing : clampNonNegative
        (row.totalMinor - (row.paidMinor + amount) - row.creditedMinor) = 0 := by
      unfold clampNonNegative
      split <;> omega
    rw [owed, nothing, if_pos rfl, if_pos covered]
    simp only [List.mem_cons, List.not_mem_nil, or_false] at payable
    rcases payable with state | state | state | state | state <;>
      simp [Invoice.settledAs, InvoiceUpdate.apply, state, canTransitionInvoice, invoiceTargets,
        ticking]
  · have rest : 0 < clampNonNegative
        (row.totalMinor - (row.paidMinor + amount) - row.creditedMinor) := by
      unfold clampNonNegative
      split <;> omega
    rw [owed, if_neg rest.ne', if_neg covered]
    generalize clampNonNegative (row.totalMinor - (row.paidMinor + amount) - row.creditedMinor) =
      left at rest
    simp only [List.mem_cons, List.not_mem_nil, or_false] at payable
    by_cases untouched : row.paidMinor + amount = 0 ∧ row.creditedMinor = 0 <;>
      rcases payable with state | state | state | state | state <;>
      simp [Invoice.settledAs, InvoiceUpdate.apply, state, canTransitionInvoice, invoiceTargets,
        rest, rest.ne', untouched]

/-- A payment leaves the invoice in the state that its balance calls for exactly if it could get
there from its state. -/
theorem payment_closes_iff (member : row ∈ world.invoices.rows) (ticking : world.now ≠ 0)
    (payable : row.state ∈ [.issued, .due, .overdue, .processing, .partlyPaid])
    (ran : (recordPayment row.tenantID row.id amount).run world = (.ok inv, later)) :
    (∀ stored ∈ later.invoices.rows, stored.id = row.id → stored.Booked) ↔ Closes row amount := by
  have stored := (recordPayment_settles member ran).2
  have ⟨same, _⟩ := ((InvoiceUpdate.pay amount world.now).apply row).settled_balance world.now
  have sameID : _ = row.id := same
  rw [← sameID, stored_iff stored]
  exact settled_booked_iff ticking payable

def unpaidShop (state : InvoiceState) : World :=
  { paidShop 0 with invoices := ⟨[{ paidInvoice 0 with state := state }], by simp⟩ }

theorem processing_payment_closes :
    (∃ inv, ((recordPayment "acme" "inv" 1000).run (unpaidShop .processing)).1 = .ok inv) ∧
      ∀ stored ∈ ((recordPayment "acme" "inv" 1000).run (unpaidShop .processing)).2.invoices.rows,
        stored.id = "inv" → stored.Booked := by
  have member : { paidInvoice 0 with state := .processing } ∈
      (unpaidShop .processing).invoices.rows := List.mem_singleton_self _
  obtain ⟨inv, ran⟩ : ∃ inv,
    ((recordPayment "acme" "inv" 1000).run (unpaidShop .processing)).1 = .ok inv := ⟨_, rfl⟩
  exact ⟨⟨inv, ran⟩, (payment_closes_iff member (by decide) (by decide) (Prod.ext ran rfl)).mpr
    (by simp [Closes, paidInvoice])⟩

theorem due_payment_left_open :
    ((recordPayment "acme" "inv" 1000).run (unpaidShop .due)).2.invoices.rows.map
        (fun stored => (stored.balanceDueMinor, stored.state, stored.paidAt)) = [(0, .due, 0)] ∧
      ((recordPayment "acme" "inv" 400).run (unpaidShop .issued)).2.invoices.rows.map
        (fun stored => (stored.balanceDueMinor, stored.state)) = [(600, .issued)] := by
  decide +kernel

theorem refundPayment_credits {refund : Refund} (member : row ∈ world.invoices.rows)
    (ran : (refundPayment row.tenantID row.id amount reason actor).run world =
      (.ok refund, later)) :
    0 < amount ∧ ∃ now, (row.withCredit amount now).settled now ∈ later.invoices.rows := by
  rcases refundPayment_run row.tenantID row.id amount reason actor world with
    ⟨failure, failed⟩ | ⟨name, request, cause, failure, failed⟩ |
      ⟨inv, attempt, request, result, read, positive, _, returned⟩
  · cases ran.symm.trans failed
  · cases ran.symm.trans failed
  obtain ⟨_, found, present, hit, same⟩ := invoice_ok read
  obtain rfl := invoice_of_id present member (isRow_iff.mp hit).1
  have named := invoice_named read
  have there : found ∈ (world.after (.refund attempt.provider request
      (.ok result))).invoices.rows := member
  rw [returned, same] at ran
  unfold bookReturned at ran
  obtain ⟨note, credited, issued, rest⟩ := ran_bind ran
  have kept : Area.invoice.Same credited later := by
    rw [← show _ = later from congrArg Prod.snd rest]
    refine run_same ?_ (List.mem_singleton_self Area.invoice) credited
    grind
  by_cases bad : found.state = .draft ∨ amount ≤ 0 ∨
      found.totalMinor - found.creditedMinor < amount
  · obtain ⟨failure, refused⟩ := issueCreditNote_refused named there hit bad
    cases issued.symm.trans refused
  simp only [not_or, not_lt] at bad
  obtain ⟨_, _, again, _, credit⟩ :=
    issueCreditNote_issues named there hit bad.1 positive bad.2.2
  cases issued.symm.trans again
  exact ⟨positive, (show later.invoices = credited.invoices from kept) ▸ credit⟩

/-- A refund leaves the balance as it is exactly on an invoice that is paid or credited in full. -/
theorem refund_keeps_balance_iff {refund : Refund} (member : row ∈ world.invoices.rows)
    (ran : (refundPayment row.tenantID row.id amount reason actor).run world =
      (.ok refund, later)) : (∀ stored ∈ later.invoices.rows, stored.id = row.id →
      stored.balanceDueMinor = row.balanceDueMinor) ↔
        row.totalMinor ≤ row.paidMinor + row.creditedMinor := by
  obtain ⟨positive, now, stored⟩ := refundPayment_credits member ran
  have ⟨same, balance⟩ := (row.withCredit amount now).settled_balance now
  have sameID : _ = row.id := same
  rw [← sameID, stored_iff stored, balance]
  simp only [Invoice.balanceDueMinor, Invoice.withCredit, clampNonNegative]
  grind

theorem paid_refund_keeps_balance :
    (∃ refund, ((refundPayment "acme" "inv" 400 "downgrade" "staff").run (paidShop 1000)).1 =
        .ok refund) ∧ ∀ stored ∈ ((refundPayment "acme" "inv" 400 "downgrade" "staff").run
          (paidShop 1000)).2.invoices.rows,
        stored.id = "inv" → stored.balanceDueMinor = (paidInvoice 1000).balanceDueMinor := by
  have member : paidInvoice 1000 ∈ (paidShop 1000).invoices.rows := List.mem_singleton_self _
  obtain ⟨refund, ran⟩ : ∃ refund, ((refundPayment "acme" "inv" 400 "downgrade" "staff").run
    (paidShop 1000)).1 = .ok refund := ⟨_, rfl⟩
  exact ⟨⟨refund, ran⟩, (refund_keeps_balance_iff member (Prod.ext ran rfl)).mpr (by decide)⟩

/-- 400 of 1000 were paid and are returned: 600 are owed before, and 200 after. -/
theorem part_refund_lowers_balance : (paidInvoice 400).balanceDueMinor = 600 ∧
      ((refundPayment "acme" "inv" 400 "downgrade" "staff").run (paidShop 400)).2.invoices.rows.map
        Invoice.balanceDueMinor = [200] := by
  decide +kernel

end Cashp
