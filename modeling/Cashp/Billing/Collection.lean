import Cashp.Billing.Snapshots
import Cashp.Billing.Reads

/-!
Charging an invoice and marking it overdue add to what was paid on it and move its state; its terms
and every other invoice stay as they are.
-/

namespace Cashp

open Kit Kit.Program

def InvoiceUpdate.Collects : InvoiceUpdate → Prop
  | .recalculate .. => False
  | .issue .. => False
  | .pay amountMinor _ => 0 < amountMinor
  | .settle .. => True
  | .mark .. => True

def Stmt.Collects (invoiceID : String) {Reply : Type} : Stmt Reply → Prop
  | .invoice (.insert _) => False
  | .invoice (.update change id _ _) => id = invoiceID ∧ change.Collects
  | .invoice (.credit ..) => False
  | _ => True

def Invoice.terms (inv : Invoice) : (String × String × String) × Int × Int × Int :=
  (inv.origin, inv.dueAt, inv.totalMinor, inv.creditedMinor)

structure Invoice.Collected (old new : Invoice) : Prop where
  terms : new.terms = old.terms
  paid : old.paidMinor ≤ new.paidMinor

def World.Collected (ids : List String) (before after : World) : Prop :=
  ∀ new ∈ after.invoices.rows, ∃ old ∈ before.invoices.rows,
    old.Collected new ∧ (new.id ∉ ids → new = old)

namespace Invoice.Collected

variable {old new last : Invoice}

theorem refl (inv : Invoice) : inv.Collected inv := ⟨rfl, Int.le_refl _⟩

theorem trans (first : old.Collected new) (second : new.Collected last) : old.Collected last :=
  ⟨second.terms.trans first.terms, Int.le_trans first.paid second.paid⟩

section

variable (collected : old.Collected new)

include collected

theorem id : new.id = old.id :=
  congrArg (fun terms => terms.1.1) collected.terms

theorem tenantID : new.tenantID = old.tenantID :=
  congrArg (fun terms => terms.1.2.1) collected.terms

theorem subscriptionID : new.subscriptionID = old.subscriptionID :=
  congrArg (fun terms => terms.1.2.2) collected.terms

theorem dueAt : new.dueAt = old.dueAt :=
  congrArg (fun terms => terms.2.1) collected.terms

theorem unpaid (owed : 0 < new.balanceDueMinor) :
    0 < old.balanceDueMinor := by
  have total : new.totalMinor = old.totalMinor :=
    congrArg (fun terms => terms.2.2.1) collected.terms
  have credited : new.creditedMinor = old.creditedMinor :=
    congrArg (fun terms => terms.2.2.2) collected.terms
  have paid := collected.paid
  unfold balanceDueMinor at owed ⊢
  rw [clampNonNegative_pos] at owed ⊢
  omega

end

end Invoice.Collected

namespace World.Collected

variable {ids more : List String} {first second third : World}

theorem refl (ids : List String) (world : World) : World.Collected ids world world :=
  fun row member => ⟨row, member, .refl row, fun _ => rfl⟩

theorem trans (early : World.Collected ids first second)
    (late : World.Collected ids second third) : World.Collected ids first third := by
  intro new member
  obtain ⟨middle, stored, onward, same⟩ := late new member
  obtain ⟨old, present, before, unchanged⟩ := early middle stored
  refine ⟨old, present, before.trans onward, fun unlisted => ?_⟩
  have kept := same unlisted
  subst kept
  exact unchanged unlisted

theorem mono (collected : World.Collected ids first second) (wider : ids ⊆ more) :
    World.Collected more first second := by
  grind [World.Collected]

theorem of_same (same : second.invoices = first.invoices) : World.Collected ids first second := by
  intro row member
  rw [same] at member
  exact ⟨row, member, .refl row, fun _ => rfl⟩

end World.Collected

variable {change : InvoiceUpdate}

section

variable {invoiceID tenantID : String} {world : World}

theorem InvoiceUpdate.Collects.apply (collects : change.Collects)
    (inv : Invoice) : inv.Collected (change.apply inv) := by
  cases change with
  | recalculate | issue => exact collects.elim
  | pay amountMinor =>
    have positive : 0 < amountMinor := collects
    refine ⟨rfl, ?_⟩
    simp only [InvoiceUpdate.apply]
    omega
  | settle | mark => exact ⟨rfl, Int.le_refl _⟩

theorem collected_execute {Reply : Type} {stmt : Stmt Reply} (collects : stmt.Collects invoiceID)
    (world : World) : World.Collected [invoiceID] world (execute stmt world).2 := by
  cases stmt with
  | invoice stmt =>
    cases stmt with
    | insert | credit => exact collects.elim
    | update change id tenantID version =>
      obtain ⟨rfl, collects⟩ := collects
      intro new member
      obtain ⟨old, present, same⟩ := List.mem_map.mp member
      refine ⟨old, present, ?_⟩
      by_cases hit : old.isVersion id tenantID version = true
      · rw [Table.assignWhere_of hit] at same
        subst same
        refine ⟨collects.apply old, fun unlisted => absurd ?_ unlisted⟩
        simp only [Invoice.isVersion, Invoice.isRow, Bool.and_eq_true, beq_iff_eq] at hit
        rw [change.apply_id, hit.1.1]
        exact List.mem_singleton_self id
      · rw [Table.assignWhere_not (by simpa using hit)] at same
        subst same
        exact ⟨.refl old, fun _ => rfl⟩
    | _ => exact .of_same rfl
  | creditNote note =>
    exact .of_same (execute_same (.creditNote note) world .invoice (by simp [Stmt.writes]))
  | call stmt => cases stmt <;> exact .of_same rfl
  | _ => exact .of_same rfl

theorem collects_elsewhere {Reply : Type} {stmt : Stmt Reply}
    (within : stmt.Within (without [.invoice])) : stmt.Collects invoiceID := by
  have apart := within.avoids (List.mem_singleton_self Area.invoice)
  cases stmt with
  | invoice stmt =>
    cases stmt with
    | insert | update | credit => simp [Stmt.writes, InvoiceStmt.writes] at apart
    | _ => trivial
  | _ => trivial

end

section

variable {invoiceID tenantID : String} {world : World}
variable {Value Result : Type} {inv : Invoice} {amount : Int} {program : Service Value}
variable {target : InvoiceState} {key : String}

def Collecting {Value : Type} (invoiceID : String) (program : Service Value) (world : World) :
    Prop :=
  program.Along (fun stmt _ => stmt.Collects invoiceID) (Returns fun _ _ => True) world

theorem Collecting.collected (collecting : Collecting invoiceID program world) :
    World.Collected [invoiceID] world (program.run world).2 :=
  (collecting.keeps (World.Collected [invoiceID] world) (.refl _ world)
    fun _ state collects before => before.trans (collected_execute collects state)).run

theorem collecting_elsewhere
    (uses : program.Avoids [.invoice]) : Collecting invoiceID program world :=
  (along_of_uses uses (fun _ => trivial) (fun _ _ _ _ _ => trivial) fun _ _ within =>
    ⟨collects_elsewhere within, trivial⟩).imp fun answer _ _ => by cases answer <;> trivial

theorem Collecting.andThen {next : Value → Service Result}
    (first : Collecting invoiceID program world)
    (rest : ∀ value later, program.run world = (.ok value, later) →
      Collecting invoiceID (next value) later) : Collecting invoiceID (program >>= next) world :=
  Along.andThen first fun value later ran _ => rest value later ran

theorem Collecting.attempted
    {next : Except BillingError Value → Service Result} (first : Collecting invoiceID program world)
    (rest : ∀ answer later, program.run world = (answer, later) →
      Collecting invoiceID (next answer) later) :
    Collecting invoiceID (program.attempt >>= next) world :=
  Along.attempted first fun answer later ran _ => rest answer later ran

theorem collecting_update {version : Int} {next : Nat → Service Result} (collects : change.Collects)
    (rest : ∀ affected later, Collecting invoiceID (next affected) later) : Collecting invoiceID
      (perform (.invoice (.update change invoiceID tenantID version)) >>= next) world :=
  along_then ⟨rfl, collects⟩ (rest _ _)

theorem settleAs_collecting {paidAt : Int} :
    Collecting inv.id (settleAs tenantID inv target paidAt) world := by
  unfold settleAs
  split
  · trivial
  refine (collecting_elsewhere unix_within).andThen fun now _ _ => ?_
  refine collecting_update trivial fun affected _ => ?_
  exact collecting_elsewhere (by grind)

theorem settleIfPaid_collecting : Collecting invoiceID (settleIfPaid tenantID invoiceID) world := by
  unfold settleIfPaid
  refine (collecting_elsewhere invoice_within).andThen fun inv _ read => ?_
  have same := invoice_id_of_ok read
  subst same
  split
  · exact (collecting_elsewhere unix_within).andThen fun _ _ _ => settleAs_collecting
  split
  · trivial
  · exact settleAs_collecting

theorem recordPayment_collecting {amountMinor : Int} :
    Collecting invoiceID (recordPayment tenantID invoiceID amountMinor) world := by
  unfold recordPayment
  refine Along.andThen along_refuse_returns fun _ _ _ positive => ?_
  refine (collecting_elsewhere invoice_within).andThen fun inv _ read => ?_
  have same := invoice_id_of_ok read
  subst same
  refine (collecting_elsewhere (by grind)).andThen fun _ _ _ => ?_
  refine (collecting_elsewhere unix_within).andThen fun now _ _ => ?_
  refine collecting_update (Int.not_le.mp positive.2) fun affected _ => ?_
  exact (collecting_elsewhere requireRows_within).andThen fun _ _ _ =>
    settleIfPaid_collecting

theorem bookCharge_collecting {outcome : ChargeOutcome} :
    Collecting inv.id (bookCharge tenantID inv amount outcome) world := by
  unfold bookCharge
  refine recordPayment_collecting.attempted fun answer _ _ => ?_
  cases answer <;> trivial

theorem chargeInOrder_collecting {methods : List PaymentMethod}
    {failoverAllowed : Bool} {records : List ProviderRecord} {index : Nat} {attemptNumber : Int}
    {last : ChargeOutcome} :
    Collecting inv.id (chargeInOrder tenantID key inv methods amount failoverAllowed records index
      attemptNumber last) world := by
  induction records generalizing world index attemptNumber last with
  | nil => trivial
  | cons record rest ih =>
    unfold chargeInOrder
    split
    · exact ih
    refine (collecting_elsewhere (chargeThrough_within (by decide))).andThen
      fun outcome _ _ => ?_
    split
    · exact bookCharge_collecting
    split
    · trivial
    · exact ih

theorem chargeFresh_collecting :
    Collecting invoiceID (chargeFresh tenantID invoiceID key) world := by
  unfold chargeFresh
  refine (collecting_elsewhere invoice_within).andThen fun inv _ read => ?_
  have same := invoice_id_of_ok read
  subst same
  iterate 7 refine (collecting_elsewhere (by grind)).andThen fun _ _ _ => ?_
  exact (collecting_elsewhere setting_within).andThen fun _ _ _ => chargeInOrder_collecting

theorem chargeInvoice_collecting :
    Collecting invoiceID (chargeInvoice tenantID invoiceID key) world := by
  unfold chargeInvoice
  refine (collecting_elsewhere (by grind)).andThen fun _ _ _ => ?_
  refine (collecting_elsewhere attemptByKey_within).attempted fun answer _ _ => ?_
  cases answer with
  | ok => exact collecting_elsewhere (by grind)
  | error =>
    simp only
    split
    · exact chargeFresh_collecting
    · trivial

theorem markAs_collecting {voidedAt : Int} :
    Collecting inv.id (markAs tenantID inv target voidedAt) world := by
  unfold markAs
  refine (collecting_elsewhere unix_within).andThen fun now _ _ => ?_
  refine collecting_update trivial fun affected _ => ?_
  exact collecting_elsewhere (by grind)

theorem markInvoiceState_collecting :
    Collecting invoiceID (markInvoiceState tenantID invoiceID target) world := by
  unfold markInvoiceState
  refine (collecting_elsewhere invoice_within).andThen fun inv _ read => ?_
  have same := invoice_id_of_ok read
  subst same
  iterate 2 refine (collecting_elsewhere (by grind)).andThen fun _ _ _ => ?_
  split
  · exact (collecting_elsewhere unix_within).andThen fun _ _ _ => markAs_collecting
  · exact markAs_collecting

end

end Cashp
