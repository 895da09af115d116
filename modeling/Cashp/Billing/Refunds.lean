import Cashp.Billing.CreditNotes
import Cashp.Billing.Webhooks
import Cashp.Kit.Run

/-!
A refund asked for by a tenant returns the money first and books the credit note and the refund row
afterwards; one reported by the provider is only booked.
-/

namespace Cashp

open Kit Kit.Program

variable {world : World} {tenantID invoiceID reason actor : String} {amount : Int}
variable {lines : List InvoiceLine}

def World.after (world : World) (call : ProviderCall) : World :=
  { world with calls := world.calls ++ [call] }

def bookReturned (tenantID : String) (inv : Invoice) (attempt : PaymentAttempt) (amount : Int)
    (reason actor : String) (result : RefundResult) : Service Refund := do
  let note ← issueCreditNote tenantID inv.id amount .refund reason actor
  let id ← newID
  let createdAt ← unix
  let completedAt ← refundCompletedAt result.state
  let refund : Refund :=
    { id := id, tenantID := tenantID, invoiceID := inv.id, attemptID := attempt.id
      creditNoteID := note.id, provider := attempt.provider, providerRef := result.reference
      amountMinor := amount, currency := inv.currency
      kind := if amount = inv.totalMinor then .full else .part
      state := refundState result.state, reason := reason, createdAt := createdAt
      completedAt := completedAt }
  recordRefund refund
  pure refund

theorem refundPayment_run (tenantID invoiceID : String) (amount : Int) (reason actor : String)
    (world : World) : (∃ failure, (refundPayment tenantID invoiceID amount reason actor).run world =
      (.error failure, world)) ∨
    (∃ name request cause failure,
      (refundPayment tenantID invoiceID amount reason actor).run world =
        (.error failure, world.after (.refund name request (.error cause)))) ∨
    (∃ inv attempt request result, (invoice tenantID invoiceID).run world = (.ok inv, world) ∧
      0 < amount ∧ amount ≤ inv.paidMinor ∧
      (refundPayment tenantID invoiceID amount reason actor).run world =
        (bookReturned tenantID inv attempt amount reason actor result).run
          (world.after (.refund attempt.provider request (.ok result)))) := by
  unfold refundPayment
  rcases run_bind_reads invoice_within world with stopped | ⟨inv, read, ran⟩
  · exact .inl stopped
  rw [ran]
  by_cases bad : amount ≤ 0 ∨ inv.paidMinor < amount
  · exact .inl ⟨_, run_refused bad⟩
  rw [run_unrefused bad]
  rcases run_bind_reads settledAttempt_within world with
    stopped | ⟨attempt, _, settled⟩
  · exact .inl stopped
  rw [settled]
  rcases run_bind_reads providerInstance_within world with
    stopped | ⟨provider, _, built⟩
  · exact .inl stopped
  rw [built]
  have called : (perform (.call (.refund attempt.provider provider
      (refundRequest attempt inv amount reason))) :
        Service (Except String RefundResult)).run world =
      (.ok (provider.refund world.calls.length (refundRequest attempt inv amount reason)),
        world.after (.refund attempt.provider (refundRequest attempt inv amount reason)
          (provider.refund world.calls.length (refundRequest attempt inv amount reason)))) := rfl
  rw [run_bind_ok called]
  cases provider.refund world.calls.length (refundRequest attempt inv amount reason) with
  | error cause => exact .inr (.inl ⟨_, _, cause, _, rfl⟩)
  | ok result => exact .inr (.inr ⟨inv, attempt, _, result, read, by omega, by omega, rfl⟩)

def Books (invoiceID : String) (amount : Int) (before after : World) : Prop :=
  ∃ refund, before.refunds.insert refund = some after.refunds ∧ refund.invoiceID = invoiceID ∧
    refund.amountMinor = amount

theorem recordRefund_stores {refund : Refund} {grown : Refunds}
    (stored : world.refunds.insert refund = some grown) :
    (recordRefund refund).run world = (.ok (), { world with refunds := grown }) := by
  have inserted : execute (Stmt.refund (.insert refund)) world =
      (true, { world with refunds := grown }) := by
    change Stmt.execute _ _ = _
    simp [Stmt.execute, RefundStmt.execute, stored]
  unfold recordRefund
  rw [run_step, inserted]
  rfl

theorem recordRefund_books (refund : Refund) (world : World) :
    ((recordRefund refund).run world).2.refunds = world.refunds ∨
      Books refund.invoiceID refund.amountMinor world ((recordRefund refund).run world).2 := by
  cases stored : world.refunds.insert refund with
  | none =>
    have inserted : execute (Stmt.refund (.insert refund)) world = (false, world) := by
      change Stmt.execute _ _ = _
      simp [Stmt.execute, RefundStmt.execute, stored]
    unfold recordRefund
    rw [run_step, inserted]
    exact .inl rfl
  | some =>
    rw [recordRefund_stores stored]
    exact .inr ⟨refund, stored, rfl, rfl⟩

theorem recordRefund_last {Value : Type} (refund : Refund) (value : Value) (world : World) :
    ((recordRefund refund >>= fun _ => pure value).run world).2.refunds = world.refunds ∨
      Books refund.invoiceID refund.amountMinor world
        ((recordRefund refund >>= fun _ => pure value).run world).2 := by
  have booked := recordRefund_books refund world
  rw [run_bind]
  cases ran : (recordRefund refund).run world with
  | mk answer =>
    rw [ran] at booked
    cases answer <;> exact booked

theorem books_after {Value Result : Type} {program : Service Value} {next : Value → Service Result}
    (quiet : program.Avoids [.refund])
    (rest : ∀ value later, ((next value).run later).2.refunds = later.refunds ∨
      Books invoiceID amount later ((next value).run later).2) (world : World) :
    ((program >>= next).run world).2.refunds = world.refunds ∨
      Books invoiceID amount world ((program >>= next).run world).2 := by
  have same : World.refunds _ = _ := run_without .refund quiet world
  rw [run_bind]
  cases ran : program.run world with
  | mk answer later =>
    rw [ran] at same
    cases answer with
    | error => exact .inl same
    | ok value =>
      have onward := rest value later
      unfold Books at onward ⊢
      rwa [same] at onward

theorem bookReturned_books (inv : Invoice) (attempt : PaymentAttempt) (result : RefundResult)
    (world : World) :
    ((bookReturned tenantID inv attempt amount reason actor result).run world).2.refunds =
        world.refunds ∨ Books inv.id amount world
        ((bookReturned tenantID inv attempt amount reason actor result).run world).2 := by
  refine books_after (issueCreditNote_within (by decide)) (fun note later => ?_) world
  refine books_after (newID_within (by decide)) (fun id later => ?_) later
  refine books_after unix_within (fun createdAt later => ?_) later
  refine books_after refundCompletedAt_within (fun completedAt later => ?_) later
  exact recordRefund_last _ _ later

theorem refundPayment_books (tenantID invoiceID : String) (amount : Int) (reason actor : String)
    (world : World) :
    ((refundPayment tenantID invoiceID amount reason actor).run world).2.refunds = world.refunds ∨
      Books invoiceID amount world
        ((refundPayment tenantID invoiceID amount reason actor).run world).2 := by
  rcases refundPayment_run tenantID invoiceID amount reason actor world with
    ⟨failure, ran⟩ | ⟨name, request, cause, failure, ran⟩ |
      ⟨inv, attempt, request, result, read, _, _, ran⟩
  · exact .inl (by rw [ran])
  · exact .inl (by rw [ran]; rfl)
  · rw [ran, ← invoice_id_of_ok read]
    exact bookReturned_books inv attempt result _

theorem bookReturned_completes {row : Invoice}
    (attempt : PaymentAttempt) (result : RefundResult) (named : isBlank tenantID = false)
    (member : row ∈ world.invoices.rows) (owned : row.tenantID = tenantID)
    (sent : row.state ≠ .draft) (positive : 0 < amount)
    (fits : amount ≤ row.totalMinor - row.creditedMinor) :
    ∃ refund note later, (bookReturned tenantID { row with lines := lines } attempt amount reason
        actor result).run world = (.ok refund, later) ∧
      later.refunds.rows = world.refunds.rows ++ [refund] ∧
      later.creditNotes.rows = world.creditNotes.rows ++ [note] ∧
      refund.creditNoteID = note.id := by
  obtain ⟨note, credited, issued, notes, _⟩ : ∃ note credited,
      (issueCreditNote tenantID row.id amount .refund reason actor).run world =
        (.ok note, credited) ∧
      credited.creditNotes.rows = world.creditNotes.rows ++ [note] ∧ _ :=
    issueCreditNote_issues named member (isRow_iff.mpr ⟨rfl, owned⟩) sent positive fits
  have refunds : credited.refunds = world.refunds :=
    same_of_run .refund issued (issueCreditNote_within (by decide))
  let drawn : World :=
    { credited with drawn := credited.names.next credited.usedIDs :: credited.drawn }
  obtain ⟨completedAt, timed⟩ : ∃ completedAt, (refundCompletedAt result.state).run drawn =
      (.ok completedAt, drawn) := by
    unfold refundCompletedAt
    split <;> exact ⟨_, rfl⟩
  let refund : Refund :=
    { id := credited.names.next credited.usedIDs, tenantID := tenantID, invoiceID := row.id
      attemptID := attempt.id, creditNoteID := note.id, provider := attempt.provider
      providerRef := result.reference, amountMinor := amount, currency := row.currency
      kind := if amount = row.totalMinor then .full else .part
      state := refundState result.state, reason := reason, createdAt := credited.now
      completedAt := completedAt }
  obtain ⟨grown, stored, rows⟩ : ∃ grown, drawn.refunds.insert refund = some grown ∧
      grown.rows = drawn.refunds.rows ++ [refund] := by
    refine Table.insert_fresh fun column listed other member => ?_
    rw [List.mem_singleton.mp listed]
    exact (lacks_next credited).refund other member
  refine ⟨refund, note, { drawn with refunds := grown }, ?_, ?_, notes, rfl⟩
  · unfold bookReturned
    rw [run_bind_ok issued, run_bind_ok (newID_run credited)]
    have recorded : (recordRefund refund >>= fun _ => (pure refund : Service Refund)).run drawn =
        (.ok refund, { drawn with refunds := grown }) :=
      run_bind_ok (recordRefund_stores stored)
    exact (run_bind_ok timed).trans recorded
  · rw [← refunds]
    exact rows

theorem bookReturned_refused {row : Invoice}
    (attempt : PaymentAttempt) (result : RefundResult) (named : isBlank tenantID = false)
    (member : row ∈ world.invoices.rows) (owned : row.tenantID = tenantID)
    (bad : row.state = .draft ∨ amount ≤ 0 ∨ row.totalMinor - row.creditedMinor < amount) :
    ∃ failure, (bookReturned tenantID { row with lines := lines } attempt amount reason actor
      result).run world = (.error failure, world) := by
  obtain ⟨failure, refused⟩ : ∃ failure,
      (issueCreditNote tenantID row.id amount .refund reason actor).run world =
        (.error failure, world) :=
    issueCreditNote_refused named member (isRow_iff.mpr ⟨rfl, owned⟩) bad
  exact ⟨failure, run_bind_error refused⟩

/-- After the provider has returned the money of an issued invoice, the refund is completed
with its credit note and its row exactly when the amount is within what is not credited yet. -/
theorem returned_refund_completes_iff {row : Invoice} {name : String} {request : RefundRequest}
    {result : RefundResult} (member : row ∈ world.invoices.rows)
    (matching : row.isRow invoiceID tenantID = true) (sent : row.state ≠ .draft)
    (returned : ((refundPayment tenantID invoiceID amount reason actor).run world).2.calls =
      world.calls ++ [.refund name request (.ok result)]) : (∃ refund note later,
      (refundPayment tenantID invoiceID amount reason actor).run world = (.ok refund, later) ∧
      later.refunds.rows = world.refunds.rows ++ [refund] ∧
      later.creditNotes.rows = world.creditNotes.rows ++ [note] ∧ refund.creditNoteID = note.id) ↔
      amount ≤ row.totalMinor - row.creditedMinor := by
  rcases refundPayment_run tenantID invoiceID amount reason actor world with
    ⟨failure, ran⟩ | ⟨other, asked, cause, failure, ran⟩ |
      ⟨inv, attempt, asked, answer, read, positive, _, ran⟩
  · rw [ran] at returned
    have lengths := congrArg List.length returned
    simp at lengths
  · rw [ran] at returned
    simp [World.after] at returned
  obtain ⟨_, found, present, hit, same⟩ := invoice_ok read
  obtain ⟨sameID, owned⟩ := isRow_iff.mp matching
  have known : found = row :=
    invoice_of_id present member ((isRow_iff.mp hit).1.trans sameID.symm)
  subst known
  rw [ran, same]
  have named := invoice_named read
  have there : found ∈ (world.after (.refund attempt.provider asked
      (.ok answer))).invoices.rows := member
  constructor
  · rintro ⟨refund, note, later, completed, _⟩
    by_contra past
    have exceeds : found.totalMinor - found.creditedMinor < amount := by omega
    obtain ⟨failure, refused⟩ :=
      bookReturned_refused attempt answer named there owned (.inr (.inr exceeds))
    rw [refused] at completed
    simp at completed
  · intro fits
    exact bookReturned_completes attempt answer named there owned sent positive fits

def refundingProvider : Provider where
  currencies := []
  charge := fun _ _ => .error "declined"
  refund := fun _ request => .ok ⟨"re", .succeeded, request.amountMinor⟩
  getPayment := fun _ _ => .error "unknown"
  verifyWebhook := fun _ _ => .error "unsigned"

def paidInvoice (paid : Int) : Invoice :=
  { id := "inv", tenantID := "acme", accountID := "acct", subscriptionID := "sub", number := "INV-1"
    state := if paid = 1000 then .paid else .partlyPaid, currency := "USD", subtotalMinor := 1000
    totalMinor := 1000, paidMinor := paid, periodStart := 0, periodEnd := 100, issuedAt := 10
    dueAt := 50, paidAt := if paid = 1000 then 30 else 0, createdAt := 10, updatedAt := 30 }

def settledPayment (paid : Int) : PaymentAttempt :=
  { id := "att", tenantID := "acme", accountID := "acct", invoiceID := "inv", methodID := "pm"
    provider := "stripe", idempotencyKey := "key", amountMinor := paid, currency := "USD"
    state := .succeeded, providerRef := "pi", attemptNumber := 1, attemptedAt := 20
    completedAt := 30 }

def paidShop (paid : Int) : World where
  invoices := ⟨[paidInvoice paid], by simp⟩
  attempts := ⟨[settledPayment paid], by simp⟩
  providers := ⟨[{ name := "stripe", enabled := true, testMode := false, priority := 1
                   credentials := .ok [("secret_key", "sk")], credentialsTest := .ok []
                   healthState := .healthy }], by simp⟩
  drivers := fun _ => some fun _ => .ok refundingProvider
  now := 40
  names := Supply.outgrow

def creditedShop : World :=
  (issueCreditNote "acme" "inv" 300 .goodwill "outage" "staff").final (paidShop 1000)

theorem refund_within_credit_completes : ∃ refund note later,
      (refundPayment "acme" "inv" 700 "downgrade" "staff").run creditedShop = (.ok refund, later) ∧
      later.refunds.rows = creditedShop.refunds.rows ++ [refund] ∧
      later.creditNotes.rows = creditedShop.creditNotes.rows ++ [note] ∧
      refund.creditNoteID = note.id := by
  have member : (paidInvoice 1000).withCredit 300 40 ∈ creditedShop.invoices.rows := by decide
  exact (returned_refund_completes_iff member rfl (by decide) rfl).mpr (by decide)

/-- The money is returned in full although 300 of it was credited already, and then neither
a credit note nor a refund row follows. -/
theorem refund_past_credit_half_done :
    creditedShop.invoices.rows = [(paidInvoice 1000).withCredit 300 40] ∧
      ((refundPayment "acme" "inv" 1000 "downgrade" "staff").run creditedShop).2.calls =
        creditedShop.calls ++ [.refund "stripe"
          (refundRequest (settledPayment 1000) (paidInvoice 1000) 1000 "downgrade")
          (.ok ⟨"re", .succeeded, 1000⟩)] ∧ ¬ ∃ refund note later,
        (refundPayment "acme" "inv" 1000 "downgrade" "staff").run creditedShop =
          (.ok refund, later) ∧ later.refunds.rows = creditedShop.refunds.rows ++ [refund] ∧
        later.creditNotes.rows = creditedShop.creditNotes.rows ++ [note] ∧
        refund.creditNoteID = note.id := by
  refine ⟨by decide, rfl, ?_⟩
  rintro ⟨refund, note, later, completed, _⟩
  have failed : ((refundPayment "acme" "inv" 1000 "downgrade" "staff").run creditedShop).1 =
      .error (errValidation "A credit note cannot exceed the uncredited amount of the invoice.") :=
    rfl
  rw [completed] at failed
  simp at failed

def World.refundedOn (world : World) (invoiceID : String) : Int :=
  world.refunds.sumWhere (fun refund => refund.invoiceID == invoiceID) Refund.amountMinor

theorem Books.refundedOn {target : String} {before after : World}
    (books : Books target amount before after) (invoiceID : String) : after.refundedOn invoiceID =
      before.refundedOn invoiceID + if target = invoiceID then amount else 0 := by
  obtain ⟨refund, stored, rfl, rfl⟩ := books
  unfold World.refundedOn
  rw [Table.sumWhere_insert stored]
  simp

def Event.refundOf (event : Event) (attempt : PaymentAttempt) : Int :=
  if event.amountMinor ≤ 0 then attempt.amountMinor else event.amountMinor

theorem bookRefund_books (providerName : String) (event : Event) (attempt : PaymentAttempt)
    (amount : Int) (world : World) :
    ((bookRefund providerName event attempt amount).run world).2.refunds = world.refunds ∨
      Books attempt.invoiceID amount world
        ((bookRefund providerName event attempt amount).run world).2 := by
  refine books_after (issueCreditNote_within (by decide)) (fun note later => ?_) world
  refine books_after (newID_within (by decide)) (fun id later => ?_) later
  refine books_after unix_within (fun createdAt later => ?_) later
  refine books_after unix_within (fun completedAt later => ?_) later
  exact recordRefund_last _ _ later

def bookOnce (providerName : String) (event : Event) (attempt : PaymentAttempt) (amount : Int) :
    Service (WebhookState × String) := do
  if ← refundAlreadyBooked attempt.id amount then
    pure (.processed, "refund already booked")
  else
    bookRefund providerName event attempt amount

theorem bookOnce_books (providerName : String) (event : Event) (attempt : PaymentAttempt)
    (amount : Int) (world : World) :
    ((bookOnce providerName event attempt amount).run world).2.refunds = world.refunds ∨
      world.refunds.affected (fun refund => refund.attemptID == attempt.id &&
        refund.amountMinor == amount) = 0 ∧
      Books attempt.invoiceID amount world
        ((bookOnce providerName event attempt amount).run world).2 := by
  let count := world.refunds.affected fun refund =>
    refund.attemptID == attempt.id && refund.amountMinor == amount
  have counted : (refundAlreadyBooked attempt.id amount).run world =
      (.ok (decide (0 < count)), world) := rfl
  unfold bookOnce
  rw [run_bind_ok counted]
  by_cases booked : 0 < count
  · rw [decide_eq_true booked]
    exact .inl rfl
  rw [decide_eq_false booked]
  exact (bookRefund_books providerName event attempt amount world).imp id
    fun books => ⟨Nat.eq_zero_of_not_pos booked, books⟩

def World.noticed (world : World) (providerName : String) (event : Event) : Option PaymentAttempt :=
  if isBlank event.reference then none
  else (world.attemptFor providerName event.reference).filter fun attempt =>
    world.refunds.affected (fun refund => refund.attemptID == attempt.id &&
      refund.amountMinor == event.refundOf attempt) == 0

theorem applyRefundEvent_books (providerName : String) (event : Event) (world : World) :
    ((applyRefundEvent providerName event).run world).2.refunds = world.refunds ∨
      ∃ attempt, world.noticed providerName event = some attempt ∧
        Books attempt.invoiceID (event.refundOf attempt) world
          ((applyRefundEvent providerName event).run world).2 := by
  unfold applyRefundEvent World.noticed
  cases named : isBlank event.reference with
  | true =>
    have silent : (attemptByReference providerName event.reference).run world =
      (.ok none, world) := by
      rw [attemptByReference, if_pos named]
      rfl
    rw [run_bind_ok silent]
    exact .inl rfl
  | false =>
    rw [run_bind_ok (attemptByReference_run named)]
    cases found : world.attemptFor providerName event.reference with
    | none => exact .inl rfl
    | some attempt =>
      change ((bookOnce providerName event attempt (event.refundOf attempt)).run
        world).2.refunds = world.refunds ∨ _
      rcases bookOnce_books providerName event attempt (event.refundOf attempt) world with
        same | ⟨fresh, books⟩
      · exact .inl same
      · exact .inr ⟨attempt, by simpa using fresh, books⟩

inductive RefundStep
  | request (tenantID invoiceID : String) (amount : Int) (reason actor : String)
  | notice (providerName : String) (event : Event)

def RefundStep.program : RefundStep → Service Unit
  | .request tenantID invoiceID amount reason actor =>
    (refundPayment tenantID invoiceID amount reason actor).ignore
  | .notice providerName event => (applyRefundEvent providerName event).ignore

structure TimedRefund where
  now : Int
  step : RefundStep

def TimedRefund.take (entry : TimedRefund) (world : World) : World :=
  entry.step.program.final { world with now := entry.now }

def RefundStep.subject (step : RefundStep) (world : World) : Option (String × Int) :=
  match step with
  | .request _ invoiceID amount _ _ => some (invoiceID, amount)
  | .notice providerName event =>
    (world.noticed providerName event).map fun attempt =>
      (attempt.invoiceID, event.refundOf attempt)

def TimedRefund.Covered (invoiceID : String) (entry : TimedRefund) (world : World) : Prop :=
  ∀ subject ∈ entry.step.subject world, subject.1 = invoiceID →
    world.refundedOn invoiceID + subject.2 ≤ world.paidOn invoiceID

instance (invoiceID : String) (entry : TimedRefund) (world : World) :
    Decidable (entry.Covered invoiceID world) :=
  inferInstanceAs (Decidable (∀ subject ∈ entry.step.subject world, _))

theorem RefundStep.program_books (step : RefundStep) (world : World) :
    (step.program.final world).refunds = world.refunds ∨ ∃ subject ∈ step.subject world,
        Books subject.1 subject.2 world (step.program.final world) := by
  cases step with
  | request tenantID invoiceID amount reason actor =>
    rw [RefundStep.program, final_ignore]
    exact (refundPayment_books tenantID invoiceID amount reason actor world).imp id
      fun books => ⟨_, rfl, books⟩
  | notice providerName event =>
    rw [RefundStep.program, final_ignore]
    refine (applyRefundEvent_books providerName event world).imp id ?_
    rintro ⟨attempt, noticed, books⟩
    exact ⟨(attempt.invoiceID, event.refundOf attempt), by simp [subject, noticed], books⟩

theorem RefundStep.program_paidOn (step : RefundStep) (world : World) :
    (step.program.final world).paidOn = world.paidOn := by
  have quiet : step.program.Avoids [.payment] := by
    cases step with
    | request =>
      exact uses_bind (refundPayment_within (by decide)) fun _ => uses_pure _
    | notice =>
      exact uses_bind (applyRefundEvent_within (by decide)) fun _ => uses_pure _
  exact run_without .payment quiet world

theorem TimedRefund.take_covered {entry : TimedRefund}
    (within : world.refundedOn invoiceID ≤ world.paidOn invoiceID)
    (covered : entry.Covered invoiceID world) :
    (entry.take world).refundedOn invoiceID ≤ (entry.take world).paidOn invoiceID := by
  have paid := congrFun (entry.step.program_paidOn { world with now := entry.now }) invoiceID
  rw [TimedRefund.take, paid]
  rcases entry.step.program_books { world with now := entry.now } with
    same | ⟨subject, about, books⟩
  · rw [World.refundedOn, same]
    exact within
  rw [books.refundedOn]
  split
  · rename_i target
    exact covered subject about target
  · rw [Int.add_zero]
    exact within

/-- What is refunded on an invoice stays within what was paid on it as long as each refund fits into
what is left. -/
theorem refunds_within_paid {steps : List TimedRefund}
    (start : world.refundedOn invoiceID ≤ world.paidOn invoiceID)
    (covered : Every TimedRefund.take (TimedRefund.Covered invoiceID) world steps) :
    Every TimedRefund.take (fun entry world =>
      (entry.take world).refundedOn invoiceID ≤ (entry.take world).paidOn invoiceID)
      world steps :=
  every_of_invariant (fun world => world.refundedOn invoiceID ≤ world.paidOn invoiceID) start
    covered fun _ _ within fits =>
      ⟨TimedRefund.take_covered within fits, TimedRefund.take_covered within fits⟩

def refundRequest300 : TimedRefund := ⟨50, .request "acme" "inv" 300 "downgrade" "staff"⟩

theorem two_refunds_within_paid :
    Every TimedRefund.take (fun entry world =>
      (entry.take world).refundedOn "inv" ≤ (entry.take world).paidOn "inv")
      (paidShop 600) [refundRequest300, refundRequest300] :=
  refunds_within_paid (by decide) ⟨by decide, by decide, trivial⟩

/-- Each of two refunds is within what was paid on a partly paid invoice, and together they
are past it. -/
theorem two_refunds_exceed_paid :
    (paidShop 500).refundedOn "inv" ≤ (paidShop 500).paidOn "inv" ∧
      ¬ Every TimedRefund.take (fun entry world =>
        (entry.take world).refundedOn "inv" ≤ (entry.take world).paidOn "inv")
        (paidShop 500) [refundRequest300, refundRequest300] := by
  refine ⟨by decide, ?_⟩
  rintro ⟨_, second, _⟩
  exact absurd second (by decide)

end Cashp
