import Cashp.Billing.ServiceCore

/-!
Invoices, payments booked on them and credit notes (`invoices.go`). Payments on an issued invoice
move `paidMinor`, credit notes move `creditedMinor`.
-/

namespace Cashp

open Kit Kit.Program

def invoiceWriteError : BillingError :=
  errConflict "The invoice changed while you were editing it; reload and try again."

def invoiceLines (tenantID invoiceID : String) : Service (List InvoiceLine) :=
  perform (.line (.ofInvoice invoiceID tenantID))

def invoice (tenantID invoiceID : String) : Service Invoice := do
  requireTenant tenantID
  let found ← require (← perform (.invoice (.byID invoiceID tenantID))) (errNotFound "invoice")
  let lines ← invoiceLines tenantID invoiceID
  pure { found with lines := lines }

def invoiceCurrency (buyer : Account) : Service String :=
  if buyer.currency = "" then baseCurrency else pure buyer.currency

def createDraft (tenantID subscriptionID : String) (periodStart periodEnd : Int) :
    Service Invoice := do
  let buyer ← ensureAccount tenantID
  let now ← unix
  let id ← newID
  let currency ← invoiceCurrency buyer
  let draft : Invoice :=
    { id := id, tenantID := tenantID, accountID := buyer.id, subscriptionID := subscriptionID
      state := .draft, currency := currency, periodStart := periodStart, periodEnd := periodEnd
      createdAt := now, updatedAt := now }
  let stored ← perform (.invoice (.insert draft))
  refuse (stored = false) (errInternal "Could not create the invoice.")
  pure draft

/-- The subtotal is exact, as long as the lines add up within 64 bits. -/
def recalculateDraft (tenantID : String) (inv : Invoice) : Service Invoice := do
  let buyer ← ensureAccount tenantID
  let subtotal := (inv.lines.map InvoiceLine.amountMinor).sum
  let net := clampNonNegative (subtotal - inv.discountMinor)
  let tax ← calculateTax buyer net
  let now ← unix
  let affected ← perform (.invoice (.update
    (.recalculate subtotal (net + tax.amountMinor) tax now) inv.id tenantID inv.version))
  requireRows affected invoiceWriteError
  if 0 < tax.rateBPS then
    let _ ← perform (.line (.setTaxRate tax.rateBPS inv.id tenantID))
    invoice tenantID inv.id
  else
    invoice tenantID inv.id

def recalculateInvoice (tenantID invoiceID : String) : Service Invoice := do
  let inv ← invoice tenantID invoiceID
  if invoiceFrozen inv.state then pure inv else recalculateDraft tenantID inv

def preparedLine (line : InvoiceLine) (id tenantID : String) (inv : Invoice) : InvoiceLine :=
  let quantityMilli := if line.quantityMilli = 0 then 1000 else line.quantityMilli
  { line with
    quantityMilli := quantityMilli
    amountMinor :=
      if line.amountMinor = 0 then prorate line.unitPriceMinor quantityMilli 1000
      else line.amountMinor
    id := id, invoiceID := inv.id, tenantID := tenantID
    position := inv.lines.length + 1 }

def addLine (tenantID invoiceID : String) (line : InvoiceLine) : Service Invoice := do
  let inv ← invoice tenantID invoiceID
  refuse (invoiceFrozen inv.state = true) (errImmutable inv.number)
  let id ← newID
  let stored ← perform (.line (.insert (preparedLine line id tenantID inv)))
  refuse (stored = false) (errInternal "Could not add the invoice line.")
  recalculateInvoice tenantID inv.id

def allocateNumber (scope tag : String) : Nat → Service String
  | 0 => .fail (errConflict "Could not allocate a document number; try again.")
  | tries + 1 => do
    match ← perform (.sequence (.next scope)) with
    | none =>
      if ← perform (.sequence (.insert scope)) then
        allocateNumber scope tag tries
      else if ← perform .isAlreadyExists then
        allocateNumber scope tag tries
      else
        .fail (errInternal "Could not allocate a document number.")
    | some next =>
      let affected ← perform (.sequence (.compareAndSet scope next))
      if affected = 0 then allocateNumber scope tag tries else pure (tag ++ sixDigits next)

def nextDocumentNumber (scope tag : String) : Service String := allocateNumber scope tag 8

def issueInvoice (tenantID invoiceID : String) : Service Invoice := do
  let inv ← invoice tenantID invoiceID
  refuse (invoiceFrozen inv.state = true) (errImmutable inv.number)
  refuse (canTransitionInvoice inv.state .issued = false)
    (errConflict ("This invoice cannot be issued from state " ++ inv.state.text ++ "."))
  let buyer ← ensureAccount tenantID
  let tag ← setting "invoice_prefix" "INV-"
  let number ← nextDocumentNumber "invoice" tag
  let now ← unix
  let dueDays ← settingInt "invoice_due_days" 14
  let today ← unix
  let affected ← perform (.invoice (.update
    (.issue number now (addDays today dueDays) (buyerSnapshot buyer)) inv.id tenantID inv.version))
  requireRows affected invoiceWriteError
  invoice tenantID inv.id

def raiseProrationInvoice (tenantID : String) (sub : Subscription) (target : Plan)
    (preview : ProrationPreview) : Service Invoice := do
  let now ← unix
  let draft ← createDraft tenantID sub.id now sub.periodEnd
  let _ ← addLine tenantID draft.id
    { kind := .proration
      description := "Prorated change to " ++ target.name ++ " for the remainder of the period"
      quantityMilli := 1000, unitPriceMinor := preview.dueNowMinor
      amountMinor := preview.dueNowMinor, linePeriodStart := preview.effectiveAt
      linePeriodEnd := sub.periodEnd }
  issueInvoice tenantID draft.id

def settleAs (tenantID : String) (inv : Invoice) (target : InvoiceState) (paidAt : Int) :
    Service Invoice := do
  if inv.state = target ∨ canTransitionInvoice inv.state target = false then
    pure inv
  else
    let now ← unix
    let affected ← perform (.invoice (.update (.settle target paidAt now)
      inv.id tenantID inv.version))
    requireRows affected invoiceWriteError
    invoice tenantID inv.id

def settleIfPaid (tenantID invoiceID : String) : Service Invoice := do
  let inv ← invoice tenantID invoiceID
  if inv.balanceDueMinor = 0 then
    let paidAt ← unix
    settleAs tenantID inv .paid paidAt
  else if inv.paidMinor = 0 ∧ inv.creditedMinor = 0 then
    pure inv
  else
    settleAs tenantID inv .partlyPaid 0

def recordPayment (tenantID invoiceID : String) (amountMinor : Int) : Service Invoice := do
  refuse (amountMinor ≤ 0) (errValidation "A payment amount must be positive.")
  let inv ← invoice tenantID invoiceID
  refuse (inv.state = .draft) (errValidation "A draft invoice cannot be paid; issue it first.")
  let now ← unix
  let affected ← perform (.invoice (.update (.pay amountMinor now) inv.id tenantID inv.version))
  requireRows affected invoiceWriteError
  settleIfPaid tenantID inv.id

def markAs (tenantID : String) (inv : Invoice) (target : InvoiceState) (voidedAt : Int) :
    Service Invoice := do
  let now ← unix
  let affected ← perform (.invoice (.update (.mark target voidedAt now)
    inv.id tenantID inv.version))
  requireRows affected invoiceWriteError
  invoice tenantID inv.id

def markInvoiceState (tenantID invoiceID : String) (target : InvoiceState) : Service Invoice := do
  let inv ← invoice tenantID invoiceID
  refuse (target = .draft) (errImmutable inv.number)
  refuse (canTransitionInvoice inv.state target = false)
    (errConflict ("An invoice cannot move from " ++ inv.state.text ++ " to " ++ target.text ++ "."))
  if target = .cancelled ∧ inv.voidedAt = 0 then
    let voidedAt ← unix
    markAs tenantID inv target voidedAt
  else
    markAs tenantID inv target inv.voidedAt

def creditNoteFor (inv : Invoice) (tenantID id number : String) (amountMinor : Int)
    (reason : CreditReason) (note actor : String) (now : Int) : CreditNote :=
  { id := id, tenantID := tenantID, invoiceID := inv.id, number := number, currency := inv.currency
    amountMinor := amountMinor
    taxMinor := if 0 < inv.subtotalMinor then prorate inv.taxMinor amountMinor inv.totalMinor else 0
    reason := reason, note := note, issuedAt := now, createdBy := actor }

def issueCreditNote (tenantID invoiceID : String) (amountMinor : Int) (reason : CreditReason)
    (note actor : String) : Service CreditNote := do
  let inv ← invoice tenantID invoiceID
  refuse (inv.state = .draft) (errValidation
    "A draft invoice is edited directly; a credit note applies only once it is issued.")
  refuse (amountMinor ≤ 0) (errValidation "A credit note amount must be positive.")
  refuse (inv.totalMinor - inv.creditedMinor < amountMinor) (errValidation
    "A credit note cannot exceed the uncredited amount of the invoice.")
  let tag ← setting "credit_prefix" "CN-"
  let number ← nextDocumentNumber "credit_note" tag
  let id ← newID
  let issuedAt ← unix
  let issued := creditNoteFor inv tenantID id number amountMinor reason note actor issuedAt
  let stored ← perform (.creditNote issued)
  refuse (stored = false) (errInternal "Could not issue the credit note.")
  let now ← unix
  let _ ← perform (.invoice (.credit amountMinor now inv.id tenantID))
  let _ ← settleIfPaid tenantID inv.id
  pure issued

def applyAccountBalance (inv : Invoice) : Service Invoice := do
  let buyer ← ensureAccount inv.tenantID
  if buyer.balanceMinor ≤ 0 ∨ inv.balanceDueMinor ≤ 0 then
    pure inv
  else
    let credit :=
      if inv.balanceDueMinor < buyer.balanceMinor then inv.balanceDueMinor else buyer.balanceMinor
    let now ← unix
    let _ ← perform (.invoice (.credit credit now inv.id inv.tenantID))
    let _ ← perform (.account (.addBalance (-credit) now inv.tenantID))
    settleIfPaid inv.tenantID inv.id

def overageLine (rollup : UsageRollup) (measured : Meter) (unitPrice : Int) : InvoiceLine :=
  { kind := .overage
    description :=
      measured.name ++ " overage: " ++ itoa rollup.overageValue ++ " " ++ measured.unit
    quantityMilli := rollup.overageValue * 1000, unitPriceMinor := unitPrice
    amountMinor := unitPrice * rollup.overageValue, meterCode := rollup.meterCode
    linePeriodStart := rollup.periodStart, linePeriodEnd := rollup.periodEnd }

def billRollups (tenantID invoiceID : String) :
    List UsageRollup → List String → Service (List String)
  | [], billed => pure billed
  | rollup :: rest, billed => do
    if rollup.overageValue ≤ 0 then
      billRollups tenantID invoiceID rest (billed ++ [rollup.id])
    else
      match ← (meter rollup.meterCode).attempt with
      | .error _ => billRollups tenantID invoiceID rest billed
      | .ok measured =>
        match ← (effectiveQuotaFor tenantID measured.resource).attempt with
        | .error _ => billRollups tenantID invoiceID rest (billed ++ [rollup.id])
        | .ok quota =>
          if quota.unitPrice ≤ 0 then
            billRollups tenantID invoiceID rest (billed ++ [rollup.id])
          else
            let _ ← addLine tenantID invoiceID (overageLine rollup measured quota.unitPrice)
            billRollups tenantID invoiceID rest (billed ++ [rollup.id])

def subscriptionLine (sub : Subscription) (target : Plan) : InvoiceLine :=
  { kind := .subscription, description := target.name ++ " subscription"
    quantityMilli := sub.quantity * 1000, unitPriceMinor := sub.priceMinor
    amountMinor := sub.priceMinor * (if 1 < sub.quantity then sub.quantity else 1)
    linePeriodStart := sub.periodStart, linePeriodEnd := sub.periodEnd }

def addSubscriptionLine (sub : Subscription) (target : Plan) (invoiceID : String) :
    Service Unit := do
  if 0 < sub.priceMinor then
    let _ ← addLine sub.tenantID invoiceID (subscriptionLine sub target)
    pure ()
  else
    pure ()

def generateSubscriptionInvoice (sub : Subscription) : Service Invoice := do
  let target ← plan sub.planID
  let draft ← createDraft sub.tenantID sub.id sub.periodStart sub.periodEnd
  addSubscriptionLine sub target draft.id
  let rollups ← pendingRollups sub.tenantID sub.periodStart sub.periodEnd
  let billed ← billRollups sub.tenantID draft.id rollups []
  markRollupsInvoiced billed
  let issued ← issueInvoice sub.tenantID draft.id
  applyAccountBalance issued

def openInvoices (dueBefore : Int) : Service (List Invoice) :=
  perform (.invoice (.openBefore dueBefore))

end Cashp
