import Cashp.Billing.Booking

/-!
Work on a draft by the only writer: adding a line cannot fail, and the invoice is still a draft
afterwards.
-/

namespace Cashp

open Kit Kit.Program

variable {world later : World} {tenantID invoiceID : String}

theorem baseCurrency_run (world : World) :
    ∃ currency, baseCurrency.run world = (.ok currency, world) := by
  obtain ⟨raw, read⟩ := setting_run "base_currency" defaultCurrency world
  unfold baseCurrency
  rw [run_bind_ok read]
  cases normalizeCurrency raw <;> exact ⟨_, rfl⟩

theorem lookupTaxRate_run (country region : String) (world : World) :
    ∃ rate, (lookupTaxRate country region).run world = (.ok rate, world) := by
  unfold lookupTaxRate countryTaxRate
  dsimp only
  split
  · exact ⟨_, rfl⟩
  rw [run_step]
  cases (execute (Stmt.catalogue (.taxRate (upperText (trimSpace country))
    (upperText (trimSpace region)))) world).1 <;> exact ⟨_, rfl⟩

theorem calculateTax_run (buyer : Account) (netMinor : Int) (world : World) :
    ∃ tax, (calculateTax buyer netMinor).run world = (.ok tax, world) := by
  obtain ⟨taxed, asked⟩ := settingBool_run "tax_enabled" false world
  obtain ⟨seller, located⟩ := setting_run "seller_country" "" world
  obtain ⟨rate, found⟩ := lookupTaxRate_run (upperText (trimSpace buyer.country)) buyer.region world
  unfold calculateTax
  rw [run_bind_ok asked]
  dsimp only
  split
  · exact ⟨_, rfl⟩
  rw [run_bind_ok found]
  cases rate with
  | none => exact ⟨_, rfl⟩
  | some =>
    dsimp only
    rw [run_bind_ok located]
    split <;> exact ⟨_, rfl⟩

theorem createAccount_returns (unknown : ∀ buyer ∈ world.accounts.rows, buyer.tenantID ≠ tenantID) :
    ∃ buyer later, (createAccount tenantID).run world = (.ok buyer, later) := by
  let drawn : World := { world with drawn := world.names.next world.usedIDs :: world.drawn }
  obtain ⟨currency, settled⟩ := baseCurrency_run drawn
  let buyer : Account :=
    { id := world.names.next world.usedIDs, tenantID := tenantID, currency := currency
      createdAt := world.now, updatedAt := world.now }
  obtain ⟨grown, stored, _⟩ : ∃ grown, drawn.accounts.insert buyer = some grown ∧ _ :=
    Table.insert_fresh fun column listed other member => by
      rcases List.mem_pair.mp listed with rfl | rfl
      · exact (lacks_next world).account other member
      · exact unknown other member
  have inserted : (execute (Stmt.account (.insert buyer)) drawn).1 = true := by
    change (AccountStmt.execute (.insert buyer) drawn.accounts).1 = true
    simp only [AccountStmt.execute, stored]
  have clock : unix.run world = (.ok world.now, world) := rfl
  unfold createAccount
  rw [run_bind_ok clock, run_bind_ok (newID_run world), run_bind_ok settled,
    run_step, if_pos inserted]
  exact ⟨_, _, rfl⟩

theorem ensureAccount_returns (named : isBlank tenantID = false) (world : World) :
    ∃ buyer later, (ensureAccount tenantID).run world = (.ok buyer, later) := by
  have asked : (account tenantID).run world =
      (require (world.accounts.find fun buyer => buyer.tenantID == tenantID)
        (errNotFound "billing account")).run world := by
    unfold account requireTenant
    rw [run_unrefused (by simp [named])]
    rfl
  unfold ensureAccount
  rw [run_attempted, asked]
  cases found : world.accounts.find fun buyer => buyer.tenantID == tenantID with
  | some => exact ⟨_, _, rfl⟩
  | none =>
    refine createAccount_returns fun buyer member same => ?_
    simpa [same] using Table.find_none found buyer member

def Drafted (tenantID invoiceID : String) (world : World) : Prop :=
  ∃ row ∈ world.invoices.rows, row.isRow invoiceID tenantID = true ∧ row.state = .draft

theorem Drafted.of_invoices (same : later.invoices = world.invoices)
    (drafted : Drafted tenantID invoiceID world) : Drafted tenantID invoiceID later := by
  unfold Drafted
  rwa [same]

theorem Drafted.reads (drafted : Drafted tenantID invoiceID world)
    (named : isBlank tenantID = false) :
    ∃ inv, (invoice tenantID invoiceID).run world = (.ok inv, world) ∧ inv.state = .draft ∧
      inv.id = invoiceID := by
  obtain ⟨row, member, matching, draft⟩ := drafted
  exact ⟨_, invoice_run named member matching, draft, (isRow_iff.mp matching).1⟩

theorem recalculateInvoice_returns (named : isBlank tenantID = false)
    (drafted : Drafted tenantID invoiceID world) :
    ∃ inv later, (recalculateInvoice tenantID invoiceID).run world = (.ok inv, later) ∧
      Drafted tenantID invoiceID later := by
  obtain ⟨row, member, matching, draft⟩ := drafted
  obtain ⟨rfl, owned⟩ := isRow_iff.mp matching
  obtain ⟨buyer, ready, ensured⟩ := ensureAccount_returns named world
  have kept : ready.invoices = world.invoices :=
    same_of_run .invoice ensured (ensureAccount_within (by decide))
  let lines := (execute (Stmt.line (.ofInvoice row.id tenantID)) world).1
  let subtotal := (lines.map InvoiceLine.amountMinor).sum
  let net := clampNonNegative (subtotal - row.discountMinor)
  obtain ⟨tax, taxed⟩ := calculateTax_run buyer net ready
  let change : InvoiceUpdate := .recalculate subtotal (net + tax.amountMinor) tax ready.now
  have stored : row ∈ ready.invoices.rows := by rwa [kept]
  have landed := guardedWrite_lands change stored owned
  have reread : (change.apply row).isRow row.id tenantID = true := by
    rw [change.apply_isRow]
    exact matching
  have thawed : invoiceFrozen row.state = false := by simp [invoiceFrozen, draft]
  have clock : unix.run ready = (.ok ready.now, ready) := rfl
  unfold recalculateInvoice
  rw [run_bind_ok (invoice_run named member matching)]
  simp only [thawed, Bool.false_eq_true, if_false]
  unfold recalculateDraft requireRows
  rw [run_bind_ok ensured]
  dsimp only
  rw [run_bind_ok taxed, run_bind_ok clock]
  change ∃ inv later,
    (perform (guardedWrite row tenantID change) >>= _ : Service Invoice).run ready = _ ∧ _
  rw [run_step, run_unrefused landed.1]
  split
  · rw [run_step]
    exact ⟨_, _, invoice_run named landed.2 reread, _, landed.2, reread, draft⟩
  · exact ⟨_, _, invoice_run named landed.2 reread, _, landed.2, reread, draft⟩

theorem ensureAccount_named {buyer : Account}
    (ran : (ensureAccount tenantID).run world = (.ok buyer, later)) : isBlank tenantID = false := by
  by_contra blank
  have refused : (account tenantID).run world =
      (.error (errValidation "billing: a tenant is required"), world) := by
    unfold account requireTenant
    exact run_refused (by simpa using blank)
  unfold ensureAccount at ran
  rw [run_attempted, refused] at ran
  simp [isNotFound, errValidation] at ran

theorem createDraft_drafts {subscriptionID : String} {periodStart periodEnd : Int} {draft : Invoice}
    (ran : (createDraft tenantID subscriptionID periodStart periodEnd).run world =
      (.ok draft, later)) : isBlank tenantID = false ∧ Drafted tenantID draft.id later := by
  unfold createDraft at ran
  obtain ⟨buyer, _, ensured, rest⟩ := ran_bind ran
  obtain ⟨now, _, _, rest⟩ := ran_bind rest
  obtain ⟨id, _, _, rest⟩ := ran_bind rest
  obtain ⟨currency, _, _, rest⟩ := ran_bind rest
  rw [run_step] at rest
  obtain ⟨kept, ended⟩ := ran_refuse rest
  cases ended
  exact ⟨ensureAccount_named ensured, _, mem_insert_invoice (by simpa using kept),
    isRow_iff.mpr ⟨rfl, rfl⟩, rfl⟩

theorem addLine_returns (named : isBlank tenantID = false)
    (drafted : Drafted tenantID invoiceID world) (line : InvoiceLine) :
    ∃ inv later, (addLine tenantID invoiceID line).run world = (.ok inv, later) ∧
      Drafted tenantID invoiceID later ∧ ∃ id seen, ∃ grown : World, Area.Same .entry grown later ∧
        grown.lines.rows = world.lines.rows ++ [preparedLine line id tenantID seen] := by
  obtain ⟨seen, read, draft, rfl⟩ := drafted.reads named
  let drawn : World := { world with drawn := world.names.next world.usedIDs :: world.drawn }
  let added := preparedLine line (world.names.next world.usedIDs) tenantID seen
  obtain ⟨grown, stored, rows⟩ : ∃ grown, drawn.lines.insert added = some grown ∧
      grown.rows = world.lines.rows ++ [added] := by
    refine Table.insert_fresh fun column listed other member => ?_
    cases List.mem_singleton.mp listed
    exact (lacks_next world).line other member
  have inserted : execute (Stmt.line (.insert added)) drawn =
      (true, { drawn with lines := grown }) := by
    change Stmt.execute _ _ = _
    simp only [Stmt.execute, LineStmt.execute, stored]
  have ready : Drafted tenantID seen.id { drawn with lines := grown } := drafted.of_invoices rfl
  obtain ⟨inv, later, recalculated, still⟩ := recalculateInvoice_returns named ready
  have entries : Area.Same .entry { drawn with lines := grown } later :=
    same_of_run .entry recalculated (recalculateInvoice_within (by decide))
  refine ⟨inv, later, ?_, still, _, seen, { drawn with lines := grown }, entries, rows⟩
  unfold addLine
  rw [run_bind_ok read, run_unrefused (by simp [invoiceFrozen, draft]),
    run_bind_ok (newID_run world), run_step]
  change (refuse ((execute (Stmt.line (.insert added)) drawn).1 = false) _ >>= _ :
    Service Invoice).run (execute (Stmt.line (.insert added)) drawn).2 = _
  rw [inserted, run_unrefused (by simp), recalculated]

end Cashp
