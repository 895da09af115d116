import Cashp.Billing.Booking

/-!
Crediting an issued invoice. Alone on the store, the amount alone decides whether a note is issued.
-/

namespace Cashp

open Kit Kit.Program

variable {world : World} {tenantID invoiceID : String} {row : Invoice} {reason : CreditReason}

theorem allocateNumber_known {scope tag : String} {sequence : Sequence} {tries : Nat}
    (found : world.sequences.find (fun row => row.scope == scope) = some sequence) :
    ∃ number later, (allocateNumber scope tag (tries + 1)).run world = (.ok number, later) := by
  have facts := Table.find_mem found
  have asked : (perform (.sequence (.next scope)) : Service (Option Int)).run world =
      (.ok (some sequence.nextValue), world) :=
    Prod.ext (congrArg (fun row => Except.ok (Option.map Sequence.nextValue row)) found) rfl
  have landed : (execute (Stmt.sequence (.compareAndSet scope sequence.nextValue))
      world).1 ≠ 0 := by
    intro none
    have missed := Table.affected_eq_zero.mp none sequence facts.1
    simp [show sequence.scope = scope by simpa using facts.2] at missed
  refine ⟨tag ++ sixDigits sequence.nextValue,
    (execute (Stmt.sequence (.compareAndSet scope sequence.nextValue)) world).2, ?_⟩
  rw [allocateNumber, run_bind_ok asked]
  change Program.run (if _ then _ else _) _ = _
  rw [if_neg landed]
  rfl

theorem nextDocumentNumber_returns (scope tag : String) (world : World) :
    ∃ number later, (nextDocumentNumber scope tag).run world = (.ok number, later) := by
  cases found : world.sequences.find (fun row => row.scope == scope) with
  | some => exact allocateNumber_known found
  | none =>
    obtain ⟨grown, stored, rows⟩ : ∃ grown, world.sequences.insert ⟨scope, 1⟩ = some grown ∧
        grown.rows = world.sequences.rows ++ [⟨scope, 1⟩] := by
      refine Table.insert_fresh fun column listed other member same => ?_
      simp_all [Table.find]
    have opened : grown.find (fun row => row.scope == scope) = some ⟨scope, 1⟩ := by
      grind [Table.find]
    have inserted : execute (Stmt.sequence (.insert scope)) world =
        (true, { world with sequences := grown }) := by
      change Stmt.execute _ _ = _
      simp [Stmt.execute, SequenceStmt.execute, stored]
    have asked : (perform (.sequence (.next scope)) : Service (Option Int)).run world =
        (.ok none, world) :=
      Prod.ext (congrArg (fun row => Except.ok (Option.map Sequence.nextValue row)) found) rfl
    rw [nextDocumentNumber, allocateNumber, run_bind_ok asked]
    change ∃ number later, Program.run (_ >>= _) world = _
    rw [run_step, inserted]
    exact allocateNumber_known opened

theorem creditNote_stored {note : CreditNote}
    (fresh : ∀ other ∈ world.creditNotes.rows, other.id ≠ note.id) :
    ∃ grown, execute (Stmt.creditNote note) world = (true, { world with creditNotes := grown }) ∧
      grown.rows = world.creditNotes.rows ++ [note] := by
  obtain ⟨grown, stored, rows⟩ : ∃ grown, world.creditNotes.insert note = some grown ∧
      grown.rows = world.creditNotes.rows ++ [note] := by
    refine Table.insert_fresh fun column listed other member => ?_
    rw [List.mem_singleton.mp listed]
    exact fresh other member
  refine ⟨grown, ?_, rows⟩
  change Stmt.execute _ _ = _
  simp [Stmt.execute, stored]

theorem credit_lands (amount now : Int) (member : row ∈ world.invoices.rows)
    (owned : row.tenantID = tenantID) : row.withCredit amount now ∈
      (execute (Stmt.invoice (.credit amount now row.id tenantID)) world).2.invoices.rows :=
  List.mem_map.mpr ⟨row, member, Table.assignWhere_of (isRow_iff.mpr ⟨rfl, owned⟩)⟩

theorem invoice_read (named : isBlank tenantID = false)
    (member : row ∈ world.invoices.rows) (matching : row.isRow invoiceID tenantID = true) :
    ∃ lines, (invoice tenantID invoiceID).run world = (.ok { row with lines := lines }, world) :=
  ⟨_, invoice_run named member matching⟩

theorem issueCreditNote_refused {amount : Int}
    {text actor : String} (named : isBlank tenantID = false) (member : row ∈ world.invoices.rows)
    (matching : row.isRow invoiceID tenantID = true)
    (bad : row.state = .draft ∨ amount ≤ 0 ∨ row.totalMinor - row.creditedMinor < amount) :
    ∃ failure, (issueCreditNote tenantID invoiceID amount reason text actor).run world =
      (.error failure, world) := by
  obtain ⟨lines, read⟩ := invoice_read named member matching
  unfold issueCreditNote
  rw [run_bind_ok read]
  by_cases draft : row.state = .draft
  · exact ⟨_, run_refused draft⟩
  rw [run_unrefused draft]
  by_cases none : amount ≤ 0
  · exact ⟨_, run_refused none⟩
  rw [run_unrefused none]
  have exceeds := (bad.resolve_left draft).resolve_left none
  exact ⟨_, run_refused exceeds⟩

theorem issueCreditNote_issues {amount : Int}
    {text actor : String} (named : isBlank tenantID = false) (member : row ∈ world.invoices.rows)
    (matching : row.isRow invoiceID tenantID = true) (sent : row.state ≠ .draft)
    (positive : 0 < amount) (fits : amount ≤ row.totalMinor - row.creditedMinor) : ∃ note later,
      (issueCreditNote tenantID invoiceID amount reason text actor).run world = (.ok note, later) ∧
      later.creditNotes.rows = world.creditNotes.rows ++ [note] ∧
      ∃ now, (row.withCredit amount now).settled now ∈ later.invoices.rows := by
  obtain ⟨lines, read⟩ := invoice_read named member matching
  obtain ⟨tag, tagged⟩ := setting_run "credit_prefix" "CN-" world
  obtain ⟨number, counted, numbered⟩ := nextDocumentNumber_returns "credit_note" tag world
  have invoices : counted.invoices = world.invoices :=
    same_of_run .invoice numbered (nextDocumentNumber_within (by decide))
  have notes : counted.creditNotes = world.creditNotes :=
    same_of_run .creditNote numbered (nextDocumentNumber_within (by decide))
  let drawn : World := { counted with drawn := counted.names.next counted.usedIDs :: counted.drawn }
  let note := creditNoteFor { row with lines := lines } tenantID
    (counted.names.next counted.usedIDs)
    number amount reason text actor counted.now
  obtain ⟨grown, stored, rows⟩ : ∃ grown, execute (Stmt.creditNote note) drawn =
      (true, { drawn with creditNotes := grown }) ∧ grown.rows = drawn.creditNotes.rows ++ [note] :=
    creditNote_stored (lacks_next counted).creditNote
  let credited : World :=
    (execute (Stmt.invoice (.credit amount counted.now row.id tenantID))
      { drawn with creditNotes := grown }).2
  have present : row.withCredit amount counted.now ∈ credited.invoices.rows :=
    credit_lands amount counted.now (invoices ▸ member) (isRow_iff.mp matching).2
  have targeted : (row.withCredit amount counted.now).isRow row.id tenantID = true :=
    isRow_iff.mpr ⟨rfl, (isRow_iff.mp matching).2⟩
  obtain ⟨settled, later, returned, last⟩ := settleIfPaid_returns named present targeted
  refine ⟨note, later, ?_, ?_, _, last⟩
  · have ended : (perform (.creditNote note) >>= fun stored => do
        refuse (stored = false) (errInternal "Could not issue the credit note.")
        let now ← unix
        let _ ← perform (.invoice (.credit amount now row.id tenantID))
        let _ ← settleIfPaid tenantID row.id
        pure note : Service CreditNote).run drawn = (.ok note, later) := by
      rw [run_step, stored]
      exact run_bind_ok returned
    unfold issueCreditNote
    rw [run_bind_ok read, run_unrefused sent,
      run_unrefused (by omega), run_unrefused (by simpa),
      run_bind_ok tagged, run_bind_ok numbered, run_bind_ok (newID_run counted)]
    exact ended
  · have same : later.creditNotes = credited.creditNotes :=
      same_of_run .creditNote returned (settleIfPaid_within (by decide))
    rw [same, ← notes]
    exact rows

end Cashp
