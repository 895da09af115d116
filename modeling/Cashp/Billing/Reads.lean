import Cashp.Billing.Footprint

/-!
What the reads of the service answer, which row an operation hands back, and that no statement takes
a row of an invoice or an attempt away.
-/

namespace Cashp

open Kit Kit.Program

variable {world later : World} {tenantID invoiceID : String} {inv : Invoice}
variable {Row Value : Type} {subID : String} {sub moved : Subscription} {event : LifecycleEvent}
variable {now : Int} {Reply : Type} {program : Service Value}

theorem require_ok {found : Option Row} {missing : BillingError} {row : Row}
    (ran : (require found missing).run world = (.ok row, later)) :
    found = some row ∧ later = world := by
  cases found with
  | none => simp [require] at ran
  | some =>
    cases ran
    exact ⟨rfl, rfl⟩

theorem run_bind_reads {Result : Type} {next : Value → Service Result}
    (reads : program.Uses (Stmt.Within [])) (world : World) :
    (∃ failure, (program >>= next).run world = (.error failure, world)) ∨
      ∃ value, program.run world = (.ok value, world) ∧
        (program >>= next).run world = (next value).run world := by
  have unchanged := run_unchanged reads world
  cases ran : program.run world with
  | mk answer =>
    rw [ran] at unchanged
    subst unchanged
    cases answer with
    | error failure => exact .inl ⟨failure, run_bind_error ran⟩
    | ok value => exact .inr ⟨value, rfl, run_bind_ok ran⟩

theorem setting_answers (key fallback : String) (world : World) :
    ∃ value, ∀ later : World, later.catalogue = world.catalogue →
      (setting key fallback).run later = (.ok value, later) := by
  cases found : CatalogueStmt.read (.setting key) world.catalogue with
  | none =>
    refine ⟨fallback, fun later same => ?_⟩
    have asked : (execute (Stmt.catalogue (.setting key)) later).1 = none := by
      rw [← found, ← same]
      rfl
    unfold setting
    rw [run_step, asked]
    rfl
  | some text =>
    refine ⟨if text = "" then fallback else text, fun later same => ?_⟩
    have asked : (execute (Stmt.catalogue (.setting key)) later).1 = some text := by
      rw [← found, ← same]
      rfl
    unfold setting
    rw [run_step, asked]
    rfl

theorem setting_run (key fallback : String) (world : World) :
    ∃ value, (setting key fallback).run world = (.ok value, world) := by
  obtain ⟨value, answers⟩ := setting_answers key fallback world
  exact ⟨value, answers world rfl⟩

theorem settingBool_run (key : String) (fallback : Bool) (world : World) :
    ∃ on, (settingBool key fallback).run world = (.ok on, world) := by
  obtain ⟨raw, read⟩ := setting_run key "" world
  unfold settingBool
  exact ⟨_, run_bind_ok read⟩

theorem invoice_of_id {table : Invoices} {first second : Invoice} (here : first ∈ table.rows)
    (there : second ∈ table.rows) (same : first.id = second.id) : first = second :=
  Table.eq_of_column (List.mem_singleton_self Invoice.id) here there same

theorem invoice_ok (ran : (invoice tenantID invoiceID).run world = (.ok inv, later)) :
    later = world ∧ ∃ row ∈ world.invoices.rows, row.isRow invoiceID tenantID = true ∧
      inv = { row with lines := inv.lines } := by
  unfold invoice requireTenant invoiceLines at ran
  obtain ⟨_, looked⟩ := ran_refuse ran
  rw [run_step] at looked
  obtain ⟨found, _, stored, rest⟩ := ran_bind looked
  obtain ⟨present, rfl⟩ := require_ok stored
  rw [run_step] at rest
  cases rest
  have facts := Table.find_mem present
  exact ⟨rfl, found, facts.1, facts.2, rfl⟩

theorem invoice_id_of_ok (ran : (invoice tenantID invoiceID).run world = (.ok inv, later)) :
    inv.id = invoiceID := by
  obtain ⟨_, row, _, hit, same⟩ := invoice_ok ran
  simp only [Invoice.isRow, Bool.and_eq_true, beq_iff_eq] at hit
  rw [same]
  exact hit.1

theorem settleAs_id {target : InvoiceState} {paidAt : Int} {result : Invoice}
    (ran : (settleAs tenantID inv target paidAt).run world = (.ok result, later)) :
    result.id = inv.id := by
  unfold settleAs at ran
  split at ran
  · cases ran
    rfl
  obtain ⟨_, _, _, written⟩ := ran_bind ran
  obtain ⟨_, _, _, checked⟩ := ran_bind written
  obtain ⟨_, _, _, reread⟩ := ran_bind checked
  exact invoice_id_of_ok reread

theorem settleIfPaid_id (ran : (settleIfPaid tenantID invoiceID).run world = (.ok inv, later)) :
    inv.id = invoiceID := by
  unfold settleIfPaid at ran
  obtain ⟨found, _, read, rest⟩ := ran_bind ran
  have same := invoice_id_of_ok read
  split at rest
  · obtain ⟨_, _, _, settled⟩ := ran_bind rest
    exact (settleAs_id settled).trans same
  split at rest
  · cases rest
    exact same
  · exact (settleAs_id rest).trans same

theorem issueInvoice_id (ran : (issueInvoice tenantID invoiceID).run world = (.ok inv, later)) :
    inv.id = invoiceID := by
  unfold issueInvoice at ran
  obtain ⟨found, _, read, ran⟩ := ran_bind ran
  iterate 10 obtain ⟨_, _, _, ran⟩ := ran_bind ran
  exact (invoice_id_of_ok ran).trans (invoice_id_of_ok read)

theorem applyAccountBalance_id {result : Invoice}
    (ran : (applyAccountBalance inv).run world = (.ok result, later)) : result.id = inv.id := by
  unfold applyAccountBalance at ran
  obtain ⟨buyer, _, _, rest⟩ := ran_bind ran
  split at rest
  · cases rest
    rfl
  · iterate 3 obtain ⟨_, _, _, rest⟩ := ran_bind rest
    exact settleIfPaid_id rest

theorem subscription_ok (ran : (subscription tenantID subID).run world = (.ok sub, later)) :
    later = world ∧ sub ∈ world.subscriptions.rows ∧ sub.isRow subID tenantID = true := by
  unfold subscription requireTenant at ran
  obtain ⟨_, looked⟩ := ran_refuse ran
  rw [run_step] at looked
  obtain ⟨present, rfl⟩ := require_ok looked
  exact ⟨rfl, Table.find_mem present⟩

theorem subscription_id_of_ok (ran : (subscription tenantID subID).run world = (.ok sub, later)) :
    sub.id = subID := by
  have facts := (subscription_ok ran).2.2
  simp only [Subscription.isRow, Bool.and_eq_true, beq_iff_eq] at facts
  exact facts.1

theorem moveOn_ok {source target : SubscriptionState} {refusal : String → BillingError}
    (ran : (moveOn source event refusal).run world = (.ok target, later)) :
    nextSubscriptionState source event = .ok target ∧ later = world := by
  unfold moveOn at ran
  split at ran
  · rename_i legal
    cases ran
    exact ⟨legal, rfl⟩
  · simp at ran

theorem convertTrial_id (ran : (convertTrial sub now).run world = (.ok moved, later)) :
    moved.id = sub.id := by
  unfold convertTrial transition at ran
  split at ran
  · iterate 3 obtain ⟨_, _, _, ran⟩ := ran_bind ran
    exact subscription_id_of_ok ran
  · cases ran
    rfl

theorem promotePlan_id (ran : (promotePlan sub now).run world = (.ok moved, later)) :
    moved.id = sub.id := by
  unfold promotePlan applyPendingPlan at ran
  split at ran
  · obtain ⟨_, _, _, rest⟩ := ran_bind ran
    split at rest
    · cases rest
      rfl
    · iterate 3 obtain ⟨_, _, _, rest⟩ := ran_bind rest
      exact subscription_id_of_ok rest
  · cases ran
    rfl

theorem newID_run (world : World) : newID.run world = (.ok (world.names.next world.usedIDs),
      { world with drawn := world.names.next world.usedIDs :: world.drawn }) := rfl

structure World.Lacks (world : World) (id : String) : Prop where
  account : ∀ buyer ∈ world.accounts.rows, buyer.id ≠ id
  line : ∀ line ∈ world.lines.rows, line.id ≠ id
  creditNote : ∀ note ∈ world.creditNotes.rows, note.id ≠ id
  attempt : ∀ attempt ∈ world.attempts.rows, attempt.id ≠ id
  refund : ∀ refund ∈ world.refunds.rows, refund.id ≠ id

theorem lacks_next (world : World) : world.Lacks (world.names.next world.usedIDs) := by
  have fresh := world.names.fresh world.usedIDs
  constructor <;> intro _ member same <;> rw [← same] at fresh <;> refine fresh ?_ <;>
    simp only [World.usedIDs, List.mem_append, List.mem_map_of_mem member, true_or, or_true]

theorem mem_invoices_insert {inv row : Invoice}
    (member : row ∈ (execute (Stmt.invoice (.insert inv)) world).2.invoices.rows) :
    row ∈ world.invoices.rows ∨ row = inv := by
  change row ∈ (Stmt.execute _ _).2.invoices.rows at member
  simp only [Stmt.execute, InvoiceStmt.execute] at member
  cases stored : world.invoices.insert inv with
  | none =>
    rw [stored] at member
    exact Or.inl member
  | some =>
    rw [stored] at member
    simpa [Table.insert_rows stored] using member

theorem mem_insert_invoice {inv : Invoice}
    (stored : (execute (Stmt.invoice (.insert inv)) world).1 = true) :
    inv ∈ (execute (Stmt.invoice (.insert inv)) world).2.invoices.rows := by
  change (Stmt.execute _ _).1 = true at stored
  change inv ∈ (Stmt.execute _ _).2.invoices.rows
  simp only [Stmt.execute, InvoiceStmt.execute] at stored ⊢
  cases grown : world.invoices.insert inv with
  | none => simp [grown] at stored
  | some => simp [Table.insert_rows grown]

theorem invoice_persists (stmt : Stmt Reply) (member : inv ∈ world.invoices.rows) :
    ∃ found ∈ (execute stmt world).2.invoices.rows, found.origin = inv.origin := by
  have assigned {matching : Invoice → Bool} {assign : Invoice → Invoice}
      (kept : ∀ row, (assign row).origin = row.origin) :
      ∃ found ∈ world.invoices.rows.map (Table.assignWhere matching assign),
        found.origin = inv.origin := by
    refine ⟨_, List.mem_map_of_mem member, ?_⟩
    unfold Table.assignWhere
    split
    · exact kept inv
    · rfl
  cases stmt with
  | invoice stmt =>
    cases stmt with
    | insert row =>
      refine ⟨inv, ?_, rfl⟩
      change inv ∈ (Stmt.execute _ _).2.invoices.rows
      simp only [Stmt.execute, InvoiceStmt.execute]
      cases stored : world.invoices.insert row with
      | none => exact member
      | some => simp [Table.insert_rows stored, member]
    | update change => exact assigned change.apply_origin
    | credit amountMinor now =>
      have kept (row : Invoice) : (row.withCredit amountMinor now).origin = row.origin := rfl
      exact assigned kept
    | _ => exact ⟨inv, member, rfl⟩
  | creditNote note =>
    have same : (execute (Stmt.creditNote note) world).2.invoices = world.invoices :=
      execute_same (.creditNote note) world .invoice (by simp [Stmt.writes])
    exact ⟨inv, by rwa [same], rfl⟩
  | call stmt => cases stmt <;> exact ⟨inv, member, rfl⟩
  | _ => exact ⟨inv, member, rfl⟩

theorem attempt_persists (stmt : Stmt Reply) {attempt : PaymentAttempt}
    (member : attempt ∈ world.attempts.rows) :
    ∃ found ∈ (execute stmt world).2.attempts.rows, found.origin = attempt.origin := by
  cases stmt with
  | attempt stmt =>
    cases stmt with
    | insert row =>
      refine ⟨attempt, ?_, rfl⟩
      change attempt ∈ (Stmt.execute _ _).2.attempts.rows
      simp only [Stmt.execute, AttemptStmt.execute]
      cases stored : world.attempts.insert row with
      | none => exact member
      | some => simp [Table.insert_rows stored, member]
    | complete =>
      refine ⟨_, List.mem_map_of_mem member, ?_⟩
      unfold Table.assignWhere
      split <;> rfl
    | _ => exact ⟨attempt, member, rfl⟩
  | creditNote note =>
    have same : (execute (Stmt.creditNote note) world).2.attempts = world.attempts :=
      execute_same (.creditNote note) world .attempt (by simp [Stmt.writes])
    exact ⟨attempt, by rwa [same], rfl⟩
  | call stmt => cases stmt <;> exact ⟨attempt, member, rfl⟩
  | _ => exact ⟨attempt, member, rfl⟩

def Stmt.Consults {Reply : Type} : Stmt Reply → Prop
  | .unix => True
  | .catalogue _ => True
  | .subscription (.entitled _) => True
  | _ => False

def Stmt.Backstage {Reply : Type} : Stmt Reply → Prop
  | .unix | .newID | .isAlreadyExists | .catalogue _ | .sequence _ => True
  | .account (.byTenant _) | .account (.insert _) => True
  | _ => False

theorem backstage_within {stmt : Stmt Reply} (hidden : stmt.Backstage) :
    stmt.Within [.identifier, .sequence, .account] := by
  intro area writes
  cases stmt <;> first | exact hidden.elim | grind [Stmt.writes]

theorem unix_backstage : unix.Uses Stmt.Backstage := uses_perform trivial

theorem newID_backstage : newID.Uses Stmt.Backstage := uses_perform trivial

theorem setting_backstage (name fallback : String) :
    (setting name fallback).Uses Stmt.Backstage := by
  grind [Stmt.Backstage, setting]

theorem ensureAccount_backstage (owner : String) : (ensureAccount owner).Uses Stmt.Backstage := by
  have clock := unix_backstage
  have named := newID_backstage
  have asks : (perform (.account (.byTenant owner)) : Service _).Uses Stmt.Backstage :=
    uses_perform trivial
  have twice : (perform .isAlreadyExists : Service Bool).Uses Stmt.Backstage := uses_perform trivial
  have stores (fresh : Account) : (perform (.account (.insert fresh)) : Service Bool).Uses
      Stmt.Backstage := uses_perform trivial
  have found : (account owner).Uses Stmt.Backstage := by
    unfold account requireTenant require
    grind
  have created : (createAccount owner).Uses Stmt.Backstage := by
    have asks := setting_backstage
    have currency : baseCurrency.Uses Stmt.Backstage := by
      unfold baseCurrency
      grind
    unfold createAccount
    grind
  unfold ensureAccount
  grind

theorem calculateTax_backstage (buyer : Account) (netMinor : Int) :
    (calculateTax buyer netMinor).Uses Stmt.Backstage := by
  have asks {Reply : Type} (stmt : CatalogueStmt Reply) :
      (perform (.catalogue stmt) : Service Reply).Uses Stmt.Backstage := uses_perform trivial
  have named (name fallback : String) := setting_backstage name fallback
  have flag (name : String) (fallback : Bool) :
      (settingBool name fallback).Uses Stmt.Backstage := by
    unfold settingBool
    grind
  have wide (country : String) : (countryTaxRate country).Uses Stmt.Backstage := by
    unfold countryTaxRate
    grind
  have rate (country region : String) : (lookupTaxRate country region).Uses Stmt.Backstage := by
    unfold lookupTaxRate
    grind
  unfold calculateTax
  grind

theorem nextDocumentNumber_backstage (scope tag : String) :
    (nextDocumentNumber scope tag).Uses Stmt.Backstage := by
  have asks {Reply : Type} (stmt : SequenceStmt Reply) :
      (perform (.sequence stmt) : Service Reply).Uses Stmt.Backstage := uses_perform trivial
  have named : (perform .isAlreadyExists : Service Bool).Uses Stmt.Backstage :=
    uses_perform trivial
  have tries (count : Nat) : (allocateNumber scope tag count).Uses Stmt.Backstage := by
    induction count with
    | zero => exact uses_fail _
    | succ =>
      unfold allocateNumber
      grind
  exact tries 8

def World.Alike (first second : World) : Prop :=
  first.catalogue = second.catalogue ∧ first.now = second.now ∧
    first.subscriptions = second.subscriptions

theorem consults_alike (stmt : Stmt Reply) (first second : World)
    (consults : stmt.Consults) (alike : first.Alike second) :
    (execute stmt first).1 = (execute stmt second).1 ∧
      World.Alike (execute stmt first).2 (execute stmt second).2 := by
  obtain ⟨sameCatalogue, sameNow, sameSubscriptions⟩ := alike
  cases stmt with
  | unix => exact ⟨sameNow, sameCatalogue, sameNow, sameSubscriptions⟩
  | catalogue asked =>
    exact ⟨congrArg asked.read sameCatalogue, sameCatalogue, sameNow, sameSubscriptions⟩
  | subscription asked =>
    cases asked with
    | entitled tenantID =>
      exact ⟨congrArg (fun table => (SubscriptionStmt.execute (.entitled tenantID) table).1)
        sameSubscriptions, sameCatalogue, sameNow, sameSubscriptions⟩
    | _ => exact consults.elim
  | _ => exact consults.elim

theorem alike_of_uses {origin : World}
    (uses : program.Avoids [.subscription]) (alike : world.Alike origin) :
    World.Alike (program.run world).2 origin := by
  have steady := run_steady program world
  exact ⟨steady.catalogue.trans alike.1, steady.now.trans alike.2.1,
    (run_without .subscription uses world).trans alike.2.2⟩

end Cashp
