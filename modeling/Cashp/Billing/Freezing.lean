import Cashp.Billing.Settlement
import Cashp.Kit.Watch

/-!
An invoice that has left draft. The figures are written at the version they were computed for, the
lines on the word of an earlier read alone.
-/

namespace Cashp

open Kit Kit.Program

structure InvoiceKey where
  tenantID : String
  invoiceID : String

namespace InvoiceKey

variable (key : InvoiceKey) {Reply : Type}

def row (world : World) : Option Invoice :=
  world.invoices.find (Invoice.isRow key.invoiceID key.tenantID)

def lines (world : World) : List InvoiceLine :=
  world.lines.select (InvoiceLine.isOf key.invoiceID key.tenantID)

def amounts (world : World) : List Int := (key.lines world).map InvoiceLine.amountMinor

def isDraft (world : World) : Bool := (key.row world).any fun inv => inv.state == .draft

def published (world : World) : Option (Invoice × List InvoiceLine) :=
  match key.row world with
  | some inv => if inv.state = .draft then none else some (inv.figures, key.lines world)
  | none => none

def Kept (before after : World) : Prop :=
  ∀ document, key.published before = some document → key.published after = some document

def Balanced (world : World) : Prop :=
  ∀ inv, key.row world = some inv → inv.state ≠ .draft →
    inv.subtotalMinor = (key.amounts world).sum

def draftLookout : Lookout Stmt World Bool Unit where
  view := key.isDraft
  looks := fun
    | .invoice (.byID invoiceID tenantID) =>
      invoiceID == key.invoiceID && tenantID == key.tenantID
    | _ => false
  note _ _ _ mark := mark

def LinesUpToDate (stmt : Stmt Reply) (fresh : Bool) (_ : Unit) (world : World) : Prop :=
  key.lines (execute stmt world).2 ≠ key.lines world → fresh = true

def recalculates (stmt : Stmt Reply) (world : World) : Bool :=
  match stmt with
  | .invoice (.update (.recalculate ..) invoiceID tenantID version) =>
    (key.row world).any (Invoice.isVersion invoiceID tenantID version)
  | _ => false

def lineLookout : Lookout Stmt World (List Int) Bool where
  view := key.amounts
  looks := fun
    | .line (.ofInvoice invoiceID tenantID) =>
      invoiceID == key.invoiceID && tenantID == key.tenantID
    | _ => false
  note stmt fresh world covered :=
    if key.amounts (execute stmt world).2 = key.amounts world then
      if key.recalculates stmt world then fresh else covered
    else false

def LeavesCovered (stmt : Stmt Reply) (_ covered : Bool) (world : World) : Prop :=
  key.isDraft world = true → key.isDraft (execute stmt world).2 = false → covered = true

structure Follows (before after : World) : Prop where
  kept : key.Kept before after
  row : ∀ inv, key.row before = some inv → ∃ found, key.row after = some found ∧
    inv.version ≤ found.version ∧ (found.version = inv.version → found = inv)

def freezing : Vigil Stmt World Bool Unit Int where
  toLookout := key.draftLookout
  valid _ world := (key.row world).isSome = true
  rely := key.Follows
  refl _ := ⟨fun _ same => same, fun inv here => ⟨inv, here, le_rfl, fun _ => rfl⟩⟩
  trans _ _ _ early late := by
    refine ⟨fun document same => late.kept _ (early.kept _ same), fun inv here => ?_⟩
    obtain ⟨second, there, older, unmoved⟩ := early.row inv here
    obtain ⟨third, last, newer, still⟩ := late.row second there
    refine ⟨third, last, older.trans newer, fun same => ?_⟩
    have between : second.version = inv.version := le_antisymm (same ▸ newer) older
    rw [still (same.trans between.symm), unmoved between]
  allowed := key.LinesUpToDate
  amount _ _ := 0

def covering : Vigil Stmt World (List Int) Bool Int where
  toLookout := key.lineLookout
  valid covered world := ∃ inv, key.row world = some inv ∧
    (covered = true ∨ inv.state ≠ .draft → inv.subtotalMinor = (key.amounts world).sum)
  rely _ _ := True
  refl _ := trivial
  trans _ _ _ _ _ := trivial
  allowed stmt fresh covered world :=
    key.LeavesCovered stmt fresh covered world ∧ key.Kept world (execute stmt world).2
  amount _ _ := 0

end InvoiceKey

variable {key : InvoiceKey} {world later : World} {inv : Invoice} {Reply : Type}
variable {stmt : Stmt Reply} {change : InvoiceUpdate} {version : Int} {fresh : Bool}

section

open InvoiceKey

variable {assign : Invoice → Invoice} {matching : Invoice → Bool}

theorem published_eq_some {document : Invoice × List InvoiceLine} :
    key.published world = some document ↔ ∃ inv, key.row world = some inv ∧
      inv.state ≠ .draft ∧ document = (inv.figures, key.lines world) := by
  unfold InvoiceKey.published
  grind

theorem isDraft_of_row (here : key.row world = some inv) :
    key.isDraft world = decide (inv.state = .draft) := by
  rw [InvoiceKey.isDraft, here, Option.any_some]
  rfl

theorem row_of_invoices (same : later.invoices = world.invoices) : key.row later = key.row world :=
  congrArg (fun table : Invoices => table.find (Invoice.isRow key.invoiceID key.tenantID)) same

theorem lines_of_table (same : later.lines = world.lines) : key.lines later = key.lines world :=
  congrArg (fun table : InvoiceLines =>
    table.select (InvoiceLine.isOf key.invoiceID key.tenantID)) same

theorem row_assigned (row : ∀ inv, (assign inv).isRow key.invoiceID key.tenantID =
      inv.isRow key.invoiceID key.tenantID) :
    (world.invoices.rows.map (Table.assignWhere matching assign)).find?
        (Invoice.isRow key.invoiceID key.tenantID) =
      (key.row world).map (Table.assignWhere matching assign) := by
  rw [List.find?_map]
  refine congrArg (Option.map _) (congrArg (List.find? · world.invoices.rows) ?_)
  funext inv
  simp only [Function.comp, Table.assignWhere]
  split
  · exact row inv
  · rfl

theorem row_update (change : InvoiceUpdate) (invoiceID tenantID : String) (version : Int)
    (world : World) :
    key.row (execute (Stmt.invoice (.update change invoiceID tenantID version)) world).2 =
      (key.row world).map
        (Table.assignWhere (Invoice.isVersion invoiceID tenantID version) change.apply) :=
  row_assigned fun _ => by cases change <;> rfl

theorem row_credit (amountMinor now : Int) (invoiceID tenantID : String) (world : World) :
    key.row (execute (Stmt.invoice (.credit amountMinor now invoiceID tenantID)) world).2 =
      (key.row world).map (Table.assignWhere (Invoice.isRow invoiceID tenantID)
        (Invoice.withCredit amountMinor now)) :=
  row_assigned fun _ => rfl

theorem follows_of_same (same : key.row later = key.row world)
    (lines : key.isDraft world = false → key.lines later = key.lines world) :
    key.Follows world later := by
  refine ⟨fun document shown => ?_, fun inv here =>
    ⟨inv, same.trans here, le_rfl, fun _ => rfl⟩⟩
  obtain ⟨inv, here, sent, rfl⟩ := published_eq_some.mp shown
  refine published_eq_some.mpr ⟨inv, same.trans here, sent, ?_⟩
  rw [lines (by rw [isDraft_of_row here, decide_eq_false sent])]

theorem follows_assign
    (moved : key.row later = (key.row world).map (Table.assignWhere matching assign))
    (lines : key.lines later = key.lines world)
    (version : ∀ inv, (assign inv).version = inv.version + 1)
    (fits : ∀ inv, key.row world = some inv → matching inv = true → inv.state ≠ .draft →
      (assign inv).state ≠ .draft ∧ (assign inv).figures = inv.figures) :
    key.Follows world later := by
  have after (inv : Invoice) (here : key.row world = some inv) :
      key.row later = some (Table.assignWhere matching assign inv) := by
    rw [moved, here, Option.map_some]
  refine ⟨fun document shown => ?_, fun inv here => ⟨_, after inv here, ?_⟩⟩
  · obtain ⟨inv, here, sent, rfl⟩ := published_eq_some.mp shown
    refine published_eq_some.mpr ⟨_, after inv here, ?_⟩
    unfold Table.assignWhere
    split
    · rename_i hit
      obtain ⟨still, figures⟩ := fits inv here hit sent
      exact ⟨still, by rw [figures, lines]⟩
    · exact ⟨sent, by rw [lines]⟩
  · unfold Table.assignWhere
    split
    · have raised := version inv
      exact ⟨by omega, fun same => absurd same (by omega)⟩
    · exact ⟨le_rfl, fun _ => rfl⟩

theorem follows_update {invoiceID tenantID : String} (fits : ∀ inv, key.row world = some inv →
      inv.isVersion invoiceID tenantID version = true → inv.state ≠ .draft →
        change.redrafts = false ∧ change.reprices = false) : key.Follows world
      (execute (Stmt.invoice (.update change invoiceID tenantID version)) world).2 := by
  refine follows_assign (row_update change invoiceID tenantID version world) rfl
    (fun inv => by cases change <;> rfl) fun inv here hit sent => ?_
  obtain ⟨stays, same⟩ := fits inv here hit sent
  exact ⟨change.apply_issued stays sent, change.apply_figures same inv⟩

def Stmt.Gentle (stmt : Stmt Reply) : Prop :=
  stmt.Within (without [.figures, .line]) ∧ stmt.Freezes

theorem follows_of_gentle (gentle : stmt.Gentle) : key.Follows world (execute stmt world).2 := by
  have unpriced : Area.figures ∉ stmt.writes := gentle.1.avoids (by decide)
  have lines : key.lines (execute stmt world).2 = key.lines world :=
    lines_of_table (execute_same stmt world .line (gentle.1.avoids (by decide)))
  by_cases writes : Area.invoice ∈ stmt.writes
  · cases stmt with
    | invoice stmt =>
      cases stmt with
      | insert => simp [Stmt.writes, InvoiceStmt.writes] at unpriced
      | update =>
        refine follows_update fun _ _ _ _ => ⟨gentle.2, ?_⟩
        by_contra reprices
        simp [Stmt.writes, InvoiceStmt.writes, reprices] at unpriced
      | credit amountMinor now invoiceID tenantID =>
        exact follows_assign (row_credit amountMinor now invoiceID tenantID world) rfl
          (fun _ => rfl) fun _ _ _ sent => ⟨sent, rfl⟩
      | _ => simp [Stmt.writes, InvoiceStmt.writes] at writes
    | line stmt => cases stmt <;> simp [Stmt.writes, LineStmt.writes] at writes
    | attempt stmt => cases stmt <;> simp [Stmt.writes, AttemptStmt.writes] at writes
    | _ => grind
  · exact follows_of_same (row_of_invoices (execute_same stmt world .invoice writes)) fun _ => lines

def Stmt.Apart (stmt : Stmt Reply) : Prop :=
  match stmt with
  | .invoice _ => False
  | .line _ => False
  | _ => True

theorem backstage_apart (hidden : stmt.Backstage) : stmt.Apart := by
  cases stmt <;> trivial

theorem apart_writes (apart : stmt.Apart) :
    Area.invoice ∉ stmt.writes ∧ Area.line ∉ stmt.writes := by
  cases stmt with
  | invoice | line => exact apart.elim
  | attempt stmt => cases stmt <;> simp [Stmt.writes, AttemptStmt.writes]
  | _ => grind

end

section

variable {Value Result : Type} {program : Service Value} {next : Value → Service Result}
variable {seen : Option Bool} {paid : Int}

theorem freezing_keeps {mark : Unit}
    (present : (key.row world).isSome = true) (follows : key.Follows world (execute stmt world).2) :
    key.freezing.Keeps stmt fresh mark world := by
  obtain ⟨inv, here⟩ := Option.isSome_iff_exists.mp present
  obtain ⟨found, there, _⟩ := follows.row inv here
  exact ⟨Option.isSome_iff_exists.mpr ⟨found, there⟩, follows⟩

theorem gentle_safe (gentle : stmt.Gentle) : key.freezing.Safe stmt :=
  fun _ _ _ present _ => freezing_keeps present (follows_of_gentle gentle)

theorem gentle_of_within
    (within : stmt.Within (without [.invoice, .figures, .line])) : stmt.Gentle := by
  refine ⟨?_, freezes_of_within ?_⟩ <;>
    exact fun area writes => by
      have allowed := within area writes
      simp_all [without]

theorem silent_idle (silent : stmt.writes = []) : key.freezing.Idle stmt := by
  intro fresh mark world present _
  have gentle : stmt.Gentle := gentle_of_within fun area writes => by simp [silent] at writes
  refine ⟨freezing_keeps present (follows_of_gentle gentle), ?_, sub_self _⟩
  rw [execute_unchanged silent]

theorem apart_blind (apart : stmt.Apart) :
    key.freezing.Idle stmt ∧ key.freezing.looks stmt = false := by
  obtain ⟨unwritten, unlined⟩ := apart_writes apart
  refine ⟨fun fresh mark world present _ => ?_, by cases stmt <;> first | rfl | exact apart.elim⟩
  have row : key.row (execute stmt world).2 = key.row world :=
    row_of_invoices (execute_same stmt world .invoice unwritten)
  have lines : key.lines (execute stmt world).2 = key.lines world :=
    lines_of_table (execute_same stmt world .line unlined)
  refine ⟨freezing_keeps present (follows_of_same row fun _ => lines), ?_, sub_self _⟩
  exact congrArg (fun row : Option Invoice => row.any fun inv => inv.state == .draft) row

theorem apart_then (uses : program.Uses Stmt.Backstage)
    (each : ∀ value later, key.Follows world later →
      (next value).Minds key.freezing seen paid later) :
    (program >>= next).Minds key.freezing seen paid world :=
  blind_then (uses.mono fun _ hidden => apart_blind (backstage_apart hidden)) each

structure InvoiceKey.HasRead (key : InvoiceKey) (inv : Invoice) (world : World) : Prop where
  id : inv.id = key.invoiceID
  row : ∃ found, key.row world = some found ∧ inv.version ≤ found.version ∧
    (found.version = inv.version → found.state = inv.state)

theorem InvoiceKey.HasRead.persists (read : key.HasRead inv world)
    (follows : key.Follows world later) : key.HasRead inv later := by
  obtain ⟨row, here, older, same⟩ := read.row
  obtain ⟨found, there, newer, unmoved⟩ := follows.row row here
  refine ⟨read.id, found, there, older.trans newer, fun version => ?_⟩
  grind

theorem invoice_freezing :
    (invoice key.tenantID key.invoiceID).Heeds key.freezing (fun answer known _ later =>
      ∀ inv, answer = .ok inv → key.HasRead inv later ∧
        known = some (decide (inv.state = .draft))) seen paid world := by
  unfold invoice requireTenant
  refine under_refuse (fun _ _ same => nomatch same) fun _ => ?_
  refine idle_then (silent_idle rfl) fun later _ _ _ present _ => ?_
  have shows : key.freezing.looks (Stmt.invoice (.byID key.invoiceID key.tenantID)) = true := by
    change (_ == _ && _ == _) = true
    simp
  rw [shows, if_pos rfl]
  change Program.Under _ _ (require (key.row later) _ >>= _) _ later
  obtain ⟨row, here⟩ := Option.isSome_iff_exists.mp present
  rw [here]
  refine idle_then (silent_idle rfl) fun last _ _ follows _ _ => ?_
  rintro inv same
  cases same
  have read : key.HasRead row later :=
    ⟨(isRow_iff.mp (Table.find_mem here).2).1, row, here, le_rfl, fun _ => rfl⟩
  have still := read.persists follows
  have shown : key.isDraft later = decide (row.state = .draft) := isDraft_of_row here
  exact ⟨⟨still.id, still.row⟩, congrArg some shown⟩

theorem lines_keep {stmt : LineStmt Reply} {mark : Unit} (present : (key.row world).isSome = true)
    (upToDate : key.LinesUpToDate (.line stmt) fresh mark world)
    (known : fresh = true → some true = some (key.isDraft world)) :
    key.freezing.Keeps (Stmt.line stmt) fresh mark world := by
  refine freezing_keeps present (follows_of_same rfl fun sent => ?_)
  by_contra changed
  have draft := known (upToDate changed)
  simp [sent] at draft

theorem lines_then {stmt : LineStmt Reply} {next : Reply → Service Result}
    (blind : key.freezing.looks (Stmt.line stmt) = false)
    (each : ∀ reply paid later, (next reply).Minds key.freezing (some true) paid later) :
    (perform (.line stmt) >>= next).Minds key.freezing (some true) paid world := by
  refine under_then fun later mark fresh _ present known upToDate => ?_
  refine ⟨lines_keep present upToDate known, ?_⟩
  rw [seenAfter_of_same rfl, blind, if_neg Bool.false_ne_true]
  exact each _ _ _

theorem invoice_safe (tenantID invoiceID : String) :
    (invoice tenantID invoiceID).Uses key.freezing.Safe :=
  invoice_within.mono fun _ within => gentle_safe (gentle_of_within within)

theorem isDraft_update {invoiceID tenantID : String}
    (same : ∀ inv, (change.apply inv).state = inv.state) :
    key.isDraft (execute (Stmt.invoice (.update change invoiceID tenantID version)) world).2 =
      key.isDraft world := by
  unfold InvoiceKey.isDraft
  rw [row_update, Option.any_map]
  congr 1
  funext inv
  unfold Table.assignWhere
  split
  · rw [same]
  · rfl

theorem update_then {next : Nat → Service Result}
    (read : key.HasRead inv world) (draft : inv.state = .draft) (each : ∀ affected known paid later,
      ((∀ inv, (change.apply inv).state = inv.state) → known = seen) →
        (next affected).Minds key.freezing known paid later) :
    (perform (.invoice (.update change inv.id key.tenantID inv.version)) >>= next).Minds
      key.freezing seen paid world := by
  refine under_then fun later mark fresh follows present _ _ => ?_
  refine ⟨freezing_keeps present (follows_update fun row here hit sent => ?_),
    each _ _ _ _ fun same => ?_⟩
  · obtain ⟨found, there, _, unmoved⟩ := (read.persists follows).row
    rw [here, Option.some.injEq] at there
    subst there
    simp only [Invoice.isVersion, Bool.and_eq_true, beq_iff_eq] at hit
    exact absurd ((unmoved hit.2).trans draft) sent
  · exact seenAfter_of_same (isDraft_update same)

theorem gentle_then (read : key.HasRead inv world)
    (within : program.Avoids [.invoice, .figures, .line])
    (each : ∀ value seen paid later, key.HasRead inv later →
      (next value).Minds key.freezing seen paid later) :
    (program >>= next).Minds key.freezing seen paid world := by
  have safe : program.Uses key.freezing.Safe :=
    within.mono fun _ inside => gentle_safe (gentle_of_within inside)
  exact heeds_then (heeds_of_safe safe) fun value seen paid later follows _ =>
    each value seen paid later (read.persists follows)

theorem draft_of_unfrozen (unfrozen : ¬ invoiceFrozen inv.state = true) : inv.state = .draft := by
  simpa [invoiceFrozen] using unfrozen

theorem recalculateDraft_freezing (read : key.HasRead inv world) (draft : inv.state = .draft) :
    (recalculateDraft key.tenantID inv).Minds key.freezing (some true) paid world := by
  unfold recalculateDraft requireRows
  refine apart_then (ensureAccount_backstage _) fun buyer _ early => ?_
  refine apart_then (calculateTax_backstage _ _) fun tax _ late => ?_
  refine apart_then unix_backstage fun now _ last => ?_
  refine update_then (((read.persists early).persists late).persists last) draft
    fun affected known _ _ same => ?_
  rw [same fun _ => rfl]
  refine under_refuse (fun _ => trivial) fun _ => ?_
  dsimp only
  split
  · exact lines_then rfl fun _ _ _ => heeds_of_safe (invoice_safe _ _)
  · exact heeds_of_safe (invoice_safe _ _)

theorem recalculateInvoice_freezing :
    (recalculateInvoice key.tenantID key.invoiceID).Minds key.freezing seen paid world := by
  unfold recalculateInvoice
  refine heeds_then invoice_freezing fun inv seen paid later _ held => ?_
  obtain ⟨read, known⟩ := held inv rfl
  split
  · trivial
  rename_i unfrozen
  have draft := draft_of_unfrozen unfrozen
  rw [known, draft]
  exact recalculateDraft_freezing read draft

theorem addLine_freezing (line : InvoiceLine) :
    (addLine key.tenantID key.invoiceID line).Minds key.freezing seen paid world := by
  unfold addLine
  refine heeds_then invoice_freezing fun inv seen paid later _ held => ?_
  obtain ⟨read, known⟩ := held inv rfl
  refine under_refuse (fun _ => trivial) fun unfrozen => ?_
  have draft := draft_of_unfrozen unfrozen
  rw [known, draft]
  refine apart_then newID_backstage fun id _ _ => lines_then rfl fun stored _ _ => ?_
  refine under_refuse (fun _ => trivial) fun _ => ?_
  rw [read.id]
  exact recalculateInvoice_freezing

theorem issueInvoice_freezing :
    (issueInvoice key.tenantID key.invoiceID).Minds key.freezing seen paid world := by
  unfold issueInvoice requireRows
  refine heeds_then invoice_freezing fun inv seen paid later _ held => ?_
  obtain ⟨read, _⟩ := held inv rfl
  refine under_refuse (fun _ => trivial) fun unfrozen => ?_
  have draft := draft_of_unfrozen unfrozen
  refine under_refuse (fun _ => trivial) fun _ => ?_
  refine gentle_then read (ensureAccount_within (by decide)) fun _ _ _ _ read => ?_
  refine gentle_then read setting_within fun _ _ _ _ read => ?_
  refine gentle_then read (nextDocumentNumber_within (by decide)) fun _ _ _ _ read => ?_
  refine gentle_then read unix_within fun _ _ _ _ read => ?_
  refine gentle_then read settingInt_within fun _ _ _ _ read => ?_
  refine gentle_then read unix_within fun _ _ _ _ read => ?_
  refine update_then read draft fun _ _ _ _ _ => ?_
  exact under_refuse (fun _ => trivial) fun _ => heeds_of_safe (invoice_safe _ _)

theorem gentle_uses (within : program.Avoids [.figures, .line]) (quiet : program.Uses Stmt.Quiet) :
    program.Minds key.freezing seen paid world :=
  heeds_of_safe ((within.and quiet).mono fun _ both => gentle_safe ⟨both.1, quiet_freezes both.2⟩)

end

section

variable {seen : Option (List Int)} {paid : Int} {Reply : Type}
variable {Value Result : Type} {program : Service Value} {next : Value → Service Result}

def Stmt.Plain (stmt : Stmt Reply) : Prop :=
  match stmt with
  | .invoice (.update (.recalculate ..) ..) => False
  | _ => True

theorem plain_of_within (within : stmt.Within (without [.figures])) : stmt.Plain := by
  have unpriced : Area.figures ∉ stmt.writes := within.avoids (by decide)
  unfold Stmt.Plain
  split
  · simp [Stmt.writes, InvoiceStmt.writes, InvoiceUpdate.reprices] at unpriced
  · trivial

theorem plain_recalculates (plain : stmt.Plain) : key.recalculates stmt world = false := by
  unfold InvoiceKey.recalculates
  split
  · exact plain.elim
  · rfl

theorem row_apart (apart : stmt.Apart) : key.row (execute stmt world).2 = key.row world :=
  row_of_invoices (execute_same stmt world .invoice (apart_writes apart).1)

theorem row_plain (plain : stmt.Plain) (here : key.row world = some inv) :
    ∃ found, key.row (execute stmt world).2 = some found ∧
      found.subtotalMinor = inv.subtotalMinor := by
  have unwritten (apart : stmt.Apart) : ∃ found, key.row (execute stmt world).2 = some found ∧
      found.subtotalMinor = inv.subtotalMinor :=
    ⟨inv, (row_apart apart).trans here, rfl⟩
  cases stmt with
  | invoice stmt =>
    cases stmt with
    | insert row =>
      refine ⟨inv, ?_, rfl⟩
      change (Stmt.execute _ _).2.invoices.find _ = _
      simp only [Stmt.execute, InvoiceStmt.execute]
      cases grew : world.invoices.insert row with
      | none => exact here
      | some =>
        have first : world.invoices.rows.find? _ = some inv := here
        simp only [Table.find, Table.insert_rows grew, List.find?_append, first,
          Option.some_or]
    | update change invoiceID tenantID version =>
      refine ⟨_, (row_update change invoiceID tenantID version world).trans
        (congrArg _ here), ?_⟩
      unfold Table.assignWhere
      split
      · cases change <;> first | rfl | exact plain.elim
      · rfl
    | credit amountMinor now invoiceID tenantID =>
      refine ⟨_, (row_credit amountMinor now invoiceID tenantID world).trans
        (congrArg _ here), ?_⟩
      unfold Table.assignWhere
      split <;> rfl
    | _ => exact ⟨inv, here, rfl⟩
  | line => exact ⟨inv, here, rfl⟩
  | _ => exact unwritten trivial

theorem row_of_lines (changed : key.amounts (execute stmt world).2 ≠ key.amounts world) :
    key.row (execute stmt world).2 = key.row world := by
  cases stmt with
  | line => rfl
  | invoice => exact absurd rfl changed
  | _ => exact row_apart trivial

theorem covering_keeps {covered : Bool} (valid : key.covering.valid covered world)
    (allowed : key.covering.allowed stmt fresh covered world)
    (drafted : ∀ inv, key.row world = some inv → inv.state = .draft →
      ∃ found, key.row (execute stmt world).2 = some found ∧
        (key.lineLookout.note stmt fresh world covered = true ∨ found.state ≠ .draft →
          found.subtotalMinor = (key.amounts (execute stmt world).2).sum)) :
    key.covering.Keeps stmt fresh covered world := by
  refine ⟨?_, trivial⟩
  obtain ⟨inv, here, sums⟩ := valid
  by_cases draft : inv.state = .draft
  · exact drafted inv here draft
  have shown := allowed.2 _ (published_eq_some.mpr ⟨inv, here, draft, rfl⟩)
  obtain ⟨found, there, _, same⟩ := published_eq_some.mp shown
  rw [Prod.mk.injEq] at same
  have total : found.subtotalMinor = inv.subtotalMinor :=
    (congrArg Invoice.subtotalMinor same.1).symm
  refine ⟨found, there, fun _ => ?_⟩
  rw [total, sums (.inr draft), InvoiceKey.amounts, InvoiceKey.amounts, same.2]

theorem plain_safe (plain : stmt.Plain) : key.covering.Safe stmt := by
  intro fresh covered world valid allowed
  refine covering_keeps valid allowed fun inv here draft => ?_
  obtain ⟨row, same, sums⟩ := valid
  obtain rfl : inv = row := Option.some.inj (here.symm.trans same)
  obtain ⟨found, there, subtotal⟩ := row_plain plain here
  refine ⟨found, there, fun reason => ?_⟩
  by_cases unchanged : key.amounts (execute stmt world).2 = key.amounts world
  · have noted : key.lineLookout.note stmt fresh world covered = covered := by
      change (if _ then _ else _) = _
      rw [if_pos unchanged, plain_recalculates plain, if_neg Bool.false_ne_true]
    have full : covered = true := by
      rcases reason with full | sent
      · exact noted.symm.trans full
      refine allowed.1 ?_ ?_
      · rw [isDraft_of_row here, draft]
        rfl
      · rw [isDraft_of_row there, decide_eq_false sent]
    rw [subtotal, sums (.inl full), unchanged]
  · have noted : key.lineLookout.note stmt fresh world covered = false := if_neg unchanged
    have unmoved := (row_of_lines unchanged).symm.trans there
    rw [here, Option.some.injEq] at unmoved
    subst unmoved
    rcases reason with full | sent
    · exact absurd (noted.symm.trans full) Bool.false_ne_true
    · exact absurd draft sent

theorem plain_idle (plain : stmt.Plain) (outside : Area.line ∉ stmt.writes) :
    key.covering.Idle stmt :=
  fun fresh covered world valid allowed => ⟨plain_safe plain fresh covered world valid allowed,
    congrArg (List.map InvoiceLine.amountMinor)
      (lines_of_table (execute_same stmt world .line outside)), sub_self _⟩

theorem apart_unseen (apart : stmt.Apart) :
    key.covering.Idle stmt ∧ key.covering.looks stmt = false := by
  have plain : stmt.Plain := by cases stmt <;> trivial
  refine ⟨plain_idle plain (apart_writes apart).2, ?_⟩
  cases stmt <;> first | rfl | exact apart.elim

theorem unseen_then (uses : program.Uses Stmt.Backstage)
    (each : ∀ value later, (next value).Minds key.covering seen paid later) :
    (program >>= next).Minds key.covering seen paid world :=
  blind_then (uses.mono fun _ hidden => apart_unseen (backstage_apart hidden))
    fun value later _ => each value later

theorem invoice_covering :
    (invoice key.tenantID key.invoiceID).Heeds key.covering (fun answer known _ _ =>
      ∀ inv, answer = .ok inv → inv.id = key.invoiceID ∧ ∃ amounts, known = some amounts ∧
        amounts.sum = (inv.lines.map InvoiceLine.amountMinor).sum) seen paid world := by
  unfold invoice requireTenant
  refine under_refuse (fun _ _ same => nomatch same) fun _ => ?_
  refine idle_then (plain_idle trivial (by simp [Stmt.writes, InvoiceStmt.writes]))
    fun later _ _ _ valid _ => ?_
  change Program.Under _ _ (require (key.row later) _ >>= _) _ later
  obtain ⟨row, here, _⟩ := valid
  rw [here]
  refine idle_then (plain_idle trivial (by simp [Stmt.writes, LineStmt.writes]))
    fun last _ _ _ _ _ => ?_
  have shows : key.covering.looks (Stmt.line (.ofInvoice key.invoiceID key.tenantID)) = true := by
    change (_ == _ && _ == _) = true
    simp
  rw [shows, if_pos rfl]
  rintro inv same
  cases same
  exact ⟨(isRow_iff.mp (Table.find_mem here).2).1, _, rfl, (Table.sum_selectOrdered _ _ _).symm⟩

theorem subtotal_then {total now : Int} {tax : TaxResult} {target : String}
    {amounts : List Int} {next : Nat → Service Result} (each : ∀ affected seen paid later,
      (next affected).Minds key.covering seen paid later) :
    (perform (.invoice (.update (.recalculate amounts.sum total tax now) target key.tenantID
        version)) >>= next).Minds key.covering (some amounts) paid world := by
  refine under_then fun later covered fresh _ valid known allowed => ⟨?_, each _ _ _ _⟩
  refine covering_keeps valid allowed fun inv here draft => ?_
  obtain ⟨row, same, sums⟩ := valid
  obtain rfl : inv = row := Option.some.inj (here.symm.trans same)
  refine ⟨_, (row_update _ target key.tenantID version later).trans (congrArg _ here), ?_⟩
  change (if key.amounts later = key.amounts later then
    if key.recalculates _ later then fresh else covered else false) = true ∨ _ → _
  rw [if_pos rfl]
  unfold InvoiceKey.recalculates Table.assignWhere
  simp only [here, Option.any_some]
  split
  · rintro (current | sent)
    · exact congrArg List.sum (Option.some.inj (known current))
    · exact absurd draft sent
  · exact sums

theorem plain_uses (uses : program.Uses Stmt.Plain) : program.Minds key.covering seen paid world :=
  heeds_of_safe (uses.mono fun _ => plain_safe)

theorem plain_of_avoids (within : program.Avoids [.figures]) : program.Uses Stmt.Plain :=
  within.mono fun _ => plain_of_within

theorem recalculateInvoice_covering :
    (recalculateInvoice key.tenantID key.invoiceID).Minds key.covering seen paid world := by
  unfold recalculateInvoice recalculateDraft requireRows
  refine heeds_then invoice_covering fun inv seen paid later _ held => ?_
  obtain ⟨_, amounts, rfl, sum⟩ := held inv rfl
  split
  · trivial
  rw [← sum]
  refine unseen_then (ensureAccount_backstage _) fun buyer _ => ?_
  refine unseen_then (calculateTax_backstage _ _) fun tax _ => ?_
  refine unseen_then unix_backstage fun now _ => subtotal_then fun _ _ _ _ => ?_
  refine under_refuse (fun _ => trivial) fun _ => ?_
  dsimp only
  split
  · exact plain_uses (uses_then trivial fun _ => plain_of_avoids invoice_within)
  · exact plain_uses (plain_of_avoids invoice_within)

theorem addLine_covering (line : InvoiceLine) :
    (addLine key.tenantID key.invoiceID line).Minds key.covering seen paid world := by
  unfold addLine
  refine heeds_then invoice_covering fun inv seen paid later _ held => ?_
  rw [(held inv rfl).1]
  refine under_refuse (fun _ => trivial) fun _ => ?_
  have named : newID.Uses Stmt.Plain := uses_perform trivial
  refine heeds_then (plain_uses named) fun id _ _ _ _ _ => ?_
  have stores : (perform (.line (.insert (preparedLine line id key.tenantID inv))) :
      Service Bool).Uses Stmt.Plain := uses_perform trivial
  refine heeds_then (plain_uses stores) fun stored _ _ _ _ _ => ?_
  exact under_refuse (fun _ => trivial) fun _ => recalculateInvoice_covering

theorem issueInvoice_plain (tenantID invoiceID : String) :
    (issueInvoice tenantID invoiceID).Uses Stmt.Plain := by
  unfold issueInvoice requireRows
  refine uses_bind (plain_of_avoids invoice_within) fun inv => ?_
  iterate 2 refine uses_refused fun _ => ?_
  refine uses_bind (plain_of_avoids (ensureAccount_within (by decide))) fun _ => ?_
  refine uses_bind (plain_of_avoids setting_within) fun _ => ?_
  refine uses_bind (plain_of_avoids (nextDocumentNumber_within (by decide))) fun _ => ?_
  refine uses_bind (plain_of_avoids unix_within) fun _ => ?_
  refine uses_bind (plain_of_avoids settingInt_within) fun _ => ?_
  refine uses_bind (plain_of_avoids unix_within) fun _ => uses_then trivial fun _ => ?_
  exact uses_refused fun _ => plain_of_avoids invoice_within

end

inductive InvoiceCall
  | addLine (line : InvoiceLine)
  | recalculate
  | issue
  | pay (amountMinor : Int)
  | mark (target : InvoiceState)
  | credit (amountMinor : Int) (reason : CreditReason) (text actor : String)

def InvoiceCall.program (key : InvoiceKey) : InvoiceCall → Service Unit
  | .addLine line => (Cashp.addLine key.tenantID key.invoiceID line).ignore
  | .recalculate => (recalculateInvoice key.tenantID key.invoiceID).ignore
  | .issue => (issueInvoice key.tenantID key.invoiceID).ignore
  | .pay amountMinor => (recordPayment key.tenantID key.invoiceID amountMinor).ignore
  | .mark target => (markInvoiceState key.tenantID key.invoiceID target).ignore
  | .credit amountMinor reason text actor =>
    (issueCreditNote key.tenantID key.invoiceID amountMinor reason text actor).ignore

structure InvoiceKey.Elsewhere (key : InvoiceKey) where
  change : World → World
  row : ∀ world, key.row (change world) = key.row world
  lines : ∀ world, key.lines (change world) = key.lines world

inductive InvoiceMove (key : InvoiceKey)
  | call (kind : InvoiceCall)
  | advance (thread : Nat)
  | elsewhere (aside : key.Elsewhere)

section

namespace InvoiceMove

def move : InvoiceMove key → Move Stmt BillingError Unit World
  | .call kind => .spawn (kind.program key)
  | .advance thread => .advance thread
  | .elsewhere aside => .disturb aside.change

def play (move : InvoiceMove key) (pool : Pool Stmt BillingError Unit World) :
    Pool Stmt BillingError Unit World :=
  pool.play move.move

def watchDraft (move : InvoiceMove key) (watched : Watched Stmt BillingError Unit World Unit) :
    Watched Stmt BillingError Unit World Unit :=
  watched.play key.draftLookout move.move

def watchLines (move : InvoiceMove key) (watched : Watched Stmt BillingError Unit World Bool) :
    Watched Stmt BillingError Unit World Bool :=
  watched.play key.lineLookout move.move

/-- The invoice has not left draft between a call's read of it and the lines the call writes. -/
def OnDraft (move : InvoiceMove key) (watched : Watched Stmt BillingError Unit World Unit) : Prop :=
  watched.Issues key.LinesUpToDate move.move

/-- The invoice leaves draft with the subtotal of a recalculation that has read all its lines. -/
def LeavesCovered (move : InvoiceMove key) (watched : Watched Stmt BillingError Unit World Bool) :
    Prop :=
  watched.Issues key.LeavesCovered move.move

def Keeps (move : InvoiceMove key) (pool : Pool Stmt BillingError Unit World) : Prop :=
  key.Kept pool.state (move.play pool).state

end InvoiceMove

theorem InvoiceCall.freezes (kind : InvoiceCall) :
    (kind.program key).Minds key.freezing none 0 world := by
  cases kind with
  | addLine line => exact minds_ignore (addLine_freezing line)
  | recalculate => exact minds_ignore recalculateInvoice_freezing
  | issue => exact minds_ignore issueInvoice_freezing
  | pay =>
    exact minds_ignore (gentle_uses (recordPayment_within (by decide))
      (recordPayment_quiet _ _ _))
  | mark =>
    exact minds_ignore (gentle_uses (markInvoiceState_within (by decide))
      (markInvoiceState_quiet _ _ _))
  | credit =>
    exact minds_ignore (gentle_uses (issueCreditNote_within (by decide))
      (issueCreditNote_quiet _ _ _ _ _ _))

theorem InvoiceCall.covers (kind : InvoiceCall) :
    (kind.program key).Minds key.covering none 0 world := by
  have unpriced {Value : Type} {program : Service Value} (within : program.Avoids [.figures]) :
      program.ignore.Minds key.covering none 0 world :=
    minds_ignore (plain_uses (plain_of_avoids within))
  cases kind with
  | addLine line => exact minds_ignore (addLine_covering line)
  | recalculate => exact minds_ignore recalculateInvoice_covering
  | issue => exact minds_ignore (plain_uses (issueInvoice_plain _ _))
  | pay => exact unpriced (recordPayment_within (by decide))
  | mark => exact unpriced (markInvoiceState_within (by decide))
  | credit =>
    exact unpriced (issueCreditNote_within (by decide))

theorem drafts_play {watched : Watched Stmt BillingError Unit World Unit}
    (sound : watched.Sound key.freezing (fun _ _ => True) 0) (move : InvoiceMove key)
    (onDraft : move.OnDraft watched) :
    move.Keeps watched.pool ∧ (move.watchDraft watched).Sound key.freezing (fun _ _ => True) 0 := by
  cases move with
  | call kind => exact ⟨fun _ shown => shown, sound.spawn kind.freezes⟩
  | advance =>
    obtain ⟨sounder, follows⟩ := sound.advance onDraft
    exact ⟨follows.kept, sounder⟩
  | elsewhere aside =>
    have follows : key.Follows watched.pool.state (aside.change watched.pool.state) :=
      follows_of_same (aside.row _) fun _ => aside.lines _
    refine ⟨follows.kept, sound.disturb ?_ follows rfl⟩
    have present : (key.row watched.pool.state).isSome = true := sound.valid
    exact (congrArg Option.isSome (aside.row _)).trans present

theorem lines_play {watched : Watched Stmt BillingError Unit World Bool}
    (sound : watched.Sound key.covering (fun _ _ => True) 0) (move : InvoiceMove key)
    (covered : move.LeavesCovered watched) (keeps : move.Keeps watched.pool) :
    (move.watchLines watched).Sound key.covering (fun _ _ => True) 0 := by
  cases move with
  | call kind => exact sound.spawn kind.covers
  | advance thread =>
    refine (sound.advance ?_).1
    simp only [InvoiceMove.LeavesCovered, InvoiceMove.Keeps, InvoiceMove.play, InvoiceMove.move,
      Watched.Issues, Pool.play, Pool.advance] at covered keeps ⊢
    split
    · rename_i command rest present
      rw [present] at covered keeps
      exact ⟨covered, keeps⟩
    · trivial
  | elsewhere aside =>
    refine sound.disturb ?_ trivial rfl
    obtain ⟨inv, here, sums⟩ := sound.valid
    refine ⟨inv, (aside.row _).trans here, fun reason => (sums reason).trans ?_⟩
    rw [InvoiceKey.amounts, InvoiceKey.amounts, aside.lines]

/-- However the calls interleave: once the invoice has left draft, no step changes its figures
or its lines, and its subtotal is the sum of its lines. -/
theorem published_invoice_fixed (key : InvoiceKey) (world : World) (inv : Invoice)
    (here : key.row world = some inv) (sum : inv.subtotalMinor = (key.amounts world).sum)
    (moves : List (InvoiceMove key))
    (onDraft : Every InvoiceMove.watchDraft InvoiceMove.OnDraft (Watched.opened world ()) moves)
    (covered : Every InvoiceMove.watchLines InvoiceMove.LeavesCovered (Watched.opened world true)
      moves) : Every InvoiceMove.play InvoiceMove.Keeps ⟨world, []⟩ moves ∧
      key.Balanced (lastState InvoiceMove.play ⟨world, []⟩ moves).state := by
  have drafts : (Watched.opened world () : Watched Stmt BillingError Unit World Unit).Sound
      key.freezing (fun _ _ => True) 0 :=
    Watched.sound_opened (Option.isSome_iff_exists.mpr ⟨inv, here⟩)
  have watched := every_of_invariant _ drafts onDraft
    fun move watched sound onDraft => drafts_play sound move onDraft
  have keeps : Every InvoiceMove.play InvoiceMove.Keeps ⟨world, []⟩ moves :=
    (every_along Watched.pool fun _ _ => Watched.play_pool _ _ _).mp watched
  have summed : (Watched.opened world true : Watched Stmt BillingError Unit World Bool).Sound
      key.covering (fun _ _ => True) 0 :=
    Watched.sound_opened ⟨inv, here, fun _ => sum⟩
  have alongside : Every InvoiceMove.watchLines (fun move watched => move.Keeps watched.pool)
      (Watched.opened world true) moves :=
    (every_along Watched.pool fun _ _ => Watched.play_pool _ _ _).mpr keeps
  have sound := lastState_of_invariant _ summed (covered.and alongside)
    fun move watched sound both => lines_play sound move both.1 both.2
  have same : (lastState InvoiceMove.watchLines (Watched.opened world true) moves).pool =
      lastState InvoiceMove.play ⟨world, []⟩ moves :=
    lastState_along Watched.pool fun _ _ => Watched.play_pool _ _ _
  refine ⟨keeps, fun found there sent => ?_⟩
  obtain ⟨row, stored, sums⟩ := sound.valid
  rw [same] at stored sums
  obtain rfl : row = found := Option.some.inj (stored.symm.trans there)
  exact sums (.inr sent)

instance InvoiceKey.decidableLinesUpToDate {Reply : Type} (stmt : Stmt Reply) (fresh : Bool)
    (mark : Unit) (world : World) : Decidable (key.LinesUpToDate stmt fresh mark world) :=
  inferInstanceAs (Decidable (_ ≠ _ → _))

instance InvoiceKey.decidableLeavesCovered {Reply : Type} (stmt : Stmt Reply)
    (fresh covered : Bool) (world : World) :
    Decidable (key.LeavesCovered stmt fresh covered world) :=
  inferInstanceAs (Decidable (_ → _ → _))

instance InvoiceMove.decidableOnDraft (move : InvoiceMove key)
    (watched : Watched Stmt BillingError Unit World Unit) : Decidable (move.OnDraft watched) :=
  inferInstanceAs (Decidable (watched.Issues key.LinesUpToDate move.move))

instance InvoiceMove.decidableLeavesCovered (move : InvoiceMove key)
    (watched : Watched Stmt BillingError Unit World Bool) :
    Decidable (move.LeavesCovered watched) :=
  inferInstanceAs (Decidable (watched.Issues key.LeavesCovered move.move))

end

def draftedKey : InvoiceKey := ⟨"acme", "inv"⟩

def emptyDraft : Invoice :=
  { id := "inv", tenantID := "acme", accountID := "acct", subscriptionID := "", state := .draft
    currency := "USD", periodStart := 0, periodEnd := 0, createdAt := 0, updatedAt := 0 }

def draftingShop : World where
  accounts := ⟨[{ id := "acct", tenantID := "acme", currency := "USD", createdAt := 0
                  updatedAt := 0 }], by simp⟩
  invoices := ⟨[emptyDraft], by simp⟩
  now := 1000
  names := Supply.outgrow

def seatLine : InvoiceLine :=
  { kind := .adjustment, description := "Seat", quantityMilli := 1000, unitPriceMinor := 500
    amountMinor := 500 }

def callSteps (thread count : Nat) : List (InvoiceMove draftedKey) :=
  List.replicate count (.advance thread)

def issuedInTurn : List (InvoiceMove draftedKey) :=
  [.call (.addLine seatLine), .call .issue, .call (.pay 200)] ++ callSteps 0 20 ++
    callSteps 1 20 ++ callSteps 2 20

theorem issued_in_turn_fixed :
    (lastState InvoiceMove.play ⟨draftingShop, []⟩ issuedInTurn).quiescent = true ∧
      draftedKey.isDraft (lastState InvoiceMove.play ⟨draftingShop, []⟩ issuedInTurn).state =
        false ∧ Every InvoiceMove.play InvoiceMove.Keeps ⟨draftingShop, []⟩ issuedInTurn ∧
      draftedKey.Balanced (lastState InvoiceMove.play ⟨draftingShop, []⟩ issuedInTurn).state :=
  ⟨by decide +kernel, by decide +kernel, published_invoice_fixed draftedKey draftingShop emptyDraft
    (by decide +kernel) (by decide +kernel) issuedInTurn (by decide +kernel) (by decide +kernel)⟩

def lineAfterIssue : List (InvoiceMove draftedKey) :=
  [.call (.addLine seatLine), .call .issue] ++ callSteps 0 3 ++ callSteps 1 20

theorem issued_invoice_gets_line :
    (draftedKey.row (lastState InvoiceMove.play ⟨draftingShop, []⟩ lineAfterIssue).state).map
        Invoice.state = some .issued ∧
      draftedKey.lines (lastState InvoiceMove.play ⟨draftingShop, []⟩ lineAfterIssue).state = [] ∧
      draftedKey.amounts (lastState InvoiceMove.play ⟨draftingShop, []⟩
        (lineAfterIssue ++ callSteps 0 20)).state = [500] ∧
      (draftedKey.row (lastState InvoiceMove.play ⟨draftingShop, []⟩
        (lineAfterIssue ++ callSteps 0 20)).state).map Invoice.subtotalMinor = some 0 := by
  decide +kernel

end Cashp
