import Cashp.Billing.Booking
import Cashp.Kit.Watch

/-!
Credits on one invoice at the same time. A credit note is checked against the invoice as it was read
and added to whatever the invoice holds by then; the two are stored by two statements.
-/

namespace Cashp

open Kit Kit.Program

variable {world later : World} {invoiceID tenantID : String} {Reply : Type} {inv : Invoice}

def World.totalOn (world : World) (invoiceID : String) : Int :=
  world.invoices.sumWhere (fun inv => inv.id == invoiceID) Invoice.totalMinor

def World.notedOn (world : World) (invoiceID : String) : Int :=
  world.creditNotes.sumWhere (fun note => note.invoiceID == invoiceID) CreditNote.amountMinor

def Stmt.balance : Stmt Reply → Int
  | .account (.addBalance amountMinor _ _) => amountMinor
  | _ => 0

def creditLookout (invoiceID : String) : Lookout Stmt World (Int × Int) Int where
  view world := (world.creditedOn invoiceID, world.totalOn invoiceID)
  looks := fun
    | .invoice (.byID target _) => target == invoiceID
    | _ => false
  note stmt _ _ applied := applied - stmt.balance

structure Bounded (invoiceID : String) (world : World) : Prop where
  credited : world.creditedOn invoiceID ≤ world.totalOn invoiceID
  paid : 0 ≤ world.paidOn invoiceID

def crediting (invoiceID : String) : Vigil Stmt World (Int × Int) Int Int where
  toLookout := creditLookout invoiceID
  valid _ := Bounded invoiceID
  rely before after := ∀ inv ∈ before.invoices.rows,
    ∃ found ∈ after.invoices.rows, found.origin = inv.origin
  refl _ inv member := ⟨inv, member, rfl⟩
  trans _ _ _ early late inv member := by
    obtain ⟨second, there, same⟩ := early inv member
    obtain ⟨third, last, again⟩ := late second there
    exact ⟨third, last, again.trans same⟩
  allowed := (creditLookout invoiceID).UpToDate
  amount applied world := world.creditedOn invoiceID - world.notedOn invoiceID - applied

theorem creditedOn_of_mem (member : inv ∈ world.invoices.rows) :
    world.creditedOn inv.id = inv.creditedMinor :=
  Table.sumWhere_unique (List.mem_singleton_self Invoice.id) member

theorem totalOn_of_mem (member : inv ∈ world.invoices.rows) :
    world.totalOn inv.id = inv.totalMinor :=
  Table.sumWhere_unique (List.mem_singleton_self Invoice.id) member

theorem totalOn_of_figures (same : Area.Same .figures world later) :
    later.totalOn invoiceID = world.totalOn invoiceID :=
  Table.sumWhere_of_map same (fun _ => rfl) fun _ => rfl

def Stmt.Calm (stmt : Stmt Reply) : Prop :=
  stmt.Within (without [.figures, .credit, .payment, .creditNote]) ∧ stmt.balance = 0

theorem calm_idle {stmt : Stmt Reply} (calm : stmt.Calm) : (crediting invoiceID).Idle stmt := by
  intro fresh applied world bounded _
  have credited : (execute stmt world).2.creditedOn = world.creditedOn :=
    execute_same stmt world .credit (calm.1.avoids (by decide))
  have paid : (execute stmt world).2.paidOn = world.paidOn :=
    execute_same stmt world .payment (calm.1.avoids (by decide))
  have notes : (execute stmt world).2.creditNotes = world.creditNotes :=
    execute_same stmt world .creditNote (calm.1.avoids (by decide))
  have total : (execute stmt world).2.totalOn invoiceID = world.totalOn invoiceID :=
    totalOn_of_figures (execute_same stmt world .figures (calm.1.avoids (by decide)))
  have noted : (execute stmt world).2.notedOn invoiceID = world.notedOn invoiceID := by
    rw [World.notedOn, notes, World.notedOn]
  refine ⟨⟨⟨?_, ?_⟩, fun inv member => invoice_persists stmt member⟩, ?_, ?_⟩
  · rw [credited, total]
    exact bounded.credited
  · rw [paid]
    exact bounded.paid
  · exact Prod.ext (congrFun credited invoiceID) total
  refine sub_eq_zero.mpr ?_
  change _ - _ - (applied - stmt.balance) = _ - _ - applied
  rw [credited, noted, calm.2, Int.sub_zero]

theorem calm_of_within {stmt : Stmt Reply}
    (within : stmt.Within (without [.figures, .credit, .payment, .creditNote, .account])) :
    stmt.Calm := by
  refine ⟨fun area writes => mem_without.mpr fun listed => ?_, ?_⟩
  · exact mem_without.mp (within area writes) (List.mem_append_left [Area.account] listed)
  cases stmt with
  | account stmt =>
    cases stmt with
    | addBalance =>
      exact absurd (List.mem_singleton_self Area.account) (within.avoids (by decide))
    | _ => rfl
  | _ => rfl

theorem backstage_calm {stmt : Stmt Reply} (hidden : stmt.Backstage) : stmt.Calm := by
  have allowed : ∀ area ∈ [Area.identifier, .sequence, .account],
      area ∈ without [.figures, .credit, .payment, .creditNote] := by decide
  refine ⟨fun area writes => allowed area (backstage_within hidden area writes), ?_⟩
  cases stmt with
  | account stmt => cases stmt <;> first | rfl | exact hidden.elim
  | _ => rfl

section

variable {Value Result : Type} {program : Service Value} {next : Value → Service Result}
variable {after : Except BillingError Result → Option (Int × Int) × Int → World → Prop}
variable {seen : Option (Int × Int)} {paid amount now : Int} {target : String} {note : CreditNote}

theorem calm_then (uses : program.Uses Stmt.Calm)
    (each : ∀ value seen later, (crediting invoiceID).rely world later →
      (next value).Under (crediting invoiceID).terms after (seen, paid) later)
    (stop : ∀ failure seen later, after (.error failure) (seen, paid) later) :
    (program >>= next).Under (crediting invoiceID).terms after (seen, paid) world := by
  refine (heeds_of_uses (uses.mono fun _ calm => calm_idle calm)).andThen ?_ ?_
  · rintro value ⟨seen, _⟩ later follows rfl
    exact each value seen later follows
  · rintro failure ⟨seen, _⟩ later rfl
    exact stop failure seen later

theorem backstage_then (uses : program.Uses Stmt.Backstage)
    (each : ∀ value later, (crediting invoiceID).rely world later →
      (next value).Under (crediting invoiceID).terms after (seen, paid) later)
    (stop : ∀ failure later, after (.error failure) (seen, paid) later) :
    (program >>= next).Under (crediting invoiceID).terms after (seen, paid) world := by
  have blind : program.Uses fun {_} stmt =>
      (crediting invoiceID).Idle stmt ∧ (crediting invoiceID).looks stmt = false :=
    uses.mono fun stmt hidden => ⟨calm_idle (backstage_calm hidden),
      by cases stmt <;> first | rfl | exact hidden.elim⟩
  refine (heeds_of_blind blind).andThen ?_ ?_
  · rintro value ⟨_, _⟩ later follows ⟨rfl, rfl⟩
    exact each value later follows
  · rintro failure ⟨_, _⟩ later ⟨rfl, rfl⟩
    exact stop failure later

theorem notedOn_insert (invoiceID : String) (note : CreditNote) (world : World) :
    (execute (Stmt.creditNote note) world).1 = false ∧
        (execute (Stmt.creditNote note) world).2 = world ∨
      (execute (Stmt.creditNote note) world).1 = true ∧
        (execute (Stmt.creditNote note) world).2.notedOn invoiceID = world.notedOn invoiceID +
            if note.invoiceID == invoiceID then note.amountMinor else 0 := by
  change (Stmt.execute _ _).1 = false ∧ (Stmt.execute _ _).2 = _ ∨
    (Stmt.execute _ _).1 = true ∧ (Stmt.execute _ _).2.creditNotes.sumWhere _ _ = _
  simp only [Stmt.execute]
  cases stored : world.creditNotes.insert note with
  | none => exact .inl ⟨rfl, rfl⟩
  | some => exact .inr ⟨rfl, Table.sumWhere_insert stored⟩

def OnFile (tenantID invoiceID : String) (world : World) : Prop :=
  ∃ inv ∈ world.invoices.rows, inv.isRow invoiceID tenantID = true

theorem onFile_later (held : OnFile tenantID invoiceID world)
    (follows : (crediting invoiceID).rely world later) : OnFile tenantID invoiceID later := by
  obtain ⟨inv, member, matching⟩ := held
  obtain ⟨found, there, same⟩ := follows inv member
  refine ⟨found, there, ?_⟩
  simp_all [Invoice.isRow, Invoice.origin]

theorem creditedOn_credit (held : OnFile tenantID invoiceID world) :
    (execute (Stmt.invoice (.credit amount now invoiceID tenantID)) world).2.creditedOn invoiceID =
      world.creditedOn invoiceID + amount := by
  obtain ⟨inv, member, matching⟩ := held
  have here := isRow_iff.mp matching
  have moved : (world.invoices.update (Invoice.isRow invoiceID tenantID)
      (Invoice.withCredit amount now) (by simp [Invoice.withCredit])).sumWhere
        (fun inv => inv.id == invoiceID) Invoice.creditedMinor = _ :=
    Table.sumWhere_update_at (List.mem_singleton_self Invoice.id) member matching
      (fun other hit => (isRow_iff.mp hit).1.trans here.1.symm) _ fun _ => rfl
  rw [if_pos (by simp [here.1])] at moved
  refine moved.trans ?_
  change _ + (inv.creditedMinor + amount - inv.creditedMinor) = world.creditedOn invoiceID + amount
  rw [World.creditedOn]
  omega

theorem calm_of_silent {stmt : Stmt Reply} (silent : stmt.writes = []) : stmt.Calm :=
  calm_of_within fun area writes => by simp [silent] at writes

abbrev Service.Accounts (invoiceID : String) (program : Service Value)
    (seen : Option (Int × Int)) (paid : Int) (world : World) : Prop :=
  program.Heeds (crediting invoiceID) (fun _ _ brought _ => brought = paid) seen paid world

structure Knows (invoiceID tenantID : String) (inv : Invoice) (known : Option (Int × Int))
    (world : World) : Prop where
  view : known = some (inv.creditedMinor, inv.totalMinor)
  paid : 0 ≤ inv.paidMinor
  onFile : OnFile tenantID invoiceID world

theorem Knows.persists (knows : Knows invoiceID tenantID inv seen world)
    (follows : (crediting invoiceID).rely world later) : Knows invoiceID tenantID inv seen later :=
  ⟨knows.view, knows.paid, onFile_later knows.onFile follows⟩

theorem invoice_heeds :
    (invoice tenantID target).Heeds (crediting invoiceID) (fun answer known brought later =>
      brought = paid ∧ ∀ inv, answer = .ok inv → inv.id = target ∧ inv.tenantID = tenantID ∧
        (target = invoiceID → Knows invoiceID tenantID inv known later)) seen paid world := by
  unfold invoice requireTenant
  refine under_refuse (fun _ => ⟨rfl, fun _ same => nomatch same⟩) fun _ => ?_
  refine idle_then (calm_idle (calm_of_silent rfl)) fun later mark fresh _ bounded _ => ?_
  change Program.Under _ _ (require (later.invoices.find (Invoice.isRow target tenantID)) _ >>= _) _
    later
  cases found : later.invoices.find (Invoice.isRow target tenantID) with
  | none => exact ⟨rfl, fun _ same => nomatch same⟩
  | some row =>
    obtain ⟨member, matching⟩ := Table.find_mem found
    have here := isRow_iff.mp matching
    refine idle_then (calm_idle (calm_of_silent rfl)) fun last mark fresh follows _ _ => ?_
    refine ⟨rfl, fun inv same => ?_⟩
    cases same
    refine ⟨here.1, here.2, fun ours => ?_⟩
    subst ours
    have credited := creditedOn_of_mem member
    have total := totalOn_of_mem member
    have covered := paidOn_of_mem member
    rw [here.1] at credited total covered
    refine ⟨?_, covered ▸ bounded.paid, onFile_later ⟨row, member, matching⟩ follows⟩
    have shows : (crediting target).looks (Stmt.invoice (.byID target tenantID)) = true :=
      beq_self_eq_true target
    rw [shows, if_pos rfl]
    exact congrArg some (Prod.ext credited total)

theorem creditNote_same (note : CreditNote) (world : World) :
    (execute (Stmt.creditNote note) world).2.invoices = world.invoices :=
  execute_same (.creditNote note) world .invoice (by simp [Stmt.writes])

theorem creditNote_keeps {fresh : Bool} {applied : Int} (bounded : Bounded invoiceID world) :
    (crediting invoiceID).Keeps (Stmt.creditNote note) fresh applied world := by
  have same := creditNote_same note world
  refine ⟨⟨?_, ?_⟩, fun inv member => invoice_persists _ member⟩
  · rw [World.creditedOn, World.totalOn, same]
    exact bounded.credited
  · rw [World.paidOn, same]
    exact bounded.paid

theorem creditNote_view (note : CreditNote) (world : World) :
    (crediting invoiceID).view (execute (Stmt.creditNote note) world).2 =
      (crediting invoiceID).view world := by
  change (World.creditedOn _ _, World.totalOn _ _) = (World.creditedOn _ _, World.totalOn _ _)
  rw [World.creditedOn, World.totalOn, creditNote_same, World.creditedOn, World.totalOn]

theorem gain_creditNote {fresh : Bool} {applied : Int} :
    (crediting invoiceID).gain (Stmt.creditNote note) fresh applied world =
      world.notedOn invoiceID - (execute (Stmt.creditNote note) world).2.notedOn invoiceID := by
  change World.creditedOn _ _ - _ - (applied - 0) - (_ - _ - applied) = _
  rw [World.creditedOn, creditNote_same, World.creditedOn]
  omega

theorem creditNote_idle (other : note.invoiceID ≠ invoiceID) :
    (crediting invoiceID).Idle (Stmt.creditNote note) := by
  intro fresh applied world bounded _
  refine ⟨creditNote_keeps bounded, creditNote_view note world, ?_⟩
  rw [gain_creditNote]
  rcases notedOn_insert invoiceID note world with ⟨_, same⟩ | ⟨_, added⟩
  · rw [same]
    omega
  · rw [added, if_neg (by simpa using other)]
    omega

theorem credit_heeds {next : Nat → Service Result}
    (knows : Knows invoiceID tenantID inv seen world) (positive : 0 < amount)
    (room : amount ≤ inv.totalMinor - inv.creditedMinor)
    (each : ∀ affected seen later, (next affected).Under (crediting invoiceID).terms after
      (seen, paid + amount) later) :
    (perform (.invoice (.credit amount now invoiceID tenantID)) >>= next).Under
      (crediting invoiceID).terms after (seen, paid) world := by
  refine under_then fun later mark fresh follows bounded known upToDate => ?_
  let stmt : Stmt Nat := .invoice (.credit amount now invoiceID tenantID)
  have outside (area : Area) (other : area ∉ [Area.invoice, Area.credit]) : area ∉ stmt.writes :=
    other
  have added : (execute stmt later).2.creditedOn invoiceID = later.creditedOn invoiceID + amount :=
    creditedOn_credit (onFile_later knows.onFile follows)
  have total : (execute stmt later).2.totalOn invoiceID = later.totalOn invoiceID :=
    totalOn_of_figures (execute_same stmt later .figures (outside .figures (by decide)))
  have covered : (execute stmt later).2.paidOn = later.paidOn :=
    execute_same stmt later .payment (outside .payment (by decide))
  have notes : (execute stmt later).2.creditNotes = later.creditNotes :=
    execute_same stmt later .creditNote (outside .creditNote (by decide))
  have noted : (execute stmt later).2.notedOn invoiceID = later.notedOn invoiceID := by
    rw [World.notedOn, notes, World.notedOn]
  have touched : (crediting invoiceID).touches stmt later = true := by
    refine decide_eq_true fun same => ?_
    have unmoved : (execute stmt later).2.creditedOn invoiceID = later.creditedOn invoiceID :=
      congrArg Prod.fst same
    omega
  have view := (knows.view.symm.trans (known (upToDate touched)))
  simp only [Option.some.injEq, Prod.ext_iff] at view
  have current : inv.creditedMinor = later.creditedOn invoiceID := view.1
  have whole : inv.totalMinor = later.totalOn invoiceID := view.2
  have gained : (crediting invoiceID).gain stmt fresh mark later = amount := by
    change _ - _ - (mark - 0) - (_ - _ - mark) = amount
    rw [added, noted]
    omega
  refine ⟨⟨⟨?_, ?_⟩, fun inv member => invoice_persists stmt member⟩, ?_⟩
  · grind
  · change 0 ≤ (execute stmt later).2.paidOn invoiceID
    rw [covered]
    exact bounded.paid
  · rw [gained]
    exact each _ _ _

theorem credit_idle (other : target ≠ invoiceID) :
    (crediting invoiceID).Idle (Stmt.invoice (.credit amount now target tenantID)) := by
  intro fresh applied world bounded _
  have rows : (execute (Stmt.invoice (.credit amount now target tenantID)) world).2.invoices.select
      (fun inv => inv.id == invoiceID) = world.invoices.select fun inv => inv.id == invoiceID := by
    refine @Table.select_update_other _ _ _ _ _ (by simp [Invoice.withCredit]) _ (fun _ => rfl)
      fun row hit => ?_
    rw [(isRow_iff.mp hit).1]
    simpa using other
  have sums (weight : Invoice → Int) :
      (execute (Stmt.invoice (.credit amount now target tenantID)) world).2.invoices.sumWhere
        (fun inv => inv.id == invoiceID) weight =
      world.invoices.sumWhere (fun inv => inv.id == invoiceID) weight :=
    congrArg (fun rows : List Invoice => (rows.map weight).sum) rows
  refine ⟨⟨⟨?_, ?_⟩, fun inv member => invoice_persists _ member⟩, ?_, ?_⟩
  · rw [World.creditedOn, World.totalOn, sums, sums]
    exact bounded.credited
  · rw [World.paidOn, sums]
    exact bounded.paid
  · exact Prod.ext (sums _) (sums _)
  have credited : World.creditedOn _ invoiceID = world.creditedOn invoiceID := sums _
  change World.creditedOn _ _ - world.notedOn invoiceID - (applied - 0) - _ = 0
  rw [credited]
  exact sub_eq_zero.mpr (by rw [Int.sub_zero]; rfl)

theorem calm_uses (within : program.Avoids [.figures, .credit, .payment, .creditNote, .account]) :
    program.Uses Stmt.Calm :=
  within.mono fun _ => calm_of_within

theorem calm_accounts
    (within : program.Avoids [.figures, .credit, .payment, .creditNote, .account]) :
    program.Accounts invoiceID seen paid world :=
  heeds_of_uses ((calm_uses within).mono fun _ => calm_idle)

theorem settleIfPaid_calm (tenantID target : String) :
    (settleIfPaid tenantID target).Uses Stmt.Calm :=
  calm_uses (settleIfPaid_within (by decide))

theorem noteAndCredit_heeds {issued : CreditNote}
    (knows : Knows invoiceID tenantID inv seen world) (here : inv.id = invoiceID)
    (ours : issued.invoiceID = invoiceID) (worth : issued.amountMinor = amount)
    (positive : 0 < amount) (room : amount ≤ inv.totalMinor - inv.creditedMinor) :
    (do
      let stored ← perform (.creditNote issued)
      refuse (stored = false) (errInternal "Could not issue the credit note.")
      let now ← unix
      let _ ← perform (.invoice (.credit amount now inv.id tenantID))
      let _ ← settleIfPaid tenantID inv.id
      pure issued : Service CreditNote).Accounts invoiceID seen paid world := by
  refine under_then fun later mark fresh follows bounded _ _ => ?_
  have kept : (crediting invoiceID).Keeps (Stmt.creditNote issued) fresh mark later :=
    creditNote_keeps bounded
  refine ⟨kept, ?_⟩
  rw [seenAfter_of_same (creditNote_view issued later), gain_creditNote]
  rcases notedOn_insert invoiceID issued later with ⟨refused, same⟩ | ⟨stored, added⟩
  · rw [refused, same, Int.sub_self, Int.add_zero]
    exact under_refuse (fun _ => rfl) fun passed => absurd rfl passed
  have hit : (issued.invoiceID == invoiceID) = true := by simp [ours]
  have still := (knows.persists follows).persists kept.rely
  rw [stored, added, hit, if_pos rfl, worth]
  refine under_refuse (fun bad => absurd bad (by simp)) fun _ => ?_
  refine idle_then (calm_idle (calm_of_silent rfl)) fun last mark fresh onward _ _ => ?_
  subst here
  refine credit_heeds (still.persists onward) positive room fun _ known booked => ?_
  refine calm_then (settleIfPaid_calm tenantID inv.id) (fun _ _ _ _ => ?_) fun _ _ _ => ?_
  · change _ = paid
    omega
  · omega

theorem issueCreditNote_heeds {reason : CreditReason} {note actor : String} :
    (issueCreditNote tenantID target amount reason note actor).Accounts invoiceID seen paid
      world := by
  unfold issueCreditNote
  refine invoice_heeds.andThen ?_ fun _ _ _ held => held.1
  rintro inv ⟨seen, _⟩ later - ⟨rfl, read⟩
  obtain ⟨here, _, knows⟩ := read inv rfl
  refine under_refuse (fun _ => rfl) fun _ => ?_
  refine under_refuse (fun _ => rfl) fun positive => ?_
  refine under_refuse (fun _ => rfl) fun room => ?_
  refine backstage_then (setting_backstage _ _) (fun tag first early => ?_) fun _ _ => rfl
  refine backstage_then (nextDocumentNumber_backstage _ _) (fun number second middle => ?_)
    fun _ _ => rfl
  refine backstage_then newID_backstage (fun id third late => ?_) fun _ _ => rfl
  refine backstage_then unix_backstage (fun issuedAt last onward => ?_) fun _ _ => rfl
  by_cases ours : target = invoiceID
  · have known := (((knows ours).persists early).persists middle).persists late
    exact noteAndCredit_heeds (known.persists onward) (here.trans ours) (here.trans ours) rfl
      (by omega) (by omega)
  have elsewhere : inv.id ≠ invoiceID := by rwa [here]
  refine heeds_of_uses (uses_then (creditNote_idle elsewhere) fun _ => ?_)
  refine uses_refused fun _ => ?_
  refine uses_then (calm_idle (calm_of_silent rfl)) fun _ => ?_
  refine uses_then (credit_idle elsewhere) fun _ => ?_
  exact uses_bind ((settleIfPaid_calm tenantID inv.id).mono fun _ => calm_idle) fun _ =>
    uses_pure _

theorem refundPayment_heeds {reason actor : String} :
    (refundPayment tenantID target amount reason actor).Accounts invoiceID seen paid world := by
  unfold refundPayment
  refine invoice_heeds.andThen ?_ fun _ _ _ held => held.1
  rintro inv ⟨seen, _⟩ later - ⟨rfl, _⟩
  refine under_refuse (fun _ => rfl) fun _ => ?_
  refine calm_then (calm_uses settledAttempt_within) (fun attempt _ _ _ => ?_)
    fun _ _ _ => rfl
  refine calm_then (calm_uses providerInstance_within) (fun provider _ _ _ => ?_)
    fun _ _ _ => rfl
  have asks : (perform (.call (.refund attempt.provider provider
      (refundRequest attempt inv amount reason))) : Service _).Uses Stmt.Calm :=
    uses_perform (calm_of_within fun area writes => by rw [List.mem_singleton.mp writes]; decide)
  refine calm_then asks (fun answer _ _ _ => ?_) fun _ _ _ => rfl
  cases answer with
  | error => rfl
  | ok =>
    refine issueCreditNote_heeds.andThen ?_ fun _ _ _ held => held
    rintro note ⟨_, _⟩ _ - rfl
    exact calm_accounts (uses_bind (newID_within (by decide)) fun _ => uses_bind unix_within
      fun _ => uses_bind refundCompletedAt_within fun _ =>
        uses_bind (recordRefund_within (by decide)) fun _ => uses_pure _)

theorem applyRefundEvent_heeds {providerName : String} {event : Event} :
    (applyRefundEvent providerName event).Accounts invoiceID seen paid world := by
  unfold applyRefundEvent
  refine calm_then (calm_uses attemptByReference_within)
    (fun found _ _ _ => ?_) fun _ _ _ => rfl
  cases found with
  | none => rfl
  | some =>
    refine calm_then (calm_uses refundAlreadyBooked_within)
      (fun booked _ _ _ => ?_) fun _ _ _ => rfl
    cases booked with
    | true => rfl
    | false =>
      change Program.Under _ _ (bookRefund _ _ _ _) _ _
      unfold bookRefund
      refine issueCreditNote_heeds.andThen ?_ fun _ _ _ held => held
      rintro note ⟨_, _⟩ _ - rfl
      exact calm_accounts (uses_bind (newID_within (by decide)) fun _ => uses_bind unix_within
        fun _ => uses_bind unix_within fun _ =>
          uses_bind (recordRefund_within (by decide)) fun _ => uses_pure _)

theorem takes_heeds {owner : String} {next : Nat → Service Result}
    (each : ∀ affected later, (next affected).Under (crediting invoiceID).terms after
      (seen, paid + amount) later) :
    (perform (.account (.addBalance amount now owner)) >>= next).Under
      (crediting invoiceID).terms after (seen, paid) world := by
  refine under_then fun later mark fresh _ bounded _ _ => ?_
  have same : (crediting invoiceID).view
      (execute (Stmt.account (.addBalance amount now owner)) later).2 =
        (crediting invoiceID).view later := rfl
  have gained : (crediting invoiceID).gain (Stmt.account (.addBalance amount now owner)) fresh mark
      later = amount := by
    change _ - _ - (mark - amount) - (later.creditedOn invoiceID - later.notedOn invoiceID - mark) =
      amount
    change later.creditedOn invoiceID - later.notedOn invoiceID - (mark - amount) - _ = amount
    omega
  refine ⟨⟨⟨bounded.credited, bounded.paid⟩, fun inv member => invoice_persists _ member⟩, ?_⟩
  rw [seenAfter_of_same same, gained]
  exact each _ _

def takeBalance (tenantID invoiceID : String) : Service Invoice := do
  let issued ← invoice tenantID invoiceID
  applyAccountBalance issued

theorem takeBalance_heeds :
    (takeBalance tenantID invoiceID).Accounts invoiceID seen paid world := by
  unfold takeBalance applyAccountBalance
  refine invoice_heeds.andThen ?_ fun _ _ _ held => held.1
  rintro inv ⟨seen, _⟩ later - ⟨rfl, read⟩
  obtain ⟨here, owner, knows⟩ := read inv rfl
  refine backstage_then (ensureAccount_backstage inv.tenantID) (fun buyer last follows => ?_)
    fun _ _ => rfl
  split
  · rfl
  rename_i due
  rw [not_or, Int.not_le, Int.not_le] at due
  have known := (knows rfl).persists follows
  have room := known.paid
  have owed : inv.balanceDueMinor = inv.totalMinor - inv.paidMinor - inv.creditedMinor :=
    clampNonNegative_of_nonneg ((clampNonNegative_pos _).mp due.2).le
  subst here owner
  refine idle_then (calm_idle (calm_of_silent rfl)) fun clocked mark fresh onward _ _ => ?_
  refine credit_heeds (known.persists onward) (by split <;> omega) (by split <;> omega)
    fun _ _ _ => takes_heeds fun _ _ => ?_
  refine (heeds_of_uses ((settleIfPaid_calm inv.tenantID inv.id).mono fun _ => calm_idle)).imp
    fun _ _ _ same => ?_
  omega

end

inductive CreditCall
  | note (amountMinor : Int) (reason : CreditReason) (text actor : String)
  | refund (amountMinor : Int) (reason actor : String)
  | event (providerName : String) (notice : Event)
  | balance

def CreditCall.program (tenantID invoiceID : String) : CreditCall → Service Unit
  | .note amountMinor reason text actor =>
    (issueCreditNote tenantID invoiceID amountMinor reason text actor).ignore
  | .refund amountMinor reason actor =>
    (refundPayment tenantID invoiceID amountMinor reason actor).ignore
  | .event providerName notice => (applyRefundEvent providerName notice).ignore
  | .balance => (takeBalance tenantID invoiceID).ignore

/-- Anything that leaves the invoice its credits, its total and its credit notes, takes no payment
back and takes no invoice away. -/
structure CreditsElsewhere (invoiceID : String) where
  change : World → World
  credited : ∀ world, (change world).creditedOn invoiceID = world.creditedOn invoiceID
  total : ∀ world, (change world).totalOn invoiceID = world.totalOn invoiceID
  noted : ∀ world, (change world).notedOn invoiceID = world.notedOn invoiceID
  paid : ∀ world, 0 ≤ world.paidOn invoiceID → 0 ≤ (change world).paidOn invoiceID
  invoices : ∀ world, ∀ inv ∈ world.invoices.rows,
    ∃ found ∈ (change world).invoices.rows, found.origin = inv.origin

inductive CreditMove (tenantID invoiceID : String)
  | call (kind : CreditCall)
  | advance (thread : Nat)
  | elsewhere (aside : CreditsElsewhere invoiceID)

abbrev Creditors := Watched Stmt BillingError Unit World Int

section

variable {creditors : Creditors} {base : Int}

def CreditMove.move : CreditMove tenantID invoiceID → Move Stmt BillingError Unit World
  | .call kind => .spawn (kind.program tenantID invoiceID)
  | .advance thread => .advance thread
  | .elsewhere aside => .disturb aside.change

def CreditMove.play (move : CreditMove tenantID invoiceID) (creditors : Creditors) : Creditors :=
  creditors.play (creditLookout invoiceID) move.move

/-- No other credit came between the read of the invoice and the credit written on it. -/
def CreditMove.Unraced (move : CreditMove tenantID invoiceID) (creditors : Creditors) : Prop :=
  creditors.Issues (creditLookout invoiceID).UpToDate move.move

def Evened (_ : Except BillingError Unit) (brought : Int) : Prop := brought = 0

theorem ignore_heeds {Value : Type} {program : Service Value}
    (heeds : program.Accounts invoiceID none 0 world) :
    program.ignore.Heeds (crediting invoiceID) (fun answer _ brought _ => Evened answer brought)
      none 0 world :=
  heeds.andThen (fun _ _ _ _ held => held) fun _ _ _ held => held

theorem CreditCall.heeds (kind : CreditCall) :
    (kind.program tenantID invoiceID).Heeds (crediting invoiceID)
      (fun answer _ brought _ => Evened answer brought) none 0 world := by
  cases kind with
  | note => exact ignore_heeds issueCreditNote_heeds
  | refund => exact ignore_heeds refundPayment_heeds
  | event => exact ignore_heeds applyRefundEvent_heeds
  | balance => exact ignore_heeds takeBalance_heeds

theorem creditors_play (sound : creditors.Sound (crediting invoiceID) Evened base)
    (move : CreditMove tenantID invoiceID) (unraced : move.Unraced creditors) :
    (move.play creditors).Sound (crediting invoiceID) Evened base := by
  cases move with
  | call kind => exact sound.spawn kind.heeds
  | advance => exact (sound.advance unraced).1
  | elsewhere aside =>
    refine sound.disturb ⟨?_, aside.paid _ sound.valid.paid⟩ (aside.invoices _) ?_
    · rw [aside.credited, aside.total]
      exact sound.valid.credited
    change World.creditedOn _ _ - World.notedOn _ _ - _ = _
    rw [aside.credited, aside.noted]
    rfl

/-- The invoice is never credited with more than its total, and when all calls have returned, with
its credit notes and the balance applied to it. -/
theorem credits_accounted (tenantID invoiceID : String) (world : World) (applied : Int)
    (within : world.creditedOn invoiceID ≤ world.totalOn invoiceID)
    (paid : 0 ≤ world.paidOn invoiceID)
    (accounted : world.creditedOn invoiceID = world.notedOn invoiceID + applied)
    (moves : List (CreditMove tenantID invoiceID))
    (unraced : Every CreditMove.play CreditMove.Unraced (Watched.opened world applied) moves) :
    (lastState CreditMove.play (Watched.opened world applied) moves).pool.state.creditedOn
        invoiceID ≤
      (lastState CreditMove.play (Watched.opened world applied) moves).pool.state.totalOn
        invoiceID ∧
    ((lastState CreditMove.play (Watched.opened world applied) moves).pool.quiescent = true →
      (lastState CreditMove.play (Watched.opened world applied) moves).pool.state.creditedOn
          invoiceID =
        (lastState CreditMove.play (Watched.opened world applied) moves).pool.state.notedOn
            invoiceID + (lastState CreditMove.play (Watched.opened world applied) moves).mark) := by
  have start : (Watched.opened world applied : Creditors).Sound (crediting invoiceID) Evened
      ((crediting invoiceID).amount applied world) :=
    Watched.sound_opened ⟨within, paid⟩
  have sound := lastState_of_invariant _ start unraced
    fun move creditors sound unraced => creditors_play sound move unraced
  refine ⟨sound.valid.credited, fun quiescent => ?_⟩
  have even := sound.even quiescent fun _ _ held => held
  change World.creditedOn _ _ - World.notedOn _ _ - _ = World.creditedOn _ _ - World.notedOn _ _ - _
    at even
  omega

instance CreditMove.decidableUnraced (move : CreditMove tenantID invoiceID)
    (creditors : Creditors) : Decidable (move.Unraced creditors) :=
  inferInstanceAs (Decidable (creditors.Issues (creditLookout invoiceID).UpToDate move.move))

end

def creditedInvoice : Invoice :=
  { id := "inv", tenantID := "acme", accountID := "acct", subscriptionID := ""
    number := "INV-000001", state := .issued, currency := "USD", subtotalMinor := 500
    totalMinor := 500, periodStart := 0, periodEnd := 0, issuedAt := 0, dueAt := 1000
    createdAt := 0, updatedAt := 0 }

def creditShop : World where
  accounts := ⟨[{ id := "acct", tenantID := "acme", currency := "USD", balanceMinor := 150
                  createdAt := 0, updatedAt := 0 }], by simp⟩
  invoices := ⟨[creditedInvoice], by simp⟩
  now := 1000
  names := Supply.outgrow

def creditSteps (thread count : Nat) : List (CreditMove "acme" "inv") :=
  List.replicate count (.advance thread)

def creditsInTurn : List (CreditMove "acme" "inv") :=
  [.call (.note 200 .adjustment "" "ops"), .call .balance,
    .call (.note 150 .adjustment "" "ops")] ++ creditSteps 0 20 ++ creditSteps 1 20 ++
    creditSteps 2 20

theorem credits_in_turn_accounted :
    (lastState CreditMove.play (Watched.opened creditShop 0) creditsInTurn).mark = 150 ∧
      (lastState CreditMove.play (Watched.opened creditShop 0) creditsInTurn).pool.state.creditedOn
          "inv" =
        (lastState CreditMove.play (Watched.opened creditShop 0) creditsInTurn).pool.state.notedOn
            "inv" +
          (lastState CreditMove.play (Watched.opened creditShop 0) creditsInTurn).mark := by
  have accounted := credits_accounted "acme" "inv" creditShop 0 (by decide +kernel)
    (by decide +kernel) (by decide +kernel) creditsInTurn (by decide +kernel)
  exact ⟨by decide +kernel, accounted.2 (by decide +kernel)⟩

def racedNotes : List (CreditMove "acme" "inv") :=
  [.call (.note 300 .adjustment "" "ops"), .call (.note 300 .adjustment "" "ops")] ++
    creditSteps 0 2 ++ creditSteps 1 2 ++ creditSteps 0 20 ++ creditSteps 1 20

theorem raced_notes_exceed_total : creditShop.creditedOn "inv" = creditShop.notedOn "inv" ∧
      (lastState CreditMove.play (Watched.opened creditShop 0) racedNotes).pool.quiescent = true ∧
      (lastState CreditMove.play (Watched.opened creditShop 0) racedNotes).pool.state.creditedOn
        "inv" = 600 ∧
      (lastState CreditMove.play (Watched.opened creditShop 0) racedNotes).pool.state.totalOn
        "inv" = 500 := by
  decide +kernel

end Cashp
