import Cashp.Billing.LifecycleRuns

/-!
Which subscription the renewal pass bills: one it does not renew gets neither an invoice nor a
charge.
-/

namespace Cashp

open Kit Kit.Program

def NotBilled (subID : String) {Reply : Type} (stmt : Stmt Reply) (world : World) : Prop :=
  (∀ inv ∈ (execute stmt world).2.invoices.rows, inv.subscriptionID = subID →
    ∃ old ∈ world.invoices.rows, old.id = inv.id ∧ old.subscriptionID = subID) ∧
  ∀ attempt ∈ (execute stmt world).2.attempts.rows,
    ∀ inv ∈ (execute stmt world).2.invoices.rows, inv.id = attempt.invoiceID →
      inv.subscriptionID = subID → ∃ old ∈ world.attempts.rows, old.id = attempt.id

def Raised (subID invoiceID : String) (world : World) : Prop :=
  ∃ inv ∈ world.invoices.rows, inv.id = invoiceID ∧ inv.subscriptionID ≠ subID

variable {attempt : PaymentAttempt}

section

variable {subID invoiceID : String} {world : World} {Reply : Type} {stmt : Stmt Reply}

theorem invoice_of_origins (same : Area.Same .draft world (execute stmt world).2) {inv : Invoice}
    (member : inv ∈ (execute stmt world).2.invoices.rows) :
    ∃ old ∈ world.invoices.rows, old.origin = inv.origin := by
  have listed : inv.origin ∈ (execute stmt world).2.invoices.rows.map Invoice.origin :=
    List.mem_map_of_mem member
  rw [show (execute stmt world).2.invoices.rows.map Invoice.origin = _ from same] at listed
  exact List.mem_map.mp listed

theorem attempt_of_origins (same : Area.Same .charge world (execute stmt world).2)
    (member : attempt ∈ (execute stmt world).2.attempts.rows) :
    ∃ old ∈ world.attempts.rows, old.origin = attempt.origin := by
  have listed : attempt.origin ∈ (execute stmt world).2.attempts.rows.map PaymentAttempt.origin :=
    List.mem_map_of_mem member
  simp_all [Area.Same]

theorem notBilled_elsewhere (drafts : Area.draft ∉ stmt.writes)
    (charges : Area.charge ∉ stmt.writes) :
    NotBilled subID stmt world := by
  refine ⟨fun inv member mine => ?_, fun attempt member _ _ _ _ => ?_⟩
  · obtain ⟨old, present, same⟩ :=
      invoice_of_origins (execute_same stmt world .draft drafts) member
    grind [Invoice.origin]
  · obtain ⟨old, present, same⟩ :=
      attempt_of_origins (execute_same stmt world .charge charges) member
    have ids : old.origin.id = attempt.origin.id := by rw [same]
    exact ⟨old, present, ids⟩

theorem mem_attempts_insert {row : PaymentAttempt}
    (member : row ∈ (execute (Stmt.attempt (.insert attempt)) world).2.attempts.rows) :
    row ∈ world.attempts.rows ∨ row = attempt := by
  change row ∈ (Stmt.execute _ _).2.attempts.rows at member
  simp only [Stmt.execute, AttemptStmt.execute] at member
  cases stored : world.attempts.insert attempt with
  | none =>
    rw [stored] at member
    exact Or.inl member
  | some =>
    rw [stored] at member
    simpa [Table.insert_rows stored] using member

theorem notBilled_draft {inv : Invoice} (other : inv.subscriptionID ≠ subID) :
    NotBilled subID (.invoice (.insert inv)) world := by
  refine ⟨fun row member same => ?_, fun attempt member _ _ _ _ => ⟨attempt, member, rfl⟩⟩
  rcases mem_invoices_insert member with kept | rfl
  · exact ⟨row, kept, rfl, same⟩
  · exact absurd same other

theorem notBilled_charge (raised : Raised subID attempt.invoiceID world) :
    NotBilled subID (.attempt (.insert attempt)) world := by
  refine ⟨fun inv member mine => ⟨inv, member, rfl, mine⟩,
    fun row member inv there sameID mine => ?_⟩
  rcases mem_attempts_insert member with kept | rfl
  · exact ⟨row, kept, rfl⟩
  obtain ⟨other, present, otherID, foreign⟩ := raised
  have same : other = inv :=
    Table.eq_of_column (List.mem_singleton_self Invoice.id) present there
      (otherID.trans sameID.symm)
  rw [same] at foreign
  exact absurd mine foreign

theorem raised_execute (raised : Raised subID invoiceID world) :
    Raised subID invoiceID (execute stmt world).2 := by
  obtain ⟨inv, member, sameID, foreign⟩ := raised
  obtain ⟨later, there, origin⟩ := invoice_persists stmt member
  grind [Raised, Invoice.origin]

theorem raised_run {Value : Type} (program : Service Value)
    (raised : Raised subID invoiceID world) : Raised subID invoiceID (program.run world).2 := by
  induction program generalizing world with
  | done | fail => exact raised
  | step stmt rest ih => exact ih _ (raised_execute raised)

end

section

variable {subID : String} {world : World}
variable {Value : Type} {invoiceID tenantID : String} {sub : Subscription} {inv : Invoice}
variable {amount attemptNumber : Int} {program : Service Value} {key : String}

theorem along_unbilled (uses : program.Avoids [.draft, .charge]) :
    program.Along (NotBilled subID) (fun _ _ => True) world :=
  along_of_uses uses (fun _ => trivial) (fun _ _ _ _ _ => trivial) fun _ _ within =>
    ⟨notBilled_elsewhere (within.avoids (by decide)) (within.avoids (by decide)), trivial⟩

theorem returns_unbilled (uses : program.Avoids [.draft, .charge]) :
    program.Along (NotBilled subID) (Returns fun _ _ => True) world :=
  (along_unbilled uses).returns fun _ _ _ fine => fine

theorem raised_of_run {later : World} {answer : Except BillingError Value}
    (raised : Raised subID invoiceID world) (ran : program.run world = (answer, later)) :
    Raised subID invoiceID later := by
  have kept := raised_run program raised
  rwa [ran] at kept

theorem createDraft_unbilled {otherID : String} {periodStart periodEnd : Int}
    (other : otherID ≠ subID) :
    (createDraft tenantID otherID periodStart periodEnd).Along (NotBilled subID)
      (Returns fun draft later => Raised subID draft.id later) world := by
  unfold createDraft
  refine (returns_unbilled (ensureAccount_within (by decide))).andThen
    fun buyer _ _ _ => ?_
  refine (returns_unbilled unix_within).andThen fun now _ _ _ => ?_
  refine (returns_unbilled (by apply newID_within; decide)).andThen fun id _ _ _ => ?_
  refine (returns_unbilled invoiceCurrency_within).andThen fun currency _ _ _ => ?_
  refine along_then (notBilled_draft other) ?_
  refine along_refuse_returns.andThen fun _ _ _ stored => ?_
  obtain ⟨rfl, stored⟩ := stored
  exact ⟨_, mem_insert_invoice (by simpa using stored), rfl, other⟩

theorem generateSubscriptionInvoice_unbilled (other : sub.id ≠ subID) :
    (generateSubscriptionInvoice sub).Along (NotBilled subID)
      (Returns fun inv later => Raised subID inv.id later) world := by
  unfold generateSubscriptionInvoice
  refine (returns_unbilled plan_within).andThen fun target _ _ _ => ?_
  refine (createDraft_unbilled other).andThen fun draft _ _ raised => ?_
  refine (returns_unbilled (addSubscriptionLine_within (by decide))).andThen
    fun _ _ added _ => ?_
  refine (returns_unbilled pendingRollups_within).andThen fun rollups _ listed _ => ?_
  refine (returns_unbilled (billRollups_within (by decide))).andThen
    fun billed _ charged _ => ?_
  refine (returns_unbilled (by apply markRollupsInvoiced_within; decide)).andThen
    fun _ _ marked _ => ?_
  have kept := raised_of_run (raised_of_run (raised_of_run (raised_of_run raised added) listed)
    charged) marked
  refine (returns_unbilled (issueInvoice_within (by decide))).andThen
    fun issued _ sent _ => ?_
  refine (returns_unbilled (applyAccountBalance_within (by decide))).returns
    fun inv later credited _ => ?_
  rw [applyAccountBalance_id credited, issueInvoice_id sent]
  exact raised_of_run (raised_of_run kept sent) credited

theorem insertAttempt_unbilled (raised : Raised subID attempt.invoiceID world) :
    (insertAttempt attempt).Along (NotBilled subID) (fun _ _ => True) world := by
  unfold insertAttempt
  refine along_then (notBilled_charge raised) ?_
  split
  · trivial
  · exact along_unbilled (by grind)

theorem chargeThrough_unbilled {record : ProviderRecord} {method : PaymentMethod}
    (raised : Raised subID inv.id world) :
    (chargeThrough record inv method key amount attemptNumber).Along (NotBilled subID)
      (Returns fun _ _ => True) world := by
  unfold chargeThrough
  refine (returns_unbilled (by apply newID_within; decide)).andThen fun id _ drawn _ => ?_
  refine (returns_unbilled unix_within).andThen fun now _ clock _ => ?_
  have kept := raised_of_run (raised_of_run raised drawn) clock
  refine (insertAttempt_unbilled kept).attempted fun answer _ _ _ => ?_
  cases answer with
  | error => trivial
  | ok =>
    refine (along_unbilled driverInstance_within).attempted fun built _ _ _ => ?_
    cases built with
    | error => exact returns_unbilled (by apply refuseAttempt_within; decide)
    | ok => exact returns_unbilled (chargeWith_within (by decide))

theorem chargeInOrder_unbilled {methods : List PaymentMethod}
    {failoverAllowed : Bool} {records : List ProviderRecord} {index : Nat} {last : ChargeOutcome}
    (raised : Raised subID inv.id world) :
    (chargeInOrder tenantID key inv methods amount failoverAllowed records index attemptNumber
      last).Along (NotBilled subID) (Returns fun _ _ => True) world := by
  induction records generalizing world index attemptNumber last with
  | nil => trivial
  | cons record rest ih =>
    unfold chargeInOrder
    split
    · exact ih raised
    refine (chargeThrough_unbilled raised).andThen fun outcome _ ran _ => ?_
    split
    · exact returns_unbilled (bookCharge_within (by decide))
    split
    · trivial
    · exact ih (raised_of_run raised ran)

theorem chargeFresh_unbilled (raised : Raised subID invoiceID world) :
    (chargeFresh tenantID invoiceID key).Along (NotBilled subID) (Returns fun _ _ => True)
      world := by
  unfold chargeFresh
  refine (returns_unbilled invoice_within).andThen fun inv _ read _ => ?_
  refine along_refuse_returns.andThen fun _ _ owed _ => ?_
  refine along_refuse_returns.andThen fun _ _ issued _ => ?_
  refine (returns_unbilled listPaymentMethods_within).andThen fun methods _ listed _ => ?_
  refine along_refuse_returns.andThen fun _ _ payable _ => ?_
  refine (returns_unbilled enabledProviders_within).andThen fun records _ ranked _ => ?_
  refine along_refuse_returns.andThen fun _ _ offered _ => ?_
  refine (returns_unbilled nextAttemptNumber_within).andThen fun number _ counted _ => ?_
  refine (returns_unbilled setting_within).andThen fun mode _ asked _ => ?_
  refine chargeInOrder_unbilled ?_
  rw [invoice_id_of_ok read]
  have early := raised_of_run (raised_of_run (raised_of_run raised read) owed) issued
  have middle := raised_of_run (raised_of_run (raised_of_run early listed) payable) ranked
  exact raised_of_run (raised_of_run (raised_of_run middle offered) counted) asked

theorem chargeInvoice_unbilled (raised : Raised subID invoiceID world) :
    (chargeInvoice tenantID invoiceID key).Along (NotBilled subID) (Returns fun _ _ => True)
      world := by
  unfold chargeInvoice
  refine along_refuse_returns.andThen fun _ _ named _ => ?_
  refine (along_unbilled attemptByKey_within).attempted fun answer _ looked _ => ?_
  cases answer with
  | ok => exact returns_unbilled (by grind)
  | error =>
    simp only
    split
    · exact chargeFresh_unbilled (raised_of_run (raised_of_run raised named) looked)
    · trivial

theorem billPeriod_unbilled (other : sub.id ≠ subID) :
    (billPeriod sub).Along (NotBilled subID) (Returns fun _ _ => True) world := by
  unfold billPeriod
  refine (generateSubscriptionInvoice_unbilled other).andThen fun inv _ _ raised => ?_
  refine (returns_unbilled (by apply advanceRenewal_within; decide)).andThen
    fun advanced _ ran _ => ?_
  split
  · have kept := raised_of_run raised ran
    refine ((chargeInvoice_unbilled kept).imp fun _ _ _ => trivial).attempted fun _ _ _ _ => ?_
    trivial
  · trivial

theorem renewOne_unbilled {now : Int} (other : sub.id ≠ subID) :
    (renewOne sub now).Along (NotBilled subID) (Returns fun _ _ => True) world := by
  unfold renewOne
  refine (returns_unbilled (by apply convertTrial_within; decide)).andThen
    fun current _ converted _ => ?_
  have same := convertTrial_id converted
  split
  · trivial
  split
  · refine (returns_unbilled (by apply transition_within; decide)).andThen fun _ _ _ _ => ?_
    trivial
  refine (returns_unbilled (by apply promotePlan_within; decide)).andThen
    fun promoted _ ran _ => billPeriod_unbilled ?_
  rw [promotePlan_id ran, same]
  exact other

end

def World.billingEnabled (world : World) : Bool :=
  match (enabled.run world).1 with
  | .ok on => on
  | .error _ => false

def renewAt (now : Int) (world : World) : World :=
  runRenewals.final { world with now := now }

def rebills (sub : Subscription) (world : World) : Bool :=
  decide (0 < sub.periodEnd ∧ sub.periodEnd ≤ world.now) && world.billingEnabled &&
    world.catalogue.plans.any fun plan => plan.id == sub.planID

def Stopped (sub : Subscription) (world : World) : Prop :=
  ∀ row ∈ world.subscriptions.rows, row.id = sub.id → row.tracked = sub.tracked

structure CancelledNow (sub : Subscription) : Prop where
  state : sub.state = .cancelled
  noPeriodEnd : sub.cancelAtPeriodEnd = false
  noPending : sub.pendingPlanID = ""

variable {subID : String} {sub : Subscription} {now : Int} {world : World}

theorem cancel_now {tenantID : String} {before start : World}
    (cancelled : (cancel tenantID subID true).run before = (.ok sub, start)) :
    sub ∈ start.subscriptions.rows ∧ CancelledNow sub := by
  unfold cancel at cancelled
  obtain ⟨seen, _, read, checks⟩ := ran_bind cancelled
  obtain ⟨rfl, member, matching⟩ := subscription_ok read
  obtain ⟨target, _, moved, timed⟩ := ran_bind checks
  obtain ⟨legal, rfl⟩ := moveOn_ok moved
  obtain ⟨now, _, clock, writes⟩ := ran_bind timed
  obtain ⟨-, rfl⟩ := Prod.mk.inj clock
  obtain ⟨_, middle, written, reread⟩ := ran_bind writes
  obtain ⟨rfl, stored, key⟩ := subscription_ok reread
  unfold updateSubscription requireRows at written
  rw [run_step] at written
  obtain ⟨-, rfl⟩ := run_refuse_passed written
  refine ⟨stored, ?_⟩
  obtain ⟨rfl, rfl⟩ := subscription_isRow.mp matching
  have changed := (guardedChange_lands
    (.cancel target now (if true = true then now else 0) (!true)) member).2
  have same := subscription_of_id stored changed (subscription_isRow.mp key).1
  rw [same]
  exact ⟨(nextSubscriptionState_cancelled legal).1, rfl, rfl⟩

theorem renewOne_stopped (cancelled : CancelledNow sub) (ended : sub.periodEnd ≤ now)
    (missing : (world.catalogue.plans.any fun plan => plan.id == sub.planID) = false) :
    (renewOne sub now).Along (NotBilled subID) (fun _ later => later = world) world := by
  have paid : convertTrial sub now = pure sub := by simp [convertTrial, cancelled.state]
  have settled : promotePlan sub now = pure sub := by simp [promotePlan, cancelled.noPending]
  have absent : (execute (Stmt.catalogue (.plan sub.planID)) world).1 = none := by
    refine List.find?_eq_none.mpr fun plan member => ?_
    simpa using List.any_eq_false.mp missing plan member
  unfold renewOne
  rw [paid]
  change Along _ _ (if now < sub.periodEnd then _ else _) world
  rw [if_neg (by omega), if_neg (by simp [cancelled.noPeriodEnd]), settled]
  change (billPeriod sub).Along _ _ world
  unfold billPeriod generateSubscriptionInvoice plan
  refine ⟨notBilled_elsewhere (by simp [Stmt.writes]) (by simp [Stmt.writes]), ?_⟩
  rw [absent]
  exact rfl

theorem stopped_of_renewal {other : Subscription} (known : world.Current other)
    (different : other.id ≠ sub.id) (idle : Stopped sub world) :
    Stopped sub ((renewOne other now).run world).2 := by
  have held : (renewOne other now).Along
      (Writes (fun _ old _ => old.id ≠ sub.id) fun _ _ => False)
      (Returns fun _ _ => True) world := by
    refine renewOne_along known fun _ old key _ _ => ?_
    rw [show old.id = other.id from congrArg Prod.fst key]
    exact different
  refine (held.keeps (Stopped sub) idle fun stmt world writes before new member sameID => ?_).run
  obtain ⟨_, writes⟩ := writes
  rcases writes new member with kept | ⟨_, ⟨old, _, key, _, foreign, _⟩ | opened⟩
  · exact before new kept sameID
  · exact absurd ((congrArg Prod.fst key).trans sameID) foreign
  · exact absurd opened.1 id

theorem renewEach_stopped {subs : List Subscription}
    (known : ∀ due ∈ subs, world.Current due) (idle : Stopped sub world)
    (mine : ∀ due ∈ subs, due.id = sub.id → CancelledNow due ∧ due.periodEnd ≤ now ∧
      (world.catalogue.plans.any fun plan => plan.id == due.planID) = false) :
    (renewEach now subs).Along (NotBilled sub.id) (fun _ later => Stopped sub later) world := by
  induction subs generalizing world with
  | nil => exact idle
  | cons due rest ih =>
    unfold renewEach
    have here : due ∈ due :: rest := List.mem_cons_self
    have held : (renewOne due now).Along (NotBilled sub.id)
        (fun _ later => Stopped sub later) world := by
      by_cases same : due.id = sub.id
      · obtain ⟨cancelled, ended, missing⟩ := mine due here same
        exact (renewOne_stopped cancelled ended missing).imp fun _ _ same => same ▸ idle
      · exact along_iff.mpr ⟨(renewOne_unbilled same).meets,
          stopped_of_renewal (known due here) same idle⟩
    refine held.attempted fun answer later ran idle => ih (fun other member => ?_) idle
      fun other member => ?_
    · have kept := current_run (renewOne due now) (known other (List.mem_cons_of_mem _ member))
      rwa [ran] at kept
    have steady := (run_steady (renewOne due now) world).catalogue
    rw [ran] at steady
    rw [steady]
    exact mine other (List.mem_cons_of_mem _ member)

theorem enabled_run (world : World) : enabled.run world = (.ok world.billingEnabled, world) := by
  obtain ⟨on, ran⟩ : ∃ on, enabled.run world = (.ok on, world) :=
    settingBool_run "billing_enabled" false world
  rw [World.billingEnabled, ran]

theorem CancelledNow.of_tracked {first second : Subscription}
    (same : first.tracked = second.tracked)
    (cancelled : CancelledNow second) : CancelledNow first where
  state := (state_of_tracked same).trans cancelled.state
  noPeriodEnd := (congrArg Subscription.cancelAtPeriodEnd same).trans cancelled.noPeriodEnd
  noPending := (congrArg Subscription.pendingPlanID same).trans cancelled.noPending

theorem runRenewals_stopped (cancelled : CancelledNow sub)
    (idle : Stopped sub world) (fine : rebills sub world = false) :
    runRenewals.Along (NotBilled sub.id) (fun _ later => Stopped sub later) world := by
  unfold runRenewals
  refine (along_unbilled enabled_within).onward (enabled_run world) ?_
  by_cases on : world.billingEnabled = true
  · rw [if_pos on]
    have clock : unix.run world = (.ok world.now, world) := rfl
    have due : (dueSubscriptions world.now).run world =
      (.ok (execute (Stmt.subscription (.due world.now)) world).1, world) := rfl
    refine (along_unbilled unix_within).onward clock ?_
    refine (along_unbilled dueSubscriptions_within).onward due ?_
    refine renewEach_stopped (fun due member => ?_) idle fun due member sameID => ?_
    · exact current_of_mem (mem_due.mp member).1
    have listed := mem_due.mp member
    have same := idle due listed.1 sameID
    have sameEnd : due.tracked.periodEnd = sub.tracked.periodEnd := by rw [same]
    have samePlan : due.tracked.planID = sub.tracked.planID := by rw [same]
    change due.periodEnd = sub.periodEnd at sameEnd
    change due.planID = sub.planID at samePlan
    simp only [Subscription.isDue, Bool.and_eq_true, decide_eq_true_eq, sameEnd] at listed
    refine ⟨cancelled.of_tracked same, sameEnd ▸ listed.2.1.2, ?_⟩
    rw [samePlan]
    have elapsed : decide (0 < sub.periodEnd ∧ sub.periodEnd ≤ world.now) = true := by
      simpa using listed.2.1
    simpa [rebills, elapsed, on] using fine
  · rw [if_neg on]
    exact idle

/-- After an immediate cancellation no renewal pass bills the subscription, unless its period has
ended by then. -/
theorem cancelled_subscription_not_billed (tenantID subID : String) (before start : World)
    (sub : Subscription) (clocks : List Int)
    (cancelled : (cancel tenantID subID true).run before = (.ok sub, start))
    (fine : Every renewAt (fun now world => rebills sub { world with now := now } = false) start
      clocks) :
    Every renewAt (fun now world =>
      runRenewals.Meets (NotBilled sub.id) { world with now := now }) start clocks := by
  obtain ⟨member, facts⟩ := cancel_now cancelled
  have idle : Stopped sub start := by
    intro row present sameID
    rw [subscription_of_id present member sameID]
  refine every_of_invariant (Stopped sub) idle fine fun now world idle fine => ?_
  have held : runRenewals.Along (NotBilled sub.id) (fun _ later => Stopped sub later)
      { world with now := now } := runRenewals_stopped facts idle fine
  exact ⟨held.meets, held.run⟩

def billingShop : World :=
  { mixedShop with
    catalogue := { plans := [freePlan, paidPlan], settings := [("billing_enabled", "true")] } }

def activeShop : World :=
  (transition pendingSubscription .paymentAdded).final ((subscribe "acme" "paid").final billingShop)

def cancelledSubscription : Subscription :=
  { pendingSubscription with
    state := .cancelled, cancelledAt := 1000, endedAt := 1000, version := 3 }

def cancelledShop : World := (cancel "acme" "ff" true).final activeShop

theorem cancelledShop_created :
    (cancel "acme" "ff" true).run activeShop = (.ok cancelledSubscription, cancelledShop) := rfl

theorem cancelled_subscription_not_billed_in_period :
    Every renewAt (fun now world => runRenewals.Meets (NotBilled "ff") { world with now := now })
      cancelledShop [2000, 2600000] :=
  cancelled_subscription_not_billed "acme" "ff" activeShop cancelledShop cancelledSubscription
    [2000, 2600000] cancelledShop_created ⟨by decide, by decide, trivial⟩

theorem uninvoiced_final {Value : Type} {program : Service Value}
    (held : program.Meets (NotBilled subID) world)
    (none : ∀ inv ∈ world.invoices.rows, inv.subscriptionID ≠ subID) :
    ∀ inv ∈ (program.final world).invoices.rows, inv.subscriptionID ≠ subID := by
  induction program generalizing world with
  | done | fail => exact none
  | step stmt rest ih =>
    refine ih _ held.2 fun inv member mine => ?_
    obtain ⟨old, present, _, same⟩ := held.1.1 inv member mine
    exact none old present same

theorem cancelled_subscription_billed_again :
    (cancel "acme" "ff" true).run activeShop = (.ok cancelledSubscription, cancelledShop) ∧
      ¬ Every renewAt (fun now world =>
        runRenewals.Meets (NotBilled "ff") { world with now := now }) cancelledShop [3000000] := by
  refine ⟨cancelledShop_created, fun held => ?_⟩
  have none := uninvoiced_final held.1 (by decide)
  revert none
  decide

end Cashp
