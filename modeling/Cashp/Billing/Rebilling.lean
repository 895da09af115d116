import Cashp.Billing.Calendar
import Cashp.Billing.Lifecycle
import Cashp.Billing.Transitions
import Cashp.Kit.Record

/-!
How often renewal passes charge a period (`dunning.go`, `subscriptions.go`) beside other writers. A
renewal issues the invoice first and moves the subscription into the next period afterwards.
-/

namespace Cashp

open Kit Kit.Program

structure PlanCharge where
  invoiceID : String
  start : Int
  stop : Int
  deriving DecidableEq

def Invoice.isIssuedFor (subID : String) (inv : Invoice) : Bool :=
  inv.subscriptionID == subID && inv.state != .draft

def InvoiceLine.isPlanLineOf (inv : Invoice) (line : InvoiceLine) : Bool :=
  line.isOf inv.id inv.tenantID && line.kind == .subscription

def World.planCharges (world : World) (subID : String) : List PlanCharge :=
  (world.invoices.select (Invoice.isIssuedFor subID)).flatMap fun inv =>
    (world.lines.select (InvoiceLine.isPlanLineOf inv)).map fun line =>
      ⟨inv.id, line.linePeriodStart, line.linePeriodEnd⟩

def World.invoicesCharging (world : World) (subID : String) (start stop : Int) : List Invoice :=
  world.invoices.select fun inv => decide (⟨inv.id, start, stop⟩ ∈ world.planCharges subID)

def World.periodOf (world : World) (subID : String) : Option (Int × Int) :=
  (world.subscriptions.find fun sub => sub.id == subID).map fun sub =>
    (sub.periodStart, sub.periodEnd)

inductive BillingEvent
  | charged
  | advanced
  deriving DecidableEq

section

variable (subID : String) {Reply : Type} (stmt : Stmt Reply)

def newCharges (world : World) : List PlanCharge :=
  ((execute stmt world).2.planCharges subID).filter fun charge =>
    decide (charge ∉ world.planCharges subID)

def movesPeriod (world : World) : Bool :=
  match stmt with
  | .subscription (.update (.advance ..) id tenantID version) =>
    id == subID && world.subscriptions.rows.any (Subscription.isVersion id tenantID version)
  | _ => false

def billingEntry (world : World) : Option BillingEvent :=
  if newCharges subID stmt world ≠ [] then some .charged
  else if movesPeriod subID stmt world then some .advanced
  else none

/-- The plan is charged for the period the subscription is in, and not again before the
subscription has moved on. -/
def ChargesInTurn (events : List BillingEvent) (world : World) : Prop :=
  ∀ charge ∈ newCharges subID stmt world,
    world.periodOf subID = some (charge.start, charge.stop) ∧ events.getLast? ≠ some .charged

instance (events : List BillingEvent) (world : World) :
    Decidable (ChargesInTurn subID stmt events world) :=
  inferInstanceAs (Decidable (∀ charge ∈ newCharges subID stmt world, _))

end

structure Outage where
  failure : BillingError
  stops : Subscription → Option Nat

def Outage.applied (outage : Outage) (sub : Subscription) (renewal : Service Unit) : Service Unit :=
  match outage.stops sub with
  | none => renewal
  | some count => renewal.stopAfter outage.failure count

def renewEachDespite (outage : Outage) (now : Int) : List Subscription → Service Unit
  | [] => pure ()
  | sub :: rest => do
    let _ ← (outage.applied sub (renewOne sub now)).attempt
    renewEachDespite outage now rest

def runRenewalsDespite (outage : Outage) : Service Unit := do
  if ← enabled then
    let now ← unix
    let subs ← dueSubscriptions now
    renewEachDespite outage now subs
  else
    pure ()

inductive BillingJob
  | renewals (outage : Outage)
  | changePlan (tenantID toPlanID : String)
  | cancel (tenantID subID : String) (immediate : Bool)
  | resume (tenantID subID : String)

def BillingJob.program : BillingJob → Service Unit
  | .renewals outage => runRenewalsDespite outage
  | .changePlan tenantID toPlanID => (Cashp.changePlan tenantID toPlanID).ignore
  | .cancel tenantID subID immediate => (Cashp.cancel tenantID subID immediate).ignore
  | .resume tenantID subID => (Cashp.resume tenantID subID).ignore

structure BillingAside (subID : String) where
  change : World → World
  subscriptions : ∀ world, (change world).subscriptions = world.subscriptions
  charges : ∀ world, (change world).planCharges subID = world.planCharges subID

inductive BillingMove (subID : String)
  | call (job : BillingJob)
  | advance (thread : Nat)
  | elsewhere (aside : BillingAside subID)

abbrev BillingRun := Chronicle Stmt BillingError Unit World BillingEvent

namespace BillingMove

variable {subID : String}

def move : BillingMove subID → Move Stmt BillingError Unit World
  | .call job => .spawn job.program
  | .advance thread => .advance thread
  | .elsewhere aside => .disturb aside.change

def play (step : BillingMove subID) (run : BillingRun) : BillingRun :=
  run.play (billingEntry subID) step.move

def InTurn (step : BillingMove subID) (run : BillingRun) : Prop :=
  run.Issues (ChargesInTurn subID) step.move

instance (step : BillingMove subID) (run : BillingRun) : Decidable (step.InTurn run) :=
  inferInstanceAs (Decidable (run.Issues (ChargesInTurn subID) step.move))

end BillingMove

section

variable {subID invoiceID : String} {world later : World} {charge : PlanCharge} {Reply : Type}

theorem mem_planCharges : charge ∈ world.planCharges subID ↔
    ∃ inv ∈ world.invoices.rows, inv.isIssuedFor subID = true ∧
      ∃ line ∈ world.lines.rows, line.isPlanLineOf inv = true ∧
        charge = ⟨inv.id, line.linePeriodStart, line.linePeriodEnd⟩ := by
  simp only [World.planCharges, Table.select, List.mem_flatMap, List.mem_filter, List.mem_map,
    and_assoc, eq_comm]

theorem planCharges_of_same (invoices : later.invoices = world.invoices)
    (lines : later.lines = world.lines) : later.planCharges subID = world.planCharges subID := by
  unfold World.planCharges
  rw [invoices, lines]

theorem charges_of_rows
    (invoices : ∀ inv ∈ later.invoices.rows, inv ∈ world.invoices.rows ∨ inv.id = invoiceID)
    (lines : ∀ line ∈ later.lines.rows, line ∈ world.lines.rows ∨ line.invoiceID = invoiceID)
    (member : charge ∈ later.planCharges subID) :
    charge ∈ world.planCharges subID ∨ charge.invoiceID = invoiceID := by
  obtain ⟨inv, present, issued, line, listed, own, rfl⟩ := mem_planCharges.mp member
  rcases invoices inv present with stored | aimed
  · rcases lines line listed with written | aimed
    · exact .inl (mem_planCharges.mpr ⟨inv, stored, issued, line, written, own, rfl⟩)
    · simp only [InvoiceLine.isPlanLineOf, InvoiceLine.isOf, Bool.and_eq_true, beq_iff_eq] at own
      exact .inr (own.1.1.symm.trans aimed)
  · exact .inr aimed

theorem mem_lines_insert {line row : InvoiceLine}
    (member : row ∈ (execute (Stmt.line (.insert line)) world).2.lines.rows) :
    row ∈ world.lines.rows ∨ row = line := by
  change row ∈ (Stmt.execute _ _).2.lines.rows at member
  simp only [Stmt.execute, LineStmt.execute] at member
  cases stored : world.lines.insert line with
  | none =>
    rw [stored] at member
    exact .inl member
  | some =>
    rw [stored] at member
    simpa [Table.insert_rows stored] using member

theorem planCharges_execute (subID : String) (stmt : Stmt Reply) (world : World) :
    ∃ invoiceID, ∀ charge ∈ (execute stmt world).2.planCharges subID,
      charge ∈ world.planCharges subID ∨ charge.invoiceID = invoiceID := by
  have kept (outside : Area.invoice ∉ stmt.writes ∧ Area.line ∉ stmt.writes) :
      ∃ invoiceID, ∀ charge ∈ (execute stmt world).2.planCharges subID,
        charge ∈ world.planCharges subID ∨ charge.invoiceID = invoiceID := by
    refine ⟨"", fun charge member => .inl ?_⟩
    rwa [planCharges_of_same (execute_same stmt world .invoice outside.1)
      (execute_same stmt world .line outside.2)] at member
  cases stmt with
  | invoice stmt =>
    cases stmt with
    | byID | openBefore => exact kept (by simp [Stmt.writes, InvoiceStmt.writes])
    | insert inv =>
      refine ⟨inv.id, fun charge => charges_of_rows (fun row member => ?_) fun _ => .inl⟩
      exact (mem_invoices_insert member).imp_right (congrArg Invoice.id)
    | update change invoiceID =>
      refine ⟨invoiceID, fun charge => charges_of_rows (fun row member => ?_) fun _ => .inl⟩
      refine (Table.mem_of_assigned member).imp_right fun found => ?_
      obtain ⟨old, _, hit, same⟩ := found
      simp only [Invoice.isVersion, Invoice.isRow, Bool.and_eq_true, beq_iff_eq] at hit
      rw [same, change.apply_id, hit.1.1]
    | credit amountMinor now invoiceID =>
      refine ⟨invoiceID, fun charge => charges_of_rows (fun row member => ?_) fun _ => .inl⟩
      refine (Table.mem_of_assigned member).imp_right fun found => ?_
      obtain ⟨old, _, hit, same⟩ := found
      simp only [Invoice.isRow, Bool.and_eq_true, beq_iff_eq] at hit
      rw [same]
      exact hit.1
  | line stmt =>
    cases stmt with
    | ofInvoice => exact kept (by simp [Stmt.writes, LineStmt.writes])
    | insert line =>
      refine ⟨line.invoiceID, fun charge => charges_of_rows (fun _ => .inl) fun row member => ?_⟩
      exact (mem_lines_insert member).imp_right (congrArg InvoiceLine.invoiceID)
    | setTaxRate rateBPS invoiceID =>
      refine ⟨invoiceID, fun charge => charges_of_rows (fun _ => .inl) fun row member => ?_⟩
      refine (Table.mem_of_assigned member).imp_right fun found => ?_
      grind [InvoiceLine.isOf]
  | attempt stmt => cases stmt <;> exact kept (by simp [Stmt.writes, AttemptStmt.writes])
  | _ => exact kept (by grind)

theorem mem_newCharges {stmt : Stmt Reply} : charge ∈ newCharges subID stmt world ↔
    charge ∈ (execute stmt world).2.planCharges subID ∧ charge ∉ world.planCharges subID := by
  simp [newCharges]

end

variable {sub : Subscription}

section

variable {subID : String} {world : World} {Reply : Type}

def Stmt.Stays (subID : String) (stmt : Stmt Reply) : Prop :=
  match stmt with
  | .subscription (.update (.advance ..) id _ _) => id ≠ subID
  | .subscription (.insert sub) => sub.id ≠ subID
  | _ => True

theorem periodOf_of_same {later : World} (same : later.subscriptions = world.subscriptions) :
    later.periodOf subID = world.periodOf subID := by
  unfold World.periodOf
  rw [same]

theorem periodOf_of_mem (member : sub ∈ world.subscriptions.rows)
    (mine : sub.id = subID) : world.periodOf subID = some (sub.periodStart, sub.periodEnd) := by
  have found : world.subscriptions.find (fun other => other.id == subID) = some sub :=
    Table.find_unique (List.mem_singleton_self Subscription.id) member (by simpa using mine)
      fun other same => by rw [mine]; simpa using same
  rw [World.periodOf, found, Option.map_some]

theorem periodOf_update {matching : Subscription → Bool} {assign : Subscription → Subscription}
    {later : World} (rows : later.subscriptions.rows =
      world.subscriptions.rows.map (Table.assignWhere matching assign))
    (ids : ∀ sub, (assign sub).id = sub.id)
    (kept : ∀ sub ∈ world.subscriptions.rows, sub.id = subID → matching sub = true →
      (assign sub).periodStart = sub.periodStart ∧ (assign sub).periodEnd = sub.periodEnd) :
    later.periodOf subID = world.periodOf subID := by
  have same (sub : Subscription) : (Table.assignWhere matching assign sub).id = sub.id := by
    unfold Table.assignWhere
    split
    · exact ids sub
    · rfl
  unfold World.periodOf Table.find
  rw [rows, List.find?_map, Option.map_map]
  simp only [Function.comp_def, same]
  refine Option.map_congr fun sub stored => ?_
  grind [Table.assignWhere]

theorem isVersion_id {id tenantID : String} {version : Int}
    (hit : sub.isVersion id tenantID version = true) : sub.id = id := by
  simp only [Subscription.isVersion, Subscription.isRow, Bool.and_eq_true, beq_iff_eq] at hit
  exact hit.1.1

theorem periodOf_stays {stmt : Stmt Reply} (stays : stmt.Stays subID) (world : World) :
    (execute stmt world).2.periodOf subID = world.periodOf subID := by
  by_cases outside : Area.subscription ∈ stmt.writes
  · cases stmt with
    | subscription stmt =>
      cases stmt with
      | insert sub =>
        change (Stmt.execute _ _).2.periodOf subID = _
        simp only [Stmt.execute, SubscriptionStmt.execute]
        cases stored : world.subscriptions.insert sub with
        | none => rfl
        | some =>
          have other : sub.id ≠ subID := stays
          simp [World.periodOf, Table.find, Table.insert_rows stored, List.find?_append,
            other]
      | update change =>
        refine periodOf_update rfl change.apply_id fun sub _ mine hit => ?_
        cases change with
        | advance =>
          exact absurd ((isVersion_id hit).symm.trans mine) stays
        | _ => exact ⟨rfl, rfl⟩
      | setGrace =>
        exact periodOf_update rfl (fun _ => rfl) fun _ _ _ _ => ⟨rfl, rfl⟩
      | _ => rfl
    | invoice stmt => cases stmt <;> grind
    | line stmt => cases stmt <;> grind
    | attempt stmt => cases stmt <;> grind
    | _ => grind
  · exact periodOf_of_same (execute_same stmt world .subscription outside)

end

section

variable {subID : String} {world later : World} {events : List BillingEvent} {Reply : Type}
variable {stmt : Stmt Reply} {sub : Subscription} {stop now : Int}

def World.Renews (world : World) (subID : String) : Prop :=
  ∃ start stop, world.periodOf subID = some (start, stop) ∧ 0 < stop

/-- No period is charged on two invoices. What is charged lies in the past, the period the
subscription is in apart. -/
structure ChargedOnce (subID : String) (events : List BillingEvent) (world : World) : Prop where
  once : ∀ first ∈ world.planCharges subID, ∀ second ∈ world.planCharges subID,
    first.start = second.start → first.stop = second.stop → first.invoiceID = second.invoiceID
  past : ∀ charge ∈ world.planCharges subID, ∃ start stop,
    world.periodOf subID = some (start, stop) ∧ charge.start ≤ start ∧
      (events.getLast? ≠ some .charged → charge.start < start)
  dated : ∀ start stop, world.periodOf subID = some (start, stop) → 0 < stop → start < stop

structure World.Outlasts (subID : String) (before after : World) : Prop where
  known : ∀ sub, before.Current sub → after.Current sub
  renews : before.Renews subID → after.Renews subID

def renewing (subID : String) : Regime Stmt World BillingEvent where
  entry := billingEntry subID
  valid := ChargedOnce subID
  rely := World.Outlasts subID
  refl _ := ⟨fun _ known => known, id⟩
  trans _ _ _ early late :=
    ⟨fun sub known => late.known sub (early.known sub known), late.renews ∘ early.renews⟩
  allowed := ChargesInTurn subID

theorem renews_of_same (same : later.periodOf subID = world.periodOf subID)
    (renews : world.Renews subID) : later.Renews subID := by
  obtain ⟨start, stop, here, ends⟩ := renews
  exact ⟨start, stop, same.trans here, ends⟩

theorem not_movesPeriod (stays : stmt.Stays subID) : movesPeriod subID stmt world = false := by
  unfold movesPeriod
  split
  · have other : _ ≠ subID := stays
    simp [other]
  · rfl

theorem ChargedOnce.unchanged (valid : ChargedOnce subID events world)
    (charges : ∀ charge ∈ later.planCharges subID, charge ∈ world.planCharges subID)
    (period : later.periodOf subID = world.periodOf subID) : ChargedOnce subID events later := by
  refine ⟨fun first here second there => ?_, fun charge member => ?_, ?_⟩
  · exact valid.once first (charges first here) second (charges second there)
  · rw [period]
    exact valid.past charge (charges charge member)
  · rw [period]
    exact valid.dated

theorem ChargedOnce.charge (valid : ChargedOnce subID events world)
    (inTurn : ChargesInTurn subID stmt events world)
    (period : (execute stmt world).2.periodOf subID = world.periodOf subID)
    (added : newCharges subID stmt world ≠ []) :
    ChargedOnce subID (events ++ [.charged]) (execute stmt world).2 := by
  obtain ⟨invoiceID, aimed⟩ := planCharges_execute subID stmt world
  obtain ⟨sample, listed⟩ := List.exists_mem_of_ne_nil _ added
  have settled := (inTurn sample listed).2
  -- An old charge is for an earlier period than a new one.
  have apart {old new : PlanCharge} (before : old ∈ world.planCharges subID)
      (fresh : new ∈ newCharges subID stmt world) : old.start < new.start := by
    obtain ⟨start, stop, here, _, past⟩ := valid.past old before
    have current := (inTurn new fresh).1
    rw [here] at current
    cases current
    exact past settled
  have sorted {charge : PlanCharge} (member : charge ∈ (execute stmt world).2.planCharges subID) :
      charge ∈ world.planCharges subID ∨
        charge ∈ newCharges subID stmt world ∧ charge.invoiceID = invoiceID := by
    by_cases before : charge ∈ world.planCharges subID
    · exact .inl before
    · exact .inr ⟨mem_newCharges.mpr ⟨member, before⟩,
        (aimed charge member).resolve_left before⟩
  refine ⟨fun first here second there starts stops => ?_, fun charge member => ?_, ?_⟩
  · rcases sorted here with old | ⟨new, same⟩ <;> rcases sorted there with other | ⟨also, equal⟩
    · exact valid.once first old second other starts stops
    · have earlier := apart old also
      omega
    · have earlier := apart other new
      omega
    · rw [same, equal]
  · rw [period]
    have last : (events ++ [BillingEvent.charged]).getLast? = some .charged := by simp
    rcases sorted member with old | ⟨new, _⟩
    · obtain ⟨start, stop, here, early, _⟩ := valid.past charge old
      exact ⟨start, stop, here, early, fun other => absurd last other⟩
    · exact ⟨charge.start, charge.stop, (inTurn charge new).1, le_rfl,
        fun other => absurd last other⟩
  · rw [period]
    exact valid.dated

theorem lawful_of_stays (stays : stmt.Stays subID) : (renewing subID).Lawful stmt := by
  intro events world valid inTurn
  have period := periodOf_stays stays world
  refine ⟨?_, fun sub known => current_execute stmt known, renews_of_same period⟩
  change ChargedOnce subID (events ++ (billingEntry subID stmt world).toList) _
  unfold billingEntry
  by_cases added : newCharges subID stmt world ≠ []
  · rw [if_pos added]
    exact valid.charge inTurn period added
  rw [if_neg added, not_movesPeriod stays, if_neg Bool.false_ne_true, Option.toList_none,
    List.append_nil]
  refine valid.unchanged (fun charge member => ?_) period
  by_contra fresh
  have listed := mem_newCharges.mpr ⟨member, fresh⟩
  simp only [ne_eq, not_not] at added
  simp [added] at listed

structure Billable (subID : String) (sub : Subscription) (world : World) : Prop where
  current : world.Current sub
  renews : sub.id = subID → world.Renews subID ∧ 0 < sub.periodEnd

theorem Billable.kept (billable : Billable subID sub world)
    (outlasts : world.Outlasts subID later) : Billable subID sub later :=
  ⟨outlasts.known sub billable.current, fun mine =>
    ⟨outlasts.renews (billable.renews mine).1, (billable.renews mine).2⟩⟩

theorem billable_of_mem (member : sub ∈ world.subscriptions.rows)
    (renews : sub.id = subID → world.Renews subID) : Billable subID sub world := by
  refine ⟨current_of_mem member, fun mine => ⟨renews mine, ?_⟩⟩
  obtain ⟨start, stop, here, ends⟩ := renews mine
  rw [periodOf_of_mem member mine] at here
  cases here
  exact ends

def movingOn (sub : Subscription) (stop now : Int) : Stmt Nat :=
  guardedChange sub (.advance sub.periodEnd stop now)

theorem ChargedOnce.movedOn {row : Subscription} (valid : ChargedOnce subID events world)
    (now : Int) (known : world.Current sub) (ends : 0 < sub.periodEnd)
    (further : sub.periodEnd < stop) (stored : row ∈ world.subscriptions.rows)
    (mine : row.id = subID) (hit : row.isVersion sub.id sub.tenantID sub.version = true) :
    ChargedOnce subID (events ++ [.advanced]) (execute (movingOn sub stop now) world).2 ∧
      (execute (movingOn sub stop now) world).2.Renews subID := by
  have tracked := tracked_of_isVersion known stored hit
  have starts := (congrArg Subscription.periodStart tracked :)
  have lasts := (congrArg Subscription.periodEnd tracked :)
  dsimp only [Subscription.tracked] at starts lasts
  have before := periodOf_of_mem stored mine
  have moved : (SubscriptionUpdate.advance sub.periodEnd stop now).apply row ∈
      (execute (movingOn sub stop now) world).2.subscriptions.rows :=
    List.mem_map.mpr ⟨row, stored, Table.assignWhere_of hit⟩
  have after : (execute (movingOn sub stop now) world).2.periodOf subID =
      some (sub.periodEnd, stop) := periodOf_of_mem moved mine
  have same : (execute (movingOn sub stop now) world).2.planCharges subID =
      world.planCharges subID := planCharges_of_same rfl rfl
  refine ⟨⟨?_, fun charge member => ?_, fun start last here _ => ?_⟩,
    sub.periodEnd, stop, after, by omega⟩
  · rw [same]
    exact valid.once
  · rw [same] at member
    obtain ⟨start, last, here, early, _⟩ := valid.past charge member
    rw [before] at here
    cases here
    have dated := valid.dated _ _ before (by omega)
    refine ⟨sub.periodEnd, stop, after, by omega, fun _ => by omega⟩
  · rw [after] at here
    cases here
    exact further

theorem movesPeriod_eq_true :
    movesPeriod subID (movingOn sub stop now) world = true ↔ sub.id = subID ∧
      ∃ row ∈ world.subscriptions.rows, row.isVersion sub.id sub.tenantID sub.version = true := by
  simp [movesPeriod, movingOn, guardedChange]

theorem movingOn_keeps (billable : Billable subID sub world) (further : sub.periodEnd < stop)
    (valid : ChargedOnce subID events world) :
    (renewing subID).Keeps (movingOn sub stop now) events world := by
  have nothing : newCharges subID (movingOn sub stop now) world = [] := by
    have same : (execute (movingOn sub stop now) world).2.planCharges subID =
        world.planCharges subID := planCharges_of_same rfl rfl
    simp [newCharges, same]
  have known (other : Subscription) (current : world.Current other) :=
    current_execute (movingOn sub stop now) current
  have entry : billingEntry subID (movingOn sub stop now) world =
      if movesPeriod subID (movingOn sub stop now) world then some .advanced else none := by
    unfold billingEntry
    rw [nothing, if_neg (by simp)]
  by_cases moves : movesPeriod subID (movingOn sub stop now) world = true
  · obtain ⟨mine, row, stored, hit⟩ := movesPeriod_eq_true.mp moves
    obtain ⟨charged, renews⟩ := valid.movedOn now billable.current (billable.renews mine).2
      further stored ((isVersion_id hit).trans mine) hit
    refine ⟨?_, known, fun _ => renews⟩
    change ChargedOnce subID (events ++ (billingEntry subID _ world).toList) _
    rw [entry, if_pos moves]
    exact charged
  · have period : (execute (movingOn sub stop now) world).2.periodOf subID =
        world.periodOf subID := by
      refine periodOf_update rfl (SubscriptionUpdate.apply_id _) fun row stored mine hit => ?_
      have same := (isVersion_id hit).symm.trans mine
      exact absurd (movesPeriod_eq_true.mpr ⟨same, row, stored, hit⟩) moves
    refine ⟨?_, known, renews_of_same period⟩
    change ChargedOnce subID (events ++ (billingEntry subID _ world).toList) _
    rw [entry, if_neg moves, Option.toList_none, List.append_nil]
    exact valid.unchanged (fun charge member => member) period

end

section

variable {subID : String} {world : World} {own : List BillingEvent}
variable {Value : Type} {change : SubscriptionUpdate} {sub : Subscription} {tenantID : String}
variable {now : Int} {outage : Outage} {program : Service Value}

theorem stays_of_within (uses : program.Avoids [.subscription]) :
    program.Uses (Stmt.Stays subID) := by
  refine uses.mono fun {Reply} stmt within => ?_
  have outside : Area.subscription ∉ stmt.writes := within.avoids (by decide)
  cases stmt with
  | subscription stmt =>
    cases stmt <;> first | trivial | simp [Stmt.writes, SubscriptionStmt.writes] at outside
  | _ => trivial

theorem updateSubscription_stays
    (stays : (Stmt.subscription (.update change sub.id tenantID sub.version)).Stays subID) :
    (updateSubscription change sub tenantID).Uses (Stmt.Stays subID) :=
  uses_then stays fun _ => stays_of_within requireRows_within

theorem subscription_stays (tenantID id : String) :
    (subscription tenantID id).Uses (Stmt.Stays subID) :=
  stays_of_within subscription_within

theorem unix_stays : unix.Uses (Stmt.Stays subID) := stays_of_within unix_within

theorem moveOn_stays (source : SubscriptionState) (event : LifecycleEvent)
    (refusal : String → BillingError) : (moveOn source event refusal).Uses (Stmt.Stays subID) :=
  stays_of_within moveOn_within

theorem changePlan_stays (tenantID toPlanID : String) :
    (changePlan tenantID toPlanID).Uses (Stmt.Stays subID) := by
  unfold changePlan
  refine uses_bind (stays_of_within previewPlanChange_within) fun preview => ?_
  refine uses_bind (stays_of_within activeSubscription_within) fun sub => ?_
  refine uses_bind (stays_of_within plan_within) fun target => ?_
  refine uses_bind unix_stays fun now => ?_
  split
  · exact uses_bind (updateSubscription_stays trivial) fun _ => subscription_stays _ _
  refine uses_bind (moveOn_stays _ _ _) fun nextState => ?_
  refine uses_bind (updateSubscription_stays trivial) fun _ => ?_
  refine uses_bind (stays_of_within (settleProration_within (by decide))) fun _ => ?_
  exact subscription_stays _ _

theorem cancel_stays (tenantID id : String) (immediate : Bool) :
    (cancel tenantID id immediate).Uses (Stmt.Stays subID) := by
  unfold cancel
  refine uses_bind (subscription_stays _ _) fun sub => ?_
  refine uses_bind (moveOn_stays _ _ _) fun nextState => ?_
  refine uses_bind unix_stays fun now => ?_
  exact uses_bind (updateSubscription_stays trivial) fun _ => subscription_stays _ _

theorem resume_stays (tenantID id : String) : (resume tenantID id).Uses (Stmt.Stays subID) := by
  unfold resume
  refine uses_bind (subscription_stays _ _) fun sub => ?_
  split
  · refine uses_bind unix_stays fun now => ?_
    exact uses_bind (updateSubscription_stays trivial) fun _ => subscription_stays _ _
  refine uses_bind (moveOn_stays _ _ _) fun nextState => ?_
  refine uses_bind unix_stays fun now => ?_
  exact uses_bind (updateSubscription_stays trivial) fun _ => subscription_stays _ _

theorem abides_of_stays (uses : program.Uses (Stmt.Stays subID)) :
    program.Abides (renewing subID) (fun _ _ _ => True) own world :=
  abides_of_lawful (uses.mono fun _ stays => lawful_of_stays stays)

def Rereads (subID : String) (sub : Subscription) (answer : Except BillingError Subscription)
    (_ : List BillingEvent) (later : World) : Prop :=
  ∀ found, answer = .ok found → Billable subID found later ∧ found.id = sub.id

section

variable (renews : sub.id = subID → world.Renews subID)

include renews

theorem subscription_abides :
    (subscription tenantID sub.id).Abides (renewing subID) (Rereads subID sub) own world := by
  unfold subscription requireTenant
  refine under_refuse (fun _ _ failed => nomatch failed) fun _ => ?_
  refine under_then fun later events outlasts valid inTurn => ?_
  have reads : (Stmt.subscription (.byID sub.id tenantID)).Stays subID := trivial
  refine ⟨lawful_of_stays reads events later valid inTurn, ?_⟩
  change (require (later.subscriptions.find (Subscription.isRow sub.id tenantID)) _).Abides _ _ _
    later
  cases stored : later.subscriptions.find (Subscription.isRow sub.id tenantID) with
  | none => exact fun _ failed => nomatch failed
  | some =>
    rintro _ ⟨⟩
    obtain ⟨member, same⟩ := Table.find_mem stored
    have sameID := (subscription_isRow.mp same).1
    exact ⟨billable_of_mem member fun mine => outlasts.renews (renews (sameID ▸ mine)), sameID⟩

theorem updated_abides
    (stays : (Stmt.subscription (.update change sub.id tenantID sub.version)).Stays subID) :
    (updateSubscription change sub tenantID >>= fun _ =>
      subscription tenantID sub.id).Abides (renewing subID) (Rereads subID sub) own world := by
  refine (abides_of_stays (updateSubscription_stays stays)).andThen
    (fun _ _ later outlasts _ => ?_) fun _ _ _ _ _ failed => nomatch failed
  exact subscription_abides fun mine => outlasts.renews (renews mine)

theorem transition_abides {event : LifecycleEvent} :
    (transition sub event).Abides (renewing subID) (Rereads subID sub) own world := by
  unfold transition
  refine (abides_of_stays (moveOn_stays _ _ _)).andThen (fun nextState _ moved outlasts _ => ?_)
    fun _ _ _ _ _ failed => nomatch failed
  refine (abides_of_stays unix_stays).andThen (fun now _ later further _ => ?_)
    fun _ _ _ _ _ failed => nomatch failed
  exact updated_abides (fun mine => further.renews (outlasts.renews (renews mine))) trivial

end

theorem applyPendingPlan_abides (billable : Billable subID sub world) :
    (applyPendingPlan sub).Abides (renewing subID) (Rereads subID sub) own world := by
  unfold applyPendingPlan
  refine (abides_of_stays unix_stays).andThen (fun today _ dated outlasts _ => ?_)
    fun _ _ _ _ _ failed => nomatch failed
  split
  · rintro _ ⟨⟩
    exact ⟨billable.kept outlasts, rfl⟩
  refine (abides_of_stays (stays_of_within plan_within)).andThen
    (fun target _ planned further _ => ?_) fun _ _ _ _ _ failed => nomatch failed
  refine (abides_of_stays unix_stays).andThen (fun now _ later again _ => ?_)
    fun _ _ _ _ _ failed => nomatch failed
  refine updated_abides (fun mine => ?_) trivial
  exact again.renews (further.renews (outlasts.renews (billable.renews mine).1))

theorem convertTrial_abides (billable : Billable subID sub world) :
    (convertTrial sub now).Abides (renewing subID) (Rereads subID sub) own world := by
  unfold convertTrial
  split
  · exact transition_abides fun mine => (billable.renews mine).1
  · rintro _ ⟨⟩
    exact ⟨billable, rfl⟩

theorem promotePlan_abides (billable : Billable subID sub world) :
    (promotePlan sub now).Abides (renewing subID) (Rereads subID sub) own world := by
  unfold promotePlan
  split
  · exact applyPendingPlan_abides billable
  · rintro _ ⟨⟩
    exact ⟨billable, rfl⟩

theorem advanceFrom_stays (other : sub.id ≠ subID) (start : Int) :
    (advanceFrom sub start).Uses (Stmt.Stays subID) := by
  unfold advanceFrom
  split
  · exact uses_pure _
  · refine uses_bind unix_stays fun now => ?_
    exact uses_bind (updateSubscription_stays other) fun _ => subscription_stays _ _

theorem advanceRenewal_abides (billable : Billable subID sub world) :
    (advanceRenewal sub).Abides (renewing subID) (fun _ _ _ => True) own world := by
  unfold advanceRenewal
  by_cases mine : sub.id = subID
  swap
  · refine abides_of_stays ?_
    split
    · exact uses_bind unix_stays fun _ => advanceFrom_stays mine _
    · exact advanceFrom_stays mine _
  have ends := (billable.renews mine).2
  rw [if_neg (by omega)]
  unfold advanceFrom
  cases renews : advancePeriod sub.periodEnd sub.cycle with
  | none => trivial
  | some stop =>
    refine (abides_of_stays unix_stays).andThen (fun now _ dated outlasts _ => ?_)
      fun _ _ _ _ => trivial
    refine under_bind (under_then fun later events further valid _ => ?_)
    have held := (billable.kept outlasts).kept further
    have keeps : (renewing subID).Keeps (movingOn sub stop now) events later :=
      movingOn_keeps held (advancePeriod_after renews) valid
    refine ⟨keeps, ?_⟩
    refine (abides_of_stays (stays_of_within requireRows_within)).imp
      fun answer _ _ _ => ?_
    cases answer with
    | ok => exact abides_of_stays (subscription_stays _ _)
    | error => trivial

theorem billPeriod_abides (billable : Billable subID sub world) :
    (billPeriod sub).Abides (renewing subID) (fun _ _ _ => True) own world := by
  unfold billPeriod
  refine (abides_of_stays (stays_of_within (generateSubscriptionInvoice_within
    (by decide)))).andThen (fun inv _ invoiced outlasts _ => ?_) fun _ _ _ _ => trivial
  refine (advanceRenewal_abides (billable.kept outlasts)).andThen (fun advanced _ _ _ _ => ?_)
    fun _ _ _ _ => trivial
  split
  · have charges : (chargeInvoice advanced.tenantID inv.id (renewalKey advanced inv)).Uses
        (Stmt.Stays subID) := stays_of_within (chargeInvoice_within (by decide))
    generalize chargeInvoice advanced.tenantID inv.id (renewalKey advanced inv) = program at *
    refine under_bind (under_attempt ?_)
    exact (abides_of_stays charges).imp fun _ _ _ _ => trivial
  · trivial

theorem renewCurrent_abides {current : Subscription} (billable : Billable subID current world) :
    (renewCurrent now current).Abides (renewing subID) (fun _ _ _ => True) own world := by
  unfold renewCurrent
  split
  · trivial
  split
  · exact (transition_abides fun mine => (billable.renews mine).1).andThen
      (fun _ _ _ _ _ => trivial) fun _ _ _ _ => trivial
  refine (promotePlan_abides billable).andThen (fun promoted _ later _ reread => ?_)
    fun _ _ _ _ => trivial
  exact billPeriod_abides (reread promoted rfl).1

theorem renewOne_abides (billable : Billable subID sub world) :
    (renewOne sub now).Abides (renewing subID) (fun _ _ _ => True) own world := by
  rw [renewOne_eq]
  refine (convertTrial_abides billable).andThen (fun current _ later _ reread => ?_)
    fun _ _ _ _ => trivial
  exact renewCurrent_abides (reread current rfl).1

theorem Outage.applied_abides (billable : Billable subID sub world) :
    (outage.applied sub (renewOne sub now)).Abides (renewing subID) (fun _ _ _ => True) own
      world := by
  unfold Outage.applied
  split
  · exact renewOne_abides billable
  · exact (renewOne_abides billable).stopAfter (fun _ _ => trivial) _

theorem renewEachDespite_abides {subs : List Subscription}
    (billable : ∀ sub ∈ subs, Billable subID sub world) :
    (renewEachDespite outage now subs).Abides (renewing subID) (fun _ _ _ => True) own world := by
  induction subs generalizing world own with
  | nil => trivial
  | cons sub rest ih =>
    unfold renewEachDespite
    refine under_bind (under_attempt ?_)
    refine (Outage.applied_abides (billable sub List.mem_cons_self)).relied.imp
      fun _ _ later held => ?_
    exact ih fun other member => (billable other (List.mem_cons_of_mem _ member)).kept held.2

theorem runRenewalsDespite_abides :
    (runRenewalsDespite outage).Abides (renewing subID) (fun _ _ _ => True) own world := by
  unfold runRenewalsDespite
  refine (abides_of_stays (stays_of_within enabled_within)).andThen (fun on _ _ _ _ => ?_)
    fun _ _ _ _ => trivial
  split
  · refine (abides_of_stays unix_stays).andThen (fun now _ _ _ _ => ?_) fun _ _ _ _ => trivial
    refine under_then fun later events _ valid inTurn => ?_
    have reads : (Stmt.subscription (.due now)).Stays subID := trivial
    refine ⟨lawful_of_stays reads events later valid inTurn,
      renewEachDespite_abides fun sub member => ?_⟩
    obtain ⟨stored, due⟩ := mem_due.mp member
    simp only [Subscription.isDue, Bool.and_eq_true, decide_eq_true_eq] at due
    exact billable_of_mem stored fun mine => ⟨_, _, periodOf_of_mem stored mine, due.1.1⟩
  · trivial

theorem ignore_stays (uses : program.Uses (Stmt.Stays subID)) :
    program.ignore.Uses (Stmt.Stays subID) :=
  uses_bind uses fun _ => uses_pure _

theorem BillingJob.program_abides (job : BillingJob) :
    job.program.Abides (renewing subID) (fun _ _ _ => True) own world := by
  cases job with
  | renewals => exact runRenewalsDespite_abides
  | changePlan => exact abides_of_stays (ignore_stays (changePlan_stays _ _))
  | cancel => exact abides_of_stays (ignore_stays (cancel_stays _ _ _))
  | resume => exact abides_of_stays (ignore_stays (resume_stays _ _))

end

section

variable {subID : String} {world : World} {run : BillingRun}

theorem billing_play (sound : run.Sound (renewing subID) fun _ _ => True)
    (step : BillingMove subID) (inTurn : step.InTurn run) :
    (step.play run).Sound (renewing subID) fun _ _ => True := by
  cases step with
  | call job => exact sound.spawn job.program_abides
  | advance => exact (sound.advance inTurn).1
  | elsewhere aside =>
    have period : (aside.change run.pool.state).periodOf subID =
        run.pool.state.periodOf subID := periodOf_of_same (aside.subscriptions _)
    refine sound.disturb (sound.valid.unchanged (fun charge member => ?_) period)
      ⟨fun sub => current_of_same (aside.subscriptions _), renews_of_same period⟩
    rwa [aside.charges] at member

theorem invoicesCharging_le_one {events : List BillingEvent}
    (valid : ChargedOnce subID events world) (start stop : Int) :
    (world.invoicesCharging subID start stop).length ≤ 1 := by
  have distinct : ((world.invoicesCharging subID start stop).map Invoice.id).Nodup :=
    (world.invoices.unique Invoice.id (List.mem_singleton_self _)).sublist
      (List.filter_sublist.map Invoice.id)
  cases listed : world.invoicesCharging subID start stop with
  | nil => simp
  | cons first rest =>
    cases rest with
    | nil => simp
    | cons second others =>
      have charging {inv : Invoice} (member : inv ∈ first :: second :: others) :
          (⟨inv.id, start, stop⟩ : PlanCharge) ∈ world.planCharges subID := by
        rw [← listed] at member
        simpa using (List.mem_filter.mp member).2
      have same : first.id = second.id :=
        valid.once _ (charging (by simp)) _ (charging (by simp)) rfl rfl
      simp [listed, same] at distinct

/-- A plan is charged once for each period, if it is charged for the period the subscription is
in and not again before the subscription has moved on. -/
theorem plan_charged_once (subID : String) (world : World) (unbilled : world.planCharges subID = [])
    (dated : ∀ start stop, world.periodOf subID = some (start, stop) → 0 < stop → start < stop)
    (moves : List (BillingMove subID))
    (inTurn : Every BillingMove.play BillingMove.InTurn (Chronicle.opened world) moves)
    (start stop : Int) :
    ((lastState BillingMove.play (Chronicle.opened world) moves).pool.state.invoicesCharging subID
      start stop).length ≤ 1 := by
  have valid : ChargedOnce subID [] world := by
    refine ⟨?_, ?_, dated⟩ <;> simp [unbilled]
  have opened : (Chronicle.opened world : BillingRun).Sound (renewing subID) fun _ _ => True :=
    Chronicle.sound_opened valid
  have sound := lastState_of_invariant _ opened inTurn
    fun step run sound inTurn => billing_play sound step inTurn
  exact invoicesCharging_le_one sound.valid start stop

end

def monthlyPlan (id : String) (priceMinor : Int) : Plan :=
  { id := id, code := id, name := id, currency := "USD", priceMinor := priceMinor
    cycle := .monthly, trialDays := 0, graceDays := 7, overagePolicy := .block, active := true }

def proMember : Subscription :=
  { id := "sub", tenantID := "acme", accountID := "acct", planID := "pro", state := .active
    cycle := .monthly, currency := "USD", priceMinor := 500, periodStart := 0
    periodEnd := 2678400, createdAt := 0, updatedAt := 0 }

def renewalShop : World where
  catalogue :=
    { plans := [monthlyPlan "pro" 500, monthlyPlan "basic" 300]
      settings := [("billing_enabled", "true")] }
  subscriptions := ⟨[proMember], by simp⟩
  now := 2678400
  names := Supply.outgrow

def noOutage : Outage where
  failure := errInternal ""
  stops _ := none

def takeSteps (thread count : Nat) : List (BillingMove "sub") :=
  List.replicate count (.advance thread)

def nextMonth : BillingAside "sub" where
  change world := { world with now := world.now + 2678400 }
  subscriptions _ := rfl
  charges _ := rfl

def renewedInTurn : List (BillingMove "sub") :=
  [.call (.renewals noOutage)] ++ takeSteps 0 20 ++ [.call (.changePlan "acme" "basic")] ++
    takeSteps 0 28 ++ takeSteps 1 10 ++ [.elsewhere nextMonth, .call (.renewals noOutage)] ++
    takeSteps 2 60

theorem renewed_in_turn_once :
    (lastState BillingMove.play (Chronicle.opened renewalShop) renewedInTurn).events =
        [.charged, .advanced, .charged, .advanced] ∧
      ((lastState BillingMove.play (Chronicle.opened renewalShop)
        renewedInTurn).pool.state.invoicesCharging "sub" 2678400 5097600).length ≤ 1 := by
  refine ⟨by decide +kernel, ?_⟩
  refine plan_charged_once "sub" renewalShop (by decide +kernel) ?_ renewedInTurn
    (by decide +kernel) 2678400 5097600
  rintro _ _ ⟨⟩ _
  decide

def renewedAcross : List (BillingMove "sub") :=
  [.call (.renewals noOutage)] ++ takeSteps 0 38 ++ [.call (.changePlan "acme" "basic")] ++
    takeSteps 1 10 ++ takeSteps 0 10 ++ [.call (.renewals noOutage)] ++ takeSteps 2 60

/-- The renewal is refused for the version it read, and the next pass invoices the month again. -/
theorem renewed_across_twice :
    renewalShop.planCharges "sub" = [] ∧
      ((lastState BillingMove.play (Chronicle.opened renewalShop)
        renewedAcross).pool.state.invoicesCharging "sub" 0 2678400).map
          (fun inv => (inv.number, inv.totalMinor)) =
        [("INV-000001", 500), ("INV-000002", 300)] := by
  decide +kernel

end Cashp
