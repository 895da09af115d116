import Cashp.Billing.Snapshots

/-!
What the service ever writes into a subscription row: upkeep that leaves state and end date alone,
an event of the state machine, a cancellation, or the withdrawal of one.
-/

namespace Cashp

open Kit Kit.Program

inductive Writing
  | upkeep
  | event (event : LifecycleEvent)
  | cancelling (immediate : Bool)
  | withdrawal
  deriving DecidableEq

def Writing.Changes (now : Int) : Writing → Subscription → Subscription → Prop
  | .upkeep, old, new => new.state = old.state ∧ new.endedAt = old.endedAt
  | .event cause, old, new =>
    nextSubscriptionState old.state cause = .ok new.state ∧
      new.endedAt = if new.state = .expired ∧ old.endedAt = 0 then now else old.endedAt
  | .cancelling immediate, old, new =>
    nextSubscriptionState old.state .cancelled = .ok new.state ∧
      new.endedAt = if immediate then now else 0
  | .withdrawal, old, new =>
    (old.state = .cancelled ∧ old.endedAt = 0) ∧ new.state = .active ∧ new.endedAt = 0

def Writes (may : World → Subscription → Writing → Prop) (opens : World → Subscription → Prop)
    {Reply : Type} (stmt : Stmt Reply) (world : World) : Prop :=
  ∃ id, ∀ new ∈ (execute stmt world).2.subscriptions.rows,
    new ∈ world.subscriptions.rows ∨ (new.id = id ∧
      ((∃ old ∈ world.subscriptions.rows, old.key = new.key ∧
        ∃ writing, may world old writing ∧ writing.Changes world.now old new) ∨
      (opens world new ∧ ∀ old ∈ world.subscriptions.rows, old.id ≠ new.id)))

def World.Unmoved (before after : World) : Prop :=
  after.subscriptions = before.subscriptions ∧ after.now = before.now

variable {sub : Subscription} {tenantID : String}

section

variable {world : World}

theorem mem_insert_subscription
    (stored : (execute (Stmt.subscription (.insert sub)) world).1 = true) :
    sub ∈ (execute (Stmt.subscription (.insert sub)) world).2.subscriptions.rows := by
  change (Stmt.execute _ _).1 = true at stored
  change sub ∈ (Stmt.execute _ _).2.subscriptions.rows
  simp only [Stmt.execute, SubscriptionStmt.execute] at stored ⊢
  cases grown : world.subscriptions.insert sub with
  | none => simp [grown] at stored
  | some => simp [Table.insert_rows grown]

theorem mem_entitled : sub ∈ (execute (Stmt.subscription (.entitled tenantID)) world).1 ↔
      sub ∈ world.subscriptions.rows ∧ sub.isEntitledState tenantID = true :=
  Table.mem_selectOrdered

theorem mem_due {cutoff : Int} : sub ∈ (execute (Stmt.subscription (.due cutoff)) world).1 ↔
      sub ∈ world.subscriptions.rows ∧ sub.isDue cutoff = true :=
  Table.mem_selectOrdered

end

variable {may : World → Subscription → Writing → Prop} {opens : World → Subscription → Prop}
variable {world : World} {change : SubscriptionUpdate} {event : LifecycleEvent}

section

theorem writes_elsewhere {Reply : Type} (stmt : Stmt Reply)
    (outside : Area.subscription ∉ stmt.writes) : Writes may opens stmt world := by
  have same : (execute stmt world).2.subscriptions = world.subscriptions :=
    execute_same stmt world .subscription outside
  refine ⟨"", fun new member => Or.inl ?_⟩
  rwa [same] at member

theorem writes_update
    {writing : Writing} (known : world.Current sub) (fits : ∀ old, old.tracked = sub.tracked →
      may world old writing ∧ writing.Changes world.now old (change.apply old)) :
    Writes may opens (.subscription (.update change sub.id tenantID sub.version)) world := by
  refine ⟨sub.id, fun new member => ?_⟩
  obtain ⟨old, present, rfl⟩ := List.mem_map.mp member
  by_cases hit : old.isVersion sub.id tenantID sub.version = true
  · rw [Table.assignWhere_of hit]
    have same := tracked_of_isVersion known present hit
    have sameKey := (change.follows old).1
    refine Or.inr ⟨?_, Or.inl ⟨old, present, sameKey.symm, writing, fits old same⟩⟩
    exact congrArg Prod.fst (sameKey.trans (key_of_tracked same))
  · rw [Table.assignWhere_not (by simpa using hit)]
    exact Or.inl present

theorem writes_setGrace {graceEnds now : Int} {subID : String}
    (allowed : ∀ old, old.id = subID → old.tenantID = tenantID → may world old .upkeep) :
    Writes may opens (.subscription (.setGrace graceEnds now subID tenantID)) world := by
  refine ⟨subID, fun new member => ?_⟩
  obtain ⟨old, present, rfl⟩ := List.mem_map.mp member
  by_cases hit : old.isRow subID tenantID = true
  · rw [Table.assignWhere_of hit]
    simp only [Subscription.isRow, Bool.and_eq_true, beq_iff_eq] at hit
    refine Or.inr ⟨hit.1, Or.inl ⟨old, present, rfl, .upkeep, ?_, rfl, rfl⟩⟩
    exact allowed old hit.1 hit.2
  · rw [Table.assignWhere_not (by simpa using hit)]
    exact Or.inl present

theorem writes_insert (opened : opens world sub) :
    Writes may opens (.subscription (.insert sub)) world := by
  refine ⟨sub.id, fun new member => ?_⟩
  change new ∈ (Stmt.execute _ _).2.subscriptions.rows at member
  simp only [Stmt.execute, SubscriptionStmt.execute] at member
  cases stored : world.subscriptions.insert sub with
  | none =>
    rw [stored] at member
    exact Or.inl member
  | some grown =>
    rw [stored] at member
    simp only [Table.insert_rows stored, List.mem_append, List.mem_singleton] at member
    rcases member with kept | rfl
    · exact Or.inl kept
    refine Or.inr ⟨rfl, Or.inr ⟨opened, fun old present same => ?_⟩⟩
    have distinct := grown.unique Subscription.id (by simp)
    grind [Table.insert]

end

section

variable {Value : Type} {program : Service Value}

theorem along_elsewhere (uses : program.Avoids [.subscription]) :
    program.Along (Writes may opens) (fun _ later => world.Unmoved later) world := by
  refine along_of_uses uses (fun _ => ⟨rfl, rfl⟩)
    (fun _ _ _ early late => ⟨late.1.trans early.1, late.2.trans early.2⟩)
    fun stmt state within => ?_
  have away : Area.subscription ∉ stmt.writes := within.avoids (by decide)
  exact ⟨writes_elsewhere stmt away, execute_same stmt state .subscription away,
    (execute_steady stmt state).now⟩

theorem returns_elsewhere (uses : program.Avoids [.subscription]) :
    program.Along (Writes may opens) (Returns fun _ later => world.Unmoved later) world :=
  (along_elsewhere uses).returns fun _ _ _ same => same

theorem unix_along {next : Int → Service Value} {post : Except BillingError Value → World → Prop}
    (rest : (next world.now).Along (Writes may opens) post world) :
    (unix >>= next).Along (Writes may opens) post world :=
  along_then (writes_elsewhere _ (by simp [Stmt.writes])) rest

theorem moveOn_along {source : SubscriptionState}
    {refusal : String → BillingError} {next : SubscriptionState → Service Value}
    {post : Value → World → Prop}
    (rest : ∀ target, nextSubscriptionState source event = .ok target →
      (next target).Along (Writes may opens) (Returns post) world) :
    (moveOn source event refusal >>= next).Along (Writes may opens) (Returns post) world := by
  unfold moveOn
  cases legal : nextSubscriptionState source event with
  | ok target => exact rest target legal
  | error => trivial

theorem subscription_along (tenantID subID : String) :
    (subscription tenantID subID).Along (Writes may opens) (Returns fun sub later =>
      later = world ∧ sub ∈ world.subscriptions.rows ∧ sub.key = (subID, tenantID) ∧
        ¬ isBlank tenantID = true) world := by
  unfold subscription requireTenant
  refine along_refuse_returns.andThen fun _ later _ start => ?_
  rw [start.1]
  refine along_then (writes_elsewhere _ (by simp [Stmt.writes, SubscriptionStmt.writes])) ?_
  change (require (world.subscriptions.find (Subscription.isRow subID tenantID)) _).Along _ _ world
  cases found : world.subscriptions.find (Subscription.isRow subID tenantID) with
  | none => trivial
  | some =>
    have facts := Table.find_mem found
    simp only [Subscription.isRow, Bool.and_eq_true, beq_iff_eq] at facts
    exact ⟨rfl, facts.1, by rw [Subscription.key, facts.2.1, facts.2.2], start.2⟩

theorem activeSubscription_along (tenantID : String) :
    (activeSubscription tenantID).Along (Writes may opens) (Returns fun sub later =>
      later = world ∧ sub ∈ world.subscriptions.rows ∧ sub.tenantID = tenantID ∧
        sub.active = true) world := by
  unfold activeSubscription requireTenant
  refine along_refuse_returns.andThen fun _ later _ start => ?_
  rw [start.1]
  refine along_then (writes_elsewhere _ (by simp [Stmt.writes, SubscriptionStmt.writes])) ?_
  generalize rows : (execute (Stmt.subscription (.entitled tenantID)) world).1 = list
  change (require (list.find? Subscription.active) _).Along _ _ world
  cases found : list.find? Subscription.active with
  | none => trivial
  | some =>
    have member := List.mem_of_find?_eq_some found
    rw [← rows, mem_entitled] at member
    simp only [Subscription.isEntitledState, Bool.and_eq_true, beq_iff_eq] at member
    exact ⟨rfl, member.1, member.2.1, List.find?_some found⟩

end

abbrev Service.MayWrite {Value : Type} (may : World → Subscription → Writing → Prop)
    (opens : World → Subscription → Prop) (program : Service Value) (world : World) : Prop :=
  program.Along (Writes may opens) (Returns fun _ _ => True) world

section

variable {sub : Subscription} {later : World} {tenantID subID planID : String}

def Stored (key : String × String) (sub : Subscription) (later : World) : Prop :=
  sub ∈ later.subscriptions.rows ∧ sub.key = key

def Carried (sub moved : Subscription) (later : World) : Prop :=
  later.Current moved ∧ moved.key = sub.key

theorem Stored.current {key : String × String} (stored : Stored key sub later) :
    later.Current sub :=
  current_of_mem stored.1

theorem updateSubscription_along {writing : Writing}
    (known : world.Current sub) (fits : ∀ old, old.tracked = sub.tracked →
      may world old writing ∧ writing.Changes world.now old (change.apply old)) :
    (updateSubscription change sub tenantID).MayWrite may opens world := by
  unfold updateSubscription requireRows
  refine along_then (writes_update known fits) ?_
  exact along_refuse_returns.returns fun _ _ _ _ => trivial

theorem reread_along (tenantID subID : String) :
    (subscription tenantID subID).Along (Writes may opens) (Returns (Stored (subID, tenantID)))
      world := by
  refine (subscription_along tenantID subID).returns fun sub later _ found => ?_
  obtain ⟨rfl, member, key, -⟩ := found
  exact ⟨member, key⟩

theorem transition_along (known : world.Current sub)
    (allowed : ∀ old, old.tracked = sub.tracked → may world old (.event event)) :
    (transition sub event).Along (Writes may opens) (Returns (Stored sub.key)) world := by
  unfold transition
  refine moveOn_along fun target legal => ?_
  refine unix_along ?_
  refine (updateSubscription_along known fun old same =>
    ⟨allowed old same, ?_⟩).andThen fun _ later _ _ => reread_along _ _
  refine ⟨?_, ?_⟩
  · rw [state_of_tracked same]
    exact legal
  · rw [endedAt_of_tracked same]
    rfl

theorem cancel_along {immediate : Bool}
    (allowed : ∀ old, old.key = (subID, tenantID) → may world old (.cancelling immediate)) :
    (cancel tenantID subID immediate).Along (Writes may opens)
      (Returns (Stored (subID, tenantID))) world := by
  unfold cancel
  refine (subscription_along tenantID subID).andThen fun sub later _ found => ?_
  obtain ⟨rfl, member, key, named⟩ := found
  refine moveOn_along fun target legal => ?_
  refine unix_along ?_
  refine (updateSubscription_along (current_of_mem member) fun old same =>
    ⟨allowed old ((key_of_tracked same).trans key), ?_⟩).andThen fun _ later _ _ => ?_
  · refine ⟨?_, rfl⟩
    rw [state_of_tracked same]
    exact legal
  · rw [show subID = sub.id from (congrArg Prod.fst key).symm]
    exact reread_along _ _

theorem resume_along {subID : String}
    (resumed : ∀ old, old.key = (subID, tenantID) → may world old (.event .resumed))
    (withdrawn : ¬ isBlank tenantID = true →
      ∀ sub ∈ world.subscriptions.rows, sub.key = (subID, tenantID) → sub.state = .cancelled →
        sub.endedAt = 0 →
        ∀ old, old.key = sub.key → may world old .withdrawal) :
    (resume tenantID subID).Along (Writes may opens) (Returns (Stored (subID, tenantID)))
      world := by
  unfold resume
  refine (subscription_along tenantID subID).andThen fun sub later _ found => ?_
  obtain ⟨rfl, member, key, named⟩ := found
  have sameID : subID = sub.id := (congrArg Prod.fst key).symm
  split
  · rename_i pending
    refine unix_along ?_
    refine (updateSubscription_along (current_of_mem member) fun old same =>
      ⟨withdrawn named sub member key pending.1 pending.2 old (key_of_tracked same), ?_⟩).andThen
      fun _ later _ _ => ?_
    · have ended := (endedAt_of_tracked same).trans pending.2
      exact ⟨⟨(state_of_tracked same).trans pending.1, ended⟩, rfl, ended⟩
    · rw [sameID]
      exact reread_along _ _
  · refine moveOn_along fun target legal => ?_
    refine unix_along ?_
    refine (updateSubscription_along (current_of_mem member) fun old same =>
      ⟨resumed old ((key_of_tracked same).trans key), ?_⟩).andThen fun _ later _ _ => ?_
    · have source : old.state = sub.state := state_of_tracked same
      refine ⟨by rw [source]; exact legal, ?_⟩
      have active := (nextSubscriptionState_resumed _ _ legal).2
      exact (if_neg fun ends => by simp [SubscriptionUpdate.apply, active] at ends).symm
    · rw [sameID]
      exact reread_along _ _

theorem advanceFrom_along {start : Int} (known : world.Current sub)
    (allowed : ∀ now old, old.key = sub.key → may now old .upkeep) :
    (advanceFrom sub start).Along (Writes may opens) (Returns (Carried sub)) world := by
  unfold advanceFrom
  cases advancePeriod start sub.cycle with
  | none => exact ⟨known, rfl⟩
  | some =>
    refine unix_along ?_
    refine (updateSubscription_along known fun old same =>
      ⟨allowed _ old (key_of_tracked same), rfl, rfl⟩).andThen fun _ later _ _ => ?_
    exact (reread_along _ _).returns fun _ _ _ stored => ⟨stored.current, stored.2⟩

theorem advanceRenewal_along (known : world.Current sub)
    (allowed : ∀ now old, old.key = sub.key → may now old .upkeep) :
    (advanceRenewal sub).Along (Writes may opens) (Returns (Carried sub)) world := by
  unfold advanceRenewal
  split
  · refine unix_along ?_
    exact advanceFrom_along known allowed
  · exact advanceFrom_along known allowed

theorem applyPendingPlan_along (known : world.Current sub)
    (allowed : ∀ now old, old.key = sub.key → may now old .upkeep) :
    (applyPendingPlan sub).Along (Writes may opens) (Returns (Carried sub)) world := by
  unfold applyPendingPlan
  refine unix_along ?_
  split
  · exact ⟨known, rfl⟩
  refine (returns_elsewhere plan_within).andThen
    fun target later _ same => ?_
  refine unix_along ?_
  refine (updateSubscription_along (current_of_same same.1 known) fun old agrees =>
    ⟨allowed _ old (key_of_tracked agrees), rfl, rfl⟩).andThen fun _ later _ _ => ?_
  exact (reread_along _ _).returns fun _ _ _ stored => ⟨stored.current, stored.2⟩

theorem startGrace_along (known : world.Current sub)
    (failed : ∀ now old, old.key = sub.key → may now old (.event .paymentFailed))
    (upkeep : ∀ now old, old.key = sub.key → may now old .upkeep) :
    (startGrace sub).Along (Writes may opens) (Returns (Stored sub.key)) world := by
  unfold startGrace
  refine (along_elsewhere plan_within).attempted
    fun target later _ same => ?_
  refine unix_along ?_
  refine (transition_along (current_of_same same.1 known) fun old agrees =>
    failed _ old (key_of_tracked agrees)).andThen
    fun updated later _ stored => ?_
  refine unix_along ?_
  have sameID : updated.id = sub.id := congrArg Prod.fst stored.2
  refine along_then (writes_setGrace fun old listed sameTenant => upkeep _ old ?_) ?_
  · rw [← stored.2]
    exact Prod.ext listed sameTenant
  · exact (reread_along _ _).returns fun _ _ _ again => ⟨again.1, again.2.trans stored.2⟩

theorem not_active_of_notFound {failure : BillingError}
    (ran : (activeSubscription tenantID).run world = (.error failure, later))
    (missing : isNotFound failure = true) :
    ∀ row ∈ world.subscriptions.rows, row.tenantID = tenantID → row.active = false := by
  intro row member sameTenant
  by_cases blank : isBlank tenantID = true
  · rw [activeSubscription, requireTenant, run_refused blank] at ran
    simp only [Prod.mk.injEq, Except.error.injEq] at ran
    rw [← ran.1] at missing
    simp [isNotFound, errValidation] at missing
  · rw [activeSubscription, requireTenant, run_unrefused blank, run_bind] at ran
    simp only [run_perform] at ran
    cases found : ((execute (Stmt.subscription (.entitled tenantID)) world).1).find?
        Subscription.active with
    | some =>
      rw [found] at ran
      simp [require] at ran
    | none =>
      by_contra entitled
      have awake : row.active = true := by simpa using entitled
      refine List.find?_eq_none.mp found row (mem_entitled.mpr ⟨member, ?_⟩) awake
      unfold Subscription.active at awake
      cases state : row.state <;>
        simp_all [SubscriptionState.entitles, Subscription.isEntitledState]

theorem openSubscription_along (opened : ∀ later, later.subscriptions = world.subscriptions →
      ∀ new, new.tenantID = tenantID → new.endedAt = 0 → opens later new) :
    (openSubscription tenantID planID).Along (Writes may opens)
      (Returns fun sub later => sub ∈ later.subscriptions.rows) world := by
  unfold openSubscription
  refine (returns_elsewhere plan_within).andThen fun target _ _ planned => ?_
  refine along_refuse_returns.andThen fun _ _ _ listed => ?_
  obtain ⟨rfl, -⟩ := listed
  refine (returns_elsewhere (ensureAccount_within (by decide))).andThen
    fun buyer _ _ known => ?_
  refine unix_along ?_
  refine (returns_elsewhere (newID_within (by decide))).andThen fun id _ _ drawn => ?_
  have unmoved := drawn.1.trans (known.1.trans planned.1)
  refine along_then (writes_insert (opened _ unmoved _ rfl rfl)) ?_
  refine along_refuse_returns.andThen fun _ _ _ stored => ?_
  obtain ⟨rfl, stored⟩ := stored
  exact mem_insert_subscription (by simpa using stored)

theorem subscribe_along
    (opened : (∀ row ∈ world.subscriptions.rows, row.tenantID = tenantID → row.active = false) →
      ∀ later, later.subscriptions = world.subscriptions →
        ∀ new, new.tenantID = tenantID → new.endedAt = 0 → opens later new) :
    (subscribe tenantID planID).Along (Writes may opens)
      (Returns fun sub later => sub ∈ later.subscriptions.rows) world := by
  unfold subscribe
  refine (along_elsewhere activeSubscription_within).attempted
    fun answer later ran same => ?_
  cases answer with
  | ok => trivial
  | error failure =>
    simp only
    split
    · rename_i missing
      refine openSubscription_along fun now unmoved => ?_
      exact opened (not_active_of_notFound ran missing) now (unmoved.trans same.1)
    · trivial

theorem changePlan_along {toPlanID : String}
    (changed : ∀ now old, old.tenantID = tenantID → old.active = true →
      may now old (.event .planChanged) ∧ may now old .upkeep) :
    (changePlan tenantID toPlanID).MayWrite may opens world := by
  unfold changePlan
  refine (returns_elsewhere previewPlanChange_within).andThen
    fun preview _ _ _ => ?_
  refine (activeSubscription_along tenantID).andThen fun sub _ _ found => ?_
  obtain ⟨rfl, member, sameTenant, awake⟩ := found
  refine (returns_elsewhere plan_within).andThen fun target later _ same => ?_
  refine unix_along ?_
  have known := current_of_same same.1 (current_of_mem member)
  have fits : ∀ now old, old.tracked = sub.tracked →
      may now old (.event .planChanged) ∧ may now old .upkeep := by
    intro now old agrees
    refine changed now old ?_ ((active_of_tracked agrees).trans awake)
    exact (congrArg Prod.snd (key_of_tracked agrees)).trans sameTenant
  split
  · refine (updateSubscription_along known fun old agrees =>
      ⟨(fits _ old agrees).2, rfl, rfl⟩).andThen fun _ _ _ _ => ?_
    exact (reread_along _ _).returns fun _ _ _ _ => trivial
  refine moveOn_along fun nextState legal => ?_
  refine (updateSubscription_along known fun old agrees =>
    ⟨(fits _ old agrees).1, ?_⟩).andThen fun _ _ _ _ => ?_
  · have active := (nextSubscriptionState_planChanged _ _ legal).2
    refine ⟨by rw [state_of_tracked agrees]; exact legal, ?_⟩
    exact (if_neg fun ends => by simp [SubscriptionUpdate.apply, active] at ends).symm
  · refine (returns_elsewhere (settleProration_within (by decide))).andThen fun _ _ _ _ => ?_
    exact (reread_along _ _).returns fun _ _ _ _ => trivial

end

section

variable {sub : Subscription} {now : Int} {inv : Invoice} {schedule : List Int}

def renewalWritings : List Writing := [.upkeep, .event .trialConverted, .event .periodEnded]

def dunningWritings : List Writing := [.upkeep, .event .paymentFailed, .event .graceExpired]

theorem convertTrial_along (known : world.Current sub)
    (allowed : ∀ now old, old.key = sub.key → may now old (.event .trialConverted)) :
    (convertTrial sub now).Along (Writes may opens) (Returns (Carried sub)) world := by
  unfold convertTrial
  split
  · refine (transition_along known fun old agrees =>
      allowed _ old (key_of_tracked agrees)).returns fun _ _ _ stored => ?_
    exact ⟨stored.current, stored.2⟩
  · exact ⟨known, rfl⟩

theorem promotePlan_along (known : world.Current sub)
    (allowed : ∀ now old, old.key = sub.key → may now old .upkeep) :
    (promotePlan sub now).Along (Writes may opens) (Returns (Carried sub)) world := by
  unfold promotePlan
  split
  · exact applyPendingPlan_along known allowed
  · exact ⟨known, rfl⟩

theorem billPeriod_along (known : world.Current sub)
    (allowed : ∀ now old, old.key = sub.key → may now old .upkeep) :
    (billPeriod sub).MayWrite may opens world := by
  unfold billPeriod
  refine (returns_elsewhere (generateSubscriptionInvoice_within (by decide))).andThen
    fun inv _ _ same => ?_
  refine (advanceRenewal_along (current_of_same same.1 known) allowed).andThen
    fun advanced _ _ _ => ?_
  split
  · refine (along_elsewhere (chargeInvoice_within (by decide))).attempted fun _ _ _ _ => ?_
    trivial
  · trivial

def renewCurrent (now : Int) (current : Subscription) : Service Unit := do
  if now < current.periodEnd then
    pure ()
  else if current.cancelAtPeriodEnd then
    let _ ← transition current .periodEnded
    pure ()
  else
    let current ← promotePlan current now
    billPeriod current

theorem renewOne_eq (sub : Subscription) (now : Int) :
    renewOne sub now = convertTrial sub now >>= renewCurrent now := rfl

theorem renewCurrent_along {current : Subscription} (known : world.Current current)
    (allowed : ∀ now old, old.key = current.key → ∀ writing ∈ renewalWritings,
      may now old writing) : (renewCurrent now current).MayWrite may opens world := by
  have upkeep : ∀ now old, old.key = current.key → may now old .upkeep :=
    fun now old same => allowed now old same .upkeep (by decide)
  unfold renewCurrent
  split
  · trivial
  split
  · refine (transition_along known fun old agrees =>
      allowed _ old (key_of_tracked agrees) _ (by decide)).andThen fun _ _ _ _ => ?_
    trivial
  · refine (promotePlan_along known upkeep).andThen fun promoted _ _ further => ?_
    exact billPeriod_along further.1 fun now old same => upkeep now old (same.trans further.2)

theorem renewOne_along (known : world.Current sub)
    (allowed : ∀ now old, old.key = sub.key → ∀ writing ∈ renewalWritings, may now old writing) :
    (renewOne sub now).MayWrite may opens world := by
  rw [renewOne_eq]
  refine (convertTrial_along known fun now old same => allowed now old same _ (by decide)).andThen
    fun current _ _ carried => ?_
  exact renewCurrent_along carried.1 fun now old same => allowed now old (same.trans carried.2)

theorem renewEach_along {subs : List Subscription} (known : ∀ sub ∈ subs, world.Current sub)
    (allowed : ∀ sub ∈ subs, ∀ now old, old.key = sub.key →
      ∀ writing ∈ renewalWritings, may now old writing) :
    (renewEach now subs).MayWrite may opens world := by
  induction subs generalizing world with
  | nil => trivial
  | cons sub rest ih =>
    unfold renewEach
    have here : sub ∈ sub :: rest := List.mem_cons_self
    refine (renewOne_along (known sub here) (allowed sub here)).attempted
      fun _ later ran _ => ?_
    refine ih (fun other member => ?_) fun other member =>
      allowed other (List.mem_cons_of_mem _ member)
    have kept := current_run (renewOne sub now) (known other (List.mem_cons_of_mem _ member))
    rwa [ran] at kept

theorem runRenewals_along (allowed : ∀ sub ∈ world.subscriptions.rows, sub.isDue world.now = true →
      ∀ now old, old.key = sub.key → ∀ writing ∈ renewalWritings, may now old writing) :
    runRenewals.MayWrite may opens world := by
  unfold runRenewals
  refine (returns_elsewhere enabled_within).andThen fun on later _ same => ?_
  split
  · refine unix_along ?_
    unfold dueSubscriptions
    refine along_then (writes_elsewhere _ (by simp [Stmt.writes, SubscriptionStmt.writes])) ?_
    refine renewEach_along (fun sub member => ?_) fun sub member => ?_
    · exact current_of_mem (mem_due.mp member).1
    have due := mem_due.mp member
    rw [same.1, same.2] at due
    exact allowed sub due.1 due.2
  · trivial

section

variable (allowed : ∀ now old, ∀ writing ∈ dunningWritings, may now old writing)
variable {graceSeconds : Int}
include allowed

theorem suspend_along (known : world.Current sub) : (suspend sub inv).MayWrite may opens world := by
  unfold suspend
  refine (transition_along known fun old _ => allowed _ old _ (by decide)).andThen fun _ _ _ _ => ?_
  split
  · refine (returns_elsewhere (markInvoiceState_within (by decide))).andThen
      fun _ _ _ _ => ?_
    trivial
  · trivial

theorem escalateSubscription_along (known : world.Current sub) :
    (escalateSubscription inv sub graceSeconds now).MayWrite may opens world := by
  unfold escalateSubscription
  split
  · refine (transition_along known fun old _ => allowed _ old _ (by decide)).andThen
      fun moved _ _ stored => ?_
    refine (startGrace_along stored.current (fun now old _ => allowed now old _ (by decide))
      fun now old _ => allowed now old _ (by decide)).andThen fun _ _ _ _ => ?_
    trivial
  · split
    · trivial
    generalize (if sub.graceEndsAt ≤ 0 then inv.dueAt + graceSeconds else sub.graceEndsAt) = ends
    by_cases early : now < ends
    · simp only [if_pos early]
      trivial
    · simp only [if_neg early]
      exact suspend_along allowed known

theorem escalate_along : (escalate inv graceSeconds now).MayWrite may opens world := by
  unfold escalate
  split
  · split
    · refine (returns_elsewhere (markInvoiceState_within (by decide))).andThen
        fun _ _ _ _ => ?_
      trivial
    · trivial
  · refine (subscription_along inv.tenantID inv.subscriptionID).attempted
      fun answer later ran found => ?_
    cases answer with
    | error =>
      simp only
      split <;> trivial
    | ok =>
      obtain ⟨rfl, member, _⟩ := found
      exact escalateSubscription_along allowed (current_of_mem member)

theorem dunInvoice_along : (dunInvoice schedule graceSeconds now inv).MayWrite may opens world := by
  unfold dunInvoice
  split
  · trivial
  refine (returns_elsewhere (retryCharge_within (by decide))).andThen fun current _ _ _ => ?_
  split
  · trivial
  · refine (escalate_along allowed).attempted fun _ _ _ _ => ?_
    trivial

theorem dunEach_along {invoices : List Invoice} :
    (dunEach schedule graceSeconds now invoices).MayWrite may opens world := by
  induction invoices generalizing world with
  | nil => trivial
  | cons inv rest ih =>
    unfold dunEach
    exact (dunInvoice_along allowed).andThen fun _ _ _ _ => ih

theorem runDunning_along : runDunning.MayWrite may opens world := by
  unfold runDunning
  refine (returns_elsewhere enabled_within).andThen fun on _ _ _ => ?_
  split
  · refine unix_along ?_
    refine (returns_elsewhere openInvoices_within).andThen fun invoices _ _ _ => ?_
    refine (returns_elsewhere retrySchedule_within).andThen fun schedule _ _ _ => ?_
    refine (returns_elsewhere graceDays_within).andThen fun days _ _ _ => ?_
    exact dunEach_along allowed
  · trivial

end

variable (allowed : ∀ now old, may now old (.event .paymentRecovered))
include allowed

theorem recoverSubscription_along : (recoverSubscription tenantID).MayWrite may opens world := by
  unfold recoverSubscription
  refine (activeSubscription_along tenantID).attempted fun answer later ran found => ?_
  cases answer with
  | error => trivial
  | ok =>
    simp only
    split
    · obtain ⟨rfl, member, _⟩ := found
      refine (transition_along (current_of_mem member) fun old _ => allowed _ old).andThen
        fun _ _ _ _ => ?_
      trivial
    · trivial

theorem applyPaymentEvent_along {providerName : String} {event : Event} {state : PaymentState} :
    (applyPaymentEvent providerName event state).MayWrite may opens world := by
  unfold applyPaymentEvent
  refine (returns_elsewhere attemptByReference_within).andThen fun found _ _ _ => ?_
  cases found with
  | none => trivial
  | some =>
    simp only
    split
    · trivial
    unfold settleAttempt
    refine (returns_elsewhere (completeAttempt_within (by decide))).andThen
      fun _ _ _ _ => ?_
    split
    · trivial
    refine (returns_elsewhere (recordPayment_within (by decide))).andThen
      fun _ _ _ _ => ?_
    refine (recoverSubscription_along allowed).andThen fun _ _ _ _ => ?_
    trivial

theorem replayFromProvider_along {event : WebhookEvent} :
    (replayFromProvider event).MayWrite may opens world := by
  unfold replayFromProvider
  refine (returns_elsewhere providerInstance_within).andThen fun provider _ _ _ => ?_
  refine (returns_elsewhere attemptByEventProvider_within).andThen fun found _ _ _ => ?_
  cases found with
  | none => trivial
  | some =>
    refine along_then (writes_elsewhere _ (by simp [Stmt.writes, CallStmt.writes])) ?_
    split
    · trivial
    · exact applyPaymentEvent_along allowed

theorem retryEach_along {events : List WebhookEvent} :
    (retryEach events).MayWrite may opens world := by
  induction events generalizing world with
  | nil => trivial
  | cons event rest ih =>
    unfold retryEach
    refine (replayFromProvider_along allowed).attempted fun answer _ _ _ => ?_
    cases answer with
    | error | ok =>
      exact (returns_elsewhere (finishWebhook_within (by decide))).andThen
        fun _ _ _ _ => ih

theorem retryFailedWebhooks_along : retryFailedWebhooks.MayWrite may opens world := by
  unfold retryFailedWebhooks
  refine along_then (writes_elsewhere _ (by simp [Stmt.writes, WebhookStmt.writes])) ?_
  exact retryEach_along allowed

end

end Cashp
