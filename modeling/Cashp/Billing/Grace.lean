import Cashp.Billing.Collection
import Cashp.Billing.Renewals

/-!
The grace of a subscription in arrears over runs of the dunning pass. The date it ends is never
stored, so later passes measure it from the due dates of the unpaid invoices.
-/

namespace Cashp

open Kit Kit.Program

def World.graceSeconds (world : World) : Int :=
  match (graceDays.run world).1 with
  | .ok days => days * secondsPerDay
  | .error _ => 0

def Subscription.graceEnd (sub : Subscription) (inv : Invoice) (graceSeconds : Int) : Int :=
  if sub.graceEndsAt ≤ 0 then inv.dueAt + graceSeconds else sub.graceEndsAt

def Subscription.promisedEnd (sub : Subscription) (now : Int) (world : World) : Int :=
  addDays now (graceLength ((plan sub.planID).run world).1)

def Owes (sub : Subscription) (inv : Invoice) : Prop :=
  inv.subscriptionID = sub.id ∧ inv.tenantID = sub.tenantID ∧ 0 < inv.balanceDueMinor

instance (sub : Subscription) (inv : Invoice) : Decidable (Owes sub inv) :=
  inferInstanceAs (Decidable (_ ∧ _ ∧ _))

structure Dunned (now graceSeconds : Int) (invoices : List Invoice) (old new : Subscription) :
    Prop where
  key : new.key = old.key
  graceEndsAt : new.graceEndsAt = old.graceEndsAt
  moved : new.state ≠ old.state → ∃ inv ∈ invoices, Owes old inv
  expired : new.state = .expired → old.state ≠ .expired →
    ∃ inv ∈ invoices, Owes old inv ∧ old.graceEnd inv graceSeconds ≤ now

def World.Dunned (now graceSeconds : Int) (invoices : List Invoice) (before after : World) : Prop :=
  ∀ new ∈ after.subscriptions.rows, ∃ old ∈ before.subscriptions.rows,
    Cashp.Dunned now graceSeconds invoices old new

section

variable {now graceSeconds : Int} {invoices : List Invoice} {old middle new : Subscription}
variable {first second third : World}

theorem owes_of_key (key : middle.key = old.key) {inv : Invoice} :
    Owes middle inv ↔ Owes old inv := by
  simp_all [Owes, Subscription.key]

theorem Dunned.refl (sub : Subscription) : Dunned now graceSeconds invoices sub sub :=
  ⟨rfl, rfl, fun changed => absurd rfl changed, fun here before => absurd here before⟩

theorem Dunned.trans (early : Dunned now graceSeconds invoices old middle)
    (late : Dunned now graceSeconds invoices middle new) :
    Dunned now graceSeconds invoices old new := by
  refine ⟨late.key.trans early.key, late.graceEndsAt.trans early.graceEndsAt, ?_, ?_⟩
  · intro changed
    by_cases same : middle.state = old.state
    · obtain ⟨inv, listed, owes⟩ := late.moved (by rwa [same])
      exact ⟨inv, listed, (owes_of_key early.key).mp owes⟩
    · exact early.moved same
  · intro ended before
    by_cases passed : middle.state = .expired
    · exact early.expired passed before
    obtain ⟨inv, listed, owes, lapsed⟩ := late.expired ended passed
    refine ⟨inv, listed, (owes_of_key early.key).mp owes, ?_⟩
    unfold Subscription.graceEnd at lapsed ⊢
    rwa [early.graceEndsAt] at lapsed

theorem World.Dunned.of_same (same : second.subscriptions = first.subscriptions) :
    World.Dunned now graceSeconds invoices first second := by
  intro row member
  rw [same] at member
  exact ⟨row, member, .refl row⟩

theorem World.Dunned.trans (early : World.Dunned now graceSeconds invoices first second)
    (late : World.Dunned now graceSeconds invoices second third) :
    World.Dunned now graceSeconds invoices first third := by
  intro new member
  obtain ⟨middle, stored, onward⟩ := late new member
  obtain ⟨old, present, before⟩ := early middle stored
  exact ⟨old, present, before.trans onward⟩

end

variable {later : World}

section

variable {now graceSeconds : Int} {invoices : List Invoice} {inv current : Invoice}
variable {sub : Subscription} {world : World}

theorem guardedChange_row (change : SubscriptionUpdate) (member : sub ∈ world.subscriptions.rows)
    {new : Subscription}
    (stored : new ∈ (execute (guardedChange sub change) world).2.subscriptions.rows) :
    new ∈ world.subscriptions.rows ∨ new = change.apply sub := by
  by_cases same : new.id = sub.id
  · have landed := (guardedChange_lands change member).2
    exact .inr (subscription_of_id stored landed (same.trans (change.apply_id sub).symm))
  · exact .inl (guardedChange_others change stored same)

theorem transition_dunned (target : SubscriptionState) (instant : Int)
    (member : sub ∈ world.subscriptions.rows) (listed : inv ∈ invoices) (owes : Owes sub inv)
    (lapsed : target = .expired → sub.graceEnd inv graceSeconds ≤ now) :
    World.Dunned now graceSeconds invoices world
      (execute (guardedChange sub (transitionTo sub target instant)) world).2 := by
  intro new stored
  rcases guardedChange_row _ member stored with kept | rfl
  · exact ⟨new, kept, .refl new⟩
  · exact ⟨sub, member, rfl, rfl, fun _ => ⟨inv, listed, owes⟩, fun ended _ =>
      ⟨inv, listed, owes, lapsed ended⟩⟩

theorem startGrace_refused (sub : Subscription) (arrears : sub.state = .pastDue) (world : World) :
    ((startGrace sub).run world).2 = world := by
  have illegal : ∃ reason, nextSubscriptionState sub.state .paymentFailed = .error reason := by
    rw [arrears]
    exact ⟨_, rfl⟩
  obtain ⟨reason, illegal⟩ := illegal
  have read : ((plan sub.planID).run world).2 = world := run_unchanged plan_within world
  unfold startGrace unix
  rw [run_attempted, read, run_step, run_bind_error (transition_illegal illegal)]
  rfl

theorem subscription_named {tenantID subID : String}
    (ran : (subscription tenantID subID).run world = (.ok sub, later)) :
    isBlank tenantID = false := by
  unfold subscription requireTenant at ran
  simpa using (ran_refuse ran).1

theorem suspend_dunned (named : isBlank sub.tenantID = false)
    (member : sub ∈ world.subscriptions.rows) (listed : inv ∈ invoices) (owes : Owes sub inv)
    (arrears : sub.state = .pastDue) (lapsed : sub.graceEnd inv graceSeconds ≤ now) :
    World.Dunned now graceSeconds invoices world ((suspend sub current).run world).2 := by
  have legal : nextSubscriptionState sub.state .graceExpired = .ok .expired := by rw [arrears]; rfl
  have elsewhere : Area.invoice ∈ without [.subscription] := by decide
  unfold suspend
  rw [run_bind_ok (transition_run named member legal)]
  refine (transition_dunned .expired world.now member listed owes fun _ => lapsed).trans
    (.of_same ?_)
  exact run_without .subscription (by grind) _

theorem escalateSubscription_eq : escalateSubscription inv sub graceSeconds now =
    if sub.state = .active ∨ sub.state = .trialing then do
      let moved ← transition sub .paymentFailed
      let _ ← startGrace moved
      pure ()
    else if sub.state ≠ .pastDue then pure ()
    else if now < sub.graceEnd inv graceSeconds then pure () else suspend sub inv := rfl

theorem escalateSubscription_dunned (named : isBlank sub.tenantID = false)
    (member : sub ∈ world.subscriptions.rows) (listed : inv ∈ invoices) (owes : Owes sub inv)
    (due : current.dueAt = inv.dueAt) : World.Dunned now graceSeconds invoices world
      ((escalateSubscription current sub graceSeconds now).run world).2 := by
  rw [escalateSubscription_eq]
  split
  · rename_i entitled
    rcases entitled with active | trialing
    · have legal : nextSubscriptionState sub.state .paymentFailed = .ok .pastDue := by
        rw [active]
        rfl
      -- the second transition of the grace finds the row in arrears and refuses
      have refused := startGrace_refused ((transitionTo sub .pastDue world.now).apply sub) rfl
        (execute (guardedChange sub (transitionTo sub .pastDue world.now)) world).2
      rw [run_bind_ok (transition_run named member legal)]
      refine run_bind_keeps _ _ ?_ fun _ later kept => kept
      rw [refused]
      exact transition_dunned .pastDue world.now member listed owes fun ended => by simp at ended
    · have illegal : ∃ reason, nextSubscriptionState sub.state .paymentFailed = .error reason := by
        rw [trialing]
        exact ⟨_, rfl⟩
      obtain ⟨reason, illegal⟩ := illegal
      rw [run_bind_error (transition_illegal illegal)]
      exact .of_same rfl
  · split
    · exact .of_same rfl
    rename_i arrears
    have sameEnd : sub.graceEnd current graceSeconds = sub.graceEnd inv graceSeconds := by
      unfold Subscription.graceEnd
      rw [due]
    split
    · exact .of_same rfl
    rename_i lapsed
    refine suspend_dunned named member listed owes (by simpa using arrears) ?_
    rw [← sameEnd]
    omega

theorem escalate_dunned (listed : inv ∈ invoices) (collected : inv.Collected current)
    (owed : 0 < inv.balanceDueMinor) : World.Dunned now graceSeconds invoices world
      ((escalate current graceSeconds now).run world).2 := by
  have elsewhere : Area.invoice ∈ without [.subscription] := by decide
  unfold escalate
  split
  · exact .of_same (run_without .subscription (by grind) _)
  have read : ((subscription current.tenantID current.subscriptionID).run world).2 = world :=
    run_unchanged subscription_within world
  rw [run_attempted, read]
  cases found : ((subscription current.tenantID current.subscriptionID).run world).1 with
  | error =>
    refine .of_same (run_without .subscription ?_ _)
    grind
  | ok sub =>
    have ran : (subscription current.tenantID current.subscriptionID).run world =
        (.ok sub, world) := Prod.ext found read
    obtain ⟨_, member, matching⟩ := subscription_ok ran
    obtain ⟨sameID, sameTenant⟩ := subscription_isRow.mp matching
    have named := subscription_named ran
    rw [← sameTenant] at named
    refine escalateSubscription_dunned named member listed ⟨?_, ?_, owed⟩ collected.dueAt
    · rw [← collected.subscriptionID, sameID]
    · rw [← collected.tenantID, sameTenant]

end

section

variable {now graceSeconds : Int} {schedule : List Int} {invoices : List Invoice}
variable {inv : Invoice} {start world : World} {ids : List String}

theorem retryCharge_collecting : Collecting inv.id (retryCharge schedule inv now) world := by
  unfold retryCharge attemptsForInvoice
  refine (collecting_elsewhere (by grind)).andThen fun attempts _ _ => ?_
  split
  · trivial
  refine chargeInvoice_collecting.attempted fun _ _ _ => ?_
  refine (collecting_elsewhere invoice_within).attempted fun answer _ _ => ?_
  cases answer <;> trivial

theorem retryCharge_collected {current : Invoice}
    (kept : World.Collected ids start world) (member : inv ∈ start.invoices.rows)
    (among : inv.id ∈ ids) (ran : (retryCharge schedule inv now).run world = (.ok current, later)) :
    inv.Collected current := by
  unfold retryCharge at ran
  obtain ⟨attempts, _, looked, rest⟩ := ran_bind ran
  have unmoved : (_, world) = (_, _) := looked
  obtain ⟨_, rfl⟩ := Prod.mk.inj unmoved
  split at rest
  · cases rest
    exact .refl inv
  rename_i offset _
  have charged : World.Collected [inv.id] world
      ((chargeInvoice inv.tenantID inv.id (dunningKey inv offset)).run world).2 :=
    chargeInvoice_collecting.collected
  have onward := kept.trans (charged.mono (by simpa using among))
  rw [run_attempted, run_attempted] at rest
  cases found : ((invoice inv.tenantID inv.id).run
      ((chargeInvoice inv.tenantID inv.id (dunningKey inv offset)).run world).2).1 with
  | error =>
    rw [found] at rest
    cases rest
    exact .refl inv
  | ok =>
    rw [found] at rest
    cases rest
    obtain ⟨_, row, stored, hit, same⟩ := invoice_ok (Prod.ext found rfl)
    obtain ⟨old, present, collected, _⟩ := onward row stored
    have sameID : old.id = inv.id := by
      simp only [Invoice.isRow, Bool.and_eq_true, beq_iff_eq] at hit
      rw [← collected.id, hit.1]
    rw [← invoice_of_id present member sameID, same]
    exact ⟨collected.terms, collected.paid⟩

theorem escalate_collecting : Collecting inv.id (escalate inv graceSeconds now) world := by
  unfold escalate
  split
  · split
    · exact markInvoiceState_collecting.andThen fun _ _ _ => trivial
    · trivial
  refine (collecting_elsewhere subscription_within).attempted fun answer _ _ => ?_
  cases answer with
  | error =>
    simp only
    split <;> trivial
  | ok =>
    have elsewhere : Area.subscription ∈ without [.invoice] := by decide
    dsimp only
    rw [escalateSubscription_eq]
    split
    · exact collecting_elsewhere (by grind)
    split
    · trivial
    split
    · trivial
    unfold suspend
    refine (collecting_elsewhere (by grind)).andThen fun _ _ _ => ?_
    split
    · exact markInvoiceState_collecting.andThen fun _ _ _ => trivial
    · trivial

theorem dunInvoice_step (now graceSeconds : Int) (schedule : List Int)
    (kept : World.Collected ids start world) (member : inv ∈ start.invoices.rows)
    (among : inv.id ∈ ids) (listed : inv ∈ invoices) :
    World.Collected ids start ((dunInvoice schedule graceSeconds now inv).run world).2 ∧
      World.Dunned now graceSeconds invoices world
        ((dunInvoice schedule graceSeconds now inv).run world).2 := by
  have alone : [inv.id] ⊆ ids := by simpa using among
  unfold dunInvoice
  split
  · exact ⟨kept, .of_same rfl⟩
  rename_i owed
  have retried : World.Collected [inv.id] world ((retryCharge schedule inv now).run world).2 :=
    retryCharge_collecting.collected
  have still : ((retryCharge schedule inv now).run world).2.subscriptions = world.subscriptions :=
    run_without .subscription (retryCharge_within (by decide)) world
  rw [run_bind]
  cases ran : (retryCharge schedule inv now).run world with
  | mk answer later =>
    rw [ran] at retried still
    have onward := kept.trans (retried.mono alone)
    cases answer with
    | error => exact ⟨onward, .of_same still⟩
    | ok current =>
      have collected := retryCharge_collected kept member among ran
      dsimp only
      split
      · exact ⟨onward, .of_same still⟩
      have escalated : World.Collected [current.id] later
          ((escalate current graceSeconds now).run later).2 :=
        escalate_collecting.collected
      rw [collected.id] at escalated
      rw [run_attempted]
      exact ⟨onward.trans (escalated.mono alone), (World.Dunned.of_same still).trans
        (escalate_dunned listed collected (Int.not_le.mp owed))⟩

theorem dunEach_step {rest : List Invoice}
    (kept : World.Collected ids start world) (subset : rest ⊆ invoices)
    (members : ∀ inv ∈ rest, inv ∈ start.invoices.rows ∧ inv.id ∈ ids) :
    World.Collected ids start ((dunEach schedule graceSeconds now rest).run world).2 ∧
      World.Dunned now graceSeconds invoices world
        ((dunEach schedule graceSeconds now rest).run world).2 := by
  induction rest generalizing world with
  | nil => exact ⟨kept, .of_same rfl⟩
  | cons inv rest ih =>
    have here := members inv List.mem_cons_self
    have first := dunInvoice_step now graceSeconds schedule kept here.1 here.2
      (subset List.mem_cons_self)
    unfold dunEach
    rw [run_bind]
    cases ran : (dunInvoice schedule graceSeconds now inv).run world with
    | mk answer =>
      rw [ran] at first
      cases answer with
      | error => exact first
      | ok =>
        have onward := ih first.1 (fun other among => subset (List.mem_cons_of_mem _ among))
          fun other among => members other (List.mem_cons_of_mem _ among)
        exact ⟨onward.1, first.2.trans onward.2⟩

def World.openInvoices (world : World) : List Invoice :=
  (execute (Stmt.invoice (.openBefore world.now)) world).1

theorem mem_openInvoices :
    inv ∈ world.openInvoices ↔ inv ∈ world.invoices.rows ∧ inv.isOpen world.now = true :=
  Table.mem_selectOrdered

theorem graceDays_answers (world : World) :
    ∃ days, ∀ later : World, later.catalogue = world.catalogue →
      graceDays.run later = (.ok days, later) := by
  obtain ⟨raw, read⟩ := setting_answers "grace_period_days" "" world
  let stored : Int := if raw = "" then 7 else (parseInt64 (trimSpace raw)).getD 7
  refine ⟨if stored < 0 then 7 else stored, fun later same => ?_⟩
  unfold graceDays settingInt
  exact run_bind_ok (run_bind_ok (read later same))

theorem graceSeconds_of_catalogue (same : later.catalogue = world.catalogue) :
    later.graceSeconds = world.graceSeconds := by
  obtain ⟨days, answers⟩ := graceDays_answers world
  rw [World.graceSeconds, World.graceSeconds, answers later same, answers world rfl]

theorem runDunning_final (world : World) : ∃ schedule, runDunning.final world =
    if world.billingEnabled then
      ((dunEach schedule world.graceSeconds world.now world.openInvoices).run world).2
    else world := by
  obtain ⟨raw, read⟩ := setting_run "retry_schedule_days" "1,3,5,7" world
  obtain ⟨days, answers⟩ := graceDays_answers world
  have grace := answers world rfl
  have seconds : world.graceSeconds = days * secondsPerDay := by rw [World.graceSeconds, grace]
  have planned : ∃ schedule, retrySchedule.run world = (.ok schedule, world) := by
    unfold retrySchedule
    exact ⟨_, run_bind_ok read⟩
  obtain ⟨schedule, planned⟩ := planned
  have clock : unix.run world = (.ok world.now, world) := rfl
  have listed : (openInvoices world.now).run world = (.ok world.openInvoices, world) := rfl
  refine ⟨schedule, ?_⟩
  unfold runDunning final
  rw [run_bind_ok (enabled_run world)]
  split
  · rw [run_bind_ok clock, run_bind_ok listed, run_bind_ok planned, run_bind_ok grace,
      seconds]
  · rfl

theorem runDunning_step (world : World) :
    World.Collected (world.openInvoices.map Invoice.id) world (runDunning.final world) ∧
      World.Dunned world.now world.graceSeconds world.openInvoices world
        (runDunning.final world) := by
  obtain ⟨schedule, left⟩ := runDunning_final world
  rw [left]
  split
  · exact dunEach_step (.refl _ world) (List.Subset.refl _) fun inv member =>
      ⟨(mem_openInvoices.mp member).1, List.mem_map_of_mem member⟩
  · exact ⟨.refl _ world, .of_same rfl⟩

end

def dunAt (now : Int) (world : World) : World :=
  runDunning.final { world with now := now }

def Expired (subID : String) (world : World) : Prop :=
  ∃ sub ∈ world.subscriptions.rows, sub.id = subID ∧ sub.state = .expired

def Spares (subID : String) (deadline now : Int) (world : World) : Prop :=
  now < deadline → Expired subID (dunAt now world) → Expired subID world

def Demoted (sub : Subscription) (now : Int) (world : World) : Prop :=
  sub ∈ world.subscriptions.rows ∧ sub.state = .active ∧
    ∃ moved ∈ (dunAt now world).subscriptions.rows, moved.id = sub.id ∧ moved.state ≠ .active

/-- From each pass that puts the subscription in arrears on, that pass included, none expires
it before the grace its plan gives is over. -/
def GraceKept (subID : String) : World → List Int → Prop
  | _, [] => True
  | world, now :: rest =>
    (∀ sub, sub.id = subID → Demoted sub now world →
      Every dunAt (Spares subID (sub.promisedEnd now world)) world (now :: rest)) ∧
    GraceKept subID (dunAt now world) rest

def Invoice.awaited (inv : Invoice) : Bool := inv.isOpen inv.dueAt

/-- If the pass finds the subscription active behind an unpaid invoice, then for every unpaid
invoice the date the passes go by is not before the end of the grace that would start now. -/
def GraceCovered (subID : String) (now : Int) (world : World) : Prop :=
  ∀ sub ∈ world.subscriptions.rows, sub.id = subID → sub.state = .active →
    (∃ inv ∈ world.invoices.rows, Owes sub inv ∧ inv.isOpen now = true) →
    ∀ inv ∈ world.invoices.rows, Owes sub inv → inv.awaited = true →
      sub.promisedEnd now world ≤ sub.graceEnd inv world.graceSeconds

def Sheltered (subID : String) (deadline : Int) (world : World) : Prop :=
  ∀ sub ∈ world.subscriptions.rows, sub.id = subID →
    ∀ inv ∈ world.invoices.rows, Owes sub inv → inv.awaited = true →
      deadline ≤ sub.graceEnd inv world.graceSeconds

section

variable {subID : String} {deadline now : Int} {world later : World}

theorem isOpen_iff {inv : Invoice} :
    inv.isOpen now = true ↔ inv.awaited = true ∧ inv.dueAt ≤ now := by
  grind [Invoice.isOpen, Invoice.awaited]

theorem graceSeconds_dunAt : (dunAt now world).graceSeconds = world.graceSeconds :=
  graceSeconds_of_catalogue (run_steady runDunning { world with now := now }).catalogue

theorem dunAt_step (now : Int) (world : World) :
    World.Collected (({ world with now := now } : World).openInvoices.map Invoice.id) world
        (dunAt now world) ∧
      World.Dunned now world.graceSeconds ({ world with now := now } : World).openInvoices world
        (dunAt now world) := by
  have step := runDunning_step { world with now := now }
  have same : ({ world with now := now } : World).graceSeconds = world.graceSeconds :=
    graceSeconds_of_catalogue rfl
  rw [same] at step
  exact step

theorem sheltered_spares (sheltered : Sheltered subID deadline world) :
    Spares subID deadline now world := by
  rintro early ⟨new, member, mine, ended⟩
  obtain ⟨old, present, dunned⟩ := (dunAt_step now world).2 new member
  have same : old.id = subID := (congrArg Prod.fst dunned.key).symm.trans mine
  by_cases before : old.state = .expired
  · exact ⟨old, present, same, before⟩
  obtain ⟨inv, listed, owes, lapsed⟩ := dunned.expired ended before
  have opened := mem_openInvoices.mp listed
  have bound := sheltered old present same inv opened.1 owes (isOpen_iff.mp opened.2).1
  omega

theorem sheltered_dunAt (sheltered : Sheltered subID deadline world) :
    Sheltered subID deadline (dunAt now world) := by
  intro sub member mine inv stored owes awaited
  obtain ⟨old, present, dunned⟩ := (dunAt_step now world).2 sub member
  obtain ⟨first, was, collected, unlisted⟩ := (dunAt_step now world).1 inv stored
  have same : old.id = subID := (congrArg Prod.fst dunned.key).symm.trans mine
  have owed : Owes old first := by
    have ours := (owes_of_key dunned.key).mp owes
    exact ⟨collected.subscriptionID.symm.trans ours.1, collected.tenantID.symm.trans ours.2.1,
      collected.unpaid ours.2.2⟩
  have waiting : first.awaited = true := by
    by_cases listed : inv.id ∈ ({ world with now := now } : World).openInvoices.map Invoice.id
    · obtain ⟨row, worked, sameID⟩ := List.mem_map.mp listed
      have opened := mem_openInvoices.mp worked
      rw [invoice_of_id was opened.1 (collected.id.symm.trans sameID.symm)]
      exact (isOpen_iff.mp opened.2).1
    · rwa [← unlisted listed]
  have bound := sheltered old present same first was owed waiting
  unfold Subscription.graceEnd at bound ⊢
  rwa [graceSeconds_dunAt, dunned.graceEndsAt, collected.dueAt]

theorem demoted_owes {sub : Subscription} (demoted : Demoted sub now world) :
    ∃ inv ∈ world.invoices.rows, Owes sub inv ∧ inv.isOpen now = true := by
  obtain ⟨member, active, moved, stored, same, left⟩ := demoted
  obtain ⟨old, present, dunned⟩ := (dunAt_step now world).2 moved stored
  have found : old = sub :=
    subscription_of_id present member ((congrArg Prod.fst dunned.key).symm.trans same)
  subst found
  obtain ⟨inv, listed, owes⟩ := dunned.moved (by rwa [active])
  have opened := mem_openInvoices.mp listed
  exact ⟨inv, opened.1, owes, opened.2⟩

/-- If at every pass that finds the subscription active behind an unpaid invoice the dates the
passes go by cover the plan's grace, then no grace is cut short. -/
theorem grace_kept (subID : String) (world : World) (clocks : List Int)
    (covered : Every dunAt (GraceCovered subID) world clocks) : GraceKept subID world clocks := by
  induction clocks generalizing world with
  | nil => trivial
  | cons now rest ih =>
    refine ⟨fun sub mine demoted => ?_, ih _ covered.2⟩
    have start : Sheltered subID (sub.promisedEnd now world) world := by
      intro other member same inv stored owes awaited
      cases subscription_of_id member demoted.1 (same.trans mine.symm)
      exact covered.1 sub demoted.1 mine demoted.2.1 (demoted_owes demoted) inv stored owes
        awaited
    exact every_of_kept _ start fun _ _ sheltered =>
      ⟨sheltered_spares sheltered, sheltered_dunAt sheltered⟩

end

section

variable {subID : String} {sub : Subscription} {deadline now : Int} {world : World}

instance : Decidable (Spares subID deadline now world) := by
  unfold Spares Expired
  infer_instance

instance : Decidable (Demoted sub now world) := by
  unfold Demoted
  infer_instance

instance : Decidable (GraceCovered subID now world) := by
  unfold GraceCovered
  refine @List.decidableBAll _ _ (fun sub => ?_) _
  exact forall_prop_decidable _

end

def debtor : Subscription :=
  { id := "sub", tenantID := "acme", accountID := "acct", planID := "paid", state := .active
    cycle := .monthly, currency := "USD", priceMinor := 500, periodStart := 0
    periodEnd := 2678400, createdAt := 0, updatedAt := 0 }

def unpaidInvoice : Invoice :=
  { id := "inv", tenantID := "acme", accountID := "acct", subscriptionID := "sub"
    number := "INV-000001", state := .issued, currency := "USD", subtotalMinor := 500
    totalMinor := 500, periodStart := 0, periodEnd := 2678400, issuedAt := 1000, dueAt := 1000
    createdAt := 1000, updatedAt := 1000 }

def arrearsShop (days : String) : World where
  catalogue :=
    { plans := [paidPlan]
      settings := [("billing_enabled", "true"), ("grace_period_days", days)] }
  subscriptions := ⟨[debtor], by simp⟩
  invoices := ⟨[unpaidInvoice], by simp⟩
  now := 0
  names := Supply.outgrow

theorem early_pass_keeps_grace : Demoted debtor 90000 (arrearsShop "14") ∧
      GraceKept "sub" (arrearsShop "14") [90000, 600000, 1300000] :=
  ⟨by decide +kernel, grace_kept "sub" (arrearsShop "14") _ (by decide +kernel)⟩

/-- The first pass comes after the operator's week is over. The next one, an hour later,
expires the subscription that still has its plan's week ahead. -/
theorem late_pass_cuts_grace : Demoted debtor 700000 (arrearsShop "7") ∧
      debtor.promisedEnd 700000 (arrearsShop "7") = 1304800 ∧
      Expired "sub" (dunAt 703600 (dunAt 700000 (arrearsShop "7"))) ∧
      ¬ GraceKept "sub" (arrearsShop "7") [700000, 703600] := by
  have demoted : Demoted debtor 700000 (arrearsShop "7") := by decide +kernel
  have promised : debtor.promisedEnd 700000 (arrearsShop "7") = 1304800 := by decide +kernel
  have expired : Expired "sub" (dunAt 703600 (dunAt 700000 (arrearsShop "7"))) := by
    unfold Expired
    decide +kernel
  refine ⟨demoted, promised, expired, fun kept => ?_⟩
  have spared := (kept.1 debtor rfl demoted).2.1
  rw [promised] at spared
  revert spared
  decide +kernel

end Cashp
