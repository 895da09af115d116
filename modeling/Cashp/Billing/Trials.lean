import Cashp.Billing.Renewals

/-!
Plans as the catalogue accepts them (`plans.go`, without their visibility), and renewals of a
subscription in its trial. The pass converts by the end of the trial and bills by the end of the
period.
-/

namespace Cashp

open Kit Kit.Program

def resources : List String := [
  "apps", "backup_gb", "backup_jobs", "bandwidth_gb", "containers", "cpu_cores", "databases",
  "dns_zones", "domains", "mailboxes", "memory_mb", "sites", "storage_gb", "users", "vms"
]

def validResource (name : String) : Bool := resources.contains name

def validateQuotas : List String → List PlanQuota → Except BillingError Unit
  | _, [] => .ok ()
  | seen, quota :: rest =>
    if validResource quota.resource = false then
      .error (errValidation ("Unknown quota resource " ++ quota.resource ++ "."))
    else if seen.contains quota.resource then
      .error (errValidation ("The quota for " ++ quota.resource ++ " is listed twice."))
    else if quota.limitValue < -1 then
      .error (errValidation "A quota limit must be -1 for unlimited or zero or more.")
    else if quota.burstValue < 0 then
      .error (errValidation "A burst allowance cannot be negative.")
    else if quota.overageUnitPriceMinor < 0 then
      .error (errValidation "An overage price cannot be negative.")
    else
      validateQuotas (quota.resource :: seen) rest

def validatePlan (plan : Plan) : Except BillingError Plan :=
  let code := lowerText (trimSpace plan.code)
  let name := trimSpace plan.name
  if code = "" ∨ name = "" then
    .error (errValidation "A plan needs a code and a name.")
  else
    match normalizeCurrency plan.currency with
    | .error reason => .error (errValidation reason)
    | .ok currency =>
      if plan.priceMinor < 0 then
        .error (errValidation "A plan price cannot be negative.")
      else if plan.trialDays < 0 ∨ 365 < plan.trialDays then
        .error (errValidation "The trial length must be between 0 and 365 days.")
      else if plan.graceDays < 0 ∨ 90 < plan.graceDays then
        .error (errValidation "The grace period must be between 0 and 90 days.")
      else
        (validateQuotas [] plan.quotas).map fun _ =>
          { plan with code := code, name := name, currency := currency }

variable {subID : String} {world : World}
variable {now : Int} {subs : List Subscription} {planID tenantID : String} {later : World}
variable {sub : Subscription}

def InTrial (subID : String) (world : World) : Prop :=
  ∃ row ∈ world.subscriptions.rows, row.id = subID ∧ row.state = .trialing ∧
    world.now < row.trialEndsAt

def TrialSpared (subID : String) {Reply : Type} (stmt : Stmt Reply) (world : World) : Prop :=
  InTrial subID world → NotBilled subID stmt world

def NotTrialing (subID : String) (world : World) : Prop :=
  ∀ row ∈ world.subscriptions.rows, row.id = subID → row.state ≠ .trialing

def TrialWithinPeriod (subID : String) (world : World) : Prop :=
  ∀ row ∈ world.subscriptions.rows, row.id = subID → row.state = .trialing →
    row.periodEnd ≤ 0 ∨ row.trialEndsAt ≤ 0 ∨ row.trialEndsAt ≤ row.periodEnd

section

variable {Reply : Type} {stmt : Stmt Reply}
variable {new old : Subscription}

def RenewalWrites {Reply : Type} (stmt : Stmt Reply) (world : World) : Prop :=
  Writes (fun _ _ writing => writing ∈ renewalWritings) (fun _ _ => False) stmt world

theorem trialEndsAt_execute (member : new ∈ (execute stmt world).2.subscriptions.rows)
    (present : old ∈ world.subscriptions.rows) (same : old.id = new.id) :
    old.trialEndsAt = new.trialEndsAt := by
  have unmoved (kept : new ∈ world.subscriptions.rows) : old.trialEndsAt = new.trialEndsAt := by
    rw [subscription_of_id present kept same]
  have assigned {matching : Subscription → Bool} {assign : Subscription → Subscription}
      (ids : ∀ row, (assign row).id = row.id)
      (ends : ∀ row, (assign row).trialEndsAt = row.trialEndsAt)
      (found : new ∈ world.subscriptions.rows.map (Table.assignWhere matching assign)) :
      old.trialEndsAt = new.trialEndsAt := by
    obtain ⟨row, stored, rfl⟩ := List.mem_map.mp found
    unfold Table.assignWhere at same ⊢
    split at same
    · rw [if_pos ‹_›, ends, subscription_of_id present stored (same.trans (ids row))]
    · rw [if_neg ‹_›, subscription_of_id present stored same]
  cases stmt with
  | subscription stmt =>
    cases stmt with
    | insert sub =>
      change new ∈ (Stmt.execute _ _).2.subscriptions.rows at member
      simp only [Stmt.execute, SubscriptionStmt.execute] at member
      cases stored : world.subscriptions.insert sub with
      | none =>
        rw [stored] at member
        exact unmoved member
      | some grown =>
        rw [stored] at member
        have kept : old ∈ grown.rows := by
          rw [Table.insert_rows stored]
          exact List.mem_append_left _ present
        rw [subscription_of_id kept member same]
    | update change =>
      exact assigned change.apply_id (fun _ => by cases change <;> rfl) member
    | setGrace graceEnds now =>
      have ids (row : Subscription) : (row.withGrace graceEnds now).id = row.id := rfl
      have ends (row : Subscription) :
          (row.withGrace graceEnds now).trialEndsAt = row.trialEndsAt := rfl
      exact assigned ids ends member
    | _ => exact unmoved member
  | creditNote note =>
    have same : (execute (Stmt.creditNote note) world).2.subscriptions = world.subscriptions :=
      execute_same (.creditNote note) world .subscription (by simp [Stmt.writes])
    rw [same] at member
    exact unmoved member
  | call stmt => cases stmt <;> exact unmoved member
  | _ => exact unmoved member

theorem renewalWriting_trialing {writing : Writing} {instant : Int}
    (listed : writing ∈ renewalWritings) (changes : writing.Changes instant old new)
    (trialing : new.state = .trialing) : old.state = .trialing := by
  simp only [renewalWritings, List.mem_cons, List.not_mem_nil, or_false] at listed
  rcases listed with rfl | rfl | rfl
  · exact changes.1.symm.trans trialing
  · have moved := changes.1
    rw [trialing] at moved
    cases state : old.state <;> simp [state, nextSubscriptionState] at moved
  have moved := changes.1
  rw [trialing] at moved
  cases state : old.state <;> simp [state, nextSubscriptionState] at moved

theorem trial_before (writes : RenewalWrites stmt world)
    (member : new ∈ (execute stmt world).2.subscriptions.rows) :
    ∃ old ∈ world.subscriptions.rows, old.id = new.id ∧ old.trialEndsAt = new.trialEndsAt ∧
      (new.state = .trialing → old.state = .trialing) := by
  obtain ⟨_, writes⟩ := writes
  rcases writes new member with kept | ⟨_, ⟨old, present, key, writing, listed, changes⟩ | opened⟩
  · exact ⟨new, kept, rfl, rfl, id⟩
  · have same : old.id = new.id := congrArg Prod.fst key
    exact ⟨old, present, same, trialEndsAt_execute member present same,
      renewalWriting_trialing listed changes⟩
  · exact opened.1.elim

theorem notTrialing_execute (writes : RenewalWrites stmt world) (none : NotTrialing subID world) :
    NotTrialing subID (execute stmt world).2 := by
  intro new member mine trialing
  obtain ⟨old, present, same, _, before⟩ := trial_before writes member
  exact none old present (same.trans mine) (before trialing)

theorem notInTrial_execute (writes : RenewalWrites stmt world) (out : ¬ InTrial subID world) :
    ¬ InTrial subID (execute stmt world).2 := by
  rintro ⟨new, member, mine, trialing, early⟩
  obtain ⟨old, present, same, ends, before⟩ := trial_before writes member
  refine out ⟨old, present, same.trans mine, before trialing, ?_⟩
  rw [ends, ← (execute_steady stmt world).now]
  exact early

end

section

variable {now : Int} {due other : Subscription}

theorem renewOne_writes (now : Int) (known : world.Current due) :
    (renewOne due now).Along RenewalWrites (Returns fun _ _ => True) world :=
  renewOne_along known fun _ _ _ _ listed => listed

theorem renewOne_untouched (known : world.Current other) (different : other.id ≠ subID) :
    ∀ row ∈ ((renewOne other now).run world).2.subscriptions.rows, row.id = subID →
      row ∈ world.subscriptions.rows := by
  have held : (renewOne other now).Along
      (Writes (fun _ old _ => old.id ≠ subID) fun _ _ => False) (Returns fun _ _ => True)
      world := by
    refine renewOne_along known fun _ old key _ _ => ?_
    rw [show old.id = other.id from congrArg Prod.fst key]
    exact different
  refine (held.keeps (fun later => ∀ row ∈ later.subscriptions.rows, row.id = subID →
    row ∈ world.subscriptions.rows) (fun _ member _ => member) ?_).run
  intro Reply stmt later writes before new member mine
  obtain ⟨_, writes⟩ := writes
  rcases writes new member with kept | ⟨_, ⟨old, _, key, _, foreign, _⟩ | opened⟩
  · exact before new kept mine
  · exact absurd ((congrArg Prod.fst key).trans mine) foreign
  · exact opened.1.elim

theorem renewOne_stays (known : world.Current other) (different : other.id ≠ due.id)
    (here : due ∈ world.subscriptions.rows) :
    due ∈ ((renewOne other now).run world).2.subscriptions.rows := by
  obtain ⟨stored, present, key, _⟩ := current_run (renewOne other now) (current_of_mem here)
  have sameID : stored.id = due.id := congrArg Prod.fst key
  have old := renewOne_untouched known different stored present sameID
  rwa [subscription_of_id old here sameID] at present

theorem renewOne_converts (here : due ∈ world.subscriptions.rows) (trialing : due.state = .trialing)
    (ended : 0 < due.trialEndsAt ∧ due.trialEndsAt ≤ now) :
    NotTrialing due.id ((renewOne due now).run world).2 := by
  have legal : nextSubscriptionState due.state .trialConverted = .ok .active := by
    rw [trialing]
    rfl
  have converted : (convertTrial due now).Along RenewalWrites (Returns (Carried due)) world :=
    convertTrial_along (current_of_mem here) fun _ _ _ => by decide
  have left : NotTrialing due.id ((convertTrial due now).run world).2 := by
    unfold convertTrial
    rw [if_pos ⟨trialing, ended⟩, transition_final here legal]
    have landed := guardedChange_lands (transitionTo due .active world.now) here
    intro row member mine
    rw [subscription_of_id member landed.2 mine]
    simp [transitionTo, SubscriptionUpdate.apply]
  rw [renewOne_eq, run_bind]
  cases ran : (convertTrial due now).run world with
  | mk answer later =>
    have ends := converted.run
    rw [ran] at ends left
    cases answer with
    | error => exact left
    | ok current =>
      have held : (renewCurrent now current).Along RenewalWrites (Returns fun _ _ => True)
          later := renewCurrent_along ends.1 fun _ _ _ _ listed => listed
      exact (held.keeps (NotTrialing due.id) left fun _ _ writes none =>
        notTrialing_execute writes none).run

theorem renewOne_fits (here : due ∈ world.subscriptions.rows) (elapsed : due.periodEnd ≤ now)
    (started : 0 < due.periodEnd) (fits : TrialWithinPeriod due.id world) :
    TrialWithinPeriod due.id ((renewOne due now).run world).2 := by
  by_cases trialing : due.state = .trialing
  · by_cases early : due.trialEndsAt ≤ 0
    · -- a trial without an end is never converted, and no statement gives it one
      have endless : ∀ row ∈ ((renewOne due now).run world).2.subscriptions.rows,
          row.id = due.id → row.trialEndsAt ≤ 0 := by
        refine ((renewOne_writes now (current_of_mem here)).keeps (fun later =>
          ∀ row ∈ later.subscriptions.rows, row.id = due.id → row.trialEndsAt ≤ 0) ?_ ?_).run
        · intro row member mine
          rwa [subscription_of_id member here mine]
        intro Reply stmt later writes before new member mine
        obtain ⟨old, present, same, ends, _⟩ := trial_before writes member
        rw [← ends]
        exact before old present (same.trans mine)
      exact fun row member mine _ => .inr (.inl (endless row member mine))
    · have ended : due.trialEndsAt ≤ now := by
        have fitting := fits due here rfl trialing
        omega
      have converted := renewOne_converts here trialing ⟨by omega, ended⟩
      exact fun row member mine still => absurd still (converted row member mine)
  · have none : NotTrialing due.id world := by
      intro row member mine
      rwa [subscription_of_id member here mine]
    have converted := ((renewOne_writes now (current_of_mem here)).keeps (NotTrialing due.id)
      none fun _ _ writes none => notTrialing_execute writes none).run
    exact fun row member mine still => absurd still (converted row member mine)

end

theorem renewEach_fits (known : ∀ due ∈ subs, world.Current due)
    (distinct : (subs.map Subscription.id).Nodup)
    (mine : ∀ due ∈ subs, due.id = subID → due ∈ world.subscriptions.rows ∧
      0 < due.periodEnd ∧ due.periodEnd ≤ now) (fits : TrialWithinPeriod subID world) :
    TrialWithinPeriod subID ((renewEach now subs).run world).2 := by
  induction subs generalizing world with
  | nil => exact fits
  | cons due rest ih =>
    have here : due ∈ due :: rest := List.mem_cons_self
    rw [List.map_cons, List.nodup_cons] at distinct
    have carried : ∀ other ∈ rest, ((renewOne due now).run world).2.Current other :=
      fun other member => current_run _ (known other (List.mem_cons_of_mem _ member))
    unfold renewEach
    rw [run_attempted]
    refine ih carried distinct.2 (fun other member same => ?_) ?_
    · have apart : due.id ≠ other.id := fun equal =>
        distinct.1 (equal ▸ List.mem_map_of_mem member)
      obtain ⟨stored, period⟩ := mine other (List.mem_cons_of_mem _ member) same
      exact ⟨renewOne_stays (known due here) apart stored, period⟩
    · by_cases same : due.id = subID
      · obtain ⟨stored, started, elapsed⟩ := mine due here same
        rw [← same] at fits ⊢
        exact renewOne_fits stored elapsed started fits
      · exact fun row member mine =>
          fits row (renewOne_untouched (known due here) same row member mine) mine

theorem renewEach_unbilled (others : ∀ due ∈ subs, due.id ≠ subID) :
    (renewEach now subs).Along (NotBilled subID) (fun _ _ => True) world := by
  induction subs generalizing world with
  | nil => trivial
  | cons due rest ih =>
    unfold renewEach
    refine ((renewOne_unbilled (others due List.mem_cons_self)).imp fun _ _ _ => trivial).attempted
      fun answer later _ _ => ?_
    exact ih fun other member => others other (List.mem_cons_of_mem _ member)

def World.due (world : World) : List Subscription :=
  (execute (Stmt.subscription (.due world.now)) world).1

theorem runRenewals_final : (runRenewals.run world).2 =
    if world.billingEnabled then ((renewEach world.now world.due).run world).2 else world := by
  unfold runRenewals
  rw [run_bind_ok (enabled_run world)]
  split <;> rfl

theorem runRenewals_fits (fits : TrialWithinPeriod subID world) :
    TrialWithinPeriod subID (runRenewals.run world).2 := by
  rw [runRenewals_final]
  split
  · refine renewEach_fits (fun due member => current_of_mem (mem_due.mp member).1) ?_ ?_ fits
    · exact Table.selectOrdered_distinct (List.mem_singleton_self Subscription.id)
    intro due member _
    have listed := mem_due.mp member
    simp only [Subscription.isDue, Bool.and_eq_true, decide_eq_true_eq] at listed
    exact ⟨listed.1, listed.2.1⟩
  · exact fits

theorem runRenewals_spares (fits : TrialWithinPeriod subID world) :
    runRenewals.Meets (TrialSpared subID) world := by
  by_cases trial : InTrial subID world
  · have unbilled : runRenewals.Along (NotBilled subID) (fun _ _ => True) world := by
      unfold runRenewals
      refine (along_unbilled enabled_within).onward (enabled_run world) ?_
      split
      · have clock : unix.run world = (.ok world.now, world) := rfl
        have listed : (dueSubscriptions world.now).run world = (.ok world.due, world) := rfl
        refine (along_unbilled unix_within).onward clock ?_
        refine (along_unbilled dueSubscriptions_within).onward listed ?_
        refine renewEach_unbilled fun due member mine => ?_
        obtain ⟨row, stored, same, trialing, early⟩ := trial
        have found := mem_due.mp member
        simp only [Subscription.isDue, Bool.and_eq_true, decide_eq_true_eq] at found
        rw [subscription_of_id found.1 stored (mine.trans same.symm)] at found
        have fitting := fits row stored same trialing
        omega
      · trivial
    have spared : runRenewals.Along (TrialSpared subID) (fun _ _ => True) world :=
      unbilled.mono (fun _ _ fine _ => fine) fun _ _ _ => trivial
    exact spared.meets
  · have held : runRenewals.Along RenewalWrites (Returns fun _ _ => True) world :=
      runRenewals_along fun _ _ _ _ _ _ _ listed => listed
    have spared : runRenewals.Along (TrialSpared subID) _ world :=
      held.upgrade (fun later => ¬ InTrial subID later) trial fun _ _ writes out =>
        ⟨fun inside => absurd inside out, notInTrial_execute writes out⟩
    exact spared.meets

def TrialFits (target : Plan) (now : Int) : Prop :=
  target.trialDays ≤ 0 ∨ ∀ periodEnd, advancePeriod now target.cycle = some periodEnd →
    addDays now target.trialDays ≤ periodEnd

theorem plan_ok {found : Plan} (ran : (plan planID).run world = (.ok found, later)) :
    later = world ∧ ∃ target, CatalogueStmt.read (.plan planID) world.catalogue = some target ∧
      found = { target with quotas := found.quotas } := by
  unfold plan planQuotas at ran
  rw [run_step] at ran
  obtain ⟨target, _, stored, rest⟩ := ran_bind ran
  obtain ⟨present, rfl⟩ := require_ok stored
  rw [run_step] at rest
  cases rest
  exact ⟨rfl, target, present, rfl⟩

theorem openSubscription_ok {tenantID planID : String} {sub : Subscription} {later : World}
    (ran : (openSubscription tenantID planID).run world = (.ok sub, later)) :
    sub ∈ later.subscriptions.rows ∧ ∃ target buyer id,
      CatalogueStmt.read (.plan planID) world.catalogue = some target ∧
        sub = openingSubscription target buyer id tenantID world.now := by
  unfold openSubscription at ran
  obtain ⟨found, _, planned, opened⟩ := ran_bind ran
  obtain ⟨unmoved, target, listed, same⟩ := plan_ok planned
  rw [unmoved] at opened
  obtain ⟨_, ensuring⟩ := ran_refuse opened
  obtain ⟨buyer, known, ensured, timed⟩ := ran_bind ensuring
  obtain ⟨now, _, clock, naming⟩ := ran_bind timed
  obtain ⟨id, drawn, named, storing⟩ := ran_bind naming
  rw [run_step] at storing
  obtain ⟨kept, ended⟩ := ran_refuse storing
  cases ended
  cases clock
  have steady := (run_steady (ensureAccount tenantID) world).now
  rw [ensured] at steady
  refine ⟨mem_insert_subscription (by simpa using kept), target, buyer, id, listed, ?_⟩
  rw [← steady, same]
  rfl

theorem subscribe_ok (ran : (subscribe tenantID planID).run world = (.ok sub, later)) :
    sub ∈ later.subscriptions.rows ∧ ∃ target buyer id,
      CatalogueStmt.read (.plan planID) world.catalogue = some target ∧
        sub = openingSubscription target buyer id tenantID world.now := by
  unfold subscribe at ran
  rw [run_attempted] at ran
  have unchanged : ((activeSubscription tenantID).run world).2 = world :=
    run_unchanged activeSubscription_within world
  cases answered : (activeSubscription tenantID).run world with
  | mk answer =>
    rw [answered] at ran unchanged
    dsimp only at unchanged
    subst unchanged
    cases answer with
    | ok => simp at ran
    | error =>
      dsimp only at ran
      split at ran
      · exact openSubscription_ok ran
      · simp at ran

theorem opening_fits {target : Plan} {buyer : Account} {id : String} (fits : TrialFits target now)
    (present : openingSubscription target buyer id tenantID now ∈ world.subscriptions.rows) :
    TrialWithinPeriod id world := by
  intro row member mine trialing
  rw [subscription_of_id member present mine] at trialing ⊢
  rcases fits with none | within
  · grind [openingSubscription]
  · grind [openingSubscription, advancePeriod]

/-- A subscription whose trial ends within its first period is never billed in its trial,
whatever the clock values of the renewal passes. -/
theorem trial_not_billed (tenantID planID : String) (before start : World) (sub : Subscription)
    (target : Plan) (clocks : List Int)
    (created : (subscribe tenantID planID).run before = (.ok sub, start))
    (listed : CatalogueStmt.read (.plan planID) before.catalogue = some target)
    (fits : TrialFits target before.now) :
    Every renewAt (fun now world =>
      runRenewals.Meets (TrialSpared sub.id) { world with now := now }) start clocks := by
  obtain ⟨member, found, buyer, id, same, rfl⟩ := subscribe_ok created
  cases Option.some.inj (same.symm.trans listed)
  have within : TrialWithinPeriod id start := opening_fits fits member
  refine every_of_kept (TrialWithinPeriod id) within fun now world within => ?_
  exact ⟨runRenewals_spares within, runRenewals_fits within⟩

instance {Reply : Type} (stmt : Stmt Reply) (world : World) :
    Decidable (TrialSpared subID stmt world) := by
  unfold TrialSpared InTrial NotBilled
  infer_instance

def trialPlan (trialDays : Int) : Plan :=
  { id := "trial", code := "trial", name := "Trial", currency := "USD", priceMinor := 500
    cycle := .monthly, trialDays := trialDays, graceDays := 7, overagePolicy := .block
    active := true }

def trialShop (trialDays : Int) : World :=
  { catalogue := { plans := [trialPlan trialDays], settings := [("billing_enabled", "true")] }
    now := 1000, names := Supply.outgrow }

def trialSubscription (trialDays : Int) : Subscription :=
  openingSubscription (trialPlan trialDays)
    { id := "f", tenantID := "acme", currency := "USD", createdAt := 1000, updatedAt := 1000 }
    "ff" "acme" 1000

theorem fortnight_not_billed :
    Every renewAt (fun now world => runRenewals.Meets (TrialSpared "ff") { world with now := now })
      ((subscribe "acme" "trial").final (trialShop 14)) [600000, 1300000, 3000000] :=
  trial_not_billed "acme" "trial" (trialShop 14) _ (trialSubscription 14) (trialPlan 14) _
    rfl rfl (.inr (by decide))

theorem long_trial_billed :
    validatePlan (trialPlan 45) = .ok (trialPlan 45) ∧
      (subscribe "acme" "trial").run (trialShop 45) =
        (.ok (trialSubscription 45), (subscribe "acme" "trial").final (trialShop 45)) ∧
      ¬ Every renewAt (fun now world =>
        runRenewals.Meets (TrialSpared "ff") { world with now := now })
        ((subscribe "acme" "trial").final (trialShop 45)) [3000000] :=
  ⟨by decide +kernel, rfl, by decide +kernel⟩

end Cashp
