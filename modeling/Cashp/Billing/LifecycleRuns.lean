import Cashp.Billing.Lifecycle
import Cashp.Billing.Transitions
import Cashp.Kit.Run

/-!
Runs of the operations that write subscriptions. A row handed to an operation was stored at an
earlier point of the run. What a step can write is said once; properties of the runs are properties
of single writes.
-/

namespace Cashp

open Kit Kit.Program

inductive LifecycleStep
  | subscribe (tenantID planID : String)
  | changePlan (tenantID toPlanID : String)
  | cancel (tenantID subID : String) (immediate : Bool)
  | resume (tenantID subID : String)
  | transition (sub : Subscription) (event : LifecycleEvent)
  | startGrace (sub : Subscription)
  | advanceRenewal (sub : Subscription)
  | applyPendingPlan (sub : Subscription)
  | runRenewals
  | runDunning
  | retryFailedWebhooks

def LifecycleStep.program : LifecycleStep → Service Unit
  | .subscribe tenantID planID => (Cashp.subscribe tenantID planID).ignore
  | .changePlan tenantID toPlanID => (Cashp.changePlan tenantID toPlanID).ignore
  | .cancel tenantID subID immediate => (Cashp.cancel tenantID subID immediate).ignore
  | .resume tenantID subID => (Cashp.resume tenantID subID).ignore
  | .transition sub event => (Cashp.transition sub event).ignore
  | .startGrace sub => (Cashp.startGrace sub).ignore
  | .advanceRenewal sub => (Cashp.advanceRenewal sub).ignore
  | .applyPendingPlan sub => (Cashp.applyPendingPlan sub).ignore
  | .runRenewals => Cashp.runRenewals
  | .runDunning => Cashp.runDunning
  | .retryFailedWebhooks => Cashp.retryFailedWebhooks

def LifecycleStep.given : LifecycleStep → List Subscription
  | .transition sub _ | .startGrace sub | .advanceRenewal sub | .applyPendingPlan sub => [sub]
  | _ => []

structure History where
  world : World
  read : List Subscription

def History.begin (world : World) : History := ⟨world, world.subscriptions.rows⟩

structure TimedStep where
  now : Int
  step : LifecycleStep

namespace TimedStep

def world (entry : TimedStep) (history : History) : World :=
  { history.world with now := entry.now }

def take (entry : TimedStep) (history : History) : History where
  world := entry.step.program.final (entry.world history)
  read := history.read ++
    (entry.step.program.final (entry.world history)).subscriptions.rows

def Informed (entry : TimedStep) (history : History) : Prop :=
  ∀ sub ∈ entry.step.given, sub ∈ history.read

def Issues (allowed : {Reply : Type} → Stmt Reply → World → Prop) (entry : TimedStep)
    (history : History) : Prop :=
  entry.step.program.Meets allowed (entry.world history)

def Throughout (holds : World → Prop) (entry : TimedStep) (history : History) : Prop :=
  entry.Issues (fun stmt world => holds (execute stmt world).2) history

end TimedStep

def FollowsEdges {Reply : Type} (stmt : Stmt Reply) (world : World) : Prop :=
  ∀ old ∈ world.subscriptions.rows, ∀ new ∈ (execute stmt world).2.subscriptions.rows,
    new.id = old.id → new.state ≠ old.state →
      ∃ event, nextSubscriptionState old.state event = .ok new.state

def AtMostOneEntitling (tenantID : String) (world : World) : Prop :=
  ∀ first ∈ world.subscriptions.rows, ∀ second ∈ world.subscriptions.rows,
    first.tenantID = tenantID → second.tenantID = tenantID →
      first.active = true → second.active = true → first = second

instance (tenantID : String) (world : World) : Decidable (AtMostOneEntitling tenantID world) :=
  inferInstanceAs (Decidable (∀ first ∈ world.subscriptions.rows,
    ∀ second ∈ world.subscriptions.rows, _ → _ → _ → _ → first = second))

def NotEntitling (subID : String) (world : World) : Prop :=
  ∀ row ∈ world.subscriptions.rows, row.id = subID → row.active = false

instance (subID : String) (world : World) : Decidable (NotEntitling subID world) :=
  inferInstanceAs (Decidable (∀ row ∈ world.subscriptions.rows, _ → row.active = false))

def TimedStep.withdraws (entry : TimedStep) (history : History) : Bool :=
  match entry.step with
  | .resume tenantID subID =>
    !isBlank tenantID && history.world.subscriptions.rows.any fun row =>
      row.isRow subID tenantID && row.state == .cancelled && row.endedAt == 0
  | _ => false

def wakesBy (event : LifecycleEvent) (state : SubscriptionState) (endedAt : Int) : Bool :=
  match state, event with
  | .pendingActivation, .paymentAdded => true
  | .pendingActivation, .trialStarted => true
  | .paused, .resumed => true
  | .pendingActivation, .cancelled => endedAt == 0
  | .paused, .cancelled => endedAt == 0
  | _, _ => false

def TimedStep.wakes (entry : TimedStep) (sub : Subscription) : Bool :=
  match entry.step with
  | .cancel tenantID subID immediate =>
    sub.isRow subID tenantID && [.pendingActivation, .paused].contains sub.state &&
      (!immediate || entry.now == 0)
  | .resume tenantID subID => sub.isRow subID tenantID && sub.state == .paused
  | .transition seen event =>
    sub.isVersion seen.id seen.tenantID seen.version && wakesBy event sub.state sub.endedAt
  | _ => false

def TimedStep.doubles (entry : TimedStep) (tenantID : String) (history : History) : Bool :=
  history.world.subscriptions.rows.any fun sub =>
    sub.tenantID == tenantID && entry.wakes sub &&
      history.world.subscriptions.rows.any fun other =>
        other.tenantID == tenantID && other.id != sub.id && other.active

def TimedStep.cancelsPending (entry : TimedStep) (subID : String) (history : History) : Bool :=
  match entry.step with
  | .cancel tenantID target immediate =>
    target == subID && (!immediate || entry.now == 0) &&
      history.world.subscriptions.rows.any fun row =>
        row.isRow subID tenantID && row.state == .pendingActivation
  | _ => false

def TimedStep.isTransition (entry : TimedStep) : Bool :=
  match entry.step with
  | .transition .. => true
  | _ => false

def TimedStep.Allows (entry : TimedStep) (history : History) (world : World) (old : Subscription)
    (writing : Writing) : Prop :=
  match entry.step with
  | .subscribe .. => False
  | .changePlan .. => old.active = true ∧ (writing = .event .planChanged ∨ writing = .upkeep)
  | .cancel tenantID subID immediate =>
    world = entry.world history ∧ old.key = (subID, tenantID) ∧ writing = .cancelling immediate
  | .resume tenantID subID =>
    world = entry.world history ∧ old.key = (subID, tenantID) ∧
      (writing = .event .resumed ∨
        (writing = .withdrawal ∧ entry.withdraws history = true))
  | .transition sub event =>
    world = entry.world history ∧ old.tracked = sub.tracked ∧ writing = .event event
  | .startGrace _ => writing = .event .paymentFailed ∨ writing = .upkeep
  | .advanceRenewal _ | .applyPendingPlan _ => writing = .upkeep
  | .runRenewals => writing ∈ renewalWritings
  | .runDunning => writing ∈ dunningWritings
  | .retryFailedWebhooks => writing = .event .paymentRecovered

def TimedStep.Opens (entry : TimedStep) (history : History) (world : World) (new : Subscription) :
    Prop :=
  (∃ planID, entry.step = .subscribe new.tenantID planID) ∧
    world.subscriptions = history.world.subscriptions ∧
    ∀ row ∈ history.world.subscriptions.rows, row.tenantID = new.tenantID → row.active = false

theorem step_writes (entry : TimedStep) (history : History)
    (known : ∀ sub ∈ entry.step.given, (entry.world history).Current sub) :
    entry.step.program.Along (Writes (entry.Allows history) (entry.Opens history))
      (Returns fun _ _ => True) (entry.world history) := by
  obtain ⟨now, step⟩ := entry
  cases step with
  | subscribe tenantID planID =>
    refine (subscribe_along fun asleep later same new sameTenant _ => ?_).ignored
    subst tenantID
    exact ⟨⟨planID, rfl⟩, same, asleep⟩
  | changePlan =>
    refine (changePlan_along fun _ old _ awake => ?_).ignored
    exact ⟨⟨awake, Or.inl rfl⟩, ⟨awake, Or.inr rfl⟩⟩
  | cancel =>
    exact (cancel_along fun old key => ⟨rfl, key, rfl⟩).ignored
  | resume tenantID subID =>
    refine (resume_along (fun old key => ⟨rfl, key, Or.inl rfl⟩) ?_).ignored
    intro named sub member key state ended old sameKey
    refine ⟨rfl, sameKey.trans key, Or.inr ⟨rfl, ?_⟩⟩
    have sameID : sub.id = subID := congrArg Prod.fst key
    have sameTenant : sub.tenantID = tenantID := congrArg Prod.snd key
    simp only [TimedStep.withdraws, Bool.and_eq_true, List.any_eq_true]
    exact ⟨by simpa using named, sub, member, by simp [Subscription.isRow, *]⟩
  | transition sub =>
    exact (transition_along (known sub (by simp [LifecycleStep.given]))
      fun old same => ⟨rfl, same, rfl⟩).ignored
  | startGrace sub =>
    exact (startGrace_along (known sub (by simp [LifecycleStep.given]))
      (fun _ _ _ => Or.inl rfl) fun _ _ _ => Or.inr rfl).ignored
  | advanceRenewal sub =>
    refine (advanceRenewal_along (known sub (by simp [LifecycleStep.given]))
      fun _ _ _ => ?_).ignored
    exact rfl
  | applyPendingPlan sub =>
    refine (applyPendingPlan_along (known sub (by simp [LifecycleStep.given]))
      fun _ _ _ => ?_).ignored
    exact rfl
  | runRenewals => exact runRenewals_along fun _ _ _ _ _ _ writing listed => listed
  | runDunning => exact runDunning_along fun _ _ writing listed => listed
  | retryFailedWebhooks => exact retryFailedWebhooks_along fun _ _ => rfl

def History.Known (history : History) : Prop :=
  ∀ sub ∈ history.read, history.world.Current sub

theorem known_begin (world : World) : (History.begin world).Known :=
  fun _ member => current_of_mem member

theorem known_take (entry : TimedStep) (history : History) (known : history.Known) :
    (entry.take history).Known := by
  intro sub member
  rcases List.mem_append.mp member with earlier | stored
  · have here : (entry.world history).Current sub := current_of_same rfl (known sub earlier)
    exact current_run entry.step.program here
  · exact current_of_mem stored

variable {entry : TimedStep} {history : History} {world : World} {writing : Writing}
variable {sub old new : Subscription} {Reply : Type} {stmt : Stmt Reply} {tenantID : String}
variable {now : Int}

theorem writes_of_known (known : history.Known) (informed : entry.Informed history) :
    entry.step.program.Along (Writes (entry.Allows history) (entry.Opens history))
      (Returns fun _ _ => True) (entry.world history) :=
  step_writes entry history fun sub member => current_of_same rfl (known sub (informed sub member))

theorem followsEdges_of_writes
    {may : World → Subscription → Writing → Prop} {opens : World → Subscription → Prop}
    (held : Writes may opens stmt world) (legal : ∀ old, ¬ may world old .withdrawal) :
    FollowsEdges stmt world := by
  intro old present new member sameID moved
  obtain ⟨_, held⟩ := held
  rcases held new member with kept | ⟨_, ⟨source, stored, key, writing, allowed, changes⟩ | opened⟩
  · exact absurd (congrArg Subscription.state (subscription_of_id kept present sameID)) moved
  · have shared : source.id = old.id := (congrArg Prod.fst key).trans sameID
    obtain rfl := subscription_of_id stored present shared
    cases writing with
    | upkeep => exact absurd changes.1 moved
    | event cause => exact ⟨cause, changes.1⟩
    | cancelling => exact ⟨.cancelled, changes.1⟩
    | withdrawal => exact absurd allowed (legal source)
  · exact absurd sameID.symm (opened.2 old present)

theorem not_withdrawal_of_allows (fine : entry.withdraws history = false) :
    ¬ entry.Allows history world old .withdrawal := by
  obtain ⟨now, step⟩ := entry
  cases step <;>
    simp_all [TimedStep.Allows, renewalWritings, dunningWritings]

theorem not_followsEdges_of_withdraws
    (found : entry.withdraws history = true) : ¬ entry.Issues FollowsEdges history := by
  obtain ⟨now, step⟩ := entry
  cases step with
  | resume =>
    simp only [TimedStep.withdraws, Bool.and_eq_true, List.any_eq_true, beq_iff_eq,
      Bool.not_eq_true'] at found
    obtain ⟨named, row, member, ⟨matching, state⟩, ended⟩ := found
    obtain ⟨rfl, rfl⟩ := subscription_isRow.mp matching
    intro issues
    have whole := (meets_bind.mp issues).1
    unfold resume at whole
    have chosen := (meets_bind.mp whole).2 row _ (subscription_run named member matching)
    rw [if_pos ⟨state, ended⟩] at chosen
    have written := (meets_bind.mp ((meets_bind.mp chosen).2 _ _ rfl)).1
    unfold updateSubscription at written
    have changed := (guardedChange_lands (.withdrawCancellation .active now) member).2
    have moved : SubscriptionState.active ≠ row.state := by simp [state]
    obtain ⟨event, legal⟩ := written.1 row member _ changed rfl moved
    rw [state] at legal
    have target := (nextSubscriptionState_from_cancelled _ _ legal).2
    simp [SubscriptionUpdate.apply] at target
  | _ => simp [TimedStep.withdraws] at found

/-- The writes of a run follow the edges of the state machine exactly if no `resume` withdraws a
cancellation. -/
theorem run_follows_edges_iff (start : World) (steps : List TimedStep)
    (informed : Every TimedStep.take TimedStep.Informed (History.begin start) steps) :
    Every TimedStep.take (TimedStep.Issues FollowsEdges) (History.begin start) steps ↔
      Every TimedStep.take (fun entry history => entry.withdraws history = false)
        (History.begin start) steps := by
  refine every_iff_of_invariant History.Known (known_begin start) informed
    (fun entry history known _ => known_take entry history known)
    fun entry history known seen => ⟨fun follows => ?_, fun fine => ?_⟩
  · by_contra withdraws
    exact not_followsEdges_of_withdraws (by simpa using withdraws) follows
  refine ((writes_of_known known seen).mono (fun stmt world held => ?_)
    fun _ _ fine => fine).meets
  exact followsEdges_of_writes held fun old => not_withdrawal_of_allows fine

def freePlan : Plan :=
  { id := "free", code := "free", name := "Free", currency := "USD", priceMinor := 0
    cycle := .monthly, trialDays := 0, graceDays := 7, overagePolicy := .block, active := true }

def freeShop : World :=
  { catalogue := { plans := [freePlan] }, now := 1000, names := Supply.outgrow }

theorem immediate_cancellation_follows_edges :
    Every TimedStep.take (TimedStep.Issues FollowsEdges) (History.begin freeShop)
      [⟨1000, .subscribe "acme" "free"⟩, ⟨2000, .cancel "acme" "ff" true⟩] := by
  refine (run_follows_edges_iff freeShop _ ?_).mpr ⟨by decide, by decide, trivial⟩
  simp [Every, TimedStep.Informed, LifecycleStep.given]

def withdrawnCancellation : List TimedStep := [
  ⟨1000, .subscribe "acme" "free"⟩, ⟨2000, .cancel "acme" "ff" false⟩,
  ⟨3000, .resume "acme" "ff"⟩
]

theorem resume_leaves_edges :
    Every TimedStep.take TimedStep.Informed (History.begin freeShop) withdrawnCancellation ∧
      ¬ Every TimedStep.take (TimedStep.Issues FollowsEdges) (History.begin freeShop)
        withdrawnCancellation := by
  refine ⟨by simp [withdrawnCancellation, Every, TimedStep.Informed, LifecycleStep.given], ?_⟩
  rintro ⟨_, _, resumed, _⟩
  exact not_followsEdges_of_withdraws (by decide) resumed

theorem nextSubscriptionState_cancelled {source target : SubscriptionState}
    (moved : nextSubscriptionState source .cancelled = .ok target) :
    target = .cancelled ∧ source ≠ .cancelled ∧ source ≠ .expired := by
  cases source <;> simp [nextSubscriptionState] at moved ⊢ <;> exact moved.symm

theorem wakesBy_of_entitles {source target : SubscriptionState} {event : LifecycleEvent}
    {before after : Int} (legal : nextSubscriptionState source event = .ok target)
    (ended : after = if target = .expired ∧ before = 0 then now else before)
    (asleep : source.entitles before = false) (awake : target.entitles after = true) :
    wakesBy event source before = true := by
  cases source <;> cases event <;> simp only [nextSubscriptionState, Except.ok.injEq, reduceCtorEq]
    at legal <;> subst target <;> simp_all [SubscriptionState.entitles, wakesBy]

theorem active_of_upkeep
    (changes : Writing.upkeep.Changes now old new) : new.active = old.active := by
  rw [Subscription.active, Subscription.active, changes.1, changes.2]

def quietWritings : List Writing := [
  .upkeep, .event .planChanged, .event .trialConverted, .event .periodEnded,
  .event .paymentFailed, .event .graceExpired, .event .paymentRecovered
]

theorem not_active_of_quiet
    (quiet : writing ∈ quietWritings) (changes : writing.Changes now old new)
    (asleep : old.active = false) : new.active = false := by
  by_contra awake
  have awake : new.active = true := by simpa using awake
  simp only [quietWritings, List.mem_cons, List.not_mem_nil, or_false] at quiet
  rcases quiet with rfl | quiet
  · rw [active_of_upkeep changes, asleep] at awake
    simp at awake
  rcases quiet with rfl | rfl | rfl | rfl | rfl | rfl <;>
    have named := wakesBy_of_entitles changes.1 changes.2 asleep awake <;>
    cases state : old.state <;> simp [wakesBy, state] at named

theorem quiet_of_allows (allowed : entry.Allows history world old writing) :
    writing ∈ quietWritings ∨ (world = entry.world history ∧
      ((∃ tenantID subID immediate, entry.step = .cancel tenantID subID immediate ∧
        old.isRow subID tenantID = true ∧ writing = .cancelling immediate) ∨
      (∃ tenantID subID, entry.step = .resume tenantID subID ∧
        old.isRow subID tenantID = true ∧ (writing = .event .resumed ∨ writing = .withdrawal)) ∨
      ∃ sub event, entry.step = .transition sub event ∧ old.tracked = sub.tracked ∧
        writing = .event event)) := by
  have row {subID tenantID : String} (key : old.key = (subID, tenantID)) :
      old.isRow subID tenantID = true := by
    simp_all [Subscription.isRow, Subscription.key]
  obtain ⟨now, step⟩ := entry
  cases step with
  | subscribe => exact absurd allowed id
  | changePlan =>
    rcases allowed.2 with rfl | rfl <;> exact Or.inl (by decide)
  | cancel tenantID subID immediate =>
    obtain ⟨rfl, key, rfl⟩ := allowed
    exact Or.inr ⟨rfl, Or.inl ⟨tenantID, subID, immediate, rfl, row key, rfl⟩⟩
  | resume tenantID subID =>
    obtain ⟨rfl, key, writes⟩ := allowed
    grind
  | transition sub event =>
    obtain ⟨rfl, same, rfl⟩ := allowed
    exact Or.inr ⟨rfl, Or.inr (Or.inr ⟨sub, event, rfl, same, rfl⟩)⟩
  | startGrace => rcases allowed with rfl | rfl <;> exact Or.inl (by decide)
  | advanceRenewal | applyPendingPlan => obtain rfl := allowed; exact Or.inl (by decide)
  | runRenewals =>
    have every : ∀ writing ∈ renewalWritings, writing ∈ quietWritings := by decide
    exact Or.inl (every writing allowed)
  | runDunning =>
    have every : ∀ writing ∈ dunningWritings, writing ∈ quietWritings := by decide
    exact Or.inl (every writing allowed)
  | retryFailedWebhooks => obtain rfl := allowed; exact Or.inl (by decide)

theorem wakes_of_allows (allowed : entry.Allows history world old writing)
    (changes : writing.Changes world.now old new) (asleep : old.active = false)
    (awake : new.active = true) : world = entry.world history ∧ entry.wakes old = true := by
  rcases quiet_of_allows allowed with quiet | ⟨rfl, singled⟩
  · simp [not_active_of_quiet quiet changes asleep] at awake
  refine ⟨rfl, ?_⟩
  obtain ⟨now, step⟩ := entry
  rcases singled with ⟨tenantID, subID, immediate, rfl, row, rfl⟩ |
    ⟨tenantID, subID, rfl, row, resumes⟩ | ⟨sub, event, rfl, same, rfl⟩
  · obtain ⟨legal, ended⟩ := changes
    have edge := nextSubscriptionState_cancelled legal
    unfold Subscription.active at asleep awake
    rw [edge.1, ended] at awake
    cases immediate <;> cases state : old.state <;>
      simp_all [TimedStep.wakes, SubscriptionState.entitles, TimedStep.world]
  · rcases resumes with rfl | rfl
    · have edge := nextSubscriptionState_resumed _ _ changes.1
      simp [TimedStep.wakes, row, edge.1]
    · simp [Subscription.active, SubscriptionState.entitles, changes.1] at asleep
  · have named := wakesBy_of_entitles changes.1 changes.2 asleep awake
    have key := key_of_tracked same
    have sameID : old.id = sub.id := congrArg Prod.fst key
    have sameTenant : old.tenantID = sub.tenantID := congrArg Prod.snd key
    have sameVersion : old.version = sub.version := (congrArg Subscription.version same :)
    simp [TimedStep.wakes, Subscription.isVersion, Subscription.isRow, sameID, sameTenant,
      sameVersion, named]

theorem alone_of_not_doubles (fine : entry.doubles tenantID history = false)
    (member : sub ∈ history.world.subscriptions.rows) (sameTenant : sub.tenantID = tenantID)
    (wakes : entry.wakes sub = true) :
    ∀ other ∈ history.world.subscriptions.rows, other.tenantID = tenantID →
      other.id ≠ sub.id → other.active = false := by
  grind [TimedStep.doubles]

theorem atMostOne_execute (fine : entry.doubles tenantID history = false)
    (held : Writes (entry.Allows history) (entry.Opens history) stmt world)
    (one : AtMostOneEntitling tenantID world) :
    AtMostOneEntitling tenantID (execute stmt world).2 := by
  obtain ⟨id, held⟩ := held
  -- a row left alone and a row that was written cannot both entitle
  have apart : ∀ kept ∈ world.subscriptions.rows, ∀ new ∈ (execute stmt world).2.subscriptions.rows,
      kept.tenantID = tenantID → new.tenantID = tenantID → kept.active = true →
        new.active = true → kept.id = new.id := by
    intro kept there new member keptTenant newTenant keptAwake newAwake
    rcases held new member with same | ⟨_, ⟨old, present, key, writing, allowed, changes⟩ | opened⟩
    · rw [one kept there new same keptTenant newTenant keptAwake newAwake]
    · have sameID : old.id = new.id := congrArg Prod.fst key
      have sameTenant : old.tenantID = tenantID := (congrArg Prod.snd key).trans newTenant
      rw [← sameID]
      by_cases awake : old.active = true
      · rw [one kept there old present keptTenant sameTenant keptAwake awake]
      by_contra different
      obtain ⟨rfl, wakes⟩ := wakes_of_allows allowed changes (by simpa using awake) newAwake
      have alone := alone_of_not_doubles fine present sameTenant wakes kept there keptTenant
        different
      simp [alone] at keptAwake
    · obtain ⟨⟨_, unmoved, asleep⟩, _⟩ := opened
      rw [unmoved] at there
      simp [asleep kept there (keptTenant.trans newTenant.symm)] at keptAwake
  intro first here second there firstTenant secondTenant firstAwake secondAwake
  refine subscription_of_id here there ?_
  grind

/-- A tenant never has two entitling subscriptions, as long as no step wakes one beside another. -/
theorem run_keeps_one_entitling (tenantID : String) (start : World) (steps : List TimedStep)
    (informed : Every TimedStep.take TimedStep.Informed (History.begin start) steps)
    (one : AtMostOneEntitling tenantID start)
    (fine : Every TimedStep.take (fun entry history => entry.doubles tenantID history = false)
      (History.begin start) steps) :
    Every TimedStep.take (TimedStep.Throughout (AtMostOneEntitling tenantID))
      (History.begin start) steps := by
  refine every_of_invariant
    (fun history => history.Known ∧ AtMostOneEntitling tenantID history.world)
    ⟨known_begin start, one⟩ (informed.and fine) fun entry history held fits => ?_
  have kept := (writes_of_known held.1 fits.1).keeps (AtMostOneEntitling tenantID) held.2
    fun stmt world writes before => atMostOne_execute fits.2 writes before
  exact ⟨kept.meets, known_take entry history held.1, kept.run⟩

def paidPlan : Plan :=
  { id := "paid", code := "paid", name := "Paid", currency := "USD", priceMinor := 500
    cycle := .monthly, trialDays := 0, graceDays := 7, overagePolicy := .block, active := true }

def mixedShop : World :=
  { catalogue := { plans := [freePlan, paidPlan] }, now := 1000, names := Supply.outgrow }

theorem free_after_pending_keeps_one_entitling :
    Every TimedStep.take (TimedStep.Throughout (AtMostOneEntitling "acme"))
      (History.begin mixedShop) [
        ⟨1000, .subscribe "acme" "paid"⟩, ⟨2000, .subscribe "acme" "free"⟩,
        ⟨3000, .cancel "acme" "ff" true⟩] := by
  refine run_keeps_one_entitling "acme" mixedShop _ ?_ (by decide)
    ⟨by decide, by decide, by decide, trivial⟩
  simp [Every, TimedStep.Informed, LifecycleStep.given]

def cancelledBesideFree : List TimedStep := [
  ⟨1000, .subscribe "acme" "paid"⟩, ⟨2000, .subscribe "acme" "free"⟩,
  ⟨3000, .cancel "acme" "ff" false⟩
]

theorem pending_cancellation_entitles_twice :
    Every TimedStep.take TimedStep.Informed (History.begin mixedShop) cancelledBesideFree ∧
      AtMostOneEntitling "acme" mixedShop ∧
      ¬ Every TimedStep.take (TimedStep.Throughout (AtMostOneEntitling "acme"))
        (History.begin mixedShop) cancelledBesideFree := by
  refine ⟨?_, by decide, ?_⟩
  · simp [cancelledBesideFree, Every, TimedStep.Informed, LifecycleStep.given]
  rintro ⟨_, _, cancelled, _⟩
  have ended := final_of_meets (by decide) cancelled
  revert ended
  decide

def Dormant (sub : Subscription) : Prop :=
  sub.state = .pendingActivation ∨ sub.state = .expired ∨
    (sub.state = .cancelled ∧ sub.endedAt ≠ 0)

theorem Dormant.not_active (dormant : Dormant sub) : sub.active = false := by
  unfold Subscription.active
  rcases dormant with state | state | ⟨state, ended⟩ <;> simp [state, SubscriptionState.entitles]
  exact ended

theorem dormant_of_quiet (quiet : writing ∈ quietWritings) (changes : writing.Changes now old new)
    (dormant : Dormant old) : Dormant new := by
  simp only [quietWritings, List.mem_cons, List.not_mem_nil, or_false] at quiet
  rcases quiet with rfl | quiet
  · unfold Dormant
    rw [changes.1, changes.2]
    exact dormant
  rcases dormant with state | state | ⟨state, ended⟩ <;>
    rcases quiet with rfl | rfl | rfl | rfl | rfl | rfl <;>
    have legal := changes.1 <;> simp [state, nextSubscriptionState] at legal
  exact Or.inr (Or.inl legal.symm)

theorem dormant_of_allows (member : old ∈ world.subscriptions.rows)
    (unpaid : entry.isTransition = false) (fine : entry.cancelsPending old.id history = false)
    (allowed : entry.Allows history world old writing)
    (changes : writing.Changes world.now old new) (dormant : Dormant old) : Dormant new := by
  obtain ⟨now, step⟩ := entry
  rcases quiet_of_allows allowed with quiet | ⟨rfl, ⟨tenantID, subID, immediate, rfl, row, rfl⟩ |
    ⟨tenantID, subID, rfl, row, rfl | rfl⟩ | ⟨sub, event, rfl, _⟩⟩
  · exact dormant_of_quiet quiet changes dormant
  · obtain ⟨legal, ended⟩ := changes
    have edge := nextSubscriptionState_cancelled legal
    refine Or.inr (Or.inr ⟨edge.1, ?_⟩)
    have state : old.state = .pendingActivation := by
      rcases dormant with state | state | ⟨state, _⟩
      · exact state
      · exact absurd state edge.2.2
      · exact absurd state edge.2.1
    have sameID : subID = old.id := by
      simp only [Subscription.isRow, Bool.and_eq_true, beq_iff_eq] at row
      exact row.1.symm
    subst subID
    simp only [TimedStep.cancelsPending, beq_self_eq_true, Bool.true_and, Bool.and_eq_false_iff,
      List.any_eq_false] at fine
    rcases fine with timely | absent
    · cases immediate <;> simp_all [TimedStep.world]
    · exact absurd (by simp [row, state]) (absent old member)
  · have source := (nextSubscriptionState_resumed _ _ changes.1).1
    rcases dormant with state | state | ⟨state, _⟩ <;> simp [source] at state
  · obtain ⟨state, ended⟩ := changes.1
    rcases dormant with other | other | ⟨_, running⟩
    · simp [state] at other
    · simp [state] at other
    · exact absurd ended running
  · simp [TimedStep.isTransition] at unpaid

def Asleep (sub : Subscription) (world : World) : Prop :=
  world.Current sub ∧ ∀ row ∈ world.subscriptions.rows, row.id = sub.id → Dormant row

theorem asleep_execute (unpaid : entry.isTransition = false)
    (fine : entry.cancelsPending sub.id history = false)
    (held : Writes (entry.Allows history) (entry.Opens history) stmt world)
    (asleep : Asleep sub world) : Asleep sub (execute stmt world).2 := by
  refine ⟨current_execute stmt asleep.1, fun new member sameID => ?_⟩
  obtain ⟨_, held⟩ := held
  rcases held new member with kept | ⟨_, ⟨old, present, key, writing, allowed, changes⟩ | opened⟩
  · exact asleep.2 new kept sameID
  · have oldID : old.id = sub.id := (congrArg Prod.fst key).trans sameID
    refine dormant_of_allows present unpaid ?_ allowed changes (asleep.2 old present oldID)
    rw [oldID]
    exact fine
  · obtain ⟨stored, present, sameKey, _⟩ := asleep.1
    exact absurd ((congrArg Prod.fst sameKey).trans sameID.symm) (opened.2 stored present)

theorem subscribe_stores {planID : String} {before start : World}
    (created : (subscribe tenantID planID).run before = (.ok sub, start)) :
    sub ∈ start.subscriptions.rows := by
  have held : (subscribe tenantID planID).Along (Writes (fun _ _ _ => True) fun _ _ => True)
      (Returns fun sub later => sub ∈ later.subscriptions.rows) before :=
    subscribe_along fun _ _ _ _ _ _ => trivial
  have stored := held.run
  rwa [created] at stored

/-- A subscription that waits for its activation entitles to nothing, unless it is cancelled while
it waits. -/
theorem pending_subscription_never_entitles (tenantID planID : String) (before start : World)
    (sub : Subscription) (steps : List TimedStep)
    (created : (subscribe tenantID planID).run before = (.ok sub, start))
    (pending : sub.state = .pendingActivation)
    (informed : Every TimedStep.take TimedStep.Informed (History.begin start) steps)
    (unpaid : ∀ entry ∈ steps, entry.isTransition = false)
    (fine : Every TimedStep.take (fun entry history => entry.cancelsPending sub.id history = false)
      (History.begin start) steps) :
    NotEntitling sub.id start ∧
      Every TimedStep.take (TimedStep.Throughout (NotEntitling sub.id)) (History.begin start)
        steps := by
  have member := subscribe_stores created
  have asleep : Asleep sub start := by
    refine ⟨current_of_mem member, fun row present sameID => Or.inl ?_⟩
    rw [subscription_of_id present member sameID]
    exact pending
  have never {world : World} (held : Asleep sub world) : NotEntitling sub.id world :=
    fun row present sameID => (held.2 row present sameID).not_active
  refine ⟨never asleep, ?_⟩
  refine every_of_invariant (fun history => history.Known ∧ Asleep sub history.world)
    ⟨known_begin start, asleep⟩ ((informed.and fine).and (every_of_forall unpaid))
    fun entry history held fits => ?_
  have kept := (writes_of_known held.1 fits.1.1).keeps (Asleep sub) held.2
    fun stmt world writes before => asleep_execute fits.2 fits.1.2 writes before
  refine ⟨?_, known_take entry history held.1, kept.run⟩
  exact (kept.mono (fun _ _ after => never after) fun _ _ fine => fine).meets

def pendingSubscription : Subscription :=
  { id := "ff", tenantID := "acme", accountID := "f", planID := "paid", state := .pendingActivation
    cycle := .monthly, currency := "USD", priceMinor := 500, periodStart := 1000
    periodEnd := 2679400, createdAt := 1000, updatedAt := 1000 }

def pendingShop : World := (subscribe "acme" "paid").final mixedShop

theorem pendingShop_created :
    (subscribe "acme" "paid").run mixedShop = (.ok pendingSubscription, pendingShop) := rfl

theorem immediate_cancellation_never_entitles : NotEntitling "ff" pendingShop ∧
      Every TimedStep.take (TimedStep.Throughout (NotEntitling "ff")) (History.begin pendingShop)
        [⟨2000, .cancel "acme" "ff" true⟩, ⟨3000, .resume "acme" "ff"⟩, ⟨4000, .runRenewals⟩] := by
  refine pending_subscription_never_entitles "acme" "paid" mixedShop pendingShop
    pendingSubscription _ pendingShop_created rfl ?_ (by decide)
    ⟨by decide, by decide, by decide, trivial⟩
  simp [Every, TimedStep.Informed, LifecycleStep.given]

theorem late_cancellation_entitles_pending :
    (subscribe "acme" "paid").run mixedShop = (.ok pendingSubscription, pendingShop) ∧
      pendingSubscription.state = .pendingActivation ∧
      Every TimedStep.take TimedStep.Informed (History.begin pendingShop)
        [⟨2000, .cancel "acme" "ff" false⟩] ∧
      ¬ Every TimedStep.take (TimedStep.Throughout (NotEntitling "ff")) (History.begin pendingShop)
        [⟨2000, .cancel "acme" "ff" false⟩] := by
  refine ⟨pendingShop_created, rfl, by simp [Every, TimedStep.Informed, LifecycleStep.given], ?_⟩
  rintro ⟨cancelled, _⟩
  have ended := final_of_meets (by decide) cancelled
  revert ended
  decide

structure World.Retains (before after : World) : Prop where
  subscriptions : ∀ seen, before.Current seen → after.Current seen
  invoices : before.invoices.rows.map Invoice.origin ⊆ after.invoices.rows.map Invoice.origin
  attempts : before.attempts.rows.map PaymentAttempt.origin ⊆
    after.attempts.rows.map PaymentAttempt.origin

theorem retains_tick (world : World) (now : Int) : world.Retains { world with now := now } :=
  ⟨fun _ known => known, List.Subset.refl _, List.Subset.refl _⟩

theorem World.Retains.trans {first second third : World} (early : first.Retains second)
    (late : second.Retains third) : first.Retains third :=
  ⟨fun seen known => late.subscriptions seen (early.subscriptions seen known),
    List.Subset.trans early.invoices late.invoices,
    List.Subset.trans early.attempts late.attempts⟩

theorem Stmt.retains {Reply : Type} (stmt : Stmt Reply) (world : World) :
    world.Retains (execute stmt world).2 := by
  refine ⟨fun _ => current_execute stmt, fun origin listed => ?_, fun origin listed => ?_⟩
  · obtain ⟨inv, there, rfl⟩ := List.mem_map.mp listed
    exact List.mem_map.mpr (invoice_persists stmt there)
  · obtain ⟨attempt, there, rfl⟩ := List.mem_map.mp listed
    exact List.mem_map.mpr (attempt_persists stmt there)

variable {Value : Type} (pool : Pool Stmt BillingError Value World)

def takeTurn (turn : Nat × Int) : Pool Stmt BillingError Value World :=
  { pool with state := { pool.state with now := turn.2 } }.advance turn.1

theorem retains_takeTurn (turn : Nat × Int) :
    pool.state.Retains (takeTurn pool turn).state := by
  have ticked := retains_tick pool.state turn.2
  unfold takeTurn Pool.advance
  split
  · exact ticked.trans (Stmt.retains _ _)
  · exact ticked

/-- However calls interleave and whatever the clock shows, no subscription, invoice or attempt is
lost, and a subscription at the version somebody has read is as they have read it. -/
theorem documents_retained (turns : List (Nat × Int)) :
    pool.state.Retains (turns.foldl takeTurn pool).state := by
  induction turns generalizing pool with
  | nil => exact retains_tick pool.state pool.state.now
  | cons turn rest ih => exact (retains_takeTurn pool turn).trans (ih _)

end Cashp
