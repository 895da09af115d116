import Cashp.Billing.Reads
import Cashp.Billing.Snapshots

/-!
Subscription writes by the only writer: the guarded write lands and is read back.
-/

namespace Cashp

open Kit Kit.Program

variable {world : World} {tenantID subID : String} {sub : Subscription} {event : LifecycleEvent}
variable {target : SubscriptionState}

theorem subscription_isRow :
    sub.isRow subID tenantID = true ↔ sub.id = subID ∧ sub.tenantID = tenantID := by
  simp [Subscription.isRow]

theorem subscription_run (named : isBlank tenantID = false)
    (member : sub ∈ world.subscriptions.rows) (matching : sub.isRow subID tenantID = true) :
    (subscription tenantID subID).run world = (.ok sub, world) := by
  have found : world.subscriptions.find (Subscription.isRow subID tenantID) = some sub := by
    refine Table.find_unique (List.mem_singleton_self Subscription.id) member matching
      fun other hit => ?_
    rw [(subscription_isRow.mp hit).1, (subscription_isRow.mp matching).1]
  unfold subscription requireTenant
  rw [run_unrefused (by simp [named]), run_bind]
  change (require (world.subscriptions.find (Subscription.isRow subID tenantID)) _).run world = _
  rw [found]
  rfl

def guardedChange (sub : Subscription) (change : SubscriptionUpdate) : Stmt Nat :=
  .subscription (.update change sub.id sub.tenantID sub.version)

theorem guardedChange_lands (change : SubscriptionUpdate)
    (member : sub ∈ world.subscriptions.rows) : (execute (guardedChange sub change) world).1 ≠ 0 ∧
      change.apply sub ∈ (execute (guardedChange sub change) world).2.subscriptions.rows := by
  have hit : sub.isVersion sub.id sub.tenantID sub.version = true := by
    simp [Subscription.isVersion, Subscription.isRow]
  refine ⟨fun none => ?_, List.mem_map.mpr ⟨sub, member, Table.assignWhere_of hit⟩⟩
  have missed := Table.affected_eq_zero.mp none sub member
  simp [hit] at missed

theorem guardedChange_others (change : SubscriptionUpdate) {other : Subscription}
    (member : other ∈ (execute (guardedChange sub change) world).2.subscriptions.rows)
    (apart : other.id ≠ sub.id) : other ∈ world.subscriptions.rows := by
  obtain ⟨old, stored, same⟩ := List.mem_map.mp member
  by_cases hit : old.isVersion sub.id sub.tenantID sub.version = true
  · rw [Table.assignWhere_of hit] at same
    simp only [Subscription.isVersion, Bool.and_eq_true] at hit
    have changed : other.id = old.id := by rw [← same, change.apply_id]
    exact absurd (changed.trans (subscription_isRow.mp hit.1).1) apart
  · rw [Table.assignWhere_not (by simpa using hit)] at same
    rwa [← same]

def transitionTo (sub : Subscription) (target : SubscriptionState) (now : Int) :
    SubscriptionUpdate :=
  .transition target (if target = .expired ∧ sub.endedAt = 0 then now else sub.endedAt) now

theorem transition_final (member : sub ∈ world.subscriptions.rows)
    (legal : nextSubscriptionState sub.state event = .ok target) :
    ((transition sub event).run world).2 =
      (execute (guardedChange sub (transitionTo sub target world.now)) world).2 := by
  have landed := guardedChange_lands (transitionTo sub target world.now) member
  unfold transition moveOn updateSubscription requireRows
  rw [legal]
  exact (congrArg Prod.snd (run_unrefused landed.1)).trans
    (run_unchanged subscription_within _)

theorem transition_run
    (named : isBlank sub.tenantID = false) (member : sub ∈ world.subscriptions.rows)
    (legal : nextSubscriptionState sub.state event = .ok target) :
    (transition sub event).run world = (.ok ((transitionTo sub target world.now).apply sub),
        (execute (guardedChange sub (transitionTo sub target world.now)) world).2) := by
  have landed := guardedChange_lands (transitionTo sub target world.now) member
  have reread : ((transitionTo sub target world.now).apply sub).isRow sub.id sub.tenantID = true :=
    subscription_isRow.mpr ⟨rfl, rfl⟩
  unfold transition moveOn updateSubscription requireRows
  rw [legal]
  exact (run_unrefused landed.1).trans
    (subscription_run named landed.2 reread)

theorem transition_illegal {reason : String}
    (illegal : nextSubscriptionState sub.state event = .error reason) :
    (transition sub event).run world = (.error (errConflict reason), world) := by
  unfold transition moveOn
  rw [illegal]
  rfl

def World.currentSubscription (world : World) (tenantID : String) : Option Subscription :=
  (SubscriptionStmt.execute (.entitled tenantID) world.subscriptions).1.find? Subscription.active

theorem currentSubscription_mem (found : world.currentSubscription tenantID = some sub) :
    sub ∈ world.subscriptions.rows ∧ sub.tenantID = tenantID := by
  have listed := Table.mem_selectOrdered.mp (List.mem_of_find?_eq_some found)
  simp_all [Subscription.isEntitledState]

theorem activeSubscription_run (named : isBlank tenantID = false) (world : World) :
    (activeSubscription tenantID).run world =
      (require (world.currentSubscription tenantID) (errNotFound "subscription")).run world := by
  unfold activeSubscription requireTenant
  rw [run_unrefused (by simp [named]), run_step]
  rfl

end Cashp
