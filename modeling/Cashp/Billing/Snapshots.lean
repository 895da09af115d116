import Cashp.Billing.Footprint

/-!
Rows of the subscription table that were read earlier. A row a caller still holds is the stored row
or an older version of it, and a guarded write only lands on a row that agrees with it.
-/

namespace Cashp

open Kit Kit.Program

def Subscription.key (sub : Subscription) : String × String := (sub.id, sub.tenantID)

def Subscription.tracked (sub : Subscription) : Subscription :=
  { sub with graceEndsAt := 0, updatedAt := 0 }

def World.Current (world : World) (seen : Subscription) : Prop :=
  Table.Snapshot Subscription.key Subscription.version Subscription.tracked
    world.subscriptions seen

variable {first second seen : Subscription} {world : World}

theorem SubscriptionUpdate.follows (change : SubscriptionUpdate) (sub : Subscription) :
    Table.Follows Subscription.key Subscription.version Subscription.tracked sub
      (change.apply sub) := by
  have raised : (change.apply sub).version = sub.version + 1 := by cases change <;> rfl
  refine ⟨by cases change <;> rfl, by omega, fun same => ?_⟩
  omega

theorem subscription_of_id {table : Subscriptions}
    (here : first ∈ table.rows) (there : second ∈ table.rows) (same : first.id = second.id) :
    first = second :=
  Table.eq_of_column (List.mem_singleton_self Subscription.id) here there same

theorem current_of_mem {sub : Subscription}
    (member : sub ∈ world.subscriptions.rows) : world.Current sub :=
  ⟨sub, member, .refl sub⟩

theorem current_of_same {before after : World}
    (same : after.subscriptions = before.subscriptions) (known : before.Current seen) :
    after.Current seen := by
  unfold World.Current at known ⊢
  rwa [same]

theorem current_execute {Reply : Type} (stmt : Stmt Reply)
    (known : world.Current seen) : (execute stmt world).2.Current seen := by
  cases stmt with
  | subscription stmt =>
    cases stmt with
    | insert sub =>
      change (Stmt.execute _ _).2.Current seen
      simp only [Stmt.execute, SubscriptionStmt.execute, World.Current]
      cases stored : world.subscriptions.insert sub with
      | none => exact known
      | some => exact known.insert stored
    | update change =>
      exact known.update (by simp [SubscriptionUpdate.apply_id]) change.follows
    | setGrace =>
      exact known.update (by simp [Subscription.withGrace])
        fun _ => ⟨rfl, Int.le_refl _, fun _ => rfl⟩
    | _ => exact known
  | creditNote note =>
    exact current_of_same (execute_same (.creditNote note) world .subscription
      (by simp [Stmt.writes])) known
  | call stmt => cases stmt <;> exact current_of_same rfl known
  | _ => exact current_of_same rfl known

theorem current_run {Value : Type} (program : Service Value)
    (known : world.Current seen) : (program.run world).2.Current seen := by
  induction program generalizing world with
  | done | fail => exact known
  | step stmt rest ih => exact ih _ (current_execute stmt known)

theorem tracked_of_isVersion {row : Subscription} {tenantID : String}
    (known : world.Current seen) (member : row ∈ world.subscriptions.rows)
    (hit : row.isVersion seen.id tenantID seen.version = true) : row.tracked = seen.tracked := by
  obtain ⟨stored, present, sameKey, _, agree⟩ := known
  simp only [Subscription.isVersion, Subscription.isRow, Bool.and_eq_true, beq_iff_eq] at hit
  have sameID : stored.id = seen.id := congrArg Prod.fst sameKey
  have same : row = stored :=
    subscription_of_id member present (hit.1.1.trans sameID.symm)
  subst row
  exact agree hit.2

variable (same : first.tracked = second.tracked)

include same

theorem key_of_tracked : first.key = second.key := (congrArg Subscription.key same :)

theorem state_of_tracked : first.state = second.state := (congrArg Subscription.state same :)

theorem endedAt_of_tracked : first.endedAt = second.endedAt :=
  (congrArg Subscription.endedAt same :)

theorem active_of_tracked : first.active = second.active := (congrArg Subscription.active same :)

end Cashp
