import Cashp.Billing.Calendar
import Cashp.Billing.Transitions

/-!
The dates of billing periods. A period that is cut short by a short month passes its last day on to
the periods after it.
-/

namespace Cashp

open Kit Kit.Program

variable {start stop : Int} {cycle : Cycle} {world later : World} {sub moved : Subscription}

theorem advancePeriod_renews (start : Int) (renewing : 0 < cycleMonths cycle) :
    ∃ stop, advancePeriod start cycle = some stop :=
  ⟨_, if_neg (by omega)⟩

theorem advancePeriod_day_mono {next further : Int} (renews : advancePeriod start cycle = some stop)
    (again : advancePeriod next cycle = some further) (follows : start / 86400 ≤ next / 86400) :
    stop / 86400 ≤ further / 86400 ∧ (start / 86400 < next / 86400 →
      dayOfMonth (next / 86400) ≤ daysInMonth (monthOfDay (next / 86400) + cycleMonths cycle) →
        stop / 86400 < further / 86400) := by
  obtain ⟨_, month, day, _⟩ := advancePeriod_date renews
  obtain ⟨_, beyond, late, _⟩ := advancePeriod_date again
  have after := day_before_next_month (stop / 86400)
  rcases lt_or_ge (monthOfDay (start / 86400)) (monthOfDay (next / 86400)) with less | same
  · have gap : monthStart (monthOfDay (stop / 86400) + 1) ≤
        monthStart (monthOfDay (further / 86400)) := monthStart_strictMono.monotone (by omega)
    have begun := monthStart_le (further / 86400)
    omega
  · have begun : monthStart (monthOfDay (start / 86400)) ≤ next / 86400 :=
      (monthStart_le _).trans follows
    have equal : monthOfDay (next / 86400) = monthOfDay (start / 86400) :=
      monthOfDay_eq begun ((day_before_next_month _).trans_le
        (monthStart_strictMono.monotone (by omega)))
    unfold dayOfMonth at *
    rw [month] at day
    rw [beyond, equal] at late
    rw [equal]
    omega

theorem advanceRenewal_run (named : isBlank sub.tenantID = false)
    (member : sub ∈ world.subscriptions.rows) (ends : sub.periodEnd ≠ 0)
    (renews : advancePeriod sub.periodEnd sub.cycle = some stop) : (advanceRenewal sub).run world =
      (.ok ((SubscriptionUpdate.advance sub.periodEnd stop world.now).apply sub),
        (execute (guardedChange sub (.advance sub.periodEnd stop world.now)) world).2) := by
  have landed := guardedChange_lands (.advance sub.periodEnd stop world.now) member
  have reread : ((SubscriptionUpdate.advance sub.periodEnd stop world.now).apply sub).isRow sub.id
      sub.tenantID = true := subscription_isRow.mpr ⟨rfl, rfl⟩
  unfold advanceRenewal advanceFrom updateSubscription requireRows
  rw [if_neg ends, renews]
  exact (run_unrefused landed.1).trans
    (subscription_run named landed.2 reread)

/-- A period ends whole months later on the same day and time, or on the last day of a shorter
month. -/
theorem period_ends_by_date (start : Int) (cycle : Cycle) (renewing : 0 < cycleMonths cycle) :
    (∃ stop, advancePeriod start cycle = some stop ∧ start < stop ∧
      monthOfDay (stop / 86400) = monthOfDay (start / 86400) + cycleMonths cycle ∧
      dayOfMonth (stop / 86400) = min (dayOfMonth (start / 86400))
        (daysInMonth (monthOfDay (start / 86400) + cycleMonths cycle)) ∧
      stop % 86400 = start % 86400 ∧
      ∀ next further, start ≤ next → advancePeriod next cycle = some further →
        stop / 86400 ≤ further / 86400 ∧ (start % 86400 ≤ next % 86400 ∨ dayOfMonth (next / 86400) ≤
            daysInMonth (monthOfDay (next / 86400) + cycleMonths cycle) → stop ≤ further)) ∧
      ∀ (world : World) (sub : Subscription), sub ∈ world.subscriptions.rows →
        isBlank sub.tenantID = false → sub.cycle = cycle → sub.periodEnd ≠ 0 →
          ∃ moved later, (advanceRenewal sub).run world = (.ok moved, later) ∧
            moved ∈ later.subscriptions.rows ∧ moved.periodStart = sub.periodEnd ∧
              moved.periodStart < moved.periodEnd := by
  obtain ⟨stop, renews⟩ := advancePeriod_renews start renewing
  obtain ⟨_, month, day, time⟩ := advancePeriod_date renews
  refine ⟨⟨stop, renews, advancePeriod_after renews, month, day, time,
    fun next further follows again => ?_⟩, fun world sub member named same ends => ?_⟩
  · obtain ⟨early, apart⟩ := advancePeriod_day_mono renews again (by omega)
    obtain ⟨_, _, _, clock⟩ := advancePeriod_date again
    omega
  · obtain ⟨stop, renews⟩ := advancePeriod_renews sub.periodEnd (same ▸ renewing)
    exact ⟨_, _, advanceRenewal_run named member ends renews, (guardedChange_lands _ member).2, rfl,
      advancePeriod_after renews⟩

/-- The evening of January 30 and the next morning both end on February 28. -/
theorem later_start_ends_earlier : advancePeriod 1675119600 .monthly = some 1677625200 ∧
      advancePeriod 1675126800 .monthly = some 1677546000 := by
  decide

theorem quarter_ends_by_date :
    0 < cycleMonths .quarterly ∧ ∃ stop, advancePeriod 1706659200 .quarterly = some stop ∧
      1706659200 < stop :=
  ⟨by decide, (period_ends_by_date 1706659200 .quarterly (by decide)).1.imp fun _ held =>
    ⟨held.1, held.2.1⟩⟩

inductive Renewed (first : Subscription) : Nat → Subscription → Prop
  | opened : Renewed first 0 first
  | again {count : Nat} {sub moved : Subscription} {world later : World}
      (before : Renewed first count sub) (member : sub ∈ world.subscriptions.rows)
      (ran : (advanceRenewal sub).run world = (.ok moved, later)) : Renewed first (count + 1) moved

def lastingDay (day month : Int) : Nat → Int
  | 0 => day
  | count + 1 => min (lastingDay day month count) (daysInMonth (month + (count + 1 : Nat)))

/-- Monthly renewals fall on the day they began on, cut by every shorter month they went through. -/
theorem renewal_day_settles (first sub : Subscription) (count : Nat)
    (named : isBlank first.tenantID = false) (monthly : first.cycle = .monthly)
    (begun : 0 ≤ first.periodStart)
    (opened : advancePeriod first.periodStart .monthly = some first.periodEnd)
    (renewed : Renewed first count sub) : monthOfDay (sub.periodEnd / 86400) =
        monthOfDay (first.periodStart / 86400) + (count + 1 : Nat) ∧
      dayOfMonth (sub.periodEnd / 86400) = lastingDay (dayOfMonth (first.periodStart / 86400))
        (monthOfDay (first.periodStart / 86400)) (count + 1) := by
  have all : sub.tenantID = first.tenantID ∧ sub.cycle = .monthly ∧ 0 < sub.periodEnd ∧
      monthOfDay (sub.periodEnd / 86400) =
        monthOfDay (first.periodStart / 86400) + (count + 1 : Nat) ∧
      dayOfMonth (sub.periodEnd / 86400) = lastingDay (dayOfMonth (first.periodStart / 86400))
        (monthOfDay (first.periodStart / 86400)) (count + 1) := by
    induction renewed with
    | opened =>
      obtain ⟨_, month, day, _⟩ := advancePeriod_date opened
      exact ⟨rfl, monthly, begun.trans_lt (advancePeriod_after opened), month, day⟩
    | again before member ran ih =>
      obtain ⟨tenant, same, positive, month, day⟩ := ih
      have renewing : 0 < cycleMonths .monthly := by decide
      obtain ⟨stop, renews⟩ := advancePeriod_renews _ (same ▸ renewing)
      rw [advanceRenewal_run (tenant ▸ named) member positive.ne' renews] at ran
      cases ran
      obtain ⟨_, ahead, last, _⟩ := advancePeriod_date renews
      rw [same, month] at ahead last
      refine ⟨tenant, same, positive.trans (advancePeriod_after renews), ?_, ?_⟩
      · change monthOfDay (stop / 86400) = _
        rw [ahead, Int.add_assoc]
        rfl
      change dayOfMonth (stop / 86400) = _
      rw [last, day, Int.add_assoc]
      rfl
  exact all.2.2.2

def januarySub : Subscription :=
  { id := "sub", tenantID := "acme", accountID := "acct", planID := "basic", state := .active
    cycle := .monthly, currency := "USD", priceMinor := 1000, periodStart := 1706659200
    periodEnd := 1709164800, createdAt := 0, updatedAt := 0 }

def Subscription.renewed (sub : Subscription) (stop : Int) : Subscription :=
  (SubscriptionUpdate.advance sub.periodEnd stop sub.periodEnd).apply sub

def renewingShop (sub : Subscription) : World :=
  { subscriptions := ⟨[sub], by simp⟩, now := sub.periodEnd, names := Supply.outgrow }

theorem Renewed.alone {first : Subscription} {count : Nat} (before : Renewed first count sub)
    (named : isBlank sub.tenantID = false) (ends : sub.periodEnd ≠ 0)
    (renews : advancePeriod sub.periodEnd sub.cycle = some stop) :
    Renewed first (count + 1) (sub.renewed stop) := by
  have member : sub ∈ (renewingShop sub).subscriptions.rows := List.mem_cons_self
  exact .again before member (advanceRenewal_run named member ends renews)

def marchSub : Subscription := januarySub.renewed 1711670400

def aprilSub : Subscription := marchSub.renewed 1714348800

theorem march_renewed : Renewed januarySub 1 marchSub :=
  Renewed.opened.alone (by decide) (by decide) (by decide)

/-- From January 31 over February 29 and March 29 to April 29. -/
theorem april_ends_on_29 : dayOfMonth (aprilSub.periodEnd / 86400) = 29 ∧
      dayOfMonth (aprilSub.periodEnd / 86400) = lastingDay 31
        (monthOfDay (januarySub.periodStart / 86400)) 3 :=
  ⟨by decide, (renewal_day_settles januarySub aprilSub 2 (by decide) rfl (by decide) (by decide)
    (march_renewed.alone (by decide) (by decide) (by decide))).2⟩

/-- The second period ends on March 29, although March has 31 days. -/
theorem march_renews_early : advancePeriod januarySub.periodStart .monthly =
        some januarySub.periodEnd ∧ Renewed januarySub 1 marchSub ∧
      dayOfMonth (marchSub.periodEnd / 86400) = 29 ∧
      min (dayOfMonth (januarySub.periodStart / 86400))
        (daysInMonth (monthOfDay (marchSub.periodEnd / 86400))) = 31 :=
  ⟨by decide, march_renewed, by decide, by decide⟩

end Cashp
