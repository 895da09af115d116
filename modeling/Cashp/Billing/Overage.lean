import Cashp.Billing.Drafts
import Cashp.Kit.Run

/-!
Billing the overage of a period. An invoice bills the stored totals that no invoice has billed yet
and marks them; a roll-up after that stores the whole total once more.
-/

namespace Cashp

open Kit Kit.Program

structure MeteredPeriod where
  tenantID : String
  meterCode : String
  start : Int
  stop : Int

namespace MeteredPeriod

def isPending (period : MeteredPeriod) (rollup : UsageRollup) : Bool :=
  rollup.isPending period.tenantID period.meterCode period.start

def isBilledBy (period : MeteredPeriod) (line : InvoiceLine) : Bool :=
  line.kind == .overage && line.tenantID == period.tenantID &&
    line.meterCode == period.meterCode && line.linePeriodStart == period.start

def isMeasuredBy (period : MeteredPeriod) (record : UsageRecord) : Bool :=
  record.isWithin period.tenantID period.start period.stop && record.meterCode == period.meterCode

def billedMilli (period : MeteredPeriod) (world : World) : Int :=
  world.lines.sumWhere period.isBilledBy InvoiceLine.quantityMilli

def pendingOverage (period : MeteredPeriod) (world : World) : Int :=
  world.rollups.sumWhere period.isPending fun rollup => clampNonNegative rollup.overageValue

def total (period : MeteredPeriod) (world : World) : Int :=
  world.usage.sumWhere period.isMeasuredBy UsageRecord.value

end MeteredPeriod

theorem splitTotal_nonneg (total limit : Int) : 0 ≤ (splitTotal total limit).2 := by
  unfold splitTotal
  split
  · dsimp only
    omega
  · exact Int.le_refl 0

theorem splitTotal_mono {total later : Int} (grows : total ≤ later) (limit : Int) :
    (splitTotal total limit).2 ≤ (splitTotal later limit).2 := by
  unfold splitTotal
  split <;> split <;> dsimp only <;> omega

variable {later after : World}

section

variable (period : MeteredPeriod) {owner invoiceID : String} {world : World}
variable {before later : World} {ids : List String} {line : InvoiceLine}

theorem billedMilli_of_entries (same : Area.Same .entry before after) :
    period.billedMilli after = period.billedMilli before :=
  Table.sumWhere_of_map same (fun _ => rfl) fun _ => rfl

theorem billedMilli_addLine {grown : World} (entries : Area.Same .entry grown later)
    (rows : grown.lines.rows = world.lines.rows ++ [line]) :
    period.billedMilli later = period.billedMilli world +
      if period.isBilledBy line then line.quantityMilli else 0 := by
  rw [billedMilli_of_entries period entries]
  simp only [MeteredPeriod.billedMilli, Table.sumWhere_eq, rows, List.map_append, List.sum_append,
    List.map_cons, List.map_nil, List.sum_cons, List.sum_nil, Int.add_zero]

def MeteredPeriod.markedOverage (marked : List String) (rollup : UsageRollup) : Int :=
  if period.isPending rollup = true ∧ rollup.id ∈ marked then
    clampNonNegative rollup.overageValue
  else 0

theorem markedOverage_nonneg (marked : List String) (rollup : UsageRollup) :
    0 ≤ period.markedOverage marked rollup := by
  unfold MeteredPeriod.markedOverage
  split
  · exact clampNonNegative_nonneg _
  · exact Int.le_refl 0

def Bills (billed : List String) (rollups : List UsageRollup) (program : Service (List String))
    (before world : World) : Prop :=
  ∃ marked later, program.run world = (.ok marked, later) ∧ billed ⊆ marked ∧
    period.billedMilli later ≤ period.billedMilli before +
      1000 * (rollups.map (period.markedOverage marked)).sum

section

variable {period} {billed : List String} {rollups : List UsageRollup} {rollup : UsageRollup}
variable {program : Service (List String)} {before : World}

theorem Bills.marking (bills : Bills period (billed ++ [rollup.id]) rollups program before world) :
    Bills period billed rollups program before world := by
  grind [Bills]

theorem Bills.of_run {other : Service (List String)} (same : program.run world = other.run later)
    (bills : Bills period billed rollups other before later) :
    Bills period billed rollups program before world := by
  unfold Bills
  rwa [same]

theorem Bills.passing (rollup : UsageRollup)
    (bills : Bills period billed rollups program before world) :
    Bills period billed (rollup :: rollups) program before world := by
  obtain ⟨marked, later, ran, kept, bound⟩ := bills
  refine ⟨marked, later, ran, kept, ?_⟩
  have extra := markedOverage_nonneg period marked rollup
  rw [List.map_cons, List.sum_cons]
  omega

theorem overageLine_milli {id : String} {seen : Invoice} {measured : Meter} {unitPrice : Int}
    (positive : 0 < rollup.overageValue) :
    (preparedLine (overageLine rollup measured unitPrice) id owner seen).quantityMilli =
      1000 * clampNonNegative rollup.overageValue := by
  grind [preparedLine, overageLine, clampNonNegative]

theorem Bills.adding {grown : World} (same : period.isBilledBy line = period.isPending rollup)
    (milli : line.quantityMilli = 1000 * clampNonNegative rollup.overageValue)
    (entries : Area.Same .entry grown later) (rows : grown.lines.rows = world.lines.rows ++ [line])
    (bills : Bills period (billed ++ [rollup.id]) rollups program later later) :
    Bills period billed (rollup :: rollups) program world later := by
  obtain ⟨marked, final, ran, kept, bound⟩ := bills
  refine ⟨marked, final, ran, fun id listed => kept (List.mem_append_left _ listed), ?_⟩
  have added := billedMilli_addLine period entries rows
  have listed : rollup.id ∈ marked := kept (List.mem_append_right _ (List.mem_singleton_self _))
  have here : period.markedOverage marked rollup =
      if period.isPending rollup = true then clampNonNegative rollup.overageValue else 0 := by
    simp [MeteredPeriod.markedOverage, listed]
  grind

end

theorem billRollups_bills (named : isBlank owner = false) (rollups : List UsageRollup)
    (listed : ∀ rollup ∈ rollups, rollup.tenantID = owner ∧ rollup.invoiced = false)
    (billed : List String) (world : World) (drafted : Drafted owner invoiceID world) :
    Bills period billed rollups (billRollups owner invoiceID rollups billed) world world := by
  induction rollups generalizing billed world with
  | nil => exact ⟨billed, world, rfl, List.Subset.refl _, by simp⟩
  | cons rollup rest ih =>
    have others := fun other among => listed other (List.mem_cons_of_mem rollup among)
    have ours := listed rollup List.mem_cons_self
    have skipped := (ih others (billed ++ [rollup.id]) world drafted).marking.passing rollup
    have passed := (ih others billed world drafted).passing rollup
    unfold billRollups
    split
    · exact skipped
    rename_i positive
    have asked : ((meter rollup.meterCode).run world).2 = world :=
      run_unchanged meter_within world
    refine .of_run run_attempted ?_
    rw [asked]
    cases ((meter rollup.meterCode).run world).1 with
    | error => exact passed
    | ok measured =>
      have priced : ((effectiveQuotaFor owner measured.resource).run world).2 = world :=
        run_unchanged effectiveQuotaFor_within world
      refine .of_run run_attempted ?_
      rw [priced]
      cases ((effectiveQuotaFor owner measured.resource).run world).1 with
      | error => exact skipped
      | ok quota =>
        dsimp only
        split
        · exact skipped
        obtain ⟨inv, later, ran, still, id, seen, grown, entries, rows⟩ :=
          addLine_returns named drafted (overageLine rollup measured quota.unitPrice)
        refine .of_run (run_bind_ok ran) (.adding ?_
          (overageLine_milli (Int.not_le.mp positive)) entries rows
          (ih others _ later still))
        simp [MeteredPeriod.isBilledBy, MeteredPeriod.isPending, UsageRollup.isPending,
          preparedLine, overageLine, ours.1, ours.2]

def UsageRollup.markedIn (ids : List String) (rollup : UsageRollup) : UsageRollup :=
  if rollup.id ∈ ids then { rollup with invoiced := true } else rollup

theorem markRollupsInvoiced_run (ids : List String) (world : World) :
    ∃ later, (markRollupsInvoiced ids).run world = (.ok (), later) ∧
      later.rollups.rows = world.rollups.rows.map (UsageRollup.markedIn ids) := by
  induction ids generalizing world with
  | nil =>
    refine ⟨world, rfl, ?_⟩
    conv_lhs => rw [← List.map_id world.rollups.rows]
    exact List.map_congr_left fun rollup _ => by simp [UsageRollup.markedIn]
  | cons id rest ih =>
    obtain ⟨later, ran, rows⟩ := ih (execute (Stmt.rollup (.markInvoiced id)) world).2
    refine ⟨later, ?_, ?_⟩
    · unfold markRollupsInvoiced
      rw [run_step, ran]
    rw [rows]
    change (world.rollups.rows.map (Table.assignWhere _ _)).map _ = _
    rw [List.map_map]
    refine List.map_congr_left fun rollup _ => ?_
    simp only [Function.comp, Table.assignWhere, UsageRollup.markedIn, List.mem_cons]
    by_cases here : rollup.id = id
    · simp [here]
    · simp [here]

theorem isPending_markedIn (ids : List String) (rollup : UsageRollup) :
    period.isPending (rollup.markedIn ids) =
      (period.isPending rollup && decide (rollup.id ∉ ids)) := by
  unfold MeteredPeriod.isPending UsageRollup.isPending UsageRollup.markedIn
  by_cases listed : rollup.id ∈ ids <;> simp [listed]

def MeteredPeriod.pendingRows (world : World) : List UsageRollup :=
  world.rollups.rows.filter period.isPending

theorem pendingRows_marked
    (rows : later.rollups.rows = world.rollups.rows.map (UsageRollup.markedIn ids)) :
    (period.pendingRows later).Sublist (period.pendingRows world) := by
  have kept : period.pendingRows later =
      (period.pendingRows world).filter fun rollup => decide (rollup.id ∉ ids) := by
    unfold MeteredPeriod.pendingRows
    rw [rows, List.filter_map, List.filter_filter]
    conv_rhs => rw [← List.map_id (List.filter _ _)]
    have same : period.isPending ∘ UsageRollup.markedIn ids = fun rollup =>
        decide (rollup.id ∉ ids) && period.isPending rollup := by
      funext rollup
      rw [Function.comp, isPending_markedIn, Bool.and_comm]
    rw [same]
    refine List.map_congr_left fun rollup member => ?_
    simp_all [UsageRollup.markedIn]
  rw [kept]
  exact List.filter_sublist

theorem pendingOverage_marked
    (rows : later.rollups.rows = world.rollups.rows.map (UsageRollup.markedIn ids)) :
    period.pendingOverage later + (world.rollups.rows.map (period.markedOverage ids)).sum =
      period.pendingOverage world := by
  simp only [MeteredPeriod.pendingOverage, Table.sumWhere_eq, rows, List.map_map]
  rw [← List.sum_map_add]
  refine congrArg List.sum (List.map_congr_left fun rollup _ => ?_)
  simp only [Function.comp, isPending_markedIn, MeteredPeriod.markedOverage]
  by_cases pending : period.isPending rollup = true <;> by_cases listed : rollup.id ∈ ids <;>
    simp [pending, listed, UsageRollup.markedIn]

def MeteredPeriod.owing (world : World) : Int :=
  period.billedMilli world + 1000 * period.pendingOverage world

def MeteredPeriod.Draws (before after : World) : Prop :=
  period.owing after ≤ period.owing before ∧
    (period.pendingRows after).Sublist (period.pendingRows before)

variable {period} in
theorem MeteredPeriod.Draws.trans {first second third : World} (one : period.Draws first second)
    (two : period.Draws second third) : period.Draws first third :=
  ⟨two.1.trans one.1, two.2.trans one.2⟩

theorem draws_of_rollups (billed : period.billedMilli after = period.billedMilli before)
    (rollups : after.rollups = before.rollups) : period.Draws before after := by
  unfold MeteredPeriod.Draws MeteredPeriod.owing MeteredPeriod.pendingOverage
    MeteredPeriod.pendingRows
  rw [billed, rollups]
  exact ⟨Int.le_refl _, List.Sublist.refl _⟩

theorem draws_of_uses {Value : Type} {program : Service Value}
    (uses : program.Avoids [.entry, .rollup]) (world : World) :
    period.Draws world (program.run world).2 :=
  draws_of_rollups period (billedMilli_of_entries period (run_same uses (by decide) world))
    (run_same uses (by decide) world : Area.Same .rollup _ _)

theorem addSubscriptionLine_returns {sub : Subscription} (target : Plan)
    (named : isBlank sub.tenantID = false) (drafted : Drafted sub.tenantID invoiceID world) :
    ∃ later, (addSubscriptionLine sub target invoiceID).run world = (.ok (), later) ∧
      Drafted sub.tenantID invoiceID later ∧ period.Draws world later := by
  unfold addSubscriptionLine
  split
  · obtain ⟨inv, later, ran, still, id, seen, grown, entries, rows⟩ :=
      addLine_returns named drafted (subscriptionLine sub target)
    have kept : later.rollups = world.rollups :=
      same_of_run .rollup ran (addLine_within (by decide))
    refine ⟨later, run_bind_ok ran, still, draws_of_rollups period ?_ kept⟩
    have plain : period.isBilledBy (preparedLine (subscriptionLine sub target) id sub.tenantID
        seen) = false := by
      simp [MeteredPeriod.isBilledBy, preparedLine, subscriptionLine]
    have added := billedMilli_addLine period entries rows
    rwa [plain, if_neg Bool.false_ne_true, Int.add_zero] at added
  · exact ⟨world, rfl, drafted, draws_of_rollups period rfl rfl⟩

def billAndMark (tenantID invoiceID : String) (periodStart periodEnd : Int) : Service Unit := do
  let rollups ← pendingRollups tenantID periodStart periodEnd
  let billed ← billRollups tenantID invoiceID rollups []
  markRollupsInvoiced billed

theorem generateSubscriptionInvoice_eq (sub : Subscription) :
    generateSubscriptionInvoice sub = (do
      let target ← plan sub.planID
      let draft ← createDraft sub.tenantID sub.id sub.periodStart sub.periodEnd
      addSubscriptionLine sub target draft.id
      billAndMark sub.tenantID draft.id sub.periodStart sub.periodEnd
      let issued ← issueInvoice sub.tenantID draft.id
      applyAccountBalance issued) := by
  unfold generateSubscriptionInvoice billAndMark
  simp only [bind_bind]

theorem billAndMark_draws (named : isBlank owner = false) (drafted : Drafted owner invoiceID world)
    (periodStart periodEnd : Int) :
    ∃ later, (billAndMark owner invoiceID periodStart periodEnd).run world = (.ok (), later) ∧
      period.Draws world later := by
  let rollups := (execute (Stmt.rollup (.pendingOf owner periodStart periodEnd)) world).1
  have pending : ∀ rollup ∈ rollups, rollup.tenantID = owner ∧ rollup.invoiced = false := by
    intro rollup listed
    have facts := (Table.mem_selectOrdered.mp listed).2
    simp only [Bool.and_eq_true, beq_iff_eq, Bool.not_eq_true'] at facts
    exact ⟨facts.1.1, facts.2⟩
  have asked : (pendingRollups owner periodStart periodEnd).run world = (.ok rollups, world) := rfl
  obtain ⟨marked, billed, ran, _, bound⟩ :=
    billRollups_bills period named rollups pending [] world drafted
  have kept : billed.rollups = world.rollups :=
    same_of_run .rollup ran (billRollups_within (by decide))
  obtain ⟨later, done, rows⟩ := markRollupsInvoiced_run marked billed
  have entries : Area.Same .entry billed later :=
    same_of_run .entry done (markRollupsInvoiced_within (by decide))
  refine ⟨later, ?_, ?_, ?_⟩
  · unfold billAndMark
    rw [run_bind_ok asked, run_bind_ok ran, done]
  · have taken := pendingOverage_marked period rows
    have most : (rollups.map (period.markedOverage marked)).sum ≤
        (world.rollups.rows.map (period.markedOverage marked)).sum :=
      Table.sum_selectOrdered_le fun rollup _ => markedOverage_nonneg period marked rollup
    have same : period.pendingOverage billed = period.pendingOverage world := by
      rw [MeteredPeriod.pendingOverage, MeteredPeriod.pendingOverage, kept]
    rw [kept] at taken
    rw [MeteredPeriod.owing, MeteredPeriod.owing, billedMilli_of_entries period entries]
    omega
  · rw [kept] at rows
    exact pendingRows_marked period rows

theorem generateSubscriptionInvoice_draws (sub : Subscription) (world : World) :
    period.Draws world ((generateSubscriptionInvoice sub).run world).2 := by
  rw [generateSubscriptionInvoice_eq]
  rcases run_bind_reads plan_within world with ⟨failure, stopped⟩ | ⟨target, _, onward⟩
  · rw [stopped]
    exact draws_of_rollups period rfl rfl
  rw [onward, run_bind]
  have opening := draws_of_uses period (createDraft_within (by decide) :
    (createDraft sub.tenantID sub.id sub.periodStart sub.periodEnd).Avoids [.entry, .rollup]) world
  cases ran : (createDraft sub.tenantID sub.id sub.periodStart sub.periodEnd).run world with
  | mk answer =>
    rw [ran] at opening
    cases answer with
    | error => exact opening
    | ok draft =>
      obtain ⟨named, drafted⟩ := createDraft_drafts ran
      obtain ⟨lined, added, still, plain⟩ :=
        addSubscriptionLine_returns period target named drafted
      obtain ⟨marked, billed, bound⟩ :=
        billAndMark_draws period named still sub.periodStart sub.periodEnd
      dsimp only
      rw [run_bind_ok added, run_bind_ok billed]
      have ending := draws_of_uses period (uses_bind
        (issueInvoice_within (by decide))
        fun issued => applyAccountBalance_within (by decide) :
        (issueInvoice sub.tenantID draft.id >>= applyAccountBalance).Avoids [.entry, .rollup])
          marked
      exact ((opening.trans plain).trans bound).trans ending

end

section

variable (period : MeteredPeriod) {bound : Int} {world : World}

def Waits (bound : Int) (rollups : List UsageRollup) : Prop :=
  rollups = [] ∨ ∃ rollup, rollups = [rollup] ∧ clampNonNegative rollup.overageValue ≤ bound

def Held (bound : Int) (world : World) : Prop := Waits bound (period.pendingRows world)

variable {period} {latest : UsageRollup} {entry : UsageTotal}

theorem Held.of_rollups (same : later.rollups = world.rollups)
    (held : Held period bound world) : Held period bound later := by
  unfold Held MeteredPeriod.pendingRows
  rwa [same]

theorem Held.bounded (held : Held period bound world) (positive : 0 ≤ bound) :
    period.pendingOverage world ≤ bound := by
  have whole : period.pendingOverage world = ((period.pendingRows world).map fun rollup =>
    clampNonNegative rollup.overageValue).sum := rfl
  rcases held with none | ⟨rollup, only, most⟩
  · rw [whole, none]
    exact positive
  · rw [whole, only]
    simpa using most

theorem Held.mono {most : Int} (bounds : bound ≤ most) (held : Held period bound world) :
    Held period most world := by
  rcases held with none | ⟨rollup, only, within⟩
  · exact .inl none
  · exact .inr ⟨rollup, only, within.trans bounds⟩

theorem Held.sublist (held : Held period bound world)
    (fewer : (period.pendingRows later).Sublist (period.pendingRows world)) :
    Held period bound later := by
  rcases held with none | ⟨rollup, only, within⟩
  · rw [none, List.sublist_nil] at fewer
    exact .inl fewer
  · rw [only, List.sublist_singleton] at fewer
    exact fewer.imp_right fun same => ⟨rollup, same, within⟩

section

variable (period) (world)

theorem pendingRows_execute (latest : UsageRollup) :
    period.pendingRows (execute (Stmt.rollup (.replace latest)) world).2 =
      (period.pendingRows world).map (Table.assignWhere
        (UsageRollup.isPending latest.tenantID latest.meterCode latest.periodStart)
        latest.retotalled) :=
  @Table.filter_update _ _ _ _ _ (by simp [UsageRollup.retotalled]) _ fun _ _ _ => rfl

theorem pendingRows_replace_other (unmarked : latest.invoiced = false)
    (other : period.isPending latest = false) :
    period.pendingRows (execute (Stmt.rollup (.replace latest)) world).2 =
      period.pendingRows world := by
  rw [pendingRows_execute]
  conv_rhs => rw [← List.map_id (period.pendingRows world)]
  refine List.map_congr_left fun rollup member => Table.assignWhere_not ?_
  grind [UsageRollup.isPending, MeteredPeriod.isPending, MeteredPeriod.pendingRows]

theorem pendingRows_replace (same : period.isPending latest = true) :
    period.pendingRows (execute (Stmt.rollup (.replace latest)) world).2 =
      (period.pendingRows world).map latest.retotalled := by
  rw [pendingRows_execute]
  refine List.map_congr_left fun rollup member => Table.assignWhere_of ?_
  simp_all [UsageRollup.isPending, MeteredPeriod.isPending, MeteredPeriod.pendingRows]

theorem pendingRows_insert (latest : UsageRollup) :
    period.pendingRows (execute (Stmt.rollup (.insert latest)) world).2 = period.pendingRows world ∨
      period.pendingRows (execute (Stmt.rollup (.insert latest)) world).2 =
        period.pendingRows world ++ [latest].filter period.isPending := by
  change period.pendingRows (Stmt.execute _ _).2 = _ ∨ period.pendingRows (Stmt.execute _ _).2 = _
  simp only [Stmt.execute, RollupStmt.execute, MeteredPeriod.pendingRows]
  cases stored : world.rollups.insert latest with
  | none => exact .inl rfl
  | some => exact .inr (by rw [Table.insert_rows stored, List.filter_append])

theorem affected_pending (same : period.isPending latest = true) :
    (execute (Stmt.rollup (.replace latest)) world).1 = (period.pendingRows world).length := by
  have keys : UsageRollup.isPending latest.tenantID latest.meterCode latest.periodStart =
      period.isPending := by
    grind [UsageRollup.isPending, MeteredPeriod.isPending]
  change world.rollups.affected _ = _
  rw [keys]
  exact List.countP_eq_length_filter

end

theorem saveRollup_held (unmarked : latest.invoiced = false) (held : Held period bound world)
    (within : period.isPending latest = true → clampNonNegative latest.overageValue ≤ bound) :
    Held period bound ((saveRollup latest).run world).2 := by
  unfold saveRollup
  rw [run_step]
  have inserting :=
    pendingRows_insert period (execute (Stmt.rollup (.replace latest)) world).2 latest
  cases same : period.isPending latest with
  | false =>
    have kept := pendingRows_replace_other period world unmarked same
    simp only [List.filter_cons, same, List.filter_nil, Bool.false_eq_true, if_false,
      List.append_nil, or_self, kept] at inserting
    split
    · change Waits bound (period.pendingRows (execute (Stmt.rollup (.replace latest)) world).2)
      rwa [kept]
    · rw [run_step, run_unchanged (uses_refuse _ _), Held, inserting]
      exact held
  | true =>
    have counted := affected_pending period world same
    have retotalled := pendingRows_replace period world same
    simp only [List.filter_cons, same, List.filter_nil, if_true, retotalled] at inserting
    split
    · rename_i found
      change Waits bound (period.pendingRows (execute (Stmt.rollup (.replace latest)) world).2)
      rw [retotalled]
      rcases held with none | ⟨rollup, only, _⟩
      · simp [counted, none] at found
      · exact .inr ⟨_, congrArg (List.map latest.retotalled) only, within same⟩
    · rename_i missing
      have none : period.pendingRows world = [] := by
        rw [counted] at missing
        exact List.eq_nil_of_length_eq_zero (by omega)
      rw [run_step, run_unchanged (uses_refuse _ _), Held]
      rw [none] at inserting
      rcases inserting with unchanged | grown
      · exact .inl unchanged
      · exact .inr ⟨latest, grown, within same⟩

theorem effectiveQuotaFor_consults (tenantID resource : String) :
    (effectiveQuotaFor tenantID resource).Uses Stmt.Consults := by
  have asks {Reply : Type} (stmt : CatalogueStmt Reply) :
      (perform (.catalogue stmt) : Service Reply).Uses Stmt.Consults := uses_perform trivial
  have lists : (perform (.subscription (.entitled tenantID)) : Service _).Uses Stmt.Consults :=
    uses_perform trivial
  have clock : unix.Uses Stmt.Consults := uses_perform trivial
  have reads (planID : String) : (plan planID).Uses Stmt.Consults := by
    unfold plan planQuotas require
    grind
  have prices (sub : Subscription) : (planQuotaFor sub resource).Uses Stmt.Consults := by
    unfold planQuotaFor planQuotas
    grind
  have finds : (activeSubscription tenantID).Uses Stmt.Consults := by
    unfold activeSubscription requireTenant require
    grind
  unfold effectiveQuotaFor quotaOverride
  grind

def MeteredPeriod.Limits (period : MeteredPeriod) (bound : Int) (origin : World)
    (entry : UsageTotal) : Prop :=
  entry.meter = period.meterCode → ∀ world : World, world.Alike origin → ∀ split,
    (includedAndOverage period.tenantID entry).run world = (.ok split, world) →
      clampNonNegative split.2 ≤ bound

theorem rollUpEach_held {origin : World} {start stop now : Int} (totals : List UsageTotal)
    (limits : ∀ entry ∈ totals, period.Limits bound origin entry) (alike : world.Alike origin)
    (held : Held period bound world) :
    Held period bound ((rollUpEach period.tenantID start stop now totals).run world).2 := by
  induction totals generalizing world with
  | nil => exact held
  | cons entry rest ih =>
    unfold rollUpEach
    rcases run_bind_reads includedAndOverage_within world with
      ⟨failure, stopped⟩ | ⟨split, asked, onward⟩
    · rw [stopped]
      exact held
    rw [onward]
    dsimp only
    rw [run_bind_ok (newID_run world)]
    -- the identifier that is drawn changes neither the roll-ups nor what is consulted
    have drew : Held period bound
        { world with drawn := world.names.next world.usedIDs :: world.drawn } :=
      held.of_rollups rfl
    refine (run_bind_keeps _ (fun later => Held period bound later ∧ later.Alike origin)
      ⟨saveRollup_held rfl drew fun pending => ?_,
        alike_of_uses (by apply saveRollup_within; decide) alike⟩
      fun _ later keeps => ?_).1
    · refine limits entry List.mem_cons_self ?_ world alike split asked
      simp only [MeteredPeriod.isPending, UsageRollup.isPending, Bool.and_eq_true,
        beq_iff_eq] at pending
      exact pending.1.1.2
    · exact run_bind_keeps _ (fun last => Held period bound last ∧ last.Alike origin)
        ⟨ih (fun other among => limits other (List.mem_cons_of_mem _ among)) keeps.2 keeps.1,
          alike_of_uses (rollUpEach_within (by decide)) keeps.2⟩
        fun _ _ same => same

theorem totals_entry {meters : List Meter} (listed : entry ∈ Usage.totals meters
      (world.usage.select (UsageRecord.isWithin period.tenantID period.start period.stop)))
    (ours : entry.meter = period.meterCode) :
    entry.total = period.total world ∧ ∃ measured,
      meters.find? (fun meter => meter.code == period.meterCode) = some measured ∧
        entry.resource = measured.resource := by
  obtain ⟨code, _, found⟩ := List.mem_filterMap.mp listed
  obtain ⟨measured, first, rfl⟩ := Option.map_eq_some_iff.mp found
  dsimp only at ours ⊢
  subst ours
  refine ⟨?_, measured, first, rfl⟩
  unfold MeteredPeriod.total Table.sumWhere Table.select
  rw [List.filter_filter]
  refine congrArg (fun rows : List UsageRecord => (rows.map UsageRecord.value).sum) ?_
  refine List.filter_congr fun record _ => ?_
  rw [Bool.and_comm]
  rfl

variable (period) in
def MeteredPeriod.limitRead (world : World) : Option Int :=
  (world.catalogue.meters.find? fun meter => meter.code == period.meterCode).bind fun measured =>
    if measured.resource = "" then none
    else
      match ((effectiveQuotaFor period.tenantID measured.resource).run world).1 with
      | .ok quota => some quota.limit
      | .error _ => none

theorem limits_of_read {limit : Int} (listed : entry ∈ Usage.totals world.catalogue.meters
      (world.usage.select (UsageRecord.isWithin period.tenantID period.start period.stop)))
    (unchanged : ∀ read ∈ period.limitRead world, read = limit) :
    period.Limits (splitTotal (period.total world) limit).2 world entry := by
  intro ours later alike split ran
  obtain ⟨whole, measured, found, resource⟩ := totals_entry listed ours
  unfold includedAndOverage at ran
  split at ran
  · cases ran
    exact splitTotal_nonneg _ _
  rename_i named
  obtain ⟨quota, _, asked, rest⟩ := ran_bind ran
  have answer := (run_congr (effectiveQuotaFor_consults period.tenantID entry.resource)
    (fun stmt => consults_alike stmt) alike).1
  have same : quota.limit = limit := by
    refine unchanged quota.limit ?_
    rw [asked] at answer
    simp only [MeteredPeriod.limitRead, found, Option.bind_some, ← resource, if_neg named,
      ← answer, Option.mem_def]
  cases rest
  rw [whole, same, clampNonNegative_of_nonneg (splitTotal_nonneg _ _)]

theorem rollUpUsage_held {limit : Int} (unchanged : ∀ read ∈ period.limitRead world, read = limit)
    (held : Held period (splitTotal (period.total world) limit).2 world) :
    Held period (splitTotal (period.total world) limit).2
      ((rollUpUsage period.tenantID period.start period.stop).run world).2 := by
  unfold rollUpUsage
  have clock : unix.run world = (.ok world.now, world) := rfl
  rw [run_step]
  change Held period _ (Program.run (unix >>= _) world).2
  rw [run_bind_ok clock]
  exact rollUpEach_held _ (fun entry listed => limits_of_read listed unchanged) ⟨rfl, rfl, rfl⟩ held

end

inductive MeteringStep
  | rollUp (now : Int)
  | generate (now : Int) (sub : Subscription)
  | measure (usage : Usage)

section

variable (period : MeteredPeriod) (limit : Int)

def MeteredPeriod.take : MeteringStep → World → World
  | .rollUp now, world =>
    (rollUpUsage period.tenantID period.start period.stop).final { world with now := now }
  | .generate now sub, world => (generateSubscriptionInvoice sub).final { world with now := now }
  | .measure usage, world => { world with usage := usage }

def MeteredPeriod.Steadily : MeteringStep → World → Prop
  | .rollUp now, world => ∀ read ∈ period.limitRead { world with now := now }, read = limit
  | .generate _ _, _ => True
  | .measure usage, world => period.total world ≤ period.total { world with usage := usage }

def MeteredPeriod.Unbilled : MeteringStep → World → Prop
  | .rollUp _, world => period.billedMilli world = 0
  | _, _ => True

def MeteredPeriod.overage (world : World) : Int := (splitTotal (period.total world) limit).2

def MeteredPeriod.Bounded (world : World) : Prop :=
  Held period (period.overage limit world) world ∧
    period.owing world ≤ 1000 * period.overage limit world

variable {period limit} {world : World}

theorem pendingOverage_nonneg (period : MeteredPeriod) (world : World) :
    0 ≤ period.pendingOverage world := by
  unfold MeteredPeriod.pendingOverage Table.sumWhere
  refine List.sum_nonneg fun amount listed => ?_
  obtain ⟨rollup, _, rfl⟩ := List.mem_map.mp listed
  exact clampNonNegative_nonneg _

theorem overage_of_usage (same : later.usage = world.usage) :
    period.overage limit later = period.overage limit world := by
  unfold MeteredPeriod.overage MeteredPeriod.total
  rw [same]

theorem bounded_rollUp {now : Int} (bounded : period.Bounded limit world)
    (unchanged : ∀ read ∈ period.limitRead { world with now := now }, read = limit)
    (unbilled : period.billedMilli world = 0) :
    period.Bounded limit (period.take (.rollUp now) world) := by
  have held := rollUpUsage_held unchanged (bounded.1.of_rollups rfl)
  have measured : Area.Same .usage _ (period.take (.rollUp now) world) :=
    run_without .usage (rollUpUsage_within (by decide)) { world with now := now }
  have lines : Area.Same .entry _ (period.take (.rollUp now) world) :=
    run_without .entry (rollUpUsage_within (by decide)) { world with now := now }
  have same : period.overage limit (period.take (.rollUp now) world) = period.overage limit world :=
    overage_of_usage measured
  have billed : period.billedMilli (period.take (.rollUp now) world) = 0 :=
    (billedMilli_of_entries period lines).trans unbilled
  have waiting : period.pendingOverage (period.take (.rollUp now) world) ≤
      period.overage limit world := held.bounded (splitTotal_nonneg _ _)
  unfold MeteredPeriod.Bounded
  rw [same]
  refine ⟨held, ?_⟩
  rw [MeteredPeriod.owing, billed]
  omega

theorem bounded_generate {now : Int} (sub : Subscription) (bounded : period.Bounded limit world) :
    period.Bounded limit (period.take (.generate now sub) world) := by
  have draws := generateSubscriptionInvoice_draws period sub { world with now := now }
  have measured : Area.Same .usage _ (period.take (.generate now sub) world) :=
    run_without .usage (generateSubscriptionInvoice_within (by decide)) { world with now := now }
  have same : period.overage limit (period.take (.generate now sub) world) =
      period.overage limit world := overage_of_usage measured
  unfold MeteredPeriod.Bounded
  rw [same]
  exact ⟨bounded.1.sublist draws.2, draws.1.trans bounded.2⟩

theorem bounded_measure {usage : Usage} (bounded : period.Bounded limit world)
    (grows : period.total world ≤ period.total { world with usage := usage }) :
    period.Bounded limit (period.take (.measure usage) world) := by
  have more : period.overage limit world ≤
      period.overage limit (period.take (.measure usage) world) := splitTotal_mono grows limit
  have owed : period.owing (period.take (.measure usage) world) = period.owing world := rfl
  refine ⟨(bounded.1.mono more).of_rollups rfl, ?_⟩
  have before := bounded.2
  omega

/-- If no roll-up comes after overage of the meter was billed, no more is billed than the overage of
the total, however often the period is rolled up and invoiced. -/
theorem overage_billed_once (period : MeteredPeriod) (limit : Int) (world : World)
    (steps : List MeteringStep) (waiting : period.pendingRows world = [])
    (unbilled : period.billedMilli world = 0)
    (steadily : Every period.take (period.Steadily limit) world steps)
    (first : Every period.take period.Unbilled world steps) :
    period.billedMilli (lastState period.take world steps) ≤
      1000 * period.overage limit (lastState period.take world steps) := by
  have start : period.Bounded limit world := by
    have held : Held period (period.overage limit world) world := .inl waiting
    have pending := held.bounded (splitTotal_nonneg _ _)
    exact ⟨held, by rw [MeteredPeriod.owing, unbilled]; omega⟩
  have bounded := lastState_of_invariant (period.Bounded limit) start (steadily.and first) <| by
    intro step state bounded fits
    cases step with
    | rollUp => exact bounded_rollUp bounded fits.1 fits.2
    | generate now sub => exact bounded_generate sub bounded
    | measure => exact bounded_measure bounded fits.1
  have pending := pendingOverage_nonneg period (lastState period.take world steps)
  have owing := bounded.2
  rw [MeteredPeriod.owing] at owing
  omega

instance : ∀ step, Decidable (period.Steadily limit step world)
  | .rollUp now =>
    inferInstanceAs
      (Decidable (∀ read ∈ period.limitRead { world with now := now }, read = limit))
  | .generate _ _ => isTrue trivial
  | .measure usage =>
    inferInstanceAs (Decidable (period.total world ≤ period.total { world with usage := usage }))

instance : ∀ step, Decidable (period.Unbilled step world)
  | .rollUp _ => inferInstanceAs (Decidable (period.billedMilli world = 0))
  | .generate _ _ => isTrue trivial
  | .measure _ => isTrue trivial

end

def meteredPlan : Plan :=
  { id := "metered", code := "metered", name := "Metered", currency := "USD", priceMinor := 500
    cycle := .monthly, trialDays := 0, graceDays := 7, overagePolicy := .allowWithCharge
    active := true }

def meteredMember : Subscription :=
  { id := "sub", tenantID := "acme", accountID := "acct", planID := "metered", state := .active
    cycle := .monthly, currency := "USD", priceMinor := 500, periodStart := 0
    periodEnd := 2678400, createdAt := 0, updatedAt := 0 }

def callRecord (value : Int) : UsageRecord :=
  { id := "use", tenantID := "acme", meterCode := "calls", periodStart := 0, periodEnd := 2678400
    value := value, dimensions := "", recordedAt := 0 }

def meteredShop : World where
  catalogue :=
    { plans := [meteredPlan]
      planQuotas := [{ id := "quota", planID := "metered", resource := "api_calls"
                       limitValue := 100, enforcement := .soft, burstValue := 0
                       overageUnitPriceMinor := 2 }]
      meters := [{ code := "calls", name := "Calls", meterType := .counter
                   resource := "api_calls", unit := "call" }] }
  subscriptions := ⟨[meteredMember], by simp⟩
  usage := ⟨[callRecord 120], by simp⟩
  now := 0
  names := Supply.outgrow

def callsOfMonth : MeteredPeriod :=
  { tenantID := "acme", meterCode := "calls", start := 0, stop := 2678400 }

def growingMonth : List MeteringStep :=
  [.rollUp 1000, .measure ⟨[callRecord 150], by simp⟩, .rollUp 2678400,
    .generate 2678400 meteredMember, .generate 2678401 meteredMember]

theorem growing_month_billed :
    callsOfMonth.billedMilli (lastState callsOfMonth.take meteredShop growingMonth) = 50000 ∧
      callsOfMonth.billedMilli (lastState callsOfMonth.take meteredShop growingMonth) ≤
        1000 * callsOfMonth.overage 100 (lastState callsOfMonth.take meteredShop growingMonth) :=
  ⟨by decide +kernel, overage_billed_once callsOfMonth 100 meteredShop growingMonth
    (by decide +kernel) (by decide +kernel) (by decide +kernel) (by decide +kernel)⟩

def billedMonth : List MeteringStep :=
  [.rollUp 1000, .generate 1001 meteredMember, .rollUp 2000, .generate 2001 meteredMember]

/-- A roll-up after the invoice stores the whole total once more, and the next invoice bills
it: forty calls for twenty. -/
theorem billed_month_billed_again :
    callsOfMonth.pendingRows meteredShop = [] ∧ callsOfMonth.billedMilli meteredShop = 0 ∧
      Every callsOfMonth.take (callsOfMonth.Steadily 100) meteredShop billedMonth ∧
      callsOfMonth.overage 100 (lastState callsOfMonth.take meteredShop billedMonth) = 20 ∧
      callsOfMonth.billedMilli (lastState callsOfMonth.take meteredShop billedMonth) = 40000 := by
  decide +kernel

end Cashp
