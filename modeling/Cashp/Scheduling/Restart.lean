import Cashp.Scheduling.Retry

/-!
Interrupted tasks after a restart. `Stop` sets the next run of a task it gives up on to the time of
the stop; `Start` sets the next run of every task anew.
-/

namespace Cashp.Scheduling

open Kit Kit.Duration

variable {visit : Entry → Option TaskState → Option TaskState} {entries : List Entry}
  {records : Records} {entry : Entry} {now : Int} {opts : Options} {state : TaskState}
variable {scheduler : Scheduler}

@[simp] theorem Records.set_same (name : String) (record : Option TaskState) :
    records.set name record name = record := if_pos rfl

theorem Records.set_other {name other : String} (record : Option TaskState)
    (different : other ≠ name) : records.set name record other = records other :=
  if_neg different

theorem sweep_other {name : String} (absent : name ∉ entries.map Entry.name) :
    sweep visit entries records name = records name := by
  induction entries generalizing records with
  | nil => rfl
  | cons first rest ih =>
    rw [List.map_cons, List.mem_cons, not_or] at absent
    rw [sweep, ih absent.2, Records.set_other _ absent.1]

theorem sweep_at (distinct : (entries.map Entry.name).Nodup) (member : entry ∈ entries) :
    sweep visit entries records entry.name = visit entry (records entry.name) := by
  induction entries generalizing records with
  | nil => simp at member
  | cons first rest ih =>
    rw [List.map_cons, List.nodup_cons] at distinct
    rw [sweep]
    rcases List.mem_cons.mp member with rfl | later
    · rw [sweep_other distinct.1, Records.set_same]
    have different : entry.name ≠ first.name := fun same =>
      distinct.1 (same ▸ List.mem_map_of_mem later)
    rw [ih distinct.2 later, Records.set_other _ different]

theorem stopLocked_records (timedOut : Bool) (member : entry ∈ scheduler.entries) :
    (scheduler.stopLocked now timedOut).records entry.name =
      (scheduler.records entry.name).map (stopped scheduler.opts now timedOut entry) :=
  sweep_at scheduler.distinct member

theorem stopped_of_running (opts : Options) (now : Int) (state : TaskState)
    (running : entry.running = true) : (stopped opts now true entry state).nextRun = now ∧
      (stopped opts now true entry state).lastError = "interrupted by shutdown" ∧
      (stopped opts now true entry state).enabled = state.enabled := by
  have marked : (true && entry.running) = true := by rw [running]; rfl
  simp only [stopped, if_pos marked]
  split <;> exact ⟨rfl, rfl, rfl⟩

theorem synced_keeps (opts : Options) (entry : Entry) (state : TaskState) :
    (synced opts entry state).nextRun = state.nextRun ∧
      (synced opts entry state).enabled = state.enabled := by
  simp only [synced]
  split <;> exact ⟨rfl, rfl⟩

theorem mem_missed (opts : Options) (now : Int) (records : Records)
    (distinct : (entries.map Entry.name).Nodup) (member : entry ∈ entries) :
    entry.name ∈ (syncState opts now entries records).1 ↔
      isMissed opts now entry (synced opts entry (stateFor entry (records entry.name))) = true := by
  have recorded : sweep (fun entry record => some (synced opts entry (stateFor entry record)))
      entries records entry.name = some (synced opts entry (stateFor entry (records entry.name))) :=
    sweep_at distinct member
  simp only [syncState, List.mem_map, List.mem_insertionSort, List.mem_filterMap]
  constructor
  · rintro ⟨listed, ⟨other, present, found⟩, named⟩
    obtain ⟨state, there, kept⟩ := Option.bind_eq_some_iff.mp found
    rw [Option.ite_none_right_eq_some] at kept
    obtain ⟨missed, pair⟩ := kept
    have same : other = entry := by
      refine List.inj_on_of_nodup_map distinct present member ?_
      rw [← named, ← Option.some.inj pair]
    subst same
    rw [recorded, Option.some.injEq] at there
    rw [there]
    exact missed
  · intro missed
    refine ⟨(entry.name, (synced opts entry (stateFor entry (records entry.name))).nextRun),
      ⟨entry, member, ?_⟩, rfl⟩
    rw [recorded, Option.bind_some, if_pos missed]

theorem startLocked_records (loaded : Option Records) (member : entry ∈ scheduler.entries) :
    (scheduler.startLocked now loaded).2.records entry.name =
      rescheduled now entry (some (synced scheduler.opts entry
        (stateFor entry (loaded.getD scheduler.records entry.name)))) := by
  have synchronised : (syncState scheduler.opts now scheduler.entries
      (loaded.getD scheduler.records)).2 entry.name = some (synced _ _ (stateFor entry _)) :=
    sweep_at scheduler.distinct member
  rw [← synchronised]
  exact sweep_at scheduler.distinct member

def Scheduler.DueOnStart (scheduler : Scheduler) (now : Int) (loaded : Option Records)
    (name : String) : Prop :=
  name ∈ (scheduler.startLocked now loaded).1 ∨
    ∃ record, (scheduler.startLocked now loaded).2.records name = some record ∧
      record.nextRun ≤ now

theorem between_le {due window : Int} (later : due ≤ now) (near : now - due ≤ window)
    (fits : window ≤ longest) : between due now ≤ window := by
  have long : longest = 2 ^ 63 - 1 := rfl
  have short : shortest = -2 ^ 63 := rfl
  unfold between
  omega

theorem dueOnStart_iff {loaded : Option Records}
    (member : entry ∈ scheduler.entries) (bound : entry.task.bound = true)
    (recorded : loaded.getD scheduler.records entry.name = some state)
    (enabled : state.enabled = true) (unplanned : entry.schedule = none → state.nextRun ≤ now) :
    scheduler.DueOnStart now loaded entry.name ↔
      (entry.task.catchUp = true ∧ state.nextRun ≠ zeroTime ∧ state.nextRun ≤ now ∧
          between state.nextRun now ≤ scheduler.opts.catchUpWindow) ∨
        ∀ schedule, entry.schedule = some schedule → schedule.next now ≤ now := by
  obtain ⟨sameRun, sameEnabled⟩ := synced_keeps scheduler.opts entry state
  have listed : entry.name ∈ (scheduler.startLocked now loaded).1 ↔
      isMissed scheduler.opts now entry (synced scheduler.opts entry state) = true := by
    have known := mem_missed scheduler.opts now (loaded.getD scheduler.records)
      scheduler.distinct member
    rw [recorded] at known
    exact known
  unfold Scheduler.DueOnStart
  rw [listed, startLocked_records loaded member, recorded,
    show stateFor entry (some state) = state from rfl]
  cases timing : entry.schedule with
  | none =>
    have kept : rescheduled now entry (some (synced scheduler.opts entry state)) =
        some (synced scheduler.opts entry state) := by simp [rescheduled, timing]
    simp_all
  | some schedule =>
    have moved : rescheduled now entry (some (synced scheduler.opts entry state)) =
        some { synced scheduler.opts entry state with nextRun := schedule.next now } := by
      simp [rescheduled, timing, bound, stateFor, sameEnabled, enabled]
    have missed : isMissed scheduler.opts now entry (synced scheduler.opts entry state) = true ↔
        entry.task.catchUp = true ∧ state.nextRun ≠ zeroTime ∧ state.nextRun ≤ now ∧
          between state.nextRun now ≤ scheduler.opts.catchUpWindow := by
      simp [isMissed, sameRun, sameEnabled, enabled, bound, timing, and_assoc]
    simp_all

/-- The executions, of any tasks, that `Stop` has not waited for and that end before the next
start. -/
def Scheduler.afterwards (scheduler : Scheduler) (endings : List (String × Ending)) : Scheduler :=
  lastState (fun ended => Scheduler.conclude ended.1 ended.2) scheduler endings

/-- What later endings leave of the mark: the task stays enabled, and only its schedule can move
the next run. -/
structure Marked (entry : Entry) (stop : Int) (scheduler : Scheduler)
    (state : TaskState) : Prop where
  recorded : scheduler.records entry.name = some state
  enabled : state.enabled = true
  unplanned : entry.schedule = none → state.nextRun = stop
  same : ∀ other ∈ scheduler.entries, other.name = entry.name → other.schedule = entry.schedule

theorem Marked.conclude {stop : Int} (marked : Marked entry stop scheduler state) (name : String)
    (ending : Ending) : ∃ state, Marked entry stop (scheduler.conclude name ending) state := by
  have same : ∀ other ∈ (scheduler.conclude name ending).entries,
      other.name = entry.name → other.schedule = entry.schedule := by
    intro other listed named
    obtain ⟨old, there, rfl⟩ := List.mem_map.mp listed
    split at named <;> split <;> exact marked.same old there named
  unfold Scheduler.conclude at same ⊢
  cases found : scheduler.entry name with
  | none =>
    refine ⟨state, ?_, marked.enabled, marked.unplanned, same⟩
    simp only [Scheduler.finish, found]
    exact marked.recorded
  | some known =>
    by_cases own : entry.name = name
    · subst own
      obtain ⟨there, named⟩ : known ∈ scheduler.entries ∧ known.name = entry.name :=
        ⟨List.mem_of_find?_eq_some found, by simpa using List.find?_some found⟩
      refine ⟨_, by simp only [Scheduler.finish, found]; exact Records.set_same _ _, ?_, ?_, same⟩
      · rw [marked.recorded]
        change (state.ended ending.status ending.failure ending.now).enabled = true
        cases ending.status <;> exact marked.enabled
      · intro none
        have steady : (known.onward ending.status ending.now).1 = .none := by
          rw [Entry.onward, marked.same known there named, none]
        rw [steady, marked.recorded]
        change (state.ended ending.status ending.failure ending.now).nextRun = stop
        cases ending.status <;> exact marked.unplanned none
    · refine ⟨state, ?_, marked.enabled, marked.unplanned, same⟩
      simp only [Scheduler.finish, found]
      exact (Records.set_other _ own).trans marked.recorded

theorem Marked.afterwards {stop : Int} (endings : List (String × Ending))
    (marked : Marked entry stop scheduler state) :
    ∃ state, Marked entry stop (scheduler.afterwards endings) state := by
  refine lastState_of_kept (fun later => ∃ state, Marked entry stop later state) ⟨state, marked⟩ ?_
  rintro ⟨name, ending⟩ later ⟨state, marked⟩
  exact marked.conclude name ending

/-- A task that `Stop` gave up on is due on the next start just if it catches up on the next run
that is on record by then, or its schedule has nothing later to offer. That run is the mark of
`Stop`, unless the execution ends after all. The start may be that of another process with the same
tasks. -/
theorem interrupted_due_iff (before after : Scheduler) (entry again : Entry) (state : TaskState)
    (loaded : Option Records) (endings : List (String × Ending)) (stop now : Int)
    (known : entry ∈ before.entries) (running : entry.running = true)
    (recorded : before.records entry.name = some state) (enabled : state.enabled = true)
    (present : again ∈ after.entries) (sameTask : again.task = entry.task)
    (sameSchedule : again.schedule = entry.schedule) (bound : entry.task.bound = true)
    (handed : loaded.getD after.records entry.name =
      ((before.stopLocked stop true).afterwards endings).records entry.name)
    (later : stop ≤ now) (near : now - stop ≤ after.opts.catchUpWindow) :
    ∃ left, ((before.stopLocked stop true).afterwards endings).records entry.name = some left ∧
      (endings = [] → left.nextRun = stop ∧ between stop now ≤ after.opts.catchUpWindow) ∧
      (after.DueOnStart now loaded entry.name ↔
        (entry.task.catchUp = true ∧ left.nextRun ≠ zeroTime ∧ left.nextRun ≤ now ∧
            between left.nextRun now ≤ after.opts.catchUpWindow) ∨
          ∀ schedule, entry.schedule = some schedule → schedule.next now ≤ now) := by
  have named : again.name = entry.name := congrArg Task.name sameTask
  obtain ⟨sameRun, _, sameEnabled⟩ := stopped_of_running before.opts stop state running
  have marked : Marked entry stop (before.stopLocked stop true)
      (stopped before.opts stop true entry state) := by
    refine ⟨?_, sameEnabled.trans enabled, fun _ => sameRun, fun other listed same => ?_⟩
    · rw [stopLocked_records true known, recorded, Option.map_some]
    obtain ⟨old, there, rfl⟩ := List.mem_map.mp listed
    have kept : (if before.givesUp true old then { old with running := false } else old).schedule =
        old.schedule := by split <;> rfl
    have only : old = entry := List.inj_on_of_nodup_map before.distinct there known
      (by rw [← same]; split <;> rfl)
    exact kept.trans (congrArg Entry.schedule only)
  -- Executions that end in between may plan the next run anew, but leave the task enabled.
  obtain ⟨left, ends⟩ := marked.afterwards endings
  refine ⟨left, ends.recorded, fun none => ?_, ?_⟩
  · subst none
    rw [Option.some.inj (ends.recorded.symm.trans marked.recorded)]
    exact ⟨sameRun, between_le later near after.opts.fits⟩
  have due := dueOnStart_iff present (sameTask ▸ bound)
    (named ▸ handed.trans ends.recorded) ends.enabled
    fun none => (ends.unplanned (sameSchedule ▸ none)).trans_le later
  rw [sameTask, sameSchedule, named] at due
  exact due

theorem cleanup_due : (soleScheduler (sessionCleanup false)).DueOnStart (1001 * second)
    (some ((soleScheduler (sessionCleanup true)).stopLocked (1000 * second) true).records)
    "session_cleanup" := by
  obtain ⟨left, _, marked, due⟩ := interrupted_due_iff (soleScheduler (sessionCleanup true))
    (soleScheduler (sessionCleanup false)) (sessionCleanup true) (sessionCleanup false)
    (freshState (sessionCleanup true)) (some _) [] (1000 * second) (1001 * second)
    List.mem_cons_self rfl rfl rfl List.mem_cons_self rfl rfl rfl rfl (by decide) (by decide)
  obtain ⟨stop, near⟩ := marked rfl
  rw [stop] at due
  exact due.mpr (.inl ⟨rfl, by decide, by decide, near⟩)

/-- A second after it was interrupted the task is not due but waits for its whole interval. -/
theorem interrupted_not_due :
    (((soleScheduler (torHealth true)).stopLocked (1000 * second) true).records
        "tor_health").map TaskState.lastError = some "interrupted by shutdown" ∧
      ¬ (soleScheduler (torHealth false)).DueOnStart (1001 * second)
        (some ((soleScheduler (torHealth true)).stopLocked (1000 * second) true).records)
        "tor_health" := by
  refine ⟨rfl, ?_⟩
  rintro (replayed | ⟨record, same, come⟩)
  · exact absurd replayed (by decide +kernel)
  have waits : record.nextRun = 1601 * second := by
    rw [← Option.some.inj same]
    rfl
  rw [waits] at come
  exact absurd come (by decide)

end Cashp.Scheduling
