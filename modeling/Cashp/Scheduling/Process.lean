import Cashp.Scheduling.ProcessCore

/-!
One run of a task at a time: a run keeps its task marked until it is through `finish`, unless `Stop`
has given up on it, and a marked task is not run again.
-/

namespace Cashp.Scheduling

open Kit

variable {scheduler : Scheduler} {threads : List Thread} {process : Process} {name : String}
variable {later : Scheduler} {status : Status} {failure : Option String} {now : Int}
variable {timedOut : Bool} {index : Nat} {job : Job} {execution : Execution}

def Scheduler.Running (scheduler : Scheduler) (name : String) : Prop :=
  ∀ entry ∈ scheduler.entries, entry.name = name → entry.running = true

theorem Scheduler.running_map {before : Scheduler} {change : Entry → Entry}
    (mapped : later.entries = before.entries.map change)
    (keeps : ∀ entry, (change entry).name = entry.name)
    (kept : ∀ entry ∈ before.entries, entry.name = name → (change entry).running = true) :
    later.Running name := by
  simp_all [Scheduler.Running]

theorem Scheduler.entry_of_mem {entry : Entry} (member : entry ∈ scheduler.entries) :
    scheduler.entry entry.name = some entry := by
  unfold Scheduler.entry
  cases found : scheduler.entries.find? fun other => other.name == entry.name with
  | none =>
    have missed := List.find?_eq_none.mp found entry member
    simp at missed
  | some other =>
    have named : other.name = entry.name := by simpa using List.find?_some found
    rw [List.inj_on_of_nodup_map scheduler.distinct (List.mem_of_find?_eq_some found) member named]

theorem not_running_of_idle (idle : scheduler.idle name = true) : ¬ scheduler.Running name := by
  intro running
  unfold Scheduler.idle at idle
  grind [Scheduler.entry, Scheduler.Running]

theorem running_mark (other : String) (running : scheduler.Running other ∨ other = name) :
    (scheduler.mark name true).Running other := by
  refine Scheduler.running_map rfl
    (fun entry => by unfold setRunning; split <;> rfl) fun entry member named => ?_
  grind [setRunning, Scheduler.Running]

theorem running_finish {other : String} (different : other ≠ name)
    (running : scheduler.Running other) :
    (scheduler.finish name status failure now).Running other := by
  refine Scheduler.running_map rfl (fun entry => by split <;> rfl) fun entry member named => ?_
  rw [if_neg (by rw [named]; exact different)]
  exact running entry member named

theorem running_noteLock (other : String) (running : scheduler.Running other) :
    (scheduler.noteLock name now).Running other := by
  unfold Scheduler.noteLock
  split <;> exact running

theorem running_stopLocked (kept : (scheduler.entry name).any (scheduler.givesUp timedOut) = false)
    (running : scheduler.Running name) : (scheduler.stopLocked now timedOut).Running name := by
  refine Scheduler.running_map rfl (fun entry => by split <;> rfl) fun entry member named => ?_
  have stays : scheduler.givesUp timedOut entry = false := by
    rw [← named, Scheduler.entry_of_mem member] at kept
    exact kept
  rw [stays, if_neg Bool.false_ne_true]
  exact running entry member named

theorem running_dispatchDue
    (running : scheduler.Running name ∨ name ∈ (scheduler.dispatchDue now).1) :
    (scheduler.dispatchDue now).2.Running name := by
  refine Scheduler.running_map rfl (fun entry => by split <;> rfl) fun entry member named => ?_
  split
  · rfl
  rename_i waits
  rcases running with before | due
  · exact before entry member named
  obtain ⟨other, listed, same⟩ := List.mem_map.mp due
  obtain ⟨present, comes⟩ := List.mem_filter.mp listed
  have only := List.inj_on_of_nodup_map scheduler.distinct present member
    (same.trans named.symm)
  rw [only] at comes
  exact absurd comes waits

theorem not_running_of_due (due : name ∈ (scheduler.dispatchDue now).1) :
    ¬ scheduler.Running name := by
  intro running
  obtain ⟨entry, listed, named⟩ := List.mem_map.mp due
  obtain ⟨present, comes⟩ := List.mem_filter.mp listed
  have marked := running entry present named
  simp [Scheduler.isDue, marked] at comes

structure Tidy (scheduler : Scheduler) (threads : List Thread) : Prop where
  sole : ∀ name, Sole (Thread.runs name) threads
  marked : ∀ thread ∈ threads, ∀ execution, thread.current = some execution →
    execution.live = true → execution.abandoned = false → scheduler.Running execution.name

section

variable (tidy : Tidy scheduler threads)

include tidy

theorem Tidy.put {old new : Thread}
    (here : threads[index]? = some old)
    (fair : ∀ name, new.runs name → old.runs name ∨ ∀ other ∈ threads, ¬ other.runs name)
    (others : ∀ name, ¬ old.runs name → scheduler.Running name → later.Running name)
    (own : ∀ execution, new.current = some execution → execution.live = true →
      execution.abandoned = false → later.Running execution.name) :
    Tidy later (threads.set index new) := by
  refine ⟨fun name => (tidy.sole name).set fun runs => ?_, ?_⟩
  · simp_all
  intro thread member execution current live kept
  obtain ⟨place, there⟩ := List.getElem?_of_mem member
  rcases place_of_set there with ⟨_, rfl⟩ | ⟨different, there⟩
  · exact own execution current live kept
  refine others execution.name (fun runs => different ?_)
    (tidy.marked thread (List.mem_of_getElem? there) execution current live kept)
  exact tidy.sole execution.name place index thread old there here
    ⟨execution, current, rfl, live⟩ runs

theorem Tidy.idle {next : Job}
    (here : threads[index]? = some (.idle job))
    (others : ∀ name, scheduler.Running name → later.Running name) :
    Tidy later (threads.set index (.idle next)) := by
  refine tidy.put here (fun name runs => ?_) (fun name _ => others name) fun execution current => ?_
  · obtain ⟨execution, current, _⟩ := runs
    simp [Thread.idle] at current
  · simp [Thread.idle] at current

theorem Tidy.spawn (jobs : List Job) :
    Tidy scheduler (threads ++ jobs.map Thread.idle) := by
  have resting : ∀ thread ∈ jobs.map Thread.idle, thread.current = none := by
    intro thread member
    obtain ⟨job, _, rfl⟩ := List.mem_map.mp member
    rfl
  have still : ∀ name, ∀ thread ∈ jobs.map Thread.idle, ¬ thread.runs name := by
    rintro name thread member ⟨execution, current, _⟩
    rw [resting thread member] at current
    simp at current
  refine ⟨fun name => (tidy.sole name).append (sole_of_none (still name)) (.inr (still name)), ?_⟩
  intro thread member execution current
  rcases List.mem_append.mp member with old | new
  · exact tidy.marked thread old execution current
  · rw [resting thread new] at current
    simp at current

theorem Tidy.free (unmarked : ¬ scheduler.Running name)
    (settled : ∀ thread ∈ threads, thread.lingers name = false) :
    ∀ thread ∈ threads, ¬ thread.runs name := by
  rintro thread member ⟨execution, current, named, live⟩
  have kept : execution.abandoned = false := by
    have gone := settled thread member
    simpa [Thread.lingers, current, named, live] using gone
  have marked := tidy.marked thread member execution current live kept
  rw [named] at marked
  exact unmarked marked

end

theorem Tidy.begin {next : Job} (tidy : Tidy process.scheduler process.threads)
    (here : process.threads[index]? = some (.idle job)) (idle : process.scheduler.idle name = true)
    (settled : ∀ thread ∈ process.threads, thread.lingers name = false) :
    Tidy (process.begin index name next).scheduler (process.begin index name next).threads := by
  have free := tidy.free (not_running_of_idle idle) settled
  refine tidy.put here (fun other runs => .inr ?_) (fun other _ running => ?_)
    fun execution current _ _ => ?_
  · obtain ⟨execution, current, named, _⟩ := runs
    simp only [Option.some.injEq] at current
    rw [← named, ← current]
    exact free
  · exact running_mark other (.inl running)
  · simp only [Option.some.injEq] at current
    exact running_mark execution.name (.inr (by rw [← current]))

theorem Tidy.dispatch (tidy : Tidy scheduler threads)
    (settled : ∀ name ∈ (scheduler.dispatchDue now).1, ∀ thread ∈ threads,
      thread.lingers name = false) :
    Tidy (scheduler.dispatchDue now).2 (threads ++ (scheduler.dispatchDue now).1.map fun name =>
      ⟨.single, some ⟨name, .acquiring, false⟩⟩) := by
  have distinct : (scheduler.dispatchDue now).1.Nodup :=
    (List.filter_sublist.map Entry.name).nodup scheduler.distinct
  have free : ∀ name ∈ (scheduler.dispatchDue now).1, ∀ thread ∈ threads, ¬ thread.runs name :=
    fun name due => tidy.free (not_running_of_due due) (settled name due)
  have named : ∀ name key, Thread.runs name ⟨.single, some ⟨key, .acquiring, false⟩⟩ →
      key = name := by
    rintro name key ⟨execution, current, same, _⟩
    rw [← same, ← Option.some.inj current]
  refine ⟨fun name => (tidy.sole name).append (sole_of_keys distinct (named name)) ?_, ?_⟩
  · grind
  · intro thread member execution current live kept
    rcases List.mem_append.mp member with old | new
    · exact running_dispatchDue (.inl (tidy.marked thread old execution current live kept))
    obtain ⟨key, listed, rfl⟩ := List.mem_map.mp new
    have same : key = execution.name := by rw [← Option.some.inj current]
    rw [← same]
    exact running_dispatchDue (.inr listed)

theorem Tidy.abandon (tidy : Tidy scheduler threads) :
    Tidy (scheduler.stopLocked now timedOut) (threads.map (Thread.abandon fun name =>
      (scheduler.entry name).any (scheduler.givesUp timedOut))) := by
  have traced : ∀ (givenUp : String → Bool) (thread : Thread) (execution : Execution),
      (thread.abandon givenUp).current = some execution →
      ∃ old, thread.current = some old ∧ execution.name = old.name ∧
        execution.phase = old.phase ∧ (execution.live = true → execution.abandoned = false →
          old.abandoned = false ∧ givenUp old.name = false) := by
    intro givenUp thread execution current
    obtain ⟨old, there, same⟩ := Option.map_eq_some_iff.mp current
    grind
  refine ⟨fun name => (tidy.sole name).map fun thread _ runs => ?_, ?_⟩
  · obtain ⟨execution, current, named, live⟩ := runs
    obtain ⟨old, there, same, phase, _⟩ := traced _ thread execution current
    refine ⟨old, there, same.symm.trans named, ?_⟩
    simpa [Execution.live, phase] using live
  · intro thread member execution current live kept
    obtain ⟨before, listed, rfl⟩ := List.mem_map.mp member
    obtain ⟨old, there, same, phase, spared⟩ := traced _ before execution current
    obtain ⟨stayed, passed⟩ := spared live kept
    have lived : old.live = true := by simpa [Execution.live, phase] using live
    rw [same]
    exact running_stopLocked passed (tidy.marked before listed old there lived stayed)

@[simp] theorem persist_scheduler (process : Process) (saves : Bool) :
    (process.persist saves).scheduler = process.scheduler := by
  unfold Process.persist
  split <;> rfl

@[simp] theorem persist_threads (process : Process) (saves : Bool) :
    (process.persist saves).threads = process.threads := by
  unfold Process.persist
  split <;> rfl

structure Steps (process : Process) (execution : Execution)
    (after : Process × Option Execution) : Prop where
  threads : after.1.threads = process.threads
  same : ∀ rest, after.2 = some rest → rest.name = execution.name ∧
    rest.abandoned = execution.abandoned ∧ (rest.live = true → execution.live = true)
  others : ∀ name, name ≠ execution.name ∨ execution.live = false →
    process.scheduler.Running name → after.1.scheduler.Running name
  own : ∀ rest, after.2 = some rest → rest.live = true →
    process.scheduler.Running execution.name → after.1.scheduler.Running execution.name

theorem steps_quiet {phase : Phase} {later : Process} (live : execution.live = true)
    (threads : later.threads = process.threads)
    (marks : ∀ name, process.scheduler.Running name → later.scheduler.Running name) :
    Steps process execution (later, some { execution with phase := phase }) := by
  refine ⟨threads, fun rest is => ?_, fun name _ => marks name, fun _ _ _ => marks _⟩
  rw [← Option.some.inj is]
  exact ⟨rfl, rfl, fun _ => live⟩

theorem steps_finish {saves : Bool} {rest : Option Execution} (live : execution.live = true)
    (ends : rest = none ∨ rest = some { execution with phase := .finished }) :
    Steps process execution (process.finish execution.name status failure saves, rest) := by
  refine ⟨by simp [Process.finish], fun later is => ?_, fun name apart running => ?_,
    fun later is lives => ?_⟩
  · simp_all
  · rw [Process.finish, persist_scheduler]
    refine running_finish (apart.resolve_right fun gone => ?_) running
    rw [live] at gone
    exact absurd gone (by decide)
  · simp_all [Execution.live]

theorem execute_steps (process : Process) (choice : Choice) (execution : Execution) :
    Steps process execution (process.execute choice execution) := by
  unfold Process.execute
  cases phase : execution.phase with
  | marked => exact steps_quiet (by simp [Execution.live, phase]) rfl fun _ running => running
  | acquiring =>
    have live : execution.live = true := by simp [Execution.live, phase]
    dsimp only
    split
    · split <;> exact steps_quiet live rfl fun _ running => running
    · exact steps_quiet live rfl fun _ running => running
  | denied => exact steps_finish (by simp [Execution.live, phase]) (.inl rfl)
  | locked =>
    exact steps_quiet (by simp [Execution.live, phase]) rfl fun name running =>
      running_noteLock name running
  | ready => exact steps_quiet (by simp [Execution.live, phase]) rfl fun _ running => running
  | inside => exact steps_quiet (by simp [Execution.live, phase]) rfl fun _ running => running
  | returned => exact steps_finish (by simp [Execution.live, phase]) (.inr rfl)
  | finished =>
    dsimp only
    split
    · exact ⟨by simp, fun _ is => by simp at is, fun _ _ running => by
        rw [persist_scheduler]
        exact running, fun _ is => by simp at is⟩
    · exact ⟨rfl, fun _ is => by simp at is, fun _ _ running => running,
        fun _ is => by simp at is⟩

section

variable (tidy : Tidy process.scheduler process.threads)

include tidy

theorem tidy_execute {thread : Thread} {after : Process × Option Execution}
    (here : process.threads[index]? = some thread)
    (current : thread.current = some execution) (steps : Steps process execution after) :
    Tidy after.1.scheduler (after.1.threads.set index ⟨job, after.2⟩) := by
  rw [steps.threads]
  refine tidy.put here (fun name runs => .inl ?_) (fun name idle running => ?_)
    fun rest is live kept => ?_
  · obtain ⟨rest, is, named, live⟩ := runs
    obtain ⟨same, _, lived⟩ := steps.same rest is
    exact ⟨execution, current, same.symm.trans named, lived live⟩
  · refine steps.others name ?_ running
    grind [Thread.runs]
  · obtain ⟨same, given, lived⟩ := steps.same rest is
    rw [same]
    refine steps.own rest is live ?_
    exact tidy.marked thread (List.mem_of_getElem? here) execution current (lived live)
      (given ▸ kept)

theorem tidy_work {choice : Choice}
    (here : process.threads[index]? = some (.idle job))
    (settled : process.Settled (.advance index choice)) :
    Tidy (process.work index choice job).scheduler (process.work index choice job).threads := by
  have rests : ∀ next, Tidy process.scheduler (process.threads.set index (.idle next)) :=
    fun next => tidy.idle here fun _ running => running
  have begins : ∀ name ∈ process.begins (.advance index choice), ∀ thread ∈ process.threads,
      thread.lingers name = false := settled
  simp only [Process.begins, here, Thread.idle] at begins
  cases job with
  | runNow name =>
    simp only [Process.work]
    split
    · rename_i idle
      exact tidy.begin here idle (begins name (by simp [idle]))
    · exact rests _
  | replay cycle names checked =>
    cases checked with
    | false =>
      simp only [Process.work]
      split <;> exact rests _
    | true =>
      cases names with
      | nil => exact rests _
      | cons name rest =>
        simp only [Process.work]
        split
        · rename_i idle
          exact tidy.begin here idle (begins name (by simp [idle]))
        · exact rests _
  | loop cycle =>
    simp only [Process.work]
    split
    · split
      · exact rests _
      · exact tidy
    · rename_i ticks
      exact tidy.dispatch fun name due => begins name (by simpa [ticks] using due)
  | start | stop =>
    simp only [Process.work]
    split <;> exact rests _
  | starting =>
    simp only [Process.work]
    split
    · exact rests _
    have started : ∀ next, Tidy
        (process.scheduler.startLocked process.now (process.load choice.readable)).2
        (process.threads.set index (.idle next)) :=
      fun next => tidy.idle here fun _ running => running
    simp only [Process.startLocked]
    split
    · exact started _
    · simpa [Process.put] using started _
  | launching =>
    simp only [Process.work]
    split
    · simpa [Process.spawn, Process.put] using rests _
    · exact (rests _).spawn [_]
  | launchingLoop => exact (rests _).spawn [_]
  | cancelling => exact rests _
  | waitingLoops =>
    simp only [Process.work]
    split
    · exact tidy
    · exact rests _
  | waitingTasks =>
    simp only [Process.work]
    split
    · exact rests _
    split
    · exact tidy
    · exact rests _
  | closing timedOut =>
    have still : (process.threads.map (Thread.abandon fun name =>
        (process.scheduler.entry name).any (process.scheduler.givesUp timedOut)))[index]? =
          some (.idle (.closing timedOut)) := by
      rw [List.getElem?_map, here]
      rfl
    simp only [Process.work, Process.stopLocked, Process.put, persist_scheduler,
      persist_threads]
    exact tidy.abandon.idle still fun _ running => running
  | single | ended => exact tidy

theorem tidy_take {happening : Happening}
    (settled : process.Settled happening) :
    Tidy (process.take happening).scheduler (process.take happening).threads := by
  cases happening with
  | runNow | start | stop => exact tidy.spawn [_]
  | cancel | clock => exact tidy
  | advance index choice =>
    simp only [Process.take, Process.advance]
    split
    · exact tidy
    rename_i thread here
    obtain ⟨job, current⟩ := thread
    cases current with
    | none => exact tidy_work tidy here settled
    | some execution => exact tidy_execute tidy here rfl (execute_steps process choice execution)

end

theorem tidy_created (scheduler : Scheduler) (saved : Option Records) (now : Int) :
    Tidy (Process.created scheduler saved now).scheduler
      (Process.created scheduler saved now).threads :=
  ⟨fun _ => sole_of_none fun _ member => by simp [Process.created] at member,
    fun _ member => by simp [Process.created] at member⟩

theorem exclusive_of_tidy (tidy : Tidy process.scheduler process.threads) : process.Exclusive := by
  refine fun name => (tidy.sole name).mono fun thread inside => ?_
  obtain ⟨execution, current, named, phase⟩ := inside
  exact ⟨execution, current, named, by simp [Execution.live, phase]⟩

/-- Through ticks, calls, replays and restarts, a task is run once at a time, if no run of it
begins while one that a stop has given up on goes on. -/
theorem runs_exclusive (scheduler : Scheduler) (saved : Option Records) (now : Int)
    (happenings : List Happening)
    (settled : Every Process.take Process.Settled (.created scheduler saved now) happenings) :
    (lastState Process.take (.created scheduler saved now) happenings).Exclusive :=
  exclusive_of_tidy (lastState_of_invariant
    (fun process => Tidy process.scheduler process.threads) (tidy_created scheduler saved now)
    settled fun _ _ tidy settled => tidy_take tidy settled)

def steady : Choice := ⟨.granted, none, false, false, true, true, true⟩

def steps (thread count : Nat) : List Happening :=
  List.replicate count (.advance thread steady)

def interruptedRun : List Happening :=
  [.start] ++ steps 0 4 ++ [.runNow "session_cleanup"] ++ steps 2 4 ++ [.stop] ++ steps 3 2 ++
    [.advance 1 { steady with quit := true }] ++ steps 3 1 ++
    [.advance 3 { steady with timedOut := true }] ++ steps 3 1

theorem rerun_exclusive : (lastState Process.take
    (.created (soleScheduler (sessionCleanup false)) none 0)
    (interruptedRun ++ steps 2 3 ++ [.runNow "session_cleanup"] ++ steps 4 4)).Exclusive :=
  runs_exclusive _ _ _ _ (by decide +kernel)

/-- The interrupted run still goes on when the task is run again. -/
theorem rerun_overlaps : ¬ (lastState Process.take
    (.created (soleScheduler (sessionCleanup false)) none 0)
    (interruptedRun ++ [.runNow "session_cleanup"] ++ steps 4 4)).Exclusive := by
  intro exclusive
  have same := exclusive "session_cleanup" 2 4 ⟨.single, some ⟨"session_cleanup", .inside, true⟩⟩
    ⟨.single, some ⟨"session_cleanup", .inside, false⟩⟩ (by decide +kernel) (by decide +kernel)
    ⟨_, rfl, rfl, rfl⟩ ⟨_, rfl, rfl, rfl⟩
  exact absurd same (by decide)

end Cashp.Scheduling
