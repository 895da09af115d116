import Cashp.Kit.Run
import Cashp.Scheduling.ModelsCore
import Mathlib.Algebra.Order.Ring.Int

/-!
A task that fails is tried again after a delay that doubles, until its retries are used up. The
delay is shifted in 64 bits.
-/

namespace Cashp.Scheduling

open Kit Kit.Duration

structure Ending where
  status : Status
  failure : Option String
  now : Int

def Task.retries (task : Task) : Int :=
  if task.maxRetries = 0 then defaultMaxRetries else max 0 task.maxRetries

def Task.firstDelay (task : Task) : Int :=
  if task.retryDelay ≤ 0 then defaultRetryDelay else task.retryDelay

namespace Scheduler

def conclude (name : String) (ending : Ending) (scheduler : Scheduler) : Scheduler :=
  scheduler.finish name ending.status ending.failure ending.now

def nextRun (scheduler : Scheduler) (name : String) : Option Int :=
  (scheduler.records name).map TaskState.nextRun

def retryAfter (schedule : Schedule) (name : String) (ending : Ending) (scheduler : Scheduler) :
    Option Int :=
  ((scheduler.conclude name ending).nextRun name).bind fun next =>
    if next < schedule.next ending.now then some (next - ending.now) else none

def retriesAfter (schedule : Schedule) (name : String) :
    List Ending → Scheduler → List (Option Int)
  | [], _ => []
  | ending :: rest, scheduler =>
    scheduler.retryAfter schedule name ending ::
      retriesAfter schedule name rest (scheduler.conclude name ending)

end Scheduler

variable {scheduler : Scheduler} {name : String} {task : Task} {schedule : Schedule}
variable {attempts : Int}

structure Tracks (name : String) (task : Task) (schedule : Schedule) (attempts : Int)
    (scheduler : Scheduler) : Prop where
  entry : ∃ entry, scheduler.entry name = some entry ∧ entry.task = task ∧
    entry.schedule = some schedule ∧ entry.attempts = attempts
  used : 0 ≤ attempts
  left : attempts ≤ task.retries

theorem retries_nonneg (task : Task) : 0 ≤ task.retries := by
  unfold Task.retries defaultMaxRetries
  split <;> omega

theorem firstDelay_pos (task : Task) : 0 < task.firstDelay := by
  unfold Task.firstDelay
  split
  · decide
  · omega

section

variable (fits : task.firstDelay * 2 ^ (task.retries - 1).toNat ≤ longest)
include fits

theorem delay_fits (left : attempts < task.retries) : 0 < task.firstDelay * 2 ^ attempts.toNat ∧
      wrap (task.firstDelay * 2 ^ attempts.toNat) = task.firstDelay * 2 ^ attempts.toNat := by
  have first := firstDelay_pos task
  have positive : 0 < task.firstDelay * 2 ^ attempts.toNat :=
    Int.mul_pos first (Int.pow_pos (by decide))
  have smaller : (2 : Int) ^ attempts.toNat ≤ 2 ^ (task.retries - 1).toNat :=
    pow_le_pow_right₀ (by decide) (by omega)
  have bounded := (Int.mul_le_mul_of_nonneg_left smaller first.le).trans fits
  have short : shortest = -2 ^ 63 := rfl
  exact ⟨positive, wrap_of_fits (by omega) bounded⟩

theorem retryTime_eq (used : 0 ≤ attempts) (now : Int) : retryTime task attempts now =
    if attempts < task.retries then
      (some (now + task.firstDelay * 2 ^ attempts.toNat), attempts + 1) else (none, 0) := by
  split
  · rename_i left
    have same := (delay_fits fits left).2
    unfold Task.retries at left
    unfold retryTime
    dsimp only
    rw [if_neg (by split at left <;> grind), if_neg (by split at left <;> grind)]
    unfold Task.firstDelay at same ⊢
    rw [same]
  · rename_i spent
    unfold Task.retries at spent
    unfold retryTime
    grind

theorem onward_cases {entry : Entry} (own : entry.task = task)
    (scheduled : entry.schedule = some schedule) (used : 0 ≤ entry.attempts)
    (left : entry.attempts ≤ task.retries) (status : Status) (now : Int) :
    ∃ next more, entry.onward status now = (some next, more) ∧ 0 ≤ more ∧ more ≤ task.retries ∧
      (next = schedule.next now ∨ entry.attempts < task.retries ∧ more = entry.attempts + 1 ∧
        next = min (now + task.firstDelay * 2 ^ entry.attempts.toNat) (schedule.next now)) := by
  have none_left := retries_nonneg task
  by_cases failed : status = .failed
  · simp only [failed, Entry.onward, scheduled, own, reduceCtorEq, if_false, if_true,
      retryTime_eq fits used now]
    by_cases more : entry.attempts < task.retries
    · simp only [more, if_true]
      exact ⟨_, _, rfl, by omega, by omega, .inr ⟨trivial, rfl, by grind⟩⟩
    · simp only [more, if_false]
      exact ⟨_, _, rfl, le_rfl, none_left, .inl rfl⟩
  · simp only [Entry.onward, scheduled, failed, if_false]
    refine ⟨_, _, rfl, ?_, ?_, .inl rfl⟩
    · split <;> omega
    · split <;> omega

end

theorem entry_finish {entry : Entry} (found : scheduler.entry name = some entry) (status : Status)
    (failure : Option String) (now : Int) : (scheduler.finish name status failure now).entry name =
      some { entry with running := false, attempts := (entry.onward status now).2 } := by
  have own : entry.name = name := by simpa using List.find?_some found
  unfold Scheduler.entry Scheduler.finish Scheduler.adjust
  dsimp only
  rw [List.find?_map, show (fun entry : Entry => entry.name == name) ∘ _ =
    fun entry : Entry => entry.name == name from funext fun entry => by dsimp; split <;> rfl]
  unfold Scheduler.entry at found
  rw [found, Option.map_some, if_pos own]

theorem conclude_tracks (fits : task.firstDelay * 2 ^ (task.retries - 1).toNat ≤ longest)
    (tracks : Tracks name task schedule attempts scheduler) (ending : Ending) :
    ∃ next more, (scheduler.conclude name ending).nextRun name = some next ∧
      Tracks name task schedule more (scheduler.conclude name ending) ∧
      (next = schedule.next ending.now ∨ attempts < task.retries ∧ more = attempts + 1 ∧
        next = min (ending.now + task.firstDelay * 2 ^ attempts.toNat)
          (schedule.next ending.now)) := by
  obtain ⟨⟨entry, found, own, scheduled, rfl⟩, used, left⟩ := tracks
  obtain ⟨next, more, onward, still, fewer, cause⟩ :=
    onward_cases fits own scheduled used left ending.status ending.now
  refine ⟨next, more, ?_, ⟨?_, still, fewer⟩, cause⟩
  · simp [Scheduler.conclude, Scheduler.nextRun, Scheduler.finish, found, onward, Records.set]
  exact ⟨_, entry_finish found _ _ _, own, scheduled, by rw [onward]⟩

theorem retriesAfter_double (fits : task.firstDelay * 2 ^ (task.retries - 1).toNat ≤ longest)
    (tracks : Tracks name task schedule attempts scheduler) {endings : List Ending}
    {delays : List Int} (retried : scheduler.retriesAfter schedule name endings = delays.map some) :
    attempts + delays.length ≤ task.retries ∧
      delays = List.iterate (2 * ·) (task.firstDelay * 2 ^ attempts.toNat) delays.length := by
  induction endings generalizing scheduler attempts delays with
  | nil =>
    obtain rfl : delays = [] := List.map_eq_nil_iff.mp retried.symm
    exact ⟨by simpa using tracks.left, rfl⟩
  | cons ending rest ih =>
    obtain _ | ⟨delay, others⟩ := delays
    · cases retried
    obtain ⟨first, onward⟩ := List.cons.inj retried
    obtain ⟨next, more, planned, later, cause⟩ := conclude_tracks fits tracks ending
    obtain ⟨short, double⟩ := ih later onward
    rw [Scheduler.retryAfter, planned, Option.bind_some] at first
    split at first
    · obtain rfl := Option.some.inj first
      obtain regular | ⟨left, rfl, sooner⟩ := cause
      · omega
      have used := tracks.used
      have length : next - ending.now = task.firstDelay * 2 ^ attempts.toNat := by omega
      have doubled : task.firstDelay * 2 ^ (attempts + 1).toNat =
          2 * (task.firstDelay * 2 ^ attempts.toNat) := by
        rw [Int.toNat_add used (by decide)]
        grind
      refine ⟨by simp only [List.length_cons]; omega, ?_⟩
      rw [length, List.length_cons, List.iterate, ← doubled, ← double]
    · cases first

/-- If the longest delay fits into 64 bits, a task runs next at its time or before it and after the
last run; it is tried again as often as it may, with doubling delays. -/
theorem retries_bounded (scheduler : Scheduler) (name : String) (entry : Entry)
    (schedule : Schedule) (known : scheduler.entry name = some entry)
    (scheduled : entry.schedule = some schedule) (fresh : entry.attempts = 0)
    (ahead : ∀ now, schedule.next now = zeroTime ∨ now < schedule.next now)
    (fits : entry.task.firstDelay * 2 ^ (entry.task.retries - 1).toNat ≤ longest)
    (early late : List Ending) :
    let middle := lastState (Scheduler.conclude name) scheduler early
    (∀ ending, schedule.next ending.now ≠ zeroTime →
      ∃ next, (middle.conclude name ending).nextRun name = some next ∧ ending.now < next ∧
        next ≤ schedule.next ending.now) ∧
      ∀ delays : List Int, middle.retriesAfter schedule name late = delays.map some →
        delays.length ≤ entry.task.retries ∧
          ∃ first > 0, delays = List.iterate (2 * ·) first delays.length := by
  intro middle
  have start : Tracks name entry.task schedule 0 scheduler :=
    ⟨⟨entry, known, rfl, scheduled, fresh⟩, le_rfl, retries_nonneg _⟩
  obtain ⟨attempts, tracks⟩ : ∃ attempts, Tracks name entry.task schedule attempts middle :=
    lastState_of_kept (fun scheduler => ∃ attempts, Tracks name entry.task schedule attempts
      scheduler) ⟨0, start⟩ fun ending state held => by
        obtain ⟨attempts, tracks⟩ := held
        obtain ⟨_, more, _, later, _⟩ := conclude_tracks fits tracks ending
        exact ⟨more, later⟩
  refine ⟨fun ending matched => ?_, fun delays retried => ?_⟩
  · obtain ⟨next, _, planned, _, cause⟩ := conclude_tracks fits tracks ending
    have regular := (ahead ending.now).resolve_left matched
    refine ⟨next, planned, ?_⟩
    obtain rfl | ⟨left, _, rfl⟩ := cause
    · exact ⟨regular, le_rfl⟩
    · have positive := (delay_fits fits left).1
      omega
  · obtain ⟨short, double⟩ := retriesAfter_double fits tracks retried
    have used := tracks.used
    refine ⟨by omega, _, ?_, double⟩
    exact Int.mul_pos (firstDelay_pos _) (Int.pow_pos (by decide))

def hourly (maxRetries : Int) : Entry :=
  let entry := intervalEntry "sync" "Sync" "@every 24h" (24 * 60 * minute) false false
  { entry with task := { entry.task with maxRetries := maxRetries, retryDelay := 60 * minute } }

def failing : Ending := ⟨.failed, some "unreachable", 0⟩

theorem three_retries_double :
    let schedule : Schedule := ⟨fun after => after + 24 * 60 * minute⟩
    (soleScheduler (hourly 3)).retriesAfter schedule "sync" (List.replicate 3 failing) =
        [60 * minute, 120 * minute, 240 * minute].map some ∧ (3 : Int) ≤
          (hourly 3).task.retries := by
  intro schedule
  have delays : (soleScheduler (hourly 3)).retriesAfter schedule "sync"
      (List.replicate 3 failing) = [60 * minute, 120 * minute, 240 * minute].map some := by
    decide +kernel
  have ahead : ∀ now, schedule.next now = zeroTime ∨ now < schedule.next now := fun now =>
    .inr (Int.lt_add_of_pos_right now (by decide))
  exact ⟨delays, ((retries_bounded _ "sync" (hourly 3) schedule rfl rfl rfl ahead
    (by decide +kernel) [] _).2 _ delays).1⟩

/-- The delay of the twenty-third retry does not fit, and the task is due in the past. -/
theorem late_retry_in_the_past :
    let middle := lastState (Scheduler.conclude "sync") (soleScheduler (hourly 30))
      (List.replicate 22 failing)
    ((middle.conclude "sync" failing).nextRun "sync").any (· < failing.now) = true := by
  decide +kernel

end Cashp.Scheduling
