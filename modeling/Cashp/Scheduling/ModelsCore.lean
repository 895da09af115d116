import Cashp.Kit.Duration
import Mathlib.Data.List.Sort

/-!
The task scheduler (`scheduler.go`, `state.go`): the tasks it knows, what it remembers of them and
what it does under its lock.
-/

namespace Cashp.Scheduling

open Kit.Duration

structure Schedule where
  next : Int → Int

structure Task where
  name : String
  schedule : String
  catchUp : Bool
  clusterWide : Bool
  bound : Bool
  title : String
  disabled : Bool
  maxRetries : Int
  retryDelay : Int

inductive Status
  | unset
  | pending
  | success
  | failed
  | skipped
deriving DecidableEq

structure TaskState where
  taskID : String
  taskName : String
  schedule : String
  lastRun : Int
  lastStatus : Status
  lastError : String
  nextRun : Int
  runCount : Int
  failCount : Int
  enabled : Bool
  lockedBy : String
  lockedAt : Int

structure Entry where
  task : Task
  schedule : Option Schedule
  builtin : Bool
  required : Bool
  running : Bool
  attempts : Int

def Entry.name (entry : Entry) : String := entry.task.name

structure Options where
  stateDir : String
  nodeID : String
  catchUpWindow : Int
  fits : catchUpWindow ≤ longest

def defaultMaxRetries : Int := 3
def defaultRetryDelay : Int := 5 * minute

abbrev Records := String → Option TaskState

def Records.set (records : Records) (name : String) (record : Option TaskState) : Records :=
  fun other => if other = name then record else records other

def sweep (visit : Entry → Option TaskState → Option TaskState) : List Entry → Records → Records
  | [], records => records
  | entry :: rest, records =>
    sweep visit rest (records.set entry.name (visit entry (records entry.name)))

structure Scheduler where
  opts : Options
  entries : List Entry
  distinct : (entries.map Entry.name).Nodup
  records : Records

namespace Scheduler

def entry (scheduler : Scheduler) (name : String) : Option Entry :=
  scheduler.entries.find? fun entry => entry.name == name

def adjust (scheduler : Scheduler) (change : Entry → Entry)
    (keeps : ∀ entry, (change entry).name = entry.name) : Scheduler where
  opts := scheduler.opts
  entries := scheduler.entries.map change
  distinct := by
    rw [List.map_map, show Entry.name ∘ change = Entry.name from funext keeps]
    exact scheduler.distinct
  records := scheduler.records

end Scheduler

def Task.titled (task : Task) : String := if task.title = "" then task.name else task.title

def freshState (entry : Entry) : TaskState where
  taskID := entry.task.name
  taskName := entry.task.titled
  schedule := entry.task.schedule
  lastRun := zeroTime
  lastStatus := .pending
  lastError := ""
  nextRun := zeroTime
  runCount := 0
  failCount := 0
  enabled := !entry.task.disabled
  lockedBy := ""
  lockedAt := zeroTime

def stateFor (entry : Entry) (record : Option TaskState) : TaskState :=
  record.getD (freshState entry)

def TaskState.unlocked (state : TaskState) : TaskState :=
  { state with lockedBy := "", lockedAt := zeroTime }

def synced (opts : Options) (entry : Entry) (state : TaskState) : TaskState :=
  let state := { state with
    taskID := entry.task.name, taskName := entry.task.titled, schedule := entry.task.schedule
    lastStatus := if state.lastStatus = .unset then .pending else state.lastStatus }
  if state.lockedBy = opts.nodeID then state.unlocked else state

def isMissed (opts : Options) (now : Int) (entry : Entry) (state : TaskState) : Bool :=
  entry.task.catchUp && state.enabled && entry.task.bound && entry.schedule.isSome &&
    decide (state.nextRun ≠ zeroTime) && decide (state.nextRun ≤ now) &&
    decide (between state.nextRun now ≤ opts.catchUpWindow)

def syncState (opts : Options) (now : Int) (entries : List Entry) (records : Records) :
    List String × Records :=
  let records := sweep (fun entry record => some (synced opts entry (stateFor entry record)))
    entries records
  let missed := entries.filterMap fun entry => (records entry.name).bind fun state =>
    if isMissed opts now entry state then some (entry.name, state.nextRun) else none
  ((missed.insertionSort fun first second => first.2 ≤ second.2).map Prod.fst, records)

def rescheduled (now : Int) (entry : Entry) (record : Option TaskState) : Option TaskState :=
  match entry.schedule with
  | none => record
  | some schedule =>
    if entry.task.bound then
      let state := stateFor entry record
      some (if state.enabled then { state with nextRun := schedule.next now } else state)
    else record

/-- The section of `Start` up to the point where it saves the state. The loaded records replace
those in memory. -/
def Scheduler.startLocked (scheduler : Scheduler) (now : Int) (loaded : Option Records) :
    List String × Scheduler :=
  let (missed, records) :=
    syncState scheduler.opts now scheduler.entries (loaded.getD scheduler.records)
  (missed, { scheduler with records := sweep (rescheduled now) scheduler.entries records })

def Scheduler.missingRequired (scheduler : Scheduler) : Bool :=
  scheduler.entries.any fun entry => entry.required && !entry.task.bound

def TaskState.interrupted (state : TaskState) (now : Int) : TaskState :=
  { state with
    lastStatus := .failed, lastError := "interrupted by shutdown"
    failCount := state.failCount + 1, nextRun := now }

def stopped (opts : Options) (now : Int) (timedOut : Bool) (entry : Entry)
    (state : TaskState) : TaskState :=
  let state := if timedOut && entry.running then state.interrupted now else state
  if state.lockedBy = opts.nodeID then state.unlocked else state

def Scheduler.givesUp (scheduler : Scheduler) (timedOut : Bool) (entry : Entry) : Bool :=
  timedOut && entry.running && (scheduler.records entry.name).isSome

def Scheduler.stopLocked (scheduler : Scheduler) (now : Int) (timedOut : Bool) : Scheduler :=
  { scheduler.adjust (fun entry =>
      if scheduler.givesUp timedOut entry then { entry with running := false } else entry)
      (fun entry => by split <;> rfl) with
    records := sweep (fun entry record => record.map (stopped scheduler.opts now timedOut entry))
      scheduler.entries scheduler.records }

def setRunning (name : String) (running : Bool) (entry : Entry) : Entry :=
  if entry.name = name then { entry with running := running } else entry

def Scheduler.mark (scheduler : Scheduler) (name : String) (running : Bool) : Scheduler :=
  scheduler.adjust (setRunning name running) fun entry => by
    unfold setRunning
    split <;> rfl

def Scheduler.idle (scheduler : Scheduler) (name : String) : Bool :=
  match scheduler.entry name with
  | some entry => entry.task.bound && !entry.running
  | none => false

def Scheduler.isDue (scheduler : Scheduler) (now : Int) (entry : Entry) : Bool :=
  let state := stateFor entry (scheduler.records entry.name)
  !entry.running && entry.task.bound && entry.schedule.isSome && state.enabled &&
    decide (state.nextRun ≠ zeroTime) && decide (state.nextRun ≤ now)

def Scheduler.dispatchDue (scheduler : Scheduler) (now : Int) : List String × Scheduler :=
  let due := (scheduler.entries.filter (scheduler.isDue now)).map Entry.name
  (due, { scheduler.adjust (fun entry =>
      if scheduler.isDue now entry then { entry with running := true } else entry)
      (fun entry => by split <;> rfl) with
    records := sweep (fun entry record =>
      if entry.running || !entry.task.bound || entry.schedule.isNone then record
      else some (stateFor entry record)) scheduler.entries scheduler.records })

/-- `retryTimeLocked`: the time of the next retry, if there is one left, and the attempts used. -/
def retryTime (task : Task) (attempts now : Int) : Option Int × Int :=
  let limit := if task.maxRetries = 0 then defaultMaxRetries else task.maxRetries
  if limit < 0 then (none, 0)
  else if limit ≤ attempts then (none, 0)
  else
    let delay := if task.retryDelay ≤ 0 then defaultRetryDelay else task.retryDelay
    (some (now + wrap (delay * 2 ^ attempts.toNat)), attempts + 1)

def TaskState.ended (state : TaskState) (status : Status) (failure : Option String) (now : Int) :
    TaskState :=
  match status with
  | .success =>
    { state with
      lastStatus := status, lastRun := now, lastError := "", runCount := state.runCount + 1 }
  | .failed =>
    { state with
      lastStatus := status, lastRun := now, failCount := state.failCount + 1
      lastError := failure.getD state.lastError }
  | _ => { state with lastStatus := status }

def Entry.onward (entry : Entry) (status : Status) (now : Int) : Option Int × Int :=
  let attempts := if status = .success then 0 else entry.attempts
  match entry.schedule with
  | none => (none, attempts)
  | some schedule =>
    let next := schedule.next now
    if status = .failed then
      match retryTime entry.task attempts now with
      | (some retryAt, used) => (some (if retryAt < next then retryAt else next), used)
      | (none, used) => (some next, used)
    else (some next, attempts)

def Scheduler.finish (scheduler : Scheduler) (name : String) (status : Status)
    (failure : Option String) (now : Int) : Scheduler :=
  { scheduler.adjust (fun entry =>
      if entry.name = name then
        { entry with running := false, attempts := (entry.onward status now).2 }
      else entry) (fun entry => by split <;> rfl) with
    records := match scheduler.entry name with
      | none => scheduler.records
      | some entry =>
        let state := (stateFor entry (scheduler.records name)).ended status failure now
        scheduler.records.set name (some
          { state with nextRun := (entry.onward status now).1.getD state.nextRun }) }

def Scheduler.noteLock (scheduler : Scheduler) (name : String) (now : Int) : Scheduler :=
  match scheduler.entry name with
  | none => scheduler
  | some entry =>
    { scheduler with
      records := scheduler.records.set name (some
        { stateFor entry (scheduler.records name) with
          lockedBy := scheduler.opts.nodeID, lockedAt := now }) }

def Scheduler.noteRelease (scheduler : Scheduler) (name : String) : Scheduler :=
  { scheduler with
    records := scheduler.records.set name ((scheduler.records name).map TaskState.unlocked) }

def intervalEntry (name title schedule : String) (every : Int)
    (catchUp running : Bool) : Entry where
  task :=
    { name := name, schedule := schedule, catchUp := catchUp, clusterWide := false, bound := true
      title := title, disabled := false, maxRetries := defaultMaxRetries, retryDelay := 0 }
  schedule := some ⟨fun after => after + every⟩
  builtin := true
  required := false
  running := running
  attempts := 0

def soleScheduler (entry : Entry) : Scheduler where
  opts := ⟨"/var/lib/cashp", "node-1", 60 * minute, by decide⟩
  entries := [entry]
  distinct := by simp
  records := fun name => if name = entry.name then some (freshState entry) else none

def sessionCleanup (running : Bool) : Entry :=
  intervalEntry "session_cleanup" "Session Cleanup" "@every 15m" (15 * minute) true running

def torHealth (running : Bool) : Entry :=
  intervalEntry "tor_health" "Tor Health" "@every 10m" (10 * minute) false running

end Cashp.Scheduling
