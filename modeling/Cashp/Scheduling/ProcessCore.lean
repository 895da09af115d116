import Cashp.Kit.Run
import Cashp.Kit.Sole
import Cashp.Scheduling.ModelsCore

/-!
One scheduler at work: the callers of `Start`, `Stop` and `RunNow`, the ticker loop, the replay of
missed runs and the goroutines of the tasks, each a section under the lock at a time. What the world
decides is given with the step.
-/

namespace Cashp.Scheduling

open Kit

inductive Phase
  | marked
  | acquiring
  | denied (failure : Option String)
  | locked
  | ready
  | inside
  | returned (failure : Option String)
  | finished
deriving DecidableEq

structure Execution where
  name : String
  phase : Phase
  abandoned : Bool
deriving DecidableEq

def Execution.live (execution : Execution) : Bool := execution.phase ≠ .finished

inductive Job
  | runNow (name : String)
  | single
  /-- The names still to be replayed, and whether the context was just checked. -/
  | replay (cycle : Nat) (names : List String) (checked : Bool)
  | loop (cycle : Nat)
  | start
  | starting
  | launching (cycle : Nat) (missed : List String)
  | launchingLoop (cycle : Nat)
  | stop
  | cancelling (cycle : Nat)
  | waitingLoops
  | waitingTasks
  | closing (timedOut : Bool)
  | ended
deriving DecidableEq

structure Thread where
  job : Job
  current : Option Execution
deriving DecidableEq

structure Process where
  scheduler : Scheduler
  started : Bool
  stopped : Bool
  cycle : Nat
  cancelled : List Nat
  saved : Option Records
  now : Int
  threads : List Thread

inductive LockOutcome
  | granted
  | held
  | failed (failure : String)

structure Choice where
  lock : LockOutcome
  failure : Option String
  timedOut : Bool
  quit : Bool
  mkdir : Bool
  readable : Bool
  saves : Bool

namespace Thread

def idle (job : Job) : Thread := ⟨job, none⟩

def isLoop (thread : Thread) : Bool :=
  match thread.job with
  | .loop _ => true
  | _ => false

def counted (thread : Thread) : Bool :=
  (match thread.job with
  | .replay .. => true
  | _ => false) || thread.current.any fun execution => execution.phase ≠ .marked

def runs (name : String) (thread : Thread) : Prop :=
  ∃ execution, thread.current = some execution ∧ execution.name = name ∧ execution.live = true

def lingers (name : String) (thread : Thread) : Bool :=
  thread.current.any fun execution =>
    execution.name == name && execution.live && execution.abandoned

def inside (name : String) (thread : Thread) : Prop :=
  ∃ execution, thread.current = some execution ∧ execution.name = name ∧
    execution.phase = .inside

def abandon (givenUp : String → Bool) (thread : Thread) : Thread :=
  { thread with current := thread.current.map fun execution =>
      if execution.live && givenUp execution.name then { execution with abandoned := true }
      else execution }

end Thread

namespace Process

def put (process : Process) (index : Nat) (thread : Thread) : Process :=
  { process with threads := process.threads.set index thread }

def spawn (process : Process) (threads : List Thread) : Process :=
  { process with threads := process.threads ++ threads }

def persist (process : Process) (saves : Bool) : Process :=
  if process.scheduler.opts.stateDir = "" ∨ saves = false then process
  else { process with saved := some process.scheduler.records }

def clusterWide (process : Process) (name : String) : Bool :=
  (process.scheduler.entry name).any fun entry => entry.task.clusterWide

def finish (process : Process) (name : String) (status : Status) (failure : Option String)
    (saves : Bool) : Process :=
  persist { process with scheduler := process.scheduler.finish name status failure process.now }
    saves

/-- One step of `execute`, and the run if it is not over. -/
def execute (process : Process) (choice : Choice) (execution : Execution) :
    Process × Option Execution :=
  let onward (phase : Phase) : Option Execution := some { execution with phase := phase }
  let name := execution.name
  match execution.phase with
  | .marked => (process, onward .acquiring)
  | .acquiring =>
    if process.clusterWide name then
      match choice.lock with
      | .granted => (process, onward .locked)
      | .held => (process, onward (.denied none))
      | .failed failure => (process, onward (.denied (some failure)))
    else (process, onward .ready)
  | .denied failure =>
    let status := if failure.isSome then Status.failed else .skipped
    (process.finish name status failure choice.saves, none)
  | .locked =>
    ({ process with scheduler := process.scheduler.noteLock name process.now }, onward .ready)
  | .ready => (process, onward .inside)
  | .inside => (process, onward (.returned choice.failure))
  | .returned failure =>
    let status := if failure.isSome then Status.failed else .success
    (process.finish name status failure choice.saves, onward .finished)
  | .finished =>
    if process.clusterWide name then
      (persist { process with scheduler := process.scheduler.noteRelease name } choice.saves, none)
    else (process, none)

def begin (process : Process) (index : Nat) (name : String) (job : Job) : Process :=
  put { process with scheduler := process.scheduler.mark name true } index
    ⟨job, some ⟨name, .marked, false⟩⟩

def load (process : Process) (readable : Bool) : Option Records :=
  if process.scheduler.opts.stateDir = "" then none
  else if readable then some (process.saved.getD fun _ => none)
  else some fun _ => none

def startLocked (process : Process) (index : Nat) (choice : Choice) : Process :=
  let (missed, scheduler) := process.scheduler.startLocked process.now
    (process.load choice.readable)
  let process := { process with scheduler := scheduler }
  if scheduler.opts.stateDir ≠ "" ∧ choice.saves = false then process.put index (.idle .ended)
  else
    put (persist { process with
      started := true, stopped := false, cycle := process.cycle + 1 } choice.saves) index
      (.idle (.launching (process.cycle + 1) missed))

def stopLocked (process : Process) (index : Nat) (timedOut : Bool) (saves : Bool) : Process :=
  let givenUp (name : String) : Bool :=
    (process.scheduler.entry name).any (process.scheduler.givesUp timedOut)
  put (persist { process with
    scheduler := process.scheduler.stopLocked process.now timedOut
    started := false
    threads := process.threads.map (Thread.abandon givenUp) } saves) index (.idle .ended)

def work (process : Process) (index : Nat) (choice : Choice) : Job → Process
  | .runNow name =>
    if process.scheduler.idle name then process.begin index name .single
    else process.put index (.idle .ended)
  | .replay cycle names false =>
    if names = [] ∨ cycle ∈ process.cancelled then process.put index (.idle .ended)
    else process.put index (.idle (.replay cycle names true))
  | .replay _ [] true => process.put index (.idle .ended)
  | .replay cycle (name :: rest) true =>
    if process.scheduler.idle name then process.begin index name (.replay cycle rest false)
    else process.put index (.idle (.replay cycle rest false))
  | .loop cycle =>
    if choice.quit then
      if cycle ∈ process.cancelled then process.put index (.idle .ended) else process
    else
      let (due, scheduler) := process.scheduler.dispatchDue process.now
      spawn { process with scheduler := scheduler }
        (due.map fun name => ⟨.single, some ⟨name, .acquiring, false⟩⟩)
  | .start =>
    if process.started ∨ process.scheduler.missingRequired then
      process.put index (.idle .ended)
    else process.put index (.idle .starting)
  | .starting =>
    if process.scheduler.opts.stateDir ≠ "" ∧ choice.mkdir = false then
      process.put index (.idle .ended)
    else process.startLocked index choice
  | .launching cycle missed =>
    spawn (process.put index (.idle (.launchingLoop cycle)))
      (if missed = [] then [] else [.idle (.replay cycle missed false)])
  | .launchingLoop cycle =>
    spawn (process.put index (.idle .ended)) [.idle (.loop cycle)]
  | .stop =>
    if process.started = false ∨ process.stopped then process.put index (.idle .ended)
    else put { process with stopped := true } index (.idle (.cancelling process.cycle))
  | .cancelling cycle =>
    put { process with cancelled := cycle :: process.cancelled } index (.idle .waitingLoops)
  | .waitingLoops =>
    if process.threads.any Thread.isLoop then process
    else process.put index (.idle .waitingTasks)
  | .waitingTasks =>
    if choice.timedOut then process.put index (.idle (.closing true))
    else if process.threads.any Thread.counted then process
    else process.put index (.idle (.closing false))
  | .closing timedOut => process.stopLocked index timedOut choice.saves
  | .single => process
  | .ended => process

def afterRun : Job → Job
  | .single => .ended
  | job => job

def advance (process : Process) (index : Nat) (choice : Choice) : Process :=
  match process.threads[index]? with
  | none => process
  | some thread =>
    match thread.current with
    | none => process.work index choice thread.job
    | some execution =>
      let (later, rest) := process.execute choice execution
      later.put index ⟨if rest.isNone then afterRun thread.job else thread.job, rest⟩

end Process

inductive Happening
  | runNow (name : String)
  | start
  | stop
  | cancel (cycle : Nat)
  | clock (now : Int)
  | advance (thread : Nat) (choice : Choice)

def Process.take (happening : Happening) (process : Process) : Process :=
  match happening with
  | .runNow name => process.spawn [.idle (.runNow name)]
  | .start => process.spawn [.idle .start]
  | .stop => process.spawn [.idle .stop]
  | .cancel cycle => { process with cancelled := cycle :: process.cancelled }
  | .clock now => { process with now := now }
  | .advance thread choice => process.advance thread choice

def Process.created (scheduler : Scheduler) (saved : Option Records) (now : Int) : Process where
  scheduler := scheduler.adjust (fun entry => { entry with running := false, attempts := 0 })
    fun _ => rfl
  started := false
  stopped := false
  cycle := 0
  cancelled := []
  saved := saved
  now := now
  threads := []

def Process.begins (process : Process) : Happening → List String
  | .advance index choice =>
    match process.threads[index]? with
    | some ⟨.runNow name, none⟩ => if process.scheduler.idle name then [name] else []
    | some ⟨.replay _ (name :: _) true, none⟩ =>
      if process.scheduler.idle name then [name] else []
    | some ⟨.loop _, none⟩ =>
      if choice.quit then [] else (process.scheduler.dispatchDue process.now).1
    | _ => []
  | _ => []

/-- No run of a task begins while one that `Stop` has given up on goes on. -/
def Process.Settled (happening : Happening) (process : Process) : Prop :=
  ∀ name ∈ process.begins happening, ∀ thread ∈ process.threads, thread.lingers name = false

instance (happening : Happening) (process : Process) : Decidable (process.Settled happening) :=
  inferInstanceAs (Decidable (∀ _ ∈ _, ∀ _ ∈ _, _ = _))

def Process.Exclusive (process : Process) : Prop :=
  ∀ name, Sole (Thread.inside name) process.threads

end Cashp.Scheduling
