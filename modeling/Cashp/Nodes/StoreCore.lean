import Cashp.Kit.ProgramCore
import Cashp.Kit.TableCore
import Cashp.Nodes.ModelsCore

/-!
The tables of the node service, its statements and the table of actions in memory. A fault can hide
that the statement was carried out.
-/

namespace Cashp.Nodes

open Kit

inductive TaskUpdate
  | claim (claimedAt deadlineAt : Int)
  | succeed (finishedAt exitCode : Int) (result : String)
  | requeue (nextAttemptAt exitCode : Int) (result error : String)
  | fail (finishedAt exitCode : Int) (result error : String)
  | cancel (finishedAt : Int) (error : String)

def TaskUpdate.apply (update : TaskUpdate) (row : TaskRow) : TaskRow :=
  match update with
  | .claim claimedAt deadlineAt =>
    { row with
      state := .dispatched, attempts := row.attempts + 1, claimedAt := claimedAt
      deadlineAt := deadlineAt, version := row.version + 1 }
  | .succeed finishedAt exitCode result =>
    { row with
      state := .succeeded, finishedAt := finishedAt, exitCode := exitCode, result := result
      error := "", version := row.version + 1 }
  | .requeue nextAttemptAt exitCode result error =>
    { row with
      state := .queued, nextAttemptAt := nextAttemptAt, claimedAt := 0, deadlineAt := 0
      exitCode := exitCode, result := result, error := error, version := row.version + 1 }
  | .fail finishedAt exitCode result error =>
    { row with
      state := .failed, finishedAt := finishedAt, claimedAt := 0, deadlineAt := 0
      exitCode := exitCode, result := result, error := error, version := row.version + 1 }
  | .cancel finishedAt error =>
    { row with
      state := .cancelled, finishedAt := finishedAt, claimedAt := 0, deadlineAt := 0
      error := error, version := row.version + 1 }

def TaskUpdate.selects (update : TaskUpdate) (id : String) (version : Int) (row : TaskRow) : Bool :=
  row.id == id && row.version == version &&
    match update with
    | .claim .. => row.state == .queued
    | _ => true

def withdrawn (finishedAt : Int) (error : String) (row : TaskRow) : TaskRow :=
  { row with
    state := .cancelled, finishedAt := finishedAt, error := error, version := row.version + 1 }

theorem TaskUpdate.apply_id (update : TaskUpdate) (row : TaskRow) :
    (update.apply row).id = row.id := by
  cases update <;> rfl

abbrev Tasks := Table TaskRow [TaskRow.id]

abbrev Registry := Table Node [Node.id]

def TaskRow.older (first second : TaskRow) : Prop :=
  first.createdAt < second.createdAt ∨
    (first.createdAt = second.createdAt ∧ first.id ≤ second.id)

instance : DecidableRel TaskRow.older := fun _ _ =>
  inferInstanceAs (Decidable (_ ∨ (_ ∧ _)))

def TaskRow.sooner (first second : TaskRow) : Prop :=
  first.deadlineAt < second.deadlineAt ∨
    (first.deadlineAt = second.deadlineAt ∧ first.id ≤ second.id)

instance : DecidableRel TaskRow.sooner := fun _ _ =>
  inferInstanceAs (Decidable (_ ∨ (_ ∧ _)))

inductive Fault
  | timeout
  | canceled
  | constraint
  | driver
deriving DecidableEq

inductive Link
  | up
  | refuses (fault : Fault)
  | loses (fault : Fault)
deriving DecidableEq

structure World where
  nodes : Registry
  actions : List Registered
  tasks : Tasks
  now : Int
  link : Link

inductive Stmt : Type → Type 1
  | clock : Stmt Int
  | action (name : String) : Stmt (Option Registered)
  | register (entry : Registered) : Stmt Bool
  | node (id : String) : Stmt (Except Fault (Option Node))
  | insertTask (row : TaskRow) : Stmt (Except Fault Unit)
  | claimable (nodeID : String) (now : Int) (limit : Nat) : Stmt (Except Fault (List TaskRow))
  | overdue (now : Int) : Stmt (Except Fault (List TaskRow))
  | task (id : String) : Stmt (Except Fault (Option TaskRow))
  | taskOf (id nodeID : String) : Stmt (Except Fault (Option TaskRow))
  | update (change : TaskUpdate) (id : String) (version : Int) : Stmt (Except Fault Nat)
  | withdraw (finishedAt : Int) (error nodeID : String) : Stmt (Except Fault Nat)

namespace World

variable {Reply : Type}

def ask (world : World) (reply : Reply) : Except Fault Reply × World :=
  match world.link with
  | .up => (.ok reply, world)
  | .refuses fault => (.error fault, world)
  | .loses fault => (.error fault, world)

def write (world : World) (reply : Reply) (tasks : Tasks) : Except Fault Reply × World :=
  match world.link with
  | .up => (.ok reply, { world with tasks := tasks })
  | .refuses fault => (.error fault, world)
  | .loses fault => (.error fault, { world with tasks := tasks })

def commits (world : World) : Bool :=
  match world.link with
  | .refuses _ => false
  | _ => true

def action (world : World) (name : String) : Option Registered :=
  world.actions.find? fun action => action.spec.name == name

end World

def TaskUpdate.assign (update : TaskUpdate) (id : String) (version : Int) (tasks : Tasks) : Tasks :=
  tasks.update (update.selects id version) update.apply fun _ listed row => by
    rw [List.mem_singleton] at listed
    rw [listed]
    exact update.apply_id row

def withdrawQueued (finishedAt : Int) (error nodeID : String) (tasks : Tasks) : Tasks :=
  tasks.update (fun row => row.nodeID == nodeID && row.state == .queued)
    (withdrawn finishedAt error) fun _ listed row => by
    rw [List.mem_singleton] at listed
    rw [listed]
    rfl

def Stmt.execute {Reply : Type} : Stmt Reply → World → Reply × World
  | .clock, world => (world.now, world)
  | .action name, world => (world.action name, world)
  | .register entry, world =>
    -- the check and the store are one section under the service's lock
    match world.action entry.spec.name with
    | some existing => (sameAction existing.spec entry.spec, world)
    | none => (true, { world with actions := entry :: world.actions })
  | .node id, world => world.ask (world.nodes.find fun node => node.id == id)
  | .insertTask row, world =>
    match world.tasks.insert row with
    | some tasks => world.write () tasks
    | none => (.error .constraint, world)
  | .claimable nodeID now limit, world =>
    world.ask ((world.tasks.selectOrdered (fun row => row.nodeID == nodeID &&
      row.state == .queued && decide (row.nextAttemptAt ≤ now)) TaskRow.older).take limit)
  | .overdue now, world =>
    world.ask (world.tasks.selectOrdered (fun row => row.state == .dispatched &&
      decide (0 < row.deadlineAt) && decide (row.deadlineAt ≤ now)) TaskRow.sooner)
  | .task id, world => world.ask (world.tasks.find fun row => row.id == id)
  | .taskOf id nodeID, world =>
    world.ask (world.tasks.find fun row => row.id == id && row.nodeID == nodeID)
  | .update change id version, world =>
    world.write (world.tasks.affected (change.selects id version))
      (change.assign id version world.tasks)
  | .withdraw finishedAt error nodeID, world =>
    world.write (world.tasks.affected fun row => row.nodeID == nodeID && row.state == .queued)
      (withdrawQueued finishedAt error nodeID world.tasks)

instance : Machine Stmt World := ⟨Stmt.execute⟩

abbrev Service (Value : Type) := Program Stmt NodeError Value

end Cashp.Nodes
