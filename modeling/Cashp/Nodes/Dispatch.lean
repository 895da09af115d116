import Cashp.Kit.Evolution
import Cashp.Kit.Record
import Cashp.Nodes.DispatchCore

/-!
The delivery of tasks, whatever the calls do between each other's statements. Every write but one
asks for the version its caller read; the other only takes rows that are still waiting.
-/

namespace Cashp.Nodes

open Kit Kit.Program

variable {events : List Attempt} {tasks : Tasks} {seen row : TaskRow} {world : World}
variable {change : TaskUpdate} {id : String} {version : Int} {Reply : Type}

structure TaskRow.Sane (row : TaskRow) : Prop where
  budget : 1 ≤ row.maxAttempts
  within : row.attempts ≤ row.maxAttempts
  waiting : row.state = .queued →
    row.attempts < row.maxAttempts ∧ row.claimedAt = 0 ∧ row.deadlineAt = 0

structure TaskRow.Evolves (seen row : TaskRow) : Prop where
  follows : Table.Follows TaskRow.id TaskRow.version (fun row => row) seen row
  final : seen.state.terminal = true → row.state = seen.state

theorem TaskRow.Evolves.refl (row : TaskRow) : row.Evolves row :=
  ⟨Table.Follows.refl row, fun _ => rfl⟩

theorem TaskRow.Evolves.trans {first second third : TaskRow} (early : first.Evolves second)
    (late : second.Evolves third) : first.Evolves third := by
  refine ⟨early.follows.trans late.follows, fun ended => ?_⟩
  have kept := early.final ended
  rw [late.final (by rw [kept]; exact ended), kept]

theorem TaskRow.evolves_of_newer (same : row.id = seen.id) (newer : seen.version < row.version)
    (unended : seen.state.terminal = false) : seen.Evolves row := by
  refine ⟨⟨same, Int.le_of_lt newer, fun equal => ?_⟩, fun ended => ?_⟩
  · omega
  · rw [unended] at ended
    exact absurd ended Bool.false_ne_true

structure Booked (events : List Attempt) (tasks : Tasks) : Prop where
  sane : ∀ row ∈ tasks.rows, row.Sane
  counted : ∀ row ∈ tasks.rows,
    row.attempts = (events.countP fun attempt => attempt.taskID == row.id : Nat)
  known : ∀ attempt ∈ events,
    ∃ row ∈ tasks.rows, row.id = attempt.taskID ∧ attempt.number ≤ row.attempts
  distinct : events.Nodup

def Tasks.Evolve (before after : Tasks) : Prop := Table.Evolve TaskRow.Evolves before after

def Known (seen : TaskRow) (tasks : Tasks) : Prop := Table.Known TaskRow.Evolves seen tasks

theorem Tasks.Evolve.refl (tasks : Tasks) : Tasks.Evolve tasks tasks :=
  Table.evolve_refl TaskRow.Evolves.refl

theorem Known.later {after : Tasks} (known : Known seen tasks) (evolve : Tasks.Evolve tasks after) :
    Known seen after :=
  Table.Known.later (fun _ _ _ => TaskRow.Evolves.trans) known evolve

theorem Tasks.Evolve.trans {first second third : Tasks} (early : Tasks.Evolve first second)
    (late : Tasks.Evolve second third) : Tasks.Evolve first third :=
  Table.Evolve.trans (fun _ _ _ => TaskRow.Evolves.trans) early late

theorem Booked.update {matching : TaskRow → Bool} {assign : TaskRow → TaskRow}
    {keeps : ∀ column ∈ [TaskRow.id], ∀ row, column (assign row) = column row}
    (booked : Booked events tasks)
    (each : ∀ row ∈ tasks.rows, matching row = true →
      (assign row).Sane ∧ (assign row).attempts = row.attempts) :
    Booked events (tasks.update matching assign keeps) := by
  have assigned : ∀ row ∈ tasks.rows, (Table.assignWhere matching assign row).Sane ∧
      (Table.assignWhere matching assign row).attempts = row.attempts ∧
      (Table.assignWhere matching assign row).id = row.id := by
    intro row member
    by_cases hit : matching row = true
    · simp_all [Table.assignWhere]
    · rw [Table.assignWhere_not (by simpa using hit)]
      exact ⟨booked.sane row member, rfl, rfl⟩
  refine ⟨fun row member => ?_, fun row member => ?_, fun attempt member => ?_, booked.distinct⟩
  · obtain ⟨old, present, rfl⟩ := Table.mem_update.mp member
    exact (assigned old present).1
  · obtain ⟨old, present, rfl⟩ := Table.mem_update.mp member
    rw [(assigned old present).2.1, (assigned old present).2.2]
    exact booked.counted old present
  obtain ⟨old, present, same, bound⟩ := booked.known attempt member
  grind [Table.update]

theorem Booked.insert {grown : Tasks} (booked : Booked events tasks) (sane : row.Sane)
    (unclaimed : row.attempts = 0) (stored : tasks.insert row = some grown) :
    Booked events grown := by
  have rows := Table.insert_rows stored
  have fresh : ∀ attempt ∈ events, attempt.taskID ≠ row.id := by
    intro attempt member same
    obtain ⟨other, present, named, _⟩ := booked.known attempt member
    exact Table.insert_apart stored List.mem_cons_self present (named.trans same)
  refine ⟨fun other member => ?_, fun other member => ?_, fun attempt member => ?_,
    booked.distinct⟩
  · rw [rows] at member
    rcases List.mem_append.mp member with old | new
    · exact booked.sane other old
    · rw [List.mem_singleton.mp new]
      exact sane
  · rw [rows] at member
    rcases List.mem_append.mp member with old | new
    · exact booked.counted other old
    rw [List.mem_singleton.mp new, unclaimed, List.countP_eq_zero.mpr]
    · rfl
    · intro attempt listed
      simpa using fresh attempt listed
  · obtain ⟨other, present, named, bound⟩ := booked.known attempt member
    exact ⟨other, by rw [rows]; exact List.mem_append_left _ present, named, bound⟩

def TaskUpdate.Fits (change : TaskUpdate) (seen : TaskRow) : Prop :=
  match change with
  | .claim .. => True
  | .requeue .. => seen.state.terminal = false ∧ seen.attempts < seen.maxAttempts
  | _ => seen.state.terminal = false

def TaskUpdate.isClaim : TaskUpdate → Bool
  | .claim .. => true
  | _ => false

theorem selects_iff : change.selects id version row = true ↔ row.id = id ∧ row.version = version ∧
      (change.isClaim = true → row.state = .queued) := by
  cases change <;> simp [TaskUpdate.selects, TaskUpdate.isClaim, and_assoc]

theorem Known.selected (known : Known seen tasks) (member : row ∈ tasks.rows)
    (hit : change.selects seen.id seen.version row = true) : row = seen :=
  Table.Known.unchanged (List.mem_singleton.mpr rfl) (fun _ _ evolves => evolves.follows.1)
    (fun _ _ evolves => evolves.follows.2.2) known member (selects_iff.mp hit).1
    (selects_iff.mp hit).2.1

theorem apply_sane (sane : row.Sane) (fits : change.Fits row)
    (queued : change.isClaim = true → row.state = .queued) : (change.apply row).Sane := by
  obtain ⟨budget, within, waiting⟩ := sane
  cases change with
  | claim =>
    have room := (waiting (queued rfl)).1
    refine ⟨budget, ?_, ?_⟩
    · simp only [TaskUpdate.apply]
      omega
    · simp [TaskUpdate.apply]
  | requeue => exact ⟨budget, within, fun _ => ⟨fits.2, rfl, rfl⟩⟩
  | succeed | fail | cancel => exact ⟨budget, within, by simp [TaskUpdate.apply]⟩

theorem apply_evolves (fits : change.Fits row)
    (queued : change.isClaim = true → row.state = .queued) : row.Evolves (change.apply row) := by
  have newer : row.version < (change.apply row).version := by
    cases change <;> simp only [TaskUpdate.apply] <;> omega
  refine TaskRow.evolves_of_newer (change.apply_id row) newer ?_
  cases change with
  | claim =>
    rw [queued rfl]
    rfl
  | requeue => exact fits.1
  | succeed | fail | cancel => exact fits

theorem assign_evolve (known : Known seen tasks) (fits : change.Fits seen) :
    Tasks.Evolve tasks (change.assign seen.id seen.version tasks) := by
  refine Table.evolve_update TaskRow.Evolves.refl fun row member hit => ?_
  have same := known.selected member hit
  subst same
  exact apply_evolves fits (selects_iff.mp hit).2.2

theorem assign_booked (booked : Booked events tasks) (known : Known seen tasks)
    (fits : change.Fits seen) (other : change.isClaim = false) :
    Booked events (change.assign seen.id seen.version tasks) := by
  refine booked.update fun row member hit => ?_
  have same := known.selected member hit
  subst same
  refine ⟨apply_sane (booked.sane row member) fits (selects_iff.mp hit).2.2, ?_⟩
  cases change with
  | claim => simp [TaskUpdate.isClaim] at other
  | succeed | requeue | fail | cancel => rfl

theorem fits_of_claim (claims : change.isClaim = true) : change.Fits row := by
  cases change with
  | claim => trivial
  | succeed | requeue | fail | cancel => exact absurd claims Bool.false_ne_true

theorem claim_booked (booked : Booked events tasks) (claims : change.isClaim = true)
    (found : tasks.find (change.selects id version) = some row) :
    Booked (events ++ [⟨row.id, row.attempts + 1⟩]) (change.assign id version tasks) := by
  obtain ⟨member, hit⟩ := Table.find_mem found
  have facts := selects_iff.mp hit
  have only : ∀ other ∈ tasks.rows, other.id = row.id → other = row := fun other present same =>
    Table.eq_of_column (List.mem_singleton.mpr rfl) present member same
  have moved : Table.assignWhere (change.selects id version) change.apply row =
      change.apply row := Table.assignWhere_of hit
  have more : (change.apply row).attempts = row.attempts + 1 := by
    cases change with
    | claim => rfl
    | succeed | requeue | fail | cancel => exact absurd claims Bool.false_ne_true
  have kept : ∀ other ∈ tasks.rows, other.id ≠ row.id →
      Table.assignWhere (change.selects id version) change.apply other = other := by
    intro other present different
    refine Table.assignWhere_not (Bool.eq_false_iff.mpr fun also => different ?_)
    exact (selects_iff.mp also).1.trans facts.1.symm
  refine ⟨fun other there => ?_, fun other there => ?_, fun attempt listed => ?_, ?_⟩
  · obtain ⟨old, present, rfl⟩ := Table.mem_update.mp there
    by_cases same : old.id = row.id
    · rw [only old present same, moved]
      exact apply_sane (booked.sane row member) (fits_of_claim claims) facts.2.2
    · rw [kept old present same]
      exact booked.sane old present
  · obtain ⟨old, present, rfl⟩ := Table.mem_update.mp there
    by_cases same : old.id = row.id
    · rw [only old present same, moved, more, booked.counted row member, change.apply_id]
      simp [List.countP_append]
    have different : (row.id == old.id) = false := by simpa using Ne.symm same
    rw [kept old present same, booked.counted old present]
    simp [List.countP_append, different]
  · rcases List.mem_append.mp listed with earlier | new
    · obtain ⟨old, present, named, bound⟩ := booked.known attempt earlier
      refine ⟨_, Table.mem_update.mpr ⟨old, present, rfl⟩, ?_⟩
      by_cases same : old.id = row.id
      · obtain rfl := only old present same
        rw [moved, change.apply_id, more]
        exact ⟨named, by omega⟩
      · rw [kept old present same]
        exact ⟨named, bound⟩
    · rw [List.mem_singleton.mp new]
      refine ⟨_, Table.mem_update.mpr ⟨row, member, rfl⟩, ?_⟩
      rw [moved, change.apply_id, more]
      exact ⟨rfl, Int.le_refl _⟩
  · refine List.nodup_append.mpr ⟨booked.distinct, by simp,
      fun attempt earlier other new same => ?_⟩
    rw [List.mem_singleton.mp new] at same
    obtain ⟨old, present, named, bound⟩ := booked.known attempt earlier
    rw [same] at named bound
    rw [only old present named] at bound
    simp only at bound
    omega

def delivery : Regime Stmt World Attempt where
  entry := claimCommitted
  valid events world := Booked events world.tasks
  rely before after := Tasks.Evolve before.tasks after.tasks
  refl world := Tasks.Evolve.refl world.tasks
  trans _ _ _ early late := early.trans late
  allowed _ _ _ := True

theorem write_tasks (reply : Reply) (world : World) (after : Tasks) :
    (world.write reply after).2.tasks = if world.commits then after else world.tasks := by
  unfold World.write World.commits
  split <;> simp_all

theorem ask_world (reply : Reply) (world : World) : (world.ask reply).2 = world := by
  unfold World.ask
  split <;> rfl

theorem silent_of {stmt : Stmt Reply} (quiet : ∀ world, claimCommitted stmt world = none)
    (each : ∀ events world, Booked events world.tasks →
      Booked events (execute stmt world).2.tasks ∧
        Tasks.Evolve world.tasks (execute stmt world).2.tasks) : delivery.Silent stmt := by
  intro events world booked _
  obtain ⟨kept, evolve⟩ := each events world booked
  refine ⟨⟨?_, evolve⟩, quiet world⟩
  change Booked (events ++ (claimCommitted stmt world).toList) _
  rw [quiet world, Option.toList_none, List.append_nil]
  exact kept

theorem silent_of_tasks {stmt : Stmt Reply}
    (same : ∀ world, (execute stmt world).2.tasks = world.tasks)
    (quiet : ∀ world, claimCommitted stmt world = none) : delivery.Silent stmt := by
  refine silent_of quiet fun events world booked => ?_
  rw [same world]
  exact ⟨booked, Tasks.Evolve.refl world.tasks⟩

theorem silent_clock : delivery.Silent .clock := silent_of_tasks (fun _ => rfl) fun _ => rfl

theorem silent_ask {stmt : Stmt (Except Fault Reply)} {reply : World → Reply}
    (looks : ∀ world, execute stmt world = world.ask (reply world))
    (quiet : ∀ world, claimCommitted stmt world = none) : delivery.Silent stmt :=
  silent_of_tasks (fun world => by rw [looks, ask_world]) quiet

theorem silent_insertTask (sane : row.Sane) (unclaimed : row.attempts = 0) :
    delivery.Silent (.insertTask row) := by
  refine silent_of (fun _ => rfl) fun events world booked => ?_
  simp only [execute, Stmt.execute]
  split
  · rename_i grown stored
    rw [write_tasks]
    split
    · exact ⟨booked.insert sane unclaimed stored,
        Table.evolve_insert TaskRow.Evolves.refl stored⟩
    · exact ⟨booked, Tasks.Evolve.refl world.tasks⟩
  · exact ⟨booked, Tasks.Evolve.refl world.tasks⟩

theorem silent_withdraw (finishedAt : Int) (error nodeID : String) :
    delivery.Silent (.withdraw finishedAt error nodeID) := by
  refine silent_of (fun _ => rfl) fun events world booked => ?_
  simp only [execute, Stmt.execute]
  rw [write_tasks]
  split
  · refine ⟨booked.update fun row member hit => ?_,
      Table.evolve_update TaskRow.Evolves.refl fun row member hit => ?_⟩
    · obtain ⟨budget, within, _⟩ := booked.sane row member
      exact ⟨⟨budget, within, by simp [withdrawn]⟩, rfl⟩
    have waiting : row.nodeID = nodeID ∧ row.state = .queued := by simpa using hit
    refine TaskRow.evolves_of_newer rfl ?_ (by rw [waiting.2]; rfl)
    simp only [withdrawn]
    omega
  · exact ⟨booked, Tasks.Evolve.refl world.tasks⟩

section

variable {Reply Value Result : Type} {own : List Attempt}
variable {operation : String} {stmt : Stmt (Except Fault Reply)} {change : TaskUpdate} {now : Int}
variable {after : Except NodeError Result → List Attempt → World → Prop}
variable {next : Reply → Service Result} {program : Service Value}

def Whatever (_ : Except NodeError Value) (_ : List Attempt) (_ : World) : Prop := True

theorem abides_whatever (uses : program.Uses delivery.Silent) :
    program.Abides delivery Whatever own world :=
  (abides_of_uses uses).imp fun _ _ _ _ => trivial

theorem query_then (silent : delivery.Silent stmt)
    (each : ∀ later reply, (execute stmt later).1 = .ok reply →
      (next reply).Abides delivery after own (execute stmt later).2)
    (stop : ∀ failure later, after (.error failure) own later) :
    (query operation stmt >>= next).Abides delivery after own world := by
  unfold query
  rw [bind_bind]
  refine silent_then silent fun later _ _ _ => ?_
  cases answer : (execute stmt later).1 with
  | ok reply => exact each later reply answer
  | error => exact stop _ _

theorem ask_eq_ok {reply answer : Reply} (asked : (world.ask reply).1 = .ok answer) :
    answer = reply := by
  grind [World.ask]

theorem read_then {reply : World → Reply}
    (looks : ∀ world, execute stmt world = world.ask (reply world))
    (quiet : ∀ world, claimCommitted stmt world = none)
    (each : ∀ later, (next (reply later)).Abides delivery after own later)
    (stop : ∀ failure later, after (.error failure) own later) :
    (query operation stmt >>= next).Abides delivery after own world := by
  refine query_then (silent_ask looks quiet) (fun later answer asked => ?_) stop
  rw [looks] at asked ⊢
  rw [ask_world, ask_eq_ok asked]
  exact each later

theorem update_tasks (change : TaskUpdate) (id : String) (version : Int) (world : World) :
    (execute (Stmt.update change id version) world).2.tasks =
      if world.commits then change.assign id version world.tasks else world.tasks :=
  write_tasks _ _ _

theorem update_evolve (known : Known seen world.tasks) (fits : change.Fits seen) :
    Tasks.Evolve world.tasks
      (execute (Stmt.update change seen.id seen.version) world).2.tasks := by
  rw [update_tasks]
  split
  · exact assign_evolve known fits
  · exact Tasks.Evolve.refl world.tasks

theorem updateVersioned_other (known : Known seen world.tasks) (fits : change.Fits seen)
    (other : change.isClaim = false) :
    (updateVersioned change seen.id seen.version).Abides delivery Whatever own world := by
  refine under_then fun later events evolve booked _ => ?_
  have quiet : claimCommitted (.update change seen.id seen.version) later = none := by
    cases change with
    | claim => simp [TaskUpdate.isClaim] at other
    | succeed | requeue | fail | cancel => rfl
  have still := known.later evolve
  refine ⟨⟨?_, update_evolve still fits⟩, ?_⟩
  · change Booked (events ++ (claimCommitted _ later).toList) _
    rw [quiet, Option.toList_none, List.append_nil, update_tasks]
    split
    · exact assign_booked booked still fits other
    · exact booked
  · dsimp only
    split <;> trivial

theorem claim_outcome (claims : change.isClaim = true) (id : String) (version : Int)
    (world : World) : let stmt := Stmt.update change id version
    (∃ row, world.tasks.find (change.selects id version) = some row ∧ world.commits = true ∧
        claimCommitted stmt world = some ⟨row.id, row.attempts + 1⟩ ∧
        ∀ affected, (execute stmt world).1 = .ok affected → affected ≠ 0) ∨
      (world.tasks.find (change.selects id version) = none ∨ world.commits = false) ∧
        claimCommitted stmt world = none ∧
        ∀ affected, (execute stmt world).1 = .ok affected → affected = 0 := by
  intro stmt
  have committed : claimCommitted stmt world = if world.commits then
      (world.tasks.find (change.selects id version)).map fun row => ⟨row.id, row.attempts + 1⟩
      else none := by
    cases change with
    | claim => rfl
    | succeed | requeue | fail | cancel => exact absurd claims Bool.false_ne_true
  have replied : ∀ affected, (execute stmt world).1 = .ok affected → world.commits = true ∧
      affected = world.tasks.affected (change.selects id version) := by
    intro affected answer
    simp only [stmt, execute, Stmt.execute, World.write] at answer
    split at answer
    · rename_i up
      exact ⟨by simp [World.commits, up], (Except.ok.inj answer).symm⟩
    · simp at answer
    · simp at answer
  cases found : world.tasks.find (change.selects id version) with
  | none =>
    refine .inr ⟨.inl rfl, by simp [committed, found], fun affected answer => ?_⟩
    rw [(replied affected answer).2, Table.affected_eq_zero.mpr (Table.find_none found)]
  | some row =>
    obtain ⟨member, hit⟩ := Table.find_mem found
    cases carried : world.commits with
    | true =>
      refine .inl ⟨row, rfl, rfl, by simp [committed, found, carried],
        fun affected answer missed => ?_⟩
      rw [(replied affected answer).2] at missed
      rw [Table.affected_eq_zero.mp missed row member] at hit
      exact absurd hit Bool.false_ne_true
    | false =>
      simp_all

theorem updateVersioned_claim (claims : change.isClaim = true) (known : Known seen world.tasks) :
    (updateVersioned change seen.id seen.version).Abides delivery
      (fun answer written _ =>
        match answer with
        | .ok (.ok ()) => written = own ++ [⟨seen.id, seen.attempts + 1⟩]
        | .ok (.error .conflict) => written = own
        | _ => True) own world := by
  refine under_then fun later events evolve booked _ => ?_
  have still := known.later evolve
  have rely := update_evolve still (fits_of_claim claims)
  rcases claim_outcome claims seen.id seen.version later with
    ⟨row, found, carried, noted, hits⟩ | ⟨missed, noted, hits⟩
  · have same := still.selected (Table.find_mem found).1 (Table.find_mem found).2
    have noted : delivery.entry (Stmt.update change seen.id seen.version) later =
        some ⟨row.id, row.attempts + 1⟩ := noted
    rw [noted, ← same]
    refine ⟨⟨?_, by rw [same]; exact rely⟩, ?_⟩
    · rw [same, noted]
      change Booked (events ++ [_]) (execute _ later).2.tasks
      rw [update_tasks, if_pos carried]
      exact claim_booked booked claims found
    · rw [same]
      dsimp only
      split
      · trivial
      rename_i affected answer
      rw [if_neg (hits affected answer)]
      rfl
  · have noted : delivery.entry (Stmt.update change seen.id seen.version) later = none := noted
    rw [noted, Option.toList_none, List.append_nil]
    refine ⟨⟨?_, rely⟩, ?_⟩
    · rw [noted, Option.toList_none, List.append_nil]
      change Booked events (execute _ later).2.tasks
      rw [update_tasks]
      rcases missed with missing | refused
      · split
        · refine booked.update fun row member hit => ?_
          rw [Table.find_none missing row member] at hit
          exact absurd hit Bool.false_ne_true
        · exact booked
      · rw [refused, if_neg Bool.false_ne_true]
        exact booked
    · dsimp only
      split
      · trivial
      rename_i affected answer
      rw [if_pos (hits affected answer)]
      rfl

theorem wrapVersioned_abides {stored : Except UpdateError Unit} :
    (wrapVersioned operation stored).Abides delivery Whatever own world := by
  rcases stored with (_ | fault) | _ <;> trivial

theorem updated_abides {answer : Value} (known : Known seen world.tasks) (fits : change.Fits seen)
    (other : change.isClaim = false) :
    (do
      let stored ← updateVersioned change seen.id seen.version
      wrapVersioned operation stored
      pure answer : Service Value).Abides delivery Whatever own world :=
  (updateVersioned_other known fits other).andThen
    (fun _ _ _ _ _ => wrapVersioned_abides.andThen (fun _ _ _ _ _ => trivial)
      fun _ _ _ _ => trivial)
    fun _ _ _ _ => trivial

theorem failAttempt_abides {exitCode : Int} {result failure : String}
    (known : Known seen world.tasks) (unended : seen.state.terminal = false) :
    (failAttempt (scanTaskRow seen) exitCode result failure now).Abides delivery Whatever own
      world := by
  unfold failAttempt
  split
  · rename_i room
    exact updated_abides known ⟨unended, room⟩ rfl
  · exact updated_abides known unended rfl

theorem known_of_mem (member : row ∈ tasks.rows) : Known row tasks :=
  Table.known_of_mem TaskRow.Evolves.refl member

theorem lookup_then {stmt : Stmt (Except Fault (Option TaskRow))} {matching : TaskRow → Bool}
    {next : Task → Service Result}
    (looks : ∀ world, execute stmt world = world.ask (world.tasks.find matching))
    (quiet : ∀ world, claimCommitted stmt world = none)
    (each : ∀ later row, Known row later.tasks →
      (next (scanTaskRow row)).Abides delivery Whatever own later) :
    ((do
      match ← query "load node task" stmt with
      | some row => pure (scanTaskRow row)
      | none => .fail .taskNotFound : Service Task) >>= next).Abides delivery Whatever own
        world := by
  rw [bind_bind]
  refine read_then looks quiet (fun later => ?_) fun _ _ => trivial
  cases found : later.tasks.find matching with
  | none => trivial
  | some row => exact each later row (known_of_mem (Table.find_mem found).1)

theorem report_abides (node : Node) (res : TaskResult) :
    (report node res).Abides delivery Whatever own world := by
  refine lookup_then (fun _ => rfl) (fun _ => rfl) fun later row known => ?_
  refine under_refuse (fun _ => trivial) fun claimed => ?_
  have dispatched : row.state = .dispatched := not_not.mp claimed
  have unended : row.state.terminal = false := by rw [dispatched]; rfl
  refine silent_then silent_clock fun last _ evolve _ => ?_
  have still := known.later evolve
  split
  · exact updated_abides still unended rfl
  · exact failAttempt_abides still unended

theorem cancelTask_abides (taskID reason : String) :
    (cancelTask taskID reason).Abides delivery Whatever own world := by
  refine lookup_then (fun _ => rfl) (fun _ => rfl) fun later row known => ?_
  refine under_refuse (fun _ => trivial) fun going => ?_
  have unended : row.state.terminal = false := by simpa [Task.terminal, scanTaskRow] using going
  refine silent_then silent_clock fun last _ evolve _ => ?_
  exact updated_abides (known.later evolve) unended rfl

theorem reapEach_abides {stale : List TaskRow} :
    (∀ row ∈ stale, Known row world.tasks ∧ row.state = .dispatched) →
    (reapEach now (stale.map scanTaskRow)).Abides delivery Whatever own world := by
  induction stale generalizing own world with
  | nil => exact fun _ => trivial
  | cons row rest ih =>
    intro listed
    obtain ⟨known, dispatched⟩ := listed row List.mem_cons_self
    have unended : row.state.terminal = false := by rw [dispatched]; rfl
    refine under_bind (under_attempt ((failAttempt_abides known unended).relied.imp
      fun answer written later held => ?_))
    have onward : (reapEach now (rest.map scanTaskRow)).Abides delivery Whatever written
        later := ih fun other member =>
      ⟨(listed other (List.mem_cons_of_mem _ member)).1.later held.2,
        (listed other (List.mem_cons_of_mem _ member)).2⟩
    cases answer with
    | ok => exact onward.andThen (fun _ _ _ _ _ => trivial) fun _ _ _ _ => trivial
    | error failure =>
      -- only a lost race goes on to the next task
      cases failure with
      | concurrentUpdate => exact onward
      | _ => trivial

theorem reapTasks_abides : reapTasks.Abides delivery Whatever own world := by
  refine silent_then silent_clock fun later _ _ _ => ?_
  refine read_then (fun _ => rfl) (fun _ => rfl) (fun last => ?_) fun _ _ => trivial
  refine reapEach_abides fun row member => ?_
  obtain ⟨present, wanted⟩ := Table.mem_selectOrdered.mp member
  simp only [Bool.and_eq_true, beq_iff_eq] at wanted
  exact ⟨known_of_mem present, wanted.1.1⟩

def Task.attempt (task : Task) : Attempt := ⟨task.id, task.attempts⟩

def Handed (own : List Attempt) (answer : Except NodeError (List Task)) (written : List Attempt)
    (_ : World) : Prop :=
  ∀ claimed, answer = .ok claimed → written = own ++ claimed.map Task.attempt

theorem claimEach_abides {candidates : List TaskRow} : (∀ row ∈ candidates, Known row world.tasks) →
    (claimEach now (candidates.map scanTaskRow)).Abides delivery (Handed own) own world := by
  induction candidates generalizing own world with
  | nil =>
    intro _ claimed same
    simp only [Except.ok.injEq] at same
    simp [← same]
  | cons row rest ih =>
    intro listed
    refine under_bind ((updateVersioned_claim rfl (listed row List.mem_cons_self)).relied.imp
      fun answer written later held => ?_)
    have onward : ∀ written, (claimEach now (rest.map scanTaskRow)).Abides delivery
        (Handed written) written later := fun written => ih fun other member =>
      (listed other (List.mem_cons_of_mem _ member)).later held.2
    rcases answer with failure | (_ | fault) | _
    · exact fun _ same => by simp at same
    · have same : written = own := held.1
      subst same
      exact onward written
    · exact fun _ same => by simp at same
    have noted : written = own ++ [⟨row.id, row.attempts + 1⟩] := held.1
    refine (onward written).andThen (fun claimed last _ _ handed => ?_)
      fun _ _ _ _ _ same => by simp at same
    intro all same
    simp only [Except.ok.injEq] at same
    rw [handed claimed rfl, noted, ← same]
    simp [Task.attempt, scanTaskRow]

theorem claim_abides (node : Node) (limit : Int) :
    (claim node limit).Abides delivery (Handed own) own world := by
  refine under_refuse (nofun) fun _ => ?_
  refine silent_then silent_clock fun later _ _ _ => ?_
  refine read_then (fun _ => rfl) (fun _ => rfl) (fun last => ?_)
    fun _ _ _ same => by simp at same
  refine claimEach_abides fun row member => ?_
  exact known_of_mem (Table.mem_selectOrdered.mp (List.mem_of_mem_take member)).1

theorem get_uses (nodeID : String) : (get nodeID).Uses delivery.Silent := by
  refine uses_bind (uses_ofExcept _) fun _ => ?_
  refine uses_bind (uses_then (silent_ask (fun _ => rfl) fun _ => rfl) fun answer => ?_)
    fun node => ?_
  · split <;> trivial
  · split <;> trivial

theorem action_uses (name : String) : (action name).Uses delivery.Silent := by
  refine uses_then (silent_of_tasks (fun _ => rfl) fun _ => rfl) fun found => ?_
  split <;> trivial

theorem registerAction_uses (spec : ActionSpec) : (registerAction spec).Uses delivery.Silent := by
  refine uses_bind (uses_ofExcept _) fun _ => ?_
  refine uses_refused fun _ => ?_
  refine uses_refused fun _ => ?_
  refine uses_then (silent_of_tasks (fun world => ?_) fun _ => rfl)
    fun _ => uses_refuse _ _
  simp only [execute, Stmt.execute]
  split <;> rfl

theorem dispatch_uses (json : Json) (req : DispatchRequest) (drawn : Option String) :
    (dispatch json req drawn).Uses delivery.Silent := by
  refine uses_bind (get_uses _) fun node => ?_
  refine uses_bind (action_uses _) fun registered => ?_
  refine uses_refused fun _ => ?_
  refine uses_refused fun _ => ?_
  refine uses_bind (uses_ofExcept _) fun payload => ?_
  cases drawn with
  | none => trivial
  | some =>
    refine uses_then silent_clock fun now => ?_
    refine uses_bind (uses_then (silent_insertTask ?_ rfl) fun answer => ?_)
      fun _ => trivial
    · -- the budget is that of the request or of the action, and neither is empty
      have budget := registered.budget
      have most : maxTaskAttempts = 10 := rfl
      refine ⟨?_, ?_, fun _ => ⟨?_, rfl, rfl⟩⟩ <;> simp only <;> split <;> (try split) <;> omega
    · split <;> trivial

theorem cancelQueued_uses (nodeID reason : String) :
    (cancelQueued nodeID reason).Uses delivery.Silent := by
  refine uses_then silent_clock fun now => ?_
  refine uses_then (silent_withdraw _ _ _) fun answer => ?_
  split <;> trivial

def Fitting (answer : Except NodeError Answer) (own : List Attempt) : Prop :=
  ∀ tasks, answer = .ok (.claimed tasks) → own = tasks.map Task.attempt

theorem answered_abides {wrap : Value → Answer}
    (abides : program.Abides delivery Whatever own world)
    (other : ∀ value tasks, wrap value ≠ .claimed tasks) :
    (do
      let value ← program
      pure (wrap value) : Service Answer).Abides delivery
        (fun answer written _ => Fitting answer written) own world := by
  refine abides.andThen (fun value _ _ _ _ tasks same => ?_) fun _ _ _ _ _ same => by simp at same
  exact absurd (Except.ok.inj same) (other value tasks)

theorem serve_abides (json : Json) (request : Request) :
    (request.serve json).Abides delivery (fun answer written _ => Fitting answer written) []
      world := by
  cases request with
  | registerAction spec =>
    exact answered_abides (abides_whatever (registerAction_uses spec)) fun _ _ same => nomatch same
  | dispatch req drawn =>
    exact answered_abides (abides_whatever (dispatch_uses json req drawn))
      fun _ _ same => nomatch same
  | claim node limit =>
    refine (claim_abides node limit).andThen (fun claimed written _ _ handed tasks same => ?_)
      fun _ _ _ _ _ same => by simp at same
    rw [handed claimed rfl, Answer.claimed.inj (Except.ok.inj same), List.nil_append]
  | report node res => exact answered_abides (report_abides node res) fun _ _ same => nomatch same
  | reapTasks => exact answered_abides reapTasks_abides fun _ _ same => nomatch same
  | cancelTask taskID reason =>
    exact answered_abides (cancelTask_abides taskID reason) fun _ _ same => nomatch same
  | cancelQueued nodeID reason =>
    exact answered_abides (abides_whatever (cancelQueued_uses nodeID reason))
      fun _ _ same => nomatch same

end

variable {fleet : Fleet}

theorem Fleet.take_sound (json : Json) (happening : Happening)
    (sound : fleet.Sound delivery Fitting) :
    (fleet.take json happening).Sound delivery Fitting ∧
      Tasks.Evolve fleet.pool.state.tasks (fleet.take json happening).pool.state.tasks := by
  have steady : ∀ change : World → World, (∀ world, (change world).tasks = world.tasks) →
      (fleet.play claimCommitted (.disturb change)).Sound delivery Fitting ∧
        Tasks.Evolve fleet.pool.state.tasks
          (fleet.play claimCommitted (.disturb change)).pool.state.tasks := by
    intro change same
    have evolve : Tasks.Evolve fleet.pool.state.tasks (change fleet.pool.state).tasks := by
      rw [same]
      exact Tasks.Evolve.refl _
    refine ⟨sound.disturb ?_ evolve, evolve⟩
    change Booked fleet.events (change fleet.pool.state).tasks
    rw [same]
    exact sound.valid
  cases happening with
  | call request => exact ⟨sound.spawn (serve_abides json request), Tasks.Evolve.refl _⟩
  | advance => exact sound.advance (Chronicle.issues_of_free (fun _ _ _ => trivial) _)
  | clock | nodes | actions | link => exact steady _ fun _ => rfl

def Fleet.commits (fleet : Fleet) (taskID : String) : Nat :=
  fleet.events.countP fun attempt => attempt.taskID == taskID

def Fleet.Hands (fleet : Fleet) (thread : Nat) (task : Task) : Prop :=
  ∃ tasks, fleet.pool.threads[thread]? = some (.done (.claimed tasks)) ∧ task ∈ tasks

structure Fleet.Delivers (fleet : Fleet) : Prop where
  attempts : ∀ row ∈ fleet.pool.state.tasks.rows, row.attempts = fleet.commits row.id
  budget : ∀ row ∈ fleet.pool.state.tasks.rows,
    1 ≤ row.maxAttempts ∧ row.attempts ≤ row.maxAttempts
  once : ∀ first second task other, fleet.Hands first task → fleet.Hands second other →
    task.id = other.id → task.attempts = other.attempts → first = second
  waiting : ∀ row ∈ fleet.pool.state.tasks.rows, row.state = .queued →
    row.attempts < row.maxAttempts ∧ row.claimedAt = 0 ∧ row.deadlineAt = 0

def Fleet.KeepsTerminal (before after : Fleet) : Prop :=
  ∀ row ∈ before.pool.state.tasks.rows, row.state.terminal = true →
    ∃ later ∈ after.pool.state.tasks.rows, later.id = row.id ∧ later.state = row.state

theorem Fleet.hands_attempt (sound : fleet.Sound delivery Fitting) {thread : Nat} {task : Task}
    (hands : fleet.Hands thread task) : task.attempt ∈ fleet.eventsOf thread := by
  obtain ⟨tasks, returned, member⟩ := hands
  have written : fleet.eventsOf thread = tasks.map Task.attempt :=
    sound.threads thread _ returned tasks rfl
  rw [written]
  exact List.mem_map_of_mem member

theorem Fleet.delivers_of_sound (sound : fleet.Sound delivery Fitting) : fleet.Delivers := by
  have booked : Booked fleet.events fleet.pool.state.tasks := sound.valid
  refine ⟨booked.counted, fun row member => ?_, ?_, fun row member =>
    (booked.sane row member).waiting⟩
  · exact ⟨(booked.sane row member).budget, (booked.sane row member).within⟩
  intro first second task other here there sameTask sameAttempt
  have same : task.attempt = other.attempt := by simp [Task.attempt, sameTask, sameAttempt]
  have also := hands_attempt sound there
  rw [← same] at also
  exact Chronicle.thread_unique booked.distinct (hands_attempt sound here) also

theorem Fleet.opened_sound (now : Int) :
    (Chronicle.opened (World.installed now) : Fleet).Sound delivery Fitting := by
  refine Chronicle.sound_opened ⟨?_, ?_, ?_, List.nodup_nil⟩
  · exact fun row member => by simp [World.installed, Table.empty] at member
  · exact fun row member => by simp [World.installed, Table.empty] at member
  · exact fun attempt member => by simp at member

/-- Tasks are delivered within their budget, no attempt is handed out twice and what has ended stays
so. -/
theorem tasks_delivered (json : Json) (now : Int) (happenings : List Happening) :
    Fleet.Delivers (lastState (Fleet.take json) (.opened (World.installed now)) happenings) ∧
      Every (Fleet.take json) (fun happening fleet => fleet.KeepsTerminal
        (Fleet.take json happening fleet)) (.opened (World.installed now)) happenings := by
  constructor
  · exact Fleet.delivers_of_sound (lastState_of_kept
      (fun fleet : Fleet => fleet.Sound delivery Fitting)
      (Fleet.opened_sound now) fun happening _ sound => (Fleet.take_sound json happening sound).1)
  refine every_of_kept (fun fleet : Fleet => fleet.Sound delivery Fitting) (Fleet.opened_sound now)
    fun happening fleet sound => ?_
  obtain ⟨kept, evolve⟩ := Fleet.take_sound json happening sound
  refine ⟨fun row member ended => ?_, kept⟩
  obtain ⟨later, present, evolves⟩ := evolve row member
  exact ⟨later, present, evolves.follows.1, evolves.final ended⟩

end Cashp.Nodes
