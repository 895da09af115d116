import Cashp.Nodes.Dispatch

/-!
A report names its task and not the attempt it is about, so it speaks for whatever attempt is under
way when it is read.
-/

namespace Cashp.Nodes

open Kit Kit.Program

def TaskRow.attempt (row : TaskRow) : Attempt := ⟨row.id, row.attempts⟩

inductive Notice
  | found (attempts : List Attempt)
  | recorded (attempt : Attempt)
deriving DecidableEq

def Notice.finds : Notice → List Attempt
  | .found attempts => attempts
  | .recorded _ => []

def TaskUpdate.records : TaskUpdate → Bool
  | .succeed .. | .requeue .. | .fail .. => true
  | .claim .. | .cancel .. => false

def noticed {Reply : Type} : Stmt Reply → World → Option Notice
  | .taskOf id nodeID, world =>
    match world.link, world.tasks.find fun row => row.id == id && row.nodeID == nodeID with
    | .up, some row => if row.state = .dispatched then some (.found [row.attempt]) else none
    | _, _ => none
  | .overdue now, world =>
    match world.link with
    | .up => some (.found ((world.tasks.selectOrdered (fun row => row.state == .dispatched &&
        decide (0 < row.deadlineAt) && decide (row.deadlineAt ≤ now)) TaskRow.sooner).map
          TaskRow.attempt))
    | _ => none
  | .update change id version, world =>
    if change.records ∧ world.commits then
      (world.tasks.find (change.selects id version)).map fun row => .recorded row.attempt
    else none
  | _, _ => none

structure Ledger where
  fleet : Chronicle Stmt NodeError Answer World Notice
  reports : List (Nat × Attempt)

inductive Occurrence
  | happening (happening : Happening)
  | report (node : Node) (res : TaskResult) (execution : Attempt)

namespace Ledger

def opened (now : Int) : Ledger := ⟨.opened (World.installed now), []⟩

def take (json : Json) (occurrence : Occurrence) (ledger : Ledger) : Ledger :=
  match occurrence with
  | .happening happening =>
    { ledger with fleet := ledger.fleet.play noticed (happening.move json) }
  | .report node res execution =>
    ⟨ledger.fleet.play noticed ((Happening.call (.report node res)).move json),
      ledger.reports ++ [(ledger.fleet.pool.threads.length, execution)]⟩

/-- A report that looks its task up finds the attempt it is about. -/
def InTime (occurrence : Occurrence) (ledger : Ledger) : Prop :=
  match occurrence with
  | .happening (.advance thread) =>
    ∀ report ∈ ledger.reports, report.1 = thread →
      ∀ notice ∈ (ledger.fleet.next noticed thread).toList, ∀ attempt ∈ notice.finds,
        attempt = report.2
  | _ => True

instance (occurrence : Occurrence) (ledger : Ledger) : Decidable (InTime occurrence ledger) := by
  unfold InTime
  split
  · infer_instance
  · infer_instance

def Attributed (ledger : Ledger) : Prop :=
  ∀ report ∈ ledger.reports, ∀ attempt,
    .recorded attempt ∈ ledger.fleet.eventsOf report.1 → attempt = report.2

end Ledger

def Matched (told : List Notice) : Prop :=
  ∀ front back attempt, told = front ++ .recorded attempt :: back →
    ∃ attempts, .found attempts ∈ front ∧ attempt ∈ attempts

variable {told : List Notice} {tasks : Tasks} {seen row : TaskRow} {world : World}
variable {more : Option Notice}

theorem matched_nil : Matched [] := by
  intro front back attempt split
  simp at split

theorem Matched.append (matched : Matched told)
    (covered : ∀ attempt, more = some (.recorded attempt) →
      ∃ attempts, .found attempts ∈ told ∧ attempt ∈ attempts) : Matched (told ++ more.toList) := by
  cases more with
  | none => rwa [Option.toList_none, List.append_nil]
  | some =>
    intro front back attempt split
    rw [Option.toList_some] at split
    rcases List.eq_nil_or_concat back with none | ⟨rest, last, tail⟩
    · simp_all
    have shape : front ++ .recorded attempt :: back =
        (front ++ .recorded attempt :: rest).concat last := by
      rw [tail]
      simp
    rw [shape, ← List.concat_eq_append] at split
    exact matched front rest attempt (List.concat_inj.mp split).1

theorem Matched.of_append {more : List Notice} (matched : Matched (told ++ more)) :
    Matched told := by
  intro front back attempt split
  exact matched front (back ++ more) attempt (by rw [split]; simp)

section

variable {Value Result : Type}
variable {nodeID operation : String} {now : Int} {change : TaskUpdate} {attempt : Attempt}
variable {Reply : Type} {program : Service Value}

abbrev Service.Attributes (program : Service Value) (told : List Notice) (world : World) : Prop :=
  program.Tells noticed delivery.rely (fun _ told _ => Matched told) told world

theorem Matched.found (matched : Matched told)
    (other : ∀ attempt, more ≠ some (.recorded attempt)) : Matched (told ++ more.toList) :=
  matched.append fun attempt same => absurd same (other attempt)

def Quiet {Reply : Type} (stmt : Stmt Reply) : Prop :=
  ∀ world attempt, noticed stmt world ≠ some (.recorded attempt)

theorem attributes_of_uses (matched : Matched told) (uses : program.Uses Quiet) :
    program.Attributes told world :=
  tells_of_uses (uses.mono fun _ other _ world matched => matched.found (other world)) matched

theorem ask_up {reply answer : Reply} (asked : (world.ask reply).1 = .ok answer) :
    world.link = .up := by
  rw [World.ask] at asked
  split at asked
  · assumption
  · cases asked
  · cases asked

theorem noticed_clock :
    noticed .clock world ≠ some (.recorded attempt) := nofun

theorem noticed_taskOf {id : String} :
    noticed (.taskOf id nodeID) world ≠ some (.recorded attempt) := by
  rw [noticed]
  split
  · split
    · simp
    · simp
  · simp

theorem noticed_overdue : noticed (.overdue now) world ≠ some (.recorded attempt) := by
  rw [noticed]
  split
  · simp
  · simp

theorem attributes_taskFor {taskID : String} {next : Task → Service Result} (matched : Matched told)
    (each : ∀ later row, row ∈ later.tasks.rows → ∀ told, Matched told →
      (row.state = .dispatched → .found [row.attempt] ∈ told) →
        (next (scanTaskRow row)).Attributes told later) :
    (taskFor nodeID taskID >>= next).Attributes told world := by
  intro later _
  have still : (execute (Stmt.taskOf taskID nodeID) later).2 = later := ask_world _ later
  have matched' : Matched (told ++ (noticed (.taskOf taskID nodeID) later).toList) :=
    matched.found fun _ => noticed_taskOf
  rw [still]
  cases answer : (execute (Stmt.taskOf taskID nodeID) later).1 with
  | error => exact matched'
  | ok reply =>
    have asked := ask_eq_ok answer
    cases reply with
    | none => exact matched'
    | some row =>
      refine each later row (Table.find_mem asked.symm).1 _ matched' fun dispatched => ?_
      have found : noticed (.taskOf taskID nodeID) later = some (.found [row.attempt]) := by
        rw [noticed, ask_up answer, ← asked]
        exact if_pos dispatched
      simp_all

structure Onward (told : List Notice) (world : World) (told' : List Notice) (after : World) :
    Prop where
  matched : Matched told'
  kept : told ⊆ told'
  evolve : Tasks.Evolve world.tasks after.tasks

theorem onward_updated {change : TaskUpdate} {operation : String} {answer : Value}
    (matched : Matched told) (known : Known seen world.tasks) (fits : change.Fits seen)
    (found : ∃ attempts, .found attempts ∈ told ∧ seen.attempt ∈ attempts) :
    (do
      let stored ← updateVersioned change seen.id seen.version
      wrapVersioned operation stored
      pure answer : Service Value).Tells noticed delivery.rely
        (fun _ told' after => Onward told world told' after) told world := by
  intro later evolve
  have still := known.later evolve
  have onward : Onward told world (told ++
      (noticed (.update change seen.id seen.version) later).toList)
      (execute (Stmt.update change seen.id seen.version) later).2 := by
    refine ⟨matched.append fun attempt noted => ?_, List.subset_append_left _ _, ?_⟩
    · rw [noticed] at noted
      split at noted
      · rw [Option.map_eq_some_iff] at noted
        obtain ⟨row, stored, same⟩ := noted
        obtain ⟨member, hit⟩ := Table.find_mem stored
        cases same
        rwa [still.selected member hit]
      · cases noted
    · have after : (execute (Stmt.update change seen.id seen.version) later).2.tasks =
          if later.commits then change.assign seen.id seen.version later.tasks
          else later.tasks := write_tasks _ _ _
      rw [after]
      split
      · exact Tasks.Evolve.trans evolve (assign_evolve still fits)
      · exact evolve
  cases (execute (Stmt.update change seen.id seen.version) later).1 with
  | error => exact onward
  | ok affected =>
    cases affected with
    | zero | succ => exact onward

theorem failAttempt_onward {exitCode : Int} {result failure : String} (matched : Matched told)
    (known : Known seen world.tasks) (dispatched : seen.state = .dispatched)
    (found : ∃ attempts, .found attempts ∈ told ∧ seen.attempt ∈ attempts) :
    (failAttempt (scanTaskRow seen) exitCode result failure now).Tells noticed delivery.rely
      (fun _ told' after => Onward told world told' after) told world := by
  have unended : seen.state.terminal = false := by
    rw [dispatched]
    rfl
  rw [failAttempt]
  split
  · rename_i room
    exact onward_updated matched known ⟨unended, room⟩ found
  · exact onward_updated matched known unended found

theorem report_attributes (node : Node) (res : TaskResult) (matched : Matched told) :
    (report node res).Attributes told world := by
  refine attributes_taskFor matched fun later row member told matched found => ?_
  by_cases dispatched : row.state = .dispatched
  · have unended : row.state.terminal = false := by
      rw [dispatched]
      rfl
    have claimed : ¬ (scanTaskRow row).state ≠ .dispatched := not_not.mpr dispatched
    rw [refuse, if_neg claimed]
    intro last evolve
    have known : Known row (execute Stmt.clock last).2.tasks := (known_of_mem member).later evolve
    have noted : ∃ attempts, .found attempts ∈ told ++ (noticed .clock last).toList ∧
        row.attempt ∈ attempts :=
      ⟨_, List.mem_append_left _ (found dispatched), List.mem_cons_self⟩
    have matched' : Matched (told ++ (noticed .clock last).toList) :=
      matched.found fun _ => noticed_clock
    dsimp only
    split
    · refine (onward_updated matched' known ?_ noted).imp fun _ _ _ onward => onward.matched
      exact unended
    · exact (failAttempt_onward matched' known dispatched noted).imp fun _ _ _ onward =>
        onward.matched
  · have foreign : (scanTaskRow row).state ≠ .dispatched := dispatched
    rw [refuse, if_pos foreign]
    exact matched

theorem reapEach_attributes {stale : List TaskRow} (matched : Matched told)
    (listed : ∀ row ∈ stale, Known row world.tasks ∧ row.state = .dispatched ∧
      ∃ attempts, .found attempts ∈ told ∧ row.attempt ∈ attempts) :
    (reapEach now (stale.map scanTaskRow)).Attributes told world := by
  induction stale generalizing told world with
  | nil => exact matched
  | cons row rest ih =>
    obtain ⟨known, dispatched, found⟩ := listed row List.mem_cons_self
    refine under_bind (under_attempt ((failAttempt_onward matched known dispatched found).imp
      fun answer told' after onward => ?_))
    have others : (reapEach now (rest.map scanTaskRow)).Attributes told' after := by
      refine ih onward.matched fun other member => ?_
      obtain ⟨known, dispatched, attempts, noted, inside⟩ :=
        listed other (List.mem_cons_of_mem _ member)
      exact ⟨known.later onward.evolve, dispatched, attempts, onward.kept noted, inside⟩
    cases answer with
    | ok => exact under_bind (others.imp fun answer _ _ matched => by
      cases answer with
      | ok => exact matched
      | error => exact matched)
    | error failure =>
      -- only a lost race goes on to the next task
      cases failure with
      | concurrentUpdate => exact others
      | _ => exact onward.matched

theorem reapTasks_attributes (matched : Matched told) : reapTasks.Attributes told world := by
  intro later _ last _
  have still : (execute (Stmt.overdue (unixOf (execute Stmt.clock later).1)) last).2 = last :=
    ask_world _ last
  have matched' : Matched (told ++ (noticed .clock later).toList ++
      (noticed (.overdue (unixOf (execute Stmt.clock later).1)) last).toList) := by
    exact (matched.found fun _ => noticed_clock).found fun _ => noticed_overdue
  rw [still]
  cases answer : (execute (Stmt.overdue (unixOf (execute Stmt.clock later).1)) last).1 with
  | error => exact matched'
  | ok stale =>
    have asked := ask_eq_ok answer
    refine reapEach_attributes matched' fun row member => ?_
    have there := member
    rw [asked, Table.mem_selectOrdered, Bool.and_eq_true, Bool.and_eq_true, beq_iff_eq] at there
    refine ⟨known_of_mem there.1, there.2.1.1, stale.map TaskRow.attempt,
      List.mem_append_right _ ?_, List.mem_map_of_mem member⟩
    change _ ∈ (noticed (.overdue _) last).toList
    rw [noticed, ask_up answer, asked]
    exact List.mem_cons_self

theorem quiet_of_none {stmt : Stmt Reply}
    (none : ∀ world, noticed stmt world = none) : Quiet stmt := by
  intro world attempt noted
  rw [none world] at noted
  cases noted

theorem quiet_update (other : change.records = false) (id : String) (version : Int) :
    Quiet (.update change id version) := by
  refine quiet_of_none fun world => ?_
  rw [noticed, if_neg]
  intro both
  rw [other] at both
  exact absurd both.1 Bool.false_ne_true

theorem query_quiet {stmt : Stmt (Except Fault Reply)} (quiet : Quiet stmt) :
    (query operation stmt).Uses Quiet := by
  refine uses_then quiet fun answer => ?_
  cases answer with
  | ok | error => trivial

theorem updated_quiet (other : change.records = false) (id : String) (version : Int) :
    (updateVersioned change id version).Uses Quiet := by
  refine uses_then (quiet_update other id version) fun answer => ?_
  cases answer with
  | ok | error => trivial

theorem clock_quiet : clock.Uses Quiet := uses_perform (quiet_of_none fun _ => rfl)

theorem get_quiet (nodeID : String) : (get nodeID).Uses Quiet := by
  refine uses_bind (uses_ofExcept _) fun _ => ?_
  refine uses_bind (query_quiet (quiet_of_none fun _ => rfl)) fun found => ?_
  cases found with
  | none | some => trivial

theorem registerAction_quiet (spec : ActionSpec) : (registerAction spec).Uses Quiet := by
  refine uses_bind (uses_ofExcept _) fun _ => ?_
  refine uses_refused fun _ => ?_
  refine uses_refused fun _ => ?_
  exact uses_then (quiet_of_none fun _ => rfl) fun _ => uses_refuse _ _

theorem dispatch_quiet (json : Json) (req : DispatchRequest) (drawn : Option String) :
    (dispatch json req drawn).Uses Quiet := by
  refine uses_bind (get_quiet _) fun node => ?_
  refine uses_bind (uses_then (quiet_of_none fun _ => rfl) fun found => ?_)
    fun registered => ?_
  · cases found with
    | none | some => trivial
  refine uses_refused fun _ => ?_
  refine uses_refused fun _ => ?_
  refine uses_bind (uses_ofExcept _) fun payload => ?_
  cases drawn with
  | none => trivial
  | some =>
    refine uses_bind clock_quiet fun now => ?_
    exact uses_bind (query_quiet (quiet_of_none fun _ => rfl)) fun _ => trivial

theorem claimEach_quiet (now : Int) (tasks : List Task) : (claimEach now tasks).Uses Quiet := by
  induction tasks with
  | nil => trivial
  | cons task rest ih =>
    refine uses_bind (updated_quiet rfl _ _) fun stored => ?_
    grind

theorem claim_quiet (node : Node) (limit : Int) : (claim node limit).Uses Quiet := by
  refine uses_refused fun _ => ?_
  refine uses_bind clock_quiet fun now => ?_
  refine uses_bind (query_quiet (quiet_of_none fun _ => rfl)) fun candidates => ?_
  exact claimEach_quiet now _

theorem cancelTask_quiet (taskID reason : String) : (cancelTask taskID reason).Uses Quiet := by
  refine uses_bind (uses_bind (query_quiet (quiet_of_none fun _ => rfl)) fun found => ?_)
    fun task => ?_
  · cases found with
    | none | some => trivial
  refine uses_refused fun _ => ?_
  refine uses_bind clock_quiet fun now => ?_
  refine uses_bind (updated_quiet rfl _ _) fun stored => ?_
  rcases stored with (_ | fault) | _ <;> trivial

theorem cancelQueued_quiet (nodeID reason : String) : (cancelQueued nodeID reason).Uses Quiet := by
  refine uses_bind clock_quiet fun now => ?_
  exact query_quiet (quiet_of_none fun _ => rfl)

theorem answered_attributes {wrap : Value → Answer} (attributes : program.Attributes told world) :
    (do
      let value ← program
      pure (wrap value) : Service Answer).Attributes told world := by
  refine under_bind (attributes.imp fun answer told state matched => ?_)
  cases answer with
  | ok | error => exact matched

theorem serve_attributes (json : Json) (request : Request) :
    (request.serve json).Attributes [] world := by
  cases request with
  | registerAction spec =>
    exact answered_attributes (attributes_of_uses matched_nil (registerAction_quiet spec))
  | dispatch req drawn =>
    exact answered_attributes (attributes_of_uses matched_nil (dispatch_quiet json req drawn))
  | claim node limit =>
    exact answered_attributes (attributes_of_uses matched_nil (claim_quiet node limit))
  | report node res => exact answered_attributes (report_attributes node res matched_nil)
  | reapTasks => exact answered_attributes (reapTasks_attributes matched_nil)
  | cancelTask taskID reason =>
    exact answered_attributes (attributes_of_uses matched_nil (cancelTask_quiet taskID reason))
  | cancelQueued nodeID reason =>
    exact answered_attributes (attributes_of_uses matched_nil (cancelQueued_quiet nodeID reason))

end

namespace Ledger

variable {ledger : Ledger}

structure Sound (ledger : Ledger) : Prop where
  fleet : ledger.fleet.Sound (delivery.retold noticed) fun _ told => Matched told
  served : ∀ report ∈ ledger.reports, report.1 < ledger.fleet.pool.threads.length
  found : ∀ report ∈ ledger.reports, ∀ attempts,
    .found attempts ∈ ledger.fleet.eventsOf report.1 → ∀ attempt ∈ attempts, attempt = report.2

theorem Sound.opened (now : Int) : Sound (opened now) := by
  refine ⟨Chronicle.sound_opened ⟨[], (Fleet.opened_sound now).valid⟩, fun report member => ?_,
    fun report member => ?_⟩
  · exact absurd member List.not_mem_nil
  · exact absurd member List.not_mem_nil

theorem Sound.attributed (sound : Sound ledger) : Attributed ledger := by
  intro report member attempt recorded
  have served := sound.served report member
  have abides := sound.fleet.threads report.1 _ (List.getElem?_eq_getElem served)
  obtain ⟨_, more, _, matched⟩ := abides.reaches sound.fleet.valid fun _ _ _ _ _ => trivial
  obtain ⟨front, back, split⟩ := List.append_of_mem recorded
  obtain ⟨attempts, noted, inside⟩ := Matched.of_append matched front back attempt split
  refine sound.found report member attempts ?_ attempt inside
  rw [split]
  exact List.mem_append_left _ noted

theorem Sound.play (sound : Sound ledger) (json : Json) (happening : Happening) :
    (ledger.fleet.play noticed (happening.move json)).Sound (delivery.retold noticed)
      fun _ told => Matched told := by
  have steady : ∀ change : World → World, (∀ world, (change world).tasks = world.tasks) →
      (ledger.fleet.play noticed (.disturb change)).Sound (delivery.retold noticed)
        fun _ told => Matched told := by
    intro change same
    obtain ⟨booked, valid⟩ := sound.fleet.valid
    refine sound.fleet.disturb ⟨booked, ?_⟩ ?_
    · change Booked booked (change ledger.fleet.pool.state).tasks
      rwa [same]
    change Tasks.Evolve ledger.fleet.pool.state.tasks (change ledger.fleet.pool.state).tasks
    rw [same]
    exact Tasks.Evolve.refl _
  cases happening with
  | call request =>
    exact sound.fleet.spawn ((serve_abides json request).retold (serve_attributes json request))
  | advance =>
    exact (sound.fleet.advance (Chronicle.issues_of_free (fun _ _ _ _ _ => trivial) _)).1
  | clock | nodes | actions | link => exact steady _ fun _ => rfl

theorem Sound.take (json : Json) (occurrence : Occurrence) (ledger : Ledger)
    (sound : Sound ledger) (inTime : InTime occurrence ledger) :
    Sound (ledger.take json occurrence) := by
  cases occurrence with
  | report node res execution =>
    refine ⟨sound.play json (.call (.report node res)), fun report member => ?_,
      fun report member => ?_⟩
    · have grown : (ledger.take json (.report node res execution)).fleet.pool.threads.length =
          ledger.fleet.pool.threads.length + 1 := List.length_append
      rw [grown]
      rcases List.mem_append.mp member with before | new
      · have served := sound.served report before
        omega
      · rw [List.mem_singleton.mp new]
        exact Nat.lt_succ_self _
    · rcases List.mem_append.mp member with before | new
      · exact sound.found report before
      -- The new thread has not found anything yet.
      intro attempts noted
      rw [List.mem_singleton.mp new] at noted
      have nothing := Chronicle.eventsOf_new sound.fleet.listed
      rw [show (ledger.take json (.report node res execution)).fleet.eventsOf
        ledger.fleet.pool.threads.length = [] from nothing] at noted
      exact absurd noted List.not_mem_nil
  | happening happening =>
    have grown : ledger.fleet.pool.threads.length ≤
        (ledger.fleet.play noticed (happening.move json)).pool.threads.length :=
      Chronicle.threads_le_play _
    refine ⟨sound.play json happening, fun report member =>
      (sound.served report member).trans_le grown, fun report member attempts noted => ?_⟩
    cases happening with
    | advance thread =>
      rw [Ledger.take] at noted
      rw [show (ledger.fleet.play noticed (Happening.move json (.advance thread))).eventsOf
        report.1 = _ from Chronicle.eventsOf_advance thread report.1] at noted
      rcases List.mem_append.mp noted with before | new
      · exact sound.found report member attempts before
      split at new
      · rename_i own
        exact inTime report member own _ new
      · exact absurd new List.not_mem_nil
    | call | clock | nodes | actions | link => exact sound.found report member attempts noted

end Ledger

/-- If every report finds its task at the attempt it is about, then no outcome is recorded for an
attempt it does not belong to. -/
theorem outcomes_attributed (json : Json) (now : Int) (occurrences : List Occurrence)
    (inTime : Every (Ledger.take json) Ledger.InTime (Ledger.opened now) occurrences) :
    Ledger.Attributed (lastState (Ledger.take json) (Ledger.opened now) occurrences) :=
  (lastState_of_invariant Ledger.Sound (Ledger.Sound.opened now) inTime
    (Ledger.Sound.take json)).attributed

theorem report_in_time_attributed :
    let json : Json := ⟨fun _ => .failed, fun _ => none⟩
    let node : Node := ⟨"edge-1", .managed, .online, false, false⟩
    let run := fun thread count => List.replicate count (Occurrence.happening (.advance thread))
    let occurrences := [.happening (.nodes ⟨[node], by simp⟩), .happening (.call (.dispatch
        { nodeID := "edge-1", action := "agent.collect_facts", payload := "", timeout := 0
          maxAttempts := 0, actor := "ops" } (some "task-1")))] ++ run 0 4 ++
      [.happening (.call (.claim node 1))] ++ run 1 3 ++
      [.report node ⟨"task-1", true, 0, "", ""⟩ ⟨"task-1", 1⟩] ++ run 2 3
    let ledger := lastState (Ledger.take json) (Ledger.opened (1000 * Duration.second)) occurrences
    Every (Ledger.take json) Ledger.InTime (Ledger.opened (1000 * Duration.second)) occurrences ∧
      ledger.fleet.eventsOf 2 = [.found [⟨"task-1", 1⟩], .recorded ⟨"task-1", 1⟩] ∧
        ledger.Attributed := by
  intro json node run occurrences ledger
  have inTime : Every (Ledger.take json) Ledger.InTime (Ledger.opened (1000 * Duration.second))
      occurrences := by decide +kernel
  exact ⟨inTime, by decide +kernel, outcomes_attributed json _ occurrences inTime⟩

/-- The first attempt times out and the second is claimed before the report of the first arrives:
the report ends the second. -/
theorem late_report_misattributed :
    let json : Json := ⟨fun _ => .failed, fun _ => none⟩
    let node : Node := ⟨"edge-1", .managed, .online, false, false⟩
    let run := fun thread count => List.replicate count (Occurrence.happening (.advance thread))
    let occurrences := [.happening (.nodes ⟨[node], by simp⟩), .happening (.call (.dispatch
        { nodeID := "edge-1", action := "agent.collect_facts", payload := "", timeout := 0
          maxAttempts := 0, actor := "ops" } (some "task-1")))] ++ run 0 4 ++
      [.happening (.call (.claim node 1))] ++ run 1 3 ++
      [.happening (.clock (1200 * Duration.second)), .happening (.call .reapTasks)] ++ run 2 3 ++
      [.happening (.clock (1300 * Duration.second)), .happening (.call (.claim node 1))] ++
      run 3 3 ++
      [.report node ⟨"task-1", true, 0, "", ""⟩ ⟨"task-1", 1⟩] ++ run 4 3
    let ledger := lastState (Ledger.take json) (Ledger.opened (1000 * Duration.second)) occurrences
    ledger.fleet.pool.state.tasks.rows.map (fun row => (row.attempt, row.state)) =
      [(⟨"task-1", 2⟩, .succeeded)] ∧ ¬ ledger.Attributed := by
  intro json node run occurrences ledger
  have reported : ledger.reports = [(4, ⟨"task-1", 1⟩)] := by decide +kernel
  have recorded : .recorded ⟨"task-1", 2⟩ ∈ ledger.fleet.eventsOf 4 := by decide +kernel
  refine ⟨by decide +kernel, fun attributed => ?_⟩
  have same := attributed (4, ⟨"task-1", 1⟩) (by rw [reported]; exact List.mem_cons_self) _ recorded
  exact absurd same (by decide)

end Cashp.Nodes
