import Cashp.Scheduling.ProcessCore

/-!
Nodes that share a directory of lock files (`lock.go`) and run cluster-wide tasks under them
(`execute`). Every operation on a file and every look at the clock is a step of its own.
-/

namespace Cashp.Scheduling

open Kit Kit.Duration

def defaultLockTTL : Int := 5 * minute

structure LockRecord where
  task : String
  nodeID : String
  lockedAt : Int
deriving DecidableEq

def LockRecord.zero : LockRecord := ⟨"", "", zeroTime⟩

def isSafe (char : Char) : Bool :=
  (decide ('a' ≤ char) && decide (char ≤ 'z')) || (decide ('A' ≤ char) && decide (char ≤ 'Z')) ||
    (decide ('0' ≤ char) && decide (char ≤ '9')) || char == '_' || char == '-'

def lockPath (task : String) : String :=
  String.ofList (task.toList.map fun char => if isSafe char then char else '_') ++ ".lock"

structure LockFile where
  inode : Nat
  content : Option LockRecord

def LockFile.read (file : LockFile) : LockRecord := file.content.getD .zero

/-- Where a run is in `execute`. `stamp` is the time its `Acquire` took for `locked_at`. -/
inductive LockPhase
  | begun
  | stamped (stamp : Int)
  | blocked (stamp : Int)
  | judging (stamp : Int) (existing : LockRecord) (seen : Nat)
  | writing (stamp : Int) (seen : Nat) (created : Option Nat)
  | acquired (stamp : Int)
  | ready (stamp : Int)
  | inside (stamp : Int)
  | returned (stamp : Int)
  | finished (stamp : Int)
  | removing (stamp : Int)
  | denied (failure : Option String)
  | gone
deriving DecidableEq

structure Runner where
  node : String
  task : String
  phase : LockPhase
deriving DecidableEq

def Runner.path (runner : Runner) : String := lockPath runner.task

structure Cluster where
  ttl : Int
  files : String → Option LockFile
  inodes : Nat
  edits : String → Nat
  now : Int
  running : String → String → Bool
  runners : List Runner

namespace Cluster

def lockTTL (cluster : Cluster) : Int := if cluster.ttl ≤ 0 then defaultLockTTL else cluster.ttl

def put (cluster : Cluster) (index : Nat) (runner : Runner) : Cluster :=
  { cluster with runners := cluster.runners.set index runner }

def edit (cluster : Cluster) (path : String) (file : Option LockFile) : Cluster :=
  { cluster with
    files := fun other => if other = path then file else cluster.files other
    edits := fun other => if other = path then cluster.edits other + 1 else cluster.edits other }

def mark (cluster : Cluster) (node task : String) (running : Bool) : Cluster :=
  { cluster with running := fun one other =>
      if one = node ∧ other = task then running else cluster.running one other }

def write (cluster : Cluster) (path : String) (created : Option Nat) (record : LockRecord) :
    Cluster :=
  match created, cluster.files path with
  | some inode, some file =>
    if file.inode = inode then cluster.edit path (some ⟨inode, some record⟩) else cluster
  | some _, none => cluster
  | none, some file => cluster.edit path (some ⟨file.inode, some record⟩)
  | none, none =>
    { cluster.edit path (some ⟨cluster.inodes, some record⟩) with inodes := cluster.inodes + 1 }

def step (cluster : Cluster) (runner : Runner) (fault : Option String) : Cluster × LockPhase :=
  let path := runner.path
  match runner.phase, fault with
  | .begun, none => (cluster, .stamped cluster.now)
  | .begun, some failure => (cluster, .denied (some failure))
  | .stamped stamp, none =>
    match cluster.files path with
    | some _ => (cluster, .blocked stamp)
    | none =>
      ({ cluster.edit path (some ⟨cluster.inodes, none⟩) with inodes := cluster.inodes + 1 },
        .writing stamp (cluster.edits path + 1) (some cluster.inodes))
  | .stamped _, some failure => (cluster, .denied (some failure))
  | .blocked stamp, none =>
    match cluster.files path with
    | some file => (cluster, .judging stamp file.read (cluster.edits path))
    | none => (cluster, .denied (some "file does not exist"))
  | .blocked _, some failure => (cluster, .denied (some failure))
  | .judging stamp existing seen, _ =>
    if existing.nodeID ≠ runner.node ∧ between existing.lockedAt cluster.now < cluster.lockTTL then
      (cluster, .denied none)
    else (cluster, .writing stamp seen none)
  | .writing stamp _ created, none =>
    (cluster.write path created ⟨runner.task, runner.node, stamp⟩, .acquired stamp)
  | .writing _ _ _, some failure => (cluster, .denied (some failure))
  | .acquired stamp, _ => (cluster, .ready stamp)
  | .ready stamp, _ => (cluster, .inside stamp)
  | .inside stamp, _ => (cluster, .returned stamp)
  | .returned stamp, _ => (cluster.mark runner.node runner.task false, .finished stamp)
  | .finished stamp, none =>
    match cluster.files path with
    | some file =>
      (cluster, if file.read.nodeID = runner.node then .removing stamp else .gone)
    | none => (cluster, .gone)
  | .finished _, some _ => (cluster, .gone)
  | .removing _, none =>
    match cluster.files path with
    | some _ => (cluster.edit path none, .gone)
    | none => (cluster, .gone)
  | .removing _, some _ => (cluster, .gone)
  | .denied _, _ => (cluster.mark runner.node runner.task false, .gone)
  | .gone, _ => (cluster, .gone)

end Cluster

inductive LockEvent
  | begin (node task : String)
  | advance (runner : Nat) (fault : Option String)
  | clock (now : Int)
  | crash (node : String)

def Cluster.take (event : LockEvent) (cluster : Cluster) : Cluster :=
  match event with
  | .begin node task =>
    if cluster.running node task then cluster
    else { cluster.mark node task true with
      runners := cluster.runners ++ [⟨node, task, .begun⟩] }
  | .advance index fault =>
    match cluster.runners[index]? with
    | some runner =>
      (cluster.step runner fault).1.put index
        { runner with phase := (cluster.step runner fault).2 }
    | none => cluster
  | .clock now => { cluster with now := now }
  | .crash node =>
    { cluster with
      running := fun one task => if one = node then false else cluster.running one task
      runners := cluster.runners.map fun runner =>
        if runner.node = node then { runner with phase := .gone } else runner }

def Cluster.opened (ttl : Int) (files : String → Option LockFile) (inodes : Nat) (now : Int) :
    Cluster :=
  ⟨ttl, files, inodes, fun _ => 0, now, fun _ _ => false, []⟩

def LockPhase.stamp : LockPhase → Option Int
  | .stamped stamp | .blocked stamp | .judging stamp _ _ | .writing stamp _ _ | .acquired stamp
  | .ready stamp | .inside stamp | .returned stamp | .finished stamp | .removing stamp =>
    some stamp
  | .begun | .denied _ | .gone => none

def Cluster.Brisk (event : LockEvent) (cluster : Cluster) : Prop :=
  match event with
  | .clock now => ∀ runner ∈ cluster.runners, ∀ stamp ∈ runner.phase.stamp,
      now - stamp < cluster.lockTTL
  | _ => True

/-- A lock file is written only while it is as the writer created or read it, and a node begins
nothing under it before its earlier runs have returned. -/
def Cluster.Orderly (event : LockEvent) (cluster : Cluster) : Prop :=
  match event with
  | .begin node task => ∀ runner ∈ cluster.runners, runner.node = node →
      runner.path = lockPath task → runner.phase = .gone
  | .advance index fault =>
    match cluster.runners[index]? with
    | some runner =>
      match runner.phase with
      | .writing _ seen _ => fault = none → cluster.edits runner.path = seen
      | _ => True
    | none => True
  | _ => True

instance (event : LockEvent) (cluster : Cluster) : Decidable (cluster.Brisk event) := by
  unfold Cluster.Brisk
  split <;> infer_instance

instance (event : LockEvent) (cluster : Cluster) : Decidable (cluster.Orderly event) := by
  unfold Cluster.Orderly
  split
  · infer_instance
  · split
    · split <;> infer_instance
    · infer_instance
  · infer_instance

def Runner.inside (task : String) (runner : Runner) : Prop :=
  runner.task = task ∧ ∃ stamp, runner.phase = .inside stamp

def Cluster.Exclusive (cluster : Cluster) : Prop :=
  ∀ task, Sole (Runner.inside task) cluster.runners

variable {cluster : Cluster} {index : Nat} {old : Runner} {phase : LockPhase}
variable {running : String → String → Bool} {runner : Runner}

def LockPhase.heldAt : LockPhase → Option Int
  | .acquired stamp | .ready stamp | .inside stamp | .returned stamp | .finished stamp
  | .removing stamp => some stamp
  | _ => none

def Runner.holds (path : String) (runner : Runner) : Prop :=
  runner.path = path ∧ runner.phase.heldAt.isSome = true

def Runner.lasts (node path : String) (runner : Runner) : Prop :=
  runner.node = node ∧ runner.path = path ∧ runner.phase ≠ .gone

structure Entitled (cluster : Cluster) (path : String) (seen : Nat) (created : Option Nat) :
    Prop where
  past : seen ≤ cluster.edits path
  free : cluster.edits path = seen → ∀ other ∈ cluster.runners, ¬ other.holds path
  linked : cluster.edits path = seen → ∀ inode ∈ created,
    ∃ content, cluster.files path = some ⟨inode, content⟩

structure Shown (cluster : Cluster) (path : String) (existing : LockRecord) (seen : Nat) :
    Prop where
  past : seen ≤ cluster.edits path
  current : cluster.edits path = seen →
    ∃ file, cluster.files path = some file ∧ file.read = existing

structure Guarded (cluster : Cluster) : Prop where
  sole : ∀ path, Sole (Runner.holds path) cluster.runners
  kept : ∀ runner ∈ cluster.runners, ∀ stamp ∈ runner.phase.heldAt,
    ∃ inode, cluster.files runner.path = some ⟨inode, some ⟨runner.task, runner.node, stamp⟩⟩
  entitled : ∀ runner ∈ cluster.runners, ∀ stamp seen created,
    runner.phase = .writing stamp seen created → Entitled cluster runner.path seen created
  shown : ∀ runner ∈ cluster.runners, ∀ stamp existing seen,
    runner.phase = .judging stamp existing seen → Shown cluster runner.path existing seen
  brisk : ∀ runner ∈ cluster.runners, ∀ stamp ∈ runner.phase.stamp,
    cluster.now - stamp < cluster.lockTTL
  apart : ∀ node path, Sole (Runner.lasts node path) cluster.runners

theorem mem_put {runners : List Runner} {new : Runner} (member : runner ∈ runners.set index new) :
    runner = new ∨ ∃ place, place ≠ index ∧ runners[place]? = some runner := by
  obtain ⟨place, there⟩ := List.getElem?_of_mem member
  exact (place_of_set there).imp And.right fun kept => ⟨place, kept⟩

structure Fine (cluster : Cluster) (runner : Runner) : Prop where
  kept : ∀ stamp ∈ runner.phase.heldAt,
    ∃ inode, cluster.files runner.path = some ⟨inode, some ⟨runner.task, runner.node, stamp⟩⟩
  entitled : ∀ stamp seen created, runner.phase = .writing stamp seen created →
    Entitled cluster runner.path seen created
  shown : ∀ stamp existing seen, runner.phase = .judging stamp existing seen →
    Shown cluster runner.path existing seen
  brisk : ∀ stamp ∈ runner.phase.stamp, cluster.now - stamp < cluster.lockTTL

theorem Guarded.fine (guarded : Guarded cluster)
    (member : runner ∈ cluster.runners) : Fine cluster runner :=
  ⟨guarded.kept runner member, guarded.entitled runner member, guarded.shown runner member,
    guarded.brisk runner member⟩

theorem guarded_of_fine (sole : ∀ path, Sole (Runner.holds path) cluster.runners)
    (fine : ∀ runner ∈ cluster.runners, Fine cluster runner)
    (apart : ∀ node path, Sole (Runner.lasts node path) cluster.runners) : Guarded cluster :=
  ⟨sole, fun runner member => (fine runner member).kept,
    fun runner member => (fine runner member).entitled,
    fun runner member => (fine runner member).shown,
    fun runner member => (fine runner member).brisk, apart⟩

theorem Fine.carried {later : Cluster} (fine : Fine cluster runner)
    (held : ∀ stamp ∈ runner.phase.heldAt, later.files runner.path = cluster.files runner.path)
    (grows : cluster.edits runner.path ≤ later.edits runner.path)
    (still : later.edits runner.path = cluster.edits runner.path →
      later.files runner.path = cluster.files runner.path ∧
        ∀ other ∈ later.runners, other.holds runner.path →
          ∃ former ∈ cluster.runners, former.holds runner.path)
    (brisk : ∀ stamp ∈ runner.phase.stamp, later.now - stamp < later.lockTTL) :
    Fine later runner := by
  refine ⟨fun stamp is => ?_, fun stamp seen created is => ?_, fun stamp existing seen is => ?_,
    brisk⟩
  · rw [held stamp is]
    exact fine.kept stamp is
  · have before := fine.entitled stamp seen created is
    have past := before.past
    refine ⟨past.trans grows, fun same other member holds => ?_, fun same => ?_⟩
    · obtain ⟨former, listed, held⟩ := (still (by omega)).2 other member holds
      exact before.free (by omega) former listed held
    · rw [(still (by omega)).1]
      exact before.linked (by omega)
  · have before := fine.shown stamp existing seen is
    have past := before.past
    refine ⟨past.trans grows, fun same => ?_⟩
    rw [(still (by omega)).1]
    exact before.current (by omega)

theorem Guarded.move (guarded : Guarded cluster) (here : cluster.runners[index]? = some old)
    (held : ∀ stamp ∈ phase.heldAt, stamp ∈ old.phase.heldAt)
    (entitled : ∀ stamp seen created, phase = .writing stamp seen created →
      Entitled cluster old.path seen created)
    (shown : ∀ stamp existing seen, phase = .judging stamp existing seen →
      Shown cluster old.path existing seen)
    (brisk : ∀ stamp ∈ phase.stamp, cluster.now - stamp < cluster.lockTTL)
    (lasts : phase ≠ .gone → old.phase ≠ .gone) :
    Guarded (cluster.put index { old with phase := phase }) := by
  have listed := List.mem_of_getElem? here
  have holding : ∀ path, Runner.holds path { old with phase := phase } → old.holds path := by
    rintro path ⟨same, some⟩
    obtain ⟨stamp, is⟩ := Option.isSome_iff_exists.mp some
    exact ⟨same, Option.isSome_iff_exists.mpr ⟨stamp, held stamp is⟩⟩
  have carried (runner : Runner) (fine : Fine cluster runner) :
      Fine (cluster.put index { old with phase := phase }) runner := by
    refine fine.carried (fun _ _ => rfl) le_rfl (fun _ => ⟨rfl, fun other member holds => ?_⟩)
      fine.brisk
    rcases mem_put member with rfl | ⟨place, _, there⟩
    · exact ⟨old, listed, holding _ holds⟩
    · exact ⟨other, List.mem_of_getElem? there, holds⟩
  refine guarded_of_fine
    (fun path => (guarded.sole path).set fun holds => .inl ⟨old, here, holding path holds⟩)
    (fun runner member => carried runner ?_)
    fun node path => (guarded.apart node path).set fun alive =>
      .inl ⟨old, here, alive.1, alive.2.1, lasts alive.2.2⟩
  rcases mem_put member with rfl | ⟨place, _, there⟩
  · exact ⟨fun stamp is => guarded.kept old listed stamp (held stamp is), entitled, shown, brisk⟩
  · exact guarded.fine (List.mem_of_getElem? there)

theorem Guarded.change {file : Option LockFile} {inodes : Nat} (guarded : Guarded cluster)
    (here : cluster.runners[index]? = some old)
    (alone : ∀ place other, place ≠ index → cluster.runners[place]? = some other →
      ¬ other.holds old.path) (held : ∀ stamp ∈ phase.heldAt,
      ∃ inode, file = some ⟨inode, some ⟨old.task, old.node, stamp⟩⟩)
    (entitled : ∀ stamp seen created, phase = .writing stamp seen created →
      seen = cluster.edits old.path + 1 ∧
        ∀ inode ∈ created, ∃ content, file = some ⟨inode, content⟩)
    (shown : ∀ stamp existing seen, phase ≠ .judging stamp existing seen)
    (brisk : ∀ stamp ∈ phase.stamp, cluster.now - stamp < cluster.lockTTL)
    (lasts : phase ≠ .gone → old.phase ≠ .gone) :
    Guarded (Cluster.put { cluster.edit old.path file with inodes := inodes } index
      { old with phase := phase }) := by
  set after := Cluster.put { cluster.edit old.path file with inodes := inodes } index
    { old with phase := phase } with is_after
  have placed : after.files old.path = file := if_pos rfl
  have grown : after.edits old.path = cluster.edits old.path + 1 := if_pos rfl
  have filed (path : String) (other : path ≠ old.path) : after.files path = cluster.files path :=
    if_neg other
  have edited (path : String) (other : path ≠ old.path) : after.edits path = cluster.edits path :=
    if_neg other
  have only (place : Nat) (runner : Runner) (there : after.runners[place]? = some runner)
      (holds : runner.holds old.path) : place = index := by
    by_contra different
    rw [is_after, Cluster.put, List.getElem?_set_ne (Ne.symm different)] at there
    exact alone place runner different there holds
  refine guarded_of_fine (fun path => ?_) (fun runner member => ?_)
    fun node path => (guarded.apart node path).set fun alive =>
      .inl ⟨old, here, alive.1, alive.2.1, lasts alive.2.2⟩
  · by_cases own : path = old.path
    · subst own
      intro first second one other here there holds also
      rw [only first one here holds, only second other there also]
    · exact (guarded.sole path).set fun holds => absurd holds.1.symm own
  rcases mem_put member with rfl | ⟨place, different, there⟩
  · refine ⟨fun stamp is => ?_, fun stamp seen created is => ?_,
      fun stamp existing seen is => absurd is (shown stamp existing seen), brisk⟩
    · obtain ⟨inode, is_file⟩ := held stamp is
      exact ⟨inode, placed.trans is_file⟩
    obtain ⟨rfl, linked⟩ := entitled stamp seen created is
    refine ⟨Nat.le_of_eq grown.symm, fun _ other listed holds => ?_, fun _ inode made => ?_⟩
    · rcases mem_put listed with rfl | ⟨place, different, there⟩
      · have none := holds.2
        rw [is] at none
        exact absurd none Bool.false_ne_true
      · exact alone place other different there holds
    · obtain ⟨content, is_content⟩ := linked inode made
      exact ⟨content, placed.trans is_content⟩
  · have fine := guarded.fine (List.mem_of_getElem? there)
    by_cases own : runner.path = old.path
    · have idle := alone place runner different there
      refine fine.carried
        (fun stamp is => absurd ⟨own, Option.isSome_iff_exists.mpr ⟨stamp, is⟩⟩ idle)
        (by rw [own, grown]; omega) (fun same => ?_) fine.brisk
      rw [own, grown] at same
      omega
    · refine fine.carried (fun _ _ => filed _ own) (Nat.le_of_eq (edited _ own).symm)
        (fun _ => ⟨filed _ own, fun other listed holds => ?_⟩) fine.brisk
      rcases mem_put listed with rfl | ⟨place, _, there⟩
      · exact absurd holds.1.symm own
      · exact ⟨other, List.mem_of_getElem? there, holds⟩

theorem lockTTL_pos (cluster : Cluster) : 0 < cluster.lockTTL := by
  unfold Cluster.lockTTL
  split
  · decide
  · omega

theorem between_lt {stamp now ttl : Int} (young : now - stamp < ttl) (positive : 0 < ttl) :
    between stamp now < ttl := by
  have short : shortest = -2 ^ 63 := rfl
  unfold between
  omega

theorem LockPhase.stamp_of_heldAt {stamp : Int} (held : stamp ∈ phase.heldAt) :
    stamp ∈ phase.stamp := by
  cases phase <;> first | exact held | simp [heldAt] at held

theorem Guarded.judged {stamp : Int} {existing : LockRecord} {seen : Nat}
    (guarded : Guarded cluster) (here : cluster.runners[index]? = some old)
    (is : old.phase = .judging stamp existing seen) (taken : ¬ (existing.nodeID ≠ old.node ∧
      between existing.lockedAt cluster.now < cluster.lockTTL)) :
    Entitled cluster old.path seen none := by
  have shown := guarded.shown old (List.mem_of_getElem? here) stamp existing seen is
  refine ⟨shown.past, fun same other member holds => ?_, fun _ _ none => by simp at none⟩
  obtain ⟨held, is_held⟩ := Option.isSome_iff_exists.mp holds.2
  obtain ⟨inode, filed⟩ := guarded.kept other member held is_held
  obtain ⟨file, there, read⟩ := shown.current same
  rw [← holds.1, filed, Option.some.injEq] at there
  rw [← read, ← there] at taken
  refine taken ⟨fun sameNode => ?_, ?_⟩
  · -- two runs of one node under one lock file are the same run
    obtain ⟨place, present⟩ := List.getElem?_of_mem member
    have runs : other.lasts old.node old.path :=
      ⟨sameNode, holds.1, fun ended => by rw [ended] at is_held; simp [LockPhase.heldAt] at is_held⟩
    have single := guarded.apart old.node old.path place index other old present here runs
      ⟨rfl, rfl, by rw [is]; exact nofun⟩
    rw [single, here, Option.some.injEq] at present
    rw [← present, is] at is_held
    simp [LockPhase.heldAt] at is_held
  · exact between_lt (guarded.brisk other member held (LockPhase.stamp_of_heldAt is_held))
      (lockTTL_pos cluster)

theorem Guarded.timed (guarded : Guarded cluster) (running : String → String → Bool) {now : Int}
    (brisk : ∀ runner ∈ cluster.runners, ∀ stamp ∈ runner.phase.stamp,
      now - stamp < cluster.lockTTL) : Guarded { cluster with running := running, now := now } :=
  guarded_of_fine guarded.sole
    (fun runner member => (guarded.fine member).carried (fun _ _ => rfl) le_rfl
      (fun _ => ⟨rfl, fun other listed holds => ⟨other, listed, holds⟩⟩) (brisk runner member))
    guarded.apart

theorem Guarded.free {path : String} (guarded : Guarded cluster)
    (missing : cluster.files path = none) : ∀ runner ∈ cluster.runners, ¬ runner.holds path := by
  rintro runner member ⟨rfl, some⟩
  obtain ⟨stamp, is⟩ := Option.isSome_iff_exists.mp some
  obtain ⟨inode, filed⟩ := guarded.kept runner member stamp is
  rw [missing] at filed
  simp at filed

theorem write_of_entitled {path : String} {seen : Nat} {created : Option Nat}
    (record : LockRecord) (entitled : Entitled cluster path seen created)
    (current : cluster.edits path = seen) : ∃ inode inodes, cluster.write path created record =
      { cluster.edit path (some ⟨inode, some record⟩) with inodes := inodes } := by
  unfold Cluster.write
  cases created with
  | some inode =>
    obtain ⟨content, filed⟩ := entitled.linked current inode rfl
    simp only [filed]
    exact ⟨inode, cluster.inodes, rfl⟩
  | none =>
    cases filed : cluster.files path with
    | some file => exact ⟨file.inode, cluster.inodes, rfl⟩
    | none => exact ⟨cluster.inodes, cluster.inodes + 1, rfl⟩

theorem Guarded.step {fault : Option String} (guarded : Guarded cluster)
    (here : cluster.runners[index]? = some old) (orderly : cluster.Orderly (.advance index fault)) :
    Guarded ((cluster.step old fault).1.put index
      { old with phase := (cluster.step old fault).2 }) := by
  obtain ⟨node, task, phase⟩ := old
  have listed := List.mem_of_getElem? here
  have young := guarded.brisk _ listed
  -- a step that only goes on with what the run has already
  have onward : ∀ next : LockPhase, (∀ stamp ∈ next.heldAt, stamp ∈ phase.heldAt) →
      (∀ stamp ∈ next.stamp, stamp ∈ phase.stamp) →
      (∀ stamp seen created, next ≠ .writing stamp seen created) →
      (∀ stamp existing seen, next ≠ .judging stamp existing seen) →
      (next ≠ .gone → phase ≠ .gone) → Guarded (cluster.put index ⟨node, task, next⟩) :=
    fun _ held stamps unwritten unjudged lasts =>
      guarded.move here held (fun _ _ _ is => absurd is (unwritten _ _ _))
        (fun _ _ _ is => absurd is (unjudged _ _ _)) (fun stamp is => young stamp (stamps stamp is))
        lasts
  have ends : Guarded (cluster.put index ⟨node, task, .gone⟩) :=
    onward _ nofun nofun nofun nofun fun last => absurd rfl last
  have refused : ∀ failure, phase ≠ .gone →
      Guarded (cluster.put index ⟨node, task, .denied failure⟩) :=
    fun _ alive => onward _ nofun nofun nofun nofun fun _ => alive
  cases phase with
  | begun =>
    cases fault with
    | some => exact refused _ nofun
    | none =>
      refine guarded.move here nofun nofun nofun (fun stamp same => ?_) fun _ => nofun
      have positive := lockTTL_pos cluster
      rw [← Option.some.inj same]
      omega
  | stamped stamp =>
    cases fault with
    | some => exact refused _ nofun
    | none =>
      simp only [Cluster.step]
      split
      · exact onward _ nofun (fun _ same => same) nofun nofun fun _ => nofun
      rename_i missing
      have free := guarded.free missing
      refine guarded.change here (fun _ other _ there =>
        free other (List.mem_of_getElem? there)) nofun (fun _ seen created same => ?_) nofun
        young fun _ => nofun
      simp only [LockPhase.writing.injEq] at same
      obtain ⟨_, rfl, rfl⟩ := same
      exact ⟨rfl, fun inode made => ⟨none, by rw [Option.some.inj made]⟩⟩
  | blocked stamp =>
    cases fault with
    | some => exact refused _ nofun
    | none =>
      simp only [Cluster.step]
      split
      · rename_i file filed
        refine guarded.move here nofun nofun (fun _ _ _ same => ?_) young fun _ => nofun
        simp only [LockPhase.judging.injEq] at same
        obtain ⟨_, rfl, rfl⟩ := same
        exact ⟨Nat.le_refl _, fun _ => ⟨file, filed, rfl⟩⟩
      · exact refused _ nofun
  | judging stamp existing seen =>
    simp only [Cluster.step]
    split
    · exact refused _ nofun
    rename_i taken
    refine guarded.move here nofun (fun _ _ _ same => ?_) nofun young fun _ => nofun
    simp only [LockPhase.writing.injEq] at same
    obtain ⟨_, rfl, rfl⟩ := same
    exact guarded.judged here rfl taken
  | writing stamp seen created =>
    cases fault with
    | some => exact refused _ nofun
    | none =>
      have entitled := guarded.entitled _ listed stamp seen created rfl
      -- Nobody has touched the file since it was judged.
      have current : cluster.edits (lockPath task) = seen := by
        simp only [Cluster.Orderly, here] at orderly
        exact orderly trivial
      obtain ⟨inode, inodes, written⟩ :=
        write_of_entitled ⟨task, node, stamp⟩ entitled current
      simp only [Cluster.step]
      rw [written]
      refine guarded.change here (fun _ other _ there =>
        entitled.free current other (List.mem_of_getElem? there)) (fun other same => ?_) nofun
        nofun young fun _ => nofun
      rw [← Option.some.inj same]
      exact ⟨inode, rfl⟩
  | acquired | ready | inside =>
    exact onward _ (fun _ same => same) (fun _ same => same) nofun nofun fun _ => nofun
  | returned stamp =>
    have going := onward (.finished stamp) (fun _ same => same) (fun _ same => same) nofun nofun
      fun _ => nofun
    exact going.timed _ going.brisk
  | finished =>
    cases fault with
    | some => exact ends
    | none =>
      simp only [Cluster.step]
      split
      · split
        · exact onward _ (fun _ same => same) (fun _ same => same) nofun nofun fun _ => nofun
        · exact ends
      · exact ends
  | removing =>
    cases fault with
    | some => exact ends
    | none =>
      simp only [Cluster.step]
      split
      · refine guarded.change here (fun place other different there holds => different ?_) nofun
          nofun nofun nofun fun last => absurd rfl last
        exact guarded.sole _ place index other _ there here holds ⟨rfl, rfl⟩
      · exact ends
  | denied => exact ends.timed _ ends.brisk
  | gone => exact ends

theorem Guarded.begin {node task : String}
    (guarded : Guarded cluster) (orderly : cluster.Orderly (.begin node task)) :
    Guarded { cluster with
      running := running, runners := cluster.runners ++ [⟨node, task, .begun⟩] } := by
  have idle : ∀ path, ∀ runner ∈ [(⟨node, task, .begun⟩ : Runner)], ¬ runner.holds path := by
    rintro path runner member ⟨_, some⟩
    rw [List.mem_singleton.mp member] at some
    exact absurd some Bool.false_ne_true
  refine guarded_of_fine
    (fun path => (guarded.sole path).append (sole_of_none (idle path)) (.inr (idle path)))
    (fun runner member => ?_) fun one path => ?_
  · rcases List.mem_append.mp member with old | new
    · have fine := guarded.fine old
      refine fine.carried (fun _ _ => rfl) le_rfl (fun _ => ⟨rfl, fun other listed holds => ?_⟩)
        fine.brisk
      grind
    · rw [List.mem_singleton.mp new]
      exact ⟨nofun, nofun, nofun, nofun⟩
  · refine (guarded.apart one path).append ?_ ?_
    · intro first second here there listed present _ _
      grind
    · by_cases own : one = node ∧ path = lockPath task
      · refine .inl fun runner member lasts => lasts.2.2 ?_
        exact orderly runner member (lasts.1.trans own.1) (lasts.2.1.trans own.2)
      refine .inr fun runner member lasts => own ?_
      rw [List.mem_singleton.mp member] at lasts
      exact ⟨lasts.1.symm, lasts.2.1.symm⟩

def Runner.fallen (node : String) (runner : Runner) : Runner :=
  if runner.node = node then { runner with phase := .gone } else runner

theorem Runner.fallen_or (node : String) (runner : Runner) :
    runner.fallen node = runner ∨ runner.fallen node = { runner with phase := .gone } := by
  unfold Runner.fallen
  split
  · exact .inr rfl
  · exact .inl rfl

theorem Guarded.crash {node : String} (guarded : Guarded cluster) : Guarded { cluster with
      running := running, runners := cluster.runners.map (Runner.fallen node) } := by
  have held (path : String) (runner : Runner) (holds : (runner.fallen node).holds path) :
      runner.holds path := by
    rcases runner.fallen_or node with same | ended
    · rwa [same] at holds
    · rw [ended] at holds
      exact absurd holds.2 Bool.false_ne_true
  refine guarded_of_fine (fun path => (guarded.sole path).map fun runner _ => held path runner)
    (fun runner member => ?_)
    fun one path => (guarded.apart one path).map fun runner _ lasts => ?_
  · obtain ⟨old, listed, rfl⟩ := List.mem_map.mp member
    rcases old.fallen_or node with same | ended
    · rw [same]
      have fine := guarded.fine listed
      refine fine.carried (fun _ _ => rfl) le_rfl (fun _ => ⟨rfl, fun other member holds => ?_⟩)
        fine.brisk
      grind
    · rw [ended]
      exact ⟨nofun, nofun, nofun, nofun⟩
  · rcases runner.fallen_or node with same | ended
    · rwa [same] at lasts
    · rw [ended] at lasts
      exact absurd rfl lasts.2.2

theorem Guarded.take {event : LockEvent} (guarded : Guarded cluster)
    (brisk : cluster.Brisk event) (orderly : cluster.Orderly event) :
    Guarded (cluster.take event) := by
  cases event with
  | begin =>
    simp only [Cluster.take]
    split
    · exact guarded
    · exact guarded.begin orderly
  | advance index fault =>
    simp only [Cluster.take]
    split
    · rename_i runner here
      exact guarded.step here orderly
    · exact guarded
  | clock => exact guarded.timed _ brisk
  | crash => exact guarded.crash

theorem exclusive_of_guarded (guarded : Guarded cluster) : cluster.Exclusive := by
  refine fun task => (guarded.sole (lockPath task)).mono fun runner inside => ?_
  obtain ⟨same, stamp, is⟩ := inside
  exact ⟨congrArg lockPath same, by rw [is]; rfl⟩

/-- No cluster-wide task is run twice at a time, as long as no run lasts as long as its lock, lock
files are written only while they are as the writer created or read them, and a node begins nothing
under a lock file it has not released. -/
theorem cluster_runs_exclusive (ttl : Int) (files : String → Option LockFile) (inodes : Nat)
    (now : Int) (events : List LockEvent)
    (brisk : Every Cluster.take Cluster.Brisk (.opened ttl files inodes now) events)
    (orderly : Every Cluster.take Cluster.Orderly (.opened ttl files inodes now) events) :
    (lastState Cluster.take (.opened ttl files inodes now) events).Exclusive :=
  have guarded : Guarded (.opened ttl files inodes now) :=
    ⟨fun _ => sole_of_none nofun, nofun, nofun, nofun, nofun, fun _ _ => sole_of_none nofun⟩
  exclusive_of_guarded (lastState_of_invariant Guarded guarded (brisk.and orderly)
    fun _ _ guarded fits => guarded.take fits.1 fits.2)

def goesOn (runner count : Nat) : List LockEvent := List.replicate count (.advance runner none)

theorem renewals_exclusive : (lastState Cluster.take
    (.opened (5 * minute) (fun _ => none) 0 (1000 * second))
    ([.begin "node-1" "ssl_renewal"] ++ goesOn 0 9 ++ [.clock (1200 * second),
      .begin "node-2" "ssl_renewal"] ++ goesOn 1 5)).Exclusive :=
  cluster_runs_exclusive _ _ _ _ _ (by decide +kernel) (by decide +kernel)

def halfWritten : List LockEvent :=
  [.begin "node-1" "ssl_renewal"] ++ goesOn 0 2 ++ [.begin "node-2" "ssl_renewal"] ++ goesOn 1 7 ++
    goesOn 0 3

theorem renewals_overlap :
    Every Cluster.take Cluster.Brisk (.opened (5 * minute) (fun _ => none) 0 (1000 * second))
        halfWritten ∧
      ¬ (lastState Cluster.take (.opened (5 * minute) (fun _ => none) 0 (1000 * second))
        halfWritten).Exclusive := by
  refine ⟨by decide +kernel, fun exclusive => ?_⟩
  have same := exclusive "ssl_renewal" 0 1 ⟨"node-1", "ssl_renewal", .inside (1000 * second)⟩
    ⟨"node-2", "ssl_renewal", .inside (1000 * second)⟩ (by decide +kernel) (by decide +kernel)
    ⟨rfl, _, rfl⟩ ⟨rfl, _, rfl⟩
  exact absurd same (by decide)

end Cashp.Scheduling
