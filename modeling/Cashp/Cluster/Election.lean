import Mathlib.Data.Int.Order.Basic
import Cashp.Cluster.StoreCore
import Cashp.Kit.Run
import Cashp.Kit.Table

/-!
The primary is elected by a lease. Nobody takes it from a node while it runs, and when it has
run out it goes to the first of the healthy nodes.
-/

namespace Cashp.Cluster

open Kit Duration

inductive ElectionStep
  | pass (time : Int)
  | elect (nodeID token : String)
  | heartbeat (hb : Heartbeat)
  | markStale (nodeID : String) (stale : Bool)
  | removeNode (nodeID : String)

structure ElectionRun where
  store : Store
  clock : Int
  granted : Option (String × Int)

namespace ElectionRun

def opened (start : Int) : ElectionRun := ⟨.empty, start, none⟩

def take (step : ElectionStep) (run : ElectionRun) : ElectionRun :=
  match step with
  | .pass time => { run with clock := time }
  | .elect nodeID token =>
    let answer := run.store.electPrimary nodeID token run.clock
    ⟨answer.2, run.clock,
      if answer.1.toOption = some true then
        some (nodeID, (run.clock + primaryLeaseTTL) / second)
      else run.granted⟩
  | .heartbeat hb => { run with store := (run.store.heartbeat hb run.clock).2 }
  | .markStale nodeID stale => { run with store := run.store.markStale nodeID stale }
  | .removeNode nodeID =>
    ⟨run.store.removeNode nodeID, run.clock,
      run.granted.filter fun grant => decide (grant.1 ≠ nodeID)⟩

def InTime (step : ElectionStep) (run : ElectionRun) : Prop :=
  match step with
  | .pass time => run.clock ≤ time
  | _ => True

instance (step : ElectionStep) (run : ElectionRun) : Decidable (InTime step run) :=
  match step with
  | .pass time => inferInstanceAs (Decidable (run.clock ≤ time))
  | .elect .. => isTrue trivial
  | .heartbeat _ => isTrue trivial
  | .markStale .. => isTrue trivial
  | .removeNode _ => isTrue trivial

def Holds (run : ElectionRun) (nodeID : String) : Prop :=
  ∃ expiresAt, run.granted = some (nodeID, expiresAt) ∧ run.clock / second < expiresAt

def primary (run : ElectionRun) : Option String := run.store.primaryID run.clock

def ElectsRightly (step : ElectionStep) (run : ElectionRun) : Prop :=
  ∀ nodeID, (run.take step).primary = some nodeID → run.primary ≠ some nodeID →
    (∃ token, step = .elect nodeID token) ∧ run.primary = none ∧
      (run.store.healthyNodes run.clock = [] ∨
        nodeID ∈ run.store.healthyNodes run.clock ∧
          ∀ other ∈ run.store.healthyNodes run.clock, nodeID ≤ other)

end ElectionRun

namespace Store

variable {store : Store} {nodeID token : String} {now : Int}

theorem lease_eq_some {row : LockRow} : store.lease = some row ↔
    row ∈ store.locks.rows ∧ row.name = primaryLockName := by
  constructor
  · intro found
    obtain ⟨stored, named⟩ := Table.find_mem found
    exact ⟨stored, by simpa using named⟩
  rintro ⟨stored, named⟩
  refine Table.find_unique (List.mem_singleton.mpr rfl) stored (by simpa using named) ?_
  intro other named'
  exact (beq_iff_eq.mp named').trans named.symm

theorem claimLease_eq (store : Store) (nodeID token : String) (now : Int) :
    (store.claimLease nodeID token now).1 = true ∧
      (store.claimLease nodeID token now).2.nodes = store.nodes ∧
      (store.claimLease nodeID token now).2.lease = some ⟨primaryLockName, nodeID, token,
        now / second, (now + primaryLeaseTTL) / second⟩ := by
  have fresh : ∀ column ∈ [LockRow.name], ∀ other ∈ (store.locks.delete fun row =>
      row.name == primaryLockName).rows, column other ≠ column ⟨primaryLockName, nodeID, token,
        now / second, (now + primaryLeaseTTL) / second⟩ := by
    intro column listed other there
    rw [List.mem_singleton.mp listed]
    exact beq_eq_false_iff_ne.mp (Table.mem_delete.mp there).2
  obtain ⟨grown, stored, rows⟩ := Table.insert_fresh fresh
  rw [claimLease]
  simp only [stored]
  refine ⟨trivial, trivial, lease_eq_some.mpr ⟨?_, rfl⟩⟩
  rw [rows]
  exact List.mem_append_right _ List.mem_cons_self

inductive Elected (store : Store) (nodeID token : String) (now : Int) :
    Except ClusterError Bool × Store → Prop
  | passed (answer : Except ClusterError Bool) (lost : answer.toOption ≠ some true) :
      Elected store nodeID token now (answer, store)
  | renewed (row : LockRow) (after : Store) (stored : store.lease = some row)
      (live : now / second < row.expiresAt) (own : row.owner = nodeID)
      (members : after.nodes = store.nodes)
      (extended : after.lease = some { row with expiresAt := (now + primaryLeaseTTL) / second }) :
      Elected store nodeID token now (.ok true, after)
  | claimed (after : Store) (lapsed : ∀ row, store.lease = some row → row.expiresAt ≤ now / second)
      (first : store.lowestHealthyNode now = "" ∨ store.lowestHealthyNode now = nodeID)
      (members : after.nodes = store.nodes)
      (taken : after.lease = some ⟨primaryLockName, nodeID, token, now / second,
        (now + primaryLeaseTTL) / second⟩) :
      Elected store nodeID token now (.ok true, after)

theorem elected (store : Store) (nodeID token : String) (now : Int) :
    Elected store nodeID token now (store.electPrimary nodeID token now) := by
  have contest : (∀ row, store.lease = some row → row.expiresAt ≤ now / second) →
      Elected store nodeID token now
        (if store.lowestHealthyNode now ≠ "" ∧ store.lowestHealthyNode now ≠ nodeID then
          (.ok false, store)
        else
          (.ok (store.claimLease nodeID token now).1, (store.claimLease nodeID token now).2)) := by
    intro lapsed
    split
    · exact .passed _ (by decide)
    rename_i first
    obtain ⟨won, members, taken⟩ := store.claimLease_eq nodeID token now
    rw [won]
    exact .claimed _ lapsed (by tauto) members taken
  rw [electPrimary]
  split
  · exact .passed _ (by simp [Except.toOption])
  dsimp only
  split
  · rename_i none
    exact contest fun row stored => absurd (none.symm.trans stored) (by simp)
  rename_i row stored
  split
  · rename_i live
    split
    · exact .passed _ (by decide)
    rename_i own
    obtain ⟨member, named⟩ := lease_eq_some.mp stored
    refine .renewed row _ stored live (not_not.mp own) rfl (lease_eq_some.mpr
      ⟨List.mem_map.mpr ⟨row, member, Table.assignWhere_of ?_⟩, named⟩)
    rw [Bool.and_eq_true, beq_iff_eq, beq_iff_eq]
    exact ⟨named, not_not.mp own⟩
  · simp_all

theorem lease_heartbeat (hb : Heartbeat) : (store.heartbeat hb now).2.lease = store.lease := by
  rw [heartbeat]
  split
  · rfl
  split
  · rfl
  dsimp only
  split
  · rfl
  · rfl

theorem lease_removeNode (store : Store) (nodeID : String) :
    (store.removeNode nodeID).lease =
      store.lease.filter fun row => decide (row.owner ≠ nodeID) := by
  ext row
  rw [Option.filter_eq_some_iff, lease_eq_some, lease_eq_some, removeNode, Table.mem_delete,
    Bool.and_eq_false_iff, beq_eq_false_iff_ne, beq_eq_false_iff_ne, decide_eq_true_eq]
  grind

def Named (store : Store) : Prop := ∀ member ∈ store.nodes.rows, member.nodeID ≠ ""

theorem Named.update {store : Store} {matching : Member → Bool} {assign : Member → Member}
    {keeps : ∀ column ∈ [Member.nodeID], ∀ row, column (assign row) = column row}
    (named : Named store) :
    Named { store with nodes := store.nodes.update matching assign keeps } := by
  intro member there
  obtain ⟨old, stored, rfl⟩ := List.mem_map.mp there
  rw [Table.assignWhere]
  split
  · rw [keeps _ (List.mem_singleton.mpr rfl)]
    exact named old stored
  · exact named old stored

theorem Named.heartbeat (named : Named store) (hb : Heartbeat) :
    Named (store.heartbeat hb now).2 := by
  rw [Store.heartbeat]
  split
  · exact named
  rename_i text
  split
  · exact named.update
  dsimp only
  split
  · rename_i grown stored
    intro member there
    rw [Table.insert_rows stored] at there
    rcases List.mem_append.mp there with before | new
    · exact named member before
    rw [List.mem_singleton.mp new]
    intro blank
    have empty : trimSpace "" = "" := by decide
    exact text ((congrArg trimSpace blank).trans empty)
  · exact named.update

theorem mem_healthyNodes {other : String} : other ∈ store.healthyNodes now ↔
    other ∈ (store.nodes.select fun row => row.healthy now).map Member.nodeID := by
  rw [healthyNodes, List.mem_map, List.mem_map]
  refine exists_congr fun row => and_congr_left fun _ => ?_
  rw [Table.mem_selectOrdered, Table.select, List.mem_filter]

theorem Named.first (named : Named store)
    (may : store.lowestHealthyNode now = "" ∨ store.lowestHealthyNode now = nodeID) :
    store.healthyNodes now = [] ∨ nodeID ∈ store.healthyNodes now ∧
      ∀ other ∈ store.healthyNodes now, nodeID ≤ other := by
  rw [lowestHealthyNode] at may
  cases lowest : ((store.nodes.select fun row => row.healthy now).map Member.nodeID).min? with
  | none =>
    left
    rw [List.min?_eq_none_iff] at lowest
    refine List.eq_nil_iff_forall_not_mem.mpr fun other member => ?_
    rw [mem_healthyNodes, lowest] at member
    exact absurd member List.not_mem_nil
  | some =>
    obtain ⟨member, least⟩ := List.min?_eq_some_iff.mp lowest
    obtain ⟨row, healthy, rfl⟩ := List.mem_map.mp member
    rw [lowest, Option.getD_some] at may
    rcases may with blank | rfl
    · exact absurd blank (named row (List.mem_filter.mp healthy).1)
    · exact .inr ⟨mem_healthyNodes.mpr member, fun other there =>
        least other (mem_healthyNodes.mp there)⟩

end Store

namespace ElectionRun

variable {run : ElectionRun}

theorem won : (Except.ok true : Except ClusterError Bool).toOption = some true := rfl

structure Sound (run : ElectionRun) : Prop where
  named : run.store.Named
  lease : (run.store.lease.map fun row => (row.owner, row.expiresAt)) = run.granted

theorem Sound.opened (start : Int) : Sound (opened start) := by
  refine ⟨fun member there => ?_, rfl⟩
  exact absurd there List.not_mem_nil

theorem Sound.take (step : ElectionStep) (run : ElectionRun) (sound : Sound run) :
    Sound (run.take step) := by
  cases step with
  | pass => exact ⟨sound.named, sound.lease⟩
  | elect nodeID token =>
    have elected := run.store.elected nodeID token run.clock
    rw [ElectionRun.take]
    generalize run.store.electPrimary nodeID token run.clock = outcome at elected
    cases elected with
    | passed answer lost =>
      dsimp only
      rw [if_neg lost]
      exact sound
    | renewed row after stored live own members extended =>
      refine ⟨fun member there => sound.named member (members ▸ there), ?_⟩
      dsimp only
      rw [if_pos won, extended, Option.map_some, own]
    | claimed after lapsed first members taken =>
      refine ⟨fun member there => sound.named member (members ▸ there), ?_⟩
      dsimp only
      rw [if_pos won, taken, Option.map_some]
  | heartbeat hb =>
    refine ⟨sound.named.heartbeat hb, ?_⟩
    rw [ElectionRun.take, Store.lease_heartbeat]
    exact sound.lease
  | markStale => exact ⟨sound.named.update, sound.lease⟩
  | removeNode =>
    refine ⟨fun member there => sound.named member (Table.mem_delete.mp there).1, ?_⟩
    rw [ElectionRun.take, Store.lease_removeNode, ← sound.lease]
    cases run.store.lease with
    | none => rfl
    | some =>
      rw [Option.map_some, Option.filter_some, Option.filter_some]
      split
      · rfl
      · rfl

theorem Sound.primary_iff (sound : Sound run) (nodeID : String) :
    run.primary = some nodeID ↔ run.Holds nodeID := by
  rw [primary, Store.primaryID, Holds, ← sound.lease]
  grind

theorem Sound.loses (sound : Sound run) {nodeID other : String} (held : run.Holds nodeID)
    (apart : other ≠ nodeID) (token : String) :
    (run.store.electPrimary other token run.clock).1.toOption ≠ some true := by
  obtain ⟨expiresAt, granted, live⟩ := held
  have lease := sound.lease.trans granted
  rw [Option.map_eq_some_iff] at lease
  obtain ⟨row, stored, same⟩ := lease
  cases same
  have elected := run.store.elected other token run.clock
  generalize run.store.electPrimary other token run.clock = outcome at elected
  cases elected with
  | passed answer lost => exact lost
  | renewed row' after stored' live' own =>
    rw [stored, Option.some.injEq] at stored'
    exact absurd (stored'.symm ▸ own.symm) apart
  | claimed after lapsed =>
    have over' := lapsed row stored
    omega

theorem Sound.electsRightly (step : ElectionStep) (run : ElectionRun) (sound : Sound run)
    (inTime : InTime step run) : ElectsRightly step run := by
  intro nodeID after before
  have holds := ((Sound.take step run sound).primary_iff nodeID).mp after
  rw [ne_eq, sound.primary_iff nodeID] at before
  obtain ⟨expiresAt, granted, live⟩ := holds
  cases step with
  | pass time =>
    have later : run.clock ≤ time := inTime
    have seconds := Int.ediv_le_ediv (show 0 < second by decide) later
    exact absurd ⟨expiresAt, granted, seconds.trans_lt live⟩ before
  | heartbeat | markStale => exact absurd ⟨expiresAt, granted, live⟩ before
  | removeNode =>
    exact absurd ⟨expiresAt, (Option.filter_eq_some_iff.mp granted).1, live⟩ before
  | elect other token =>
    have elected := run.store.elected other token run.clock
    rw [ElectionRun.take] at granted
    generalize run.store.electPrimary other token run.clock = outcome at granted elected
    cases elected with
    | passed answer lost =>
      dsimp only at granted
      rw [if_neg lost] at granted
      exact absurd ⟨expiresAt, granted, live⟩ before
    | renewed row store stored running own =>
      dsimp only at granted
      rw [if_pos won] at granted
      cases granted
      refine absurd ⟨row.expiresAt, ?_, running⟩ before
      rw [← sound.lease, stored, Option.map_some, own]
    | claimed store lapsed first =>
      dsimp only at granted
      rw [if_pos won] at granted
      cases granted
      refine ⟨⟨token, rfl⟩, ?_, sound.named.first first⟩
      rw [primary, Store.primaryID]
      split
      · rfl
      · rename_i row stored
        exact if_pos (lapsed row stored)

end ElectionRun

open ElectionRun

/-- While a node holds the lease, no other node wins an election; and a node becomes the primary
by its own election only, when there is no live lease and no healthy node before it. -/
theorem primary_lease_kept (start : Int) (steps : List ElectionStep)
    (inTime : Every take InTime (opened start) steps) :
    let run := lastState take (opened start) steps
    (∀ nodeID, run.primary = some nodeID ↔ run.Holds nodeID) ∧
    (∀ nodeID other token, run.Holds nodeID → other ≠ nodeID →
      (run.store.electPrimary other token run.clock).1.toOption ≠ some true) ∧
    Every take ElectsRightly (opened start) steps := by
  have sound : ElectionRun.Sound (lastState take (opened start) steps) :=
    lastState_of_kept ElectionRun.Sound (Sound.opened start) Sound.take
  refine ⟨sound.primary_iff, fun nodeID other token held apart => sound.loses held apart token, ?_⟩
  exact every_of_invariant ElectionRun.Sound (Sound.opened start) inTime fun step run sound fits =>
    ⟨sound.electsRightly step run fits, sound.take step run⟩

theorem lease_passes_on :
    let steps := [.heartbeat { nodeID := "a" }, .heartbeat { nodeID := "b" }, .elect "a" "x",
      .pass (60 * second), .heartbeat { nodeID := "b" }, .heartbeat { nodeID := "c" },
      .elect "b" "y", .pass (91 * second), .elect "c" "z", .elect "b" "w"]
    let run := lastState take (opened 0) steps
    Every take InTime (opened 0) steps ∧ run.primary = some "b" ∧
      (run.store.electPrimary "a" "v" run.clock).1.toOption ≠ some true := by
  intro steps run
  have inTime : Every take InTime (opened 0) steps := by decide +kernel
  have kept := primary_lease_kept 0 steps inTime
  have primary : run.primary = some "b" := by decide +kernel
  exact ⟨inTime, primary, kept.2.1 "b" "a" "v" ((kept.1 "b").mp primary) (by decide)⟩

end Cashp.Cluster
