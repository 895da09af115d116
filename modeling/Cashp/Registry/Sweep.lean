import Cashp.Kit.Program
import Cashp.Kit.Table
import Cashp.Registry.ServiceCore

/-!
The liveness sweep while nobody else writes: what becomes of a node depends on its own row and the
clock, and once swept the table stays as it is.
-/

namespace Cashp.Registry

open Kit Kit.Program Kit.Duration
open Nodes (State maxReasonLen truncate unixOf unixOrZero validateNodeID)

variable {realm : Realm} {row : NodeRow} {now : Int} {target : State} {nodes : NodeTable}

def NodeRow.silence (row : NodeRow) (now : Int) : Option Int :=
  if 0 < row.lastSeen then some (between (row.lastSeen * second) now)
  else if 0 < row.enrolledAt then some (between (row.enrolledAt * second) now)
  else none

def NodeRow.moved (row : NodeRow) (target : State) (now : Int) : NodeRow :=
  NodeUpdate.apply (.state target (truncate "liveness sweep" maxReasonLen) (unixOf now)) row

def NodeRow.swept (now : Int) (row : NodeRow) : NodeRow :=
  if row.maintenance ∨ row.state ∉ [.online, .degraded, .enrolled] then row
  else
    match row.silence now with
    | none => row
    | some age =>
      if offlineAfter ≤ age then row.moved .offline now
      else if Cluster.degradedAfter ≤ age ∧ row.state ≠ .degraded then row.moved .degraded now
      else row

theorem reclassified_scan (row : NodeRow) (now : Int) : reclassified (scanNodeRow row) now =
    if row.maintenance ∨ row.state ∉ [.online, .degraded, .enrolled] then none
    else (row.silence now).bind fun age => (wantedState age).filter fun wanted =>
      row.state ≠ wanted := by
  have unset : ∀ seconds, 0 < seconds → unixOrZero seconds = seconds * second ∧
      seconds * second ≠ zeroTime := by
    intro seconds positive
    unfold unixOrZero zeroTime second
    rw [if_neg (not_le.mpr positive)]
    omega
  have zero : ∀ seconds, ¬ 0 < seconds → unixOrZero seconds = zeroTime := fun seconds none =>
    if_pos (not_lt.mp none)
  unfold reclassified NodeRow.silence
  by_cases working : row.maintenance = true
  · simp [scanNodeRow, working]
  by_cases seen : 0 < row.lastSeen
  · simp [scanNodeRow, working, seen, unset _ seen]
  by_cases enrolled : 0 < row.enrolledAt
  · simp [scanNodeRow, working, seen, zero _ seen, enrolled, unset _ enrolled]
  · simp [scanNodeRow, working, seen, zero _ seen, enrolled, zero _ enrolled]

theorem swept_eq (row : NodeRow) (now : Int) : row.swept now =
    match reclassified (scanNodeRow row) now with
    | some target => row.moved target now
    | none => row := by
  rw [reclassified_scan, NodeRow.swept]
  split
  · rfl
  rename_i counted
  have online : row.state ≠ .offline := by
    intro same
    simp [same] at counted
  cases row.silence now with
  | none => rfl
  | some age =>
    simp only [Option.bind_some, wantedState]
    split_ifs <;> simp_all [Option.filter]

theorem reclassified_allowed (wanted : reclassified (scanNodeRow row) now = some target) :
    canTransition row.state target = true := by
  rw [reclassified_scan] at wanted
  split at wanted
  · cases wanted
  rename_i counted
  obtain ⟨age, _, picked⟩ := Option.bind_eq_some_iff.mp wanted
  obtain ⟨found, other⟩ := Option.filter_eq_some_iff.mp picked
  have kinds : target = .offline ∨ target = .degraded := by
    unfold wantedState at found
    split_ifs at found <;> simp_all
  rw [not_or, not_not] at counted
  rcases kinds with rfl | rfl
  · cases state : row.state <;> simp_all [canTransition, allowedTransitions]
  · cases state : row.state <;> simp_all [canTransition, allowedTransitions]

def NodeTable.sweep (nodes : NodeTable) (now : Int) (ids : List String) : NodeTable :=
  nodes.update (fun row => ids.contains row.id) (NodeRow.swept now) fun column listed row => by
    rw [List.mem_singleton.mp listed, swept_eq]
    split <;> rfl

theorem table_eq {first second : NodeTable} (same : first.rows = second.rows) : first = second := by
  cases first
  cases second
  cases same
  rfl

theorem swept_id (row : NodeRow) (now : Int) : (row.swept now).id = row.id := by
  rw [swept_eq]
  split <;> rfl

theorem sweep_cons (nodes : NodeTable) (now : Int) {id : String} {ids : List String}
    (fresh : id ∉ ids) :
    (nodes.sweep now [id]).sweep now ids = nodes.sweep now (id :: ids) := by
  refine table_eq ?_
  simp only [NodeTable.sweep, Table.update, List.map_map]
  refine List.map_congr_left fun row _ => ?_
  by_cases own : row.id = id
  · simp [Table.assignWhere, own, swept_id, fresh]
  · simp [Table.assignWhere, own]

theorem query_run {Reply : Type} {stmt : Stmt (Except Nodes.Fault Reply)} {reply : Reply}
    {later : Realm} (operation : String) (answered : execute stmt realm = (.ok reply, later)) :
    (query operation stmt).run realm = (.ok reply, later) := by
  rw [query, run_bind, run_perform, answered]
  rfl

section

variable (up : realm.link = .up)
include up

theorem ask_up {Reply : Type} (reply : Reply) : realm.ask reply = (.ok reply, realm) := by
  rw [Realm.ask, up]

theorem updateVersioned_run (member : row ∈ realm.tables.nodes.rows) (operation : String)
    (change : NodeUpdate) : (updateVersioned operation change row.id row.version).run realm =
      (.ok (), realm.setNodes (change.assign row.id (some row.version) realm.tables.nodes)) := by
  have hit : realm.tables.nodes.affected (selectsNode row.id (some row.version)) ≠ 0 := by
    intro missed
    have other := Table.affected_eq_zero.mp missed row member
    simp [selectsNode] at other
  have wrote : execute (Stmt.updateNode change row.id (some row.version)) realm =
      (.ok (realm.tables.nodes.affected (selectsNode row.id (some row.version))),
        realm.setNodes (change.assign row.id (some row.version) realm.tables.nodes)) := by
    simp only [execute, Stmt.execute, Realm.write, up]
  rw [updateVersioned, run_bind_ok (query_run operation wrote)]
  exact run_refuse_not _ _ hit

theorem transition_run (member : row ∈ realm.tables.nodes.rows)
    (named : validateNodeID row.id = .ok ()) (allowed : canTransition row.state target = true)
    (reason : String) :
    ∃ node, (transition row.id target reason).run realm = (.ok node, realm.setNodes
      (NodeUpdate.assign (.state target (truncate reason maxReasonLen) (unixOf realm.clock.now))
        row.id (some row.version) realm.tables.nodes)) := by
  have found : realm.tables.nodes.find (fun other => other.id == row.id) = some row :=
    Table.find_unique List.mem_cons_self member (by simp) fun other hit => by simpa using hit
  have asked : execute (Stmt.node row.id) realm = (.ok (some row), realm) :=
    (ask_up up _).trans (by rw [found])
  have looked : (get row.id).run realm = (.ok (scanNodeRow row), realm) := by
    rw [get, named, run_bind_ok rfl, run_bind_ok (query_run "load node" asked)]
    rfl
  have fine : ¬ canTransition (scanNodeRow row).state target = false := by
    simp [scanNodeRow, allowed]
  rw [transition, run_bind_ok looked, run_unrefused fine,
    run_bind_ok rfl]
  exact ⟨_, run_bind_ok (updateVersioned_run up member _ _)⟩

theorem sweepEach_first (member : row ∈ realm.tables.nodes.rows)
    (named : validateNodeID row.id = .ok ()) (rest : List Node) (result : SweepResult) :
    ∃ later, (sweepEach realm.clock.now (scanNodeRow row :: rest) result).run realm =
      (sweepEach realm.clock.now rest later).run
        (realm.setNodes (realm.tables.nodes.sweep realm.clock.now [row.id])) := by
  have only : ∀ other ∈ realm.tables.nodes.rows, other.id = row.id → other = row :=
    fun other present same => Table.eq_of_column List.mem_cons_self present member same
  rw [sweepEach]
  cases wanted : reclassified (scanNodeRow row) realm.clock.now with
  | none =>
    refine ⟨result, ?_⟩
    have same : realm.tables.nodes.sweep realm.clock.now [row.id] = realm.tables.nodes := by
      refine table_eq ((List.map_congr_left fun other present => ?_).trans (List.map_id _))
      by_cases own : other.id = row.id
      · rw [only other present own]
        simp [Table.assignWhere, swept_eq, wanted]
      · simp [Table.assignWhere, own]
    rw [same]
    rfl
  | some target =>
    obtain ⟨node, ran⟩ := transition_run up member named (reclassified_allowed wanted)
      "liveness sweep"
    have same : NodeUpdate.assign (.state target (truncate "liveness sweep" maxReasonLen)
        (unixOf realm.clock.now)) row.id (some row.version) realm.tables.nodes =
          realm.tables.nodes.sweep realm.clock.now [row.id] := by
      refine table_eq (List.map_congr_left fun other present => ?_)
      by_cases own : other.id = row.id
      · rw [only other present own]
        simp [Table.assignWhere, selectsNode, swept_eq, wanted, NodeRow.moved]
      · simp [Table.assignWhere, selectsNode, own]
    rw [same] at ran
    exact ⟨_, run_bind_ok ran⟩

end

theorem sweepEach_run {rest : List NodeRow} (up : realm.link = .up)
    (named : ∀ row ∈ rest, validateNodeID row.id = .ok ())
    (present : ∀ row ∈ rest, row ∈ realm.tables.nodes.rows)
    (distinct : (rest.map NodeRow.id).Nodup) (result : SweepResult) :
    ∃ total, (sweepEach realm.clock.now (rest.map scanNodeRow) result).run realm = (.ok total,
      realm.setNodes (realm.tables.nodes.sweep realm.clock.now (rest.map NodeRow.id))) := by
  induction rest generalizing realm result with
  | nil =>
    have same : realm.tables.nodes.sweep realm.clock.now [] = realm.tables.nodes :=
      table_eq (List.map_id _)
    exact ⟨result, by rw [List.map_nil, List.map_nil, same]; rfl⟩
  | cons row rest ih =>
    obtain ⟨later, ran⟩ := sweepEach_first up (present row List.mem_cons_self)
      (named row List.mem_cons_self) (rest.map scanNodeRow) result
    obtain ⟨apart, distinct⟩ := List.nodup_cons.mp distinct
    have kept : ∀ other ∈ rest,
        other ∈ (realm.tables.nodes.sweep realm.clock.now [row.id]).rows := by
      intro other member
      refine Table.mem_update.mpr ⟨other, present other (List.mem_cons_of_mem _ member), ?_⟩
      refine Table.assignWhere_not ?_
      simp_all
    have still : (realm.setNodes (realm.tables.nodes.sweep realm.clock.now [row.id])).link =
      .up := up
    obtain ⟨total, rests⟩ := ih still
      (fun other member => named other (List.mem_cons_of_mem _ member)) kept distinct later
    refine ⟨total, ran.trans (rests.trans ?_)⟩
    rw [List.map_cons, ← sweep_cons realm.tables.nodes realm.clock.now apart]
    rfl

theorem swept_cases (row : NodeRow) (now : Int) : row.swept now = row ∨
    row.swept now = row.moved .offline now ∨
    row.swept now = row.moved .degraded now ∧ ∃ age < offlineAfter, row.silence now = some age := by
  unfold NodeRow.swept
  grind

theorem swept_swept (row : NodeRow) (now : Int) : (row.swept now).swept now = row.swept now := by
  rcases swept_cases row now with same | moved | ⟨moved, age, early, silence⟩
  · rw [same, same]
  · rw [moved]
    exact if_pos (.inr (by simp [NodeRow.moved, NodeUpdate.apply]))
  -- the row that was moved has been silent as long as before
  have quiet : (row.moved .degraded now).silence now = some age := silence
  have degraded : (row.moved .degraded now).state = .degraded := rfl
  rw [moved, NodeRow.swept, quiet]
  simp [not_le.mpr early, degraded]

theorem sweepLiveness_run (realm : Realm) (up : realm.link = .up)
    (named : ∀ row ∈ realm.tables.nodes.rows, validateNodeID row.id = .ok ()) :
    ∃ result nodes, sweepLiveness.run realm = (.ok result, realm.setNodes nodes) ∧
      nodes.rows = realm.tables.nodes.rows.map (NodeRow.swept realm.clock.now) := by
  let rows := realm.tables.nodes.selectOrdered (fun _ => true) fun first next => first.id ≤ next.id
  have listed : list.run realm = (.ok (rows.map scanNodeRow), realm) := by
    rw [list, run_bind_ok (query_run "list nodes" (ask_up up rows))]
    rfl
  have present : ∀ row ∈ rows, row ∈ realm.tables.nodes.rows := fun row member =>
    (Table.mem_selectOrdered.mp member).1
  obtain ⟨total, ran⟩ := sweepEach_run up (fun row member => named row (present row member)) present
    (Table.selectOrdered_distinct List.mem_cons_self) ⟨0, 0⟩
  rw [sweepLiveness, run_bind_ok listed, run_bind_ok rfl]
  refine ⟨total, _, ran, List.map_congr_left fun row member => Table.assignWhere_of ?_⟩
  have all : row ∈ rows := Table.mem_selectOrdered.mpr ⟨member, rfl⟩
  simpa using ⟨row, all, rfl⟩

/-- The sweep succeeds, treats every node by itself, and has nothing left to do afterwards. -/
theorem sweep_settles (realm : Realm) (up : realm.link = .up)
    (named : ∀ row ∈ realm.tables.nodes.rows, validateNodeID row.id = .ok ()) :
    ∃ result nodes, sweepLiveness.run realm = (.ok result, realm.setNodes nodes) ∧
      nodes.rows = realm.tables.nodes.rows.map (NodeRow.swept realm.clock.now) ∧
      ∃ again, sweepLiveness.run (realm.setNodes nodes) = (.ok again, realm.setNodes nodes) := by
  obtain ⟨result, nodes, ran, rows⟩ := sweepLiveness_run realm up named
  have still : ∀ row ∈ nodes.rows, validateNodeID row.id = .ok () := by
    intro row member
    obtain ⟨old, present, rfl⟩ := List.mem_map.mp (rows ▸ member)
    rw [swept_id]
    exact named old present
  obtain ⟨again, settled, reran, same⟩ := sweepLiveness_run (realm.setNodes nodes) up still
  have unchanged : settled = nodes := by
    refine table_eq (same.trans ?_)
    change nodes.rows.map (NodeRow.swept realm.clock.now) = nodes.rows
    rw [rows, List.map_map]
    exact List.map_congr_left fun row _ => swept_swept row realm.clock.now
  rw [unchanged] at reran
  exact ⟨result, nodes, ran, rows, again, reran⟩

theorem silent_nodes_settle :
    let row : NodeRow :=
      { id := "edge-1", name := "", role := .managed, state := .online, stateReason := ""
        address := "", agentVersion := "", cordoned := false, maintenance := false, enrolledAt := 1
        lastSeen := 1, stateChangedAt := 1, createdAt := 1, updatedAt := 1, version := 1 }
    let realm := (Realm.installed ⟨100 * second, by decide⟩).setNodes ⟨[row], by simp⟩
    (row.swept realm.clock.now).state = .degraded ∧
      ∃ result nodes, sweepLiveness.run realm = (.ok result, realm.setNodes nodes) ∧
        nodes.rows = realm.tables.nodes.rows.map (NodeRow.swept realm.clock.now) ∧
        ∃ again, sweepLiveness.run (realm.setNodes nodes) = (.ok again, realm.setNodes nodes) := by
  intro row realm
  refine ⟨by decide +kernel, sweep_settles realm rfl fun other member => ?_⟩
  rw [List.mem_singleton.mp member]
  decide +kernel

end Cashp.Registry
