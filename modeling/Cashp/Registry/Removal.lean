import Cashp.Cluster.Election
import Cashp.Cluster.Leases
import Cashp.Kit.Hindsight
import Cashp.Registry.Rows

/-!
Removal deletes the node's row and its primary lease before the node counts as removed. A handle
knows only the name, so a heartbeat, a lock or an election through it brings the node back.
-/

namespace Cashp.Registry

open Kit Kit.Program
open Nodes (State)

structure Absent (nodeID : String) (store : Cluster.Store) : Prop where
  members : ∀ member ∈ store.nodes.rows, member.nodeID ≠ nodeID
  locks : ∀ row ∈ store.locks.rows, row.owner ≠ nodeID

/-- The control plane takes in a row for the node, it drops the node, or the node is removed. A drop
is clean if the node holds no lock besides the primary lease. -/
inductive Presence
  | shown (nodeID : String)
  | dropped (nodeID : String) (clean : Bool)
  | removed (nodeID : String) (role : Nodes.Role)
deriving DecidableEq

def controlPresence {Reply : Type} : ControlStmt Reply → Cluster.Store → Option Presence
  | .heartbeat hb now, store =>
    (store.heartbeat hb now).1.toOption.map fun _ => .shown hb.nodeID
  | .acquireLock name owner ttl token now, store =>
    (Cluster.acquireLock store.locks name owner ttl token now).1.toOption.map fun _ =>
      .shown owner
  | .electPrimary nodeID token now, store =>
    if (store.electPrimary nodeID token now).1.toOption = some true then some (.shown nodeID)
    else none
  | .removeNode nodeID, store =>
    some (.dropped nodeID (store.locks.rows.all fun row =>
      row.name == Cluster.primaryLockName || row.owner != nodeID))
  | .refresh .., _ => none
  | .release _, _ => none

def NodeUpdate.removes : NodeUpdate → Bool
  | .state target _ _ => target == .removed
  | _ => false

def present {Reply : Type} : Stmt Reply → Realm → Option Presence
  | .control stmt, realm => if realm.commits then controlPresence stmt realm.cluster else none
  | .updateNode change id version, realm =>
    if realm.commits ∧ change.removes = true then
      (realm.tables.nodes.find (selectsNode id version)).map fun row => .removed row.id row.role
    else none
  | _, _ => none

def affects (nodeID : String) : Presence → Bool
  | .shown other => other == nodeID
  | .dropped other _ => other == nodeID
  | .removed .. => false

/-- A cluster node whose removal succeeds has no row in the control plane from then on, holds no
live lock and is not the primary. -/
def StaysAway (fleet : Fleet Presence) : Prop :=
  ∀ thread req answer, fleet.calls[thread]? = some (.remove req) →
    fleet.answer thread = some (.ok answer) →
    ∀ row ∈ fleet.state.tables.nodes.rows, row.id = req.nodeID → row.role = .cluster →
      (∀ member ∈ fleet.state.cluster.nodes.rows, member.nodeID ≠ req.nodeID) ∧
      (∀ lock ∈ fleet.state.cluster.locks.rows, lock.owner = req.nodeID →
        lock.expiresAt ≤ fleet.state.clock.now / Duration.second) ∧
      fleet.state.cluster.primaryID fleet.state.clock.now ≠ some req.nodeID

/-- The control plane takes in nothing for a cluster node that is removed, and when a cluster node
is removed, its drop was clean and the control plane has taken in nothing for it since. -/
def LeavesForGood (_ : Call) (events : List Presence) : Presence → Prop
  | .shown nodeID => .removed nodeID .cluster ∉ events
  | .removed nodeID role =>
    role = .cluster → latest (affects nodeID) events = some (.dropped nodeID true)
  | .dropped .. => True

instance (call : Call) (events : List Presence) (event : Presence) :
    Decidable (LeavesForGood call events event) := by
  unfold LeavesForGood
  split <;> infer_instance

variable {store : Cluster.Store} {realm : Realm} {Reply : Type} {nodeID : String}
variable {matching : Cluster.LockRow → Bool} {now : Int} {token candidate : String}
variable {stmt : Stmt Reply} {fleet : Fleet Presence}

section

variable (absent : Absent nodeID store)

include absent

theorem Absent.setExpiry {expiresAt : Int} :
    Absent nodeID { store with locks := store.locks.setExpiry matching expiresAt } := by
  refine ⟨absent.members, fun row listed => ?_⟩
  obtain ⟨stored, _⟩ | ⟨old, stored, _, rfl⟩ := Cluster.mem_setExpiry listed
  · exact absent.locks row stored
  · exact absent.locks old stored

theorem Absent.delete :
    Absent nodeID { store with locks := store.locks.delete matching } :=
  ⟨absent.members, fun row listed => absent.locks row (Table.mem_delete.mp listed).1⟩

theorem Absent.insert {row : Cluster.LockRow} {grown : Cluster.Locks} (other : row.owner ≠ nodeID)
    (stored : store.locks.insert row = some grown) :
    Absent nodeID { store with locks := grown } := by
  refine ⟨absent.members, fun lock listed => ?_⟩
  rw [show grown.rows = _ from Table.insert_rows stored] at listed
  rcases List.mem_append.mp listed with before | new
  · exact absent.locks lock before
  · rw [List.mem_singleton.mp new]
    exact other

theorem Absent.heartbeat {hb : Cluster.Heartbeat}
    (other : (store.heartbeat hb now).1.toOption ≠ none → hb.nodeID ≠ nodeID) :
    Absent nodeID (store.heartbeat hb now).2 := by
  have updated : Absent nodeID (store.heartbeatUpdate hb now) := by
    refine ⟨fun member listed => ?_, absent.locks⟩
    rcases Table.mem_of_assigned listed with before | ⟨old, before, _, rfl⟩
    · exact absent.members member before
    · exact absent.members old before
  rw [Cluster.Store.heartbeat] at other ⊢
  split
  · exact absent
  rename_i named
  rw [if_neg named] at other
  split
  · exact updated
  rename_i missing
  rw [if_neg missing] at other
  dsimp only at other ⊢
  split
  · rename_i grown stored
    rw [stored] at other
    refine ⟨fun member listed => ?_, absent.locks⟩
    rw [show grown.rows = _ from Table.insert_rows stored] at listed
    rcases List.mem_append.mp listed with before | new
    · exact absent.members member before
    · rw [List.mem_singleton.mp new]
      exact other (by simp [Except.toOption])
  · exact updated

theorem Absent.acquireLock {name owner : String} {ttl : Int}
    (other : (Cluster.acquireLock store.locks name owner ttl token now).1.toOption ≠ none →
      owner ≠ nodeID) : Absent nodeID { store with
      locks := (Cluster.acquireLock store.locks name owner ttl token now).2 } := by
  rw [Cluster.acquireLock] at other ⊢
  split
  · exact absent
  rename_i named
  rw [if_neg named] at other
  dsimp only at other ⊢
  split
  · rename_i grown stored
    rw [stored] at other
    exact absent.delete.insert (other (by simp [Except.toOption])) stored
  · exact absent

theorem Absent.claimLease (other : candidate ≠ nodeID) :
    Absent nodeID (store.claimLease candidate token now).2 := by
  rw [Cluster.Store.claimLease]
  split
  · rename_i grown stored
    exact absent.delete.insert other stored
  · exact absent.delete

theorem Absent.electPrimary
    (other : (store.electPrimary candidate token now).1.toOption = some true → candidate ≠ nodeID) :
    Absent nodeID (store.electPrimary candidate token now).2 := by
  have claims : (store.claimLease candidate token now).1 = true :=
    (store.claimLease_eq candidate token now).1
  have contest : ∀ {outcome : Except Cluster.ClusterError Bool × Cluster.Store},
      outcome = (if store.lowestHealthyNode now ≠ "" ∧ store.lowestHealthyNode now ≠ candidate
        then (.ok false, store)
        else (.ok (store.claimLease candidate token now).1,
          (store.claimLease candidate token now).2)) →
      (outcome.1.toOption = some true → candidate ≠ nodeID) → Absent nodeID outcome.2 := by
    rintro outcome rfl other
    split
    · exact absent
    rename_i first
    rw [if_neg first, claims] at other
    exact absent.claimLease (other rfl)
  rw [Cluster.Store.electPrimary] at other ⊢
  split
  · exact absent
  rename_i named
  rw [if_neg named] at other
  dsimp only at other ⊢
  split
  · rename_i none
    rw [none] at other
    exact contest rfl other
  rename_i row stored
  rw [stored] at other
  dsimp only at other
  split
  · split
    · exact absent
    · exact absent.setExpiry
  rename_i lapsed
  rw [if_neg lapsed] at other
  exact contest rfl other

theorem Absent.control {stmt : ControlStmt Reply}
    (other : controlPresence stmt store ≠ some (.shown nodeID)) :
    Absent nodeID (stmt.execute store).2 := by
  cases stmt with
  | heartbeat =>
    refine absent.heartbeat fun some same => other ?_
    obtain ⟨_, ok⟩ := Option.ne_none_iff_exists'.mp some
    rw [controlPresence, ok, same]
    rfl
  | acquireLock =>
    refine absent.acquireLock fun some same => other ?_
    obtain ⟨_, ok⟩ := Option.ne_none_iff_exists'.mp some
    rw [controlPresence, ok, same]
    rfl
  | electPrimary =>
    refine absent.electPrimary fun won same => other ?_
    rw [controlPresence, if_pos won, same]
  | refresh lock ttl now =>
    change Absent nodeID { store with locks := (lock.refresh store.locks ttl now).2 }
    rw [Cluster.Lock.refresh]
    split
    · exact absent
    · exact absent.setExpiry
  | release => exact absent.delete
  | removeNode =>
    exact ⟨fun member listed => absent.members member (Table.mem_delete.mp listed).1,
      absent.delete.locks⟩

end

theorem absent_dropped {stmt : ControlStmt Reply}
    (noted : controlPresence stmt store = some (.dropped nodeID true)) :
    Absent nodeID (stmt.execute store).2 := by
  cases stmt with
  | heartbeat | acquireLock | electPrimary | refresh | release => simp [controlPresence] at noted
  | removeNode =>
    rw [controlPresence] at noted
    obtain ⟨rfl, clean⟩ := Presence.dropped.inj (Option.some.inj noted)
    refine ⟨fun member listed => ?_, fun row listed => ?_⟩
    · exact beq_eq_false_iff_ne.mp (Table.mem_delete.mp listed).2
    obtain ⟨stored, spared⟩ := Table.mem_delete.mp listed
    grind

def Stmt.controls {Reply : Type} : Stmt Reply → Bool
  | .control _ => true
  | _ => false

theorem cluster_kept (spares : stmt.controls = false) :
    (execute stmt realm).2.cluster = realm.cluster := by
  cases stmt with
  | tasks => rfl
  | control => cases spares
  | _ => exact tabular_part (·.cluster) rfl fun _ => rfl

theorem Absent.execute (absent : Absent nodeID realm.cluster)
    (other : present stmt realm ≠ some (.shown nodeID)) :
    Absent nodeID (execute stmt realm).2.cluster := by
  cases stmt with
  | control stmt =>
    change Absent nodeID (realm.write _ _).2.cluster
    rw [write_realm]
    split
    · rename_i carried
      exact absent.control fun noted => other ((if_pos carried).trans noted)
    · exact absent
  | _ =>
    rw [cluster_kept rfl]
    exact absent

theorem absent_execute (noted : present stmt realm = some (.dropped nodeID true)) :
    Absent nodeID (execute stmt realm).2.cluster := by
  cases stmt with
  | control stmt =>
    obtain ⟨carried, noted⟩ := Option.ite_none_right_eq_some.mp noted
    change Absent nodeID (realm.write _ _).2.cluster
    rw [write_realm, if_pos carried]
    exact absent_dropped noted
  | updateNode change =>
    simp_all [present]
  | _ => cases noted

theorem removed_listed {role : Nodes.Role}
    (noted : present stmt realm = some (.removed nodeID role)) :
    ∃ row ∈ realm.tables.nodes.rows, row.id = nodeID ∧ row.role = role := by
  cases stmt with
  | control stmt =>
    obtain ⟨_, noted⟩ := Option.ite_none_right_eq_some.mp noted
    cases stmt <;> simp [controlPresence] at noted
  | updateNode change =>
    obtain ⟨_, found⟩ := Option.ite_none_right_eq_some.mp noted
    obtain ⟨row, stored, same⟩ := Option.map_eq_some_iff.mp found
    cases same
    exact ⟨row, (Table.find_mem stored).1, rfl, rfl⟩
  | _ => cases noted

structure Vanished (events : List Presence) (realm : Realm) : Prop where
  dropped : ∀ nodeID, latest (affects nodeID) events = some (.dropped nodeID true) →
    Absent nodeID realm.cluster
  removed : ∀ nodeID, .removed nodeID .cluster ∈ events → Absent nodeID realm.cluster

theorem Vanished.execute {events : List Presence} (vanished : Vanished events realm)
    (stmt : Stmt Reply)
    (fits : ∀ event, present stmt realm = some event → ∃ call, LeavesForGood call events event) :
    Vanished (events ++ (present stmt realm).toList) (execute stmt realm).2 := by
  constructor
  · intro nodeID last
    obtain noted | ⟨last, unaffected⟩ := latest_append_cases last
    · exact absent_execute noted
    · exact (vanished.dropped nodeID last).execute (unaffected _ (beq_self_eq_true nodeID))
  · intro nodeID listed
    rcases List.mem_append.mp listed with before | new
    · refine (vanished.removed nodeID before).execute fun shown => ?_
      obtain ⟨_, never⟩ := fits _ shown
      exact never before
    -- it was dropped before, and nothing of it was taken in since
    have noted := Option.mem_toList.mp new
    obtain ⟨_, last⟩ := fits _ noted
    refine (vanished.dropped nodeID (last rfl)).execute fun shown => ?_
    rw [noted] at shown
    cases shown

def Removes (call : Call) (answer : Except RegistryError Answer) (told : List Presence) : Prop :=
  ∀ req value, call = .remove req → answer = .ok value → ∃ role, .removed req.nodeID role ∈ told

theorem remove_removes (req : RemoveRequest) (told : List Presence) (realm : Realm) :
    (remove req).Tells present registry.rely
      (fun answer told _ => ∀ node, answer = .ok node → ∃ role, .removed req.nodeID role ∈ told)
      told realm := by
  refine remove_tells unanswered fun told later => transition_tells unanswered ?_
  intro _ told last clean changedAt version row id found carried _ _
  have noted : present (.updateNode (.state .removed clean changedAt) req.nodeID (some version))
      last = some (.removed req.nodeID row.role) := by
    change (if _ then _ else none) = _
    rw [if_pos ⟨carried, rfl⟩, found, Option.map_some, id]
  rw [noted]
  exact ⟨row.role, List.mem_append_right _ List.mem_cons_self⟩

theorem serve_removes (json : Nodes.Json) (setup : Setup) (call : Call) (realm : Realm) :
    (call.serve json setup).Tells present registry.rely
      (fun answer told _ => Removes call answer told) [] realm := by
  cases call with
  | remove req =>
    refine (answering_tells (remove_removes req [] realm)).imp fun answer told _ removed => ?_
    rintro _ value ⟨⟩ ok
    obtain ⟨node, _, listed⟩ := removed value ok
    exact listed
  | _ => exact (tells_true _ _ _).imp fun _ _ _ _ _ _ same => nomatch same

structure Dismissed (fleet : Fleet Presence) : Prop where
  sound : fleet.Sound present fun call answer told _ => Removes call answer told
  vanished : Vanished fleet.events fleet.state
  roles : ∀ nodeID role, .removed nodeID role ∈ fleet.events →
    ∃ row ∈ fleet.state.tables.nodes.rows, row.id = nodeID ∧ row.role = role

theorem Dismissed.take {json : Nodes.Json} {setup : Setup} (happening : Happening)
    (dismissed : Dismissed fleet) (fits : fleet.Fits present LeavesForGood happening) :
    Dismissed (fleet.take present json setup happening) := by
  obtain ⟨sound, evolve⟩ := Fleet.Sound.take (serve_removes json setup)
    (fun _ _ _ _ _ removes _ => removes) dismissed.sound happening
  refine ⟨sound, ?_, fun nodeID role listed => ?_⟩
  · exact dismissed.sound.kept_take (fun stmt _ _ vanished allowed => vanished.execute stmt allowed)
      (fun _ _ _ _ _ vanished => ⟨vanished.dropped, vanished.removed⟩) dismissed.vanished fits
  have stays : ∀ row ∈ fleet.state.tables.nodes.rows, row.id = nodeID → row.role = role →
      ∃ next ∈ (fleet.take present json setup happening).state.tables.nodes.rows,
        next.id = nodeID ∧ next.role = role := by
    rintro row there rfl rfl
    obtain ⟨next, present, follows⟩ := evolve row there
    exact ⟨next, present, follows.id, follows.role⟩
  obtain ⟨events, _⟩ | ⟨Reply, stmt, events, _⟩ :=
    Fleet.take_cases present json setup happening fleet
  · rw [events] at listed
    obtain ⟨row, there, id, same⟩ := dismissed.roles nodeID role listed
    exact stays row there id same
  rw [events] at listed
  rcases List.mem_append.mp listed with before | new
  · obtain ⟨row, there, id, same⟩ := dismissed.roles nodeID role before
    exact stays row there id same
  · obtain ⟨row, there, id, same⟩ := removed_listed (Option.mem_toList.mp new)
    exact stays row there id same

theorem Dismissed.staysAway (dismissed : Dismissed fleet) : StaysAway fleet := by
  intro thread req answer called answered row there id clustered
  obtain ⟨role, removed⟩ := dismissed.sound.answered called answered req answer rfl rfl
  have listed : .removed req.nodeID role ∈ fleet.events :=
    List.mem_map.mpr ⟨_, Docket.mem_eventsOf.mp removed, rfl⟩
  obtain ⟨other, also, same, stored⟩ := dismissed.roles _ _ listed
  rw [Table.eq_of_column List.mem_cons_self also there (same.trans id.symm), clustered] at stored
  rw [← stored] at listed
  have absent := dismissed.vanished.removed _ listed
  refine ⟨absent.members, fun lock held owned => absurd owned (absent.locks lock held), ?_⟩
  intro primary
  rw [Cluster.Store.primaryID] at primary
  split at primary
  · cases primary
  rename_i lease found
  split at primary
  · cases primary
  · exact absent.locks lease (Table.find_mem found).1 (Option.some.inj primary)

/-- If a cluster node holds no other lock when it is dropped, and the control plane takes in
nothing for it from then on, then it is gone from the control plane once it is removed. -/
theorem removed_stays_away (json : Nodes.Json) (setup : Setup) (clock : Clock)
    (happenings : List Happening)
    (leaves : Every (Fleet.take present json setup) (Fleet.Fits present LeavesForGood)
      (Fleet.opened clock) happenings) :
    StaysAway (lastState (Fleet.take present json setup) (Fleet.opened clock) happenings) := by
  have dismissed : Dismissed (lastState (Fleet.take present json setup) (Fleet.opened clock)
      happenings) := by
    refine lastState_of_invariant Dismissed ⟨Fleet.sound_opened clock, ?_, ?_⟩ leaves
      fun happening fleet dismissed fits => dismissed.take happening fits
    · exact ⟨fun _ last => (nomatch last), fun _ listed => (nomatch listed)⟩
    · exact fun _ _ listed => nomatch listed
  exact dismissed.staysAway

theorem removed_primary_is_gone :
    let happenings := Sample.joining .cluster ++
      Sample.calling 2 (.heartbeat ⟨"edge-1"⟩ ⟨"", "10.0.0.1", "1.0", "", {}, 0⟩) 2 ++
      Sample.calling 3 (.electPrimary ⟨"edge-1"⟩ "lease-1") 2 ++
      Sample.calling 4 (.remove ⟨"edge-1", true, "retired"⟩) 9
    let fleet := lastState (Fleet.take present Sample.json Sample.setup)
      (Fleet.opened Sample.clock) happenings
    Every (Fleet.take present Sample.json Sample.setup) (Fleet.Fits present LeavesForGood)
        (Fleet.opened Sample.clock) happenings ∧
      fleet.state.tables.nodes.rows.map (fun row => (row.role, row.state)) =
        [(.cluster, .removed)] ∧ StaysAway fleet := by
  intro happenings fleet
  have leaves : Every (Fleet.take present Sample.json Sample.setup)
      (Fleet.Fits present LeavesForGood) (Fleet.opened Sample.clock) happenings := by
    decide +kernel
  exact ⟨leaves, by decide +kernel, removed_stays_away _ _ _ happenings leaves⟩

/-- The node was handed its handle before it is removed. One heartbeat through the handle, and the
node is a member again. -/
theorem heartbeat_revives_removed :
    let happenings := Sample.joining .cluster ++
      Sample.calling 2 (.controlPlane "edge-1") 1 ++
      Sample.calling 3 (.remove ⟨"edge-1", true, "retired"⟩) 9 ++
      Sample.calling 4 (.heartbeat ⟨"edge-1"⟩ ⟨"", "10.0.0.1", "1.0", "", {}, 0⟩) 2
    let fleet := lastState (Fleet.take present Sample.json Sample.setup)
      (Fleet.opened Sample.clock) happenings
    (fleet.answer 2).any Except.isOk = true ∧
      fleet.state.tables.nodes.rows.map (fun row => (row.id, row.role, row.state)) =
        [("edge-1", .cluster, .removed)] ∧
      fleet.state.cluster.nodes.rows.map (·.nodeID) = ["edge-1"] ∧ ¬ StaysAway fleet := by
  intro happenings fleet
  have ended : (fleet.answer 3).any Except.isOk = true := by decide +kernel
  have rows : fleet.state.tables.nodes.rows.map (fun row => (row.id, row.role, row.state)) =
      [("edge-1", .cluster, .removed)] := by decide +kernel
  have members : fleet.state.cluster.nodes.rows.map (·.nodeID) = ["edge-1"] := by decide +kernel
  refine ⟨by decide +kernel, rows, members, fun staysAway => ?_⟩
  obtain ⟨answer, answered, succeeded⟩ := (Option.any_eq_true _ _).mp ended
  cases answer with
  | error => cases succeeded
  | ok answer => ?_
  have listed : ("edge-1", Nodes.Role.cluster, State.removed) ∈
      fleet.state.tables.nodes.rows.map fun row => (row.id, row.role, row.state) := by
    rw [rows]
    exact List.mem_cons_self
  obtain ⟨row, stored, same⟩ := List.mem_map.mp listed
  have away := (staysAway 3 ⟨"edge-1", true, "retired"⟩ answer rfl answered row stored
    (congrArg Prod.fst same) (congrArg (·.2.1) same)).1
  have back : "edge-1" ∈ fleet.state.cluster.nodes.rows.map (·.nodeID) := by
    rw [members]
    exact List.mem_cons_self
  obtain ⟨member, there, named⟩ := List.mem_map.mp back
  exact away member there named

end Cashp.Registry
