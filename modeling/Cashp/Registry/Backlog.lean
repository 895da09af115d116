import Cashp.Kit.Hindsight
import Cashp.Nodes.Dispatch
import Cashp.Registry.Rows

/-!
The backlog of nodes that are drained or removed. Both withdraw what is queued once, before they
move the node; what is queued afterwards stays there.
-/

namespace Cashp.Registry

open Kit Kit.Program
open Nodes (State TaskRow TaskUpdate Tasks)

/-- A node is moved to a state, its backlog is withdrawn, or a task is queued for it, with whether
the node was shut at that moment. -/
inductive Shift
  | moved (nodeID : String) (target : State)
  | withdrawn (nodeID : String)
  | queued (nodeID : String) (late : Bool)
deriving DecidableEq

def shuts (state : State) : Bool := state == .drained || state == .removed

def NodeTable.shut (nodes : NodeTable) (nodeID : String) : Bool :=
  nodes.rows.any fun row => row.id == nodeID && shuts row.state

def NodeUpdate.target : NodeUpdate → Option State
  | .state target _ _ => some target
  | .rejoin .. => some .enrolled
  | _ => none

def requeues : TaskUpdate → Bool
  | .requeue .. => true
  | _ => false

def queueShift {Reply : Type} : Nodes.Stmt Reply → Realm → Option Shift
  | .withdraw _ _ nodeID, _ => some (.withdrawn nodeID)
  | .insertTask row, realm =>
    if row.state = .queued ∧ (realm.tasks.insert row).isSome then
      some (.queued row.nodeID (realm.tables.nodes.shut row.nodeID))
    else none
  | .update change id version, realm =>
    if requeues change then
      (realm.tasks.find (change.selects id version)).map fun row =>
        .queued row.nodeID (realm.tables.nodes.shut row.nodeID)
    else none
  | _, _ => none

def shifted {Reply : Type} : Stmt Reply → Realm → Option Shift
  | .tasks stmt, realm => if realm.commits then queueShift stmt realm else none
  | .updateNode change id version, realm =>
    if realm.commits then
      (realm.tables.nodes.find (selectsNode id version)).bind fun row =>
        change.target.map (.moved row.id)
    else none
  | .enroll job, realm => (realm.redeems job).map fun result => .moved result.1.id .enrolled
  | _, _ => none

def Call.closes : Call → Option String
  | .drain nodeID _ => some nodeID
  | .remove req => some req.nodeID
  | _ => none

def moves (nodeID : String) : Shift → Bool
  | .moved other _ => other == nodeID
  | _ => false

def fills (nodeID : String) : Shift → Bool
  | .withdrawn other => other == nodeID
  | .queued other _ => other == nodeID
  | _ => false

def closing (thread : Nat) (nodeID : String) (item : Nat × Shift) : Bool :=
  item.1 == thread && match item.2 with
    | .moved other target => other == nodeID && shuts target
    | _ => false

def reopening (nodeID : String) (item : Nat × Shift) : Bool :=
  match item.2 with
  | .moved other target => other == nodeID && !shuts target
  | _ => false

def shutBy (thread : Nat) (nodeID : String) (log : List (Nat × Shift)) : Bool :=
  since (closing thread nodeID) (reopening nodeID) log

def Idle (nodeID : String) (tasks : Tasks) : Prop :=
  ∀ row ∈ tasks.rows, row.nodeID = nodeID → row.state ≠ .queued

/-- A drain or a removal that succeeds has shut its node, and nothing is queued for the node as
long as it stays so. -/
def StaysIdle (fleet : Fleet Shift) : Prop :=
  ∀ thread call nodeID answer, fleet.calls[thread]? = some call → call.closes = some nodeID →
    fleet.answer thread = some (.ok answer) →
      (∃ target, shuts target = true ∧ (thread, .moved nodeID target) ∈ fleet.log) ∧
        (shutBy thread nodeID fleet.log = true → Idle nodeID fleet.state.tasks)

/-- Nothing is queued for a node that is shut, and when a call shuts its node, nothing has been
queued for it since the backlog was withdrawn. -/
def NothingLate (call : Call) (events : List Shift) : Shift → Prop
  | .queued _ late => late = false
  | .moved nodeID _ =>
    call.closes = some nodeID → latest (fills nodeID) events = some (.withdrawn nodeID)
  | .withdrawn _ => True

instance (call : Call) (events : List Shift) (shift : Shift) :
    Decidable (NothingLate call events shift) := by
  unfold NothingLate
  split <;> infer_instance

variable {realm : Realm} {Reply : Type} {nodeID : String} {tasks : Tasks}
variable {stmt : Stmt Reply} {shift : Shift} {now : Int} {token : EnrollmentToken} {node : Node}
variable {change : NodeUpdate} {fleet : Fleet Shift}

def taskEffect {Reply : Type} : Nodes.Stmt Reply → Tasks → Tasks
  | .insertTask row, tasks => (tasks.insert row).getD tasks
  | .update change id version, tasks => change.assign id version tasks
  | .withdraw finishedAt error nodeID, tasks => Nodes.withdrawQueued finishedAt error nodeID tasks
  | _, tasks => tasks

theorem tasks_effect (stmt : Nodes.Stmt Reply) (realm : Realm) :
    (execute (Stmt.tasks stmt) realm).2.tasks =
      if realm.commits then taskEffect stmt realm.tasks else realm.tasks := by
  have asked : ∀ {Value : Type} (reply : Value),
      (realm.world.ask reply).2.tasks = if realm.commits then realm.tasks else realm.tasks := by
    intro Value reply
    rw [Nodes.ask_world, ite_self]
    rfl
  change (stmt.execute realm.world).2.tasks = _
  cases stmt with
  | clock | action => exact (ite_self _).symm
  | register entry =>
    have same : (Nodes.Stmt.execute (.register entry) realm.world).2.tasks = realm.tasks := by
      rw [Nodes.Stmt.execute]
      split <;> rfl
    exact same.trans (ite_self _).symm
  | node | claimable | overdue | task | taskOf => exact asked _
  | insertTask row =>
    change _ = if realm.commits then (realm.world.tasks.insert row).getD realm.tasks
      else realm.tasks
    rw [Nodes.Stmt.execute]
    cases realm.world.tasks.insert row with
    | none => exact (ite_self _).symm
    | some => exact Nodes.write_tasks _ _ _
  | update | withdraw => exact Nodes.write_tasks _ _ _

theorem idle_withdraw (finishedAt : Int) (error nodeID : String) (tasks : Tasks) :
    Idle nodeID (Nodes.withdrawQueued finishedAt error nodeID tasks) := by
  intro row listed same queued
  obtain ⟨old, _, rfl⟩ := Table.mem_update.mp listed
  grind [Table.assignWhere, Nodes.withdrawn]

theorem apply_queued {change : TaskUpdate} {row : TaskRow}
    (queued : (change.apply row).state = .queued) : requeues change = true := by
  cases change with
  | requeue => rfl
  | _ => cases queued

theorem idle_effect {stmt : Nodes.Stmt Reply} (idle : Idle nodeID realm.tasks)
    (other : ∀ late, queueShift stmt realm ≠ some (.queued nodeID late)) :
    Idle nodeID (taskEffect stmt realm.tasks) := by
  cases stmt with
  | insertTask row =>
    intro task listed same queued
    rw [taskEffect] at listed
    grind [Idle, queueShift, Table.insert]
  | update change id version =>
    intro task listed same queued
    rcases Table.mem_of_assigned listed with before | ⟨old, stored, hit, rfl⟩
    · exact idle task before same queued
    have found : realm.tasks.find (change.selects id version) = some old :=
      Table.find_unique List.mem_cons_self stored hit fun another selected =>
        (Nodes.selects_iff.mp selected).1.trans (Nodes.selects_iff.mp hit).1.symm
    have owner : (change.apply old).nodeID = old.nodeID := by cases change <;> rfl
    refine other (realm.tables.nodes.shut old.nodeID) ?_
    rw [queueShift, if_pos (apply_queued queued), found, Option.map_some, ← same, owner]
  | withdraw =>
    intro task listed same queued
    rcases Table.mem_of_assigned listed with before | ⟨old, stored, hit, rfl⟩
    · exact idle task before same queued
    · cases queued
  | _ => exact idle

def Stmt.writesTasks {Reply : Type} : Stmt Reply → Bool
  | .tasks _ => true
  | _ => false

theorem tasks_kept (spares : stmt.writesTasks = false) :
    (execute stmt realm).2.tasks = realm.tasks := by
  cases stmt with
  | tasks => cases spares
  | control => exact write_part (·.tasks) rfl
  | _ => exact tabular_part (·.tasks) rfl fun _ => rfl

theorem idle_execute (idle : Idle nodeID realm.tasks)
    (other : ∀ late, shifted stmt realm ≠ some (.queued nodeID late)) :
    Idle nodeID (execute stmt realm).2.tasks := by
  cases stmt with
  | tasks stmt =>
    rw [tasks_effect]
    split
    · rename_i carried
      exact idle_effect idle fun late noted => other late ((if_pos carried).trans noted)
    · exact idle
  | _ =>
    rw [tasks_kept rfl]
    exact idle

theorem queueShift_cases {stmt : Nodes.Stmt Reply} (noted : queueShift stmt realm = some shift) :
    (∃ nodeID, shift = .queued nodeID (realm.tables.nodes.shut nodeID)) ∨
      ∃ nodeID, shift = .withdrawn nodeID ∧ Idle nodeID (taskEffect stmt realm.tasks) := by
  cases stmt with
  | withdraw finishedAt error nodeID =>
    cases noted
    exact .inr ⟨nodeID, rfl, idle_withdraw _ _ _ _⟩
  | insertTask =>
    obtain ⟨_, same⟩ := Option.ite_none_right_eq_some.mp noted
    exact .inl ⟨_, (Option.some.inj same).symm⟩
  | update =>
    obtain ⟨_, found⟩ := Option.ite_none_right_eq_some.mp noted
    obtain ⟨_, _, same⟩ := Option.map_eq_some_iff.mp found
    exact .inl ⟨_, same.symm⟩
  | _ => cases noted

theorem shifted_cases (noted : shifted stmt realm = some shift) :
    (∃ nodeID target, shift = .moved nodeID target ∧ stmt.writesNodes = true) ∨
    (∃ nodeID, shift = .queued nodeID (realm.tables.nodes.shut nodeID)) ∨
      ∃ nodeID, shift = .withdrawn nodeID ∧ Idle nodeID (execute stmt realm).2.tasks := by
  cases stmt with
  | tasks stmt =>
    obtain ⟨carried, noted⟩ := Option.ite_none_right_eq_some.mp noted
    rw [tasks_effect, if_pos carried]
    exact .inr (queueShift_cases noted)
  | updateNode change =>
    obtain ⟨_, found⟩ := Option.ite_none_right_eq_some.mp noted
    obtain ⟨_, _, moved⟩ := Option.bind_eq_some_iff.mp found
    obtain ⟨_, _, same⟩ := Option.map_eq_some_iff.mp moved
    exact .inl ⟨_, _, same.symm, rfl⟩
  | enroll =>
    obtain ⟨_, _, same⟩ := Option.map_eq_some_iff.mp noted
    exact .inl ⟨_, _, same.symm, rfl⟩
  | _ => cases noted

theorem idle_withdrawn (noted : shifted stmt realm = some (.withdrawn nodeID)) :
    Idle nodeID (execute stmt realm).2.tasks := by
  obtain ⟨_, _, same, _⟩ | ⟨_, same⟩ | ⟨_, same, idle⟩ := shifted_cases noted
  · cases same
  · cases same
  · cases same
    exact idle

theorem queued_late {late : Bool} (noted : shifted stmt realm = some (.queued nodeID late)) :
    late = realm.tables.nodes.shut nodeID := by
  obtain ⟨_, _, same, _⟩ | ⟨_, same⟩ | ⟨_, same, _⟩ := shifted_cases noted
  · cases same
  · cases same
    rfl
  · cases same

variable {nodes : NodeTable} {target : State} {row : NodeRow}

theorem Joined.enrolled {after : NodeTable} (joined : Joined now token nodes after node) :
    ∃ row ∈ after.rows, row.id = node.id ∧ row.state = .enrolled := by
  cases joined with
  | rejoin row name address agentVersion bound listed same allowed written id =>
    have hit : selectsNode row.id (some row.version) row = true :=
      selectsNode_some.mpr ⟨rfl, rfl⟩
    refine ⟨(NodeUpdate.rejoin name address agentVersion (Nodes.unixOf now)).apply row, ?_,
      id.symm, rfl⟩
    rw [written]
    exact Table.mem_update.mpr ⟨row, listed, Table.assignWhere_of hit⟩
  | create row free inserted state id =>
    refine ⟨row, ?_, id.symm, state⟩
    rw [Table.insert_rows inserted]
    exact List.mem_append_right _ List.mem_cons_self

theorem Joined.others {after : NodeTable}
    (joined : Joined now token nodes after node) (listed : row ∈ nodes.rows)
    (other : row.id ≠ node.id) : row ∈ after.rows := by
  cases joined with
  | rejoin found name address agentVersion bound there same allowed written id =>
    have missed : selectsNode found.id (some found.version) row = false :=
      Bool.eq_false_iff.mpr fun hit => other ((selectsNode_id hit).trans id.symm)
    rw [written]
    exact Table.mem_update.mpr ⟨row, listed, Table.assignWhere_not missed⟩
  | create added free inserted =>
    rw [Table.insert_rows inserted]
    exact List.mem_append_left _ listed

theorem target_state (moves : change.target = some target) : (change.apply row).state = target := by
  cases change with
  | state | rejoin => exact Option.some.inj moves
  | _ => cases moves

theorem target_none (stays : change.target = none) : (change.apply row).state = row.state := by
  cases change with
  | flags | contact => rfl
  | _ => cases stays

theorem shifted_updateNode_eq (change : NodeUpdate) (id : String) (version : Option Int) :
    shifted (.updateNode change id version) realm =
      if realm.commits then
        (realm.tables.nodes.find (selectsNode id version)).bind fun row =>
          change.target.map (.moved row.id)
      else none := rfl

theorem moved_execute (noted : shifted stmt realm = some (.moved nodeID target)) :
    ∃ row ∈ (execute stmt realm).2.tables.nodes.rows, row.id = nodeID ∧ row.state = target := by
  obtain ⟨_, _, _, writes⟩ | ⟨_, same⟩ | ⟨_, same, _⟩ := shifted_cases noted
  rotate_left
  · cases same
  · cases same
  cases stmt with
  | updateNode change id version =>
    obtain ⟨carried, noted⟩ := Option.ite_none_right_eq_some.mp noted
    rw [updateNode_nodes, if_pos carried]
    obtain ⟨row, found, moved⟩ := Option.bind_eq_some_iff.mp noted
    obtain ⟨_, goes, same⟩ := Option.map_eq_some_iff.mp moved
    cases same
    obtain ⟨listed, hit⟩ := Table.find_mem found
    exact ⟨change.apply row, Table.mem_update.mpr ⟨row, listed, Table.assignWhere_of hit⟩,
      change.apply_id row, target_state goes⟩
  | enroll job =>
    obtain ⟨result, redeems, same⟩ := Option.map_eq_some_iff.mp noted
    cases same
    obtain ⟨fails, _⟩ | ⟨node, secret, tables, token, credential, redeemed, after, facts⟩ :=
      enroll_cases job realm
    · rw [redeems] at fails
      cases fails
    rw [redeems] at redeemed
    cases redeemed
    rw [after]
    exact facts.joined.enrolled
  | _ => cases writes

theorem still_execute (listed : row ∈ realm.tables.nodes.rows)
    (other : ∀ target, shifted stmt realm ≠ some (.moved row.id target)) :
    ∃ next ∈ (execute stmt realm).2.tables.nodes.rows,
      next.id = row.id ∧ next.state = row.state := by
  cases writes : stmt.writesNodes with
  | false =>
    rw [nodes_kept writes]
    exact ⟨row, listed, rfl, rfl⟩
  | true =>
    cases stmt with
    | updateNode change id version =>
      rw [updateNode_nodes]
      split
      · rename_i carried
        refine ⟨_, Table.mem_update.mpr ⟨row, listed, rfl⟩, ?_⟩
        by_cases hit : selectsNode id version row = true
        · rw [Table.assignWhere_of hit]
          refine ⟨change.apply_id row, ?_⟩
          cases goes : change.target with
          | none => exact target_none goes
          | some target =>
            refine absurd ?_ (other target)
            rw [shifted_updateNode_eq, if_pos carried, find_selectsNode listed hit, goes]
            rfl
        · rw [Table.assignWhere_not ((Bool.not_eq_true _).mp hit)]
          exact ⟨rfl, rfl⟩
      · exact ⟨row, listed, rfl, rfl⟩
    | enroll job =>
      obtain ⟨_, same⟩ | ⟨node, secret, tables, token, credential, redeems, after, redeemed⟩ :=
        enroll_cases job realm
      · rw [same]
        exact ⟨row, listed, rfl, rfl⟩
      rw [after]
      refine ⟨row, redeemed.joined.others listed fun same => ?_, rfl, rfl⟩
      refine other .enrolled ?_
      change (realm.redeems job).map _ = _
      rw [redeems, same]
      rfl
    | _ => cases writes

structure Kept (events : List Shift) (realm : Realm) : Prop where
  placed : ∀ nodeID target, latest (moves nodeID) events = some (.moved nodeID target) →
    ∃ row ∈ realm.tables.nodes.rows, row.id = nodeID ∧ row.state = target
  emptied : ∀ nodeID, latest (fills nodeID) events = some (.withdrawn nodeID) →
    Idle nodeID realm.tasks

theorem moves_iff : moves nodeID shift = true ↔ ∃ target, shift = .moved nodeID target := by
  cases shift with
  | moved | _ => simp [moves]

theorem Kept.execute {events : List Shift} (kept : Kept events realm) (stmt : Stmt Reply) :
    Kept (events ++ (shifted stmt realm).toList) (execute stmt realm).2 := by
  constructor
  · intro nodeID target last
    obtain noted | ⟨last, unmoved⟩ := latest_append_cases last
    · exact moved_execute noted
    · obtain ⟨row, listed, rfl, rfl⟩ := kept.placed nodeID target last
      exact still_execute listed fun target => unmoved _ (moves_iff.mpr ⟨target, rfl⟩)
  · intro nodeID last
    obtain noted | ⟨last, unfilled⟩ := latest_append_cases last
    · exact idle_withdrawn noted
    · exact idle_execute (kept.emptied nodeID last) fun late =>
        unfilled _ (beq_self_eq_true nodeID)

variable {told : List Shift}

def Shuts (call : Call) (answer : Except RegistryError Answer) (told : List Shift) : Prop :=
  ∀ nodeID value, call.closes = some nodeID → answer = .ok value →
    ∃ target, shuts target = true ∧ .moved nodeID target ∈ told

abbrev Service.Moves {Value : Type} (nodeID : String) (target : State) (program : Service Value)
    (told : List Shift) (realm : Realm) : Prop :=
  program.Tells shifted registry.rely
    (fun answer told _ => ∀ value, answer = .ok value → .moved nodeID target ∈ told) told realm

theorem transition_moves (nodeID : String) (target : State) (reason : String) :
    (transition nodeID target reason).Moves nodeID target told realm := by
  refine transition_tells unanswered ?_
  intro node told last clean changedAt version row id found carried _ _
  rw [shifted_updateNode_eq, if_pos carried, found, Option.bind_some, id]
  exact List.mem_append_right _ List.mem_cons_self

theorem moves_then {Value Result : Type} {program : Service Value} {wrap : Value → Result}
    (first : program.Moves nodeID target told realm) :
    Service.Moves nodeID target (do let value ← program; pure (wrap value)) told realm := by
  refine under_bind (first.imp fun answer told later moved => ?_)
  cases answer with
  | ok value => exact fun _ _ => moved value rfl
  | error => exact fun _ same => nomatch same

theorem drain_moves (nodeID reason : String) :
    (drain nodeID reason).Moves nodeID .drained told realm := by
  refine tells_after unanswered fun node told later => ?_
  refine tells_after unanswered fun _ told later => ?_
  refine tells_after unanswered fun _ told later => ?_
  refine tells_after unanswered fun cancelled told later => ?_
  exact moves_then (transition_moves nodeID .drained reason)

theorem remove_moves (req : RemoveRequest) : (remove req).Moves req.nodeID .removed told realm :=
  remove_tells unanswered fun _ _ => transition_moves req.nodeID .removed req.reason

theorem serve_shuts (json : Nodes.Json) (setup : Setup) (call : Call) (realm : Realm) :
    (call.serve json setup).Tells shifted registry.rely
      (fun answer told _ => Shuts call answer told) [] realm := by
  cases call with
  | drain nodeID reason =>
    refine (moves_then (drain_moves nodeID reason)).imp fun answer told _ moved => ?_
    rintro _ value ⟨⟩ ok
    exact ⟨.drained, rfl, moved value ok⟩
  | remove req =>
    refine (moves_then (remove_moves req)).imp fun answer told _ moved => ?_
    rintro _ value ⟨⟩ ok
    exact ⟨.removed, rfl, moved value ok⟩
  | _ => exact (tells_true _ _ _).imp fun _ _ _ _ _ _ closes => nomatch closes

variable {thread : Nat} {log : List (Nat × Shift)}

theorem closing_iff {item : Nat × Shift} : closing thread nodeID item = true ↔
    ∃ target, item = (thread, .moved nodeID target) ∧ shuts target = true := by
  grind [closing]

theorem shutBy_listed (shut : shutBy thread nodeID log = true) :
    ∃ target, (thread, .moved nodeID target) ∈ log := by
  obtain ⟨item, listed, marked⟩ := since_mem shut
  obtain ⟨target, rfl, _⟩ := closing_iff.mp marked
  exact ⟨target, listed⟩

theorem shutBy_latest (shut : shutBy thread nodeID log = true) :
    ∃ target, latest (moves nodeID) (log.map Prod.snd) = some (.moved nodeID target) ∧
      shuts target = true := by
  induction log using List.reverseRecOn with
  | nil => cases shut
  | append_singleton front item ih =>
    rw [shutBy, since_concat, Bool.or_eq_true, Bool.and_eq_true, Bool.not_eq_true'] at shut
    rw [List.map_append, List.map_singleton, latest_concat]
    rcases shut with marked | ⟨before, spared⟩
    · obtain ⟨target, rfl, shut⟩ := closing_iff.mp marked
      exact ⟨target, if_pos (beq_self_eq_true nodeID), shut⟩
    cases moved : moves nodeID item.2 with
    | false => exact ih before
    | true =>
      obtain ⟨target, same⟩ := moves_iff.mp moved
      refine ⟨target, congrArg some same, ?_⟩
      simpa [reopening, same] using spared

structure Guarded (fleet : Fleet Shift) : Prop where
  sound : fleet.Sound shifted fun call answer told _ => Shuts call answer told
  kept : Kept fleet.events fleet.state
  idle : ∀ thread call nodeID, fleet.calls[thread]? = some call → call.closes = some nodeID →
    shutBy thread nodeID fleet.log = true → Idle nodeID fleet.state.tasks

theorem Guarded.staysIdle (guarded : Guarded fleet) : StaysIdle fleet := by
  intro thread call nodeID answer called closes answered
  obtain ⟨target, shut, moved⟩ := guarded.sound.answered called answered nodeID answer closes rfl
  exact ⟨⟨target, shut, Docket.mem_eventsOf.mp moved⟩,
    guarded.idle thread call nodeID called closes⟩

theorem Guarded.idle_after (guarded : Guarded fleet) {mover : Nat} {Reply : Type}
    {command : Stmt Reply} {call closer : Call} {nodeID : String}
    (moving : fleet.calls[mover]? = some call)
    (fits : ∀ shift, shifted command fleet.state = some shift →
      NothingLate call fleet.events shift) (called : fleet.calls[thread]? = some closer)
    (closes : closer.closes = some nodeID) (shut : shutBy thread nodeID
      (fleet.log ++ (shifted command fleet.state).toList.map (Prod.mk mover)) = true) :
    Idle nodeID (execute command fleet.state).2.tasks := by
  rw [← Option.toList_map] at shut
  rcases since_append shut with ⟨item, noted, marked⟩ | ⟨before, _⟩
  · -- the call that shuts the node has withdrawn its backlog just before
    obtain ⟨shift, wrote, rfl⟩ := Option.map_eq_some_iff.mp noted
    obtain ⟨target, same, _⟩ := closing_iff.mp marked
    cases same
    rw [moving] at called
    cases called
    refine idle_execute (guarded.kept.emptied nodeID (fits _ wrote closes)) fun late queued => ?_
    rw [wrote] at queued
    cases queued
  · refine idle_execute (guarded.idle thread closer nodeID called closes before)
      fun late queued => ?_
    have inTime : late = false := fits _ queued
    obtain ⟨target, last, shuts⟩ := shutBy_latest before
    obtain ⟨row, listed, same, there⟩ := guarded.kept.placed nodeID target last
    have shut : fleet.state.tables.nodes.shut nodeID = true :=
      List.any_eq_true.mpr ⟨row, listed, by rw [same, there, shuts, beq_self_eq_true]; rfl⟩
    rw [queued_late queued, shut] at inTime
    cases inTime

theorem Guarded.take {json : Nodes.Json} {setup : Setup} (happening : Happening)
    (guarded : Guarded fleet) (fits : fleet.Fits shifted NothingLate happening) :
    Guarded (fleet.take shifted json setup happening) := by
  refine ⟨(Fleet.Sound.take (serve_shuts json setup) (fun _ _ _ _ _ shuts _ => shuts)
    guarded.sound happening).1, Fleet.kept_take (fun stmt _ _ kept => kept.execute stmt)
      (fun _ _ _ _ _ kept => ⟨kept.placed, kept.emptied⟩) guarded.kept happening, ?_⟩
  intro thread closer nodeID called closes shut
  cases happening with
  | call request =>
    refine guarded.idle thread closer nodeID ?_ closes shut
    obtain ⟨target, listed⟩ := shutBy_listed shut
    have inside : thread < fleet.calls.length := by
      rw [guarded.sound.served]
      exact guarded.sound.chronicle.listed _ listed
    rwa [show (fleet.take shifted json setup (.call request)).calls = fleet.calls ++ [request]
      from rfl, List.getElem?_append_left inside] at called
  | advance mover =>
    obtain same | ⟨Reply, command, rest, there, after⟩ :=
      Docket.advance_cases fleet shifted (Call.serve json setup) mover
    · rw [show fleet.take shifted json setup (.advance mover) = fleet from same] at called shut ⊢
      exact guarded.idle thread closer nodeID called closes shut
    rw [show fleet.take shifted json setup (.advance mover) = _ from after] at called shut ⊢
    obtain ⟨call, moving, allowed⟩ := guarded.sound.fits_advance there fits
    exact guarded.idle_after moving allowed called closes shut
  | clock | actions | link => exact guarded.idle thread closer nodeID called closes shut

/-- If nothing is queued for a node after it was shut, nor between the withdrawal of its backlog and
that, then a node that was drained or removed has nothing in its queue. -/
theorem shut_stays_idle (json : Nodes.Json) (setup : Setup) (clock : Clock)
    (happenings : List Happening)
    (nothingLate : Every (Fleet.take shifted json setup) (Fleet.Fits shifted NothingLate)
      (Fleet.opened clock) happenings) :
    StaysIdle (lastState (Fleet.take shifted json setup) (Fleet.opened clock) happenings) := by
  have guarded : Guarded (lastState (Fleet.take shifted json setup) (Fleet.opened clock)
      happenings) := by
    refine lastState_of_invariant Guarded ⟨Fleet.sound_opened clock, ?_, ?_⟩ nothingLate
      fun happening fleet guarded fits => guarded.take happening fits
    · exact ⟨fun _ _ last => (nomatch last), fun _ last => (nomatch last)⟩
    · intro thread call nodeID called
      cases called
  exact guarded.staysIdle

def factsRequest : Nodes.DispatchRequest where
  nodeID := "edge-1"
  action := "agent.collect_facts"
  payload := ""
  timeout := 0
  maxAttempts := 0
  actor := "ops"

theorem drain_empties_queue :
    let happenings := Sample.joining .managed ++
      Sample.calling 2 (.tasks (.dispatch factsRequest (some "task-1"))) 4 ++
      Sample.calling 3 (.drain "edge-1" "disk") 9
    let fleet := lastState (Fleet.take shifted Sample.json Sample.setup)
      (Fleet.opened Sample.clock) happenings
    Every (Fleet.take shifted Sample.json Sample.setup) (Fleet.Fits shifted NothingLate)
        (Fleet.opened Sample.clock) happenings ∧
      shutBy 3 "edge-1" fleet.log = true ∧
      fleet.state.tasks.rows.map (·.state) = [.cancelled] ∧ StaysIdle fleet := by
  intro happenings fleet
  have nothingLate : Every (Fleet.take shifted Sample.json Sample.setup)
      (Fleet.Fits shifted NothingLate) (Fleet.opened Sample.clock) happenings := by
    decide +kernel
  exact ⟨nothingLate, by decide +kernel, by decide +kernel,
    shut_stays_idle _ _ _ happenings nothingLate⟩

/-- The node has claimed the task before it is drained. When it reports that the attempt has
failed, the task is queued for it once more. -/
theorem report_refills_drained :
    let node : Nodes.Node := ⟨"edge-1", .managed, .enrolled, false, false⟩
    let happenings := Sample.joining .managed ++
      Sample.calling 2 (.tasks (.dispatch factsRequest (some "task-1"))) 4 ++
      Sample.calling 3 (.tasks (.claim node 1)) 3 ++
      Sample.calling 4 (.drain "edge-1" "disk") 9 ++
      Sample.calling 5 (.tasks (.report node ⟨"task-1", false, 1, "", ""⟩)) 3
    let fleet := lastState (Fleet.take shifted Sample.json Sample.setup)
      (Fleet.opened Sample.clock) happenings
    fleet.state.tables.nodes.rows.map (fun row => (row.id, row.state)) =
        [("edge-1", .drained)] ∧
      fleet.state.tasks.rows.map (fun row => (row.nodeID, row.state)) =
        [("edge-1", .queued)] ∧ ¬ StaysIdle fleet := by
  intro node happenings fleet
  have ended : (fleet.answer 4).any Except.isOk = true := by decide +kernel
  have shut : shutBy 4 "edge-1" fleet.log = true := by decide +kernel
  have queued : fleet.state.tasks.rows.map (fun row => (row.nodeID, row.state)) =
      [("edge-1", .queued)] := by decide +kernel
  refine ⟨by decide +kernel, queued, fun staysIdle => ?_⟩
  obtain ⟨answer, answered, succeeded⟩ := (Option.any_eq_true _ _).mp ended
  cases answer with
  | error => cases succeeded
  | ok answer => ?_
  have idle := (staysIdle 4 (.drain "edge-1" "disk") "edge-1" answer rfl rfl answered).2 shut
  have listed : ("edge-1", Nodes.TaskState.queued) ∈
      fleet.state.tasks.rows.map fun row => (row.nodeID, row.state) := by
    rw [queued]
    exact List.mem_cons_self
  obtain ⟨row, stored, same⟩ := List.mem_map.mp listed
  exact idle row stored (congrArg Prod.fst same) (congrArg Prod.snd same)

end Cashp.Registry
