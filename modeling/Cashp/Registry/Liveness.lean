import Cashp.Kit.Hindsight
import Cashp.Registry.Rows

/-!
Liveness and the nodes it has to leave alone. A contact and a sweep look at the node before they
move it; `transition` reads it again, but does not ask whether it has been drained meanwhile.
-/

namespace Cashp.Registry

open Kit Kit.Program
open Nodes (State)

/-- The rows a call reads by their key, and the rows it moves to another state, as they are at that
moment. -/
inductive Sight
  | saw (row : NodeRow)
  | moved (row : NodeRow) (target : State)
deriving DecidableEq

def sighted {Reply : Type} : Stmt Reply → Realm → Option Sight
  | .node id, realm =>
    if realm.link = .up then (realm.tables.nodes.find fun row => row.id == id).map .saw else none
  | .updateNode (.state target _ _) id version, realm =>
    if realm.commits then
      (realm.tables.nodes.find (selectsNode id version)).map fun row => .moved row target
    else none
  | _, _ => none

def Call.livens : Call → List State
  | .recordContact .. => [.online]
  | .sweepLiveness => [.degraded, .offline]
  | _ => []

/-- When the call reads the node again, it is still one to be moved: a contact has not been
overtaken by a drain or a maintenance window, and a sweep not by the latter. -/
def StillOpen (call : Call) (sight : Sight) : Prop :=
  match call, sight with
  | .recordContact .., .saw row => row.maintenance = false ∧ row.state ≠ .drained
  | .sweepLiveness, .saw row => row.maintenance = false
  | _, _ => True

instance (call : Call) (sight : Sight) : Decidable (StillOpen call sight) := by
  unfold StillOpen
  split <;> infer_instance

/-- Liveness has moved no node that was drained, removed or in maintenance at that moment. -/
def Spares (fleet : Fleet Sight) : Prop :=
  ∀ thread call row target, fleet.calls[thread]? = some call → call.livens ≠ [] →
    (thread, .moved row target) ∈ fleet.log →
      row.state ≠ .drained ∧ row.state ≠ .removed ∧ row.maintenance = false

def MovesSeen (targets : List State) (front : List Sight) : Sight → Prop
  | .saw _ => True
  | .moved row target =>
    .saw row ∈ front ∧ canTransition row.state target = true ∧ target ∈ targets

variable {Value Result Reply : Type} {targets : List State} {told : List Sight} {realm : Realm}
variable {program : Service Value} {fleet : Fleet Sight}

def Service.Minds (targets : List State) (program : Service Value) : Prop :=
  ∀ told realm, Heralded (MovesSeen targets) told →
    program.Tells sighted registry.rely (fun _ told _ => Heralded (MovesSeen targets) told) told
      realm

theorem sighted_gentle {stmt : Stmt Reply} (gentle : Gentle stmt) (row : NodeRow)
    (target : State) : sighted stmt realm ≠ some (.moved row target) := by
  cases stmt with
  | node => simp [sighted]
  | updateNode change =>
    cases change with
    | state => exact gentle.elim
    | _ => exact nofun
  | _ => exact nofun

theorem minds_bind {next : Value → Service Result}
    (first : program.Minds targets) (rest : ∀ value, (next value).Minds targets) :
    Service.Minds targets (program >>= next) := by
  intro told realm begun
  refine under_bind ((first told realm begun).imp fun answer told later heralded => ?_)
  cases answer with
  | ok value => exact rest value told later heralded
  | error => exact heralded

theorem sighted_node {id : String} {row : NodeRow}
    (answer : (execute (Stmt.node id) realm).1 = .ok (some row)) :
    sighted (.node id) realm = some (.saw row) := by
  obtain ⟨up, asked⟩ := ask_ok answer
  exact (if_pos up).trans (by rw [← asked]; rfl)

theorem heralded_gentle {stmt : Stmt Reply} (heralded : Heralded (MovesSeen targets) told)
    (gentle : Gentle stmt) (realm : Realm) :
    Heralded (MovesSeen targets) (told ++ (sighted stmt realm).toList) := by
  refine heralded.append fun event noted => ?_
  cases event with
  | saw => trivial
  | moved row target => exact absurd noted (sighted_gentle gentle row target)

theorem minds_of_uses (uses : program.Uses Plain) : program.Minds targets := by
  intro told realm begun
  exact tells_of_uses (uses.mono fun stmt plain told realm heralded =>
    heralded_gentle heralded plain.gentle realm) begun

theorem moved_row {row : NodeRow} {target : State} {reason : String} {changedAt : Int}
    {event : Sight} (known : realm.tables.nodes.Known row) (listed : target ∈ targets)
    (seen : .saw row ∈ told) (allowed : canTransition row.state target = true)
    (noted : sighted (.updateNode (.state target reason changedAt) row.id (some row.version))
      realm = some event) : MovesSeen targets told event := by
  obtain ⟨_, noted⟩ := Option.ite_none_right_eq_some.mp noted
  obtain ⟨found, stored, rfl⟩ := Option.map_eq_some_iff.mp noted
  obtain ⟨present, hit⟩ := Table.find_mem stored
  rw [known.selected present hit]
  exact ⟨seen, allowed, listed⟩

theorem transition_minds (nodeID : String) {target : State} (reason : String)
    (listed : target ∈ targets) : (transition nodeID target reason).Minds targets := by
  intro told realm begun
  rw [transition, get]
  cases Nodes.validateNodeID nodeID with
  | error => exact begun
  | ok =>
    intro later _
    have gentle : Gentle (Stmt.node nodeID) := trivial
    have read := heralded_gentle begun gentle later
    rw [show (execute (Stmt.node nodeID) later).2 = later from ask_realm _]
    cases answer : (execute (Stmt.node nodeID) later).1 with
    | error => exact read
    | ok found =>
      cases found with
      | none => exact read
      | some row =>
        obtain ⟨present, _⟩ := node_found answer row rfl
        have known : later.tables.nodes.Known row :=
          Table.known_of_mem NodeRow.Precedes.refl present
        have seen : .saw row ∈ told ++ (sighted (.node nodeID) later).toList := by
          rw [sighted_node answer]
          exact List.mem_append_right _ List.mem_cons_self
        refine under_refuse (fun _ => read) fun allowed => ?_
        intro ticked evolve last further
        have current : last.tables.nodes.Known row := (known.later evolve).later further
        have ticks : Gentle (Stmt.tasks .clock) := trivial
        have before := heralded_gentle read ticks ticked
        have wrote : ∀ clean changedAt, Heralded (MovesSeen targets) (_ ++ (sighted
            (.updateNode (.state target clean changedAt) row.id (some row.version))
              last).toList) := fun clean changedAt => before.append fun event noted =>
          moved_row current listed (List.mem_append_left _ seen)
            ((Bool.not_eq_false _).mp allowed) noted
        cases (execute (Stmt.updateNode _ _ _) last).1 with
        | error => exact wrote _ _
        | ok affected =>
          cases affected with
          | zero | succ => exact wrote _ _

theorem recordContact_minds (id : Identity) (agentVersion : String) :
    (recordContact id agentVersion).Minds [.online] := by
  refine minds_bind (minds_of_uses clock_plain) fun now => ?_
  refine minds_bind (minds_of_uses (uses_refuse _ _)) fun _ => ?_
  refine minds_bind (minds_of_uses (query_plain trivial)) fun _ => ?_
  dsimp only
  split
  · exact minds_of_uses trivial
  split
  · exact minds_of_uses trivial
  · exact transition_minds _ _ List.mem_cons_self

theorem reclassified_target {node : Node} {now : Int} {wanted : State}
    (moves : reclassified node now = some wanted) : wanted ∈ [State.degraded, .offline] := by
  rw [reclassified] at moves
  grind [wantedState]

theorem sweepEach_minds (now : Int) (nodes : List Node) (result : SweepResult) :
    (sweepEach now nodes result).Minds [.degraded, .offline] := by
  induction nodes generalizing result with
  | nil => exact minds_of_uses trivial
  | cons node rest ih =>
    rw [sweepEach]
    split
    · exact ih _
    · rename_i wanted moves
      exact minds_bind (transition_minds _ _ (reclassified_target moves)) fun _ => ih _

def MindsCall (call : Call) (told : List Sight) : Prop :=
  call.livens ≠ [] → Heralded (MovesSeen call.livens) told

theorem serve_minds (json : Nodes.Json) (setup : Setup) (call : Call) (realm : Realm) :
    (call.serve json setup).Tells sighted registry.rely (fun _ told _ => MindsCall call told) []
      realm := by
  have wraps : ∀ {Value : Type} {program : Service Value} (wrap : Value → Answer),
      program.Minds call.livens → (answering wrap program).Tells sighted registry.rely
        (fun _ told _ => MindsCall call told) [] realm := by
    intro Value program wrap minds
    have told : (answering wrap program).Minds call.livens :=
      minds_bind minds fun _ => minds_of_uses trivial
    exact (told [] realm heralded_nil).imp fun _ _ _ heralded _ => heralded
  cases call with
  | recordContact id agentVersion => exact wraps _ (recordContact_minds id agentVersion)
  | sweepLiveness =>
    exact wraps _ (minds_bind (minds_of_uses list_plain) fun _ =>
      minds_bind (minds_of_uses clock_plain) fun _ => sweepEach_minds _ _ _)
  | _ => exact (tells_true _ _ _).imp fun _ _ _ _ other => absurd rfl other

structure Watchful (fleet : Fleet Sight) : Prop where
  sound : fleet.Sound sighted fun call _ told _ => MindsCall call told
  recorded : fleet.Recorded StillOpen

theorem Watchful.spares (watchful : Watchful fleet) : Spares fleet := by
  intro thread call row target called livens moved
  have minds : MindsCall call (fleet.eventsOf thread) :=
    watchful.sound.so_far (fun _ _ _ _ minds => minds)
      (fun _ _ _ minds livens => (minds livens).of_append) called
  obtain ⟨front, back, split⟩ := List.append_of_mem (Docket.mem_eventsOf.mpr moved)
  obtain ⟨seen, allowed, listed⟩ := minds livens front _ back split
  have noted : (thread, Sight.saw row) ∈ fleet.log := by
    refine Docket.mem_eventsOf.mp ?_
    rw [split]
    exact List.mem_append_left _ seen
  have still := watchful.recorded thread call _ called noted
  have kept : row.state ≠ .removed := by
    intro removed
    rw [removed, canTransition_removed] at allowed
    cases allowed
  cases call with
  | recordContact => exact ⟨still.2, kept, still.1⟩
  | sweepLiveness =>
    refine ⟨fun drained => ?_, kept, still⟩
    -- nothing leads from drained to degraded or offline
    rw [drained] at allowed
    simp only [Call.livens, List.mem_cons, List.not_mem_nil, or_false] at listed
    rcases listed with rfl | rfl <;> cases allowed
  | _ => exact absurd rfl livens

theorem Watchful.take {json : Nodes.Json} {setup : Setup}
    (happening : Happening) (watchful : Watchful fleet)
    (open_ : fleet.Fits sighted (fun call _ sight => StillOpen call sight) happening) :
    Watchful (fleet.take sighted json setup happening) :=
  ⟨(Fleet.Sound.take (serve_minds json setup) (fun _ _ _ _ _ minds _ => minds) watchful.sound
    happening).1, watchful.recorded.take watchful.sound open_⟩

/-- If a contact finds the node neither drained nor in maintenance when it reads it again, and a
sweep finds it not in maintenance, then liveness moves no node it has to leave alone. -/
theorem liveness_spares (json : Nodes.Json) (setup : Setup) (clock : Clock)
    (happenings : List Happening)
    (stillOpen : Every (Fleet.take sighted json setup)
      (Fleet.Fits sighted fun call _ sight => StillOpen call sight) (Fleet.opened clock)
      happenings) :
    Spares (lastState (Fleet.take sighted json setup) (Fleet.opened clock) happenings) := by
  have watchful : Watchful (lastState (Fleet.take sighted json setup) (Fleet.opened clock)
      happenings) := by
    refine lastState_of_invariant Watchful ⟨Fleet.sound_opened clock, ?_⟩ stillOpen
      fun happening fleet watchful fits => watchful.take happening fits
    intro thread call event called
    cases called
  exact watchful.spares

def joinedIdentity : Identity where
  node :=
    { id := "edge-1", name := "edge-1", role := .managed, state := .enrolled
      stateReason := "enrolled", address := "", agentVersion := "1.0", cordoned := false
      maintenance := false, enrolledAt := 1000 * Duration.second
      lastSeen := 1000 * Duration.second, stateChangedAt := 1000 * Duration.second
      createdAt := 1000 * Duration.second, updatedAt := 1000 * Duration.second, version := 1 }
  credentialID := "cred-1"

theorem contact_moves_online :
    let happenings := Sample.joining .managed ++
      Sample.calling 2 (.authenticate Sample.managedSecret) 4 ++
      Sample.calling 3 (.recordContact joinedIdentity "1.0") 5
    let fleet := lastState (Fleet.take sighted Sample.json Sample.setup)
      (Fleet.opened Sample.clock) happenings
    Every (Fleet.take sighted Sample.json Sample.setup)
        (Fleet.Fits sighted fun call _ sight => StillOpen call sight) (Fleet.opened Sample.clock)
        happenings ∧
      fleet.state.tables.nodes.rows.map (·.state) = [.online] ∧ Spares fleet := by
  intro happenings fleet
  have stillOpen : Every (Fleet.take sighted Sample.json Sample.setup)
      (Fleet.Fits sighted fun call _ sight => StillOpen call sight) (Fleet.opened Sample.clock)
      happenings := by decide +kernel
  exact ⟨stillOpen, by decide +kernel, liveness_spares _ _ _ happenings stillOpen⟩

/-- The node is drained after it has authenticated and before its contact is recorded. The
contact brings it back online. -/
theorem contact_revives_drained :
    let happenings := Sample.joining .managed ++
      Sample.calling 2 (.authenticate Sample.managedSecret) 4 ++
      Sample.calling 3 (.drain "edge-1" "disk") 9 ++
      Sample.calling 4 (.recordContact joinedIdentity "1.0") 5
    let fleet := lastState (Fleet.take sighted Sample.json Sample.setup)
      (Fleet.opened Sample.clock) happenings
    let drained : NodeRow :=
      { id := "edge-1", name := "edge-1", role := .managed, state := .drained
        stateReason := "disk", address := "", agentVersion := "1.0", cordoned := true
        maintenance := false, enrolledAt := 1000, lastSeen := 1000, stateChangedAt := 1000
        createdAt := 1000, updatedAt := 1000, version := 4 }
    (4, .moved drained .online) ∈ fleet.log ∧
      fleet.state.tables.nodes.rows.map (·.state) = [.online] ∧ ¬ Spares fleet := by
  intro happenings fleet drained
  have moved : (4, .moved drained .online) ∈ fleet.log := by decide +kernel
  refine ⟨moved, by decide +kernel, fun spares => ?_⟩
  have called : fleet.calls[4]? = some (.recordContact joinedIdentity "1.0") := rfl
  have livens : Call.livens (.recordContact joinedIdentity "1.0") ≠ [] := by decide
  exact (spares 4 _ drained .online called livens moved).1 rfl

end Cashp.Registry
