import Cashp.Kit.Docket
import Cashp.Kit.Evolution
import Cashp.Registry.Enrollment
import Cashp.Registry.ServiceCore

/-!
What the calls keep between each other's statements: a node keeps its role, a removed node stays
removed, and a row with the version somebody has read is the row they have read.
-/

namespace Cashp.Registry

open Kit Kit.Program
open Nodes (Fault State)

structure NodeRow.Precedes (row next : NodeRow) : Prop where
  id : next.id = row.id
  role : next.role = row.role
  version : row.version ≤ next.version
  pinned : next.version = row.version → next = row
  removed : row.state = .removed → next.state = .removed

namespace NodeRow.Precedes

variable {first second third row next : NodeRow}

theorem refl (row : NodeRow) : row.Precedes row :=
  ⟨rfl, rfl, Int.le_refl _, fun _ => rfl, fun removed => removed⟩

theorem trans (early : first.Precedes second) (late : second.Precedes third) :
    first.Precedes third := by
  refine ⟨late.id.trans early.id, late.role.trans early.role,
    Int.le_trans early.version late.version, fun same => ?_, late.removed ∘ early.removed⟩
  have rises := early.version
  have climbs := late.version
  rw [late.pinned (by omega), early.pinned (by omega)]

theorem of_newer (id : next.id = row.id) (role : next.role = row.role)
    (newer : next.version = row.version + 1)
    (removed : row.state = .removed → next.state = .removed) : row.Precedes next :=
  ⟨id, role, by omega, fun same => by omega, removed⟩

end NodeRow.Precedes

abbrev NodeTable.Evolve (before after : NodeTable) : Prop :=
  Table.Evolve NodeRow.Precedes before after

abbrev NodeTable.Known (seen : NodeRow) (nodes : NodeTable) : Prop :=
  Table.Known NodeRow.Precedes seen nodes

variable {nodes after : NodeTable} {seen row : NodeRow} {realm : Realm} {Reply : Type}
variable {stmt : Stmt Reply} {version : Option Int} {Part : Type} {change : NodeUpdate}

theorem NodeTable.Evolve.refl (nodes : NodeTable) : nodes.Evolve nodes :=
  Table.evolve_refl NodeRow.Precedes.refl

theorem NodeTable.Evolve.trans {first second third : NodeTable} (early : first.Evolve second)
    (late : second.Evolve third) : first.Evolve third :=
  Table.Evolve.trans (fun _ _ _ => NodeRow.Precedes.trans) early late

theorem NodeTable.Known.later (known : nodes.Known seen) (evolve : nodes.Evolve after) :
    after.Known seen :=
  Table.Known.later (fun _ _ _ => NodeRow.Precedes.trans) known evolve

theorem selectsNode_some {id : String} {version : Int} :
    selectsNode id (some version) row = true ↔ row.id = id ∧ row.version = version := by
  simp [selectsNode]

theorem selectsNode_id {id : String} (hit : selectsNode id version row = true) : row.id = id :=
  beq_iff_eq.mp (Bool.and_eq_true_iff.mp hit).1

theorem find_selectsNode {id : String} (listed : row ∈ nodes.rows)
    (hit : selectsNode id version row = true) : nodes.find (selectsNode id version) = some row :=
  Table.find_unique List.mem_cons_self listed hit fun _ selected =>
    (selectsNode_id selected).trans (selectsNode_id hit).symm

theorem NodeTable.Known.selected (known : nodes.Known seen) (listed : row ∈ nodes.rows)
    (hit : selectsNode seen.id (some seen.version) row = true) : row = seen := by
  obtain ⟨same, current⟩ := selectsNode_some.mp hit
  exact Table.Known.unchanged List.mem_cons_self (fun _ _ follows => follows.id)
    (fun _ _ follows => follows.pinned) known listed same current

theorem NodeTable.Known.moves (known : nodes.Known seen) {target : State} {reason : String}
    {changedAt : Int} (allowed : canTransition seen.state target = true) :
    nodes.Evolve ((NodeUpdate.state target reason changedAt).assign seen.id (some seen.version)
      nodes) := by
  refine Table.evolve_update NodeRow.Precedes.refl fun row listed hit => ?_
  rw [known.selected listed hit]
  refine .of_newer rfl rfl rfl fun removed => ?_
  rw [removed, canTransition_removed] at allowed
  cases allowed

theorem Joined.evolve {now : Int} {token : EnrollmentToken} {node : Node}
    (joined : Joined now token nodes after node) : nodes.Evolve after := by
  cases joined with
  | rejoin row name address agentVersion bound listed same allowed written =>
    rw [written]
    refine Table.evolve_update NodeRow.Precedes.refl fun other there hit => ?_
    have known : nodes.Known row := Table.known_of_mem NodeRow.Precedes.refl listed
    rw [known.selected there hit]
    refine .of_newer rfl rfl rfl fun removed => ?_
    rw [removed, canTransition_removed] at allowed
    cases allowed
  | create row free inserted => exact Table.evolve_insert NodeRow.Precedes.refl inserted

@[simp] theorem ask_realm (reply : Reply) : (realm.ask reply).2 = realm := by
  rw [Realm.ask]
  split <;> rfl

theorem ask_ok {reply answer : Reply} (asked : (realm.ask reply).1 = .ok answer) :
    realm.link = .up ∧ answer = reply := by
  grind [Realm.ask]

theorem write_realm (reply : Reply) (later : Realm) :
    (realm.write reply later).2 = if realm.commits then later else realm := by
  rw [Realm.write, Realm.commits]
  cases realm.link <;> rfl

theorem write_ok {reply answer : Reply} {later : Realm}
    (written : (realm.write reply later).1 = .ok answer) :
    realm.commits = true ∧ answer = reply := by
  grind [Realm.commits, Realm.write]

theorem write_part (part : Realm → Part) {reply : Reply} {later : Realm}
    (same : part later = part realm) : part (realm.write reply later).2 = part realm := by
  rw [write_realm]
  split
  · exact same
  · rfl

theorem ask_part (part : Realm → Part) (reply : Reply) : part (realm.ask reply).2 = part realm := by
  rw [ask_realm]

def Realm.redeems (realm : Realm) (job : EnrollJob) : Option (Node × String) :=
  match realm.enrolling job with
  | (.ok result, _) => if realm.commits then some result else none
  | (.error _, _) => none

theorem enroll_cases (job : EnrollJob) (realm : Realm) :
    realm.redeems job = none ∧ (execute (Stmt.enroll job) realm).2 = realm ∨
      ∃ node secret tables token credential, realm.redeems job = some (node, secret) ∧
        (execute (Stmt.enroll job) realm).2 = { realm with tables := tables } ∧
        Redeemed job realm.tables tables token credential node secret := by
  have after : (execute (Stmt.enroll job) realm).2 = (match realm.enrolling job with
      | (.ok result, session) =>
        realm.write (Except.ok result) { realm with tables := session.tables }
      | (.error failure, _) => realm.ask (Except.error failure)).2 := rfl
  rw [Realm.redeems]
  cases ran : realm.enrolling job with
  | mk answer session =>
    rw [ran] at after
    cases answer with
    | error => exact .inl ⟨rfl, after.trans (ask_realm _)⟩
    | ok result =>
      obtain ⟨node, secret⟩ := result
      rw [write_realm] at after
      cases carried : realm.commits with
      | false =>
        rw [carried] at after
        exact .inl ⟨rfl, after⟩
      | true =>
        rw [carried] at after
        obtain ⟨token, credential, redeemed⟩ := enrollTx_ok ran
        exact .inr ⟨node, secret, session.tables, token, credential, rfl, after, redeemed⟩

theorem enroll_answer {job : EnrollJob} {result : Node × String}
    (answer : (execute (Stmt.enroll job) realm).1 = .ok (.ok result)) :
    realm.redeems job = some result := by
  change (match realm.enrolling job with
    | (.ok result, session) =>
      realm.write (Except.ok result) { realm with tables := session.tables }
    | (.error failure, _) => realm.ask (Except.error failure)).1 = _ at answer
  rw [Realm.redeems]
  cases ran : realm.enrolling job with
  | mk ended =>
    rw [ran] at answer
    cases ended with
    | error =>
      obtain ⟨_, same⟩ := ask_ok answer
      cases same
    | ok =>
      obtain ⟨carried, same⟩ := write_ok answer
      cases same
      exact if_pos carried

theorem issueToken_cases (id hash : String) (role : Nodes.Role) (nodeID : String)
    (maxUses : Budget) (expiresAt : Int) (realm : Realm) :
    (execute (Stmt.issueToken id hash role nodeID maxUses expiresAt) realm).2 = realm ∨
      ∃ tokens, realm.tables.tokens.insert ⟨id, hash, role, nodeID, maxUses, 0, expiresAt, 0⟩ =
          some tokens ∧ realm.commits = true ∧
        (execute (Stmt.issueToken id hash role nodeID maxUses expiresAt) realm).2 =
          realm.setTokens tokens := by
  have after : (execute (Stmt.issueToken id hash role nodeID maxUses expiresAt) realm).2 =
      (realm.tables.tokens.insert ⟨id, hash, role, nodeID, maxUses, 0, expiresAt, 0⟩).elim realm
        fun tokens => (realm.write () (realm.setTokens tokens)).2 := by
    change (Stmt.execute (.issueToken id hash role nodeID maxUses expiresAt) realm).2 = _
    rw [Stmt.execute]
    split <;> rename_i inserted <;> rw [inserted] <;> rfl
  cases inserted :
    realm.tables.tokens.insert ⟨id, hash, role, nodeID, maxUses, 0, expiresAt, 0⟩ with
  | none =>
    rw [inserted] at after
    exact .inl after
  | some tokens =>
    rw [inserted, Option.elim_some, write_realm] at after
    grind

def Stmt.tabular {Reply : Type} : Stmt Reply → Bool
  | .tasks _ | .control _ => false
  | _ => true

theorem tabular_part (part : Realm → Part) (tabular : stmt.tabular = true)
    (aside : ∀ tables, part { realm with tables := tables } = part realm) :
    part (execute stmt realm).2 = part realm := by
  cases stmt with
  | tasks | control => cases tabular
  | node | list | credential => exact ask_part part _
  | issueToken id hash role nodeID maxUses expiresAt =>
    obtain same | ⟨tokens, _, _, after⟩ := issueToken_cases id hash role nodeID maxUses expiresAt
      realm
    · rw [same]
    · rw [after]
      exact aside _
  | enroll job =>
    obtain ⟨_, same⟩ | ⟨_, _, _, _, _, _, after, _⟩ := enroll_cases job realm
    · rw [same]
    · rw [after]
      exact aside _
  | _ => exact write_part part (aside _)

theorem node_found {id : String} {found : Option NodeRow}
    (answer : (execute (Stmt.node id) realm).1 = .ok found) :
    ∀ row, found = some row → row ∈ realm.tables.nodes.rows ∧ row.id = id := by
  intro row same
  obtain ⟨_, asked⟩ := ask_ok answer
  rw [asked] at same
  obtain ⟨listed, hit⟩ := Table.find_mem same
  exact ⟨listed, beq_iff_eq.mp hit⟩

def registry : Regime Stmt Realm Unit where
  entry _ _ := none
  valid _ _ := True
  rely before after := before.tables.nodes.Evolve after.tables.nodes
  refl realm := NodeTable.Evolve.refl realm.tables.nodes
  trans _ _ _ := NodeTable.Evolve.trans
  allowed _ _ _ := True

def Gentle {Reply : Type} : Stmt Reply → Prop
  | .updateNode (.state ..) _ _ => False
  | .updateNode (.rejoin ..) _ _ => False
  | _ => True

def Plain {Reply : Type} : Stmt Reply → Prop
  | .updateNode (.state ..) _ _ => False
  | .updateNode (.rejoin ..) _ _ => False
  | .enroll _ => False
  | _ => True

def Unenrolling {Reply : Type} : Stmt Reply → Prop
  | .enroll _ => False
  | _ => True

theorem Plain.gentle (plain : Plain stmt) : Gentle stmt := by
  cases stmt with
  | updateNode change => cases change <;> exact plain
  | _ => trivial

theorem Plain.unenrolling (plain : Plain stmt) : Unenrolling stmt := by
  cases stmt with
  | enroll => exact plain.elim
  | _ => trivial

def Stmt.writesNodes {Reply : Type} : Stmt Reply → Bool
  | .updateNode .. | .enroll _ => true
  | _ => false

theorem nodes_kept (spares : stmt.writesNodes = false) :
    (execute stmt realm).2.tables.nodes = realm.tables.nodes := by
  cases stmt with
  | tasks => rfl
  | control => exact write_part (·.tables.nodes) rfl
  | node | list | credential => exact ask_part (·.tables.nodes) _
  | updateNode | enroll => cases spares
  | issueToken id hash role nodeID maxUses expiresAt =>
    obtain same | ⟨tokens, _, _, after⟩ := issueToken_cases id hash role nodeID maxUses expiresAt
      realm
    · rw [same]
    · rw [after]
      rfl
  | revokeToken | expireTokens | useCredential | revokeCredentials | retire =>
    exact write_part (·.tables.nodes) rfl

theorem updateNode_nodes {id : String} :
    (execute (Stmt.updateNode change id version) realm).2.tables.nodes =
      if realm.commits then change.assign id version realm.tables.nodes
      else realm.tables.nodes := by
  rw [show (execute (Stmt.updateNode change id version) realm).2 = _ from write_realm _ _]
  split <;> rfl

theorem gentle_evolve (gentle : Gentle stmt) (realm : Realm) :
    realm.tables.nodes.Evolve (execute stmt realm).2.tables.nodes := by
  cases writes : stmt.writesNodes with
  | false =>
    rw [nodes_kept writes]
    exact .refl _
  | true =>
    cases stmt with
    | updateNode change =>
      rw [updateNode_nodes]
      split
      · refine Table.evolve_update NodeRow.Precedes.refl fun row _ _ => ?_
        cases change with
        | state | rejoin => exact gentle.elim
        | flags | contact => exact .of_newer rfl rfl rfl fun removed => removed
      · exact .refl _
    | enroll job =>
      obtain ⟨_, same⟩ | ⟨_, _, _, _, _, _, after, redeemed⟩ := enroll_cases job realm
      · rw [same]
        exact .refl _
      · rw [after]
        exact redeemed.joined.evolve
    | _ => cases writes

theorem silent_of_gentle (gentle : Gentle stmt) : registry.Silent stmt :=
  fun _ realm _ _ => ⟨⟨trivial, gentle_evolve gentle realm⟩, rfl⟩

variable {Value Result : Type} {program : Service Value} {next : Value → Service Result}
variable {operation : String}

def Service.Respects (program : Service Value) : Prop :=
  ∀ own realm, program.Abides registry (fun _ _ _ => True) own realm

theorem respects_of_gentle (uses : program.Uses Gentle) : program.Respects :=
  fun _ _ => abides_of_lawful (uses.mono fun _ gentle _ realm _ _ =>
    ⟨trivial, gentle_evolve gentle realm⟩)

theorem respects_of_uses (uses : program.Uses Plain) : program.Respects :=
  respects_of_gentle (uses.mono fun _ => Plain.gentle)

theorem respects_bind (first : program.Respects) (rest : ∀ value, (next value).Respects) :
    Service.Respects (program >>= next) := by
  intro own realm
  refine under_bind ((first own realm).imp fun answer own later _ => ?_)
  cases answer with
  | ok value => exact rest value own later
  | error => trivial

theorem query_plain {stmt : Stmt (Except Fault Reply)}
    (plain : Plain stmt) : (query operation stmt).Uses Plain := by
  refine uses_then plain fun answer => ?_
  cases answer with
  | ok | error => trivial

theorem clock_plain : clock.Uses Plain := uses_perform trivial

theorem get_plain (nodeID : String) : (get nodeID).Uses Plain := by
  refine uses_bind (uses_ofExcept _) fun _ => ?_
  refine uses_bind (query_plain trivial) fun found => ?_
  cases found with
  | none | some => trivial

theorem setFlags_plain (nodeID : String) (upd : FlagUpdate) (reason : String) :
    (setFlags nodeID upd reason).Uses Plain := by
  refine uses_bind (get_plain nodeID) fun node => ?_
  refine uses_refused fun _ => ?_
  refine uses_bind clock_plain fun now => ?_
  refine uses_bind ?_ fun _ => trivial
  exact uses_bind (query_plain trivial) fun _ => uses_refuse _ _

theorem dispatching_plain (program : Nodes.Service Value) : (dispatching program).Uses Plain := by
  rw [dispatching]
  induction program with
  | done | fail => trivial
  | step stmt rest ih => exact ⟨trivial, ih⟩

theorem transition_respects (nodeID : String) (target : State) (reason : String) :
    (transition nodeID target reason).Respects := by
  intro own realm
  rw [transition, get]
  cases Nodes.validateNodeID nodeID with
  | error => trivial
  | ok =>
    have reads : registry.Silent (Stmt.node nodeID) := silent_of_gentle trivial
    refine silent_then reads fun later _ _ _ => ?_
    rw [show (execute (Stmt.node nodeID) later).2 = later from ask_realm _]
    cases answer : (execute (Stmt.node nodeID) later).1 with
    | error => trivial
    | ok found =>
      cases found with
      | none => trivial
      | some row =>
        obtain ⟨listed, _⟩ := node_found answer row rfl
        have known : later.tables.nodes.Known row :=
          Table.known_of_mem NodeRow.Precedes.refl listed
        refine under_refuse (fun _ => trivial) fun allowed => ?_
        have ticks : registry.Silent (Stmt.tasks .clock) := silent_of_gentle trivial
        refine silent_then ticks fun read _ evolve _ => ?_
        intro last events further _ _
        refine ⟨⟨trivial, ?_⟩, ?_⟩
        · change last.tables.nodes.Evolve _
          rw [updateNode_nodes]
          split
          · have current := (known.later evolve).later further
            exact current.moves ((Bool.not_eq_false _).mp allowed)
          · exact .refl _
        · cases (execute (Stmt.updateNode _ _ _) last).1 with
          | error => trivial
          | ok affected =>
            cases affected with
            | zero | succ => trivial

theorem dropMember_plain (node : Node) : (dropMember node).Uses Plain := by
  rw [dropMember]
  split
  · exact query_plain trivial
  · trivial

theorem list_plain : list.Uses Plain :=
  uses_bind (query_plain trivial) fun _ => trivial

theorem issueEnrollmentToken_plain (setup : Setup) (req : EnrollmentRequest) (drawn : Drawn) :
    (issueEnrollmentToken setup req drawn).Uses Plain := by
  refine uses_refused fun _ => ?_
  refine uses_bind ?_ fun _ => ?_
  · rw [checkBound]
    split
    · trivial
    · exact uses_bind (get_plain _) fun _ =>
        uses_refused fun _ => uses_refuse _ _
  · dsimp only
    split
    · trivial
    split
    · trivial
    · exact uses_bind clock_plain fun _ => uses_bind (query_plain trivial) fun _ => trivial

theorem enroll_respects (setup : Setup) (req : EnrollRequest) (drawn : Drawn) :
    (enroll setup req drawn).Respects := by
  refine respects_bind (respects_of_uses (uses_refuse _ _)) fun _ => ?_
  refine respects_bind (respects_of_uses (uses_ofExcept _)) fun _ => ?_
  refine respects_bind (respects_of_uses clock_plain) fun now => ?_
  refine respects_bind (respects_of_gentle (uses_perform trivial)) fun answer => ?_
  rcases answer with fault | failure | ⟨node, credential⟩ <;> exact respects_of_uses trivial

theorem authenticate_plain (setup : Setup) (secret : String) :
    (authenticate setup secret).Uses Plain := by
  rw [authenticate]
  split
  · trivial
  refine uses_refused fun _ => ?_
  refine uses_bind clock_plain fun now => ?_
  refine uses_bind (query_plain trivial) fun found => ?_
  cases found with
  | none => trivial
  | some =>
    refine uses_refused fun _ => ?_
    refine uses_refused fun _ => ?_
    refine uses_refused fun _ => ?_
    refine uses_bind ?_ fun node => ?_
    · refine uses_bind (uses_attempt (get_plain _)) fun answer => ?_
      cases answer with
      | ok | error => trivial
    refine uses_refused fun _ => ?_
    refine uses_refused fun _ => ?_
    exact uses_bind (query_plain trivial) fun _ => trivial

theorem controlled_plain {stmt : ControlStmt (Except Cluster.ClusterError Value)} :
    (controlled operation stmt).Uses Plain := by
  refine uses_bind (query_plain trivial) fun answer => ?_
  cases answer with
  | ok | error => trivial

theorem answering_plain (wrap : Value → Answer)
    (uses : program.Uses Plain) : (answering wrap program).Uses Plain :=
  uses_bind uses fun _ => trivial

def Call.moving : Call → Bool
  | .transitionTo .. | .recordContact .. | .drain .. | .remove _ | .sweepLiveness => true
  | .enroll .. => true
  | _ => false

theorem serve_plain (json : Nodes.Json) (setup : Setup) {call : Call}
    (stays : call.moving = false) : (call.serve json setup).Uses Plain := by
  cases call with
  | tasks => exact answering_plain _ (dispatching_plain _)
  | get => exact answering_plain _ (get_plain _)
  | cordon | uncordon | setMaintenance => exact answering_plain _ (setFlags_plain _ _ _)
  | issueEnrollmentToken => exact answering_plain _ (issueEnrollmentToken_plain _ _ _)
  | rekey =>
    exact answering_plain _ (uses_bind (get_plain _) fun _ =>
      issueEnrollmentToken_plain _ _ _)
  | revokeEnrollmentToken =>
    exact answering_plain _ (uses_bind clock_plain fun _ =>
      uses_bind (query_plain trivial) fun _ => trivial)
  | expireEnrollmentTokens =>
    exact answering_plain _ (uses_bind clock_plain fun _ => query_plain trivial)
  | authenticate => exact answering_plain _ (authenticate_plain _ _)
  | revokeCredentials =>
    exact answering_plain _ (uses_bind (uses_ofExcept _) fun _ =>
      uses_bind clock_plain fun _ => query_plain trivial)
  | controlPlane =>
    exact answering_plain _ (uses_bind (get_plain _) fun _ => uses_ofExcept _)
  | heartbeat | acquireLock | electPrimary | refreshLock =>
    exact answering_plain _ (uses_bind clock_plain fun _ => controlled_plain)
  | releaseLock => exact answering_plain _ (query_plain trivial)
  | _ => cases stays

structure Composes (holds : {Value : Type} → Service Value → Prop) : Prop where
  plain {Value : Type} {program : Service Value} : program.Uses Plain → holds program
  moves (nodeID : String) (target : State) (reason : String) :
    holds (transition nodeID target reason)
  bind {Value Result : Type} {program : Service Value} {next : Value → Service Result} :
    holds program → (∀ value, holds (next value)) → holds (program >>= next)

namespace Composes

variable {holds : {Value : Type} → Service Value → Prop} (composes : Composes holds)
include composes

theorem first (uses : program.Uses Plain) (rest : ∀ value, holds (next value)) :
    holds (program >>= next) :=
  composes.bind (composes.plain uses) rest

theorem recordContact (id : Identity) (agentVersion : String) :
    holds (recordContact id agentVersion) := by
  refine composes.first clock_plain fun now => ?_
  refine composes.first (uses_refuse _ _) fun _ => ?_
  refine composes.first (query_plain trivial) fun _ => ?_
  dsimp only
  split
  · exact composes.plain trivial
  split
  · exact composes.plain trivial
  · exact composes.moves _ _ _

theorem drain (nodeID reason : String) : holds (drain nodeID reason) := by
  refine composes.first (get_plain nodeID) fun node => ?_
  refine composes.first (uses_refuse _ _) fun _ => ?_
  refine composes.first (setFlags_plain _ _ _) fun _ => ?_
  refine composes.first (dispatching_plain _) fun cancelled => ?_
  exact composes.bind (composes.moves _ _ _) fun _ => composes.plain trivial

theorem remove (req : RemoveRequest) : holds (remove req) := by
  refine composes.first (uses_refuse _ _) fun _ => ?_
  refine composes.first (get_plain _) fun node => ?_
  refine composes.first (uses_refuse _ _) fun _ => ?_
  refine composes.first clock_plain fun now => ?_
  refine composes.first (uses_perform trivial) fun answer => ?_
  cases answer with
  | error => exact composes.plain trivial
  | ok =>
    refine composes.first (dispatching_plain _) fun _ => ?_
    exact composes.first (dropMember_plain node) fun _ => composes.moves _ _ _

theorem sweepEach (now : Int) (nodes : List Node) (result : SweepResult) :
    holds (sweepEach now nodes result) := by
  induction nodes generalizing result with
  | nil => exact composes.plain trivial
  | cons node rest ih =>
    rw [Registry.sweepEach]
    split
    · exact ih _
    · exact composes.bind (composes.moves _ _ _) fun _ => ih _

theorem answering (wrap : Value → Answer) (held : holds program) : holds (answering wrap program) :=
  composes.bind held fun _ => composes.plain trivial

theorem serve (json : Nodes.Json) (setup : Setup) {call : Call}
    (other : ∀ req drawn, call ≠ .enroll req drawn) : holds (call.serve json setup) := by
  cases call with
  | transitionTo =>
    exact composes.answering _ (composes.first (uses_refuse _ _) fun _ => composes.moves _ _ _)
  | recordContact => exact composes.answering _ (composes.recordContact _ _)
  | drain => exact composes.answering _ (composes.drain _ _)
  | remove => exact composes.answering _ (composes.remove _)
  | sweepLiveness =>
    exact composes.answering _ (composes.first list_plain fun _ =>
      composes.first clock_plain fun _ => composes.sweepEach _ _ _)
  | enroll req drawn => exact absurd rfl (other req drawn)
  | _ => exact composes.plain (serve_plain json setup rfl)

end Composes

theorem respects_composes : Composes Service.Respects where
  plain := respects_of_uses
  moves := transition_respects
  bind := respects_bind

theorem unenrolling_composes : Composes fun program => program.Uses Unenrolling where
  plain uses := uses.mono fun _ => Plain.unenrolling
  moves _ _ _ := by
    refine uses_bind ((get_plain _).mono fun _ => Plain.unenrolling) fun node => ?_
    refine uses_refused fun _ => ?_
    refine uses_then trivial fun now => ?_
    refine uses_bind ?_ fun _ => trivial
    refine uses_bind ?_ fun _ => uses_refuse _ _
    refine uses_then trivial fun answer => ?_
    cases answer with
    | ok | error => trivial
  bind := uses_bind

theorem serve_respects (json : Nodes.Json) (setup : Setup) (call : Call) :
    (call.serve json setup).Respects := by
  cases call with
  | enroll => exact respects_composes.answering _ (enroll_respects _ _ _)
  | _ => exact respects_composes.serve json setup fun _ _ => nofun

section

variable {Event : Type} {entry : {Reply : Type} → Stmt Reply → Realm → Option Event}
  {told : List Event}
variable {post : Except RegistryError Result → List Event → Realm → Prop}

theorem unixOf_dated (clock : Clock) : Nodes.unixOf clock.now ≠ 0 := by
  have dated := clock.dated
  rw [Nodes.unixOf]
  grind [Duration.zeroTime, Duration.second]

theorem unanswered {good : Value → List Event → Prop} (failure : RegistryError)
    (told : List Event) (_ : Realm) (value : Value) (same : Except.error failure = .ok value) :
    good value told :=
  nomatch same

theorem tells_after (failed : ∀ failure told realm, post (.error failure) told realm)
    (rest : ∀ value told later, (next value).Tells entry registry.rely post told later) :
    (program >>= next).Tells entry registry.rely post told realm := by
  refine under_bind ((tells_true entry registry.rely program).imp fun answer told later _ => ?_)
  grind

theorem tells_after_kept {event : Event}
    (failed : ∀ failure told realm, post (.error failure) told realm) (listed : event ∈ told)
    (rest : ∀ value told later, event ∈ told →
      (next value).Tells entry registry.rely post told later) :
    (program >>= next).Tells entry registry.rely post told realm := by
  refine under_bind ((tells_kept listed).imp fun answer told later kept => ?_)
  grind

theorem answering_tells {wrap : Value → Answer} {good : Value → List Event → Prop}
    (ended : program.Tells entry registry.rely
      (fun answer told _ => ∀ value, answer = .ok value → good value told) told realm) :
    (answering wrap program).Tells entry registry.rely (fun answer told _ =>
      ∀ value, answer = .ok value → ∃ inner, value = wrap inner ∧ good inner told) told realm := by
  refine under_bind (ended.imp fun answer told later fine => ?_)
  cases answer with
  | ok inner =>
    intro value same
    cases same
    exact ⟨inner, rfl, fine inner rfl⟩
  | error => exact fun _ same => nomatch same

theorem get_tells {nodeID : String} {next : Node → Service Result}
    (failed : ∀ failure told realm, post (.error failure) told realm)
    (rest : ∀ node told later, node.id = nodeID →
      (next node).Tells entry registry.rely post told later) :
    (get nodeID >>= next).Tells entry registry.rely post told realm := by
  rw [get]
  cases Nodes.validateNodeID nodeID with
  | error => exact failed _ _ _
  | ok =>
    intro later _
    cases answer : (execute (Stmt.node nodeID) later).1 with
    | error => exact failed _ _ _
    | ok found =>
      cases found with
      | none => exact failed _ _ _
      | some row => exact rest _ _ _ (node_found answer row rfl).2

theorem updateNode_hits {id : String} {count : Nat}
    (answer : (execute (Stmt.updateNode change id version) realm).1 = .ok (count + 1)) :
    realm.commits = true ∧ ∃ row ∈ realm.tables.nodes.rows, selectsNode id version row = true := by
  obtain ⟨carried, same⟩ := write_ok answer
  refine ⟨carried, ?_⟩
  by_contra missed
  have none : realm.tables.nodes.affected (selectsNode id version) = 0 := by
    refine Table.affected_eq_zero.mpr fun row listed => Bool.eq_false_iff.mpr fun hit => ?_
    exact missed ⟨row, listed, hit⟩
  rw [none] at same
  cases same

theorem transition_tells {nodeID : String} {target : State} {reason : String}
    {post : Except RegistryError Node → List Event → Realm → Prop}
    (failed : ∀ failure told realm, post (.error failure) told realm)
    (moved : ∀ node told last clean changedAt version row, row.id = nodeID →
      last.tables.nodes.find (selectsNode nodeID (some version)) = some row →
      last.commits = true → post (.ok node)
        (told ++ (entry (.updateNode (.state target clean changedAt) nodeID (some version))
          last).toList)
        (execute (Stmt.updateNode (.state target clean changedAt) nodeID (some version)) last).2) :
    (transition nodeID target reason).Tells entry registry.rely post told realm := by
  refine get_tells failed fun node told later same => ?_
  refine under_refuse (fun _ => failed _ _ _) fun _ => ?_
  intro ticked _ last _
  cases answer : (execute (Stmt.updateNode (.state target _ _) node.id (some node.version))
      last).1 with
  | error => exact failed _ _ _
  | ok affected =>
    cases affected with
    | zero => exact failed _ _ _
    | succ =>
      obtain ⟨carried, row, listed, hit⟩ := updateNode_hits answer
      subst same
      exact moved _ _ _ _ _ _ row (selectsNode_id hit) (find_selectsNode listed hit) carried

theorem remove_tells {req : RemoveRequest}
    {post : Except RegistryError Node → List Event → Realm → Prop}
    (failed : ∀ failure told realm, post (.error failure) told realm)
    (moved : ∀ told later, (transition req.nodeID .removed req.reason).Tells entry registry.rely
      post told later) : (remove req).Tells entry registry.rely post told realm := by
  refine tells_after failed fun _ told later => ?_
  refine get_tells failed fun node told later same => ?_
  refine tells_after failed fun _ told later => ?_
  refine tells_after failed fun now told later => ?_
  refine tells_after failed fun answer told later => ?_
  cases answer with
  | error => exact failed _ _ later
  | ok =>
    refine tells_after failed fun _ told later => ?_
    refine tells_after failed fun _ told later => ?_
    rw [same]
    exact moved told later

end

namespace Fleet

variable {Event : Type} {entry : {Reply : Type} → Stmt Reply → Realm → Option Event}
  {json : Nodes.Json} {setup : Setup} {fleet : Fleet Event}
  {ends : Call → Except RegistryError Answer → List Event → Realm → Prop}
variable {invariant : List Event → Realm → Prop} {happening : Happening}

abbrev Sound (entry : {Reply : Type} → Stmt Reply → Realm → Option Event)
    (ends : Call → Except RegistryError Answer → List Event → Realm → Prop)
    (fleet : Fleet Event) : Prop :=
  Docket.Sound (registry.retold entry) ends fleet

theorem sound_opened (clock : Clock) : (opened clock : Fleet Event).Sound entry ends :=
  Docket.sound_opened ⟨[], trivial⟩

theorem Sound.take (tells : ∀ (call : Call) (realm : Realm),
      (call.serve json setup).Tells entry registry.rely (ends call) [] realm)
    (stable : ∀ call answer told first second, ends call answer told first →
      registry.rely first second → ends call answer told second)
    (sound : fleet.Sound entry ends) (happening : Happening) :
    (fleet.take entry json setup happening).Sound entry ends ∧ fleet.state.tables.nodes.Evolve
        (fleet.take entry json setup happening).state.tables.nodes := by
  have steady : ∀ change : Realm → Realm, (∀ realm, (change realm).tables = realm.tables) →
      Fleet.Sound entry ends
          (Docket.take entry (Call.serve json setup) (.disturb change) fleet) ∧
        fleet.state.tables.nodes.Evolve (change fleet.state).tables.nodes := by
    intro change same
    have evolve : fleet.state.tables.nodes.Evolve (change fleet.state).tables.nodes := by
      rw [same]
      exact .refl _
    exact ⟨Docket.Sound.disturbed sound stable ⟨[], trivial⟩ evolve, evolve⟩
  cases happening with
  | call request =>
    refine ⟨Docket.Sound.called sound request ?_ (tells request _), .refl _⟩
    exact (serve_respects json setup request [] _).retold (tells_true _ _ _)
  | advance =>
    exact Docket.Sound.advanced sound stable
      (Chronicle.issues_of_free (fun _ _ _ _ _ => trivial) _)
  | clock | actions | link => exact steady _ fun _ => rfl

theorem take_cases (entry : {Reply : Type} → Stmt Reply → Realm → Option Event)
    (json : Nodes.Json) (setup : Setup) (happening : Happening) (fleet : Fleet Event) :
    (fleet.take entry json setup happening).events = fleet.events ∧
        (fleet.take entry json setup happening).state.tables = fleet.state.tables ∨
      ∃ (Reply : Type) (stmt : Stmt Reply), (fleet.take entry json setup happening).events =
            fleet.events ++ (entry stmt fleet.state).toList ∧
          (fleet.take entry json setup happening).state = (execute stmt fleet.state).2 := by
  cases happening with
  | advance thread =>
    obtain same | ⟨Reply, stmt, rest, _, after⟩ :=
      Docket.advance_cases fleet entry (Call.serve json setup) thread
    · rw [show fleet.take entry json setup (.advance thread) = fleet from same]
      exact .inl ⟨rfl, rfl⟩
    rw [show fleet.take entry json setup (.advance thread) = _ from after]
    refine .inr ⟨Reply, stmt, ?_, rfl⟩
    simp [Docket.events, Chronicle.events, Docket.log, Function.comp_def]
  | _ => exact .inl ⟨rfl, rfl⟩

theorem disturbed {invariant : Realm → Prop} {realm : Realm}
    {change : Realm → Realm} (same : happening.turn = .disturb change)
    (steady : ∀ clock actions link,
      invariant { realm with clock := clock, actions := actions, link := link }) :
    invariant (change realm) := by
  cases happening with
  | call | advance => cases same
  | clock reading =>
    cases same
    exact steady reading _ _
  | actions table =>
    cases same
    exact steady _ table _
  | link state =>
    cases same
    exact steady _ _ state

theorem kept_take
    (each : ∀ {Reply : Type} (stmt : Stmt Reply) events realm, invariant events realm →
      invariant (events ++ (entry stmt realm).toList) (execute stmt realm).2)
    (steady : ∀ events realm clock actions link, invariant events realm →
      invariant events { realm with clock := clock, actions := actions, link := link })
    (holds : invariant fleet.events fleet.state) (happening : Happening) :
    invariant (fleet.take entry json setup happening).events
      (fleet.take entry json setup happening).state :=
  Docket.kept_take holds each fun _ same =>
    disturbed same fun clock actions link => steady _ _ clock actions link holds

theorem Sound.kept_take {fine : Call → List Event → Event → Prop} (sound : fleet.Sound entry ends)
    (each : ∀ {Reply : Type} (stmt : Stmt Reply) events realm, invariant events realm →
      (∀ event, entry stmt realm = some event → ∃ call, fine call events event) →
      invariant (events ++ (entry stmt realm).toList) (execute stmt realm).2)
    (steady : ∀ events realm clock actions link, invariant events realm →
      invariant events { realm with clock := clock, actions := actions, link := link })
    (holds : invariant fleet.events fleet.state) (fits : fleet.Fits entry fine happening) :
    invariant (fleet.take entry json setup happening).events
      (fleet.take entry json setup happening).state :=
  Docket.Sound.kept_take sound holds each (fun _ same =>
    disturbed same fun clock actions link => steady _ _ clock actions link holds) fits

end Fleet

/-- In every run, nodes keep their ids and roles, their versions never fall, a row of the same
version is the same row, and a removed node stays removed. -/
theorem nodes_evolve (json : Nodes.Json) (setup : Setup) (clock : Clock)
    (early late : List Happening) :
    let take := Fleet.take (fun _ _ => (none : Option Unit)) json setup
    let middle := lastState take (Fleet.opened clock) early
    middle.state.tables.nodes.Evolve (lastState take middle late).state.tables.nodes := by
  intro take middle
  let Sound (fleet : Fleet Unit) := fleet.Sound (fun _ _ => none) fun _ _ _ _ => True
  have step happening fleet (sound : Sound fleet) : Sound (take happening fleet) ∧
      fleet.state.tables.nodes.Evolve (take happening fleet).state.tables.nodes :=
    Fleet.Sound.take (fun _ _ => tells_true _ _ _) (fun _ _ _ _ _ _ _ => trivial) sound happening
  have sound : Sound middle := lastState_of_kept Sound (Fleet.sound_opened clock)
    fun happening fleet sound => (step happening fleet sound).1
  refine (lastState_of_kept (fun fleet => Sound fleet ∧
    middle.state.tables.nodes.Evolve fleet.state.tables.nodes) ⟨sound, .refl _⟩ ?_).2
  rintro happening fleet ⟨sound, evolve⟩
  obtain ⟨later, next⟩ := step happening fleet sound
  exact ⟨later, evolve.trans next⟩

namespace Sample

def json : Nodes.Json := ⟨fun _ => .failed, fun _ => none⟩

theorem lasting : (0 : Int) ≤ 0 := Int.le_refl 0

def setup : Setup := ⟨id, 0, lasting⟩

def clock : Clock := ⟨1000 * Duration.second, by decide⟩

def calling (thread : Nat) (call : Call) (statements : Nat) : List Happening :=
  .call call :: List.replicate statements (.advance thread)

def managedSecret : String := "adm_agt_vutsrqponmlkjihgfedcba9876543210"

def joinRequest (secret : String) : EnrollRequest where
  secret := secret
  nodeID := "edge-1"
  name := ""
  address := ""
  agentVersion := "1.0"
  facts := ⟨"linux", "amd64", "6.1", "edge-1", 4, 1024, 1024, []⟩

def joining (role : Nodes.Role) : List Happening :=
  calling 0 (.issueEnrollmentToken ⟨role, "", 0, 0⟩
    ⟨some "0123456789abcdefghijklmnopqrstuv", some "token-1"⟩) 2 ++
  calling 1 (.enroll (joinRequest (tokenPrefixFor role ++ "0123456789abcdefghijklmnopqrstuv"))
    ⟨some "vutsrqponmlkjihgfedcba9876543210", some "cred-1"⟩) 2

end Sample

end Cashp.Registry
