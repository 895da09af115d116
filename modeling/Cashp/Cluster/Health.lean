import Cashp.Cluster.StoreCore
import Cashp.Kit.Table

/-!
Which nodes are healthy. `DeriveState` goes by the exact age of the last heartbeat; the queries
compare whole seconds.
-/

namespace Cashp.Cluster

open Kit Duration

def offlineAfter : Int := 5 * minute

inductive NodeState
  | healthy
  | degraded
  | stale
  | offline
deriving DecidableEq

def deriveState (lastSeen : Int) (stale : Bool) (now : Int) : NodeState :=
  let age := between lastSeen now
  if offlineAfter ≤ age then .offline
  else if stale then .stale
  else if degradedAfter ≤ age then .degraded
  else .healthy

def Member.state (member : Member) (now : Int) : NodeState :=
  deriveState (member.lastSeen * second) member.stale now

def Store.hasQuorum (store : Store) (now : Int) : Bool :=
  let total := store.nodes.rows.length
  if total = 0 then true else decide (total / 2 + 1 ≤ (store.healthyNodes now).length)

variable {now : Int}

theorem state_eq_healthy (member : Member) : member.state now = .healthy ↔
    member.stale = false ∧ now - member.lastSeen * second < degradedAfter := by
  have degraded : degradedAfter = 90000000000 := rfl
  have offline : offlineAfter = 300000000000 := rfl
  have long : longest = 2 ^ 63 - 1 := rfl
  have short : shortest = -2 ^ 63 := rfl
  unfold Member.state deriveState between
  cases member.stale with
  | true => grind
  | false => grind

theorem healthy_eq_state (member : Member)
    (clear : member.stale = false → member.lastSeen ≠ (now - degradedAfter) / second) :
    member.healthy now = decide (member.state now = .healthy) := by
  have counted : second = 1000000000 := rfl
  have degraded : degradedAfter = 90000000000 := rfl
  rw [Bool.eq_iff_iff]
  simp only [Member.healthy, Bool.and_eq_true, decide_eq_true_iff, Bool.not_eq_true',
    state_eq_healthy]
  grind

theorem cutoff_differs {member : Member} (good : member.stale = false)
    (seen : member.lastSeen = (now - degradedAfter) / second) :
    member.healthy now = true ∧ member.state now ≠ .healthy := by
  have counted : second = 1000000000 := rfl
  have degraded : degradedAfter = 90000000000 := rfl
  rw [Ne, state_eq_healthy]
  grind [Member.healthy]

/-- Those that are listed, those that count for the quorum and the one the election prefers are the
healthy ones just if no good node was seen in the second of the cutoff. -/
theorem healthy_nodes_agree (store : Store) (now : Int) :
    let healthy := store.nodes.rows.filter fun node => node.state now = .healthy
    ((∀ id, id ∈ store.healthyNodes now ↔ ∃ node ∈ healthy, node.nodeID = id) ∧
      store.hasQuorum now = decide (store.nodes.rows = [] ∨
        store.nodes.rows.length / 2 + 1 ≤ healthy.length) ∧
      store.lowestHealthyNode now = ((healthy.map Member.nodeID).min?).getD "") ↔
      ∀ node ∈ store.nodes.rows, node.stale = false →
        node.lastSeen ≠ (now - degradedAfter) / second := by
  intro healthy
  have sorted : (store.healthyNodes now).Perm
      ((store.nodes.select fun node => node.healthy now).map Member.nodeID) :=
    (List.perm_insertionSort _ _).map _
  refine ⟨fun all node listed good seen => ?_, fun clear => ?_⟩
  -- A node seen on the cutoff is healthy in the list and degraded by its state.
  · obtain ⟨agree, _⟩ := all
    obtain ⟨fresh, degraded⟩ := cutoff_differs good seen
    have counted : node.nodeID ∈ store.healthyNodes now :=
      sorted.mem_iff.mpr (List.mem_map_of_mem (List.mem_filter.mpr ⟨listed, fresh⟩))
    obtain ⟨other, kept, named⟩ := (agree node.nodeID).mp counted
    obtain ⟨there, fine⟩ := List.mem_filter.mp kept
    have distinct := store.nodes.unique Member.nodeID List.mem_cons_self
    rw [List.inj_on_of_nodup_map distinct there listed named] at fine
    exact degraded (of_decide_eq_true fine)
  have same : (store.nodes.select fun node => node.healthy now) = healthy :=
    List.filter_congr fun node listed => healthy_eq_state node (clear node listed)
  rw [same] at sorted
  refine ⟨fun id => ?_, ?_, ?_⟩
  · rw [sorted.mem_iff, List.mem_map]
  · unfold Store.hasQuorum
    rw [sorted.length_eq, List.length_map]
    cases store.nodes.rows with
    | nil => rfl
    | cons => simp
  · unfold Store.lowestHealthyNode
    rw [same]

def lastBeat (nodeID : String) (lastSeen : Int) : Member :=
  ⟨nodeID, "10.0.0.1", "1.0.0", "abc", {}, 0, lastSeen, false, 1⟩

def beats : Store := ⟨⟨[lastBeat "a" 10, lastBeat "b" 95], by decide⟩, .empty⟩

theorem second_node_leads : (∀ node ∈ beats.nodes.rows, node.stale = false →
        node.lastSeen ≠ (120 * second - degradedAfter) / second) ∧
      beats.lowestHealthyNode (120 * second) = "b" := by
  have clear : ∀ node ∈ beats.nodes.rows, node.stale = false →
      node.lastSeen ≠ (120 * second - degradedAfter) / second := by decide
  refine ⟨clear, ((healthy_nodes_agree beats (120 * second)).mpr clear).2.2.trans ?_⟩
  decide

/-- Ninety seconds after its heartbeat the node is degraded and listed as healthy. -/
theorem degraded_node_listed : (lastBeat "a" 10).state (100 * second) = .degraded ∧
      beats.healthyNodes (100 * second) = ["a", "b"] ∧
      beats.lowestHealthyNode (100 * second) = "a" := by
  decide +kernel

end Cashp.Cluster
