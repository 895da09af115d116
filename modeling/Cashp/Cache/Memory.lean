import Cashp.Cache.ReferenceCore
import Cashp.Kit.Assoc

/-!
The map and the list of the cache in memory always have the same entries, and read along the list
these are the shelf of the reference.
-/

namespace Cashp.Cache

open Kit

namespace MemoryCache

variable {cache : MemoryCache} {ref other : Ref} {key : String}
variable {gone : String → MemoryEntry → Bool} {goes : String → Item → Bool}

def entry (cache : MemoryCache) (ref : Ref) : MemoryEntry :=
  cache.heap[ref]?.getD ⟨"", [], none, false⟩

def item (cache : MemoryCache) (ref : Ref) : String × Item :=
  ((cache.entry ref).key, ⟨(cache.entry ref).val, (cache.entry ref).expiresAt⟩)

def shelf (cache : MemoryCache) : Shelf String Item := cache.lru.map cache.item

structure Linked (cache : MemoryCache) : Prop where
  distinct : cache.lru.Nodup
  valid : ∀ ref ∈ cache.lru, ref < cache.heap.length ∧ (cache.entry ref).elem = true
  linked : ∀ key ref, cache.entries.lookup key = some ref ↔
    ref ∈ cache.lru ∧ (cache.entry ref).key = key

theorem heap_entry (inside : ref < cache.heap.length) :
    cache.heap[ref]? = some (cache.entry ref) := by
  rw [entry, List.getElem?_eq_getElem inside, Option.getD_some]

theorem linked_nothing (list : cache.lru = []) (map : cache.entries = ∅) : cache.Linked := by
  refine ⟨list ▸ List.nodup_nil, fun ref listed => ?_, fun key ref => ?_⟩
  · rw [list] at listed
    cases listed
  rw [list, map]
  constructor
  · intro found
    cases found
  · rintro ⟨listed, _⟩
    cases listed

namespace Linked

variable (linked : cache.Linked)

include linked

theorem listed (found : cache.entries.lookup key = some ref) : ref ∈ cache.lru :=
  ((linked.linked key ref).mp found).1

theorem named (found : cache.entries.lookup key = some ref) : (cache.entry ref).key = key :=
  ((linked.linked key ref).mp found).2

theorem found (listed : ref ∈ cache.lru) : cache.entries.lookup (cache.entry ref).key = some ref :=
  (linked.linked _ ref).mpr ⟨listed, rfl⟩

theorem heap (found : cache.entries.lookup key = some ref) :
    cache.heap[ref]? = some (cache.entry ref) :=
  heap_entry (linked.valid ref (linked.listed found)).1

theorem same (listed : ref ∈ cache.lru) (also : other ∈ cache.lru)
    (keys : (cache.entry other).key = (cache.entry ref).key) : other = ref := by
  have first := linked.found also
  rw [keys, linked.found listed] at first
  exact (Option.some.inj first).symm

theorem shelf_distinct : cache.shelf.Distinct := by
  rw [Shelf.Distinct, shelf, List.map_map]
  exact linked.distinct.map_on fun ref listed other also keys =>
    linked.same also listed keys

theorem keys_perm : (cache.lru.map fun ref => (cache.entry ref).key).Perm cache.entries.keys := by
  have distinct : (cache.lru.map fun ref => (cache.entry ref).key).Nodup := by
    have shelf := linked.shelf_distinct
    rwa [Shelf.Distinct, MemoryCache.shelf, List.map_map] at shelf
  refine (List.perm_ext_iff_of_nodup distinct cache.entries.nodupKeys).mpr fun key => ?_
  have member : key ∈ cache.entries.entries.keys ↔ (cache.entries.lookup key).isSome :=
    AList.lookup_isSome.symm
  rw [List.mem_map, member, Option.isSome_iff_exists]
  constructor
  · rintro ⟨ref, listed, rfl⟩
    exact ⟨ref, linked.found listed⟩
  · rintro ⟨ref, found⟩
    exact ⟨ref, linked.listed found, linked.named found⟩

theorem length_keys : cache.entries.keys.length = cache.lru.length := by
  rw [← linked.keys_perm.length_eq, List.length_map]

theorem lookup_shelf (key : String) :
    cache.shelf.lookup key = (cache.entries.lookup key).map fun ref => (cache.item ref).2 := by
  cases found : cache.entries.lookup key with
  | some ref =>
    rw [Option.map_some, Shelf.lookup_iff linked.shelf_distinct]
    exact List.mem_map.mpr ⟨ref, linked.listed found, by rw [item, linked.named found]⟩
  | none =>
    rw [Option.map_none, Shelf.lookup_eq_none]
    intro listed
    obtain ⟨item, there, rfl⟩ := List.mem_map.mp listed
    obtain ⟨ref, also, rfl⟩ := List.mem_map.mp there
    have led := linked.found also
    rw [show (cache.entry ref).key = (cache.item ref).1 from rfl, found] at led
    cases led

theorem shelf_without (listed : ref ∈ cache.lru) :
    cache.shelf.without (cache.entry ref).key = (cache.lru.erase ref).map cache.item := by
  rw [Shelf.without, Shelf.discard, shelf, List.filter_map, linked.distinct.erase_eq_filter]
  congr 1
  refine List.filter_congr fun other also => ?_
  by_cases same : other = ref
  · simp [same, item]
  have apart : (cache.entry other).key ≠ (cache.entry ref).key :=
    fun keys => same (linked.same listed also keys)
  rw [Function.comp_apply, item, beq_eq_false_iff_ne.mpr apart, bne_iff_ne.mpr same]
  rfl

end Linked

section

variable (linked : cache.Linked) (listed : ref ∈ cache.lru)

include linked listed

theorem removeLocked_eq : cache.removeLocked ref = { cache with
      entries := cache.entries.erase (cache.entry ref).key
      lru := cache.lru.erase ref
      heap := cache.heap.set ref { cache.entry ref with elem := false } } := by
  obtain ⟨inside, linkedElem⟩ := linked.valid ref listed
  rw [removeLocked, heap_entry inside]
  dsimp only
  rw [if_pos linkedElem]

theorem entry_removeLocked (apart : other ≠ ref) :
    (cache.removeLocked ref).entry other = cache.entry other := by
  rw [removeLocked_eq linked listed, entry, List.getElem?_set_ne (Ne.symm apart)]
  rfl

theorem shelf_removeLocked :
    (cache.removeLocked ref).shelf = cache.shelf.without (cache.entry ref).key := by
  have kept : (cache.removeLocked ref).lru = cache.lru.erase ref := by
    rw [removeLocked_eq linked listed]
  rw [linked.shelf_without listed, shelf, kept]
  refine List.map_congr_left fun other also => ?_
  have apart : other ≠ ref := fun same =>
    linked.distinct.not_mem_erase (same ▸ also)
  rw [item, item, entry_removeLocked linked listed apart]

theorem Linked.removeLocked : (cache.removeLocked ref).Linked := by
  have kept : (cache.removeLocked ref).lru = cache.lru.erase ref := by
    rw [removeLocked_eq linked listed]
  have size : (cache.removeLocked ref).heap.length = cache.heap.length := by
    rw [removeLocked_eq linked listed, List.length_set]
  have apart : ∀ other ∈ cache.lru.erase ref, other ≠ ref := fun other also same =>
    linked.distinct.not_mem_erase (same ▸ also)
  refine ⟨?_, fun other also => ?_, fun key other => ?_⟩
  · rw [kept]
    exact linked.distinct.erase ref
  · rw [kept] at also
    rw [size, entry_removeLocked linked listed (apart other also)]
    exact linked.valid other (List.mem_of_mem_erase also)
  have map : (cache.removeLocked ref).entries = cache.entries.erase (cache.entry ref).key := by
    rw [removeLocked_eq linked listed]
  rw [map, kept, lookup_erase]
  constructor
  · intro found
    split at found
    · cases found
    rename_i differs
    have there := linked.listed found
    have different : other ≠ ref := by
      rintro rfl
      exact differs (linked.named found).symm
    refine ⟨(List.mem_erase_of_ne different).mpr there, ?_⟩
    rw [entry_removeLocked linked listed different]
    exact linked.named found
  · rintro ⟨also, keyed⟩
    have different := apart other also
    rw [entry_removeLocked linked listed different] at keyed
    have there := List.mem_of_mem_erase also
    rw [if_neg, ← keyed]
    · exact linked.found there
    · rintro rfl
      exact different (linked.same listed there keyed)

end

theorem shelf_moveToFront (linked : cache.Linked) (listed : ref ∈ cache.lru) :
    (cache.moveToFront ref).shelf = cache.shelf.bring (cache.entry ref).key (cache.item ref).2 := by
  rw [Shelf.bring, linked.shelf_without listed]
  rfl

theorem Linked.moveToFront (linked : cache.Linked) (listed : ref ∈ cache.lru) :
    (cache.moveToFront ref).Linked := by
  have same : ∀ other, other ∈ ref :: cache.lru.erase ref ↔ other ∈ cache.lru := by
    grind
  refine ⟨List.nodup_cons.mpr ⟨linked.distinct.not_mem_erase, linked.distinct.erase ref⟩,
    fun other also => linked.valid other ((same other).mp also), fun key other => ?_⟩
  exact (linked.linked key other).trans (and_congr_left' (same other).symm)

def rewritten (cache : MemoryCache) (ref : Ref) (item : Item) : MemoryCache :=
  { cache with
    heap := cache.heap.modify ref fun entry =>
      { entry with val := item.val, expiresAt := item.expiresAt } }

theorem entry_rewritten (item : Item) (inside : ref < cache.heap.length) :
    (cache.rewritten ref item).entry other =
      if other = ref then { cache.entry ref with val := item.val, expiresAt := item.expiresAt }
      else cache.entry other := by
  by_cases same : other = ref
  · subst same
    rw [if_pos rfl, entry, rewritten, List.getElem?_modify_eq, heap_entry inside]
    rfl
  · rw [if_neg same, entry, rewritten, List.getElem?_modify_ne _ _ (Ne.symm same)]
    rfl

theorem Linked.rewritten (linked : cache.Linked) (listed : ref ∈ cache.lru) (item : Item) :
    (cache.rewritten ref item).Linked := by
  have inside := (linked.valid ref listed).1
  have kept : ∀ other, ((cache.rewritten ref item).entry other).key = (cache.entry other).key ∧
      ((cache.rewritten ref item).entry other).elem = (cache.entry other).elem := by
    intro other
    rw [entry_rewritten item inside]
    split
    · rename_i same
      subst same
      exact ⟨rfl, rfl⟩
    · exact ⟨rfl, rfl⟩
  refine ⟨linked.distinct, fun other also => ?_, fun key other => ?_⟩
  · rw [(kept other).2]
    refine ⟨?_, (linked.valid other also).2⟩
    exact (List.length_modify ..).symm ▸ (linked.valid other also).1
  · rw [(kept other).1]
    exact linked.linked key other

theorem shelf_rewritten (linked : cache.Linked) (listed : ref ∈ cache.lru) (item : Item) :
    ((cache.rewritten ref item).moveToFront ref).shelf =
      cache.shelf.bring (cache.entry ref).key item := by
  have inside := (linked.valid ref listed).1
  rw [Shelf.bring, linked.shelf_without listed]
  change (cache.rewritten ref item).item ref ::
    (cache.lru.erase ref).map (cache.rewritten ref item).item = _
  congr 1
  · rw [MemoryCache.item, entry_rewritten item inside, if_pos rfl]
  refine List.map_congr_left fun other also => ?_
  have apart : other ≠ ref := fun same => linked.distinct.not_mem_erase (same ▸ also)
  rw [MemoryCache.item, entry_rewritten item inside, if_neg apart]
  rfl

def added (cache : MemoryCache) (key : String) (item : Item) : MemoryCache :=
  { cache with
    heap := cache.heap ++ [⟨key, item.val, item.expiresAt, true⟩]
    lru := cache.heap.length :: cache.lru
    entries := cache.entries.insert key cache.heap.length }

theorem entry_added (item : Item) : (cache.added key item).entry cache.heap.length =
    ⟨key, item.val, item.expiresAt, true⟩ := by
  rw [entry, added, List.getElem?_concat_length]
  rfl

theorem entry_added_old (item : Item) (inside : ref < cache.heap.length) :
    (cache.added key item).entry ref = cache.entry ref := by
  rw [entry, added, List.getElem?_append_left inside]
  rfl

theorem Linked.added (linked : cache.Linked) (missing : cache.entries.lookup key = none)
    (item : Item) : (cache.added key item).Linked := by
  have fresh : cache.heap.length ∉ cache.lru := fun listed =>
    Nat.lt_irrefl _ (linked.valid _ listed).1
  refine ⟨List.nodup_cons.mpr ⟨fresh, linked.distinct⟩, fun ref listed => ?_, fun other ref => ?_⟩
  · have size : (cache.added key item).heap.length = cache.heap.length + 1 :=
      List.length_append
    rw [size]
    rcases List.mem_cons.mp listed with rfl | old
    · exact ⟨Nat.lt_succ_self _, by rw [entry_added]⟩
    · obtain ⟨inside, elem⟩ := linked.valid ref old
      exact ⟨Nat.lt_succ_of_lt inside, by rw [entry_added_old item inside, elem]⟩
  · change (cache.entries.insert key cache.heap.length).lookup other = some ref ↔
      ref ∈ cache.heap.length :: cache.lru ∧ _
    rw [lookup_insert, List.mem_cons]
    constructor
    · intro found
      split at found
      · rename_i same
        cases found
        exact ⟨.inl rfl, by rw [entry_added, same]⟩
      have old := linked.listed found
      refine ⟨.inr old, ?_⟩
      rw [entry_added_old item (linked.valid ref old).1]
      exact linked.named found
    · rintro ⟨rfl | old, keyed⟩
      · rw [entry_added] at keyed
        rw [if_pos keyed.symm]
      rw [entry_added_old item (linked.valid ref old).1] at keyed
      have found := linked.found old
      grind

theorem shelf_added (linked : cache.Linked) (item : Item) :
    (cache.added key item).shelf = (key, item) :: cache.shelf := by
  change (cache.added key item).item cache.heap.length ::
    cache.lru.map (cache.added key item).item = _
  congr 1
  · rw [MemoryCache.item, entry_added]
  refine List.map_congr_left fun ref listed => ?_
  rw [MemoryCache.item, entry_added_old item (linked.valid ref listed).1]
  rfl

theorem shelf_removeLast (linked : cache.Linked) (last : cache.lru.getLast? = some ref) :
    (cache.removeLocked ref).shelf = cache.shelf.dropLast := by
  obtain ⟨front, whole⟩ := List.getLast?_eq_some_iff.mp last
  have listed : ref ∈ cache.lru := by
    rw [whole]
    exact List.mem_append_right _ List.mem_cons_self
  have fresh : ref ∉ front := by
    have distinct := linked.distinct
    grind
  have cut : cache.lru.erase ref = front := by
    rw [whole, List.erase_append_right _ fresh, List.erase_cons_head, List.append_nil]
  rw [shelf_removeLocked linked listed, linked.shelf_without listed, cut, shelf, whole,
    List.map_append, List.map_singleton, List.dropLast_concat]

theorem evict_shelf {fuel : Nat} (linked : cache.Linked)
    (enough : cache.lru.length ≤ cache.maxEntries + fuel) :
    (evict fuel cache).Linked ∧ (evict fuel cache).maxEntries = cache.maxEntries ∧
      (evict fuel cache).closed = cache.closed ∧
      (evict fuel cache).shelf = cache.shelf.take cache.maxEntries := by
  induction fuel generalizing cache with
  | zero =>
    refine ⟨linked, rfl, rfl, (List.take_of_length_le ?_).symm⟩
    rw [shelf, List.length_map]
    exact enough
  | succ fuel ih =>
    rw [evict, linked.length_keys]
    split
    · rename_i long
      split
      · simp_all
      rename_i ref last
      have listed : ref ∈ cache.lru := List.mem_of_getLast? last
      have size : (cache.removeLocked ref).lru.length = cache.lru.length - 1 := by
        rw [removeLocked_eq linked listed, List.length_erase_of_mem listed]
      have limit : (cache.removeLocked ref).maxEntries = cache.maxEntries := by
        rw [removeLocked_eq linked listed]
      have shut : (cache.removeLocked ref).closed = cache.closed := by
        rw [removeLocked_eq linked listed]
      obtain ⟨still, same, also, cut⟩ := ih (linked.removeLocked listed) (by omega)
      refine ⟨still, same.trans limit, also.trans shut, ?_⟩
      rw [cut, limit, shelf_removeLast linked last, List.dropLast_eq_take, List.take_take,
        Nat.min_eq_left]
      rw [shelf, List.length_map]
      omega
    · rename_i fits
      refine ⟨linked, rfl, rfl, (List.take_of_length_le ?_).symm⟩
      rw [shelf, List.length_map]
      omega

def removeWhere (gone : String → MemoryEntry → Bool) (cache : MemoryCache)
    (visited : Sigma fun _ : String => Ref) : MemoryCache :=
  match cache.heap[visited.2]? with
  | none => cache
  | some entry => if gone visited.1 entry then cache.removeLocked visited.2 else cache

structure Remains (before after : MemoryCache) : Prop where
  linked : after.Linked
  limit : after.maxEntries = before.maxEntries
  closed : after.closed = before.closed

section

variable (alike : ∀ key entry, gone key entry = goes key ⟨entry.val, entry.expiresAt⟩)

include alike

theorem removeWhere_eq (linked : cache.Linked) (found : cache.entries.lookup key = some ref) :
    Remains cache (cache.removeWhere gone ⟨key, ref⟩) ∧
      (cache.removeWhere gone ⟨key, ref⟩).shelf =
        cache.shelf.discard (fun other item => other == key && goes other item) ∧
      ∀ other, other ≠ key →
        (cache.removeWhere gone ⟨key, ref⟩).entries.lookup other = cache.entries.lookup other := by
  have listed := linked.listed found
  have keyed := linked.named found
  have own : (cache.item ref).2 = ⟨(cache.entry ref).val, (cache.entry ref).expiresAt⟩ := rfl
  have single : ∀ other item, (other, item) ∈ cache.shelf → other = key →
      item = (cache.item ref).2 := by
    rintro other item there rfl
    have seen := (Shelf.lookup_iff linked.shelf_distinct).mpr there
    rw [linked.lookup_shelf, found] at seen
    exact (Option.some.inj seen).symm
  rw [removeWhere, linked.heap found]
  dsimp only
  rw [alike key (cache.entry ref), ← own]
  split
  · rename_i going
    refine ⟨⟨linked.removeLocked listed, ?_, ?_⟩, ?_, fun other apart => ?_⟩
    · rw [removeLocked_eq linked listed]
    · rw [removeLocked_eq linked listed]
    · rw [shelf_removeLocked linked listed, keyed]
      refine Shelf.discard_congr fun other item there => ?_
      grind
    · rw [removeLocked_eq linked listed, keyed, lookup_erase, if_neg apart]
  · rename_i staying
    refine ⟨⟨linked, rfl, rfl⟩, (Shelf.discard_none fun other item there => ?_).symm,
      fun _ _ => rfl⟩
    grind

theorem foldl_removeWhere
    {visits : List (Sigma fun _ : String => Ref)} (distinct : (visits.map Sigma.fst).Nodup)
    (linked : cache.Linked)
    (found : ∀ visited ∈ visits, cache.entries.lookup visited.1 = some visited.2) :
    Remains cache (visits.foldl (removeWhere gone) cache) ∧
      (visits.foldl (removeWhere gone) cache).shelf = cache.shelf.discard (fun other item =>
        decide (other ∈ visits.map Sigma.fst) && goes other item) := by
  induction visits generalizing cache with
  | nil =>
    exact ⟨⟨linked, rfl, rfl⟩, (Shelf.discard_none fun _ _ _ => rfl).symm⟩
  | cons first rest ih =>
    obtain ⟨fresh, others⟩ := List.nodup_cons.mp distinct
    obtain ⟨remains, one, still⟩ := removeWhere_eq alike linked (found first List.mem_cons_self)
    obtain ⟨kept, all⟩ := ih others remains.linked fun visited later => by
      grind
    refine ⟨⟨kept.linked, kept.limit.trans remains.limit, kept.closed.trans remains.closed⟩, ?_⟩
    rw [List.foldl_cons, all, one, Shelf.discard_discard]
    refine Shelf.discard_congr fun other item _ => ?_
    have split : decide (other ∈ (first :: rest).map Sigma.fst) =
        (other == first.1 || decide (other ∈ rest.map Sigma.fst)) := by
      grind
    rw [split, Bool.and_or_distrib_right]

theorem removeEach_shelf
    (linked : cache.Linked) (order : RangeOrder) : Remains cache (cache.removeEach gone order) ∧
      (cache.removeEach gone order).shelf = cache.shelf.discard goes := by
  have visits := order.perm cache.entries.entries
  have distinct : ((order.arrange cache.entries.entries).map Sigma.fst).Nodup :=
    (visits.map Sigma.fst).nodup_iff.mpr cache.entries.nodupKeys
  obtain ⟨remains, all⟩ := foldl_removeWhere alike distinct linked fun visited there =>
    AList.mem_lookup_iff.mpr (visits.mem_iff.mp there)
  refine ⟨remains, all.trans (Shelf.discard_congr fun key item there => ?_)⟩
  obtain ⟨ref, listed, same⟩ := List.mem_map.mp there
  have visited : key ∈ (order.arrange cache.entries.entries).map Sigma.fst := by
    rw [(visits.map Sigma.fst).mem_iff]
    refine List.mem_map.mpr ⟨_, AList.mem_lookup_iff.mp (linked.found listed), ?_⟩
    exact congrArg Prod.fst same
  rw [decide_eq_true visited, Bool.true_and]

end

theorem storeLocked_shelf (linked : cache.Linked) (fits : cache.lru.length ≤ cache.maxEntries)
    (key : String) (val : Bytes) (ttl now : Int) :
    Remains cache (cache.storeLocked key val ttl now) ∧ (cache.storeLocked key val ttl now).shelf =
        cache.shelf.store cache.maxEntries key (.stored val ttl now) := by
  cases found : cache.entries.lookup key with
  | some ref =>
    have listed := linked.listed found
    have same : cache.storeLocked key val ttl now =
        (cache.rewritten ref (.stored val ttl now)).moveToFront ref := by
      rw [storeLocked, found]
      rfl
    rw [same]
    refine ⟨⟨(linked.rewritten listed _).moveToFront listed, rfl, rfl⟩, ?_⟩
    rw [shelf_rewritten linked listed, linked.named found, Shelf.store, List.take_of_length_le]
    have there : cache.shelf.lookup key = some (cache.item ref).2 := by
      rw [linked.lookup_shelf, found, Option.map_some]
    have size : cache.shelf.length = cache.lru.length := List.length_map _
    exact Nat.le_trans (Shelf.length_bring_le there) (size ▸ fits)
  | none =>
    have same : cache.storeLocked key val ttl now =
        evict (cache.lru.length + 1) (cache.added key (.stored val ttl now)) := by
      rw [storeLocked, found]
      rfl
    have missing : key ∉ cache.shelf.map Prod.fst := by
      rw [← Shelf.lookup_eq_none, linked.lookup_shelf, found, Option.map_none]
    obtain ⟨kept, limit, closed, cut⟩ := evict_shelf (linked.added found (.stored val ttl now))
      (Nat.le_trans (Nat.le_refl (cache.lru.length + 1)) (Nat.le_add_left _ _))
    rw [same]
    refine ⟨⟨kept, limit, closed⟩, cut.trans ?_⟩
    rw [shelf_added linked, Shelf.store, Shelf.bring, Shelf.without_of_missing missing]
    rfl

end MemoryCache

structure Represents (cache : MemoryCache) (reference : Reference) : Prop where
  linked : cache.Linked
  shelf : cache.shelf = reference.shelf
  limit : cache.maxEntries = reference.limit
  closed : cache.closed = reference.closed
  fits : reference.shelf.length ≤ reference.limit

variable {cache : MemoryCache} {reference : Reference} {key : String}

theorem represents_opened (maxEntries : Int) :
    Represents (newMemory maxEntries) (.opened (newMemory maxEntries).maxEntries) :=
  ⟨MemoryCache.linked_nothing rfl rfl, rfl, rfl, rfl, Nat.zero_le _⟩

namespace Represents

variable (represents : Represents cache reference)

include represents

theorem refusal_eq (ctx : Context) (text : String) (missing : CacheError) :
    cache.refusal ctx text missing = reference.refusal ctx text missing := by
  cases ctx with
  | some => rfl
  | none =>
    change (if text = "" then _ else if cache.closed then _ else _) = _
    rw [represents.closed]
    rfl

theorem short : cache.lru.length ≤ cache.maxEntries := by
  have size : cache.shelf.length = cache.lru.length := List.length_map _
  rw [← size, represents.shelf, represents.limit]
  exact represents.fits

theorem next {after : MemoryCache} {shelf : Shelf String Item} (remains : cache.Remains after)
    (seen : after.shelf = shelf) (fits : shelf.length ≤ reference.limit) :
    Represents after { reference with shelf := shelf } :=
  ⟨remains.linked, seen, remains.limit.trans represents.limit,
    remains.closed.trans represents.closed, fits⟩

theorem lookup_eq : reference.shelf.lookup key =
    (cache.entries.lookup key).map fun ref => (cache.item ref).2 := by
  rw [← represents.shelf, represents.linked.lookup_shelf]

theorem removeLocked {ref : Ref} (found : cache.entries.lookup key = some ref) :
    Represents (cache.removeLocked ref)
      { reference with shelf := reference.shelf.without key } := by
  have listed := represents.linked.listed found
  refine represents.next ⟨represents.linked.removeLocked listed, ?_, ?_⟩ ?_
    (Nat.le_trans (List.length_filter_le _ _) represents.fits)
  · rw [MemoryCache.removeLocked_eq represents.linked listed]
  · rw [MemoryCache.removeLocked_eq represents.linked listed]
  · rw [MemoryCache.shelf_removeLocked represents.linked listed, represents.linked.named found,
      represents.shelf]

theorem storeLocked (key : String) (val : Bytes) (ttl now : Int) :
    Represents (cache.storeLocked key val ttl now) { reference with
        shelf := reference.shelf.store reference.limit key (.stored val ttl now) } := by
  obtain ⟨remains, seen⟩ :=
    MemoryCache.storeLocked_shelf represents.linked represents.short key val ttl now
  refine represents.next remains ?_ (List.length_take_le _ _)
  rw [seen, represents.shelf, represents.limit]

theorem removeEach (gone : String → MemoryEntry → Bool) (goes : String → Item → Bool)
    (alike : ∀ key entry, gone key entry = goes key ⟨entry.val, entry.expiresAt⟩)
    (order : RangeOrder) : Represents (cache.removeEach gone order)
      { reference with shelf := reference.shelf.discard goes } := by
  obtain ⟨remains, seen⟩ := MemoryCache.removeEach_shelf alike represents.linked order
  refine represents.next remains ?_ (Nat.le_trans (List.length_filter_le _ _) represents.fits)
  rw [seen, represents.shelf]

def Agree (served : Answer × MemoryCache) (referred : Answer × Reference) : Prop :=
  served.1 = referred.1 ∧ Represents served.2 referred.2

theorem locked {Value : Type} {ctx : Context} {text : String} {missing : CacheError}
    {wrap : Value → Reply} {act : MemoryCache → Value × MemoryCache}
    {intent : Shelf String Item → Reply × Shelf String Item}
    (met : wrap (act cache).1 = (intent reference.shelf).1 ∧
      Represents (act cache).2 { reference with shelf := (intent reference.shelf).2 }) :
    Agree ((cache.locked ctx text missing act).map (·.map wrap) id)
      (reference.guarded ctx text missing intent) := by
  rw [MemoryCache.locked, Reference.guarded, represents.refusal_eq]
  cases reference.refusal ctx text missing with
  | some => exact ⟨rfl, represents⟩
  | none => exact ⟨congrArg Except.ok met.1, met.2⟩

theorem get (ctx : Context) (key : String) (now : Int) :
    Agree ((Request.get ctx key now).serve cache) ((Request.get ctx key now).refer reference) := by
  refine represents.locked ?_
  rw [fetch, represents.lookup_eq]
  cases found : cache.entries.lookup key with
  | none => exact ⟨rfl, represents⟩
  | some ref =>
    have listed := represents.linked.listed found
    have read := represents.linked.heap found
    have same : (cache.item ref).2.expired now = (cache.entry ref).expired now := rfl
    simp only [read, Option.map_some, same]
    cases (cache.entry ref).expired now with
    | true => exact ⟨rfl, represents.removeLocked found⟩
    | false =>
      refine ⟨rfl, represents.next ⟨represents.linked.moveToFront listed, rfl, rfl⟩ ?_ ?_⟩
      · change (cache.moveToFront ref).shelf = _
        rw [MemoryCache.shelf_moveToFront represents.linked listed, represents.shelf,
          represents.linked.named found]
        rfl
      · have there : reference.shelf.lookup key = some (cache.item ref).2 := by
          rw [represents.lookup_eq, found, Option.map_some]
        exact Nat.le_trans (Shelf.length_bring_le there) represents.fits

theorem set (ctx : Context) (key : String) (val : Bytes) (ttl now : Int) :
    Agree ((Request.set ctx key val ttl now).serve cache)
      ((Request.set ctx key val ttl now).refer reference) :=
  represents.locked ⟨rfl, represents.storeLocked key val ttl now⟩

theorem setNX (ctx : Context) (key : String) (val : Bytes) (ttl checked stored : Int) :
    Agree ((Request.setNX ctx key val ttl checked stored).serve cache)
      ((Request.setNX ctx key val ttl checked stored).refer reference) := by
  refine represents.locked ?_
  rw [represents.lookup_eq]
  cases found : cache.entries.lookup key with
  | none => exact ⟨rfl, represents.storeLocked key val ttl stored⟩
  | some ref =>
    have read := represents.linked.heap found
    have same : (cache.item ref).2.expired checked = (cache.entry ref).expired checked := rfl
    simp only [read, Option.map_some, Option.any_some, same]
    cases (cache.entry ref).expired checked with
    | true =>
      have again := (represents.removeLocked found).storeLocked key val ttl stored
      rw [Shelf.store_without] at again
      exact ⟨rfl, again⟩
    | false => exact ⟨rfl, represents⟩

theorem delete (ctx : Context) (key : String) :
    Agree ((Request.delete ctx key).serve cache) ((Request.delete ctx key).refer reference) := by
  refine represents.locked ?_
  cases found : cache.entries.lookup key with
  | some => exact ⟨rfl, represents.removeLocked found⟩
  | none =>
    have missing : key ∉ reference.shelf.map Prod.fst := by
      rw [← Shelf.lookup_eq_none, represents.lookup_eq, found, Option.map_none]
    dsimp only
    rw [Shelf.without_of_missing missing]
    exact ⟨rfl, represents⟩

theorem deletePrefix (ctx : Context) (start : String) (order : RangeOrder) :
    Agree ((Request.deletePrefix ctx start order).serve cache)
      ((Request.deletePrefix ctx start order).refer reference) :=
  represents.locked ⟨rfl, represents.removeEach (fun key _ => MemoryCache.hasPrefix key start)
    (fun key _ => MemoryCache.hasPrefix key start) (fun _ _ => rfl) order⟩

theorem sweep (now : Int) (order : RangeOrder) :
    Agree ((Request.sweep now order).serve cache) ((Request.sweep now order).refer reference) := by
  refine ⟨rfl, ?_⟩
  change Represents (cache.sweep now order) (if _ then _ else _)
  rw [MemoryCache.sweep, represents.closed]
  split
  · exact represents
  · exact represents.removeEach (fun _ entry => entry.expired now)
      (fun _ item => item.expired now) (fun _ _ => rfl) order

theorem release : Agree (Request.release.serve cache) (Request.release.refer reference) := by
  refine ⟨rfl, ?_⟩
  change Represents cache.release (if _ then _ else _)
  rw [MemoryCache.release, represents.closed]
  split
  · exact ⟨MemoryCache.linked_nothing rfl rfl, rfl, represents.limit, rfl, Nat.zero_le _⟩
  · exact represents

theorem length_eq : cache.len = reference.shelf.length := by
  rw [MemoryCache.len, represents.linked.length_keys, ← represents.shelf]
  exact (List.length_map _).symm

theorem serve (request : Request) : Agree (request.serve cache) (request.refer reference) := by
  cases request with
  | get ctx key now => exact represents.get ctx key now
  | set ctx key val ttl now => exact represents.set ctx key val ttl now
  | setNX ctx key val ttl checked stored => exact represents.setNX ctx key val ttl checked stored
  | delete ctx key => exact represents.delete ctx key
  | deletePrefix ctx start order => exact represents.deletePrefix ctx start order
  | sweep now order => exact represents.sweep now order
  | close =>
    have linked : cache.close.Linked :=
      ⟨represents.linked.distinct, represents.linked.valid, represents.linked.linked⟩
    exact ⟨rfl, linked, represents.shelf, represents.limit, rfl, represents.fits⟩
  | release => exact represents.release
  | len =>
    refine ⟨?_, represents⟩
    change Except.ok (Reply.length cache.len) = .ok (.length reference.shelf.length)
    rw [represents.length_eq]

end Represents

end Cashp.Cache
