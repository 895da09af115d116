import Cashp.Cache.Memory
import Cashp.Cache.Reference

/-!
Whatever is called, and in whatever order, the cache in memory answers as the reference does. A
larger cache finds whatever a smaller one finds.
-/

namespace Cashp.Cache

open Kit

variable {key : String} {reference : Reference} {past : List (Request × Answer)}
variable {cache : MemoryCache}

def after {State : Type} (serve : Request → State → Answer × State) (state : State)
    (requests : List Request) : State :=
  lastState (fun request state => (serve request state).2) state requests

theorem after_limit (requests : List Request) :
    (after Request.refer reference requests).limit = reference.limit :=
  lastState_of_kept (fun later : Reference => later.limit = reference.limit) rfl
    fun request _ same => (refer_limit request).trans same

theorem Current.run (current : Current past reference) (requests : List Request) :
    Current (past ++ history Request.refer reference requests)
      (after Request.refer reference requests) := by
  induction requests generalizing past reference with
  | nil =>
    rw [history, List.append_nil]
    exact current
  | cons request rest ih =>
    have later := ih (current.refer request)
    rw [List.append_assoc] at later
    exact later

theorem Represents.run (represents : Represents cache reference) (requests : List Request) :
    history Request.serve cache requests = history Request.refer reference requests ∧
      Represents (after Request.serve cache requests) (after Request.refer reference requests) := by
  induction requests generalizing cache reference with
  | nil => exact ⟨rfl, represents⟩
  | cons request rest ih =>
    obtain ⟨same, next⟩ := represents.serve request
    obtain ⟨later, last⟩ := ih next
    refine ⟨?_, last⟩
    rw [history, history, same, later]

theorem Represents.get_found (represents : Represents cache reference)
    {ctx : Context} {now : Int} {val : Bytes} (found : (cache.get ctx key now).1 = .ok (some val)) :
    ∃ item, (key, item) ∈ reference.shelf ∧ item.val = val ∧ item.expired now = false := by
  have same := (represents.get ctx key now).1
  have answer : ((Request.get ctx key now).serve cache).1 = .ok (.found (some val)) :=
    congrArg (·.map Reply.found) found
  exact fetch_found (same.symm.trans answer)

/-- The cache answers as the reference, never holds more, has the same keys in its map and its list,
and returns only what was stored last and has not expired. -/
theorem memory_refines_reference (maxEntries : Int) (requests : List Request) :
    let limit := if maxEntries ≤ 0 then defaultMaxEntries else maxEntries.toNat
    let cache := after Request.serve (newMemory maxEntries) requests
    let keys := cache.lru.map fun ref => (cache.entry ref).key
    history Request.serve (newMemory maxEntries) requests =
        history Request.refer (.opened limit) requests ∧
      cache.len ≤ limit ∧ keys.Perm cache.entries.keys ∧ keys.Nodup ∧
      ∀ ctx key now val, (cache.get ctx key now).1 = .ok (some val) →
        ∃ item, lastWritten key (history Request.serve (newMemory maxEntries) requests) =
          some item ∧ item.val = val ∧ item.expired now = false := by
  intro limit cache keys
  obtain ⟨same, represents⟩ := (represents_opened maxEntries).run requests
  have current : Current [] (.opened limit) := nofun
  have perm : keys.Perm cache.entries.keys := represents.linked.keys_perm
  have size : cache.len ≤ limit := by
    have fits := represents.fits
    rw [after_limit, ← represents.length_eq] at fits
    exact fits
  refine ⟨same, size, perm, perm.nodup_iff.mpr cache.entries.nodupKeys, ?_⟩
  intro ctx key now val found
  obtain ⟨item, there, value, fresh⟩ := represents.get_found found
  rw [same]
  exact ⟨item, current.run requests (key, item) there, value, fresh⟩

structure Outdoes (spare : Nat) (large small : Reference) : Prop where
  shelf : small.shelf.Covers spare large.shelf
  limit : large.limit = small.limit + spare
  closed : large.closed = small.closed

def Request.conditional : Request → Bool
  | .setNX .. => true
  | _ => false

namespace Outdoes

variable {spare : Nat} {small large : Reference} {ctx : Context} {now : Int}
variable (outdoes : Outdoes spare large small)

include outdoes

theorem refusal (ctx : Context) (text : String) (missing : CacheError) :
    large.refusal ctx text missing = small.refusal ctx text missing := by
  unfold Reference.refusal
  rw [outdoes.closed]

theorem guarded {text : String} {missing : CacheError}
    {act more : Shelf String Item → Reply × Shelf String Item}
    (kept : (act small.shelf).2.Covers spare (more large.shelf).2) :
    Outdoes spare (large.guarded ctx text missing more).2
      (small.guarded ctx text missing act).2 := by
  rw [Reference.guarded, Reference.guarded, outdoes.refusal]
  cases small.refusal ctx text missing with
  | some => exact outdoes
  | none => exact ⟨kept, outdoes.limit, outdoes.closed⟩

variable (distinct : large.shelf.Distinct)

include distinct

theorem fetch : (fetch key now small.shelf).2.Covers spare (fetch key now large.shelf).2 := by
  unfold Cache.fetch
  cases here : small.shelf.lookup key with
  | some item =>
    rw [lookup_own distinct (outdoes.shelf.1.subset (Shelf.lookup_mem here))]
    dsimp only
    split
    · exact outdoes.shelf.without key
    · exact outdoes.shelf.bring key item
  | none =>
    cases there : large.shelf.lookup key with
    | none => exact outdoes.shelf
    | some item =>
      dsimp only
      split
      · have covers := outdoes.shelf.without key
        rwa [Shelf.without_of_missing (Shelf.lookup_eq_none.mp here)] at covers
      · exact outdoes.shelf.bring_missing here there

theorem refer {request : Request} (plain : request.conditional = false) :
    Outdoes spare (request.refer large).2 (request.refer small).2 := by
  cases request with
  | get => exact outdoes.guarded (outdoes.fetch distinct)
  | set =>
    refine outdoes.guarded ?_
    rw [outdoes.limit]
    exact outdoes.shelf.store _ _ _
  | setNX => cases plain
  | delete ctx key => exact outdoes.guarded (outdoes.shelf.without key)
  | deletePrefix ctx start =>
    exact outdoes.guarded (outdoes.shelf.discard fun key _ => MemoryCache.hasPrefix key start)
  | sweep now =>
    rw [Request.refer, Request.refer, outdoes.closed]
    split
    · exact outdoes
    · exact ⟨outdoes.shelf.discard fun _ item => item.expired now, outdoes.limit, rfl⟩
  | close => exact ⟨outdoes.shelf, outdoes.limit, rfl⟩
  | release =>
    rw [Request.refer, Request.refer, outdoes.closed]
    split
    · exact ⟨⟨List.Sublist.refl _, Nat.zero_le _⟩, outdoes.limit, rfl⟩
    · exact outdoes
  | len => exact outdoes

theorem found {val : Bytes}
    (hit : ((Request.get ctx key now).refer small).1 = .ok (.found (some val))) :
    ((Request.get ctx key now).refer large).1 = .ok (.found (some val)) := by
  obtain ⟨item, there, rfl, fresh⟩ := fetch_found hit
  have listed := lookup_own distinct (outdoes.shelf.1.subset there)
  rw [Request.refer, Reference.guarded] at hit ⊢
  rw [outdoes.refusal]
  cases refused : small.refusal ctx key .emptyKey with
  | some =>
    rw [refused] at hit
    cases hit
  | none => simp [Cache.fetch, listed, fresh]

end Outdoes

theorem Outdoes.run {spare : Nat} {small large : Reference} {requests : List Request}
    (outdoes : Outdoes spare large small) (represents : Represents cache large)
    (plain : ∀ request ∈ requests, request.conditional = false) :
    Outdoes spare (after Request.refer large requests) (after Request.refer small requests) := by
  induction requests generalizing cache large small with
  | nil => exact outdoes
  | cons request rest ih =>
    have distinct : large.shelf.Distinct := represents.shelf ▸ represents.linked.shelf_distinct
    exact ih (outdoes.refer distinct (plain request List.mem_cons_self))
      (represents.serve request).2 fun other later => plain other (List.mem_cons_of_mem _ later)

/-- Without `SetNX`, a larger cache never misses what a smaller one finds. -/
theorem larger_cache_finds {few many : Int} {requests : List Request}
    (larger : (newMemory few).maxEntries ≤ (newMemory many).maxEntries)
    (plain : ∀ request ∈ requests, request.conditional = false) {ctx : Context} {now : Int}
    {val : Bytes}
    (found : ((Request.get ctx key now).serve (after Request.serve (newMemory few) requests)).1 =
      .ok (.found (some val))) :
    ((Request.get ctx key now).serve (after Request.serve (newMemory many) requests)).1 =
      .ok (.found (some val)) := by
  have small := ((represents_opened few).run requests).2
  have large := ((represents_opened many).run requests).2
  have opened : Outdoes _ (.opened (newMemory many).maxEntries)
      (.opened (newMemory few).maxEntries) :=
    ⟨⟨List.Sublist.refl _, Nat.zero_le _⟩, (Nat.add_sub_of_le larger).symm, rfl⟩
  have distinct := large.linked.shelf_distinct
  rw [large.shelf] at distinct
  rw [(small.serve _).1] at found
  rw [(large.serve _).1]
  exact (opened.run (represents_opened many) plain).found distinct found

theorem second_entry_found :
    let requests : List Request := [.set none "a" [1] 0 0, .set none "b" [2] 0 0]
    ((Request.get none "b" 0).serve (after Request.serve (newMemory 2) requests)).1 =
      .ok (.found (some [2])) := by
  intro requests
  exact @larger_cache_finds "b" 1 2 requests (by decide) (by decide) _ _ _ (by decide +kernel)

end Cashp.Cache
