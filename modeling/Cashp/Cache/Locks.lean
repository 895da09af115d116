import Cashp.Cache.Refinement
import Cashp.Kit.Account
import Cashp.Kit.Hindsight
import Cashp.Kit.Text

/-!
Locks in the cache (`cache.go`). Every operation of the cache is atomic and reads the clock; a call
of `ReleaseLock` consists of two. Everything else the cache is used for can push a lock out.
-/

namespace Cashp.Cache

open Kit

def keptChar (char : Char) : Bool :=
  ('a' ≤ char && char ≤ 'z') || ('0' ≤ char && char ≤ '9') ||
    char == '.' || char == '_' || char == '-' || char == '='

def normalizeSegment (part : String) : String :=
  String.ofList ((lowerText (trimSpace part)).toList.map fun char =>
    if keptChar char then char else '-')

def keyOf (parts : List String) : String :=
  ":".intercalate ((parts.map normalizeSegment).filter (· != ""))

def lockKey (resource : String) : String := keyOf ["lock", resource]

def bytes (text : String) : Bytes := text.toUTF8.data.toList

/-- The operations of the cache. While `setNX` has the mutex some time passes between its two
readings, and the janitor's reading may be a little old. -/
inductive Operation
  | get (ctx : Context) (key : String)
  | set (ctx : Context) (key : String) (val : Bytes) (ttl : Int)
  | setNX (ctx : Context) (key : String) (val : Bytes) (ttl : Int) (lapse : Nat)
  | delete (ctx : Context) (key : String)
  | deletePrefix (ctx : Context) (start : String) (order : RangeOrder)
  | sweep (lag : Nat) (order : RangeOrder)
  | close
  | release
  | len

namespace Operation

def request (now : Int) : Operation → Request
  | get ctx key => .get ctx key now
  | set ctx key val ttl => .set ctx key val ttl now
  | setNX ctx key val ttl lapse => .setNX ctx key val ttl now (now + lapse)
  | delete ctx key => .delete ctx key
  | deletePrefix ctx start order => .deletePrefix ctx start order
  | sweep lag order => .sweep (now - lag) order
  | close => .close
  | release => .release
  | len => .len

def lapse : Operation → Nat
  | setNX _ _ _ _ lapse => lapse
  | _ => 0

end Operation

structure Site where
  cache : MemoryCache
  clock : Int

inductive Command : Type → Type 1
  | operate (operation : Operation) : Command Answer

instance : Machine Command Site where
  execute
    | .operate operation, site =>
      let served := (operation.request site.clock).serve site.cache
      (served.1, ⟨served.2, site.clock + operation.lapse⟩)

abbrev Work := Program Command CacheError Reply

def operate (operation : Operation) : Work := do
  let answer ← .perform (.operate operation)
  .ofExcept answer

def acquireLock (ctx : Context) (resource owner : String) (ttl : Int) (lapse : Nat) : Work := do
  .refuse (ttl ≤ 0) .lockTTL
  operate (.setNX ctx (lockKey resource) (bytes owner) ttl lapse)

def releaseLock (ctx : Context) (resource owner : String) : Work := do
  let found ← operate (.get ctx (lockKey resource))
  if found = .found (some (bytes owner)) then operate (.delete ctx (lockKey resource))
  else return .finished

inductive Call
  | operate (operation : Operation)
  | acquireLock (ctx : Context) (resource owner : String) (ttl : Int) (lapse : Nat)
  | releaseLock (ctx : Context) (resource owner : String)

def serve : Call → Work
  | .operate operation => operate operation
  | .acquireLock ctx resource owner ttl lapse => acquireLock ctx resource owner ttl lapse
  | .releaseLock ctx resource owner => releaseLock ctx resource owner

def MemoryCache.victim (cache : MemoryCache) (key : String) : Option String :=
  if (cache.entries.lookup key).isNone && decide (cache.maxEntries ≤ cache.len) then
    cache.lru.getLast?.bind fun ref => cache.heap[ref]?.map MemoryEntry.key
  else none

structure Note where
  operation : Operation
  now : Int
  answer : Answer
  evicted : Option String

def evicted (operation : Operation) (cache : MemoryCache) : Option String :=
  match operation with
  | .set _ key _ _ | .setNX _ key _ _ _ => cache.victim key
  | _ => none

def noted (operation : Operation) (site : Site) : Note :=
  let answer := ((operation.request site.clock).serve site.cache).1
  ⟨operation, site.clock, answer, if answer.isOk then evicted operation site.cache else none⟩

def observed {Reply : Type} (command : Command Reply) (site : Site) : Option Note :=
  match command with
  | .operate operation => some (noted operation site)

abbrev Desk := Docket Command CacheError Reply Site Note Call

inductive Happening
  | call (request : Call)
  | advance (thread : Nat)
  | tick (passed : Nat)

def Happening.turn : Happening → Kit.Turn Site Call
  | .call request => .call request
  | .advance thread => .advance thread
  | .tick passed => .disturb fun site => { site with clock := site.clock + passed }

namespace Desk

def opened (maxEntries clock : Int) : Desk := Docket.opened ⟨newMemory maxEntries, clock⟩

def take (happening : Happening) (desk : Desk) : Desk :=
  Docket.take observed serve happening.turn desk

end Desk

structure Lock where
  key : String
  owner : String
  deadline : Int
deriving DecidableEq

def acquired (deed : Deed Call Note) : Option Lock :=
  match deed.call with
  | .acquireLock _ resource owner ttl lapse =>
    if deed.event.answer = .ok (.stored true) then
      some ⟨lockKey resource, owner, deed.event.now + lapse + ttl⟩
    else none
  | _ => none

def Note.deletes (key : String) (note : Note) : Bool :=
  match note.operation, note.answer with
  | .delete _ other, .ok _ => other == key
  | .deletePrefix _ start _, .ok _ => MemoryCache.hasPrefix key start
  | _, _ => false

def Note.overwritten (note : Note) : Option String :=
  match note.operation, note.answer with
  | .set _ key _ _, .ok _ => some key
  | _, _ => none

def frees (lock : Lock) (deed : Deed Call Note) : Bool :=
  match deed.call with
  | .operate _ => deed.event.deletes lock.key
  | .releaseLock _ resource owner => lockKey resource == lock.key && owner == lock.owner
  | .acquireLock .. => false

def holder (key : String) (account : List (Deed Call Note)) : Option Lock :=
  account.foldl (fun held deed =>
    if deed.event.deletes key then none
    else ((acquired deed).filter fun lock => lock.key == key).or held) none

def heldAt (key : String) (now : Int) (account : List (Deed Call Note)) : Bool :=
  (holder key account).any fun lock => decide (now ≤ lock.deadline)

def looks (thread : Nat) (key : String) (deed : Deed Call Note) : Bool :=
  deed.thread == thread && match deed.event.operation with
    | .get _ other => other == key
    | _ => false

def acquires (key : String) (deed : Deed Call Note) : Bool :=
  (acquired deed).any fun lock => lock.key == key

def withdrawn (deed : Deed Call Note) : Option String :=
  match deed.call, deed.event.operation with
  | .releaseLock .., .delete _ key => some key
  | _, _ => none

/-- As long as a lock has not run out, it is not evicted, nothing is set in its place, and no
`ReleaseLock` deletes it that has looked at it before it was acquired. -/
def Spares (account : List (Deed Call Note)) (deed : Deed Call Note) : Prop :=
  (∀ key ∈ deed.event.evicted.toList, heldAt key deed.event.now account = false) ∧
  (∀ key ∈ deed.event.overwritten.toList, heldAt key deed.event.now account = false) ∧
  ∀ key ∈ (withdrawn deed).toList, heldAt key deed.event.now account = true →
    since (looks deed.thread key) (acquires key) account = true

instance (account : List (Deed Call Note)) (deed : Deed Call Note) :
    Decidable (Spares account deed) :=
  inferInstanceAs (Decidable (_ ∧ _))

def Desk.Spares (happening : Happening) (desk : Desk) : Prop :=
  Docket.Heeds observed Cache.Spares happening.turn desk

instance (happening : Happening) (desk : Desk) : Decidable (desk.Spares happening) :=
  inferInstanceAs (Decidable (Docket.Heeds observed Cache.Spares happening.turn desk))

def MemoryCache.view (cache : MemoryCache) : Reference :=
  ⟨cache.shelf, cache.maxEntries, cache.closed⟩

theorem Represents.eq_view {cache : MemoryCache} {reference : Reference}
    (represents : Represents cache reference) : reference = cache.view := by
  obtain ⟨shelf, limit, closed⟩ := reference
  rw [MemoryCache.view, represents.shelf, represents.limit, represents.closed]

def MemoryCache.Sane (cache : MemoryCache) : Prop := Represents cache cache.view

variable {key : String} {ctx : Context}

section

variable {cache : MemoryCache} (sane : cache.Sane)

theorem sane_opened (maxEntries : Int) : (newMemory maxEntries).Sane := by
  have represents := represents_opened maxEntries
  rw [represents.eq_view] at represents
  exact represents

include sane

theorem MemoryCache.Sane.serve (request : Request) :
    (request.serve cache).1 = (request.refer cache.view).1 ∧
      (request.serve cache).2.view = (request.refer cache.view).2 ∧
      (request.serve cache).2.Sane := by
  obtain ⟨same, next⟩ := Represents.serve sane request
  have seen := next.eq_view
  refine ⟨same, seen.symm, ?_⟩
  rw [seen] at next
  exact next

theorem MemoryCache.Sane.distinct : cache.shelf.Distinct := (Represents.linked sane).shelf_distinct

theorem MemoryCache.Sane.victim_eq {other : String}
    (spared : cache.victim other ≠ some key) (missing : cache.shelf.lookup other = none)
    (full : cache.maxEntries ≤ cache.shelf.length) :
    cache.shelf.getLast?.map Prod.fst ≠ some key := by
  have linked := Represents.linked sane
  have absent : cache.entries.lookup other = none := by
    rw [linked.lookup_shelf] at missing
    exact Option.map_eq_none_iff.mp missing
  have size : cache.maxEntries ≤ cache.len := by
    rw [Represents.length_eq sane]
    exact full
  rw [MemoryCache.victim, absent, Option.isNone_none, decide_eq_true size, Bool.and_true,
    if_pos rfl] at spared
  have last : cache.shelf.getLast? = cache.lru.getLast?.map cache.item := List.getLast?_map
  rw [last]
  cases final : cache.lru.getLast? with
  | none => exact nofun
  | some ref =>
    have listed := (linked.valid ref (List.mem_of_getLast? final)).1
    rw [final, Option.bind_some, MemoryCache.heap_entry listed] at spared
    exact spared

end

section

variable {key : String} {account : List (Deed Call Note)} {deed : Deed Call Note} {lock : Lock}

theorem holder_concat : holder key (account ++ [deed]) =
    if deed.event.deletes key then none
    else ((acquired deed).filter fun lock => lock.key == key).or (holder key account) := by
  rw [holder, List.foldl_append]
  rfl

theorem holder_cases (held : holder key (account ++ [deed]) = some lock) :
    deed.event.deletes key = false ∧ (acquired deed = some lock ∧ lock.key = key ∨
        acquires key deed = false ∧ holder key account = some lock) := by
  rw [holder_concat] at held
  split at held
  · cases held
  rename_i kept
  refine ⟨Bool.eq_false_iff.mpr kept, ?_⟩
  rcases Option.or_eq_some_iff.mp held with new | ⟨nothing, old⟩
  · obtain ⟨won, same⟩ := Option.filter_eq_some_iff.mp new
    exact .inl ⟨won, beq_iff_eq.mp same⟩
  refine .inr ⟨?_, old⟩
  rw [acquires, Bool.eq_false_iff]
  intro some
  obtain ⟨other, won, same⟩ := (Option.any_eq_true ..).mp some
  rw [won, Option.filter_some, if_pos same] at nothing
  cases nothing

theorem holder_kept (kept : deed.event.deletes key = false) (unwon : acquires key deed = false) :
    holder key (account ++ [deed]) = holder key account := by
  rw [holder_concat, if_neg (Bool.eq_false_iff.mp kept)]
  cases won : acquired deed with
  | none => rfl
  | some =>
    rw [acquires, won, Option.any_some] at unwon
    rw [Option.filter_some, unwon]
    rfl

theorem bytes_inj {first second : String} (same : bytes first = bytes second) : first = second :=
  String.toByteArray_inj.mp (ByteArray.ext (Array.toList_inj.mp same))

def Lock.item (lock : Lock) : Item := ⟨bytes lock.owner, some lock.deadline⟩

theorem Lock.fresh {now : Int} (intime : now ≤ lock.deadline) : lock.item.expired now = false :=
  decide_eq_false (Int.not_lt.mpr intime)

end

def tale : Call → List Note → Prop
  | .operate operation, told => told = [] ∨ ∃ note, told = [note] ∧ note.operation = operation
  | .acquireLock ctx resource owner ttl lapse, told => told = [] ∨ ∃ note, told = [note] ∧
      note.operation = .setNX ctx (lockKey resource) (bytes owner) ttl lapse ∧ 0 < ttl
  | .releaseLock ctx resource owner, told => told = [] ∨
      (∃ look, told = [look] ∧ look.operation = .get ctx (lockKey resource)) ∨
      ∃ look drop, told = [look, drop] ∧ look.operation = .get ctx (lockKey resource) ∧
        look.answer = .ok (.found (some (bytes owner))) ∧
        drop.operation = .delete ctx (lockKey resource)

def ends (call : Call) (answer : Answer) (told : List Note) : Prop :=
  tale call told ∧ match call with
    | .acquireLock .. => answer = .ok (.stored true) → ∃ note ∈ told, note.answer = answer
    | _ => True

theorem operate_tells {operation : Operation} {rely : Site → Site → Prop} {told : List Note}
    {post : Answer → List Note → Site → Prop} {site : Site} (each : ∀ now answer evicted later,
      post answer (told ++ [⟨operation, now, answer, evicted⟩]) later) :
    (operate operation).Tells observed rely post told site := by
  intro later _
  change (Program.ofExcept ((operation.request later.clock).serve later.cache).1 : Work).Tells
    observed rely post (told ++ [⟨operation, later.clock, _, _⟩]) _
  cases ((operation.request later.clock).serve later.cache).1 with
  | ok | error => exact each _ _ _ _

theorem serve_tells (call : Call) (site : Site) : (serve call).Tells observed (fun _ _ => True)
    (fun answer told _ => ends call answer told) [] site := by
  cases call with
  | operate =>
    exact operate_tells fun now answer evicted _ => ⟨.inr ⟨_, rfl, rfl⟩, trivial⟩
  | acquireLock =>
    refine Program.under_refuse (fun _ => ⟨.inl rfl, nofun⟩) fun positive => ?_
    refine operate_tells fun now answer evicted _ =>
      ⟨.inr ⟨_, rfl, rfl, Int.not_le.mp positive⟩, fun _ => ⟨_, List.mem_cons_self, rfl⟩⟩
  | releaseLock ctx resource owner =>
    refine Program.under_bind (operate_tells fun now answer evicted later => ?_)
    cases answer with
    | error => exact ⟨.inr (.inl ⟨_, rfl, rfl⟩), trivial⟩
    | ok found =>
      dsimp only
      split
      · rename_i own
        refine operate_tells fun later last dropped _ =>
          ⟨.inr (.inr ⟨_, _, rfl, rfl, ?_, rfl⟩), trivial⟩
        exact congrArg Except.ok own
      · exact ⟨.inr (.inl ⟨_, rfl, rfl⟩), trivial⟩

def Follows (told : List Note) (deed : Deed Call Note) : Prop :=
  ∃ more, tale deed.call (told ++ deed.event :: more)

section

variable {told : List Note} {deed : Deed Call Note} (follows : Follows told deed)

include follows

theorem Follows.acquiring {resource owner : String} {ttl : Int} {lapse : Nat}
    (called : deed.call = .acquireLock ctx resource owner ttl lapse) :
    deed.event.operation = .setNX ctx (lockKey resource) (bytes owner) ttl lapse ∧ 0 < ttl := by
  obtain ⟨more, fits⟩ := follows
  rw [called] at fits
  rcases fits with none | ⟨note, single, same⟩
  · simp at none
  obtain ⟨-, rfl, -⟩ : told = [] ∧ deed.event = note ∧ more = [] := by
    cases told <;> simp_all
  exact same

theorem Follows.releasing {resource owner : String}
    (called : deed.call = .releaseLock ctx resource owner) :
    deed.event.operation = .get ctx (lockKey resource) ∨
      deed.event.operation = .delete ctx (lockKey resource) ∧ ∃ look, told = [look] ∧
        look.answer = .ok (.found (some (bytes owner))) := by
  obtain ⟨more, fits⟩ := follows
  rw [called] at fits
  rcases fits with none | ⟨look, single, same⟩ | ⟨look, drop, pair, same, own, last⟩
  · simp at none
  · obtain ⟨-, rfl, -⟩ : told = [] ∧ deed.event = look ∧ more = [] := by
      cases told <;> simp_all
    exact .inl same
  match told, pair with
  | [], pair =>
    obtain ⟨rfl, -⟩ := List.cons.inj pair
    exact .inl same
  | [first], pair =>
    simp_all
  | first :: second :: others, pair => simp at pair

end

def found (thread : Nat) (key : String) (val : Bytes) (deed : Deed Call Note) : Bool :=
  looks thread key deed && decide (deed.event.answer = .ok (.found (some val)))

/-- Whoever acquires a lock does so after it has run out for its last holder, unless that holder
has called `ReleaseLock` or the key has been deleted. -/
def Exclusive (account : List (Deed Call Note)) : Prop :=
  ∀ before first middle second later lock,
    account = before ++ first :: (middle ++ second :: later) → acquired first = some lock →
    acquires lock.key second = true → (∀ deed ∈ middle, frees lock deed = false) →
    lock.deadline < second.event.now

structure Guarded (account : List (Deed Call Note)) (site : Site) : Prop where
  sane : site.cache.Sane
  room : 0 < site.cache.maxEntries
  stored : ∀ key lock, holder key account = some lock → site.clock ≤ lock.deadline →
    site.cache.closed = false → (key, lock.item) ∈ site.cache.shelf
  looked : ∀ thread key val lock, since (found thread key val) (acquires key) account = true →
    holder key account = some lock → site.clock ≤ lock.deadline → val = bytes lock.owner
  standing : ∀ before deed middle lock, account = before ++ deed :: middle →
    acquired deed = some lock → (∀ other ∈ middle, frees lock other = false) →
    lock.deadline < site.clock ∨ holder lock.key account = some lock
  exclusive : Exclusive account

theorem guarded_opened (maxEntries clock : Int) : Guarded [] ⟨newMemory maxEntries, clock⟩ where
  sane := sane_opened maxEntries
  room := by
    change 0 < if maxEntries ≤ 0 then defaultMaxEntries else maxEntries.toNat
    split
    · decide
    · omega
  stored _ _ held := nomatch held
  looked _ _ _ _ held := nomatch held
  standing _ _ _ _ split := by simp at split
  exclusive := by
    intro before first middle second later lock split
    simp at split

theorem Guarded.ticked {account : List (Deed Call Note)} {site : Site}
    (guarded : Guarded account site) (passed : Nat) :
    Guarded account { site with clock := site.clock + passed } where
  sane := guarded.sane
  room := guarded.room
  stored key lock held intime := guarded.stored key lock held (by
    dsimp only at intime
    omega)
  looked thread key val lock seen held intime := guarded.looked thread key val lock seen held (by
    dsimp only at intime
    omega)
  standing before deed middle lock split won kept := by
    rcases guarded.standing before deed middle lock split won kept with late | held
    · left
      dsimp only
      omega
    · exact .inr held
  exclusive := guarded.exclusive

section

variable {account : List (Deed Call Note)} {site : Site} {operation : Operation} {key : String}
  {lock : Lock}

theorem heldAt_of (held : holder key account = some lock) (intime : site.clock ≤ lock.deadline) :
    heldAt key site.clock account = true := by
  rw [heldAt, held, Option.any_some, decide_eq_true intime]

variable (guarded : Guarded account site)

include guarded

theorem Guarded.answer_eq : (noted operation site).answer =
    ((operation.request site.clock).refer site.cache.view).1 :=
  (guarded.sane.serve (operation.request site.clock)).1

variable {thread : Nat} {call : Call}
  (spares : Spares account ⟨thread, call, noted operation site⟩)

include spares

omit guarded in
theorem Spares.unevicted {reply : Reply} {other : String}
    (passed : (noted operation site).answer = .ok reply)
    (stores : evicted operation site.cache = site.cache.victim other)
    (held : holder key account = some lock) (intime : site.clock ≤ lock.deadline) :
    site.cache.victim other ≠ some key := by
  intro gone
  have noted : (noted operation site).evicted = some key := by
    change (if (Cache.noted operation site).answer.isOk then _ else _) = _
    rw [passed, stores, gone]
    rfl
  have free := spares.1 key (by rw [noted]; exact List.mem_singleton_self key)
  exact Bool.eq_false_iff.mp free (heldAt_of held intime)

theorem Guarded.leaves {reply : Reply} (passed : (noted operation site).answer = .ok reply)
    (kept : (noted operation site).deletes key = false)
    (held : holder key account = some lock) (intime : site.clock ≤ lock.deadline) :
    (operation.request site.clock).Leaves key lock.item site.cache.view := by
  have fresh := Lock.fresh intime
  cases operation with
  | get => exact fun _ => fresh
  | set ctx other val ttl =>
    refine ⟨?_, guarded.sane.victim_eq (spares.unevicted passed rfl held intime)⟩
    rintro rfl
    have written : (noted (.set ctx other val ttl) site).overwritten = some other := by
      rw [Note.overwritten, passed]
      rfl
    have free := spares.2.1 other (by rw [written]; exact List.mem_singleton_self other)
    exact Bool.eq_false_iff.mp free (heldAt_of held intime)
  | setNX =>
    exact ⟨fun _ => fresh,
      guarded.sane.victim_eq (spares.unevicted passed rfl held intime)⟩
  | delete =>
    rw [Note.deletes, passed] at kept
    exact beq_eq_false_iff_ne.mp kept
  | deletePrefix =>
    rw [Note.deletes, passed] at kept
    exact kept
  | sweep =>
    refine Lock.fresh ?_
    omega
  | close | release | len => trivial

theorem Guarded.stays (kept : (noted operation site).deletes key = false)
    (held : holder key account = some lock) (intime : site.clock ≤ lock.deadline)
    (working : ((operation.request site.clock).refer site.cache.view).2.closed = false) :
    (key, lock.item) ∈ ((operation.request site.clock).refer site.cache.view).2.shelf := by
  have before : site.cache.closed = false := by
    cases shut : site.cache.closed with
    | false => rfl
    | true =>
      rw [closed_stays _ shut] at working
      cases working
  have there := guarded.stored key lock held intime before
  have same : (noted operation site).answer = _ := guarded.answer_eq
  cases passed : (noted operation site).answer with
  | error =>
    rw [passed] at same
    rw [refer_error same.symm]
    exact there
  | ok =>
    exact mem_refer guarded.sane.distinct (Represents.fits guarded.sane) there
      (guarded.leaves spares passed kept held intime) working

end

section

variable {account : List (Deed Call Note)} {site : Site} {operation : Operation}
  {thread : Nat} {call : Call} {told : List Note} {lock : Lock}

theorem noted_operation : (noted operation site).operation = operation := rfl

theorem noted_now : (noted operation site).now = site.clock := rfl

theorem acquired_cases (follows : Follows told ⟨thread, call, noted operation site⟩)
    (won : acquired ⟨thread, call, noted operation site⟩ = some lock) :
    ∃ ctx ttl lapse, operation = .setNX ctx lock.key (bytes lock.owner) ttl lapse ∧ 0 < ttl ∧
      lock.deadline = site.clock + lapse + ttl ∧
      (noted operation site).answer = .ok (.stored true) := by
  cases call with
  | operate | releaseLock => cases won
  | acquireLock ctx resource owner ttl lapse =>
    obtain ⟨same, positive⟩ := follows.acquiring rfl
    obtain ⟨answered, this⟩ := Option.ite_none_right_eq_some.mp won
    rw [noted_now, Option.some.injEq] at this
    rw [noted_operation] at same
    rw [← this]
    dsimp only
    exact ⟨ctx, ttl, lapse, same, positive, rfl, answered⟩

variable (guarded : Guarded account site)
  (follows : Follows told ⟨thread, call, noted operation site⟩)
variable {other : Nat} {val : Bytes}

include guarded follows

omit follows in
theorem Guarded.sees (marked : found other key val ⟨thread, call, noted operation site⟩ = true)
    (held : holder key account = some lock) (intime : site.clock ≤ lock.deadline) :
    val = bytes lock.owner := by
  rw [found, looks, noted_operation, Bool.and_eq_true, Bool.and_eq_true, decide_eq_true_eq]
    at marked
  obtain ⟨⟨_, looking⟩, answered⟩ := marked
  cases operation with
  | get ctx named =>
    obtain rfl := beq_iff_eq.mp looking
    have answer := guarded.answer_eq.symm.trans answered
    have working : site.cache.closed = false := (guarded_ok answer).1
    exact get_sees guarded.sane.distinct (guarded.stored named lock held intime working) answer
  | _ => cases looking

theorem Guarded.unwon (held : holder key account = some lock)
    (intime : site.clock ≤ lock.deadline) :
    acquires key ⟨thread, call, noted operation site⟩ = false := by
  rw [Bool.eq_false_iff]
  intro again
  obtain ⟨other, won, same⟩ := (Option.any_eq_true ..).mp again
  obtain ⟨ctx, ttl, lapse, rfl, _, _, answered⟩ := acquired_cases follows won
  rw [beq_iff_eq.mp same] at answered follows
  have answer := guarded.answer_eq.symm.trans answered
  have working : site.cache.closed = false := (guarded_ok answer).1
  exact setNX_refused guarded.sane.distinct (guarded.stored key lock held intime working)
    (Lock.fresh intime) answer

theorem Guarded.own {resource owner : String}
    (alone : ∀ deed ∈ account, deed.thread = thread → deed.event ∈ told)
    (called : call = .releaseLock ctx resource owner)
    (spares : Spares account ⟨thread, call, noted operation site⟩)
    (held : holder (lockKey resource) account = some lock) (intime : site.clock ≤ lock.deadline)
    (gone : (noted operation site).deletes (lockKey resource) = true) : owner = lock.owner := by
  rcases follows.releasing called with look | ⟨drop, look, single, seen⟩
  · rw [noted_operation] at look
    rw [look] at gone
    cases gone
  rw [noted_operation] at drop
  subst drop called
  have unbroken := spares.2.2 (lockKey resource) List.mem_cons_self (heldAt_of held intime)
  have alike : ∀ deed ∈ account, looks thread (lockKey resource) deed =
      found thread (lockKey resource) (bytes owner) deed := by
    intro deed listed
    by_cases same : deed.thread = thread
    · have only := alone deed listed same
      rw [single, List.mem_singleton] at only
      rw [found, only, seen, decide_eq_true rfl, Bool.and_true]
    · rw [found, looks, beq_eq_false_iff_ne.mpr same, Bool.false_and, Bool.false_and]
  rw [since_congr alike] at unbroken
  exact bytes_inj (guarded.looked thread _ _ lock unbroken held intime)

variable (alone : ∀ deed ∈ account, deed.thread = thread → deed.event ∈ told)
  (spares : Spares account ⟨thread, call, noted operation site⟩)

omit guarded in
theorem Follows.keeps (won : acquired ⟨thread, call, noted operation site⟩ = some lock) :
    (noted operation site).deletes key = false := by
  obtain ⟨ctx, ttl, lapse, rfl, _⟩ := acquired_cases follows won
  rfl

omit guarded in
theorem Follows.unseen (won : acquired ⟨thread, call, noted operation site⟩ = some lock) :
    found other key val ⟨thread, call, noted operation site⟩ = false := by
  obtain ⟨ctx, ttl, lapse, rfl, _⟩ := acquired_cases follows won
  rw [found, looks, noted_operation, Bool.and_false, Bool.false_and]

theorem Guarded.looked_next (seen : since (found other key val) (acquires key)
      (account ++ [⟨thread, call, noted operation site⟩]) = true)
    (held : holder key (account ++ [⟨thread, call, noted operation site⟩]) = some lock)
    (intime : site.clock + operation.lapse ≤ lock.deadline) : val = bytes lock.owner := by
  have early : site.clock ≤ lock.deadline := by omega
  rw [since_concat, Bool.or_eq_true, Bool.and_eq_true] at seen
  obtain ⟨kept, ⟨won, rfl⟩ | ⟨_, old⟩⟩ := holder_cases held
  · have spoilt : acquires lock.key ⟨thread, call, noted operation site⟩ = true := by
      rw [acquires, won, Option.any_some, beq_self_eq_true]
    rw [follows.unseen won, spoilt] at seen
    rcases seen with marked | ⟨_, spared⟩
    · cases marked
    · cases spared
  rcases seen with marked | ⟨before, _⟩
  · exact guarded.sees marked old early
  · exact guarded.looked other key val lock before old early

theorem Guarded.exclusive_next : Exclusive (account ++ [⟨thread, call, noted operation site⟩]) := by
  intro before first middle second later lock split won again kept
  have regrouped : account ++ [⟨thread, call, noted operation site⟩] =
      (before ++ first :: middle) ++ second :: later := by
    rw [split, List.append_assoc, List.cons_append]
  obtain ⟨_, whole, rfl⟩ | ⟨rest, _, whole⟩ := concat_split regrouped
  · rw [noted_now]
    rcases guarded.standing before first middle lock whole won kept with late | held
    · exact late
    by_contra early
    rw [guarded.unwon follows held (Int.not_lt.mp early)] at again
    cases again
  · rw [List.append_assoc, List.cons_append] at whole
    exact guarded.exclusive before first middle second rest lock whole won again kept

include spares

theorem Guarded.stored_next
    (held : holder key (account ++ [⟨thread, call, noted operation site⟩]) = some lock)
    (intime : site.clock + operation.lapse ≤ lock.deadline)
    (working : ((operation.request site.clock).refer site.cache.view).2.closed = false) :
    (key, lock.item) ∈ ((operation.request site.clock).refer site.cache.view).2.shelf := by
  obtain ⟨kept, ⟨won, rfl⟩ | ⟨_, old⟩⟩ := holder_cases held
  · obtain ⟨ctx, ttl, lapse, rfl, positive, deadline, answered⟩ := acquired_cases follows won
    have answer := guarded.answer_eq.symm.trans answered
    have there := setNX_won answer guarded.room
    rw [Item.stored, if_pos positive, ← deadline] at there
    exact there
  · exact guarded.stays spares kept old (by omega) working

include alone

theorem Guarded.undeleted (held : holder lock.key account = some lock)
    (intime : site.clock ≤ lock.deadline)
    (kept : frees lock ⟨thread, call, noted operation site⟩ = false) :
    (noted operation site).deletes lock.key = false := by
  rw [Bool.eq_false_iff]
  intro gone
  cases call with
  | operate => exact Bool.eq_false_iff.mp kept gone
  | acquireLock =>
    have same := (follows.acquiring rfl).1
    rw [noted_operation] at same
    rw [same] at gone
    cases gone
  | releaseLock ctx resource owner =>
    have same : lockKey resource = lock.key := by
      rcases follows.releasing rfl with look | ⟨drop, _⟩
      · rw [noted_operation] at look
        rw [look] at gone
        cases gone
      rw [noted_operation] at drop
      rw [drop, Note.deletes] at gone
      split at gone
      · rename_i deletes _
        cases deletes
        exact beq_iff_eq.mp gone
      · rename_i deletes _
        cases deletes
      · cases gone
    rw [← same] at held gone
    have own := guarded.own follows alone rfl spares held intime gone
    have freed : (lockKey resource == lock.key && owner == lock.owner) = true := by
      rw [same, own, beq_self_eq_true, beq_self_eq_true, Bool.and_self]
    exact Bool.eq_false_iff.mp kept freed

theorem Guarded.standing_next {before middle : List (Deed Call Note)} {deed : Deed Call Note}
    (split : account ++ [⟨thread, call, noted operation site⟩] = before ++ deed :: middle)
    (won : acquired deed = some lock) (kept : ∀ other ∈ middle, frees lock other = false) :
    lock.deadline < site.clock + operation.lapse ∨
      holder lock.key (account ++ [⟨thread, call, noted operation site⟩]) = some lock := by
  obtain ⟨_, rfl, rfl⟩ | ⟨earlier, rfl, rfl⟩ := concat_split split
  · right
    rw [holder_concat, if_neg (Bool.eq_false_iff.mp (follows.keeps won)), won, Option.filter_some,
      beq_self_eq_true, if_pos rfl, Option.some_or]
  rcases guarded.standing before deed earlier lock rfl won fun other listed =>
    kept other (List.mem_append_left _ listed) with late | held
  · left
    omega
  by_cases intime : site.clock ≤ lock.deadline
  · have spared := kept _ (List.mem_append_right _ List.mem_cons_self)
    rw [holder_kept (guarded.undeleted follows alone spares held intime spared)
      (guarded.unwon follows held intime)]
    exact .inr held
  · left
    omega

theorem Guarded.next : Guarded (account ++ [⟨thread, call, noted operation site⟩])
    (execute (Command.operate operation) site).2 := by
  obtain ⟨_, seen, sane⟩ := guarded.sane.serve (operation.request site.clock)
  have view : (execute (Command.operate operation) site).2.cache.view =
      ((operation.request site.clock).refer site.cache.view).2 := seen
  refine ⟨sane, ?_, fun key lock held intime working => ?_, fun other key val lock marked held
    intime => guarded.looked_next follows marked held intime, fun before deed middle lock
    split won kept => guarded.standing_next follows alone spares split won kept,
    guarded.exclusive_next follows⟩
  · have limit := congrArg Reference.limit view
    rw [refer_limit] at limit
    exact Nat.lt_of_lt_of_eq guarded.room limit.symm
  change (key, lock.item) ∈ (execute (Command.operate operation) site).2.cache.view.shelf
  change (execute (Command.operate operation) site).2.cache.view.closed = false at working
  rw [view] at working ⊢
  exact guarded.stored_next follows spares held intime working

end

structure Desk.Locked (desk : Desk) : Prop where
  recorded : ∀ thread ctx resource owner ttl lapse,
    desk.calls[thread]? = some (.acquireLock ctx resource owner ttl lapse) →
    Docket.answer desk thread = some (.ok (.stored true)) →
    ∃ deed ∈ Docket.account desk, deed.thread = thread ∧
      deed.call = .acquireLock ctx resource owner ttl lapse ∧
      deed.event.answer = .ok (.stored true)
  exclusive : Exclusive (Docket.account desk)

structure Desk.Kept (desk : Desk) : Prop where
  told : Docket.Told observed ends desk
  guarded : Guarded (Docket.account desk) (Docket.state desk)

theorem Desk.Kept.take {desk : Desk} (kept : desk.Kept) {happening : Happening}
    (spares : desk.Spares happening) : (desk.take happening).Kept := by
  refine ⟨kept.told.take serve_tells _, kept.told.kept_take kept.guarded ?_ ?_ spares⟩
  · intro Reply thread call command rest called there fine
    cases command with
    | operate operation =>
      obtain ⟨answer, more, fits⟩ := kept.told.issued called there
      have follows : Follows (Docket.eventsOf desk thread)
          ⟨thread, call, noted operation (Docket.state desk)⟩ := by
        refine ⟨more, ?_⟩
        rw [List.append_assoc] at fits
        exact fits.1
      refine kept.guarded.next follows (fun deed listed same => ?_) (fine _ rfl)
      rw [← same]
      exact Docket.eventsOf_of_account listed
  · intro change same
    cases happening with
    | call | advance => cases same
    | tick passed =>
      cases same
      exact kept.guarded.ticked passed

theorem Desk.Kept.locked {desk : Desk} (kept : desk.Kept) : desk.Locked := by
  refine ⟨fun thread ctx resource owner ttl lapse called answered => ?_, kept.guarded.exclusive⟩
  obtain ⟨note, listed, same⟩ := (Docket.Sound.answered kept.told called answered).2 rfl
  exact ⟨_, Docket.mem_account called listed, rfl, rfl, same⟩

/-- A lock has one owner at a time in every run that spares the locks that are held. -/
theorem locks_exclude (maxEntries clock : Int) (happenings : List Happening)
    (spared : Every Desk.take (fun happening desk => desk.Spares happening)
      (Desk.opened maxEntries clock) happenings) :
    (lastState Desk.take (Desk.opened maxEntries clock) happenings).Locked :=
  Desk.Kept.locked (lastState_of_invariant Desk.Kept
    ⟨Docket.told_opened, guarded_opened maxEntries clock⟩ spared
    fun _ _ kept spares => kept.take spares)

def orderly : List Happening :=
  [.call (.acquireLock none "backup" "node-1" 60 0), .advance 0,
    .call (.operate (.set none "user:1" [] 0)), .advance 1,
    .call (.acquireLock none "backup" "node-2" 60 0), .advance 2, .tick 30,
    .call (.releaseLock none "backup" "node-1"), .advance 3, .advance 3,
    .call (.acquireLock none "backup" "node-2" 60 0), .advance 4]

theorem orderly_locks_exclude :
    Every Desk.take (fun happening desk => desk.Spares happening) (Desk.opened 2 0) orderly ∧
      (lastState Desk.take (Desk.opened 2 0) orderly).Locked :=
  have spared : Every Desk.take (fun happening desk => desk.Spares happening)
      (Desk.opened 2 0) orderly := by decide +kernel
  ⟨spared, locks_exclude 2 0 orderly spared⟩

def crowded : List Happening :=
  [.call (.acquireLock none "backup" "node-1" 60 0), .advance 0,
    .call (.operate (.set none "user:1" [] 0)), .advance 1,
    .call (.acquireLock none "backup" "node-2" 60 0), .advance 2]

theorem eviction_breaks_lock : ¬ (lastState Desk.take (Desk.opened 1 0) crowded).Locked := by
  intro locked
  have late := locked.exclusive []
    ⟨0, .acquireLock none "backup" "node-1" 60 0,
      ⟨.setNX none (lockKey "backup") (bytes "node-1") 60 0, 0, .ok (.stored true), none⟩⟩
    [⟨1, .operate (.set none "user:1" [] 0),
      ⟨.set none "user:1" [] 0, 0, .ok .finished, some (lockKey "backup")⟩⟩]
    ⟨2, .acquireLock none "backup" "node-2" 60 0,
      ⟨.setNX none (lockKey "backup") (bytes "node-2") 60 0, 0, .ok (.stored true),
        some "user:1"⟩⟩ [] ⟨lockKey "backup", "node-1", 60⟩ rfl (by decide +kernel)
    (by decide +kernel) (by decide +kernel)
  exact absurd late (by decide)

end Cashp.Cache
