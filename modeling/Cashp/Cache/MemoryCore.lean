import Mathlib.Data.List.AList

/-!
The cache in memory (`memory.go`): a map from keys to entries and a list of the entries, the one
used last in front. Entries are reached through references, the code's pointers. Instants are
nanoseconds; the zero time is none.
-/

namespace Cashp.Cache

abbrev Bytes := List UInt8

inductive ContextError
  | canceled
  | deadlineExceeded
deriving DecidableEq

abbrev Context := Option ContextError

inductive CacheError
  | context (error : ContextError)
  | closed
  | emptyKey
  | emptyPrefix
  | lockTTL
deriving DecidableEq

def CacheError.message : CacheError → String
  | .context .canceled => "context canceled"
  | .context .deadlineExceeded => "context deadline exceeded"
  | .closed => "cache: closed"
  | .emptyKey => "cache: empty key"
  | .emptyPrefix => "cache: empty prefix"
  | .lockTTL => "cache: lock ttl must be positive"

def defaultMaxEntries : Nat := 10000

structure MemoryEntry where
  key : String
  val : Bytes
  expiresAt : Option Int
  elem : Bool

def expiredAt (expiresAt : Option Int) (now : Int) : Bool :=
  match expiresAt with
  | none => false
  | some instant => decide (instant < now)

def MemoryEntry.expired (entry : MemoryEntry) (now : Int) : Bool := expiredAt entry.expiresAt now

abbrev Ref := Nat

structure MemoryCache where
  heap : List MemoryEntry
  entries : AList fun _ : String => Ref
  lru : List Ref
  maxEntries : Nat
  closed : Bool

def newMemory (maxEntries : Int) : MemoryCache where
  heap := []
  entries := ∅
  lru := []
  maxEntries := if maxEntries ≤ 0 then defaultMaxEntries else maxEntries.toNat
  closed := false

/-- A loop over a map visits every entry once, in whatever order. -/
structure RangeOrder where
  arrange : List (Sigma fun _ : String => Ref) → List (Sigma fun _ : String => Ref)
  perm : ∀ items, (arrange items).Perm items

namespace MemoryCache

def removeLocked (cache : MemoryCache) (ref : Ref) : MemoryCache :=
  match cache.heap[ref]? with
  | none => cache
  | some entry =>
    let cache := { cache with entries := cache.entries.erase entry.key }
    if entry.elem then
      { cache with
        lru := cache.lru.erase ref
        heap := cache.heap.set ref { entry with elem := false } }
    else cache

def evict : Nat → MemoryCache → MemoryCache
  | 0, cache => cache
  | fuel + 1, cache =>
    if cache.maxEntries < cache.entries.keys.length then
      match cache.lru.getLast? with
      | none => cache
      | some ref => evict fuel (cache.removeLocked ref)
    else cache

def moveToFront (cache : MemoryCache) (ref : Ref) : MemoryCache :=
  { cache with lru := ref :: cache.lru.erase ref }

def storeLocked (cache : MemoryCache) (key : String) (val : Bytes) (ttl now : Int) : MemoryCache :=
  let expiresAt := if 0 < ttl then some (now + ttl) else none
  match cache.entries.lookup key with
  | some ref =>
    { cache with
      heap := cache.heap.modify ref fun entry =>
        { entry with val := val, expiresAt := expiresAt } }.moveToFront ref
  | none =>
    let ref := cache.heap.length
    let grown : MemoryCache := { cache with
      heap := cache.heap ++ [⟨key, val, expiresAt, true⟩]
      lru := ref :: cache.lru
      entries := cache.entries.insert key ref }
    grown.evict grown.lru.length

def refusal (cache : MemoryCache) (ctx : Context) (text : String) (missing : CacheError) :
    Option CacheError :=
  match ctx with
  | some error => some (.context error)
  | none => if text = "" then some missing else if cache.closed then some .closed else none

def locked {Value : Type} (cache : MemoryCache) (ctx : Context) (text : String)
    (missing : CacheError) (act : MemoryCache → Value × MemoryCache) :
    Except CacheError Value × MemoryCache :=
  match cache.refusal ctx text missing with
  | some error => (.error error, cache)
  | none => (.ok (act cache).1, (act cache).2)

def get (cache : MemoryCache) (ctx : Context) (key : String) (now : Int) :
    Except CacheError (Option Bytes) × MemoryCache :=
  cache.locked ctx key .emptyKey fun cache =>
    match cache.entries.lookup key with
    | none => (none, cache)
    | some ref =>
      match cache.heap[ref]? with
      | none => (none, cache)
      | some entry =>
        if entry.expired now then (none, cache.removeLocked ref)
        else (some entry.val, cache.moveToFront ref)

def set (cache : MemoryCache) (ctx : Context) (key : String) (val : Bytes) (ttl now : Int) :
    Except CacheError Unit × MemoryCache :=
  cache.locked ctx key .emptyKey fun cache => ((), cache.storeLocked key val ttl now)

def setNX (cache : MemoryCache) (ctx : Context) (key : String) (val : Bytes)
    (ttl checked stored : Int) : Except CacheError Bool × MemoryCache :=
  cache.locked ctx key .emptyKey fun cache =>
    match cache.entries.lookup key with
    | none => (true, cache.storeLocked key val ttl stored)
    | some ref =>
      match cache.heap[ref]? with
      | none => (true, cache.storeLocked key val ttl stored)
      | some entry =>
        if entry.expired checked then
          (true, (cache.removeLocked ref).storeLocked key val ttl stored)
        else (false, cache)

def delete (cache : MemoryCache) (ctx : Context) (key : String) :
    Except CacheError Unit × MemoryCache :=
  cache.locked ctx key .emptyKey fun cache =>
    match cache.entries.lookup key with
    | none => ((), cache)
    | some ref => ((), cache.removeLocked ref)

def removeEach (cache : MemoryCache) (gone : String → MemoryEntry → Bool) (order : RangeOrder) :
    MemoryCache :=
  (order.arrange cache.entries.entries).foldl (fun cache item =>
    match cache.heap[item.2]? with
    | none => cache
    | some entry => if gone item.1 entry then cache.removeLocked item.2 else cache) cache

def hasPrefix (key start : String) : Bool := start.toList.isPrefixOf key.toList

def deletePrefix (cache : MemoryCache) (ctx : Context) (start : String) (order : RangeOrder) :
    Except CacheError Unit × MemoryCache :=
  cache.locked ctx start .emptyPrefix fun cache =>
    ((), cache.removeEach (fun key _ => hasPrefix key start) order)

def sweep (cache : MemoryCache) (now : Int) (order : RangeOrder) : MemoryCache :=
  if cache.closed then cache else cache.removeEach (fun _ entry => entry.expired now) order

/-- The first half of `Close`, which stops everybody else. -/
def close (cache : MemoryCache) : MemoryCache := { cache with closed := true }

/-- The second half of `Close`, once the janitor is done. -/
def release (cache : MemoryCache) : MemoryCache :=
  if cache.closed then { cache with entries := ∅, lru := [] } else cache

def len (cache : MemoryCache) : Nat := cache.entries.keys.length

end MemoryCache

inductive Request
  | get (ctx : Context) (key : String) (now : Int)
  | set (ctx : Context) (key : String) (val : Bytes) (ttl now : Int)
  | setNX (ctx : Context) (key : String) (val : Bytes) (ttl checked stored : Int)
  | delete (ctx : Context) (key : String)
  | deletePrefix (ctx : Context) (start : String) (order : RangeOrder)
  | sweep (now : Int) (order : RangeOrder)
  | close
  | release
  | len

inductive Reply
  | found (val : Option Bytes)
  | stored (won : Bool)
  | length (count : Nat)
  | finished
deriving DecidableEq

abbrev Answer := Except CacheError Reply

def Request.serve (request : Request) (cache : MemoryCache) : Answer × MemoryCache :=
  match request with
  | .get ctx key now => (cache.get ctx key now).map (·.map .found) id
  | .set ctx key val ttl now => (cache.set ctx key val ttl now).map (·.map fun _ => .finished) id
  | .setNX ctx key val ttl checked stored =>
    (cache.setNX ctx key val ttl checked stored).map (·.map .stored) id
  | .delete ctx key => (cache.delete ctx key).map (·.map fun _ => .finished) id
  | .deletePrefix ctx start order =>
    (cache.deletePrefix ctx start order).map (·.map fun _ => .finished) id
  | .sweep now order => (.ok .finished, cache.sweep now order)
  | .close => (.ok .finished, cache.close)
  | .release => (.ok .finished, cache.release)
  | .len => (.ok (.length cache.len), cache)

end Cashp.Cache
