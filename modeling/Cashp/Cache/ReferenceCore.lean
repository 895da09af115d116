import Cashp.Cache.MemoryCore
import Cashp.Kit.Run
import Cashp.Kit.Shelf

/-!
What the cache in memory is meant to be: one shelf, ordered by the last store or successful read and
cut to its most recent keys by a store. Deleted keys go, and so do those found expired.
-/

namespace Cashp.Cache

open Kit

structure Item where
  val : Bytes
  expiresAt : Option Int

def Item.expired (item : Item) (now : Int) : Bool := expiredAt item.expiresAt now

def Item.stored (val : Bytes) (ttl now : Int) : Item :=
  ⟨val, if 0 < ttl then some (now + ttl) else none⟩

structure Reference where
  shelf : Shelf String Item
  limit : Nat
  closed : Bool

namespace Reference

def opened (limit : Nat) : Reference := ⟨[], limit, false⟩

def refusal (reference : Reference) (ctx : Context) (text : String) (missing : CacheError) :
    Option CacheError :=
  match ctx with
  | some error => some (.context error)
  | none => if text = "" then some missing else if reference.closed then some .closed else none

def guarded (reference : Reference) (ctx : Context) (text : String) (missing : CacheError)
    (act : Shelf String Item → Reply × Shelf String Item) : Answer × Reference :=
  match reference.refusal ctx text missing with
  | some error => (.error error, reference)
  | none => (.ok (act reference.shelf).1, { reference with shelf := (act reference.shelf).2 })

end Reference

def fetch (key : String) (now : Int) (shelf : Shelf String Item) : Reply × Shelf String Item :=
  match shelf.lookup key with
  | none => (.found none, shelf)
  | some item =>
    if item.expired now then (.found none, shelf.without key)
    else (.found (some item.val), shelf.bring key item)

def Request.refer (request : Request) (reference : Reference) : Answer × Reference :=
  match request with
  | .get ctx key now => reference.guarded ctx key .emptyKey (fetch key now)
  | .set ctx key val ttl now =>
    reference.guarded ctx key .emptyKey fun shelf =>
      (.finished, shelf.store reference.limit key (.stored val ttl now))
  | .setNX ctx key val ttl checked stored =>
    reference.guarded ctx key .emptyKey fun shelf =>
      if (shelf.lookup key).any fun item => !item.expired checked then (.stored false, shelf)
      else (.stored true, shelf.store reference.limit key (.stored val ttl stored))
  | .delete ctx key =>
    reference.guarded ctx key .emptyKey fun shelf => (.finished, shelf.without key)
  | .deletePrefix ctx start _ =>
    reference.guarded ctx start .emptyPrefix fun shelf =>
      (.finished, shelf.discard fun key _ => MemoryCache.hasPrefix key start)
  | .sweep now _ =>
    (.ok .finished, if reference.closed then reference
      else { reference with shelf := reference.shelf.discard fun _ item => item.expired now })
  | .close => (.ok .finished, { reference with closed := true })
  | .release =>
    (.ok .finished, if reference.closed then { reference with shelf := [] } else reference)
  | .len => (.ok (.length reference.shelf.length), reference)

def history {State : Type} (serve : Request → State → Answer × State) :
    State → List Request → List (Request × Answer)
  | _, [] => []
  | state, request :: rest =>
    (request, (serve request state).1) :: history serve (serve request state).2 rest

def written (key : String) : Request × Answer → Option (Option Item)
  | (.set _ other val ttl now, .ok _) =>
    if other = key then some (some (.stored val ttl now)) else none
  | (.setNX _ other val ttl _ stored, .ok (.stored true)) =>
    if other = key then some (some (.stored val ttl stored)) else none
  | (.delete _ other, .ok _) => if other = key then some none else none
  | (.deletePrefix _ start _, .ok _) => if MemoryCache.hasPrefix key start then some none else none
  | _ => none

def lastWritten (key : String) (history : List (Request × Answer)) : Option Item :=
  history.foldl (fun last call => (written key call).getD last) none

end Cashp.Cache
