import Cashp.Kit.Ledger
import Mathlib.Data.List.Sort

/-!
The delivery queue (`notify/store.go`) and its two callers (`notify/dispatch.go`). What the channel
answers is an input. A retry may read a delivery whose attempt is under way.
-/

namespace Cashp.Notify

open Kit

inductive DeliveryStatus
  | pending
  | sent
  | failed
  | suppressed
  deriving DecidableEq

structure Delivery where
  id : String
  status : DeliveryStatus := .pending
  attempt : Nat := 0
  nextAttemptAt : Int := 0
  payload : String := ""

structure Queue where
  deliveries : List Delivery := []

inductive QueueChange
  | enqueue (delivery : Delivery)
  | accept (delivery : Delivery)
  | complete (delivery : Delivery)
  | reschedule (delivery : Delivery) (attempt : Nat) (now : Int)
  | suppress (delivery : Delivery)

def webhookRetryBackoff : List Int := [60, 300, 900, 3600, 21600, 86400]

def webhookRetryDelay (attempt : Nat) : Option Int :=
  if attempt < 1 then none else webhookRetryBackoff[attempt - 1]?

def Queue.update (id : String) (assign : Delivery → Delivery) (queue : Queue) : Nat × Queue :=
  (queue.deliveries.countP (·.id == id),
    ⟨updateWhere (fun delivery => delivery.id == id) assign queue.deliveries⟩)

def QueueChange.apply : QueueChange → Queue → Nat × Queue
  | .enqueue delivery, queue =>
    if queue.deliveries.any (·.id == delivery.id) then (0, queue)
    else (1, ⟨queue.deliveries ++ [delivery]⟩)
  | .accept _, queue => (0, queue)
  | .complete delivery, queue =>
    queue.update delivery.id ({ · with status := .sent, payload := "" })
  | .reschedule delivery attempt now, queue =>
    queue.update delivery.id fun row =>
      match webhookRetryDelay attempt with
      | some delay =>
        { row with status := .pending, attempt := attempt, nextAttemptAt := now + delay }
      | none => { row with status := .failed, attempt := attempt, nextAttemptAt := 0 }
  | .suppress delivery, queue =>
    queue.update delivery.id ({ · with status := .suppressed, payload := "" })

instance : Ledger Queue QueueChange := ⟨QueueChange.apply⟩

def earliestFirst (first second : Delivery) : Prop :=
  first.nextAttemptAt < second.nextAttemptAt ∨
    first.nextAttemptAt = second.nextAttemptAt ∧ first.id ≤ second.id

instance : DecidableRel earliestFirst := fun _ _ => inferInstanceAs (Decidable (_ ∨ _ ∧ _))

def retryBatch : Nat := 50

def Queue.due (now : Int) (limit : Nat) (queue : Queue) : List Delivery :=
  ((queue.deliveries.filter fun delivery => delivery.status = .pending ∧
    delivery.nextAttemptAt ≤ now).insertionSort earliestFirst).take limit

inductive Verdict
  | accepted
  | rejected
  | unavailable

inductive StoreError
  | store

abbrev QueueWork := Work Queue QueueChange StoreError

def suppress (delivery : Delivery) : QueueWork Unit := do
  let _ ← commit (.suppress delivery) .store
  return ()

def attempt (delivery : Delivery) : Verdict → QueueWork Unit
  | .accepted => do
    let _ ← put (.accept delivery)
    let _ ← commit (.complete delivery) .store
    return ()
  | .rejected => suppress delivery
  | .unavailable => do
    let now ← unixNow
    let _ ← commit (.reschedule delivery (delivery.attempt + 1) now) .store
    return ()

def queueAndSend (id payload : String) (verdict : Verdict) : QueueWork Unit := do
  let now ← unixNow
  let delivery : Delivery := { id := id, nextAttemptAt := now, payload := payload }
  let _ ← commit (.enqueue delivery) .store
  attempt delivery verdict

def drain (readable : String → Bool) (verdict : Delivery → Verdict) :
    List Delivery → Option StoreError → QueueWork Unit
  | [], failure => failure.elim (pure ()) .fail
  | delivery :: rest, failure => do
    match ← (if readable delivery.payload then attempt delivery (verdict delivery)
      else suppress delivery).attempt with
    | .error cause => drain readable verdict rest (failure.or cause)
    | .ok _ => drain readable verdict rest failure

def retry (readable : String → Bool) (verdict : Delivery → Verdict) : QueueWork Unit := do
  let now ← unixNow
  let due ← select (Queue.due now retryBatch) .store
  drain readable verdict due none

inductive DispatchCall
  | notify (id payload : String) (verdict : Verdict)
  | retry (verdict : Delivery → Verdict)

def dispatch (readable : String → Bool) : DispatchCall → QueueWork Unit
  | .notify id payload verdict => queueAndSend id payload verdict
  | .retry verdict => retry readable verdict

variable {queue : Queue} {record : List (Entry Queue QueueChange)} {site : Site Queue}
variable {change : QueueChange}

def accepts (id : String) (entry : Entry Queue QueueChange) : Bool :=
  match entry.change with
  | .accept delivery => delivery.id == id
  | _ => false

def completes (id : String) (entry : Entry Queue QueueChange) : Bool :=
  match entry.change with
  | .complete delivery => delivery.id == id
  | _ => false

def Queue.Open (queue : Queue) (delivery : Delivery) : Prop :=
  (∃ row ∈ queue.deliveries, row.id = delivery.id) ∧
    ∀ row ∈ queue.deliveries, row.id = delivery.id →
      row.status = .pending ∧ row.attempt = delivery.attempt

instance (queue : Queue) (delivery : Delivery) : Decidable (queue.Open delivery) :=
  inferInstanceAs (Decidable (_ ∧ _))

/-- Outcomes are written on open deliveries, and nothing is handed to the channel while an
acceptance of it is not recorded yet. -/
def Apart (record : List (Entry Queue QueueChange)) (entry : Entry Queue QueueChange) : Prop :=
  match entry.change with
  | .enqueue _ => True
  | .accept delivery => entry.site.store.Open delivery ∧
      record.countP (accepts delivery.id) = record.countP (completes delivery.id)
  | .complete delivery | .reschedule delivery _ _ | .suppress delivery =>
    entry.site.store.Open delivery

instance (record : List (Entry Queue QueueChange)) (entry : Entry Queue QueueChange) :
    Decidable (Apart record entry) := by
  unfold Apart
  split <;> infer_instance

structure Handled (record : List (Entry Queue QueueChange)) (queue : Queue) : Prop where
  once : ∀ id, record.countP (accepts id) ≤ 1
  closed : ∀ id, 0 < record.countP (completes id) →
    ∃ row ∈ queue.deliveries, row.id = id ∧ row.status ≠ .pending
  final : ∀ entry ∈ record, ∀ row ∈ entry.site.store.deliveries, row.status ≠ .pending →
    row ∈ queue.deliveries

theorem closed_kept (apart : Apart record ⟨site, change⟩) {row : Delivery}
    (listed : row ∈ site.store.deliveries) (closed : row.status ≠ .pending) :
    row ∈ (site.after change).store.deliveries := by
  have other {delivery : Delivery} (still : site.store.Open delivery) : row.id ≠ delivery.id :=
    fun same => closed (still.2 row listed same).1
  cases change with
  | enqueue =>
    simp only [Site.after, Ledger.apply, QueueChange.apply]
    split
    · exact listed
    · exact List.mem_append_left _ listed
  | accept => exact listed
  | complete | reschedule | suppress =>
    exact List.mem_map.mpr ⟨row, listed, if_neg (by simpa using other apart)⟩

theorem Handled.kept (handled : Handled record site.store) (apart : Apart record ⟨site, change⟩) :
    Handled (record ++ [⟨site, change⟩]) (site.after change).store := by
  refine ⟨fun id => ?_, fun id done => ?_, fun entry listed row there closed => ?_⟩
  · rw [List.countP_append, List.countP_singleton]
    cases taken : accepts id ⟨site, change⟩ with
    | false => simpa using handled.once id
    | true =>
      cases change with
      | accept delivery =>
        obtain rfl := eq_of_beq taken
        have none : record.countP (accepts delivery.id) = 0 := by
          rw [apart.2]
          refine Nat.eq_zero_of_not_pos fun done => ?_
          obtain ⟨row, listed, same, closed⟩ := handled.closed _ done
          exact closed (apart.1.2 row listed same).1
        simp [none]
      | _ => cases taken
  · rw [List.countP_append, List.countP_singleton] at done
    by_cases before : 0 < record.countP (completes id)
    · obtain ⟨row, listed, same, closed⟩ := handled.closed id before
      exact ⟨row, closed_kept apart listed closed, same, closed⟩
    cases change with
    | complete delivery =>
      cases hit : completes id ⟨site, .complete delivery⟩ with
      | false =>
        rw [hit] at done
        exact absurd done before
      | true =>
        obtain rfl := eq_of_beq hit
        obtain ⟨row, listed, same⟩ := apart.1
        exact ⟨{ row with status := .sent, payload := "" },
          List.mem_map.mpr ⟨row, listed, if_pos (by simpa using same)⟩, same, nofun⟩
    | _ => exact absurd done before
  · rcases List.mem_append.mp listed with early | last
    · exact closed_kept apart (handled.final entry early row there closed) closed
    rw [List.mem_singleton] at last
    subst last
    exact closed_kept apart there closed

/-- A notification is accepted at most once, and a delivery that is settled stays as it is. -/
theorem delivered_once (readable : String → Bool) {happenings : List (Happening DispatchCall)}
    (heeded : Every (Traffic.take (dispatch readable))
      (Traffic.Heeds (dispatch readable) {} Apart) (Chronicle.opened site) happenings) :
    let traffic := Traffic.run (dispatch readable) site happenings
    (∀ id, traffic.events.countP (accepts id) ≤ 1) ∧
      ∀ entry ∈ traffic.events, ∀ row ∈ entry.site.store.deliveries, row.status ≠ .pending →
        row ∈ traffic.site.store.deliveries := by
  have handled := Traffic.kept (fun record site => Handled record site.store)
    ⟨fun _ => Nat.zero_le 1, fun _ none => absurd none (Nat.lt_irrefl 0),
      nofun⟩
    (fun call => Program.uses_any (dispatch readable call))
    (fun _ _ handled _ apart => handled.kept apart) (fun _ _ _ valid _ same => same ▸ valid) heeded
  exact ⟨handled.once, handled.final⟩

def quietQueue : Site Queue := { store := {}, clock := 1000 * Duration.second }

def inTurn : List (Happening DispatchCall) :=
  .call (.notify "n" "text" .accepted) :: List.replicate 4 (.advance 0) ++
    .call (.retry fun _ => .accepted) :: List.replicate 2 (.advance 1)

theorem delivered_once_in_turn :
    (Traffic.run (dispatch fun _ => true) quietQueue inTurn).events.countP (accepts "n") ≤ 1 :=
  (delivered_once (fun _ => true) (by decide +kernel)).1 "n"

def overlapping (verdict : Verdict) : List (Happening DispatchCall) :=
  .call (.notify "n" "text" verdict) :: List.replicate 2 (.advance 0) ++
    .call (.retry fun _ => .accepted) :: List.replicate 4 (.advance 1) ++
      List.replicate 2 (.advance 0)

theorem overlapping_retry :
    (Traffic.run (dispatch fun _ => true) quietQueue (overlapping .accepted)).events.countP
        (accepts "n") = 2 ∧
      ((Traffic.run (dispatch fun _ => true) quietQueue
        ((overlapping .unavailable).take 8)).site.store.deliveries.map Delivery.status = [.sent]) ∧
      (Traffic.run (dispatch fun _ => true) quietQueue
        (overlapping .unavailable)).site.store.deliveries.map Delivery.status = [.pending] := by
  decide +kernel

end Cashp.Notify
