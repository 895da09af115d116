import Cashp.Billing.CreditNotes

/-!
One charge through one provider: which attempt it records, which call it makes and when
it settles the invoice.
-/

namespace Cashp

open Kit Kit.Program

variable {world : World} {record : ProviderRecord} {inv : Invoice} {method : PaymentMethod}
variable {key : String} {attempt : PaymentAttempt}

structure Turn where
  name : String
  provider : Provider
  request : ChargeRequest

def Turn.answer (turn : Turn) (earlier : Nat) : Except String ChargeResult :=
  turn.provider.charge earlier turn.request

def Turn.call (turn : Turn) (earlier : Nat) : ProviderCall :=
  .charge turn.name turn.request (turn.answer earlier)

def settles : Except String ChargeResult → Bool
  | .ok result => mapChargeState result.state == .succeeded
  | .error _ => false

def turnOf (drivers : String → Option Driver) (record : ProviderRecord) (inv : Invoice)
    (method : PaymentMethod) (key : String) (amount : Int) : Option Turn :=
  match buildInstance (drivers record.name) record with
  | .error _ => none
  | .ok provider =>
    if provider.supports inv.currency then
      some ⟨record.name, provider, chargeRequest inv method key amount⟩
    else none

def World.origins (world : World) : List PaymentAttempt :=
  world.attempts.rows.map PaymentAttempt.origin

def World.keys (world : World) : List String :=
  world.attempts.rows.map PaymentAttempt.idempotencyKey

theorem keys_of_origins (world : World) :
    world.keys = world.origins.map PaymentAttempt.idempotencyKey := by
  simp only [World.keys, World.origins, List.map_map]
  rfl

theorem completeAttempt_origins (attempt : PaymentAttempt) (state : PaymentState)
    (reference code message : String) (world : World) :
    ((completeAttempt attempt state reference code message).run world).2.origins = world.origins :=
  Table.map_update (by simp [PaymentAttempt.completed]) fun _ => rfl

structure Tried (attempt : PaymentAttempt) (turn : Option Turn) (before : World)
    (outcome : ChargeOutcome) (after : World) : Prop where
  origins : after.origins = before.origins
  calls : after.calls = before.calls ++ (turn.map fun turn => turn.call before.calls.length).toList
  settled : outcome.settled = turn.any fun turn => settles (turn.answer before.calls.length)
  recorded : ∃ tried, outcome.attempt = some tried ∧ tried.id = attempt.id

theorem refuseAttempt_tried (attempt : PaymentAttempt) (code message : String)
    (failure : BillingError) (world : World) :
    ∃ outcome later, (refuseAttempt attempt code message failure).run world = (.ok outcome, later) ∧
      Tried attempt none world outcome later :=
  ⟨_, _, rfl, completeAttempt_origins attempt .failed "" code message world,
    (List.append_nil _).symm, rfl, attempt, rfl, rfl⟩

theorem finishCharge_tried (record : ProviderRecord) (attempt : PaymentAttempt)
    (result : ChargeResult) (world : World) :
    ∃ outcome later, (finishCharge record attempt result).run world = (.ok outcome, later) ∧
      later.origins = world.origins ∧ later.calls = world.calls ∧
      outcome.settled = settles (.ok result) ∧
      ∃ tried, outcome.attempt = some tried ∧ tried.id = attempt.id := by
  have kept := completeAttempt_origins attempt (mapChargeState result.state) result.reference
    result.failureCode result.failureMessage world
  unfold finishCharge
  rw [run_bind_ok rfl]
  split
  · exact ⟨_, _, rfl, kept, rfl, rfl, _, rfl, rfl⟩
  · exact ⟨_, _, rfl, kept, rfl, rfl, _, rfl, rfl⟩

theorem chargeWith_tried (record : ProviderRecord) (provider : Provider) (inv : Invoice)
    (method : PaymentMethod) (attempt : PaymentAttempt) (world : World) : ∃ outcome later,
      (chargeWith record provider inv method attempt).run world = (.ok outcome, later) ∧
      Tried attempt (if provider.supports inv.currency then some ⟨record.name, provider,
            chargeRequest inv method attempt.idempotencyKey attempt.amountMinor⟩
        else none) world outcome later := by
  unfold chargeWith
  cases supported : provider.supports inv.currency with
  | false => exact refuseAttempt_tried attempt _ _ _ world
  | true =>
    let turn : Turn := ⟨record.name, provider,
      chargeRequest inv method attempt.idempotencyKey attempt.amountMinor⟩
    let called : World := { world with calls := world.calls ++ [turn.call world.calls.length] }
    have asked : (perform (.call (.charge record.name provider
        (chargeRequest inv method attempt.idempotencyKey attempt.amountMinor))) :
          Service (Except String ChargeResult)).run world =
        (.ok (turn.answer world.calls.length), called) := rfl
    simp only [Bool.true_eq_false, if_false, if_true]
    rw [run_bind_ok asked]
    cases answered : turn.answer world.calls.length with
    | error reason =>
      refine ⟨_, _, rfl, ?_⟩
      refine ⟨?_, rfl, ?_, attempt, rfl, rfl⟩
      · exact completeAttempt_origins attempt .failed "" "provider_error" reason called
      · simp [answered, settles, ChargeOutcome.settled, turn]
    | ok result =>
      obtain ⟨outcome, later, ran, origins, calls, settled, recorded⟩ :=
        finishCharge_tried record attempt result called
      refine ⟨outcome, later, ran, origins, calls, ?_, recorded⟩
      simp [settled, answered, turn]

theorem insertAttempt_stores (fresh : ∀ other ∈ world.attempts.rows, other.id ≠ attempt.id)
    (free : attempt.idempotencyKey ∉ world.keys) :
    ∃ grown : Attempts, (insertAttempt attempt).run world =
        (.ok (), { world with attempts := grown }) ∧
      grown.rows = world.attempts.rows ++ [attempt] := by
  obtain ⟨grown, stored, rows⟩ : ∃ grown, world.attempts.insert attempt = some grown ∧
      grown.rows = world.attempts.rows ++ [attempt] := by
    refine Table.insert_fresh fun column listed other member => ?_
    simp only [List.mem_cons, List.not_mem_nil, or_false] at listed
    rcases listed with rfl | rfl
    · exact fresh other member
    · exact fun same => free (same ▸ List.mem_map_of_mem member)
  have inserted : execute (Stmt.attempt (.insert attempt)) world =
      (true, { world with attempts := grown }) := by
    change Stmt.execute _ _ = _
    simp [Stmt.execute, AttemptStmt.execute, stored]
  refine ⟨grown, ?_, rows⟩
  rw [insertAttempt, run_step, inserted]
  rfl

theorem insertAttempt_refused (taken : attempt.idempotencyKey ∈ world.keys) :
    ∃ failure, (insertAttempt attempt).run world = (.error failure, world) := by
  have refused : world.attempts.insert attempt = none := by
    cases stored : world.attempts.insert attempt with
    | none => rfl
    | some grown =>
      have unique := grown.unique PaymentAttempt.idempotencyKey
        (List.mem_cons_of_mem _ List.mem_cons_self)
      grind [World.keys, Table.insert]
  have inserted : execute (Stmt.attempt (.insert attempt)) world = (false, world) := by
    change Stmt.execute _ _ = _
    simp [Stmt.execute, AttemptStmt.execute, refused]
  rw [insertAttempt, run_step, inserted]
  change ∃ failure, Program.run (if world.namesDuplicates = true then _ else _) world = _
  split <;> exact ⟨_, rfl⟩

theorem driverInstance_run (record : ProviderRecord) (world : World) :
    (driverInstance record).run world =
      (buildInstance (world.drivers record.name) record, world) := by
  unfold driverInstance
  rw [run_step, run_ofExcept]
  rfl

theorem chargeThrough_taken {amount number : Int} (taken : key ∈ world.keys) :
    ∃ failure later, (chargeThrough record inv method key amount number).run world =
        (.ok { error := some failure }, later) ∧
      later.origins = world.origins ∧ later.calls = world.calls := by
  let drawn : World := { world with drawn := world.names.next world.usedIDs :: world.drawn }
  let attempt := newAttempt record inv method (world.names.next world.usedIDs) key amount number
    world.now
  obtain ⟨failure, refused⟩ : ∃ failure, (insertAttempt attempt).run drawn =
      (.error failure, drawn) := insertAttempt_refused taken
  have tried : (insertAttempt attempt).attempt.run drawn = (.ok (.error failure), drawn) := by
    rw [run_attempt, refused]
  refine ⟨failure, drawn, ?_, rfl, rfl⟩
  unfold chargeThrough
  rw [run_bind_ok (newID_run world)]
  exact run_bind_ok tried

theorem chargeThrough_stored (record : ProviderRecord) (inv : Invoice) (method : PaymentMethod)
    (amount number : Int) (free : key ∉ world.keys) :
    ∃ grown : Attempts, grown.rows = world.attempts.rows ++ [newAttempt record inv method
        (world.names.next world.usedIDs) key amount number world.now] ∧
      (chargeThrough record inv method key amount number).run world =
        Program.run (match buildInstance (world.drivers record.name) record with
          | .error failure => refuseAttempt (newAttempt record inv method
              (world.names.next world.usedIDs) key amount number world.now)
              "provider_unavailable" failure.text failure
          | .ok provider => chargeWith record provider inv method (newAttempt record inv method
              (world.names.next world.usedIDs) key amount number world.now))
          { world with
            drawn := world.names.next world.usedIDs :: world.drawn, attempts := grown } := by
  let drawn : World := { world with drawn := world.names.next world.usedIDs :: world.drawn }
  let attempt := newAttempt record inv method (world.names.next world.usedIDs) key amount number
    world.now
  obtain ⟨grown, stored, rows⟩ : ∃ grown : Attempts, (insertAttempt attempt).run drawn =
      (.ok (), { drawn with attempts := grown }) ∧ grown.rows = world.attempts.rows ++ [attempt] :=
    insertAttempt_stores (lacks_next world).attempt free
  have inserted : (insertAttempt attempt).attempt.run drawn =
      (.ok (.ok ()), { drawn with attempts := grown }) := by
    rw [run_attempt, stored]
  have built : (driverInstance record).attempt.run { drawn with attempts := grown } =
      (.ok (buildInstance (world.drivers record.name) record),
        { drawn with attempts := grown }) := by
    rw [run_attempt, driverInstance_run]
  refine ⟨grown, rows, ?_⟩
  unfold chargeThrough
  rw [run_bind_ok (newID_run world)]
  exact (run_bind_ok inserted).trans (run_bind_ok built)

theorem chargeThrough_free {amount number : Int} (free : key ∉ world.keys) :
    ∃ attempt outcome later, (chargeThrough record inv method key amount number).run world =
        (.ok outcome, later) ∧
      attempt = newAttempt record inv method (world.names.next world.usedIDs) key amount number
        world.now ∧
      later.origins = world.origins ++ [attempt.origin] ∧
      later.calls = world.calls ++ ((turnOf world.drivers record inv method key amount).map
        fun turn => turn.call world.calls.length).toList ∧
      outcome.settled = (turnOf world.drivers record inv method key amount).any
        (fun turn => settles (turn.answer world.calls.length)) ∧
      ∃ tried, outcome.attempt = some tried ∧ tried.id = attempt.id := by
  let attempt := newAttempt record inv method (world.names.next world.usedIDs) key amount number
    world.now
  obtain ⟨grown, rows, ran⟩ := chargeThrough_stored record inv method amount number free
  let kept : World :=
    { world with drawn := world.names.next world.usedIDs :: world.drawn, attempts := grown }
  have origins : kept.origins = world.origins ++ [attempt.origin] := by
    simp [World.origins, kept, rows, attempt]
  obtain ⟨outcome, later, ended, tried⟩ : ∃ outcome later,
      (chargeThrough record inv method key amount number).run world = (.ok outcome, later) ∧
      Tried attempt (turnOf world.drivers record inv method key amount) kept outcome later := by
    rw [ran, turnOf]
    cases buildInstance (world.drivers record.name) record with
    | error => exact refuseAttempt_tried attempt _ _ _ kept
    | ok provider => exact chargeWith_tried record provider inv method attempt kept
  exact ⟨attempt, outcome, later, ended, rfl, tried.origins.trans origins, tried.calls,
    tried.settled, tried.recorded⟩

end Cashp
