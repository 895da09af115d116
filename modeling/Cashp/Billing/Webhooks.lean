import Cashp.Billing.Booking

/-!
What a run of verified deliveries about one attempt books. A fresh delivery books the attempt's
amount exactly when the attempt was not succeeded before it.
-/

namespace Cashp

open Kit Kit.Program

variable {world : World} {providerName : String} {attempt row : PaymentAttempt} {event : Event}
  {state reported : PaymentState}
variable {delivery : Delivery} {reference : String}

def Stmt.AsksRegistry {Reply : Type} (stmt : Stmt Reply) : Prop :=
  match stmt with
  | .provider (.byName _) => True
  | .call (.lookup _) => True
  | _ => False

def World.SameRegistry (before after : World) : Prop :=
  after.providers = before.providers ∧ after.drivers = before.drivers

theorem execute_registry {Reply : Type} (stmt : Stmt Reply) (first second : World)
    (asks : stmt.AsksRegistry) (same : first.SameRegistry second) :
    (execute stmt first).1 = (execute stmt second).1 ∧
      (execute stmt first).2.SameRegistry (execute stmt second).2 := by
  cases stmt with
  | provider stmt =>
    cases stmt with
    | byName =>
      refine ⟨?_, same⟩
      change first.providers.find _ = second.providers.find _
      rw [same.1]
    | _ => exact asks.elim
  | call stmt =>
    cases stmt with
    | lookup name => exact ⟨(congrFun same.2 name).symm, same⟩
    | _ => exact asks.elim
  | _ => exact asks.elim

theorem providerByName_asks (name : String) : (providerByName name).Uses Stmt.AsksRegistry :=
  uses_then trivial fun found => by cases found <;> trivial

theorem webhookSecret_asks (name : String) : (webhookSecret name).Uses Stmt.AsksRegistry := by
  refine uses_bind (providerByName_asks name) fun record => ?_
  refine uses_bind (uses_ofExcept _) fun credentials => ?_
  exact uses_refused fun _ => uses_pure _

theorem authenticate_asks (providerName : String) (delivery : Delivery) :
    (authenticate providerName delivery).Uses Stmt.AsksRegistry := by
  refine uses_bind (providerByName_asks providerName) fun record => ?_
  refine uses_refused fun _ => uses_refused fun _ => ?_
  refine uses_bind (webhookSecret_asks providerName) fun secret => ?_
  refine uses_refused fun _ => ?_
  refine uses_bind (uses_then trivial fun _ => uses_ofExcept _) fun provider => ?_
  split
  · exact uses_pure _
  · exact uses_fail _

def Verifies (providerName : String) (world : World) (delivery : Delivery) (event : Event) : Prop :=
  ((authenticate providerName delivery).run world).1 = .ok event

theorem Verifies.later {later : World}
    (verified : Verifies providerName world delivery event) (same : world.SameRegistry later) :
    Verifies providerName later delivery event := by
  have agree := run_congr (authenticate_asks providerName delivery) execute_registry same
  exact agree.1.symm.trans verified

theorem handleWebhook_run (verified : Verifies providerName world delivery event) :
    (handleWebhook providerName delivery).run world =
      (applyDelivery providerName event).run world := by
  have run : (authenticate providerName delivery).run world = (.ok event, world) :=
    Prod.ext verified (run_unchanged authenticate_within world)
  unfold handleWebhook
  rw [run_attempted, run]

theorem handleWebhook_registry (delivery : Delivery) :
    world.SameRegistry ((handleWebhook providerName delivery).run world).2 := by
  have quiet : (handleWebhook providerName delivery).Avoids [.provider] :=
    handleWebhook_within (by decide)
  exact ⟨run_without .provider quiet world,
    (run_steady (handleWebhook providerName delivery) world).drivers⟩

def World.attemptFor (world : World) (providerName reference : String) : Option PaymentAttempt :=
  (AttemptStmt.execute (.byReference providerName reference) world.attempts).1

def Tracks (providerName : String) (attempt : PaymentAttempt) (state : PaymentState)
    (world : World) : Prop :=
  isBlank attempt.providerRef = false ∧
    ∃ row, world.attemptFor providerName attempt.providerRef = some row ∧
      row.origin = attempt.origin ∧ row.state = state

theorem attemptByReference_run (named : isBlank reference = false) :
    (attemptByReference providerName reference).run world =
      (.ok (world.attemptFor providerName reference), world) := by
  unfold attemptByReference
  rw [if_neg (by simp [named])]
  rfl

theorem Tracks.of_attempts {later : World} (tracks : Tracks providerName attempt state world)
    (same : later.attempts = world.attempts) : Tracks providerName attempt state later := by
  obtain ⟨named, row, found, origin, current⟩ := tracks
  refine ⟨named, row, ?_, origin, current⟩
  rw [← found, World.attemptFor, World.attemptFor, same]

theorem attemptFor_complete {code message : String} {now : Int}
    (found : world.attemptFor providerName reference = some row) :
    (execute (Stmt.attempt (.complete reported reference code message now row.id))
        world).2.attemptFor providerName reference =
      some (row.completed reported reference code message now) := by
  have facts := Table.mem_selectOrdered.mp (List.mem_of_head? found)
  have kept : ∀ other ∈ world.attempts.rows, (other.id == row.id) = true →
      (other.completed reported reference code message now).hasReference providerName reference =
        other.hasReference providerName reference := by
    intro other member hit
    have same : other = row :=
      Table.eq_of_column List.mem_cons_self member facts.1 (by simpa using hit)
    simp_all [PaymentAttempt.hasReference, PaymentAttempt.completed]
  have monotone : ∀ first second : PaymentAttempt,
      latestFirst (Table.assignWhere (fun other => other.id == row.id)
          (PaymentAttempt.completed reported reference code message now) first)
        (Table.assignWhere (fun other => other.id == row.id)
          (PaymentAttempt.completed reported reference code message now) second) ↔
        latestFirst first second := by
    intro first second
    unfold Table.assignWhere
    split <;> split <;> exact Iff.rfl
  refine (congrArg List.head? (Table.selectOrdered_update (by simp [PaymentAttempt.completed])
    kept monotone)).trans ?_
  rw [List.head?_map]
  change Option.map _ (world.attemptFor providerName reference) = _
  rw [found]
  exact congrArg some (Table.assignWhere_of (by simp))

def enters (before after : PaymentState) : Bool := before != .succeeded && after == .succeeded

def credits : PaymentState → List PaymentState → Nat
  | _, [] => 0
  | before, after :: rest => (if enters before after then 1 else 0) + credits after rest

structure Stands (providerName : String) (attempt : PaymentAttempt) (gain : Int)
    (state : PaymentState) (paid : Int) (world : World) : Prop where
  tracks : Tracks providerName attempt state world
  gains : Gains attempt.tenantID attempt.invoiceID attempt.amountMinor gain world
  paid : world.paidOn attempt.invoiceID = paid

variable {gain paid : Int} {events : List Event}

theorem Stands.kept {Value : Type} {program : Service Value}
    (stands : Stands providerName attempt gain state paid world)
    (quiet : program.Avoids [.attempt, .invoice, .payment]) :
    Stands providerName attempt gain state paid (program.run world).2 where
  tracks := stands.tracks.of_attempts (run_same quiet (show Area.attempt ∈ _ by decide) world)
  gains := stands.gains.of_invoices (run_same quiet (show Area.invoice ∈ _ by decide) world)
  paid := by
    have same := run_same quiet (show Area.payment ∈ _ by decide) world
    exact (congrFun same attempt.invoiceID).trans stands.paid

def Event.Concerns (event : Event) (attempt : PaymentAttempt) : Prop :=
  event.reference = attempt.providerRef ∧ event.amountMinor = attempt.amountMinor

instance (event : Event) (attempt : PaymentAttempt) : Decidable (event.Concerns attempt) :=
  inferInstanceAs (Decidable (_ ∧ _))

theorem owner_of_origin (origin : row.origin = attempt.origin) :
    row.tenantID = attempt.tenantID ∧ row.invoiceID = attempt.invoiceID := by
  simp only [PaymentAttempt.origin, PaymentAttempt.mk.injEq] at origin
  exact ⟨origin.2.1, origin.2.2.2.1⟩

section

variable (stands : Stands providerName attempt gain state paid world)

include stands

theorem completeAttempt_stands (concerns : event.Concerns attempt)
    (found : world.attemptFor providerName event.reference = some row)
    (origin : row.origin = attempt.origin) : Stands providerName attempt gain reported paid
      ((completeAttempt row reported event.reference "" event.detail).run world).2 where
  tracks := by
    refine ⟨stands.tracks.1, row.completed reported event.reference "" event.detail world.now,
      ?_, origin, rfl⟩
    rw [← concerns.1]
    exact attemptFor_complete found
  gains := stands.gains.of_invoices rfl
  paid := stands.paid

theorem recordPayment_stands {amount : Int}
    (positive : 0 < attempt.amountMinor) (whole : amount = attempt.amountMinor) :
    Stands providerName attempt gain state (paid + gain)
      ((recordPayment attempt.tenantID attempt.invoiceID amount).run world).2 := by
  subst whole
  have booked := recordPayment_gains positive stands.gains
  refine ⟨stands.tracks.of_attempts ?_, booked.2, by rw [booked.1, stands.paid]⟩
  exact run_without .attempt (recordPayment_within (by decide)) world

theorem settleAttempt_stands
    (concerns : event.Concerns attempt) (positive : 0 < attempt.amountMinor)
    (found : world.attemptFor providerName event.reference = some row)
    (origin : row.origin = attempt.origin) :
    Stands providerName attempt gain reported (paid + if reported = .succeeded then gain else 0)
      ((settleAttempt row event reported).run world).2 := by
  have completed : Stands providerName attempt gain reported paid _ :=
    completeAttempt_stands stands concerns found origin
  obtain ⟨tenant, target⟩ := owner_of_origin origin
  unfold settleAttempt
  rw [run_bind_ok rfl]
  by_cases settled : reported = .succeeded
  · rw [if_neg (not_not.mpr settled), if_pos settled, tenant, target]
    have whole : (if 0 < event.amountMinor then event.amountMinor else row.amountMinor) =
        attempt.amountMinor := by
      rw [concerns.2, if_pos positive]
    refine run_bind_keeps _ _ (recordPayment_stands completed positive whole) ?_
    intro value later stands
    exact stands.kept (uses_bind (recoverSubscription_within (by decide)) fun _ => uses_pure _)
  · rw [if_pos settled, if_neg settled, Int.add_zero]
    exact completed

theorem applyPaymentEvent_stands
    (concerns : event.Concerns attempt) (positive : 0 < attempt.amountMinor) :
    Stands providerName attempt gain reported (paid + if enters state reported then gain else 0)
      ((applyPaymentEvent providerName event reported).run world).2 := by
  obtain ⟨named, row, found, origin, current⟩ := stands.tracks
  rw [← concerns.1] at named found
  unfold applyPaymentEvent
  rw [run_bind_ok (attemptByReference_run named), found]
  subst current
  by_cases known : row.state = reported
  · have still : enters row.state reported = false := by
      rw [known]
      cases reported <;> rfl
    simp only [if_pos known, still]
    rw [← known]
    simpa using stands
  · have moves : enters row.state reported = decide (reported = .succeeded) := by
      cases reported <;> simp_all [enters]
    simp only [if_neg known, moves, decide_eq_true_eq]
    exact settleAttempt_stands stands concerns positive found origin

end

def Event.isPayment (event : Event) : Bool :=
  event.kind == .paymentSucceeded || event.kind == .paymentFailed

def Event.reports (event : Event) : PaymentState :=
  if event.kind = .paymentSucceeded then .succeeded else .failed

theorem applyWebhook_payment (payment : event.isPayment = true) :
    applyWebhook providerName event = applyPaymentEvent providerName event event.reports := by
  unfold applyWebhook Event.reports
  simp only [Event.isPayment, Bool.or_eq_true, beq_iff_eq] at payment
  rcases payment with succeeded | failed
  · simp [succeeded]
  · simp [failed]

def World.ledger (world : World) : List String := world.webhooks.rows.map WebhookEvent.id

theorem finishWebhook_ledger (id : String) (state : WebhookState) (detail : String)
    (world : World) : ((finishWebhook id state detail).run world).2.ledger = world.ledger :=
  Table.map_update (by simp) fun _ => rfl

theorem ledgerKey_inj {first second : String}
    (same : ledgerKey providerName first = ledgerKey providerName second) : first = second := by
  simp_all [ledgerKey]

theorem applyRecorded_stands (result : WebhookResult)
    (stands : Stands providerName attempt gain state paid world)
    (payment : event.isPayment = true) (concerns : event.Concerns attempt)
    (positive : 0 < attempt.amountMinor) : Stands providerName attempt gain event.reports
        (paid + if enters state event.reports then gain else 0)
        ((applyRecorded providerName event result).run world).2 ∧
      ((applyRecorded providerName event result).run world).2.ledger = world.ledger := by
  have quiet : (applyWebhook providerName event).Avoids [.webhook] :=
    applyWebhook_within (by decide)
  have unheard := run_without .webhook quiet world
  unfold applyRecorded
  refine run_bind_keeps _ (fun later => Stands providerName attempt gain event.reports
    (paid + if enters state event.reports then gain else 0) later ∧ later.ledger = world.ledger)
    ?_ fun answer later kept => ?_
  · rw [run_attempt]
    refine ⟨?_, congrArg (fun table => table.rows.map WebhookEvent.id) unheard⟩
    rw [applyWebhook_payment payment]
    exact applyPaymentEvent_stands stands concerns positive
  · have finished (id : String) (state : WebhookState) (detail : String) :
        (finishWebhook id state detail).Avoids [.attempt, .invoice, .payment] :=
      finishWebhook_within (by decide)
    cases answer with
    | error | ok =>
      exact ⟨kept.1.kept (uses_bind (finished _ _ _) fun _ => uses_pure _),
        (finishWebhook_ledger _ _ _ later).trans kept.2⟩

theorem applyDelivery_duplicate (heard : ledgerKey providerName event.id ∈ world.ledger) :
    ((applyDelivery providerName event).run world).2 = world := by
  obtain ⟨entry, member, same⟩ := List.mem_map.mp heard
  have found : world.webhooks.find (fun other => other.id == ledgerKey providerName event.id) =
      some entry :=
    Table.find_unique (List.mem_singleton_self WebhookEvent.id) member (by simp [same])
      fun other hit => by simpa [same] using hit
  have read : (webhookEvent (ledgerKey providerName event.id)).run world =
    (.ok (some entry), world) :=
    Prod.ext (congrArg Except.ok found) rfl
  unfold applyDelivery
  rw [run_bind_ok read]
  rfl

theorem applyDelivery_run (fresh : ledgerKey providerName event.id ∉ world.ledger) :
    ∃ grown : WebhookEvents,
      grown.rows.map WebhookEvent.id = world.ledger ++ [ledgerKey providerName event.id] ∧
      (applyDelivery providerName event).run world = (applyRecorded providerName event
          { provider := providerName, eventID := event.id, eventType := some event.kind }).run
          { world with webhooks := grown } := by
  have missing : world.webhooks.find (fun other => other.id == ledgerKey providerName event.id) =
      none := by
    simp_all [Table.find, World.ledger]
  have read : (webhookEvent (ledgerKey providerName event.id)).run world = (.ok none, world) :=
    Prod.ext (congrArg Except.ok missing) rfl
  let entry : WebhookEvent :=
    { id := ledgerKey providerName event.id, provider := providerName, eventID := event.id
      eventType := event.kind, state := .received, receivedAt := world.now }
  obtain ⟨grown, stored, rows⟩ : ∃ grown, world.webhooks.insert entry = some grown ∧
      grown.rows = world.webhooks.rows ++ [entry] := by
    refine Table.insert_fresh fun column listed other member same => fresh ?_
    rw [List.mem_singleton.mp listed] at same
    exact List.mem_map.mpr ⟨other, member, same⟩
  have inserted : execute (Stmt.webhook (.insert entry)) world =
      (true, { world with webhooks := grown }) := by
    change Stmt.execute _ _ = _
    simp [Stmt.execute, WebhookStmt.execute, stored]
  have recorded : (recordWebhook entry).attempt.run world =
      (.ok (.ok ()), { world with webhooks := grown }) := by
    rw [run_attempt, recordWebhook, run_step, inserted]
    rfl
  refine ⟨grown, by simp [World.ledger, rows, entry], ?_⟩
  unfold applyDelivery
  rw [run_bind_ok read]
  exact run_bind_ok recorded

theorem applyDelivery_fresh (fresh : ledgerKey providerName event.id ∉ world.ledger)
    (stands : Stands providerName attempt gain state paid world)
    (payment : event.isPayment = true) (concerns : event.Concerns attempt)
    (positive : 0 < attempt.amountMinor) : Stands providerName attempt gain event.reports
        (paid + if enters state event.reports then gain else 0)
        ((applyDelivery providerName event).run world).2 ∧
      ((applyDelivery providerName event).run world).2.ledger =
        world.ledger ++ [ledgerKey providerName event.id] := by
  obtain ⟨grown, ledger, ran⟩ := applyDelivery_run fresh
  have recorded : Stands providerName attempt gain state paid { world with webhooks := grown } :=
    ⟨stands.tracks, stands.gains, stands.paid⟩
  rw [ran]
  have applied := applyRecorded_stands
    { provider := providerName, eventID := event.id, eventType := some event.kind }
    recorded payment concerns positive
  exact ⟨applied.1, applied.2.trans ledger⟩

structure Arrival where
  moment : Int
  delivery : Delivery

def arrive (providerName : String) (world : World) (arrival : Arrival) : World :=
  (handleWebhook providerName arrival.delivery).final { world with now := arrival.moment }

def arriveAll (providerName : String) : World → List Arrival → World
  | world, [] => world
  | world, arrival :: rest => arriveAll providerName (arrive providerName world arrival) rest

def unheard (providerName : String) (world : World) (events : List Event) : List PaymentState :=
  (events.filter (fun event => ledgerKey providerName event.id ∉ world.ledger)).map Event.reports

theorem unheard_congr {later : World}
    (same : ∀ event ∈ events, ledgerKey providerName event.id ∈ later.ledger ↔
      ledgerKey providerName event.id ∈ world.ledger) :
    unheard providerName later events = unheard providerName world events := by
  unfold unheard
  congr 1
  exact List.filter_congr fun event member => by simp [same event member]

theorem arrive_run {arrival : Arrival}
    (verified : Verifies providerName world arrival.delivery event) :
    arrive providerName world arrival =
      ((applyDelivery providerName event).run { world with now := arrival.moment }).2 := by
  have early : Verifies providerName { world with now := arrival.moment } arrival.delivery event :=
    verified.later ⟨rfl, rfl⟩
  exact congrArg Prod.snd (handleWebhook_run early)

theorem arriveAll_paid {arrivals : List Arrival} (verified : List.Forall₂ (fun arrival event =>
      Verifies providerName world arrival.delivery event) arrivals events)
    (payments : ∀ event ∈ events, event.isPayment = true ∧ event.Concerns attempt)
    (distinct : (events.map Event.id).Nodup) (positive : 0 < attempt.amountMinor)
    (stands : Stands providerName attempt gain state paid world) :
    (arriveAll providerName world arrivals).paidOn attempt.invoiceID =
      paid + gain * credits state (unheard providerName world events) := by
  induction arrivals generalizing world state paid events with
  | nil =>
    cases verified
    simp [arriveAll, unheard, credits, stands.paid]
  | cons arrival rest ih =>
    cases verified with
    | @cons _ event _ later first others =>
      simp only [List.map_cons, List.nodup_cons] at distinct
      have fine := payments event List.mem_cons_self
      have timed : Stands providerName attempt gain state paid
          { world with now := arrival.moment } := ⟨stands.tracks, stands.gains, stands.paid⟩
      have registry : world.SameRegistry (arrive providerName world arrival) :=
        handleWebhook_registry arrival.delivery
      have still := others.imp fun _ _ known => known.later registry
      have tail := fun event member => payments event (List.mem_cons_of_mem _ member)
      rw [arriveAll]
      by_cases heard : ledgerKey providerName event.id ∈ world.ledger
      · have same := (arrive_run first).trans (applyDelivery_duplicate heard)
        have after : Stands providerName attempt gain state paid
            (arrive providerName world arrival) := by
          rwa [same]
        have kept : unheard providerName (arrive providerName world arrival) later =
            unheard providerName world later := by
          rw [same]
          rfl
        have skipped : unheard providerName world (event :: later) =
            unheard providerName world later := by
          simp [unheard, heard]
        rw [ih still tail distinct.2 after, kept, skipped]
      · have fresh : ledgerKey providerName event.id ∉
            World.ledger { world with now := arrival.moment } := heard
        have stepped := applyDelivery_fresh fresh timed fine.1 fine.2 positive
        rw [← arrive_run first] at stepped
        have kept : unheard providerName (arrive providerName world arrival) later =
            unheard providerName world later := by
          refine unheard_congr fun other member => ?_
          have apart : ledgerKey providerName other.id ≠ ledgerKey providerName event.id :=
            fun same => distinct.1 (ledgerKey_inj same ▸ List.mem_map_of_mem member)
          rw [stepped.2]
          simp [apart, World.ledger]
        have counted : unheard providerName world (event :: later) =
            event.reports :: unheard providerName world later := by
          simp [unheard, heard]
        rw [ih still tail distinct.2 stepped.1, kept, counted, credits]
        split <;> simp [Int.mul_add, Int.add_assoc]

/-- A run of verified payment events about one stored attempt credits its invoice with at most the
attempt's amount exactly when the events move the attempt into succeeded at most once, or the
invoice takes no payment. -/
theorem deliveries_credit_once_iff {arrivals : List Arrival} {events : List Event}
    (verified : List.Forall₂ (fun arrival event =>
      Verifies providerName world arrival.delivery event) arrivals events)
    (payments : ∀ event ∈ events, event.isPayment = true ∧ event.Concerns attempt)
    (distinct : (events.map Event.id).Nodup)
    (stored : world.attemptFor providerName attempt.providerRef = some attempt)
    (named : isBlank attempt.providerRef = false) (positive : 0 < attempt.amountMinor) :
    (arriveAll providerName world arrivals).paidOn attempt.invoiceID -
        world.paidOn attempt.invoiceID ≤ attempt.amountMinor ↔
      (isBlank attempt.tenantID = false → Issued attempt.tenantID attempt.invoiceID world →
        credits attempt.state (unheard providerName world events) ≤ 1) := by
  obtain ⟨gain, gains⟩ :=
    gains_exists attempt.tenantID attempt.invoiceID attempt.amountMinor world
  have total := arriveAll_paid verified payments distinct positive
    ⟨⟨named, attempt, stored, rfl, rfl⟩, gains, rfl⟩
  rw [total, show ∀ first second : Int, first + second - first = second by omega]
  generalize credits attempt.state (unheard providerName world events) = count
  rcases gains with ⟨owned, issued, rfl⟩ | ⟨closed, rfl⟩
  · have scaled : attempt.amountMinor * (count : Int) ≤ attempt.amountMinor * 1 ↔
      (count : Int) ≤ 1 :=
      Int.mul_le_mul_left positive
    grind
  · refine ⟨fun _ owned issued => absurd ⟨owned, issued⟩ closed, fun _ => ?_⟩
    omega

def noticeOf (serial outcome : UInt8) : Event :=
  { id := String.ofList (List.replicate serial.toNat 'e')
    kind := mapEventKind (if outcome = 1 then "charge.succeeded" else "charge.failed")
    reference := "pi", amountMinor := 500, currency := "USD", detail := "" }

def noticeProvider : Provider where
  currencies := []
  charge := fun _ _ => .error "declined"
  refund := fun _ _ => .error "declined"
  getPayment := fun _ _ => .error "unknown"
  verifyWebhook := fun delivery _ =>
    match delivery.body with
    | [serial, outcome] => .ok (noticeOf serial outcome)
    | _ => .error "unsigned"

def chargedInvoice : Invoice :=
  { id := "inv", tenantID := "acme", accountID := "acct", subscriptionID := "sub", number := "INV-1"
    state := .issued, currency := "USD", subtotalMinor := 500, totalMinor := 500, periodStart := 0
    periodEnd := 100, issuedAt := 10, dueAt := 50, createdAt := 10, updatedAt := 10 }

def pendingAttempt : PaymentAttempt :=
  { id := "att", tenantID := "acme", accountID := "acct", invoiceID := "inv", methodID := "pm"
    provider := "stripe", idempotencyKey := "key", amountMinor := 500, currency := "USD"
    state := .pending, providerRef := "pi", attemptNumber := 1, attemptedAt := 20 }

def noticeShop : World where
  invoices := ⟨[chargedInvoice], by simp⟩
  attempts := ⟨[pendingAttempt], by simp⟩
  providers := ⟨[{ name := "stripe", enabled := true, testMode := false, priority := 1
                   credentials := .ok [("webhook_secret", "whsec")], credentialsTest := .ok []
                   healthState := .healthy }], by simp⟩
  drivers := fun _ => some fun _ => .ok noticeProvider
  now := 30
  names := Supply.outgrow

def notice (serial outcome : UInt8) : Arrival := ⟨40, ⟨[], [serial, outcome]⟩⟩

theorem repeated_success_credits_once :
    (arriveAll "stripe" noticeShop [notice 1 0, notice 2 1, notice 3 1]).paidOn "inv" -
      noticeShop.paidOn "inv" ≤ pendingAttempt.amountMinor := by
  have verified : List.Forall₂
      (fun arrival event => Verifies "stripe" noticeShop arrival.delivery event)
      [notice 1 0, notice 2 1, notice 3 1] [noticeOf 1 0, noticeOf 2 1, noticeOf 3 1] :=
    .cons rfl (.cons rfl (.cons rfl .nil))
  have stored : noticeShop.attemptFor "stripe" pendingAttempt.providerRef = some pendingAttempt :=
    rfl
  exact (deliveries_credit_once_iff verified (by decide) (by decide) stored (by decide)
    (by decide)).mpr (by decide)

theorem failure_between_successes_credits_twice :
    List.Forall₂ (fun arrival event => Verifies "stripe" noticeShop arrival.delivery event)
        [notice 1 1, notice 2 0, notice 3 1] [noticeOf 1 1, noticeOf 2 0, noticeOf 3 1] ∧
      noticeShop.attemptFor "stripe" "pi" = some pendingAttempt ∧
      (∀ event ∈ [noticeOf 1 1, noticeOf 2 0, noticeOf 3 1],
        event.isPayment = true ∧ event.Concerns pendingAttempt) ∧
      ([noticeOf 1 1, noticeOf 2 0, noticeOf 3 1].map Event.id).Nodup ∧
      ¬ ((arriveAll "stripe" noticeShop [notice 1 1, notice 2 0, notice 3 1]).paidOn "inv" -
        noticeShop.paidOn "inv" ≤ pendingAttempt.amountMinor) := by
  refine ⟨.cons rfl (.cons rfl (.cons rfl .nil)), rfl, by decide, by decide, by decide⟩

end Cashp
