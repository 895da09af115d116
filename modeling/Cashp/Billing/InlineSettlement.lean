import Cashp.Billing.Failover
import Cashp.Billing.Transitions
import Cashp.Billing.Webhooks

/-!
Two ways to settle a pending attempt: the provider answers the charge itself, or it announces the
payment later. Only the announcement goes on to the subscription.
-/

namespace Cashp

open Kit Kit.Program

variable {world first second : World} {tenantID providerName : String} {record : ProviderRecord}
  {inv : Invoice} {attempt : PaymentAttempt} {result : ChargeResult} {event : Event}

def chargeAnswered (tenantID : String) (record : ProviderRecord) (inv : Invoice)
    (attempt : PaymentAttempt) (result : ChargeResult) : Service ChargeOutcome := do
  let outcome ← finishCharge record attempt result
  if outcome.settled then bookCharge tenantID inv attempt.amountMinor outcome else pure outcome

/-- The loop settles what the provider has answered: a new attempt is on file, and the rest of the
run is `chargeAnswered`. -/
theorem chargeInOrder_answered {idempotencyKey : String} {methods : List PaymentMethod}
    {amount number : Int} {allowed : Bool} {rest : List ProviderRecord} {index : Nat}
    {last : ChargeOutcome} {method : PaymentMethod} {provider : Provider}
    (usable : usableMethod methods record.name = some method)
    (free : chargeKey idempotencyKey index record.name ∉ world.keys)
    (built : buildInstance (world.drivers record.name) record = .ok provider)
    (supported : provider.supports inv.currency = true)
    (answered : provider.charge world.calls.length (chargeRequest inv method
      (chargeKey idempotencyKey index record.name) amount) = .ok result)
    (settled : mapChargeState result.state = .succeeded) :
    ∃ attempt asked, asked.attempts.rows = world.attempts.rows ++ [attempt] ∧
      (chargeInOrder tenantID idempotencyKey inv methods amount allowed (record :: rest) index
          number last).run world =
        (chargeAnswered tenantID record inv attempt result).run asked := by
  obtain ⟨grown, rows, ran⟩ := chargeThrough_stored record inv method amount number free
  rw [built] at ran
  generalize madeAs : newAttempt record inv method _ _ _ _ _ = attempt at rows ran
  let kept : World := { world with
    drawn := world.names.next world.usedIDs :: world.drawn, attempts := grown }
  let call : Stmt (Except String ChargeResult) := .call (.charge record.name provider
    (chargeRequest inv method attempt.idempotencyKey attempt.amountMinor))
  have reply : (execute call kept).1 = .ok result := by
    change provider.charge _ (chargeRequest inv method attempt.idempotencyKey _) = _
    rw [← madeAs]
    exact answered
  have charged : (chargeThrough record inv method (chargeKey idempotencyKey index record.name)
      amount number).run world = (finishCharge record attempt result).run
        (execute call kept).2 := by
    rw [ran]
    change (chargeWith record provider inv method attempt).run kept = _
    rw [chargeWith, if_neg (by rw [supported]; decide), run_step, reply]
  obtain ⟨outcome, later, finished, _, _, books, _⟩ :=
    finishCharge_tried record attempt result (execute call kept).2
  have good : outcome.settled = true := by
    rw [books]
    simp [settles, settled]
  refine ⟨attempt, (execute call kept).2, rows, ?_⟩
  rw [chargeInOrder, usable, chargeAnswered, run_bind_ok finished, if_pos good]
  simp only []
  rw [run_bind_ok (charged.trans finished), if_pos good, ← madeAs]
  rfl

def World.attemptStates (world : World) : List (String × PaymentState) :=
  world.attempts.rows.map fun attempt => (attempt.id, attempt.state)

def World.subscriptionStates (world : World) : List (String × SubscriptionState) :=
  world.subscriptions.rows.map fun sub => (sub.id, sub.state)

structure SameBooks (first second : World) : Prop where
  now : first.now = second.now
  invoices : first.invoices = second.invoices
  lines : first.lines = second.lines
  subscriptions : first.subscriptions = second.subscriptions
  attempts : first.attemptStates = second.attemptStates

def Stmt.AsksBooks {Reply : Type} (stmt : Stmt Reply) : Prop :=
  match stmt with
  | .unix => True
  | .invoice _ => True
  | .line (.ofInvoice _ _) => True
  | _ => False

theorem execute_books {Reply : Type} (stmt : Stmt Reply) (first second : World)
    (asks : stmt.AsksBooks) (same : SameBooks first second) :
    (execute stmt first).1 = (execute stmt second).1 ∧
      SameBooks (execute stmt first).2 (execute stmt second).2 := by
  cases stmt with
  | unix => exact ⟨same.now, same⟩
  | invoice stmt =>
    have replies : (stmt.execute first.invoices).1 = (stmt.execute second.invoices).1 := by
      rw [same.invoices]
    have tables : (stmt.execute first.invoices).2 = (stmt.execute second.invoices).2 := by
      rw [same.invoices]
    exact ⟨replies, same.now, tables, same.lines, same.subscriptions, same.attempts⟩
  | line stmt =>
    cases stmt with
    | ofInvoice =>
      refine ⟨?_, same⟩
      change (LineStmt.execute _ first.lines).1 = (LineStmt.execute _ second.lines).1
      rw [same.lines]
    | _ => exact asks.elim
  | _ => exact asks.elim

theorem invoice_asksBooks (tenantID invoiceID : String) :
    (invoice tenantID invoiceID).Uses Stmt.AsksBooks := by
  refine uses_refused fun _ => uses_then trivial fun found => ?_
  refine uses_bind ?_ fun row => uses_then trivial fun lines => uses_pure _
  cases found <;> trivial

theorem settleAs_asksBooks {target : InvoiceState} {paidAt : Int} :
    (settleAs tenantID inv target paidAt).Uses Stmt.AsksBooks := by
  unfold settleAs
  split
  · exact uses_pure _
  refine uses_then trivial fun now => ?_
  refine uses_then trivial fun affected => ?_
  exact uses_refused fun _ => invoice_asksBooks _ _

theorem recordPayment_asksBooks (tenantID invoiceID : String) (amount : Int) :
    (recordPayment tenantID invoiceID amount).Uses Stmt.AsksBooks := by
  unfold recordPayment settleIfPaid
  refine uses_refused fun _ => uses_bind (invoice_asksBooks _ _) fun inv => ?_
  refine uses_refused fun _ => uses_then trivial fun now => ?_
  refine uses_then trivial fun affected => uses_refused fun _ => ?_
  refine uses_bind (invoice_asksBooks _ _) fun paid => ?_
  split
  · exact uses_then trivial fun paidAt => settleAs_asksBooks
  split
  · exact uses_pure _
  · exact settleAs_asksBooks

def completing (attempt : PaymentAttempt) (reference code message : String) (world : World) :
    World :=
  (execute (Stmt.attempt (.complete .succeeded reference code message world.now attempt.id))
    world).2

theorem completing_states (attempt : PaymentAttempt) (reference code message : String)
    (world : World) : (completing attempt reference code message world).attemptStates =
      world.attemptStates.map fun entry =>
        if entry.1 = attempt.id then (entry.1, .succeeded) else entry := by
  change List.map _ (List.map (Table.assignWhere _ _) _) = List.map _ (List.map _ _)
  rw [List.map_map, List.map_map]
  refine List.map_congr_left fun row _ => ?_
  by_cases hit : row.id = attempt.id <;>
    simp [Table.assignWhere, hit, PaymentAttempt.completed]

theorem chargeAnswered_final (settled : mapChargeState result.state = .succeeded)
    (world : World) : (chargeAnswered tenantID record inv attempt result).final world =
      ((recordPayment tenantID inv.id attempt.amountMinor).run
        (execute (Stmt.provider (.setHealth .healthy record.name))
          (completing attempt result.reference result.failureCode result.failureMessage
            world)).2).2 := by
  unfold Program.final chargeAnswered finishCharge
  rw [settled]
  change ((bookCharge _ _ _ _).run _).2 = _
  unfold bookCharge
  rw [run_attempted]
  split <;> rfl

def Event.books (event : Event) (attempt : PaymentAttempt) : Int :=
  if 0 < event.amountMinor then event.amountMinor else attempt.amountMinor

theorem applyPaymentEvent_final (named : isBlank event.reference = false)
    (found : world.attemptFor providerName event.reference = some attempt)
    (pending : attempt.state = .pending) :
    (applyPaymentEvent providerName event .succeeded).final world =
      match (recordPayment attempt.tenantID attempt.invoiceID (event.books attempt)).run
        (completing attempt event.reference "" event.detail world) with
      | (.ok _, later) => ((recoverSubscription attempt.tenantID).run later).2
      | (.error _, later) => later := by
  unfold Program.final applyPaymentEvent
  rw [run_bind_ok ((attemptByReference_run named).trans (by rw [found]))]
  dsimp only
  rw [if_neg (by rw [pending]; decide)]
  change ((recordPayment attempt.tenantID attempt.invoiceID (event.books attempt) >>= _).run
    (completing attempt event.reference "" event.detail world)).2 = _
  rw [run_bind]
  cases (recordPayment attempt.tenantID attempt.invoiceID (event.books attempt)).run
      (completing attempt event.reference "" event.detail world) with
  | mk answer later =>
    cases answer with
    | error => rfl
    | ok =>
      dsimp only
      rw [run_bind]
      cases (recoverSubscription attempt.tenantID).run later with
      | mk recovered => cases recovered <;> rfl

theorem recoverSubscription_final (named : isBlank tenantID = false) (world : World) :
    ((recoverSubscription tenantID).run world).2 =
      match world.currentSubscription tenantID with
      | some sub =>
        if sub.state = .pastDue then
          (execute (guardedChange sub (transitionTo sub .active world.now)) world).2
        else world
      | none => world := by
  unfold recoverSubscription
  rw [run_attempted, activeSubscription_run named]
  cases found : world.currentSubscription tenantID with
  | none => rfl
  | some sub =>
    obtain ⟨member, owned⟩ := currentSubscription_mem found
    rw [require, run_done]
    dsimp only
    by_cases lapsed : sub.state = .pastDue
    · have legal : nextSubscriptionState sub.state .paymentRecovered = .ok .active := by
        rw [lapsed]
        rfl
      have moved := transition_run (by rwa [owned]) member legal
      rw [if_pos lapsed, if_pos lapsed, run_bind_ok moved]
      rfl
    · rw [if_neg lapsed, if_neg lapsed]
      rfl

theorem recordPayment_ok_iff (tenantID invoiceID : String) (amount : Int) (world : World) :
    (∃ paid, ((recordPayment tenantID invoiceID amount).run world).1 = .ok paid) ↔
      0 < amount ∧ isBlank tenantID = false ∧ Issued tenantID invoiceID world := by
  refine ⟨fun ⟨paid, ran⟩ => ?_, fun ⟨positive, named, row, member, matching, sent⟩ => ?_⟩
  · have whole : (recordPayment tenantID invoiceID amount).run world =
        (.ok paid, ((recordPayment tenantID invoiceID amount).run world).2) := Prod.ext ran rfl
    unfold recordPayment at whole
    obtain ⟨positive, rest⟩ := ran_refuse whole
    obtain ⟨inv, _, read, rest⟩ := ran_bind rest
    obtain ⟨rfl, row, member, matching, same⟩ := invoice_ok read
    have kept := (ran_refuse rest).1
    refine ⟨by omega, invoice_named read, row, member, matching, ?_⟩
    rwa [same] at kept
  · have paid : (InvoiceUpdate.pay amount world.now).apply row ∈
        (execute (guardedWrite row tenantID (.pay amount world.now)) world).2.invoices.rows :=
      (guardedWrite_lands _ member (isRow_iff.mp matching).2).2
    have reread : ((InvoiceUpdate.pay amount world.now).apply row).isRow row.id tenantID = true :=
      isRow_iff.mpr ⟨rfl, (isRow_iff.mp matching).2⟩
    obtain ⟨settled, later, ran, _⟩ := settleIfPaid_returns named paid reread
    rw [recordPayment_run named member matching sent positive, ran]
    exact ⟨settled, rfl⟩

structure SameOutcome (first second : World) : Prop where
  attempts : first.attemptStates = second.attemptStates
  invoices : first.invoices = second.invoices
  subscriptions : first.subscriptionStates = second.subscriptionStates

def AwaitsRecovery (attempt : PaymentAttempt) (world : World) : Prop :=
  (0 < attempt.amountMinor ∧ isBlank attempt.tenantID = false ∧
      Issued attempt.tenantID attempt.invoiceID world) ∧
    ∃ sub, world.currentSubscription attempt.tenantID = some sub ∧ sub.state = .pastDue

theorem recovered_states {sub : Subscription} (member : sub ∈ world.subscriptions.rows)
    (lapsed : sub.state = .pastDue) :
    (execute (guardedChange sub (transitionTo sub .active world.now)) world).2.subscriptionStates ≠
      world.subscriptionStates := by
  intro same
  have landed := guardedChange_lands (transitionTo sub .active world.now) member
  have listed : (sub.id, SubscriptionState.active) ∈ world.subscriptionStates := by
    rw [← same]
    exact List.mem_map.mpr ⟨_, landed.2, rfl⟩
  obtain ⟨other, stored, entry⟩ := List.mem_map.mp listed
  simp only [Prod.mk.injEq] at entry
  rw [subscription_of_id stored member entry.1, lapsed] at entry
  simp at entry

theorem sameOutcome_of_books (same : SameBooks first second) : SameOutcome first second := by
  refine ⟨same.attempts, same.invoices, ?_⟩
  rw [World.subscriptionStates, World.subscriptionStates, same.subscriptions]

theorem recovery_shows_iff (same : SameBooks first second) (named : isBlank tenantID = false) :
    SameOutcome first ((recoverSubscription tenantID).run second).2 ↔
      ¬ ∃ sub, second.currentSubscription tenantID = some sub ∧ sub.state = .pastDue := by
  rw [recoverSubscription_final named]
  cases found : second.currentSubscription tenantID with
  | none => exact iff_of_true (sameOutcome_of_books same) (by simp)
  | some sub =>
    dsimp only
    by_cases lapsed : sub.state = .pastDue
    · rw [if_pos lapsed]
      refine iff_of_false (fun alike => ?_) (by simpa using lapsed)
      have kept := (sameOutcome_of_books same).subscriptions
      exact recovered_states (currentSubscription_mem found).1 lapsed
        (alike.subscriptions.symm.trans kept)
    · rw [if_neg lapsed]
      exact iff_of_true (sameOutcome_of_books same) (by simpa using lapsed)

/-- A charge that the provider answers with success ends as the announcement of the same
payment does, unless the announcement recovers a subscription: the inline way never does. -/
theorem inline_settles_as_announced_iff {asked : PaymentAttempt} (same : SameBooks first second)
    (named : isBlank event.reference = false)
    (found : second.attemptFor providerName event.reference = some attempt)
    (pending : attempt.state = .pending) (one : asked.origin = attempt.origin)
    (about : inv.id = attempt.invoiceID) (settled : mapChargeState result.state = .succeeded)
    (amount : event.amountMinor ≤ 0 ∨ event.amountMinor = attempt.amountMinor) :
    SameOutcome ((chargeAnswered attempt.tenantID record inv asked result).final first)
        ((applyPaymentEvent providerName event .succeeded).final second) ↔
      ¬ AwaitsRecovery attempt second := by
  have books : event.books attempt = attempt.amountMinor := by
    unfold Event.books
    split <;> omega
  have sameID : asked.origin.id = attempt.origin.id := by rw [one]
  have sameAmount : asked.origin.amountMinor = attempt.origin.amountMinor := by rw [one]
  have start : SameBooks
      (execute (Stmt.provider (.setHealth .healthy record.name)) (completing asked result.reference
        result.failureCode result.failureMessage first)).2
      (completing attempt event.reference "" event.detail second) := by
    refine ⟨same.now, same.invoices, same.lines, same.subscriptions, ?_⟩
    refine (completing_states _ _ _ _ _).trans ?_
    rw [completing_states, same.attempts]
    exact congrArg (fun id => List.map (fun entry : String × PaymentState =>
      if entry.1 = id then (entry.1, .succeeded) else entry) _) sameID
  have paid : asked.amountMinor = attempt.amountMinor := sameAmount
  rw [chargeAnswered_final settled, applyPaymentEvent_final named found pending, books, about, paid]
  generalize execute (Stmt.provider (.setHealth .healthy record.name)) (completing asked
    result.reference result.failureCode result.failureMessage first) = inline at start ⊢
  have payable := recordPayment_ok_iff attempt.tenantID attempt.invoiceID attempt.amountMinor
    (completing attempt event.reference "" event.detail second)
  have quiet : (recordPayment attempt.tenantID attempt.invoiceID attempt.amountMinor).Avoids
      [.subscription] := recordPayment_within (by decide)
  have kept := run_without .subscription quiet
    (completing attempt event.reference "" event.detail second)
  have booked := (run_congr (recordPayment_asksBooks attempt.tenantID attempt.invoiceID
    attempt.amountMinor) execute_books start).2
  cases ran : (recordPayment attempt.tenantID attempt.invoiceID attempt.amountMinor).run
      (completing attempt event.reference "" event.detail second) with
  | mk answer later =>
    rw [ran] at payable kept booked
    cases answer with
    | error =>
      refine iff_of_true (sameOutcome_of_books booked) fun awaits => ?_
      obtain ⟨paid, returned⟩ := payable.mpr awaits.1
      simp at returned
    | ok paid =>
      have owed := payable.mp ⟨paid, rfl⟩
      have current : later.currentSubscription attempt.tenantID =
          second.currentSubscription attempt.tenantID := by
        rw [World.currentSubscription, kept]
        rfl
      rw [recovery_shows_iff booked owed.2.1, current]
      exact not_congr ⟨fun lapsed => ⟨owed, lapsed⟩, fun awaits => awaits.2⟩

def member (state : SubscriptionState) : Subscription :=
  { id := "sub", tenantID := "acme", accountID := "acct", planID := "paid", state := state
    cycle := .monthly, currency := "USD", priceMinor := 500, periodStart := 0, periodEnd := 100
    createdAt := 1, updatedAt := 1 }

def paymentNotice : Event :=
  { id := "evt", kind := .paymentSucceeded, reference := "pi", amountMinor := 500, currency := "USD"
    detail := "" }

theorem active_member_settles_alike : SameOutcome
      ((chargeAnswered "acme" (enabledProvider "stripe" 1) chargedInvoice pendingAttempt
        ⟨"pi", .succeeded, 500, "USD", "", ""⟩).final
        { noticeShop with subscriptions := ⟨[member .active], by simp⟩ })
      ((applyPaymentEvent "stripe" paymentNotice .succeeded).final
        { noticeShop with subscriptions := ⟨[member .active], by simp⟩ }) := by
  have stored : World.attemptFor { noticeShop with subscriptions := ⟨[member .active], by simp⟩ }
      "stripe" "pi" = some pendingAttempt := rfl
  refine (inline_settles_as_announced_iff ⟨rfl, rfl, rfl, rfl, rfl⟩ (by decide) stored rfl rfl rfl
    rfl (.inr rfl)).mpr ?_
  rintro ⟨_, sub, found, lapsed⟩
  have current : member .active = sub := Option.some.inj found
  rw [← current] at lapsed
  simp [member] at lapsed

def cardShop (status : String) : World where
  invoices := ⟨[openInvoice], openInvoice_unique⟩
  subscriptions := ⟨[member .pastDue], by simp⟩
  methods := ⟨[storedCard "pm" "stripe"], by simp⟩
  providers := ⟨[enabledProvider "stripe" 1], by simp⟩
  drivers := fun _ => some fun _ => .ok (answering status)
  now := 30
  names := Supply.outgrow

def chargedInline : World := (chargeInvoice "acme" "inv" "key").final (cardShop "succeeded")

def chargedByNotice : World :=
  (applyPaymentEvent "stripe" paymentNotice .succeeded).final
    ((chargeInvoice "acme" "inv" "key").final (cardShop "processing"))

theorem past_due_recovers_only_by_notice :
    chargedInline.attemptStates = chargedByNotice.attemptStates ∧
      chargedInline.invoices.rows = chargedByNotice.invoices.rows ∧
      chargedInline.paidOn "inv" = 500 ∧ chargedInline.subscriptionStates = [("sub", .pastDue)] ∧
      chargedByNotice.subscriptionStates = [("sub", .active)] := by
  decide +kernel

end Cashp
