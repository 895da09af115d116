import Cashp.Billing.Charges

/-!
The failover loop of a charge. The line-up of providers can be read off the store: automatic
failover calls them in turn until one settles the invoice, manual failover calls at most one.
-/

namespace Cashp

open Kit Kit.Program

variable {world : World} {tenantID invoiceID idempotencyKey : String} {inv : Invoice}
  {methods : List PaymentMethod} {amount : Int}
variable {index later : Nat} {drivers : String → Option Driver} {number : Int}
variable {last : ChargeOutcome} {records : List ProviderRecord} {keys : List String}

def freeTurn (drivers : String → Option Driver) (keys : List String) (record : ProviderRecord)
    (inv : Invoice) (method : PaymentMethod) (key : String) (amount : Int) : Option Turn :=
  if key ∈ keys then none else turnOf drivers record inv method key amount

def turns (drivers : String → Option Driver) (keys : List String) (inv : Invoice)
    (methods : List PaymentMethod) (idempotencyKey : String) (amount : Int) :
    List ProviderRecord → Nat → List Turn
  | [], _ => []
  | record :: rest, index =>
    let later := turns drivers keys inv methods idempotencyKey amount rest (index + 1)
    match usableMethod methods record.name with
    | none => later
    | some method =>
      (freeTurn drivers keys record inv method (chargeKey idempotencyKey index record.name)
        amount).toList ++ later

def asked : Nat → List Turn → List ProviderCall
  | _, [] => []
  | earlier, turn :: rest =>
    turn.call earlier ::
      if settles (turn.answer earlier) then [] else asked (earlier + 1) rest

theorem chargeKey_ne {name other : String} (positive : 0 < later) (apart : other ≠ name) :
    chargeKey idempotencyKey later other ≠ chargeKey idempotencyKey index name := by
  intro same
  have texts := congrArg String.toList same
  unfold chargeKey at texts
  rw [if_pos positive] at texts
  split at texts
  · simp_all [chargeKey]
  · have lengths := congrArg List.length texts
    simp at lengths

theorem turns_grown {name : String}
    (positive : 0 < later) (apart : name ∉ records.map ProviderRecord.name) :
    turns drivers (keys ++ [chargeKey idempotencyKey index name]) inv methods idempotencyKey amount
        records later = turns drivers keys inv methods idempotencyKey amount records later := by
  induction records generalizing later with
  | nil => rfl
  | cons record rest ih =>
    simp only [List.map_cons, List.mem_cons, not_or] at apart
    have same := ih (Nat.succ_pos later) apart.2
    have free : chargeKey idempotencyKey later record.name ∈
        keys ++ [chargeKey idempotencyKey index name] ↔
          chargeKey idempotencyKey later record.name ∈ keys := by
      have distinct : chargeKey idempotencyKey later record.name ≠
          chargeKey idempotencyKey index name := chargeKey_ne positive (Ne.symm apart.1)
      simp [distinct]
    simp only [turns, freeTurn, same, free]

theorem bookCharge_calls (outcome : ChargeOutcome) (world : World) :
    ((bookCharge tenantID inv amount outcome).run world).2.calls = world.calls :=
  run_without .call (bookCharge_within (by decide)) world

theorem chargeThrough_step (record : ProviderRecord) (inv : Invoice) (method : PaymentMethod)
    (key : String) (amount number : Int) (world : World) :
    ∃ outcome later, (chargeThrough record inv method key amount number).run world =
        (.ok outcome, later) ∧
      later.drivers = world.drivers ∧
      (later.keys = world.keys ∨ later.keys = world.keys ++ [key]) ∧
      later.calls = world.calls ++ ((freeTurn world.drivers world.keys record inv method key
        amount).map fun turn => turn.call world.calls.length).toList ∧
      outcome.settled = (freeTurn world.drivers world.keys record inv method key amount).any
        fun turn => settles (turn.answer world.calls.length) := by
  have steady := (run_steady (chargeThrough record inv method key amount number) world).drivers
  unfold freeTurn
  by_cases taken : key ∈ world.keys
  · obtain ⟨failure, later, ran, origins, calls⟩ := chargeThrough_taken taken
    rw [ran] at steady
    refine ⟨_, later, ran, steady, .inl ?_, ?_, ?_⟩
    · rw [keys_of_origins, origins, keys_of_origins]
    · simp [taken, calls]
    · simp [taken, ChargeOutcome.settled]
  · obtain ⟨attempt, outcome, later, ran, rfl, origins, calls, settled, _⟩ :=
      chargeThrough_free taken
    rw [ran] at steady
    rw [if_neg taken]
    refine ⟨outcome, later, ran, steady, .inr ?_, calls, settled⟩
    rw [keys_of_origins, origins, List.map_append, ← keys_of_origins]
    rfl

theorem chargeInOrder_calls (distinct : (records.map ProviderRecord.name).Nodup) :
    ((chargeInOrder tenantID idempotencyKey inv methods amount true records index number last).run
        world).2.calls = world.calls ++ asked world.calls.length
        (turns world.drivers world.keys inv methods idempotencyKey amount records index) := by
  induction records generalizing index number last world with
  | nil => simp [chargeInOrder, turns, asked]
  | cons record rest ih =>
    simp only [List.map_cons, List.nodup_cons] at distinct
    rw [chargeInOrder, turns]
    cases usable : usableMethod methods record.name with
    | none => exact ih distinct.2
    | some method =>
      obtain ⟨outcome, later, ran, drivers, keys, calls, settled⟩ := chargeThrough_step record
        inv method (chargeKey idempotencyKey index record.name) amount number world
      have onward : turns later.drivers later.keys inv methods idempotencyKey amount rest
          (index + 1) = turns world.drivers world.keys inv methods idempotencyKey amount rest
            (index + 1) := by
        rcases keys with same | grown
        · rw [drivers, same]
        · rw [drivers, grown]
          exact turns_grown (Nat.succ_pos index) distinct.1
      simp only [Bool.true_eq_false, if_false]
      rw [run_bind_ok ran]
      cases turn : freeTurn world.drivers world.keys record inv method
          (chargeKey idempotencyKey index record.name) amount with
      | none =>
        simp_all
      | some called =>
        rw [turn] at calls settled
        simp only [Option.map_some, Option.toList_some, Option.any_some] at calls settled
        rw [settled, ← onward]
        simp only [Option.toList_some, List.singleton_append, asked]
        cases settles (called.answer world.calls.length) with
        | true =>
          simp only [if_true]
          rw [bookCharge_calls, calls]
        | false =>
          simp only [Bool.false_eq_true, if_false]
          rw [ih distinct.2, calls]
          simp

theorem chargeInOrder_manual :
    ∃ made, ((chargeInOrder tenantID idempotencyKey inv methods amount false records index number
        last).run world).2.calls = world.calls ++ made ∧ made.length ≤ 1 := by
  induction records generalizing index with
  | nil => exact ⟨[], by simp [chargeInOrder], by simp⟩
  | cons record rest ih =>
    rw [chargeInOrder]
    cases usable : usableMethod methods record.name with
    | none => exact ih
    | some method =>
      obtain ⟨outcome, later, ran, _, _, calls, _⟩ := chargeThrough_step record inv method
        (chargeKey idempotencyKey index record.name) amount number world
      simp only [if_true]
      rw [run_bind_ok ran]
      have kept : (Program.run (if outcome.settled = true then
          bookCharge tenantID inv amount outcome else pure outcome) later).2.calls =
            later.calls := by
        split
        · exact bookCharge_calls outcome later
        · rfl
      simp_all

def holds : Except String ChargeResult → Bool
  | .ok result => mapChargeState result.state != .failed
  | .error _ => false

def ProviderCall.isCharge : ProviderCall → Bool
  | .charge .. => true
  | _ => false

def ProviderCall.held : ProviderCall → Bool
  | .charge _ _ answer => holds answer
  | _ => false

def NoChargeAfterHold : List ProviderCall → Prop
  | [] => True
  | call :: rest =>
    (call.held = true → ∀ later ∈ rest, later.isCharge = false) ∧ NoChargeAfterHold rest

/-- Every provider of the line-up settles the invoice or turns the charge down, unless it is the
last. -/
def SettlesOrLast : Nat → List Turn → Prop
  | _, [] => True
  | earlier, turn :: rest =>
    settles (turn.answer earlier) = true ∨
      ((holds (turn.answer earlier) = true → rest = []) ∧ SettlesOrLast (earlier + 1) rest)

theorem noChargeAfterHold_asked (earlier : Nat) (line : List Turn) :
    NoChargeAfterHold (asked earlier line) ↔ SettlesOrLast earlier line := by
  induction line generalizing earlier with
  | nil => exact Iff.rfl
  | cons turn rest ih =>
    simp only [asked, NoChargeAfterHold, SettlesOrLast]
    cases settled : settles (turn.answer earlier) with
    | true => simp [NoChargeAfterHold]
    | false =>
      simp only [Bool.false_eq_true, if_false, false_or]
      refine and_congr (imp_congr Iff.rfl ?_) (ih (earlier + 1))
      cases rest with
      | nil => simp [asked]
      | cons => simp [asked, Turn.call, ProviderCall.isCharge]

def World.failoverOrder (world : World) : List ProviderRecord :=
  ((world.providers.selectOrdered (fun _ => true) ProviderRecord.listedBefore).filter
    ProviderRecord.enabled).insertionSort ProviderRecord.triedBefore

def World.methodsOf (world : World) (tenantID : String) : List PaymentMethod :=
  world.methods.selectOrdered
    (fun method => method.tenantID == tenantID && method.state != .removed)
    PaymentMethod.listedBefore

def World.failoverMode (world : World) : String :=
  match ((setting "failover_mode" "automatic").run world).1 with
  | .ok mode => mode
  | .error _ => "automatic"

theorem failoverOrder_distinct (world : World) :
    (world.failoverOrder.map ProviderRecord.name).Nodup := by
  have stored := world.providers.unique ProviderRecord.name (List.mem_singleton_self _)
  unfold World.failoverOrder Table.selectOrdered Table.select
  have sorted := ((List.perm_insertionSort ProviderRecord.listedBefore
    (world.providers.rows.filter fun _ => true)).filter ProviderRecord.enabled)
  have order := (List.perm_insertionSort ProviderRecord.triedBefore _).trans sorted
  grind

theorem chargeFresh_run (tenantID invoiceID idempotencyKey : String) (world : World) :
    (∃ failure, (chargeFresh tenantID invoiceID idempotencyKey).run world =
        (.error failure, world) ∧ ∀ inv, ((invoice tenantID invoiceID).run world).1 = .ok inv →
        inv.balanceDueMinor ≤ 0 ∨ inv.state = .draft ∨ world.methodsOf tenantID = [] ∨
          world.failoverOrder = []) ∨
    ∃ inv number, (invoice tenantID invoiceID).run world = (.ok inv, world) ∧
      0 < inv.balanceDueMinor ∧ inv.state ≠ .draft ∧
      (chargeFresh tenantID invoiceID idempotencyKey).run world =
        (chargeInOrder tenantID idempotencyKey inv (world.methodsOf tenantID) inv.balanceDueMinor
          (world.failoverMode != "manual") world.failoverOrder 0 number {}).run world := by
  unfold chargeFresh
  have unchanged : ((invoice tenantID invoiceID).run world).2 = world :=
    run_unchanged invoice_within world
  cases read : (invoice tenantID invoiceID).run world with
  | mk answer later =>
    rw [read] at unchanged
    subst unchanged
    cases answer with
    | error failure => exact .inl ⟨failure, run_bind_error read, by simp⟩
    | ok inv =>
      have only {wanted : Invoice → Prop} (here : wanted inv) (other : Invoice)
          (same : (Except.ok inv : Except BillingError Invoice) = .ok other) : wanted other :=
        Except.ok.inj same ▸ here
      rw [run_bind_ok read]
      by_cases paid : inv.balanceDueMinor ≤ 0
      · exact .inl ⟨_, run_refused paid, only (.inl paid)⟩
      rw [run_unrefused paid]
      by_cases draft : inv.state = .draft
      · exact .inl ⟨_, run_refused draft, only (.inr (.inl draft))⟩
      rw [run_unrefused draft]
      have listed : (listPaymentMethods tenantID).run later =
          (.ok (later.methodsOf tenantID), later) := rfl
      rw [run_bind_ok listed]
      by_cases bare : later.methodsOf tenantID = []
      · exact .inl ⟨_, run_refused bare,
          only (.inr (.inr (.inl bare)))⟩
      rw [run_unrefused bare]
      have ordered : enabledProviders.run later = (.ok later.failoverOrder, later) := rfl
      rw [run_bind_ok ordered]
      by_cases closed : later.failoverOrder.isEmpty = true
      · exact .inl ⟨_, run_refused closed,
          only (.inr (.inr (.inr (List.isEmpty_iff.mp closed))))⟩
      rw [run_unrefused closed]
      obtain ⟨mode, set⟩ := setting_run "failover_mode" "automatic" later
      have current : later.failoverMode = mode := by
        rw [World.failoverMode, set]
      have numbered : ∃ number, (nextAttemptNumber inv.id).run later = (.ok number, later) :=
        ⟨_, rfl⟩
      obtain ⟨number, counted⟩ := numbered
      refine .inr ⟨inv, number, rfl, by omega, draft, ?_⟩
      rw [run_bind_ok counted, run_bind_ok set, current]

def World.lineup (world : World) (tenantID invoiceID idempotencyKey : String) : List Turn :=
  if isBlank idempotencyKey = true ∨ idempotencyKey ∈ world.keys then []
  else
    match ((invoice tenantID invoiceID).run world).1 with
    | .error _ => []
    | .ok inv =>
      if inv.balanceDueMinor ≤ 0 ∨ inv.state = .draft then []
      else turns world.drivers world.keys inv (world.methodsOf tenantID) idempotencyKey
        inv.balanceDueMinor world.failoverOrder 0

theorem turns_unequipped : turns drivers keys inv [] idempotencyKey amount records index = [] := by
  induction records generalizing index with
  | nil => rfl
  | cons record rest ih => exact ih

theorem chargeFresh_calls (tenantID invoiceID : String) (usual : isBlank idempotencyKey = false)
    (free : idempotencyKey ∉ world.keys) (automatic : world.failoverMode ≠ "manual") :
    ((chargeFresh tenantID invoiceID idempotencyKey).run world).2.calls =
      world.calls ++ asked world.calls.length (world.lineup tenantID invoiceID idempotencyKey) := by
  unfold World.lineup
  rw [if_neg (by simp [usual, free])]
  rcases chargeFresh_run tenantID invoiceID idempotencyKey world with
    ⟨failure, ran, stopped⟩ | ⟨inv, number, read, owed, sent, ran⟩
  · rw [ran]
    cases read : ((invoice tenantID invoiceID).run world).1 with
    | error => simp [asked]
    | ok inv =>
      rcases stopped inv read with paid | draft | bare | closed
      · simp [paid, asked]
      · simp [draft, asked]
      · simp [bare, turns_unequipped, asked]
      · simp [closed, turns, asked]
  · rw [ran, read]
    have payable : ¬ (inv.balanceDueMinor ≤ 0 ∨ inv.state = .draft) := by
      rintro (paid | draft)
      · omega
      · exact sent draft
    simp only [if_neg payable, bne_iff_ne.mpr automatic]
    exact chargeInOrder_calls (failoverOrder_distinct world)

theorem attemptByKey_run (key : String) (world : World) :
    (attemptByKey key).run world =
      (match world.attempts.find (fun attempt => attempt.idempotencyKey == key) with
        | some attempt => .ok attempt
        | none => .error (errNotFound "payment attempt"), world) := by
  rw [attemptByKey, run_step]
  change (require (world.attempts.find _) _).run world = _
  cases world.attempts.find (fun attempt => attempt.idempotencyKey == key) <;> rfl

theorem chargeInvoice_replay (tenantID invoiceID : String) {prior : PaymentAttempt}
    (usual : isBlank idempotencyKey = false) (member : prior ∈ world.attempts.rows)
    (recorded : prior.idempotencyKey = idempotencyKey) :
    (chargeInvoice tenantID invoiceID idempotencyKey).run world =
      (if prior.tenantID = tenantID then .ok { attempt := some prior }
        else .error (errForbidden "That idempotency key belongs to another account."), world) := by
  have found : world.attempts.find (fun attempt => attempt.idempotencyKey == idempotencyKey) =
      some prior :=
    Table.find_unique (List.mem_cons_of_mem _ List.mem_cons_self) member (by simp [recorded])
      fun other hit => by simpa [recorded] using hit
  have looked : (attemptByKey idempotencyKey).attempt.run world = (.ok (.ok prior), world) := by
    rw [run_attempt, attemptByKey_run, found]
  unfold chargeInvoice
  rw [run_unrefused (by simp [usual]), run_bind_ok looked]
  by_cases own : prior.tenantID = tenantID
  · rw [if_pos own]
    exact run_unrefused (not_not.mpr own)
  · rw [if_neg own]
    exact run_refused own

theorem chargeInvoice_fresh (tenantID invoiceID : String)
    (usual : isBlank idempotencyKey = false) (free : idempotencyKey ∉ world.keys) :
    (chargeInvoice tenantID invoiceID idempotencyKey).run world =
      (chargeFresh tenantID invoiceID idempotencyKey).run world := by
  have missing : world.attempts.find (fun attempt => attempt.idempotencyKey == idempotencyKey) =
      none := by
    simp_all [Table.find, World.keys]
  have looked : (attemptByKey idempotencyKey).attempt.run world =
      (.ok (.error (errNotFound "payment attempt")), world) := by
    rw [run_attempt, attemptByKey_run, missing]
  unfold chargeInvoice
  rw [run_unrefused (by simp [usual]), run_bind_ok looked]
  rfl

theorem chargeInvoice_silent (tenantID invoiceID : String)
    (known : isBlank idempotencyKey = true ∨ idempotencyKey ∈ world.keys) :
    ((chargeInvoice tenantID invoiceID idempotencyKey).run world).2 = world := by
  cases usual : isBlank idempotencyKey with
  | true =>
    rw [chargeInvoice, run_refused usual]
  | false =>
    rcases known with blank | taken
    · simp [usual] at blank
    · obtain ⟨prior, member, recorded⟩ := List.mem_map.mp taken
      rw [chargeInvoice_replay tenantID invoiceID usual member recorded]

theorem chargeInvoice_calls (tenantID invoiceID idempotencyKey : String)
    (automatic : world.failoverMode ≠ "manual") :
    ((chargeInvoice tenantID invoiceID idempotencyKey).final world).calls =
      world.calls ++ asked world.calls.length (world.lineup tenantID invoiceID idempotencyKey) := by
  by_cases known : isBlank idempotencyKey = true ∨ idempotencyKey ∈ world.keys
  · rw [final, chargeInvoice_silent tenantID invoiceID known, World.lineup, if_pos known]
    simp [asked]
  rw [not_or, Bool.not_eq_true] at known
  rw [final, chargeInvoice_fresh tenantID invoiceID known.1 known.2]
  exact chargeFresh_calls tenantID invoiceID known.1 known.2 automatic

theorem chargeInvoice_manual (tenantID invoiceID idempotencyKey : String)
    (manual : world.failoverMode = "manual") :
    ∃ made, ((chargeInvoice tenantID invoiceID idempotencyKey).final world).calls =
      world.calls ++ made ∧ made.length ≤ 1 := by
  by_cases known : isBlank idempotencyKey = true ∨ idempotencyKey ∈ world.keys
  · rw [final, chargeInvoice_silent tenantID invoiceID known]
    exact ⟨[], by simp, by simp⟩
  rw [not_or, Bool.not_eq_true] at known
  rw [final, chargeInvoice_fresh tenantID invoiceID known.1 known.2]
  rcases chargeFresh_run tenantID invoiceID idempotencyKey world with
    ⟨failure, ran, _⟩ | ⟨inv, number, _, _, _, ran⟩
  · rw [ran]
    exact ⟨[], by simp, by simp⟩
  · rw [ran, manual]
    exact chargeInOrder_manual

theorem noChargeAfterHold_single {calls : List ProviderCall} (single : calls.length ≤ 1) :
    NoChargeAfterHold calls := by
  cases calls with
  | nil => trivial
  | cons call rest =>
    have last : rest = [] := List.eq_nil_of_length_eq_zero (by simpa using single)
    subst last
    exact ⟨by simp, trivial⟩

/-- A charge stops at the first provider that holds it exactly when failover is manual, or every
provider before the last of the line-up settles the invoice or turns the charge down. -/
theorem charge_stops_on_hold_iff (tenantID invoiceID idempotencyKey : String) (world : World) :
    NoChargeAfterHold (((chargeInvoice tenantID invoiceID idempotencyKey).final world).calls.drop
        world.calls.length) ↔ world.failoverMode = "manual" ∨
        SettlesOrLast world.calls.length (world.lineup tenantID invoiceID idempotencyKey) := by
  by_cases manual : world.failoverMode = "manual"
  · obtain ⟨made, calls, single⟩ := chargeInvoice_manual tenantID invoiceID idempotencyKey manual
    rw [calls, List.drop_left]
    exact iff_of_true (noChargeAfterHold_single single) (.inl manual)
  rw [chargeInvoice_calls tenantID invoiceID idempotencyKey manual, List.drop_left,
    noChargeAfterHold_asked]
  simp [manual]

def answering (status : String) : Provider where
  currencies := []
  charge := fun _ request => .ok (PaymentIntent.result
    { id := "pi", status := status, amount := request.amountMinor, currency := request.currency
      lastPaymentError := none })
  refund := fun _ _ => .error "declined"
  getPayment := fun _ _ => .error "unknown"
  verifyWebhook := fun _ _ => .error "unsigned"

def openInvoice : Invoice :=
  { id := "inv", tenantID := "acme", accountID := "acct", subscriptionID := "sub", number := "INV-1"
    state := .issued, currency := "USD", subtotalMinor := 500, totalMinor := 500, periodStart := 0
    periodEnd := 100, issuedAt := 10, dueAt := 50, createdAt := 10, updatedAt := 10 }

theorem openInvoice_unique : ∀ column ∈ [Invoice.id], ([openInvoice].map column).Nodup := by simp

def storedCard (id provider : String) : PaymentMethod :=
  { id := id, tenantID := "acme", provider := provider, providerToken := "tok"
    providerCustomer := "cus", isDefault := true, state := .active, createdAt := 5 }

def enabledProvider (name : String) (priority : Int) : ProviderRecord :=
  { name := name, enabled := true, testMode := false, priority := priority
    credentials := .ok [("secret_key", "sk")], credentialsTest := .ok [], healthState := .healthy }

def twoProviderShop (first : String) : World where
  invoices := ⟨[openInvoice], by simp⟩
  methods := ⟨[storedCard "pm1" "stripe", storedCard "pm2" "paypal"], by decide⟩
  providers := ⟨[enabledProvider "stripe" 1, enabledProvider "paypal" 2], by decide⟩
  drivers := fun name =>
    some fun _ => .ok (answering (if name = "stripe" then first else "succeeded"))
  now := 30
  names := Supply.outgrow

/-- An answer that waits for the payer's own action does not stop the
second provider from being charged. -/
theorem pending_charge_charges_again :
    ((chargeInvoice "acme" "inv" "key").final (twoProviderShop "requires_action")).calls =
        [.charge "stripe" (chargeRequest openInvoice (storedCard "pm1" "stripe") "key" 500)
            (.ok ⟨"pi", .pending, 500, "USD", "", ""⟩),
          .charge "paypal" (chargeRequest openInvoice (storedCard "pm2" "paypal") "key:paypal" 500)
            (.ok ⟨"pi", .succeeded, 500, "USD", "", ""⟩)] ∧
      ¬ NoChargeAfterHold (((chargeInvoice "acme" "inv" "key").final
        (twoProviderShop "requires_action")).calls.drop
          (twoProviderShop "requires_action").calls.length) := by
  have made : ((chargeInvoice "acme" "inv" "key").final (twoProviderShop "requires_action")).calls =
      [.charge "stripe" (chargeRequest openInvoice (storedCard "pm1" "stripe") "key" 500)
          (.ok ⟨"pi", .pending, 500, "USD", "", ""⟩),
        .charge "paypal" (chargeRequest openInvoice (storedCard "pm2" "paypal") "key:paypal" 500)
          (.ok ⟨"pi", .succeeded, 500, "USD", "", ""⟩)] := rfl
  refine ⟨made, ?_⟩
  rw [made]
  rintro ⟨stops, _⟩
  have uncharged := stops rfl _ List.mem_cons_self
  simp [ProviderCall.isCharge] at uncharged

end Cashp
