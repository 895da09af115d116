import Cashp.Billing.Failover

/-!
Two charges under one key. Attempts carry the caller's key only for the provider that is first in
failover order.
-/

namespace Cashp

open Kit Kit.Program

variable {world : World} {tenantID invoiceID idempotencyKey : String} {inv : Invoice}
  {methods : List PaymentMethod} {amount number : Int} {allowed : Bool} {last : ChargeOutcome}
variable {Value : Type} {index : Nat} {recorded : PaymentAttempt} {later : World}
variable {records : List ProviderRecord}

def World.attemptIDs (world : World) : List String :=
  world.attempts.rows.map PaymentAttempt.id

theorem mem_origins {origin : PaymentAttempt} : origin ∈ world.origins ↔
    ∃ attempt ∈ world.attempts.rows, attempt.origin = origin := by
  simp [World.origins]

theorem origins_run (program : Service Value) {world : World} :
    world.origins ⊆ (program.run world).2.origins := by
  induction program generalizing world with
  | done | fail => exact List.Subset.refl _
  | step stmt rest ih =>
    refine List.Subset.trans ?_ (ih (execute stmt world).1)
    intro origin recorded
    obtain ⟨attempt, member, rfl⟩ := mem_origins.mp recorded
    exact mem_origins.mpr (attempt_persists stmt member)

theorem attemptIDs_run (program : Service Value) (world : World) :
    world.attemptIDs ⊆ (program.run world).2.attemptIDs := by
  have kept := List.map_subset PaymentAttempt.id (@origins_run _ program world)
  rwa [World.origins, World.origins, List.map_map, List.map_map] at kept

theorem chargeKey_plain_ne {name : String} (positive : 0 < index) :
    chargeKey idempotencyKey index name ≠ idempotencyKey := by
  intro same
  rw [chargeKey, if_pos positive] at same
  have lengths := congrArg String.length same
  simp only [String.length_append] at lengths
  have colon : (":" : String).length = 1 := rfl
  omega

theorem bookCharge_outcome (outcome : ChargeOutcome) (world : World) :
    ∃ booked, ((bookCharge tenantID inv amount outcome).run world).1 = .ok booked ∧
      booked.attempt = outcome.attempt := by
  unfold bookCharge
  rw [run_attempted]
  cases ((recordPayment tenantID inv.id amount).run world).1 with
  | ok | error => exact ⟨_, rfl, rfl⟩

theorem chargeInOrder_plain_free (positive : 0 < index) (free : idempotencyKey ∉ world.keys) :
    idempotencyKey ∉ ((chargeInOrder tenantID idempotencyKey inv methods amount allowed records
      index number last).run world).2.keys := by
  induction records generalizing index number last world with
  | nil => exact free
  | cons record rest ih =>
    rw [chargeInOrder]
    cases usable : usableMethod methods record.name with
    | none => exact ih (Nat.succ_pos index) free
    | some method =>
      obtain ⟨outcome, later, ran, _, keys, _⟩ := chargeThrough_step record inv method
        (chargeKey idempotencyKey index record.name) amount number world
      have still : idempotencyKey ∉ later.keys := by
        rcases keys with same | grown
        · rwa [same]
        · rw [grown]
          simp [free, (chargeKey_plain_ne positive).symm]
      simp only []
      rw [run_bind_ok ran]
      split
      · rw [World.keys, run_without .attempt (bookCharge_within (by decide))]
        exact still
      · split
        · exact still
        · exact ih (Nat.succ_pos index) still

theorem chargeInOrder_first {record : ProviderRecord} {rest : List ProviderRecord}
    {method : PaymentMethod} (usable : usableMethod methods record.name = some method)
    (free : idempotencyKey ∉ world.keys) :
    ∃ origin ∈ ((chargeInOrder tenantID idempotencyKey inv methods amount allowed (record :: rest)
        0 number last).run world).2.origins,
      origin.idempotencyKey = idempotencyKey ∧ origin.tenantID = inv.tenantID ∧
        origin.id ∉ world.attemptIDs := by
  obtain ⟨attempt, outcome, later, ran, rfl, origins, _⟩ :
      ∃ attempt outcome later, (chargeThrough record inv method
        (chargeKey idempotencyKey 0 record.name) amount number).run world = (.ok outcome, later) ∧
      attempt = newAttempt record inv method (world.names.next world.usedIDs)
        (chargeKey idempotencyKey 0 record.name) amount number world.now ∧
      later.origins = world.origins ++ [attempt.origin] ∧ _ := chargeThrough_free free
  rw [chargeInOrder, usable]
  simp only []
  rw [run_bind_ok ran]
  refine ⟨_, origins_run _ (origins ▸ List.mem_append_right _ (List.mem_singleton_self _)),
    rfl, rfl, ?_⟩
  intro known
  obtain ⟨other, member, same⟩ := List.mem_map.mp known
  exact (lacks_next world).attempt other member same

theorem chargeThrough_outcome (record : ProviderRecord) (inv : Invoice) (method : PaymentMethod)
    (key : String) (amount number : Int) (world : World) :
    ∃ outcome later, (chargeThrough record inv method key amount number).run world =
        (.ok outcome, later) ∧ world.attemptIDs ⊆ later.attemptIDs ∧
      ∀ tried, outcome.attempt = some tried → tried.id ∉ world.attemptIDs := by
  have grows := attemptIDs_run (chargeThrough record inv method key amount number) world
  by_cases taken : key ∈ world.keys
  · obtain ⟨failure, later, ran, _⟩ := chargeThrough_taken taken
    rw [ran] at grows
    exact ⟨_, later, ran, grows, by simp⟩
  · obtain ⟨attempt, outcome, later, ran, rfl, _, _, _, tried, recorded, same⟩ :=
      chargeThrough_free taken
    rw [ran] at grows
    refine ⟨outcome, later, ran, grows, fun other here known => ?_⟩
    rw [recorded, Option.some.injEq] at here
    subst here
    obtain ⟨row, member, equal⟩ := List.mem_map.mp known
    exact (lacks_next world).attempt row member (equal.trans same)

theorem chargeInOrder_outcome :
    ∃ outcome, ((chargeInOrder tenantID idempotencyKey inv methods amount allowed records index
        number last).run world).1 = .ok outcome ∧ ∀ tried, outcome.attempt = some tried →
        last.attempt = some tried ∨ tried.id ∉ world.attemptIDs := by
  induction records generalizing index number last world with
  | nil => exact ⟨last, rfl, fun tried here => .inl here⟩
  | cons record rest ih =>
    rw [chargeInOrder]
    cases usable : usableMethod methods record.name with
    | none => exact ih
    | some method =>
      obtain ⟨outcome, later, ran, grows, fresh⟩ := chargeThrough_outcome record inv method
        (chargeKey idempotencyKey index record.name) amount number world
      simp only []
      rw [run_bind_ok ran]
      split
      · obtain ⟨booked, answered, same⟩ := bookCharge_outcome outcome later
        exact ⟨booked, answered, fun tried here => .inr (fresh tried (same ▸ here))⟩
      split
      · exact ⟨outcome, rfl, fun tried here => .inr (fresh tried here)⟩
      obtain ⟨final, answered, origin⟩ := ih
      refine ⟨final, answered, fun tried here => .inr ?_⟩
      grind

def Records (before after : World) (attempt : PaymentAttempt) : Prop :=
  attempt ∈ after.attempts.rows ∧ attempt.id ∉ before.attemptIDs

def Remembers (after later : World) : Prop := after.origins ⊆ later.origins

def Replayed (tenantID invoiceID idempotencyKey : String) (world later : World) : Prop :=
  ((chargeInvoice tenantID invoiceID idempotencyKey).final later).calls = later.calls ∧
    ∃ attempt recorded,
      ((chargeInvoice tenantID invoiceID idempotencyKey).run later).1 =
        .ok { attempt := some attempt } ∧
      Records world ((chargeInvoice tenantID invoiceID idempotencyKey).final world) recorded ∧
      recorded.id = attempt.id

def World.firstChargeable (world : World) (tenantID : String) : Bool :=
  world.failoverOrder.head?.any fun record =>
    (usableMethod (world.methodsOf tenantID) record.name).isSome

theorem charge_reaches_loop
    (records : Records world ((chargeInvoice tenantID invoiceID idempotencyKey).final world)
      recorded) : isBlank idempotencyKey = false ∧ idempotencyKey ∉ world.keys ∧
      ∃ inv number, inv.tenantID = tenantID ∧
        (chargeInvoice tenantID invoiceID idempotencyKey).final world =
          ((chargeInOrder tenantID idempotencyKey inv (world.methodsOf tenantID)
            inv.balanceDueMinor (world.failoverMode != "manual") world.failoverOrder 0 number
              {}).run world).2 := by
  have moved : (chargeInvoice tenantID invoiceID idempotencyKey).final world ≠ world := by
    intro same
    rw [same] at records
    exact records.2 (List.mem_map_of_mem records.1)
  by_cases known : isBlank idempotencyKey = true ∨ idempotencyKey ∈ world.keys
  · exact absurd (chargeInvoice_silent tenantID invoiceID known) moved
  rw [not_or, Bool.not_eq_true] at known
  have fresh := chargeInvoice_fresh tenantID invoiceID known.1 known.2
  rcases chargeFresh_run tenantID invoiceID idempotencyKey world with
    ⟨failure, ran, _⟩ | ⟨inv, number, read, _, _, ran⟩
  · exact absurd (congrArg Prod.snd (fresh.trans ran)) moved
  obtain ⟨_, row, _, matching, same⟩ := invoice_ok read
  refine ⟨known.1, known.2, inv, number, ?_, congrArg Prod.snd (fresh.trans ran)⟩
  rw [same]
  exact (isRow_iff.mp matching).2

theorem charge_plain_free
    (records : Records world ((chargeInvoice tenantID invoiceID idempotencyKey).final world)
      recorded) (skipped : world.firstChargeable tenantID = false) :
    idempotencyKey ∉ ((chargeInvoice tenantID invoiceID idempotencyKey).final world).keys := by
  obtain ⟨_, free, inv, number, _, ended⟩ := charge_reaches_loop records
  rw [ended]
  cases order : world.failoverOrder with
  | nil => exact free
  | cons record =>
    have unusable : usableMethod (world.methodsOf tenantID) record.name = none := by
      simpa [World.firstChargeable, order] using skipped
    rw [chargeInOrder, unusable]
    exact chargeInOrder_plain_free Nat.one_pos free

theorem charge_plain_recorded
    (records : Records world ((chargeInvoice tenantID invoiceID idempotencyKey).final world)
      recorded) (tried : world.firstChargeable tenantID = true) :
    ∃ origin ∈ ((chargeInvoice tenantID invoiceID idempotencyKey).final world).origins,
      origin.idempotencyKey = idempotencyKey ∧ origin.tenantID = tenantID ∧
        origin.id ∉ world.attemptIDs := by
  obtain ⟨_, free, inv, number, owned, ended⟩ := charge_reaches_loop records
  rw [ended]
  cases order : world.failoverOrder with
  | nil => simp [World.firstChargeable, order] at tried
  | cons record =>
    obtain ⟨method, usable⟩ : ∃ method,
        usableMethod (world.methodsOf tenantID) record.name = some method := by
      simpa [World.firstChargeable, order, Option.isSome_iff_exists] using tried
    rw [← owned]
    exact chargeInOrder_first (owned ▸ usable) free

theorem same_of_origin {first second : PaymentAttempt} (origin : first.origin = second.origin) :
    first.id = second.id ∧ first.tenantID = second.tenantID ∧
      first.idempotencyKey = second.idempotencyKey := by
  simp_all [PaymentAttempt.origin]

theorem replayed_of_first
    (records : Records world ((chargeInvoice tenantID invoiceID idempotencyKey).final world)
      recorded)
    (remembers : Remembers ((chargeInvoice tenantID invoiceID idempotencyKey).final world) later)
    (tried : world.firstChargeable tenantID = true) :
    Replayed tenantID invoiceID idempotencyKey world later := by
  obtain ⟨usual, _⟩ := charge_reaches_loop records
  obtain ⟨origin, stored, key, owner, fresh⟩ := charge_plain_recorded records tried
  obtain ⟨first, member, rfl⟩ := mem_origins.mp stored
  obtain ⟨row, present, same⟩ := mem_origins.mp (remembers stored)
  obtain ⟨sameID, sameTenant, sameKey⟩ := same_of_origin same
  have answered := chargeInvoice_replay tenantID invoiceID usual present (sameKey.trans key)
  rw [if_pos (sameTenant.trans owner)] at answered
  refine ⟨?_, row, first, congrArg Prod.fst answered, ⟨member, fresh⟩, sameID.symm⟩
  rw [final, answered]

theorem first_of_replayed
    (records : Records world ((chargeInvoice tenantID invoiceID idempotencyKey).final world)
      recorded)
    (remembers : Remembers ((chargeInvoice tenantID invoiceID idempotencyKey).final world) later)
    (replayed : Replayed tenantID invoiceID idempotencyKey world later) :
    world.firstChargeable tenantID = true := by
  by_contra skipped
  obtain ⟨usual, _⟩ := charge_reaches_loop records
  have unrecorded := charge_plain_free records (by simpa using skipped)
  obtain ⟨_, attempt, first, answered, ⟨member, _⟩, sameID⟩ := replayed
  have stored := mem_origins.mpr ⟨first, member, rfl⟩
  obtain ⟨row, present, same⟩ := mem_origins.mp (remembers stored)
  by_cases taken : idempotencyKey ∈ later.keys
  · obtain ⟨prior, there, key⟩ := List.mem_map.mp taken
    rw [chargeInvoice_replay tenantID invoiceID usual there key] at answered
    have returned : attempt = prior := by
      split at answered
      · simpa using (Except.ok.inj answered).symm
      · simp at answered
    have known : row = prior := Table.eq_of_column List.mem_cons_self present there
      ((same_of_origin same).1.trans (sameID.trans (congrArg PaymentAttempt.id returned)))
    refine unrecorded (List.mem_map.mpr ⟨first, member, ?_⟩)
    rw [← key, ← known]
    exact (same_of_origin same).2.2.symm
  · rw [chargeInvoice_fresh tenantID invoiceID usual taken] at answered
    rcases chargeFresh_run tenantID invoiceID idempotencyKey later with
      ⟨failure, ran, _⟩ | ⟨inv, number, _, _, _, ran⟩
    · rw [ran] at answered
      simp at answered
    obtain ⟨outcome, ended, fresh⟩ : ∃ outcome, ((chargeInOrder tenantID idempotencyKey inv
        (later.methodsOf tenantID) inv.balanceDueMinor (later.failoverMode != "manual")
        later.failoverOrder 0 number {}).run later).1 = .ok outcome ∧ _ := chargeInOrder_outcome
    rw [ran, ended] at answered
    have here : outcome.attempt = some attempt := by
      rw [Except.ok.inj answered]
    rcases fresh attempt here with impossible | apart
    · simp at impossible
    · refine apart (List.mem_map.mpr ⟨row, present, ?_⟩)
      exact (same_of_origin same).1.trans sameID

/-- After a charge that recorded an attempt, a second one under the same key is a replay of it
exactly when the first could use the provider at the head of its failover order. -/
theorem charge_replayed_iff {later : World} (records : ∃ recorded,
      Records world ((chargeInvoice tenantID invoiceID idempotencyKey).final world) recorded)
    (remembers : Remembers ((chargeInvoice tenantID invoiceID idempotencyKey).final world) later) :
    Replayed tenantID invoiceID idempotencyKey world later ↔
      world.firstChargeable tenantID = true := by
  obtain ⟨recorded, stored⟩ := records
  exact ⟨first_of_replayed stored remembers, replayed_of_first stored remembers⟩

theorem first_provider_charge_replayed : Replayed "acme" "inv" "key" (twoProviderShop "succeeded")
      ((chargeInvoice "acme" "inv" "key").final (twoProviderShop "succeeded")) := by
  have records : ∃ recorded, Records (twoProviderShop "succeeded")
      ((chargeInvoice "acme" "inv" "key").final (twoProviderShop "succeeded")) recorded :=
    ⟨_, List.mem_cons_self, by decide⟩
  exact (charge_replayed_iff records (List.Subset.refl _)).mpr (by decide)

def secondProviderShop : World :=
  { twoProviderShop "requires_action" with
    methods := ⟨[storedCard "pm2" "paypal"], by decide⟩
    drivers := fun _ => some fun _ => .ok (answering "processing") }

def reorderedShop : World :=
  { (chargeInvoice "acme" "inv" "key").final secondProviderShop with
    providers := ⟨[enabledProvider "paypal" 2], by decide⟩ }

/-- The second charge under the same key charges the second provider once more. -/
theorem skipped_provider_charged_again : (∃ recorded, Records secondProviderShop
        ((chargeInvoice "acme" "inv" "key").final secondProviderShop) recorded) ∧
      Remembers ((chargeInvoice "acme" "inv" "key").final secondProviderShop) reorderedShop ∧
      ((chargeInvoice "acme" "inv" "key").final reorderedShop).calls = reorderedShop.calls ++
        [.charge "paypal" (chargeRequest openInvoice (storedCard "pm2" "paypal") "key" 500)
          (.ok ⟨"pi", .pending, 500, "USD", "", ""⟩)] ∧
      ¬ Replayed "acme" "inv" "key" secondProviderShop reorderedShop := by
  have again : ((chargeInvoice "acme" "inv" "key").final reorderedShop).calls =
      reorderedShop.calls ++
        [.charge "paypal" (chargeRequest openInvoice (storedCard "pm2" "paypal") "key" 500)
          (.ok ⟨"pi", .pending, 500, "USD", "", ""⟩)] := rfl
  refine ⟨⟨_, List.mem_cons_self, by decide⟩, List.Subset.refl _, again, ?_⟩
  rintro ⟨silent, _⟩
  rw [again] at silent
  simp at silent

end Cashp
