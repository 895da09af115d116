import Cashp.Billing.WebhookCore

/-!
The payments of a window as the Stripe driver lists them (`stripe.go`), and the attempts on file for
it (`reconcile.go`).
-/

namespace Cashp

open Kit

def inWindow (since stop created : Int) : Bool := since ≤ created && created < stop

structure ListedIntent extends PaymentIntent where
  created : Int

structure Page where
  data : List ListedIntent
  hasMore : Bool

structure Payments where
  all : List ListedIntent
  distinct : (all.map fun intent => intent.id).Nodup
  named : ∀ intent ∈ all, intent.id ≠ ""
  /-- How many payments the page after a given one has room for. -/
  size : String → Nat
  sized : ∀ startingAfter, 0 < size startingAfter ∧ size startingAfter ≤ 100

namespace Payments

def matching (payments : Payments) (since stop : Int) : List ListedIntent :=
  payments.all.filter fun intent => since ≤ intent.created && intent.created ≤ stop

def page (payments : Payments) (since stop : Int) (startingAfter : String) : Page :=
  let rest :=
    if startingAfter = "" then payments.matching since stop
    else ((payments.matching since stop).dropWhile fun intent => intent.id ≠ startingAfter).tail
  ⟨rest.take (payments.size startingAfter), payments.size startingAfter < rest.length⟩

end Payments

def cursor (startingAfter : String) (data : List ListedIntent) : String :=
  data.foldl (fun _ intent => intent.id) startingAfter

namespace Payments

variable {payments : Payments} {since stop : Int} {front rest : List ListedIntent}

def answer (payments : Payments) (since stop : Int) (startingAfter : String) :
    Except String Page :=
  .ok (payments.page since stop startingAfter)

/-- How many of the payments that are left the next pages hold. -/
def reach (payments : Payments) : Nat → String → List ListedIntent → Nat
  | 0, _, _ => 0
  | pages + 1, startingAfter, rest =>
    let data := rest.take (payments.size startingAfter)
    data.length + payments.reach pages (cursor startingAfter data) (rest.drop data.length)

end Payments

def paidAt (id : String) (created : Int) : ListedIntent :=
  ⟨⟨id, "succeeded", 500, "eur", none⟩, created⟩

end Cashp
