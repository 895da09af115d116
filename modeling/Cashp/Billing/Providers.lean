import Cashp.Kit.Table
import Cashp.Kit.Text
import Mathlib.Data.List.Infix

/-!
The rows of the payment providers (`providers.go`). A driver whose row exists is met by a failed
insert; whether it is passed over depends on the text of the database.
-/

namespace Cashp

open Kit

structure ProviderDriver where
  name : String
  displayName : String
  category : String

structure ProviderRow where
  name : String
  displayName : String
  category : String
  enabled : Bool
  testMode : Bool
  state : String
  priority : Int
  credentialsEnc : String
  credentialsTestEnc : String
  healthState : String
  healthDetail : String
  healthCheckedAt : Int
  configuredAt : Int
  configuredBy : String
  createdAt : Int
  updatedAt : Int
  version : Int
deriving DecidableEq

abbrev ProviderRows := Table ProviderRow [ProviderRow.name]

def ProviderDriver.row (driver : ProviderDriver) (now : Int) : ProviderRow where
  name := driver.name
  displayName := driver.displayName
  category := driver.category
  enabled := false
  testMode := true
  state := "unconfigured"
  priority := 100
  credentialsEnc := ""
  credentialsTestEnc := ""
  healthState := "unknown"
  healthDetail := ""
  healthCheckedAt := 0
  configuredAt := 0
  configuredBy := ""
  createdAt := now
  updatedAt := now
  version := 1

def mentions (text : String) (needles : List String) : Bool :=
  needles.any fun needle => decide (needle.toList <:+: (lowerText text).toList)

def isAlreadyExistsError (text : String) : Bool :=
  mentions text ["duplicate column", "already exists", "duplicate column name",
    "duplicate key name", "already exists;", "already an object named",
    "column names in each table must be unique",
    "the operation failed because an index or statistics with name"]

def nameTaken : String := "UNIQUE constraint failed: billing_providers.name"

def syncProviders (now : Int) : List ProviderDriver → ProviderRows →
    Except String Unit × ProviderRows
  | [], rows => (.ok (), rows)
  | driver :: rest, rows =>
    match rows.insert (driver.row now) with
    | some grown => syncProviders now rest grown
    | none =>
      if isAlreadyExistsError nameTaken then syncProviders now rest rows
      else (.error "Could not register the payment providers.", rows)

variable {now : Int} {drivers : List ProviderDriver} {rows : ProviderRows}

theorem syncProviders_keeps : rows.rows <+: (syncProviders now drivers rows).2.rows := by
  induction drivers generalizing rows with
  | nil => exact List.prefix_rfl
  | cons driver rest ih =>
    rw [syncProviders]
    split
    · rename_i grown stored
      refine List.IsPrefix.trans ?_ ih
      rw [Table.insert_rows stored]
      exact List.prefix_append _ _
    · split
      · exact ih
      · exact List.prefix_rfl

/-- The call succeeds just if no driver has a row yet; nothing is changed of the rows that were
there. -/
theorem syncProviders_registers (distinct : (drivers.map ProviderDriver.name).Nodup) :
    ((syncProviders now drivers rows).1 = .ok () ↔
        ∀ driver ∈ drivers, ∀ row ∈ rows.rows, row.name ≠ driver.name) ∧
      ∀ row ∈ rows.rows, row ∈ (syncProviders now drivers rows).2.rows := by
  refine ⟨?_, fun row member => syncProviders_keeps.subset member⟩
  induction drivers generalizing rows with
  | nil => exact iff_of_true rfl (by simp)
  | cons driver rest ih =>
    rw [List.map_cons, List.nodup_cons] at distinct
    rw [List.forall_mem_cons, syncProviders]
    by_cases new : ∀ row ∈ rows.rows, row.name ≠ driver.name
    · have fresh : ∀ column ∈ [ProviderRow.name], ∀ row ∈ rows.rows,
          column row ≠ column (driver.row now) := List.forall_mem_singleton.mpr new
      obtain ⟨grown, stored, grew⟩ := Table.insert_fresh fresh
      rw [stored]
      refine (ih distinct.2).trans ⟨fun others => ⟨new, fun other listed row member =>
        others other listed row (grew ▸ List.mem_append_left _ member)⟩, ?_⟩
      rintro ⟨_, others⟩ other listed row member
      rcases List.mem_append.mp (grew ▸ member) with old | added
      · exact others other listed row old
      · rw [List.mem_singleton.mp added]
        exact fun same => distinct.1 (List.mem_map.mpr ⟨other, listed, same.symm⟩)
    · have taken : rows.insert (driver.row now) = none := by
        refine dif_neg fun free => new ?_
        exact Table.collides_eq_false.mp free _ List.mem_cons_self
      rw [taken, if_neg (by decide +kernel)]
      exact iff_of_false (by simp) fun both => new both.1

def stripeDriver : ProviderDriver := ⟨"stripe", "Stripe", "card"⟩

def paypalDriver : ProviderDriver := ⟨"paypal", "PayPal", "wallet"⟩

theorem new_driver_registers :
    let before := (syncProviders 10 [paypalDriver] .empty).2
    (syncProviders 20 [stripeDriver] before).1 = .ok () ∧
      ∀ row ∈ before.rows, row ∈ (syncProviders 20 [stripeDriver] before).2.rows :=
  (syncProviders_registers (by decide +kernel)).imp_left fun alone => alone.mpr (by decide +kernel)

theorem second_sync_fails :
    let before := (syncProviders 10 [paypalDriver, stripeDriver] .empty).2
    (syncProviders 20 [paypalDriver, stripeDriver] before).1 =
      .error "Could not register the payment providers." := by
  decide +kernel

end Cashp
