import Cashp.Billing.ServiceCore

/-!
Usage measurements and the totals of a period (`metering.go`). A measurement is read, added to in
the service and written back; the invoice generator reads the stored totals.
-/

namespace Cashp

open Kit Kit.Program

def calendarMonth (now : Int) : Int × Int :=
  let month := monthOfDay (now / 86400)
  (monthStart month * 86400, monthStart (month + 1) * 86400)

def currentPeriod (tenantID : String) : Service (Int × Int) := do
  match ← (activeSubscription tenantID).attempt with
  | .ok sub =>
    if 0 < sub.periodStart ∧ sub.periodStart < sub.periodEnd then
      pure (sub.periodStart, sub.periodEnd)
    else
      let now ← unix
      pure (calendarMonth now)
  | .error _ =>
    let now ← unix
    pure (calendarMonth now)

def usageRecord (tenantID meterCode : String) (start : Int) (dimensions : String) :
    Service UsageRecord := do
  require (← perform (.usage (.find tenantID meterCode start dimensions)))
    (errNotFound "usage record")

def newUsage (tenantID meterCode : String) (start stop value : Int) (dimensions : String)
    (now : Int) : Service Unit := do
  let id ← newID
  let stored ← perform (.usage (.insert
    { id := id, tenantID := tenantID, meterCode := meterCode, periodStart := start
      periodEnd := stop, value := value, dimensions := dimensions, recordedAt := now }))
  refuse (stored = false) (errInternal "Could not record the usage measurement.")

/-- Exact, as long as the total stays within 64 bits. -/
def measuredValue (measured : Meter) (existing : UsageRecord) (value : Int) : Int :=
  if measured.meterType = .gauge then value else existing.value + value

def recordUsage (tenantID meterCode : String) (value : Int) (dimensions : String) :
    Service Unit := do
  requireTenant tenantID
  let measured ← meter meterCode
  let (start, stop) ← currentPeriod tenantID
  let now ← unix
  match ← (usageRecord tenantID measured.code start dimensions).attempt with
  | .error failure =>
    if isNotFound failure then
      newUsage tenantID measured.code start stop value dimensions now
    else
      .fail failure
  | .ok existing =>
    let _ ← perform (.usage (.set (measuredValue measured existing value) stop now existing.id))
    pure ()

def unlimited : Int := -1

def splitTotal (total limit : Int) : Int × Int :=
  if limit ≠ unlimited ∧ limit < total then (limit, total - limit) else (total, 0)

def includedAndOverage (tenantID : String) (entry : UsageTotal) : Service (Int × Int) := do
  if entry.resource = "" then
    pure (entry.total, 0)
  else
    let quota ← effectiveQuotaFor tenantID entry.resource
    pure (splitTotal entry.total quota.limit)

def saveRollup (rollup : UsageRollup) : Service Unit := do
  let affected ← perform (.rollup (.replace rollup))
  if 0 < affected then
    pure ()
  else
    let stored ← perform (.rollup (.insert rollup))
    refuse (stored = false) (errInternal "Could not save the usage rollup.")

def rollUpEach (tenantID : String) (start stop now : Int) :
    List UsageTotal → Service (List UsageRollup)
  | [] => pure []
  | entry :: rest => do
    let (included, overage) ← includedAndOverage tenantID entry
    let id ← newID
    let rollup : UsageRollup :=
      { id := id, tenantID := tenantID, meterCode := entry.meter, periodStart := start
        periodEnd := stop, totalValue := entry.total, includedValue := included
        overageValue := overage, invoiced := false, rolledAt := now }
    saveRollup rollup
    let others ← rollUpEach tenantID start stop now rest
    pure (rollup :: others)

def rollUpUsage (tenantID : String) (start stop : Int) : Service (List UsageRollup) := do
  let totals ← perform (.usage (.totals tenantID start stop))
  let now ← unix
  rollUpEach tenantID start stop now totals

end Cashp
