import Cashp.Billing.CalendarCore
import Cashp.Billing.StoreCore

/-!
What the billing operations share (`service.go`, `accounts.go`, `plans.go`, `quota.go`, `tax.go`,
`metering.go`, `providers.go`). A program is the code's own sequence of statements; audit trail,
notifications and event log are never read back and are left out.
-/

namespace Cashp

open Kit Kit.Program

def setting (key fallback : String) : Service String := do
  match ← perform (.catalogue (.setting key)) with
  | some value => pure (if value = "" then fallback else value)
  | none => pure fallback

def settingInt (key : String) (fallback : Int) : Service Int := do
  let raw ← setting key ""
  pure (if raw = "" then fallback else (parseInt64 (trimSpace raw)).getD fallback)

def settingBool (key : String) (fallback : Bool) : Service Bool := do
  let raw := lowerText (trimSpace (← setting key ""))
  pure (if ["1", "true", "yes", "on"].contains raw then true
    else if ["0", "false", "no", "off"].contains raw then false
    else fallback)

def enabled : Service Bool := settingBool "billing_enabled" false

def baseCurrency : Service String := do
  match normalizeCurrency (← setting "base_currency" defaultCurrency) with
  | .ok code => pure code
  | .error _ => pure defaultCurrency

def unix : Service Int := perform .unix

def newID : Service String := perform .newID

def require (found : Option Row) (missing : BillingError) : Service Row :=
  match found with
  | some row => .done row
  | none => .fail missing

def requireRows (affected : Nat) (lost : BillingError) : Service Unit :=
  refuse (affected = 0) lost

def requireTenant (tenantID : String) : Service Unit :=
  refuse (isBlank tenantID = true) (errValidation "billing: a tenant is required")

def account (tenantID : String) : Service Account := do
  requireTenant tenantID
  require (← perform (.account (.byTenant tenantID))) (errNotFound "billing account")

def createAccount (tenantID : String) : Service Account := do
  let now ← unix
  let id ← newID
  let currency ← baseCurrency
  let fresh : Account :=
    { id := id, tenantID := tenantID, currency := currency, createdAt := now, updatedAt := now }
  if ← perform (.account (.insert fresh)) then
    pure fresh
  else if ← perform .isAlreadyExists then
    account tenantID
  else
    .fail (errInternal "Could not create the billing account.")

def ensureAccount (tenantID : String) : Service Account := do
  match ← (account tenantID).attempt with
  | .ok found => pure found
  | .error failure => if isNotFound failure then createAccount tenantID else .fail failure

def creditAccountBalance (tenantID : String) (amountMinor : Int) : Service Unit := do
  if amountMinor ≤ 0 then
    pure ()
  else
    let now ← unix
    let _ ← perform (.account (.addBalance amountMinor now tenantID))
    pure ()

def planQuotas (planID : String) : Service (List PlanQuota) :=
  perform (.catalogue (.quotasOf planID))

def plan (planID : String) : Service Plan := do
  let found ← require (← perform (.catalogue (.plan planID))) (errNotFound "plan")
  let quotas ← planQuotas found.id
  pure { found with quotas := quotas }

def subscription (tenantID subID : String) : Service Subscription := do
  requireTenant tenantID
  require (← perform (.subscription (.byID subID tenantID))) (errNotFound "subscription")

def activeSubscription (tenantID : String) : Service Subscription := do
  requireTenant tenantID
  let rows ← perform (.subscription (.entitled tenantID))
  require (rows.find? Subscription.active) (errNotFound "subscription")

inductive QuotaSource
  | plan
  | override
  | unlimited

structure EffectiveQuota where
  limit : Int
  burst : Int := 0
  enforcement : Enforcement
  source : QuotaSource
  overagePol : OveragePolicy
  unitPrice : Int := 0

def unlimitedQuota : EffectiveQuota :=
  { limit := -1, enforcement := .soft, source := .unlimited, overagePol := .allowWithWarning }

def quotaOverride (tenantID resource : String) : Service (Option QuotaOverride) := do
  let now ← unix
  perform (.catalogue (.override tenantID resource now))

def planQuotaFor (sub : Subscription) (resource : String) : Service EffectiveQuota := do
  let quotas ← planQuotas sub.planID
  let target ← plan sub.planID
  match quotas.find? (fun quota => quota.resource == resource) with
  | some quota =>
    pure { limit := quota.limitValue, burst := quota.burstValue, enforcement := quota.enforcement
           source := .plan, overagePol := target.overagePolicy
           unitPrice := quota.overageUnitPriceMinor }
  | none => pure unlimitedQuota

def effectiveQuotaFor (tenantID resource : String) : Service EffectiveQuota := do
  match ← quotaOverride tenantID resource with
  | some grant =>
    pure { limit := grant.limitValue, enforcement := grant.enforcement, source := .override
           overagePol := .allowWithWarning }
  | none =>
    match ← (activeSubscription tenantID).attempt with
    | .ok sub => planQuotaFor sub resource
    | .error failure => if isNotFound failure then pure unlimitedQuota else .fail failure

def euCountries : List String := [
  "AT", "BE", "BG", "CY", "CZ", "DE", "DK", "EE", "ES", "FI", "FR", "GR", "HR", "HU", "IE",
  "IT", "LT", "LU", "LV", "MT", "NL", "PL", "PT", "RO", "SE", "SI", "SK"
]

def isEUCountry (code : String) : Bool := euCountries.contains (upperText (trimSpace code))

def jurisdictionOf (rate : TaxRate) : String :=
  if rate.region ≠ "" then rate.country ++ "-" ++ rate.region else rate.country

def countryTaxRate (country : String) : Service (Option TaxRate) :=
  perform (.catalogue (.taxRate country ""))

def lookupTaxRate (country region : String) : Service (Option TaxRate) := do
  let country := upperText (trimSpace country)
  let region := upperText (trimSpace region)
  if region = "" then
    countryTaxRate country
  else
    match ← perform (.catalogue (.taxRate country region)) with
    | some rate => pure (some rate)
    | none => countryTaxRate country

def reverseCharged (rate : TaxRate) (buyer : Account) (country sellerCountry : String) : Bool :=
  rate.reverseChargeB2B &&
    (buyer.isBusiness && buyer.taxID != "" && buyer.taxIDStatus != .invalid) &&
    isEUCountry country && isEUCountry sellerCountry && country != sellerCountry

def calculateTax (buyer : Account) (netMinor : Int) : Service TaxResult := do
  let taxed ← settingBool "tax_enabled" false
  let country := upperText (trimSpace buyer.country)
  if taxed = false ∨ netMinor ≤ 0 ∨ country = "" then
    pure {}
  else
    match ← lookupTaxRate country buyer.region with
    | none => pure { jurisdiction := country }
    | some rate =>
      let sellerCountry := upperText (trimSpace (← setting "seller_country" ""))
      if reverseCharged rate buyer country sellerCountry then
        pure { kind := rate.kind, jurisdiction := jurisdictionOf rate, reverseCharge := true }
      else
        pure { kind := rate.kind, jurisdiction := jurisdictionOf rate, rateBPS := rate.rateBPS
               amountMinor := percentBasisPoints netMinor rate.rateBPS }

def meter (code : String) : Service Meter := do
  require (← perform (.catalogue (.meter (lowerText (trimSpace code))))) (errNotFound "meter")

def pendingRollups (tenantID : String) (periodStart periodEnd : Int) : Service (List UsageRollup) :=
  perform (.rollup (.pendingOf tenantID periodStart periodEnd))

def markRollupsInvoiced : List String → Service Unit
  | [] => pure ()
  | id :: rest => do
    let _ ← perform (.rollup (.markInvoiced id))
    markRollupsInvoiced rest

def providerByName (name : String) : Service ProviderRecord := do
  require (← perform (.provider (.byName name))) (errNotFound "payment provider")

def ProviderRecord.credentialSet (record : ProviderRecord) :
    Except BillingError (List (String × String)) :=
  if record.testMode then record.credentialsTest else record.credentials

def credentialValue (credentials : List (String × String)) (name : String) : String :=
  match credentials.find? (fun entry => entry.1 == name) with
  | some entry => entry.2
  | none => ""

def buildInstance (driver : Option Driver) (record : ProviderRecord) :
    Except BillingError Provider :=
  match driver with
  | none => .error (errNotFound "payment provider")
  | some build =>
    match record.credentialSet with
    | .error failure => .error failure
    | .ok credentials =>
      if credentials.isEmpty then .error (errProviderDisabled record.name)
      else
        match build { credentials := credentials, testMode := record.testMode } with
        | .ok provider => .ok provider
        | .error reason => .error (errValidation reason)

def driverInstance (record : ProviderRecord) : Service Provider := do
  let driver ← perform (.call (.lookup record.name))
  ofExcept (buildInstance driver record)

def providerInstance (name : String) : Service Provider := do
  let record ← providerByName name
  refuse (record.enabled = false) (errProviderDisabled name)
  driverInstance record

def webhookSecret (name : String) : Service String := do
  let record ← providerByName name
  let credentials ← ofExcept record.credentialSet
  refuse (credentialValue credentials "webhook_secret" = "") (errProviderDisabled name)
  pure (credentialValue credentials "webhook_secret")

def healthRank : HealthState → Nat
  | .healthy => 0
  | .unknown => 1
  | .degraded => 2
  | .unhealthy => 3

def ProviderRecord.triedBefore (first second : ProviderRecord) : Prop :=
  healthRank first.healthState < healthRank second.healthState ∨
    (healthRank first.healthState = healthRank second.healthState ∧
      first.priority ≤ second.priority)

instance : DecidableRel ProviderRecord.triedBefore :=
  fun _ _ => inferInstanceAs (Decidable (_ ∨ (_ ∧ _)))

def enabledProviders : Service (List ProviderRecord) := do
  let records ← perform (.provider .all)
  pure ((records.filter ProviderRecord.enabled).insertionSort ProviderRecord.triedBefore)

def recordProviderHealth (record : ProviderRecord) (state : HealthState) : Service Unit := do
  let _ ← perform (.provider (.setHealth state record.name))
  pure ()

end Cashp
