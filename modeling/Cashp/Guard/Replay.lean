import Cashp.Guard.DenyCore
import Cashp.Kit.Ages
import Cashp.Kit.Duration
import Cashp.Kit.Run
import Cashp.Kit.Text

/-!
Webhook deliveries (`webhook.go`): the check of the signature and its timestamp, and the guard that
lets every event through once. A signature is good for the tolerance on either side of its
timestamp, and a claim is remembered for twice that. Codes and decoders of the library are given.
-/

namespace Cashp.Guard

open Kit Duration

inductive SignatureAlgorithm
  | hmacSHA256
  | hmacSHA512
  | other (name : String)

inductive SignatureEncoding
  | hex
  | base64
  | unset
  | other (name : String)

def defaultWebhookTolerance : Int := 5 * minute

structure WebhookPolicy where
  algorithm : SignatureAlgorithm
  encoding : SignatureEncoding
  tolerance : Int

structure Crypto where
  hmacSHA256 : String → List UInt8 → List UInt8
  hmacSHA512 : String → List UInt8 → List UInt8
  decodeBase64 : String → Option (List UInt8)
  decodeHex : String → Option (List UInt8)

def signPayload (crypto : Crypto) (algorithm : SignatureAlgorithm) (secret : String)
    (payload : List UInt8) : Except DenyError (List UInt8) :=
  match algorithm with
  | .hmacSHA256 => .ok (crypto.hmacSHA256 secret payload)
  | .hmacSHA512 => .ok (crypto.hmacSHA512 secret payload)
  | .other name =>
    deny .signatureInvalid ("signature algorithm " ++ name ++ " is not supported")

def decoded (raw : Option (List UInt8)) (invalid : String) : Except DenyError (List UInt8) :=
  match raw with
  | none => deny .signatureInvalid invalid
  | some [] => deny .signatureInvalid "webhook signature decoded to nothing"
  | some bytes => .ok bytes

def decodeSignature (crypto : Crypto) (encoding : SignatureEncoding) (provided : String) :
    Except DenyError (List UInt8) :=
  match encoding with
  | .base64 => decoded (crypto.decodeBase64 provided) "webhook signature is not valid base64"
  | .hex | .unset =>
    decoded (crypto.decodeHex (lowerText provided)) "webhook signature is not valid hex"
  | .other name =>
    deny .signatureInvalid ("signature encoding " ++ name ++ " is not supported")

def WebhookPolicy.effectiveTolerance (policy : WebhookPolicy) : Int :=
  if policy.tolerance ≤ 0 then defaultWebhookTolerance else policy.tolerance

def verifyWebhook (crypto : Crypto) (policy : WebhookPolicy) (secret : String)
    (signedPayload : List UInt8) (providedSignature : String) (timestamp now : Int) : Verdict := do
  denyWhen (secret = "") .signatureInvalid "webhook secret is not configured"
  denyWhen (signedPayload = []) .signatureInvalid "webhook payload is empty"
  denyWhen (trimSpace providedSignature = "") .signatureInvalid "webhook carries no signature"
  denyWhen (timestamp = zeroTime) .replay "webhook carries no timestamp"
  denyWhen (policy.effectiveTolerance < magnitude (between timestamp now)) .replay
    "webhook timestamp is outside the tolerance window"
  let expected ← signPayload crypto policy.algorithm secret signedPayload
  let provided ← decodeSignature crypto policy.encoding (trimSpace providedSignature)
  denyWhen (expected ≠ provided) .signatureInvalid "webhook signature did not verify"

structure ReplayGuard where
  retention : Int
  seen : Ages String

def newReplayGuard (retention : Int) : ReplayGuard :=
  ⟨if retention ≤ 0 then 2 * defaultWebhookTolerance else retention, ∅⟩

namespace ReplayGuard

def eventKey (provider eventID : String) : String := provider ++ "\x00" ++ eventID

def claim (guard : ReplayGuard) (now : Int) (provider eventID : String) : Verdict × ReplayGuard :=
  if provider = "" ∨ eventID = "" then
    (deny .replay "webhook delivery has no provider or event identifier", guard)
  else
    let seen := guard.seen.sweep (now - guard.retention)
    if (seen.lookup (eventKey provider eventID)).isSome then
      (deny .replay ("webhook event " ++ eventID ++ " from " ++ provider ++
        " was already processed"), { guard with seen })
    else
      (.ok (), { guard with seen := seen.insert (eventKey provider eventID) now })

def cleanup (guard : ReplayGuard) (now : Int) : ReplayGuard :=
  { guard with seen := guard.seen.sweep (now - guard.retention) }

end ReplayGuard

open Ages

structure Delivery where
  provider : String
  eventID : String
  policy : WebhookPolicy
  secret : String
  signedPayload : List UInt8
  signature : String
  timestamp : Int
  verifiedAt : Int

def Delivery.verify (crypto : Crypto) (delivery : Delivery) : Verdict :=
  verifyWebhook crypto delivery.policy delivery.secret delivery.signedPayload delivery.signature
    delivery.timestamp delivery.verifiedAt

inductive ReplayCall
  | deliver (delivery : Delivery)
  | claim (provider eventID : String)
  | cleanup

structure ReplayRun where
  guard : ReplayGuard
  clock : Int
  accepted : List (String × String)

namespace ReplayRun

def opened (start : Int) : ReplayRun := ⟨newReplayGuard 0, start, []⟩

def take (crypto : Crypto) (call : Int × ReplayCall) (run : ReplayRun) : ReplayRun :=
  match call.2 with
  | .deliver delivery =>
    match delivery.verify crypto with
    | .error _ => { run with clock := call.1 }
    | .ok () =>
      let answer := run.guard.claim call.1 delivery.provider delivery.eventID
      ⟨answer.2, call.1,
        if answer.1.allowed then (delivery.provider, delivery.eventID) :: run.accepted
        else run.accepted⟩
  | .claim provider eventID =>
    { run with guard := (run.guard.claim call.1 provider eventID).2, clock := call.1 }
  | .cleanup => { run with guard := run.guard.cleanup call.1, clock := call.1 }

/-- The clock does not go back, neither from call to call nor from the check to the claim. -/
def InTime (call : Int × ReplayCall) (run : ReplayRun) : Prop :=
  run.clock ≤ call.1 ∧ ∀ delivery, call.2 = .deliver delivery → delivery.verifiedAt ≤ call.1

end ReplayRun

/-- The claim is made while the timestamp is still good, and the timestamp is within the reach of
a duration. -/
def Delivery.Prompt (delivery : Delivery) (claimedAt : Int) : Prop :=
  delivery.timestamp - delivery.verifiedAt ≤ longest ∧
    claimedAt ≤ delivery.timestamp + defaultWebhookTolerance

variable {delivery : Delivery}

theorem verified_near {crypto : Crypto} (verified : delivery.verify crypto = .ok ()) :
    magnitude (between delivery.timestamp delivery.verifiedAt) ≤
      delivery.policy.effectiveTolerance := by
  unfold Delivery.verify verifyWebhook at verified
  simp only [denyWhen_bind_ok] at verified
  exact Int.not_lt.mp verified.2.2.2.2.1

theorem verified_not_early {crypto : Crypto} (verified : delivery.verify crypto = .ok ())
    (tolerant : delivery.policy.tolerance ≤ defaultWebhookTolerance)
    (reach : delivery.timestamp - delivery.verifiedAt ≤ longest) :
    delivery.timestamp - defaultWebhookTolerance ≤ delivery.verifiedAt := by
  have near := verified_near verified
  have ahead := ahead_le_magnitude reach
  unfold WebhookPolicy.effectiveTolerance at near
  split at near
  · omega
  · omega

namespace ReplayRun

variable {crypto : Crypto} {stamp : String → String → Int} {guard : ReplayGuard}
variable {now clock : Int} {provider eventID : String} {event : String × String}

def Covered (stamp : String → String → Int) (guard : ReplayGuard) (now : Int)
    (event : String × String) : Prop :=
  (∃ time, guard.seen.lookup (ReplayGuard.eventKey event.1 event.2) = some time ∧
    stamp event.1 event.2 - defaultWebhookTolerance ≤ time) ∨
  stamp event.1 event.2 + defaultWebhookTolerance < now

structure Sound (stamp : String → String → Int) (run : ReplayRun) : Prop where
  retention : run.guard.retention = 2 * defaultWebhookTolerance
  covered : ∀ event ∈ run.accepted, Covered stamp run.guard run.clock event
  once : run.accepted.Nodup

theorem Covered.sweep (covered : Covered stamp guard clock event) (later : clock ≤ now)
    (retention : guard.retention = 2 * defaultWebhookTolerance) :
    Covered stamp { guard with seen := guard.seen.sweep (now - guard.retention) } now event := by
  rcases covered with ⟨time, found, young⟩ | finished
  · by_cases kept : now - guard.retention ≤ time
    · exact .inl ⟨time, lookup_sweep.mpr ⟨found, kept⟩, young⟩
    · exact .inr (by omega)
  · exact .inr (by omega)

theorem claim_cases (guard : ReplayGuard) (now : Int) (provider eventID : String) :
    ((guard.claim now provider eventID).1.allowed = false ∧
      ((guard.claim now provider eventID).2 = guard ∨
        (guard.claim now provider eventID).2 = guard.cleanup now)) ∨
    ((guard.claim now provider eventID).1.allowed = true ∧
      (guard.cleanup now).seen.lookup (ReplayGuard.eventKey provider eventID) = none ∧
      (guard.claim now provider eventID).2 = { guard with
        seen := (guard.cleanup now).seen.insert (ReplayGuard.eventKey provider eventID) now }) := by
  unfold ReplayGuard.claim
  split
  · exact .inl ⟨rfl, .inl rfl⟩
  dsimp only
  split
  · exact .inl ⟨rfl, .inr rfl⟩
  · rename_i absent
    exact .inr ⟨rfl, Option.not_isSome_iff_eq_none.mp absent, rfl⟩

theorem claim_retention : (guard.claim now provider eventID).2.retention = guard.retention := by
  rcases claim_cases guard now provider eventID with ⟨-, same | swept⟩ | ⟨-, -, added⟩
  · rw [same]
  · rw [swept]
    rfl
  · rw [added]

theorem Covered.claim (covered : Covered stamp guard clock event) (later : clock ≤ now)
    (retention : guard.retention = 2 * defaultWebhookTolerance) :
    Covered stamp (guard.claim now provider eventID).2 now event := by
  have swept : Covered stamp (guard.cleanup now) now event := covered.sweep later retention
  rcases claim_cases guard now provider eventID with ⟨-, same | cleaned⟩ | ⟨-, absent, added⟩
  · rw [same]
    exact covered.imp_right fun finished => by omega
  · rw [cleaned]
    exact swept
  rw [added]
  rcases swept with ⟨time, found, young⟩ | finished
  · refine .inl ⟨time, ?_, young⟩
    rw [lookup_insert, if_neg, found]
    rintro same
    rw [same, absent] at found
    cases found
  · exact .inr finished

theorem Covered.denied (covered : Covered stamp guard clock event) (later : clock ≤ now)
    (retention : guard.retention = 2 * defaultWebhookTolerance)
    (prompt : now ≤ stamp event.1 event.2 + defaultWebhookTolerance) :
    (guard.claim now event.1 event.2).1.allowed = false := by
  rcases claim_cases guard now event.1 event.2 with ⟨denied, -⟩ | ⟨-, absent, -⟩
  · exact denied
  rcases covered.sweep later retention with ⟨time, found, -⟩ | finished
  · rw [ReplayGuard.cleanup, found] at absent
    cases absent
  · omega

structure Fits (crypto : Crypto) (stamp : String → String → Int) (call : Int × ReplayCall)
    (run : ReplayRun) : Prop where
  inTime : InTime call run
  delivery : ∀ delivery, call.2 = .deliver delivery →
    delivery.timestamp = stamp delivery.provider delivery.eventID ∧
      delivery.policy.tolerance ≤ defaultWebhookTolerance ∧
      (delivery.verify crypto = .ok () → delivery.Prompt call.1)

theorem Sound.take (call : Int × ReplayCall) (run : ReplayRun) (sound : Sound stamp run)
    (fits : Fits crypto stamp call run) : Sound stamp (run.take crypto call) := by
  obtain ⟨now, call⟩ := call
  obtain ⟨⟨later, checked⟩, delivered⟩ := fits
  cases call with
  | cleanup =>
    exact ⟨sound.retention, fun event member =>
      (sound.covered event member).sweep later sound.retention, sound.once⟩
  | claim =>
    exact ⟨claim_retention.trans sound.retention, fun event member =>
      (sound.covered event member).claim later sound.retention, sound.once⟩
  | deliver delivery =>
    obtain ⟨stamped, tolerant, prompt⟩ := delivered delivery rfl
    unfold ReplayRun.take
    dsimp only
    cases verified : delivery.verify crypto with
    | error =>
      refine ⟨sound.retention, fun event member => ?_, sound.once⟩
      exact (sound.covered event member).imp_right fun finished =>
        Int.lt_of_lt_of_le finished later
    | ok =>
      obtain ⟨reach, soon⟩ := prompt verified
      have others : ∀ event ∈ run.accepted, Covered stamp
          (run.guard.claim now delivery.provider delivery.eventID).2 now event :=
        fun event member => (sound.covered event member).claim later sound.retention
      have ruled : (run.guard.claim now delivery.provider delivery.eventID).2.retention =
          2 * defaultWebhookTolerance := claim_retention.trans sound.retention
      dsimp only
      rcases claim_cases run.guard now delivery.provider delivery.eventID with
        ⟨denied, -⟩ | ⟨granted, -, added⟩
      · rw [denied]
        exact ⟨ruled, others, sound.once⟩
      rw [granted, if_pos rfl]
      refine ⟨ruled, List.forall_mem_cons.mpr ⟨.inl ⟨now, ?_, ?_⟩, others⟩,
        List.nodup_cons.mpr ⟨fun member => ?_, sound.once⟩⟩
      · rw [added, lookup_insert, if_pos rfl]
      · have early := verified_not_early verified tolerant reach
        have checkedBefore := checked delivery rfl
        dsimp only at *
        omega
      · have denied := (sound.covered _ member).denied later sound.retention
          (by rw [← stamped]; exact soon)
        rw [granted] at denied
        cases denied

end ReplayRun

open ReplayRun

/-- Every event is let through once, provided each delivery that verifies has a timestamp less than
2^63 nanoseconds ahead of the clock and is claimed in time. -/
theorem event_accepted_once (crypto : Crypto) (stamp : String → String → Int) (start : Int)
    (calls : List (Int × ReplayCall)) (inTime : Every (take crypto) InTime (opened start) calls)
    (stamped : ∀ call ∈ calls, ∀ delivery, call.2 = .deliver delivery →
      delivery.timestamp = stamp delivery.provider delivery.eventID)
    (tolerant : ∀ call ∈ calls, ∀ delivery, call.2 = .deliver delivery →
      delivery.policy.tolerance ≤ defaultWebhookTolerance)
    (prompt : ∀ call ∈ calls, ∀ delivery, call.2 = .deliver delivery →
      delivery.verify crypto = .ok () → delivery.Prompt call.1) :
    (lastState (take crypto) (opened start) calls).accepted.Nodup := by
  have asked : Every (take crypto) (fun call _ => ∀ delivery, call.2 = .deliver delivery →
      delivery.timestamp = stamp delivery.provider delivery.eventID ∧
        delivery.policy.tolerance ≤ defaultWebhookTolerance ∧
        (delivery.verify crypto = .ok () → delivery.Prompt call.1)) (opened start) calls :=
    every_of_forall fun call member delivery same =>
      ⟨stamped call member delivery same, tolerant call member delivery same,
        prompt call member delivery same⟩
  have sound : ReplayRun.Sound stamp (opened start) := ⟨rfl, nofun, List.nodup_nil⟩
  exact (lastState_of_invariant (ReplayRun.Sound stamp) sound (inTime.and asked)
    fun call run sound fits => ReplayRun.Sound.take call run sound ⟨fits.1, fits.2⟩).once

def agreeable : Crypto :=
  ⟨fun _ _ => [1], fun _ _ => [1], fun _ => some [1], fun _ => some [1]⟩

def paidEvent (timestamp verifiedAt : Int) : Delivery :=
  ⟨"stripe", "evt", ⟨.hmacSHA256, .hex, 0⟩, "whsec", [1], "01", timestamp, verifiedAt⟩

theorem edge_deliveries_accepted_once :
    let calls := [(-5 * minute, .deliver (paidEvent 0 (-5 * minute))), (0, .cleanup),
      (5 * minute, .deliver (paidEvent 0 (5 * minute)))]
    (lastState (take agreeable) (opened (-5 * minute)) calls).accepted = [("stripe", "evt")] ∧
      (lastState (take agreeable) (opened (-5 * minute)) calls).accepted.Nodup := by
  intro calls
  refine ⟨by decide +kernel, ?_⟩
  refine event_accepted_once agreeable (fun _ _ => 0) (-5 * minute) calls
    ⟨⟨Int.le_refl _, ?_⟩, ⟨by decide +kernel, nofun⟩, ⟨by decide +kernel, ?_⟩, trivial⟩ ?_ ?_ ?_
  · rintro delivery ⟨⟩
    exact Int.le_refl _
  · rintro delivery ⟨⟩
    exact Int.le_refl _
  all_goals
    simp only [calls, List.forall_mem_cons, List.not_mem_nil, false_imp_iff, implies_true, and_true]
    refine ⟨?_, nofun, ?_⟩
  · rintro delivery ⟨⟩
    rfl
  · rintro delivery ⟨⟩
    rfl
  · rintro delivery ⟨⟩
    decide +kernel
  · rintro delivery ⟨⟩
    decide +kernel
  · rintro delivery ⟨⟩ -
    exact ⟨by decide +kernel, by decide +kernel⟩
  · rintro delivery ⟨⟩ -
    exact ⟨by decide +kernel, by decide +kernel⟩

/-- An event is accepted twice when the clock moves on between the check at the very end of the
window and the claim, and when its timestamp is 2^63 nanoseconds ahead. -/
theorem event_accepted_twice : (lastState (take agreeable) (opened (-5 * minute))
      [(-5 * minute, .deliver (paidEvent 0 (-5 * minute))),
        (5 * minute + 1, .deliver (paidEvent 0 (5 * minute)))]).accepted =
      [("stripe", "evt"), ("stripe", "evt")] ∧ (lastState (take agreeable) (opened 0)
      [(0, .deliver (paidEvent (2 ^ 64) 0)),
        (11 * minute, .deliver (paidEvent (2 ^ 64) (11 * minute)))]).accepted =
      [("stripe", "evt"), ("stripe", "evt")] := by
  decide +kernel

end Cashp.Guard
