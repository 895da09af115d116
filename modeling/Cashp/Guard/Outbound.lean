import Cashp.Guard.DenyCore
import Cashp.Kit.Ages
import Cashp.Kit.Run
import Mathlib.Data.Finset.Image
import Mathlib.Algebra.Ring.Int.Defs

/-!
The outbound control of tenant workloads (`quota.go`): a destination is vetted, then counted among
the distinct targets reached of late. What `CheckOutboundHost` answers is given. Old targets are
forgotten; the decisions are those of a window over everything granted.
-/

namespace Cashp.Guard

open Kit

def deniedOutboundPorts : List Int :=
  [25, 135, 137, 138, 139, 445, 465, 587, 1900, 2375, 2376, 3333, 4444, 5555, 7777, 9999, 14433,
    14444, 45700]

structure OutboundPolicy where
  allowedPorts : List Int := []
  maxDistinctTargets : Int
  window : Int

structure OutboundControl where
  policy : OutboundPolicy
  targets : AList fun _ : String => Ages String

def newOutboundControl (policy : OutboundPolicy) : OutboundControl := ⟨policy, ∅⟩

def checkDestination (policy : OutboundPolicy) (port : Int) (host : Verdict) : Verdict := do
  denyWhen (port < 1 ∨ 65535 < port) .outboundBlocked
    ("port " ++ toString port ++ " is out of range")
  denyWhen (deniedOutboundPorts.contains port = true) .outboundBlocked
    ("port " ++ toString port ++ " is on the abuse denylist")
  denyWhen (policy.allowedPorts ≠ [] ∧ policy.allowedPorts.contains port = false) .outboundBlocked
    ("port " ++ toString port ++ " is not in the allowed set")
  host

def targetName (host : String) (port : Int) : String := host ++ ":" ++ toString port

namespace OutboundControl

def seen (control : OutboundControl) (tenantID : String) : Ages String :=
  (control.targets.lookup tenantID).getD ∅

def record (control : OutboundControl) (tenantID : String) (seen : Ages String) : OutboundControl :=
  { control with targets := control.targets.insert tenantID seen }

def allow (control : OutboundControl) (now : Int) (tenantID host : String) (port : Int)
    (vetted : Verdict) : Verdict × OutboundControl :=
  if tenantID = "" then
    (deny .outboundBlocked "outbound request has no tenant", control)
  else
    match checkDestination control.policy port vetted with
    | .error denial => (.error denial, control)
    | .ok () =>
      if control.policy.maxDistinctTargets ≤ 0 ∨ control.policy.window ≤ 0 then
        (.ok (), control)
      else
        let seen := (control.seen tenantID).sweep (now - control.policy.window)
        if (seen.lookup (targetName host port)).isSome then
          (.ok (), control.record tenantID (seen.insert (targetName host port) now))
        else if control.policy.maxDistinctTargets ≤ seen.entries.length then
          (deny .rateLimited
            ("tenant " ++ tenantID ++ " exceeded the distinct outbound target budget"),
            control.record tenantID seen)
        else
          (.ok (), control.record tenantID (seen.insert (targetName host port) now))

def cleanup (control : OutboundControl) (now : Int) : OutboundControl :=
  if control.policy.window ≤ 0 then
    control
  else
    { control with targets := Ages.sweepEach (now - control.policy.window) control.targets }

end OutboundControl

open Ages

theorem digits_no_colon (port : Nat) : ':' ∉ port.repr.toList := by
  rw [Nat.toList_repr]
  intro member
  have digit := Nat.isDigit_of_mem_toDigits (by decide) (by decide) member
  exact absurd digit (by decide)

theorem colon_splits {front front' back back' : List Char} (clear : ':' ∉ front)
    (clear' : ':' ∉ front') (same : front ++ ':' :: back = front' ++ ':' :: back') :
    front = front' ∧ back = back' := by
  have cut : ∀ front back : List Char, ':' ∉ front →
      (front ++ ':' :: back).takeWhile (· != ':') = front := by
    intro front back clear
    rw [List.takeWhile_append_of_pos]
    · simp
    intro letter member
    rw [bne_iff_ne]
    rintro rfl
    exact clear member
  have fronts := congrArg (List.takeWhile (· != ':')) same
  rw [cut front back clear, cut front' back' clear'] at fronts
  subst fronts
  exact ⟨rfl, List.cons.inj (List.append_cancel_left same) |>.2⟩

theorem targetName_inj {host host' : String} {port port' : Int} (positive : 1 ≤ port)
    (positive' : 1 ≤ port') (same : targetName host port = targetName host' port') :
    (host, port) = (host', port') := by
  obtain ⟨number, rfl⟩ := Int.eq_ofNat_of_zero_le (show 0 ≤ port by omega)
  obtain ⟨number', rfl⟩ := Int.eq_ofNat_of_zero_le (show 0 ≤ port' by omega)
  have texts := congrArg (fun text => text.toList.reverse) same
  simp only [targetName, String.toList_append, List.reverse_append] at texts
  -- Hosts may hold colons and the digits cannot, so the text is read from its end.
  have clear : ∀ port : Nat, ':' ∉ port.repr.toList.reverse := fun port member =>
    digits_no_colon port (List.mem_reverse.mp member)
  obtain ⟨digits, hosts⟩ := colon_splits (clear number) (clear number') texts
  have numbers := congrArg (fun text => Nat.ofDigitChars 10 text 0)
    (List.reverse_injective digits)
  simp only [Nat.toList_repr, Nat.ofDigitChars_toDigits (by decide : 1 < 10) le_rfl] at numbers
  rw [String.toList_inj.mp (List.reverse_injective hosts), numbers]

abbrev Target := String × Int

structure OutboundGrant where
  tenantID : String
  target : Target
  time : Int
  deriving DecidableEq

def grantsTo (grants : List OutboundGrant) (tenantID : String) : List (Target × Int) :=
  (grants.filter fun grant => decide (grant.tenantID = tenantID)).map
    fun grant => (grant.target, grant.time)

def slidingWindow (policy : OutboundPolicy) (granted : List (Target × Int)) (now : Int)
    (tenantID host : String) (port : Int) (vetted : Verdict) : Verdict :=
  if tenantID = "" then
    deny .outboundBlocked "outbound request has no tenant"
  else
    match checkDestination policy port vetted with
    | .error denial => .error denial
    | .ok () =>
      if (host, port) ∈ recent granted (now - policy.window) ∨
          (recent granted (now - policy.window)).card < policy.maxDistinctTargets then
        .ok ()
      else
        deny .rateLimited
          ("tenant " ++ tenantID ++ " exceeded the distinct outbound target budget")

inductive OutboundCall
  | allow (tenantID host : String) (port : Int) (vetted : Verdict)
  | cleanup

def OutboundCall.by (tenantID : String) : OutboundCall → Bool
  | .allow caller _ _ _ => decide (caller = tenantID)
  | .cleanup => false

structure OutboundRun where
  control : OutboundControl
  clock : Int
  grants : List OutboundGrant

namespace OutboundRun

def opened (policy : OutboundPolicy) (start : Int) : OutboundRun :=
  ⟨newOutboundControl policy, start, []⟩

def take (call : Int × OutboundCall) (run : OutboundRun) : OutboundRun :=
  match call.2 with
  | .allow tenantID host port vetted =>
    let answer := run.control.allow call.1 tenantID host port vetted
    ⟨answer.2, call.1,
      if answer.1.allowed then run.grants ++ [⟨tenantID, (host, port), call.1⟩] else run.grants⟩
  | .cleanup => { run with control := run.control.cleanup call.1, clock := call.1 }

def InTime (call : Int × OutboundCall) (run : OutboundRun) : Prop := run.clock ≤ call.1

def after (policy : OutboundPolicy) (start : Int) (calls : List (Int × OutboundCall)) :
    OutboundRun :=
  lastState take (opened policy start) calls

def decision (run : OutboundRun) (now : Int) (tenantID host : String) (port : Int)
    (vetted : Verdict) : Verdict :=
  (run.control.allow now tenantID host port vetted).1

end OutboundRun

theorem mem_grantsTo {grants : List OutboundGrant} {tenantID : String} {target : Target}
    {time : Int} :
    (target, time) ∈ grantsTo grants tenantID ↔ ⟨tenantID, target, time⟩ ∈ grants := by
  simp only [grantsTo, List.mem_map, List.mem_filter, decide_eq_true_eq, Prod.mk.injEq]
  constructor
  · rintro ⟨⟨_, _, _⟩, ⟨member, rfl⟩, rfl, rfl⟩
    exact member
  · intro member
    exact ⟨_, ⟨member, rfl⟩, rfl, rfl⟩

theorem grantsTo_append (grants : List OutboundGrant) (grant : OutboundGrant) (tenantID : String) :
    grantsTo (grants ++ [grant]) tenantID =
      if grant.tenantID = tenantID then grantsTo grants tenantID ++ [(grant.target, grant.time)]
      else grantsTo grants tenantID := by
  by_cases own : grant.tenantID = tenantID
  · simp [grantsTo, own]
  · simp [grantsTo, own]

namespace OutboundControl

theorem seen_record (control : OutboundControl) (tenantID other : String) (ages : Ages String) :
    (control.record tenantID ages).seen other =
      if other = tenantID then ages else control.seen other := by
  by_cases same : other = tenantID
  · rw [if_pos same, same, seen, record, AList.lookup_insert]
    rfl
  · rw [if_neg same, seen, record, AList.lookup_insert_ne same]
    rfl

theorem seen_cleanup (control : OutboundControl) (now : Int) (positive : 0 < control.policy.window)
    (tenantID : String) : (control.cleanup now).seen tenantID =
      (control.seen tenantID).sweep (now - control.policy.window) := by
  rw [cleanup, if_neg (by omega)]
  exact lookup_sweepEach control.targets tenantID

variable {control : OutboundControl} {now : Int} {tenantID host : String} {port : Int}
variable {vetted : Verdict}

theorem allow_cases (limited : 0 < control.policy.maxDistinctTargets)
    (lasting : 0 < control.policy.window) :
    (∃ denial, control.allow now tenantID host port vetted = (.error denial, control) ∧
      ∀ granted, slidingWindow control.policy granted now tenantID host port vetted =
        .error denial) ∨
    ∃ detail, 1 ≤ port ∧
      (∀ granted, slidingWindow control.policy granted now tenantID host port vetted =
        if (host, port) ∈ recent granted (now - control.policy.window) ∨
            (recent granted (now - control.policy.window)).card <
              control.policy.maxDistinctTargets then
          .ok ()
        else deny .rateLimited detail) ∧
      control.allow now tenantID host port vetted =
        let swept := (control.seen tenantID).sweep (now - control.policy.window)
        if targetName host port ∈ swept ∨
            swept.entries.length < control.policy.maxDistinctTargets then
          (.ok (), control.record tenantID (swept.insert (targetName host port) now))
        else (deny .rateLimited detail, control.record tenantID swept) := by
  by_cases unnamed : tenantID = ""
  · refine .inl ⟨⟨.outboundBlocked, .forbidden, "outbound request has no tenant"⟩, ?_,
      fun granted => ?_⟩
    · rw [allow, if_pos unnamed]
      rfl
    · rw [slidingWindow, if_pos unnamed]
      rfl
  · cases checked : checkDestination control.policy port vetted with
    | error denial =>
      refine .inl ⟨denial, ?_, fun granted => ?_⟩
      · rw [allow, if_neg unnamed, checked]
      · rw [slidingWindow, if_neg unnamed, checked]
    | ok =>
      refine .inr ⟨"tenant " ++ tenantID ++ " exceeded the distinct outbound target budget", ?_,
        fun granted => ?_, ?_⟩
      · rw [checkDestination, denyWhen_bind_ok] at checked
        omega
      · rw [slidingWindow, if_neg unnamed, checked]
      rw [allow, if_neg unnamed, checked]
      dsimp only
      rw [if_neg (by omega)]
      by_cases known :
          targetName host port ∈ (control.seen tenantID).sweep (now - control.policy.window)
      · rw [if_pos (AList.lookup_isSome.mpr known), if_pos (.inl known)]
      rw [if_neg (fun found => known (AList.lookup_isSome.mp found))]
      grind

end OutboundControl

def named (granted : List (Target × Int)) : List (String × Int) :=
  granted.map (Prod.map (fun target => targetName target.1 target.2) id)

theorem past_named {granted : List (Target × Int)} {now : Int}
    (past : ∀ target time, (target, time) ∈ granted → time ≤ now) :
    ∀ name time, (name, time) ∈ named granted → time ≤ now := by
  intro name time member
  obtain ⟨use, used, same⟩ := List.mem_map.mp member
  cases same
  exact past use.1 use.2 used

namespace OutboundRun

structure Sound (policy : OutboundPolicy) (run : OutboundRun) : Prop where
  ruled : run.control.policy = policy
  past : ∀ grant ∈ run.grants, grant.time ≤ run.clock
  ports : ∀ grant ∈ run.grants, 1 ≤ grant.target.2
  seen : ∀ tenantID, (run.control.seen tenantID).Reflects (named (grantsTo run.grants tenantID))
    (run.clock - policy.window)
  bounded : ∀ tenantID start, (span (grantsTo run.grants tenantID) start
    (start + policy.window)).card ≤ policy.maxDistinctTargets.toNat

variable {policy : OutboundPolicy} {run other : OutboundRun} {now : Int} {tenantID host : String}
variable {port : Int} {vetted : Verdict}

theorem Sound.opened (policy : OutboundPolicy) (start : Int) :
    Sound policy (opened policy start) := by
  refine ⟨rfl, by simp [OutboundRun.opened], by simp [OutboundRun.opened], fun tenantID => ?_, ?_⟩
  · exact reflects_nothing _ (by simp [OutboundRun.opened, grantsTo, named])
  · intro tenantID start
    simp [OutboundRun.opened, grantsTo, span, recent]

section

variable (sound : Sound policy run)

include sound

theorem Sound.past_grantsTo (later : run.clock ≤ now)
    (tenantID : String) (target : Target) (time : Int)
    (member : (target, time) ∈ grantsTo run.grants tenantID) : time ≤ now :=
  (sound.past _ (mem_grantsTo.mp member)).trans later

theorem Sound.reflects (later : run.clock ≤ now) (tenantID : String) :
    (run.control.seen tenantID).Reflects (named (grantsTo run.grants tenantID))
      (now - policy.window) :=
  (sound.seen tenantID).later (by omega)

theorem Sound.names_apart (tenantID : String) (since : Int) :
    Set.InjOn (fun target : Target => targetName target.1 target.2)
      (recent (grantsTo run.grants tenantID) since) := by
  intro first member second member' same
  obtain ⟨time, used, -⟩ := mem_recent.mp member
  obtain ⟨time', used', -⟩ := mem_recent.mp member'
  exact targetName_inj (sound.ports _ (mem_grantsTo.mp used))
    (sound.ports _ (mem_grantsTo.mp used')) same

theorem Sound.mem_swept (later : run.clock ≤ now) (valid : 1 ≤ port) :
    targetName host port ∈ (run.control.seen tenantID).sweep (now - policy.window) ↔
      (host, port) ∈ recent (grantsTo run.grants tenantID) (now - policy.window) := by
  rw [(sound.reflects later tenantID).mem_sweep_iff, named, recent_map, Finset.mem_image]
  constructor
  · rintro ⟨target, member, same⟩
    obtain ⟨time, used, -⟩ := mem_recent.mp member
    rwa [← targetName_inj (sound.ports _ (mem_grantsTo.mp used)) valid same]
  · intro member
    exact ⟨_, member, rfl⟩

theorem Sound.room (later : run.clock ≤ now) (valid : 1 ≤ port) :
    (targetName host port ∈ (run.control.seen tenantID).sweep (now - policy.window) ∨
      ((run.control.seen tenantID).sweep (now - policy.window)).entries.length <
        policy.maxDistinctTargets) ↔
    ((host, port) ∈ recent (grantsTo run.grants tenantID) (now - policy.window) ∨
      (recent (grantsTo run.grants tenantID) (now - policy.window)).card <
        policy.maxDistinctTargets) := by
  rw [sound.mem_swept later valid, (sound.reflects later tenantID).length_sweep, named, recent_map,
    Finset.card_image_of_injOn (sound.names_apart tenantID _)]

theorem Sound.decides (limited : 0 < policy.maxDistinctTargets)
    (lasting : 0 < policy.window) (later : run.clock ≤ now) :
    run.decision now tenantID host port vetted =
      slidingWindow policy (grantsTo run.grants tenantID) now tenantID host port vetted := by
  obtain rfl := sound.ruled
  rcases run.control.allow_cases limited lasting with
    ⟨denial, answer, spec⟩ | ⟨_, valid, spec, answer⟩
  · rw [decision, answer, spec]
  rw [decision, answer, spec]
  dsimp only
  rw [apply_ite Prod.fst]
  exact if_congr (sound.room later valid) rfl rfl

theorem Sound.waits (later : run.clock ≤ now) {control : OutboundControl}
    (same : control.policy = run.control.policy)
    (kept : ∀ tenantID, control.seen tenantID = run.control.seen tenantID ∨
      control.seen tenantID = (run.control.seen tenantID).sweep (now - policy.window)) :
    Sound policy ⟨control, now, run.grants⟩ := by
  refine ⟨same.trans sound.ruled, fun grant member => (sound.past grant member).trans later,
    sound.ports, fun tenantID => ?_, sound.bounded⟩
  rcases kept tenantID with unchanged | swept
  · exact unchanged ▸ sound.reflects later tenantID
  · exact swept ▸ (sound.reflects later tenantID).sweep le_rfl

theorem Sound.grants (later : run.clock ≤ now) (valid : 1 ≤ port)
    (fits : (host, port) ∈ recent (grantsTo run.grants tenantID) (now - policy.window) ∨
      (recent (grantsTo run.grants tenantID) (now - policy.window)).card <
        policy.maxDistinctTargets) : Sound policy ⟨run.control.record tenantID
      (((run.control.seen tenantID).sweep (now - policy.window)).insert (targetName host port) now),
      now, run.grants ++ [⟨tenantID, (host, port), now⟩]⟩ := by
  refine ⟨sound.ruled, ?_, ?_, fun other => ?_, fun other start => ?_⟩
  · intro grant member
    rcases List.mem_append.mp member with before | new
    · exact (sound.past grant before).trans later
    · rw [List.mem_singleton.mp new]
  · intro grant member
    rcases List.mem_append.mp member with before | new
    · exact sound.ports grant before
    · exact (List.mem_singleton.mp new) ▸ valid
  · rw [OutboundControl.seen_record, grantsTo_append]
    dsimp only
    by_cases own : tenantID = other
    · subst own
      rw [if_pos rfl, if_pos rfl, named, List.map_append]
      exact ((sound.reflects later tenantID).sweep le_rfl).use
        (past_named (sound.past_grantsTo later tenantID)) (targetName host port)
    · rw [if_neg (Ne.symm own), if_neg own]
      exact sound.reflects later other
  · rw [grantsTo_append]
    dsimp only
    by_cases own : tenantID = other
    · subst own
      rw [if_pos rfl]
      exact span_use_le (sound.past_grantsTo later tenantID) (sound.bounded tenantID)
        (fits.imp_right fun few => by omega) start
    · rw [if_neg own]
      exact sound.bounded other start

end

theorem Sound.take (limited : 0 < policy.maxDistinctTargets) (lasting : 0 < policy.window)
    (call : Int × OutboundCall) (run : OutboundRun) (sound : Sound policy run)
    (later : InTime call run) : Sound policy (run.take call) := by
  obtain ⟨now, call⟩ := call
  obtain rfl := sound.ruled
  cases call with
  | cleanup =>
    refine sound.waits later ?_ fun tenantID =>
      .inr (run.control.seen_cleanup now lasting tenantID)
    rw [OutboundControl.cleanup]
    split
    · rfl
    · rfl
  | allow tenantID host port vetted =>
    rw [OutboundRun.take]
    dsimp only
    rcases run.control.allow_cases limited lasting with
      ⟨denial, answer, -⟩ | ⟨detail, valid, -, answer⟩
    · rw [answer]
      exact sound.waits later rfl fun _ => .inl rfl
    rw [answer]
    dsimp only
    split
    · rename_i fits
      exact sound.grants later valid ((sound.room later valid).mp fits)
    refine sound.waits later rfl fun other => ?_
    rw [OutboundControl.seen_record]
    split
    · rename_i same
      exact .inr (same ▸ rfl)
    · exact .inl rfl

theorem Sound.grantsTo_take (sound : Sound policy run) (limited : 0 < policy.maxDistinctTargets)
    (lasting : 0 < policy.window) (later : run.clock ≤ now) (tenantID : String)
    (call : OutboundCall) :
    grantsTo (run.take (now, call)).grants tenantID = match call with
      | .allow caller host port vetted =>
        if caller = tenantID ∧ (slidingWindow policy (grantsTo run.grants tenantID) now tenantID
            host port vetted).allowed = true then
          grantsTo run.grants tenantID ++ [((host, port), now)]
        else grantsTo run.grants tenantID
      | .cleanup => grantsTo run.grants tenantID := by
  cases call with
  | cleanup => rfl
  | allow caller host port vetted =>
    dsimp only [OutboundRun.take]
    by_cases own : caller = tenantID
    · subst own
      rw [← sound.decides limited lasting later, decision]
      by_cases granted : (run.control.allow now caller host port vetted).1.allowed = true
      · rw [if_pos granted, if_pos ⟨rfl, granted⟩, grantsTo_append, if_pos rfl]
      · rw [if_neg granted, if_neg fun both => granted both.2]
    · rw [if_neg fun both : caller = tenantID ∧ _ => own both.1]
      split
      · rw [grantsTo_append, if_neg own]
      · rfl

theorem Sound.alone (limited : 0 < policy.maxDistinctTargets) (lasting : 0 < policy.window)
    (tenantID : String) (calls : List (Int × OutboundCall)) (sound : Sound policy run)
    (sound' : Sound policy other) (behind : other.clock ≤ run.clock)
    (same : grantsTo run.grants tenantID = grantsTo other.grants tenantID)
    (inTime : Every OutboundRun.take InTime run calls) :
    let whole := lastState OutboundRun.take run calls
    let own := lastState OutboundRun.take other (calls.filter fun call => call.2.by tenantID)
    Sound policy own ∧ own.clock ≤ whole.clock ∧
      grantsTo whole.grants tenantID = grantsTo own.grants tenantID := by
  induction calls generalizing run other with
  | nil => exact ⟨sound', behind, same⟩
  | cons call rest ih =>
    obtain ⟨now, call⟩ := call
    have later : run.clock ≤ now := inTime.1
    have sound₁ := Sound.take limited lasting (now, call) run sound later
    have clock : (run.take (now, call)).clock = now := by cases call <;> rfl
    have grown := sound.grantsTo_take limited lasting later tenantID call
    cases own : call.by tenantID with
    | true =>
      have later' : other.clock ≤ now := behind.trans later
      have sound₂ := Sound.take limited lasting (now, call) other sound' later'
      have grown' := sound'.grantsTo_take limited lasting later' tenantID call
      have clock' : (other.take (now, call)).clock = now := by cases call <;> rfl
      have kept : ((now, call) :: rest).filter (fun call => call.2.by tenantID) =
          (now, call) :: rest.filter fun call => call.2.by tenantID :=
        List.filter_cons_of_pos own
      rw [kept]
      refine ih sound₁ sound₂ (by omega) ?_ inTime.2
      rw [grown, grown', same]
    | false =>
      have dropped : ((now, call) :: rest).filter (fun call => call.2.by tenantID) =
          rest.filter fun call => call.2.by tenantID :=
        List.filter_cons_of_neg (Bool.eq_false_iff.mp own)
      rw [dropped]
      refine ih sound₁ sound' ?_ ?_ inTime.2
      · rw [clock]
        exact behind.trans later
      rw [grown, ← same]
      cases call with
      | cleanup => rfl
      | allow caller =>
        have foreign : caller ≠ tenantID := of_decide_eq_false own
        exact if_neg fun both => foreign both.1

end OutboundRun

open OutboundRun

/-- No tenant gets to more targets than the limit within any window, and a tenant's answers depend
on its own calls only. -/
theorem outbound_sliding_window (policy : OutboundPolicy) (limited : 0 < policy.maxDistinctTargets)
    (lasting : 0 < policy.window) (start : Int) (calls : List (Int × OutboundCall))
    (inTime : Every take InTime (opened policy start) calls) :
    let run := after policy start calls
    (∀ now tenantID host port vetted, run.clock ≤ now →
      run.decision now tenantID host port vetted =
        slidingWindow policy (grantsTo run.grants tenantID) now tenantID host port vetted) ∧
    (∀ tenantID from', ((span (grantsTo run.grants tenantID) from'
      (from' + policy.window)).card : Int) ≤ policy.maxDistinctTargets) ∧
    (∀ now tenantID host port vetted, run.clock ≤ now →
      run.decision now tenantID host port vetted =
        (after policy start (calls.filter fun call => call.2.by tenantID)).decision now tenantID
          host port vetted) := by
  have sound := lastState_of_invariant (Sound policy) (Sound.opened policy start) inTime
    fun call run sound later => Sound.take limited lasting call run sound later
  refine ⟨fun now tenantID host port vetted later => sound.decides limited lasting later, ?_, ?_⟩
  · intro tenantID first
    have bounded := sound.bounded tenantID first
    rw [after]
    omega
  · intro now tenantID host port vetted later
    obtain ⟨sound', behind, same⟩ := Sound.alone limited lasting tenantID calls
      (Sound.opened policy start) (Sound.opened policy start) le_rfl rfl inTime
    have whole : (after policy start calls).decision now tenantID host port vetted = _ :=
      sound.decides limited lasting later
    rw [whole, same]
    exact (sound'.decides limited lasting (behind.trans later)).symm

theorem second_target_waits :
    let policy : OutboundPolicy := { maxDistinctTargets := 1, window := 10 }
    let calls := [(0, .allow "acme" "a.example" 443 (.ok ())), (4, .cleanup),
      (5, .allow "acme" "b.example" 443 (.ok ()))]
    Every take InTime (opened policy 0) calls ∧
    (after policy 0 calls).grants = [⟨"acme", ("a.example", 443), 0⟩] ∧
    ((after policy 0 calls).decision 10 "acme" "b.example" 443 (.ok ())).allowed = false ∧
    ((after policy 0 calls).decision 11 "acme" "b.example" 443 (.ok ())).allowed = true := by
  intro policy calls
  have inTime : Every take InTime (opened policy 0) calls :=
    ⟨show (0 : Int) ≤ 0 by decide, show (0 : Int) ≤ 4 by decide, show (4 : Int) ≤ 5 by decide,
      trivial⟩
  have window := outbound_sliding_window policy (by decide) (by decide) 0 calls inTime
  have granted : (after policy 0 calls).grants = [⟨"acme", ("a.example", 443), 0⟩] := by
    decide +kernel
  refine ⟨inTime, granted, ?_, ?_⟩
  · rw [window.1 10 _ _ _ _ (show (5 : Int) ≤ 10 by decide), granted]
    decide +kernel
  · rw [window.1 11 _ _ _ _ (show (5 : Int) ≤ 11 by decide), granted]
    decide +kernel

end Cashp.Guard
