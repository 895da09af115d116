import Cashp.Kit.Assoc
import Cashp.Kit.Duration
import Cashp.Kit.Run
import Cashp.Kit.Timeline
import Mathlib.Data.Int.Order.Basic

/-!
The sliding window limiter (`ratelimit.go`). It decides by a window over everything it ever allowed,
though it forgets what is old.
-/

namespace Cashp.Guard

open Kit Duration

structure Rule where
  requests : Int
  window : Int
  fits : window ≤ longest

def Rule.enabled (rule : Rule) : Bool := decide (0 < rule.requests ∧ 0 < rule.window)

structure Limiter where
  rule : Rule
  events : AList fun _ : String => List Int

def newLimiter (rule : Rule) : Limiter := ⟨rule, ∅⟩

def prune (events : List Int) (cutoff : Int) : List Int := Timeline.trim events cutoff

namespace Limiter

def logged (limiter : Limiter) (key : String) : List Int := (limiter.events.lookup key).getD []

def record (limiter : Limiter) (key : String) (events : List Int) : Limiter :=
  { limiter with events := limiter.events.insert key events }

def allow (limiter : Limiter) (now : Int) (key : String) : (Bool × Int) × Limiter :=
  if limiter.rule.enabled then
    let kept := prune (limiter.logged key) (now - limiter.rule.window)
    if limiter.rule.requests ≤ kept.length then
      -- There is a first one, since an enabled rule asks for a positive number.
      let wait := between now (kept.headD now + limiter.rule.window)
      ((false, if wait < second then second else wait), limiter.record key kept)
    else
      ((true, 0), limiter.record key (kept ++ [now]))
  else
    ((true, 0), limiter)

def remaining (limiter : Limiter) (now : Int) (key : String) : Int × Limiter :=
  if limiter.rule.enabled then
    let kept := prune (limiter.logged key) (now - limiter.rule.window)
    let remaining := limiter.rule.requests - kept.length
    (if 0 < remaining then remaining else 0, limiter.record key kept)
  else
    (-1, limiter)

def cleanup (limiter : Limiter) (now : Int) : Limiter :=
  { limiter with
    events := revise (fun events => prune events (now - limiter.rule.window))
      (fun kept => decide (kept.length ≠ 0)) limiter.events }

end Limiter

open Timeline

def Rule.judge (rule : Rule) (times : List Int) (now : Int) : Bool × Int :=
  let recent := within times (now - rule.window) now
  if rule.requests ≤ recent.length then
    (false, max second (recent.headD now + rule.window - now))
  else
    (true, 0)

def Rule.room (rule : Rule) (times : List Int) (now : Int) : Int :=
  max 0 (rule.requests - (within times (now - rule.window) now).length)

inductive LimiterCall
  | allow (key : String)
  | remaining (key : String)
  | cleanup

def LimiterCall.about (key : String) : LimiterCall → Bool
  | .allow other => decide (other = key)
  | .remaining other => decide (other = key)
  | .cleanup => false

def successesOf (successes : List (String × Int)) (key : String) : List Int :=
  (successes.filter fun success => decide (success.1 = key)).map Prod.snd

structure LimiterRun where
  limiter : Limiter
  clock : Int
  successes : List (String × Int)

namespace LimiterRun

def opened (rule : Rule) (start : Int) : LimiterRun := ⟨newLimiter rule, start, []⟩

def take (call : Int × LimiterCall) (run : LimiterRun) : LimiterRun :=
  match call.2 with
  | .allow key =>
    let answer := run.limiter.allow call.1 key
    ⟨answer.2, call.1,
      if answer.1.1 then run.successes ++ [(key, call.1)] else run.successes⟩
  | .remaining key => ⟨(run.limiter.remaining call.1 key).2, call.1, run.successes⟩
  | .cleanup => ⟨run.limiter.cleanup call.1, call.1, run.successes⟩

def InTime (call : Int × LimiterCall) (run : LimiterRun) : Prop := run.clock ≤ call.1

instance (call : Int × LimiterCall) (run : LimiterRun) : Decidable (InTime call run) :=
  inferInstanceAs (Decidable (run.clock ≤ call.1))

def after (rule : Rule) (start : Int) (calls : List (Int × LimiterCall)) : LimiterRun :=
  lastState take (opened rule start) calls

theorem after_concat (rule : Rule) (start : Int) (calls : List (Int × LimiterCall))
    (call : Int × LimiterCall) :
    after rule start (calls ++ [call]) = (after rule start calls).take call :=
  lastState_append [call]

def allowed (run : LimiterRun) (key : String) (start stop : Int) : List Int :=
  within (successesOf run.successes key) start stop

def pressed (run : LimiterRun) (now : Int) (key : String) (count : Nat) : LimiterRun :=
  lastState take run (List.replicate count (now, .allow key))

end LimiterRun

theorem mem_successesOf {successes : List (String × Int)} {key : String} {time : Int} :
    time ∈ successesOf successes key ↔ (key, time) ∈ successes := by
  simp_all [successesOf]

theorem successesOf_append (successes : List (String × Int)) (key other : String) (time : Int) :
    successesOf (successes ++ [(other, time)]) key =
      if other = key then successesOf successes key ++ [time] else successesOf successes key := by
  by_cases own : other = key
  · simp [successesOf, own]
  · simp [successesOf, own]

namespace Limiter

theorem logged_record (limiter : Limiter) (key other : String) (events : List Int) :
    (limiter.record key events).logged other =
      if other = key then events else limiter.logged other := by
  rw [logged, record, lookup_insert]
  split
  · rfl
  · rfl

theorem logged_cleanup (limiter : Limiter) (now : Int) (key : String) :
    (limiter.cleanup now).logged key = prune (limiter.logged key) (now - limiter.rule.window) := by
  rw [logged, cleanup, lookup_revise, logged]
  cases limiter.events.lookup key with
  | none => rfl
  | some events =>
    grind

end Limiter

namespace LimiterRun

structure Sound (rule : Rule) (run : LimiterRun) : Prop where
  ruled : run.limiter.rule = rule
  past : ∀ success ∈ run.successes, success.2 ≤ run.clock
  kept : ∀ key, Recalls (run.limiter.logged key) (successesOf run.successes key)
    (run.clock - rule.window)
  bounded : ∀ key start,
    (run.allowed key start (start + rule.window)).length ≤ rule.requests.toNat

variable {rule : Rule} {run : LimiterRun} {now : Int} {key : String}

theorem Sound.opened (rule : Rule) (start : Int) : Sound rule (opened rule start) := by
  refine ⟨rfl, fun success member => ?_, fun key => recalls_nothing, fun key start => ?_⟩
  · exact absurd member List.not_mem_nil
  · exact Nat.zero_le _

section

variable (sound : Sound rule run)

include sound

theorem Sound.past_of (later : run.clock ≤ now) (key : String) :
    ∀ time ∈ successesOf run.successes key, time ≤ now := by
  intro time member
  exact (sound.past _ (mem_successesOf.mp member)).trans later

theorem Sound.recalls (later : run.clock ≤ now) (key : String) :
    Recalls (run.limiter.logged key) (successesOf run.successes key) (now - rule.window) :=
  (sound.kept key).later (by omega)

theorem Sound.pruned (later : run.clock ≤ now) (key : String) :
    prune (run.limiter.logged key) (now - rule.window) =
      run.allowed key (now - rule.window) now := by
  rw [prune, (sound.recalls later key).trim_eq, allowed, within_now (sound.past_of later key)]

theorem Sound.allow_eq (enabled : rule.enabled = true)
    (later : run.clock ≤ now) (key : String) : run.limiter.allow now key =
      (rule.judge (successesOf run.successes key) now,
        run.limiter.record key (prune (run.limiter.logged key) (now - rule.window) ++
          if (rule.judge (successesOf run.successes key) now).1 then [now] else [])) := by
  obtain rfl := sound.ruled
  have pruned := sound.pruned later key
  rw [Limiter.allow, if_pos enabled, Rule.judge]
  dsimp only
  rw [pruned, allowed]
  have positive : 0 < run.limiter.rule.requests := (of_decide_eq_true enabled).1
  generalize recent : within (successesOf run.successes key)
    (now - run.limiter.rule.window) now = kept
  by_cases full : run.limiter.rule.requests ≤ kept.length
  · rw [if_pos full, if_pos full, if_neg Bool.false_ne_true, List.append_nil]
    -- The oldest event is in the window, so the time to wait is a duration.
    cases kept with
    | nil =>
      rw [List.length_nil] at full
      omega
    | cons oldest =>
      have inside : oldest ∈ within (successesOf run.successes key)
          (now - run.limiter.rule.window) now := recent ▸ List.mem_cons_self
      have young := of_decide_eq_true (List.mem_filter.mp inside).2
      have fits := run.limiter.rule.fits
      have short : shortest ≤ 0 := by decide
      rw [List.headD_cons, between, min_eq_right (by omega), max_eq_right (by omega)]
      congr 2
      split
      · rw [max_eq_left (by omega)]
      · rw [max_eq_right (by omega)]
  · rw [if_neg full, if_neg full, if_pos rfl]

theorem Sound.remaining_eq (enabled : rule.enabled = true)
    (later : run.clock ≤ now) (key : String) :
    run.limiter.remaining now key = (rule.room (successesOf run.successes key) now,
      run.limiter.record key (prune (run.limiter.logged key) (now - rule.window))) := by
  obtain rfl := sound.ruled
  have pruned := sound.pruned later key
  rw [Limiter.remaining, if_pos enabled, Rule.room, pruned, allowed]
  dsimp only
  congr 1
  split
  · rw [max_eq_right (by omega)]
  · rw [max_eq_left (by omega)]

theorem Sound.waits (later : run.clock ≤ now) {limiter : Limiter}
    (same : limiter.rule = run.limiter.rule)
    (kept : ∀ key, limiter.logged key = run.limiter.logged key ∨
      limiter.logged key = prune (run.limiter.logged key) (now - rule.window)) :
    Sound rule ⟨limiter, now, run.successes⟩ := by
  refine ⟨same.trans sound.ruled, fun success member => (sound.past success member).trans later,
    fun key => ?_, sound.bounded⟩
  have recalls := sound.recalls later key
  rcases kept key with unchanged | pruned
  · exact unchanged ▸ recalls
  · exact pruned ▸ recalls.drop

theorem Sound.waits_record (later : run.clock ≤ now) (key : String) :
    Sound rule ⟨run.limiter.record key (prune (run.limiter.logged key) (now - rule.window)), now,
      run.successes⟩ := by
  refine sound.waits later rfl fun other => ?_
  rw [Limiter.logged_record]
  split
  · rename_i same
    exact .inr (same ▸ rfl)
  · exact .inl rfl

theorem Sound.succeeds (later : run.clock ≤ now)
    (fits : ((run.allowed key (now - rule.window) now).length : Int) < rule.requests) :
    Sound rule ⟨run.limiter.record key (prune (run.limiter.logged key) (now - rule.window) ++
      [now]), now, run.successes ++ [(key, now)]⟩ := by
  refine ⟨sound.ruled, ?_, fun other => ?_, fun other start => ?_⟩
  · intro success member
    rcases List.mem_append.mp member with before | new
    · exact (sound.past success before).trans later
    · exact le_of_eq (congrArg Prod.snd (List.mem_singleton.mp new))
  · have recalls := sound.recalls later other
    rw [Limiter.logged_record, successesOf_append]
    by_cases own : key = other
    · subst own
      rw [if_pos rfl, if_pos rfl]
      refine recalls.drop.add fun time member => ?_
      rw [recalls.trim_eq] at member
      exact sound.past_of later key time (List.mem_filter.mp member).1
    · rw [if_neg (Ne.symm own), if_neg own]
      exact recalls
  · rw [allowed, successesOf_append]
    by_cases own : key = other
    · subst own
      rw [if_pos rfl]
      refine length_within_add_le (sound.past_of later key) (sound.bounded key) ?_ start
      rw [allowed] at fits
      omega
    · rw [if_neg own]
      exact sound.bounded other start

end

theorem judge_fst (rule : Rule) (times : List Int) (now : Int) : (rule.judge times now).1 = true ↔
      ((within times (now - rule.window) now).length : Int) < rule.requests := by
  grind [Rule.judge]

theorem Sound.take (enabled : rule.enabled = true) (call : Int × LimiterCall) (run : LimiterRun)
    (sound : Sound rule run) (later : InTime call run) : Sound rule (run.take call) := by
  obtain ⟨now, call⟩ := call
  cases call with
  | cleanup =>
    refine sound.waits later rfl fun key => .inr ?_
    rw [Limiter.logged_cleanup, sound.ruled]
  | remaining key =>
    rw [LimiterRun.take]
    dsimp only
    rw [sound.remaining_eq enabled later]
    exact sound.waits_record later key
  | allow key =>
    rw [LimiterRun.take]
    dsimp only
    rw [sound.allow_eq enabled later]
    by_cases fits : (rule.judge (successesOf run.successes key) now).1 = true
    · rw [if_pos fits, if_pos fits]
      exact sound.succeeds later ((judge_fst rule _ now).mp fits)
    · rw [if_neg fits, if_neg fits, List.append_nil]
      exact sound.waits_record later key

def grown (rule : Rule) (key : String) (call : Int × LimiterCall) (times : List Int) : List Int :=
  match call.2 with
  | .allow other =>
    if other = key ∧ (rule.judge times call.1).1 = true then times ++ [call.1] else times
  | .remaining _ => times
  | .cleanup => times

theorem Sound.grows (enabled : rule.enabled = true) (key : String) (call : Int × LimiterCall)
    (run : LimiterRun) (sound : Sound rule run) (later : InTime call run) :
    successesOf (run.take call).successes key =
      grown rule key call (successesOf run.successes key) := by
  obtain ⟨now, call⟩ := call
  cases call with
  | cleanup | remaining => rfl
  | allow other =>
    rw [LimiterRun.take, grown]
    dsimp only
    rw [sound.allow_eq enabled later]
    by_cases own : other = key
    · subst own
      by_cases fits : (rule.judge (successesOf run.successes other) now).1 = true
      · rw [if_pos fits, if_pos ⟨rfl, fits⟩, successesOf_append, if_pos rfl]
      · rw [if_neg fits, if_neg fun both => fits both.2]
    · rw [if_neg fun both : other = key ∧ _ => own both.1]
      split
      · rw [successesOf_append, if_neg own]
      · rfl

theorem grown_idle (rule : Rule) (key : String) (call : Int × LimiterCall) (times : List Int)
    (foreign : call.2.about key = false) : grown rule key call times = times := by
  grind [LimiterRun.grown, LimiterCall.about]

theorem Sound.successes_from (enabled : rule.enabled = true) (key : String)
    {calls : List (Int × LimiterCall)} (sound : Sound rule run)
    (inTime : Every LimiterRun.take InTime run calls) :
    Sound rule (lastState LimiterRun.take run calls) ∧
    successesOf (lastState LimiterRun.take run calls).successes key =
      lastState (grown rule key) (successesOf run.successes key)
        (calls.filter fun call => call.2.about key) := by
  refine ⟨lastState_of_invariant (Sound rule) sound inTime (Sound.take enabled), ?_⟩
  exact lastState_filtered (Sound rule) (fun run => successesOf run.successes key) sound inTime
    (Sound.take enabled) (Sound.grows enabled key) (grown_idle rule key)

theorem Sound.decides (sound : Sound rule run) (enabled : rule.enabled = true)
    (later : run.clock ≤ now) (key : String) :
    (run.limiter.allow now key).1 = rule.judge (successesOf run.successes key) now := by
  rw [sound.allow_eq enabled later]

theorem length_grown_replicate (rule : Rule) (lasting : 0 < rule.window) (now : Int) (key : String)
    (count : Nat) (times : List Int) :
    ((within (lastState (grown rule key) times (List.replicate count (now, .allow key)))
        (now - rule.window) now).length : Int) =
      (within times (now - rule.window) now).length + min (count : Int) (rule.room times now) := by
  induction count generalizing times with
  | zero =>
    have some : 0 ≤ rule.room times now := le_max_left _ _
    rw [List.replicate_zero, lastState]
    omega
  | succ count ih =>
    rw [List.replicate_succ, lastState, ih, Rule.room, Rule.room, grown]
    have judged := judge_fst rule times now
    by_cases fits : (rule.judge times now).1 = true
    · have one : within [now] (now - rule.window) now = [now] :=
        List.filter_cons_of_pos (decide_eq_true ⟨by omega, le_rfl⟩)
      have longer : (within (times ++ [now]) (now - rule.window) now).length =
          (within times (now - rule.window) now).length + 1 := by
        rw [within, List.filter_append, List.length_append]
        exact congrArg (_ + List.length ·) one
      have few := judged.mp fits
      dsimp only
      rw [if_pos ⟨rfl, fits⟩, longer]
      omega
    · have full := mt judged.mpr fits
      dsimp only
      rw [if_neg fun both => fits both.2]
      omega

theorem clock_take (run : LimiterRun) (call : Int × LimiterCall) :
    (run.take call).clock = call.1 := by
  obtain ⟨now, call⟩ := call
  cases call with
  | allow | remaining | cleanup => rfl

theorem pressed_inTime (run : LimiterRun) (later : run.clock ≤ now) (key : String) (count : Nat) :
    Every LimiterRun.take InTime run (List.replicate count (now, .allow key)) ∧
      (run.pressed now key count).clock ≤ now := by
  induction count generalizing run with
  | zero => exact ⟨trivial, later⟩
  | succ count ih =>
    have next := ih (run.take (now, .allow key)) (clock_take run _).le
    exact ⟨⟨later, next.1⟩, next.2⟩

theorem Sound.pressed_allow (sound : Sound rule run) (enabled : rule.enabled = true)
    (later : run.clock ≤ now) (count : Nat) :
    (((run.take (now, .remaining key)).pressed now key count).limiter.allow now key).1.1 = true ↔
      (count : Int) < (run.limiter.remaining now key).1 := by
  have lasting : 0 < rule.window := (of_decide_eq_true enabled).2
  have asked := Sound.take enabled (now, .remaining key) _ sound later
  obtain ⟨inTime, onTime⟩ :=
    pressed_inTime (run.take (now, .remaining key)) (clock_take run (now, _)).le key count
  obtain ⟨sound', own⟩ := Sound.successes_from enabled key asked inTime
  have all : (List.replicate count ((now, .allow key) : Int × LimiterCall)).filter
      (fun call => call.2.about key) = List.replicate count (now, .allow key) := by
    refine List.filter_eq_self.mpr fun call member => ?_
    rw [List.eq_of_mem_replicate member]
    exact decide_eq_true rfl
  rw [all] at own
  have length := length_grown_replicate rule lasting now key count
    (successesOf run.successes key)
  rw [sound.remaining_eq enabled later, pressed, sound'.decides enabled onTime, judge_fst, own]
  have same : successesOf (run.take (now, .remaining key)).successes key =
      successesOf run.successes key := rfl
  rw [same, length, Rule.room]
  omega

theorem Sound.judge_later (sound : Sound rule run) (enabled : rule.enabled = true)
    (later : run.clock ≤ now) {wait : Int}
    (refused : rule.judge (successesOf run.successes key) now = (false, wait)) :
    (rule.judge (successesOf run.successes key) (now + wait)).1 = true := by
  have past := sound.past_of later key
  have bounded := sound.bounded key (now - rule.window)
  rw [Int.sub_add_cancel] at bounded
  have positive : 0 < rule.requests := (of_decide_eq_true enabled).1
  rw [Rule.judge] at refused
  rw [allowed] at bounded
  rw [judge_fst]
  generalize recent : within (successesOf run.successes key) (now - rule.window) now = kept
    at refused bounded
  by_cases full : rule.requests ≤ kept.length
  · rw [if_pos full, Prod.mk.injEq] at refused
    have long : second ≤ wait := refused.2 ▸ le_max_left _ _
    have brief : 0 < second := by decide
    cases kept with
    | nil =>
      rw [List.length_nil] at full
      omega
    | cons oldest rest =>
      have enough : oldest + rule.window - now ≤ wait := refused.2 ▸ le_max_right _ _
      have narrowed : within (successesOf run.successes key) (now + wait - rule.window)
          (now + wait) = rest.filter fun time => decide (now + wait - rule.window < time) := by
        rw [within_now fun time member => (past time member).trans (by omega)]
        have dropped : rest.filter (fun time => decide (now + wait - rule.window < time)) =
            (oldest :: rest).filter fun time => decide (now + wait - rule.window < time) :=
          (List.filter_cons_of_neg (by rw [decide_eq_true_eq]; omega)).symm
        rw [dropped, ← recent, within_now past, List.filter_filter]
        grind
      grind
  · rw [if_neg full, Prod.mk.injEq] at refused
    exact absurd refused.1 (by decide)

theorem Sound.waited_allow (sound : Sound rule run) (enabled : rule.enabled = true)
    (later : run.clock ≤ now) {wait : Int} (refused : (run.limiter.allow now key).1 = (false, wait))
    {meanwhile : List (Int × LimiterCall)}
    (inTime : Every LimiterRun.take InTime (run.take (now, .allow key)) meanwhile)
    (foreign : ∀ call ∈ meanwhile, call.2.about key = false)
    (waited : (lastState LimiterRun.take (run.take (now, .allow key)) meanwhile).clock ≤
      now + wait) :
    ((lastState LimiterRun.take (run.take (now, .allow key)) meanwhile).limiter.allow
      (now + wait) key).1.1 = true := by
  rw [sound.decides enabled later] at refused
  have asked := Sound.take enabled (now, .allow key) run sound later
  have kept : successesOf (run.take (now, .allow key)).successes key =
      successesOf run.successes key := by
    rw [Sound.grows enabled key (now, .allow key) run sound later]
    refine if_neg fun both => ?_
    rw [refused] at both
    exact Bool.false_ne_true both.2
  obtain ⟨sound', own⟩ := Sound.successes_from enabled key asked inTime
  have none : (meanwhile.filter fun call => call.2.about key) = [] :=
    List.filter_eq_nil_iff.mpr fun call member => Bool.eq_false_iff.mp (foreign call member)
  rw [none, lastState, kept] at own
  rw [sound'.decides enabled waited, own]
  exact sound.judge_later enabled later refused

end LimiterRun

open LimiterRun

/-- No key is allowed more often than the rule says within any window, and the answers to a key
depend on the calls about it only. What remains can be used up at once, and who waits as long as
told is let in. -/
theorem limiter_sliding_window (rule : Rule) (enabled : rule.enabled = true) (start : Int)
    (calls : List (Int × LimiterCall))
    (inTime : Every take InTime (opened rule start) calls) (key : String) :
    let run := after rule start calls
    (∀ now, run.clock ≤ now → ((run.limiter.allow now key).1.1 = true ↔
      ((run.allowed key (now - rule.window) now).length : Int) < rule.requests)) ∧
    (∀ first, ((run.allowed key first (first + rule.window)).length : Int) ≤ rule.requests) ∧
    (∀ others, Every take InTime (opened rule start) others →
      (others.filter fun call => call.2.about key) = (calls.filter fun call => call.2.about key) →
      ∀ now, run.clock ≤ now → (after rule start others).clock ≤ now →
        ((after rule start others).limiter.allow now key).1 = (run.limiter.allow now key).1 ∧
        ((after rule start others).limiter.remaining now key).1 =
          (run.limiter.remaining now key).1) ∧
    (∀ now, run.clock ≤ now → ∀ count : Nat,
      ((((run.take (now, .remaining key)).pressed now key count).limiter.allow now key).1.1 = true ↔
        (count : Int) < (run.limiter.remaining now key).1)) ∧
    (∀ now wait, run.clock ≤ now → (run.limiter.allow now key).1 = (false, wait) →
      ∀ meanwhile, Every take InTime (run.take (now, .allow key)) meanwhile →
        (∀ call ∈ meanwhile, call.2.about key = false) →
        let waited := lastState take (run.take (now, .allow key)) meanwhile
        waited.clock ≤ now + wait → (waited.limiter.allow (now + wait) key).1.1 = true) := by
  have from_opened : ∀ others, Every take InTime (opened rule start) others → _ := fun _ inTime =>
    Sound.successes_from enabled key (Sound.opened rule start) inTime
  obtain ⟨sound, own⟩ := from_opened calls inTime
  have positive : 0 < rule.requests := (of_decide_eq_true enabled).1
  refine ⟨fun now later => ?_, fun first => ?_, fun others inTime' same now later later' => ?_,
    fun now later count => sound.pressed_allow enabled later count,
    fun now wait later refused meanwhile inTime' foreign waited =>
      sound.waited_allow enabled later refused inTime' foreign waited⟩
  · rw [after, sound.decides enabled later, judge_fst]
    rfl
  · have bounded := sound.bounded key first
    rw [after]
    omega
  obtain ⟨sound', own'⟩ := from_opened others inTime'
  rw [same, ← own] at own'
  rw [after, after, sound.decides enabled later, sound'.decides enabled later', own',
    sound.remaining_eq enabled later, sound'.remaining_eq enabled later', own']
  exact ⟨rfl, rfl⟩

theorem third_request_waits :
    let rule : Rule := ⟨2, 10 * second, by decide⟩
    let calls : List (Int × LimiterCall) := [(0, .allow "203.0.113.7"),
      (4 * second, .allow "203.0.113.7"),
      (5 * second, .allow "198.51.100.9"), (6 * second, .cleanup)]
    Every take InTime (opened rule 0) calls ∧
    ((after rule 0 calls).limiter.allow (7 * second) "203.0.113.7").1 = (false, 3 * second) ∧
    ((after rule 0 calls).limiter.remaining (7 * second) "203.0.113.7").1 = 0 ∧
    ((after rule 0 (calls ++ [(7 * second, .allow "203.0.113.7")])).limiter.allow
      (7 * second + 3 * second) "203.0.113.7").1.1 = true := by
  intro rule calls
  have inTime : Every take InTime (opened rule 0) calls := by decide +kernel
  have window := limiter_sliding_window rule (by decide) 0 calls inTime "203.0.113.7"
  have refused : ((after rule 0 calls).limiter.allow (7 * second) "203.0.113.7").1 =
      (false, 3 * second) := by decide +kernel
  refine ⟨inTime, refused, by decide +kernel, ?_⟩
  have waited := window.2.2.2.2 (7 * second) (3 * second) (by decide +kernel) refused [] trivial
    (by simp) (by decide +kernel)
  rw [after_concat]
  rwa [lastState] at waited

end Cashp.Guard
