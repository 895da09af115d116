import Cashp.Guard.DenyCore
import Cashp.Kit.Assoc
import Cashp.Kit.Duration
import Cashp.Kit.Run

/-!
Lockout after repeated failures (`quota.go`). An end of the lockout at the zero time is not set.
Failures are counted in windows that do not overlap; one after the window replaces the whole entry,
with its lockout.
-/

namespace Cashp.Guard

open Kit Duration

structure LockoutPolicy where
  threshold : Int
  window : Int
  duration : Int
  baseBackoff : Int
  maxBackoff : Int

def defaultLockoutPolicy : LockoutPolicy where
  threshold := 10
  window := 15 * minute
  duration := 15 * minute
  baseBackoff := 250 * 10 ^ 6
  maxBackoff := 8 * second

structure LockoutEntry where
  failures : Int := 0
  first : Int
  last : Int
  lockedUntil : Option Int := none
  deriving DecidableEq

structure Lockout where
  policy : LockoutPolicy
  entries : AList fun _ : String => LockoutEntry

def newLockout (policy : LockoutPolicy) : Lockout := ⟨policy, ∅⟩

namespace LockoutPolicy

def elapsed (policy : LockoutPolicy) (now : Int) (entry : LockoutEntry) : Bool :=
  decide (0 < policy.window ∧ policy.window < between entry.first now)

def count (policy : LockoutPolicy) (now : Int) (entry : LockoutEntry) : LockoutEntry :=
  { entry with
    failures := entry.failures + 1
    last := now
    lockedUntil :=
      if 0 < policy.threshold ∧ policy.threshold ≤ entry.failures + 1 ∧ 0 < policy.duration then
        some (now + policy.duration)
      else entry.lockedUntil }

def doubled (policy : LockoutPolicy) : Nat → Int → Int
  | 0, backoff => backoff
  | rounds + 1, backoff =>
    if 0 < policy.maxBackoff ∧ policy.maxBackoff ≤ backoff then backoff
    else policy.doubled rounds (wrap (backoff * 2))

def backoff (policy : LockoutPolicy) (failures : Int) : Int :=
  if policy.baseBackoff ≤ 0 then 0
  else
    let backoff := policy.doubled (failures - 1).toNat policy.baseBackoff
    if 0 < policy.maxBackoff ∧ policy.maxBackoff < backoff then policy.maxBackoff else backoff

end LockoutPolicy

namespace Lockout

def check (lockout : Lockout) (now : Int) (key : String) : Verdict :=
  if key = "" then
    deny .subjectInvalid "lockout check has no key"
  else
    match lockout.entries.lookup key with
    | none => .ok ()
    | some entry =>
      denyWhen (entry.lockedUntil.any fun ending => now < ending) .lockedOut
        ("key " ++ key ++ " is locked out")

def entryFor (lockout : Lockout) (now : Int) (key : String) : LockoutEntry :=
  match lockout.entries.lookup key with
  | none => { first := now, last := now }
  | some entry =>
    if lockout.policy.elapsed now entry then { first := now, last := now } else entry

def fail (lockout : Lockout) (now : Int) (key : String) : Int × Lockout :=
  if key = "" then
    (0, lockout)
  else
    let entry := lockout.policy.count now (lockout.entryFor now key)
    (lockout.policy.backoff entry.failures,
      { lockout with entries := lockout.entries.insert key entry })

def failures (lockout : Lockout) (key : String) : Int :=
  match lockout.entries.lookup key with
  | none => 0
  | some entry => entry.failures

def succeed (lockout : Lockout) (key : String) : Lockout :=
  { lockout with entries := lockout.entries.erase key }

def cleanup (lockout : Lockout) (now : Int) : Lockout :=
  { lockout with
    entries := retain (fun _ entry => (entry.lockedUntil.any fun ending => now < ending) ||
      decide (0 < lockout.policy.window ∧ between entry.last now ≤ lockout.policy.window))
      lockout.entries }

end Lockout

inductive LockoutCall
  | check (key : String)
  | fail (key : String)
  | succeed (key : String)
  | cleanup
  deriving DecidableEq

structure LockoutRun where
  lockout : Lockout
  clock : Int

def Lockout.counting (lockout : Lockout) (now : Int) (key : String) : Bool :=
  decide (key = "") ||
    (lockout.entries.lookup key).any fun entry => !lockout.policy.elapsed now entry

namespace LockoutRun

def opened (policy : LockoutPolicy) (start : Int) : LockoutRun := ⟨newLockout policy, start⟩

def take (call : Int × LockoutCall) (run : LockoutRun) : LockoutRun :=
  ⟨match call.2 with
    | .check _ => run.lockout
    | .fail key => (run.lockout.fail call.1 key).2
    | .succeed key => run.lockout.succeed key
    | .cleanup => run.lockout.cleanup call.1,
    call.1⟩

def InTime (call : Int × LockoutCall) (run : LockoutRun) : Prop := run.clock ≤ call.1

def entry (run : LockoutRun) (key : String) : Option LockoutEntry := run.lockout.entries.lookup key

def Denies (key : String) (ending : Int) (run : LockoutRun) : Prop :=
  ∀ now, run.clock ≤ now → now < ending → (run.lockout.check now key).allowed = false

def FailsInWindow (key : String) (ending : Int) (call : Int × LockoutCall) (run : LockoutRun) :
    Prop :=
  call.2 = .fail key → call.1 < ending →
    run.lockout.policy.threshold = 1 ∨ run.lockout.counting call.1 key = true

variable {run : LockoutRun} {key : String} {now ending : Int} {policy : LockoutPolicy}

theorem policy_take (call : Int × LockoutCall) (run : LockoutRun) :
    (run.take call).lockout.policy = run.lockout.policy := by
  obtain ⟨now, call⟩ := call
  cases call with
  | check | succeed | cleanup => rfl
  | fail other =>
    change (run.lockout.fail now other).2.policy = _
    unfold Lockout.fail
    split
    · rfl
    · rfl

theorem entry_fail (run : LockoutRun) (now : Int) (named : key ≠ "") :
    (run.take (now, .fail key)).entry key =
      some (run.lockout.policy.count now (run.lockout.entryFor now key)) := by
  change (run.lockout.fail now key).2.entries.lookup key = _
  rw [Lockout.fail, if_neg named, lookup_insert, if_pos rfl]

theorem entry_counted (named : key ≠ "") (counting : run.lockout.counting now key = true) :
    ∃ entry, run.entry key = some entry ∧
      (run.take (now, .fail key)).entry key = some (run.lockout.policy.count now entry) := by
  simp only [Lockout.counting, named, decide_false, Bool.false_or, Option.any_eq_true,
    Bool.not_eq_true'] at counting
  obtain ⟨entry, found, inside⟩ := counting
  refine ⟨entry, found, ?_⟩
  rw [entry_fail run now named, Lockout.entryFor, found]
  simp [inside]

theorem entry_fresh (uncounted : run.lockout.counting now key = false) :
    (run.take (now, .fail key)).entry key =
      some (run.lockout.policy.count now { first := now, last := now }) := by
  rw [Lockout.counting, Bool.or_eq_false_iff, decide_eq_false_iff_not] at uncounted
  rw [entry_fail run now uncounted.1, Lockout.entryFor]
  grind

theorem lockedUntil_count (now : Int) (entry : LockoutEntry)
    (positive : 0 < policy.threshold) (lasting : 0 < policy.duration) :
    (policy.count now entry).lockedUntil =
      if policy.threshold ≤ entry.failures + 1 then some (now + policy.duration)
      else entry.lockedUntil := by
  simp [LockoutPolicy.count, positive, lasting]

theorem entry_other (call : LockoutCall) (foreign : call ≠ .fail key)
    (unpardoned : call ≠ .succeed key) :
    (run.take (now, call)).entry key = run.entry key ∨
      call = .cleanup ∧ (run.take (now, call)).entry key = (run.entry key).filter fun entry =>
        (entry.lockedUntil.any fun ending => now < ending) ||
          decide (0 < run.lockout.policy.window ∧
            between entry.last now ≤ run.lockout.policy.window) := by
  cases call with
  | check => exact .inl rfl
  | cleanup => exact .inr ⟨rfl, lookup_retain _ _⟩
  | succeed other =>
    have apart : key ≠ other := fun same => unpardoned (same ▸ rfl)
    refine .inl ?_
    change (run.lockout.succeed other).entries.lookup key = _
    rw [Lockout.succeed, lookup_erase, if_neg apart]
    rfl
  | fail other =>
    have apart : key ≠ other := fun same => foreign (same ▸ rfl)
    refine .inl ?_
    change (run.lockout.fail now other).2.entries.lookup key = _
    unfold Lockout.fail
    split
    · rfl
    · rw [lookup_insert, if_neg apart]
      rfl

def Locked (key : String) (ending : Int) (run : LockoutRun) : Prop :=
  run.clock < ending → key = "" ∨ ∃ entry locked,
    run.entry key = some entry ∧ entry.lockedUntil = some locked ∧ ending ≤ locked

theorem check_denied_iff : (run.lockout.check now key).allowed = false ↔
    key = "" ∨ ∃ entry locked, run.entry key = some entry ∧ entry.lockedUntil = some locked ∧
      now < locked := by
  rw [Lockout.check, entry]
  by_cases unnamed : key = ""
  · simp [unnamed, deny, Verdict.allowed]
  rw [if_neg unnamed]
  cases run.lockout.entries.lookup key with
  | none => simp [unnamed, Verdict.allowed]
  | some entry =>
    cases locked : entry.lockedUntil with
    | none => simp [unnamed, locked, denyWhen, Verdict.allowed]
    | some locked' =>
      by_cases still : now < locked'
      · simp [unnamed, locked, still, denyWhen, deny, Verdict.allowed]
      · simp [unnamed, locked, still, denyWhen, Verdict.allowed]

theorem denies_iff_locked : Denies key ending run ↔ Locked key ending run := by
  constructor
  · intro denies early
    -- The last moment before the ending tells how long the lockout goes on.
    rcases check_denied_iff.mp (denies (ending - 1) (by omega) (by omega)) with
      unnamed | ⟨entry, locked, found, until', long⟩
    · exact .inl unnamed
    · exact .inr ⟨entry, locked, found, until', by omega⟩
  · intro locked now later early
    refine check_denied_iff.mpr ?_
    grind [LockoutRun.Locked]

theorem locked_take_iff (call : Int × LockoutCall) (positive : 0 < run.lockout.policy.threshold)
    (lasting : 0 < run.lockout.policy.duration)
    (reach : ending ≤ run.clock + run.lockout.policy.duration) (locked : Locked key ending run)
    (later : run.clock ≤ call.1) (unpardoned : call.2 ≠ .succeed key) :
    Locked key ending (run.take call) ↔ FailsInWindow key ending call run := by
  obtain ⟨now, call⟩ := call
  by_cases own : call = .fail key
  · subst own
    by_cases early : now < ending
    · by_cases unnamed : key = ""
      · exact iff_of_true (fun _ => .inl unnamed)
          fun _ _ => .inr (by simp [Lockout.counting, unnamed])
      obtain ⟨entry, locked, found, until', long⟩ :=
        (locked (Int.lt_of_le_of_lt later early)).resolve_left unnamed
      cases counted : run.lockout.counting now key with
      | true =>
        refine iff_of_true (fun _ => .inr ?_) fun _ _ => .inr counted
        obtain ⟨entry', found', after⟩ := entry_counted unnamed counted
        rw [found, Option.some.injEq] at found'
        subst found'
        have until'' := lockedUntil_count now entry positive lasting
        grind
      | false =>
        have after := entry_fresh counted
        have until'' := lockedUntil_count now { first := now, last := now } positive
          lasting
        by_cases single : run.lockout.policy.threshold = 1
        · refine iff_of_true (fun _ => .inr ?_) fun _ _ => .inl single
          grind
        · refine iff_of_false (fun still => ?_) fun inWindow => ?_
          · obtain ⟨entry', locked', found', locked'', -⟩ := (still early).resolve_left unnamed
            grind
          · rcases inWindow rfl early with one | inside
            · exact single one
            · exact absurd (inside.symm.trans counted) (by decide)
    · exact iff_of_true (fun before => absurd before early) fun _ before => absurd before early
  · refine iff_of_true (fun early => ?_) fun same => absurd same own
    rcases locked (Int.lt_of_le_of_lt later early) with
      unnamed | ⟨entry, locked, found, until', long⟩
    · exact .inl unnamed
    refine .inr ⟨entry, locked, ?_, until', long⟩
    rcases entry_other call own unpardoned with same | ⟨-, swept⟩
    · rw [same, found]
    rw [swept, found, Option.filter_some, if_pos]
    have still : now < locked := Int.lt_of_lt_of_le early long
    simp [until', still]

def Regular (policy : LockoutPolicy) (key : String) (run : LockoutRun) : Prop :=
  run.lockout.policy = policy ∧ ∀ entry, run.entry key = some entry →
    1 ≤ entry.failures ∧ (entry.failures < policy.threshold → entry.lockedUntil = none)

theorem Regular.count {entry : LockoutEntry} (now : Int) (counted : 0 ≤ entry.failures)
    (unset : entry.failures < policy.threshold → entry.lockedUntil = none) :
    1 ≤ (policy.count now entry).failures ∧ ((policy.count now entry).failures < policy.threshold →
      (policy.count now entry).lockedUntil = none) := by
  grind [LockoutPolicy.count]

theorem Regular.take (call : Int × LockoutCall) (run : LockoutRun)
    (regular : Regular policy key run) : Regular policy key (run.take call) := by
  obtain ⟨rfl, regular⟩ := regular
  refine ⟨policy_take call run, ?_⟩
  obtain ⟨now, call⟩ := call
  by_cases own : call = .fail key
  · subst own
    intro entry' found'
    by_cases unnamed : key = ""
    · refine regular entry' (found' ▸ ?_)
      rw [entry, LockoutRun.take]
      simp [Lockout.fail, unnamed, entry]
    cases counted : run.lockout.counting now key with
    | true =>
      obtain ⟨entry, found, after⟩ := entry_counted unnamed counted
      obtain ⟨some', unset⟩ := regular entry found
      rw [after, Option.some.injEq] at found'
      exact found' ▸ Regular.count now (by omega) unset
    | false =>
      rw [entry_fresh counted, Option.some.injEq] at found'
      exact found' ▸ Regular.count now (Int.le_refl 0) fun _ => rfl
  · by_cases pardoned : call = .succeed key
    · subst pardoned
      intro entry found
      have gone : (run.take (now, .succeed key)).entry key = none := AList.lookup_erase _ _
      rw [gone] at found
      cases found
    · intro entry found
      rcases entry_other call own pardoned with same | ⟨-, swept⟩
      · exact regular entry (same ▸ found)
      · rw [swept, Option.filter_eq_some_iff] at found
        exact regular entry found.1

def Continues (key : String) (call : Int × LockoutCall) (run : LockoutRun) : Prop :=
  call.2 = .fail key → run.lockout.counting call.1 key = true

def failsOf (key : String) (calls : List (Int × LockoutCall)) : Nat :=
  calls.countP fun call => decide (call.2 = .fail key)

theorem failsOf_cons (key : String) (call : Int × LockoutCall) (rest : List (Int × LockoutCall)) :
    failsOf key (call :: rest) = failsOf key rest + if call.2 = .fail key then 1 else 0 := by
  simp [failsOf, List.countP_cons]

theorem failures_eq (run : LockoutRun) (key : String) :
    run.lockout.failures key = ((run.entry key).map LockoutEntry.failures).getD 0 := by
  rw [Lockout.failures, entry]
  cases run.lockout.entries.lookup key with
  | none | some => rfl

variable {policy : LockoutPolicy} {calls : List (Int × LockoutCall)}

theorem Regular.failures_nonneg (regular : Regular policy key run) :
    0 ≤ run.lockout.failures key := by
  rw [failures_eq]
  cases found : run.entry key with
  | none => exact Int.le_refl 0
  | some entry => exact Int.le_trans (by decide) (regular.2 entry found).1

theorem Regular.failures_fail (regular : Regular policy key run) (now : Int) (named : key ≠ "") :
    1 ≤ (run.take (now, .fail key)).lockout.failures key := by
  have present := entry_fail run now named
  rw [failures_eq, present]
  exact ((regular.take (now, .fail key) run).2 _ present).1

theorem failures_counted (named : key ≠ "") (counting : run.lockout.counting now key = true) :
    (run.take (now, .fail key)).lockout.failures key = run.lockout.failures key + 1 := by
  obtain ⟨entry, found, after⟩ := entry_counted named counting
  rw [failures_eq, failures_eq, after, found]
  rfl

theorem failures_fresh (uncounted : run.lockout.counting now key = false) :
    (run.take (now, .fail key)).lockout.failures key = 1 := by
  rw [failures_eq, entry_fresh uncounted]
  rfl

theorem entry_stays_or_goes (call : Int × LockoutCall) (foreign : call.2 ≠ .fail key)
    (unpardoned : call.2 ≠ .succeed key) :
    (run.take call).entry key = run.entry key ∨ (run.take call).entry key = none := by
  rcases entry_other call.2 foreign unpardoned with same | ⟨-, swept⟩
  · exact .inl same
  cases found : run.entry key with
  | none => exact .inr (by rw [swept, found]; rfl)
  | some =>
    grind

theorem failures_le (named : key ≠ "") (regular : Regular policy key run)
    (unpardoned : ∀ call ∈ calls, call.2 ≠ .succeed key) :
    (lastState take run calls).lockout.failures key ≤
      run.lockout.failures key + failsOf key calls := by
  induction calls generalizing run with
  | nil => simp [lastState, failsOf]
  | cons call rest ih =>
    have later := ih (regular.take call run) fun other member =>
      unpardoned other (List.mem_cons_of_mem _ member)
    have here := regular.failures_nonneg
    rw [lastState, failsOf_cons]
    by_cases own : call.2 = .fail key
    · obtain ⟨now, _⟩ := call
      cases own
      rw [if_pos rfl]
      cases counted : run.lockout.counting now key with
      | true =>
        rw [failures_counted named counted] at later
        omega
      | false =>
        rw [failures_fresh counted] at later
        omega
    · rw [if_neg own]
      rcases entry_stays_or_goes call own (unpardoned call List.mem_cons_self) with same | gone
      · rw [failures_eq (run.take call), same, ← failures_eq] at later
        omega
      rw [failures_eq (run.take call), gone] at later
      simp only [Option.map_none, Option.getD_none] at later
      omega

theorem failures_restarted (named : key ≠ "") (regular : Regular policy key run)
    (unpardoned : ∀ call ∈ calls, call.2 ≠ .succeed key)
    (restarted : ¬ Every take (Continues key) run calls) :
    (lastState take run calls).lockout.failures key ≤ failsOf key calls := by
  induction calls generalizing run with
  | nil => exact absurd trivial restarted
  | cons call rest ih =>
    have spared : ∀ call ∈ rest, call.2 ≠ .succeed key := fun other member =>
      unpardoned other (List.mem_cons_of_mem _ member)
    rw [lastState, failsOf_cons]
    by_cases goesOn : Continues key call run
    · have later := ih (regular.take call run) spared fun every => restarted ⟨goesOn, every⟩
      omega
    rw [Continues, Classical.not_imp, Bool.not_eq_true] at goesOn
    obtain ⟨own, uncounted⟩ := goesOn
    obtain ⟨now, _⟩ := call
    cases own
    have later := failures_le named (regular.take (now, .fail key) run) spared
    rw [failures_fresh uncounted] at later
    rw [if_pos rfl]
    omega

theorem entry_stays_away (named : key ≠ "") (unpardoned : ∀ call ∈ calls, call.2 ≠ .succeed key)
    (continued : Every take (Continues key) run calls) (gone : run.entry key = none) :
    (lastState take run calls).entry key = none := by
  induction calls generalizing run with
  | nil => exact gone
  | cons call rest ih =>
    have spared : ∀ call ∈ rest, call.2 ≠ .succeed key := fun other member =>
      unpardoned other (List.mem_cons_of_mem _ member)
    refine ih spared continued.2 ?_
    by_cases own : call.2 = .fail key
    · have counting := continued.1 own
      have absent : run.lockout.entries.lookup key = none := gone
      simp [Lockout.counting, named, absent] at counting
    rcases entry_stays_or_goes call own (unpardoned call List.mem_cons_self) with same | away
    · exact same.trans gone
    · exact away

theorem failures_continued (named : key ≠ "") (unpardoned : ∀ call ∈ calls, call.2 ≠ .succeed key)
    (continued : Every take (Continues key) run calls) :
    (lastState take run calls).entry key = none ∨ (lastState take run calls).lockout.failures key =
        run.lockout.failures key + failsOf key calls := by
  induction calls generalizing run with
  | nil => exact .inr (by simp [lastState, failsOf])
  | cons call rest ih =>
    have spared : ∀ call ∈ rest, call.2 ≠ .succeed key := fun other member =>
      unpardoned other (List.mem_cons_of_mem _ member)
    have later := ih spared continued.2
    rw [lastState, failsOf_cons]
    by_cases own : call.2 = .fail key
    · obtain ⟨now, _⟩ := call
      cases own
      rw [failures_counted named (continued.1 rfl)] at later
      rw [if_pos rfl]
      exact later.imp_right fun total => by omega
    · rw [if_neg own]
      rcases entry_stays_or_goes call own (unpardoned call List.mem_cons_self) with same | gone
      · rw [failures_eq (run.take call), same, ← failures_eq] at later
        exact later.imp_right fun total => by omega
      · exact .inl (entry_stays_away named spared continued.2 gone)

theorem Regular.denied_iff (regular : Regular policy key run) (now : Int) (named : key ≠ "")
    (positive : 0 < policy.threshold) (lasting : 0 < policy.duration) :
    ((run.take (now, .fail key)).lockout.check now key).allowed = false ↔
      policy.threshold ≤ (run.take (now, .fail key)).lockout.failures key := by
  have after := (regular.take (now, .fail key) run).2 _ (entry_fail run now named)
  obtain ⟨rfl, -⟩ := regular
  rw [check_denied_iff, failures_eq, entry_fail run now named]
  grind [LockoutPolicy.count]

end LockoutRun

open LockoutRun

/-- After a failure that has locked the key, all checks up to the end of the lockout are denied
just when every further failure until then falls into the counting window, or one failure is
enough to lock. -/
theorem lockout_stays_iff (before : Lockout) (key : String) (start : Int)
    (calls : List (Int × LockoutCall)) (positive : 0 < before.policy.threshold)
    (lasting : 0 < before.policy.duration)
    (locks : ∃ entry, (take (start, .fail key) ⟨before, start⟩).entry key = some entry ∧
      entry.lockedUntil = some (start + before.policy.duration))
    (inTime : Every take InTime (take (start, .fail key) ⟨before, start⟩) calls)
    (unpardoned : ∀ call ∈ calls, call.2 ≠ .succeed key) :
    let run := take (start, .fail key) ⟨before, start⟩
    let ending := start + before.policy.duration
    (Denies key ending run ∧
      Every take (fun call run => Denies key ending (run.take call)) run calls) ↔
      Every take (FailsInWindow key ending) run calls := by
  intro run ending
  obtain ⟨entry, found, until'⟩ := locks
  have locked : Locked key ending run := fun _ => .inr ⟨entry, ending, found, until', Int.le_refl _⟩
  have policy : run.lockout.policy = before.policy := policy_take _ _
  rw [and_iff_right (denies_iff_locked.mpr locked)]
  let fits (call : Int × LockoutCall) (run : LockoutRun) : Prop :=
    InTime call run ∧ call.2 ≠ .succeed key
  have fine : Every take fits run calls := inTime.and (every_of_forall unpardoned)
  refine every_iff_of_kept (fun run => run.lockout.policy = before.policy ∧
    start ≤ run.clock ∧ Locked key ending run) ⟨policy, Int.le_refl _, locked⟩ fine ?_ ?_
  · intro call run ⟨policy, later, locked⟩ ⟨onTime, spared⟩
    rw [denies_iff_locked]
    exact locked_take_iff call (policy ▸ positive) (policy ▸ lasting)
      (by rw [policy]; omega) locked onTime spared
  · intro call run ⟨policy, later, locked⟩ ⟨onTime, spared⟩ inWindow
    refine ⟨(policy_take call run).trans policy, Int.le_trans later onTime, ?_⟩
    exact (locked_take_iff call (policy ▸ positive) (policy ▸ lasting)
      (by rw [policy]; omega) locked onTime spared).mpr inWindow

theorem early_failure_keeps_lockout :
    let policy : LockoutPolicy := ⟨2, 10, 10, 0, 0⟩
    let run := take (8, .fail "root") ((opened policy 0).take (0, .fail "root"))
    let calls := [(9, .fail "root"), (10, .check "root"), (12, .cleanup)]
    Every take (FailsInWindow "root" 18) run calls ∧
      Denies "root" 18 (lastState take run calls) := by
  intro policy run calls
  have inWindow : Every take (FailsInWindow "root" 18) run calls :=
    ⟨fun _ _ => .inr (by decide +kernel), nofun, nofun, trivial⟩
  have stays := lockout_stays_iff ((opened policy 0).take (0, .fail "root")).lockout "root" 8 calls
    (by decide) (by decide) ⟨⟨2, 0, 8, some 18⟩, by decide +kernel, rfl⟩
    ⟨show (8 : Int) ≤ 9 by decide, show (9 : Int) ≤ 10 by decide, show (10 : Int) ≤ 12 by decide,
      trivial⟩ (by decide)
  exact ⟨inWindow, (stays.mpr inWindow).2.2.2.1⟩

/-- By the default policy, a key locked until minute 29 is let in again a second after minute 15,
because it failed once more. -/
theorem failure_lifts_lockout :
    let early := (0, .fail "root") :: List.replicate 9 (14 * minute, .fail "root")
    let locked := lastState take (opened defaultLockoutPolicy 0) early
    let later := locked.take (15 * minute + second, .fail "root")
    (locked.entry "root").map LockoutEntry.lockedUntil = some (some (29 * minute)) ∧
      (locked.lockout.check (15 * minute + second) "root").allowed = false ∧
      (later.lockout.check (15 * minute + second) "root").allowed = true := by
  decide +kernel

/-- A stretch of calls from a failure of the key to another that holds as many of its failures as
make the threshold, within the window. -/
structure Burst (policy : LockoutPolicy) (key : String) (first last : Int)
    (rest : List (Int × LockoutCall)) : Prop where
  ends : ((first, .fail key) :: rest).getLast? = some (last, .fail key)
  enough : failsOf key rest + 1 = policy.threshold
  short : last - first ≤ policy.window
  unpardoned : ∀ call ∈ rest, call.2 ≠ .succeed key

/-- Whether the last failure of a burst locks the key depends on where the counting windows lie:
none may end within the burst. -/
theorem burst_locks_iff (policy : LockoutPolicy) (lasting : 0 < policy.duration) (key : String)
    (start : Int) (earlier : List (Int × LockoutCall)) (first last : Int)
    (rest : List (Int × LockoutCall)) (burst : Burst policy key first last rest) :
    ((lastState take (opened policy start) (earlier ++ (first, .fail key) :: rest)).lockout.check
      last key).allowed = false ↔ Every take (Continues key)
      (lastState take (opened policy start) (earlier ++ [(first, .fail key)])) rest := by
  by_cases unnamed : key = ""
  · refine iff_of_true (by rw [Lockout.check, if_pos unnamed]; rfl) ?_
    exact every_of_kept (fun _ => True) trivial fun call run _ =>
      ⟨fun _ => by simp [Lockout.counting, unnamed], trivial⟩
  have enough := burst.enough
  have positive : 0 < policy.threshold := by omega
  have anyway : ∀ calls, Regular policy key (lastState take (opened policy start) calls) :=
    fun calls => lastState_of_kept (Regular policy key) ⟨rfl, nofun⟩ Regular.take
  obtain ⟨middle, whole⟩ := List.getLast?_eq_some_iff.mp burst.ends
  have denied := (anyway (earlier ++ middle)).denied_iff last unnamed positive lasting
  have ended : lastState take (opened policy start) (earlier ++ (first, .fail key) :: rest) =
      take (last, .fail key) (lastState take (opened policy start) (earlier ++ middle)) := by
    rw [whole, ← List.append_assoc, lastState_append]
    rfl
  have begun : lastState take (opened policy start) (earlier ++ (first, .fail key) :: rest) =
      lastState take (lastState take (opened policy start) (earlier ++ [(first, .fail key)]))
        rest := by
    rw [← lastState_append, List.append_assoc]
    rfl
  have one : 1 ≤ (lastState take (opened policy start)
      (earlier ++ [(first, .fail key)])).lockout.failures key := by
    rw [lastState_append]
    exact (anyway earlier).failures_fail first unnamed
  rw [ended, denied, ← ended, begun]
  constructor
  · intro locked
    by_contra restarted
    have few := failures_restarted unnamed (anyway _) burst.unpardoned restarted
    omega
  · intro continued
    rcases failures_continued unnamed burst.unpardoned continued with gone | total
    · rw [← begun, ended, entry_fail _ last unnamed] at gone
      cases gone
    · omega

theorem opening_burst_locks :
    let policy : LockoutPolicy := ⟨2, 10, 10, 0, 0⟩
    ((lastState take (opened policy 0) [(3, .fail "root"), (4, .fail "other"),
      (13, .fail "root")]).lockout.check 13 "root").allowed = false := by
  intro policy
  have burst : Burst policy "root" 3 13 [(4, .fail "other"), (13, .fail "root")] :=
    ⟨rfl, by decide +kernel, by decide, by decide⟩
  exact (burst_locks_iff policy (by decide) "root" 0 [] 3 13 _ burst).mpr
    ⟨nofun, fun _ => by decide +kernel, trivial⟩

/-- Seventeen failures within two minutes do not lock a key under the default policy, because a
counting window ends among them. -/
theorem split_burst_unlocked :
    let earlier := (0, .fail "root") :: List.replicate 7 (14 * minute, .fail "root")
    let rest := List.replicate 9 (16 * minute, .fail "root")
    Burst defaultLockoutPolicy "root" (14 * minute) (16 * minute) rest ∧
      ((lastState take (opened defaultLockoutPolicy 0)
        (earlier ++ (14 * minute, .fail "root") :: rest)).lockout.check (16 * minute)
          "root").allowed = true :=
  ⟨⟨rfl, by decide +kernel, by decide +kernel, by decide +kernel⟩, by decide +kernel⟩

end Cashp.Guard
