import Mathlib.Data.Int.Order.Basic
import Cashp.Cluster.StoreCore
import Cashp.Kit.Run
import Cashp.Kit.Table

/-!
Distributed locks are leases. The table knows their ends in whole seconds and the holders exactly,
so in its last second a lease can be over for the one and not for the other.
-/

namespace Cashp.Cluster

open Kit Duration

structure Holding where
  lock : Lock
  since : Int
  released : Bool
deriving DecidableEq

def Holding.Covers (holding : Holding) (instant : Int) : Prop :=
  holding.released = false ∧ holding.since ≤ instant ∧ instant < holding.lock.expiresAt

def Holding.extended (expiresAt time : Int) (holding : Holding) : Holding :=
  ⟨{ holding.lock with expiresAt := expiresAt }, time, holding.released⟩

def Holding.givenBack (holding : Holding) : Holding := { holding with released := true }

inductive LockStep
  | pass (time : Int)
  | acquire (name owner : String) (ttl now : Int)
  | refresh (token : String) (ttl now : Int)
  | release (token : String)

structure LockRun where
  locks : Locks
  clock : Int
  holdings : List Holding
  drawn : List String

namespace LockRun

def opened (start : Int) : LockRun := ⟨.empty, start, [], []⟩

def holding (run : LockRun) (token : String) : Option Holding :=
  run.holdings.find? fun holding => holding.lock.token == token

def revised (run : LockRun) (token : String) (change : Holding → Holding) : List Holding :=
  run.holdings.map fun holding => if holding.lock.token = token then change holding else holding

def take (supply : Supply) (step : LockStep) (run : LockRun) : LockRun :=
  match step with
  | .pass time => { run with clock := time }
  | .acquire name owner ttl now =>
    let token := supply.next run.drawn
    match acquireLock run.locks name owner ttl token now with
    | (.ok lock, locks) =>
      ⟨locks, run.clock, run.holdings ++ [⟨lock, run.clock, false⟩], token :: run.drawn⟩
    | (.error _, locks) => { run with locks := locks, drawn := token :: run.drawn }
  | .refresh token ttl now =>
    match run.holding token with
    | none => run
    | some holding =>
      match holding.lock.refresh run.locks ttl now with
      | (.ok lock, locks) =>
        { run with
          locks := locks
          holdings := run.revised token (Holding.extended lock.expiresAt run.clock) }
      | (.error _, locks) => { run with locks := locks }
  | .release token =>
    match run.holding token with
    | none => run
    | some holding =>
      { run with
        locks := holding.lock.release run.locks
        holdings := run.revised token Holding.givenBack }

/-- The clock does not go back, and nobody has read it ahead of time. -/
def InTime (step : LockStep) (run : LockRun) : Prop :=
  match step with
  | .pass time => run.clock ≤ time
  | .acquire _ _ _ now => now ≤ run.clock
  | .refresh _ _ now => now ≤ run.clock
  | .release _ => True

instance (step : LockStep) (run : LockRun) : Decidable (InTime step run) :=
  match step with
  | .pass time => inferInstanceAs (Decidable (run.clock ≤ time))
  | .acquire _ _ _ now => inferInstanceAs (Decidable (now ≤ run.clock))
  | .refresh _ _ now => inferInstanceAs (Decidable (now ≤ run.clock))
  | .release _ => isTrue trivial

/-- No lock is taken over in the second its lease ends in, unless it ends with the second. -/
def Settled (step : LockStep) (run : LockRun) : Prop :=
  match step with
  | .acquire name _ _ now =>
    ∀ row ∈ run.locks.rows, row.name = name → row.expiresAt = now / second →
      ∀ holding ∈ run.holdings, holding.lock.token = row.token →
        holding.lock.expiresAt % second = 0
  | _ => True

instance (step : LockStep) (run : LockRun) : Decidable (Settled step run) :=
  match step with
  | .acquire name _ _ now => inferInstanceAs (Decidable (∀ row ∈ run.locks.rows, row.name = name →
      row.expiresAt = now / second → ∀ holding ∈ run.holdings, holding.lock.token = row.token →
        holding.lock.expiresAt % second = 0))
  | .pass _ => isTrue trivial
  | .refresh .. => isTrue trivial
  | .release _ => isTrue trivial

def SparesOthers (supply : Supply) (step : LockStep) (run : LockRun) : Prop :=
  match step with
  | .refresh token _ _ | .release token =>
    ∀ row ∈ run.locks.rows, row.token ≠ token → row ∈ (take supply step run).locks.rows
  | _ => True

def Apart (run : LockRun) : Prop :=
  run.holdings.Pairwise fun first other => first.lock.name = other.lock.name →
    ∀ instant, ¬ (first.Covers instant ∧ other.Covers instant)

end LockRun

variable {row : LockRow}

section

variable {locks after : Locks} {name owner token : String} {ttl now : Int} {lock new : Lock}
variable {error : ClusterError} {matching : LockRow → Bool} {expiresAt : Int}

theorem acquireLock_ok (acquired : acquireLock locks name owner ttl token now = (.ok new, after)) :
    new.name = name ∧ new.token = token ∧
      after.rows = (locks.delete fun row =>
        row.name == name && decide (row.expiresAt ≤ now / second)).rows ++
          [⟨name, owner, token, now / second, new.expiresAt / second⟩] := by
  rw [acquireLock] at acquired
  split at acquired
  · cases acquired
  dsimp only at acquired
  split at acquired
  · rename_i grown stored
    cases acquired
    exact ⟨rfl, rfl, Table.insert_rows stored⟩
  · cases acquired

theorem acquireLock_error
    (refused : acquireLock locks name owner ttl token now = (.error error, after)) :
    after = locks := by
  rw [acquireLock] at refused
  grind

theorem refreshes_iff : lock.refreshes now row = true ↔
    (row.name = lock.name ∧ row.token = lock.token) ∧ now / second < row.expiresAt := by
  rw [Lock.refreshes, Bool.and_eq_true, Bool.and_eq_true, beq_iff_eq, beq_iff_eq,
    decide_eq_true_eq]

theorem refresh_ok (refreshed : lock.refresh locks ttl now = (.ok new, after)) :
    (∃ row ∈ locks.rows, lock.refreshes now row = true) ∧
      after = locks.setExpiry (lock.refreshes now) (new.expiresAt / second) := by
  rw [Lock.refresh] at refreshed
  split at refreshed
  · cases refreshed
  rename_i some
  cases refreshed
  refine ⟨?_, rfl⟩
  grind [Table.affected]

theorem refresh_error (refused : lock.refresh locks ttl now = (.error error, after)) :
    after = locks := by
  rw [Lock.refresh] at refused
  split at refused
  · cases refused
    rfl
  · cases refused

theorem mem_setExpiry (member : row ∈ (locks.setExpiry matching expiresAt).rows) :
    (row ∈ locks.rows ∧ matching row = false) ∨
      ∃ old ∈ locks.rows, matching old = true ∧ row = { old with expiresAt := expiresAt } := by
  obtain ⟨old, stored, rfl⟩ := Table.mem_update.mp member
  grind [Table.assignWhere]

end

namespace LockRun

variable {supply : Supply} {run : LockRun} {step : LockStep} {token : String}
variable {change : Holding → Holding} {first other : Holding} {owner : String} {ttl now : Int}
variable {lock : Lock} {locks : Locks} {holding : Holding}

theorem mem_of_holding (found : run.holding token = some holding) :
    holding ∈ run.holdings ∧ holding.lock.token = token := by
  exact ⟨List.mem_of_find?_eq_some found, by simpa using List.find?_some found⟩

theorem mem_revised (member : holding ∈ run.revised token change) :
    (holding ∈ run.holdings ∧ holding.lock.token ≠ token) ∨
      ∃ old ∈ run.holdings, old.lock.token = token ∧ holding = change old := by
  grind [LockRun.revised]

structure Sound (run : LockRun) : Prop where
  drawn : ∀ holding ∈ run.holdings, holding.lock.token ∈ run.drawn
  distinct : (run.holdings.map fun holding => holding.lock.token).Nodup
  held : ∀ row ∈ run.locks.rows, ∃ holding ∈ run.holdings, holding.lock.token = row.token ∧
    holding.released = false ∧ holding.lock.name = row.name ∧
      row.expiresAt = holding.lock.expiresAt / second

theorem Sound.opened (start : Int) : Sound (opened start) := by
  refine ⟨fun holding member => ?_, List.nodup_nil, fun row member => ?_⟩
  · exact absurd member List.not_mem_nil
  · exact absurd member List.not_mem_nil

section

variable (sound : Sound run)

include sound

theorem Sound.behind (stored : row ∈ run.locks.rows) (member : holding ∈ run.holdings)
    (own : row.token = holding.lock.token) :
    holding.released = false ∧ holding.lock.name = row.name ∧
      row.expiresAt = holding.lock.expiresAt / second := by
  obtain ⟨other, there, tokens, rest⟩ := sound.held row stored
  rwa [List.inj_on_of_nodup_map sound.distinct member there (own.symm.trans tokens.symm)]

theorem Sound.row_same {first other : LockRow} (here : first ∈ run.locks.rows)
    (there : other ∈ run.locks.rows) (tokens : first.token = other.token) : first = other := by
  obtain ⟨holding, member, own, -, name, -⟩ := sound.held first here
  have behind := sound.behind there member (tokens.symm.trans own.symm)
  exact Table.eq_of_column (List.mem_singleton.mpr rfl) here there (name.symm.trans behind.2.1)

theorem Sound.distinct_revised (token : String)
    (keeps : ∀ holding, (change holding).lock.token = holding.lock.token) :
    ((run.revised token change).map fun holding => holding.lock.token).Nodup := by
  have same : ((run.revised token change).map fun holding => holding.lock.token) =
      run.holdings.map fun holding => holding.lock.token := by
    rw [revised, List.map_map]
    refine List.map_congr_left fun holding _ => ?_
    rw [Function.comp_apply]
    split
    · exact keeps holding
    · rfl
  rw [same]
  exact sound.distinct

theorem Sound.acquires {name : String}
    (acquired : acquireLock run.locks name owner ttl (supply.next run.drawn) now =
      (.ok lock, locks)) : Sound ⟨locks, run.clock, run.holdings ++ [⟨lock, run.clock, false⟩],
      supply.next run.drawn :: run.drawn⟩ := by
  obtain ⟨named, tokened, rows⟩ := acquireLock_ok acquired
  refine ⟨fun holding member => ?_, ?_, fun row member => ?_⟩
  · rcases List.mem_append.mp member with before | new
    · exact List.mem_cons_of_mem _ (sound.drawn holding before)
    · rw [List.mem_singleton.mp new]
      exact tokened ▸ List.mem_cons_self
  · rw [List.map_append, List.nodup_append]
    refine ⟨sound.distinct, List.nodup_singleton _, fun used present other new same => ?_⟩
    obtain ⟨holding, member, rfl⟩ := List.mem_map.mp present
    rw [List.map_singleton, List.mem_singleton] at new
    refine supply.fresh run.drawn ?_
    rw [← tokened, ← new, ← same]
    exact sound.drawn holding member
  · rw [rows] at member
    rcases List.mem_append.mp member with before | new
    · obtain ⟨holding, member, rest⟩ := sound.held row (Table.mem_delete.mp before).1
      exact ⟨holding, List.mem_append_left _ member, rest⟩
    simp_all

theorem Sound.refreshes (found : run.holding token = some holding)
    (refreshed : holding.lock.refresh run.locks ttl now = (.ok lock, locks)) : Sound { run with
      locks := locks
      holdings := run.revised token (Holding.extended lock.expiresAt run.clock) } := by
  obtain ⟨member, own⟩ := mem_of_holding found
  obtain ⟨⟨hit, stored, matched⟩, rfl⟩ := refresh_ok refreshed
  have tokens := refreshes_iff.mp matched
  refine ⟨fun other there => ?_, ?_, fun row there => ?_⟩
  · rcases mem_revised there with before | ⟨old, before, -, rfl⟩
    · exact sound.drawn other before.1
    · exact sound.drawn old before
  · exact sound.distinct_revised token fun _ => rfl
  rcases mem_setExpiry there with ⟨before, missed⟩ | ⟨old, before, hit', rfl⟩
  · obtain ⟨other, there, same, rest⟩ := sound.held row before
    have foreign : other.lock.token ≠ token := by
      intro own'
      -- Otherwise this is the row that was refreshed.
      have row_hit := sound.row_same before stored
        (same.symm.trans (own'.trans (own.symm.trans tokens.1.2.symm)))
      rw [row_hit, matched] at missed
      cases missed
    exact ⟨other, List.mem_map.mpr ⟨other, there, if_neg foreign⟩, same, rest⟩
  · have own' := refreshes_iff.mp hit'
    have behind := sound.behind before member own'.1.2
    exact ⟨_, List.mem_map.mpr ⟨holding, member, if_pos own⟩, own'.1.2.symm, behind.1,
      behind.2.1, rfl⟩

theorem Sound.releases (found : run.holding token = some holding) :
    Sound { run with
      locks := holding.lock.release run.locks
      holdings := run.revised token Holding.givenBack } := by
  obtain ⟨member, own⟩ := mem_of_holding found
  refine ⟨fun other there => ?_, ?_, fun row there => ?_⟩
  · rcases mem_revised there with before | ⟨old, before, -, rfl⟩
    · exact sound.drawn other before.1
    · exact sound.drawn old before
  · exact sound.distinct_revised token fun _ => rfl
  obtain ⟨before, missed⟩ := Table.mem_delete.mp there
  obtain ⟨other, there, same, rest⟩ := sound.held row before
  have foreign : other.lock.token ≠ token := by
    intro own'
    have tokens : row.token = holding.lock.token := same.symm.trans (own'.trans own.symm)
    have named := (sound.behind before member tokens).2.1
    simp_all
  exact ⟨other, List.mem_map.mpr ⟨other, there, if_neg foreign⟩, same, rest⟩

end

theorem Sound.take (supply : Supply) (step : LockStep) (run : LockRun) (sound : Sound run) :
    Sound (run.take supply step) := by
  cases step with
  | pass => exact ⟨sound.drawn, sound.distinct, sound.held⟩
  | acquire name owner ttl now =>
    rw [LockRun.take]
    split
    · rename_i lock locks acquired
      exact sound.acquires acquired
    rename_i error locks refused
    rw [acquireLock_error refused]
    exact ⟨fun holding member => List.mem_cons_of_mem _ (sound.drawn holding member),
      sound.distinct, sound.held⟩
  | refresh token ttl now =>
    rw [LockRun.take]
    split
    · exact sound
    rename_i holding found
    split
    · rename_i lock locks refreshed
      exact sound.refreshes found refreshed
    rename_i error locks refused
    rw [refresh_error refused]
    exact sound
  | release token =>
    rw [LockRun.take]
    split
    · exact sound
    · rename_i holding found
      exact sound.releases found

theorem spares_others (supply : Supply) (step : LockStep) (run : LockRun) :
    SparesOthers supply step run := by
  cases step with
  | pass | acquire => trivial
  | refresh token ttl now =>
    intro row member foreign
    rw [LockRun.take]
    split
    · exact member
    rename_i holding found
    split
    · rename_i lock locks refreshed
      obtain ⟨-, rfl⟩ := refresh_ok refreshed
      refine List.mem_map.mpr ⟨_, member, Table.assignWhere_not ?_⟩
      refine Bool.eq_false_iff.mpr fun hit => foreign ?_
      exact (refreshes_iff.mp hit).1.2.trans (mem_of_holding found).2
    · rename_i error locks refused
      rw [refresh_error refused]
      exact member
  | release token =>
    intro row member foreign
    rw [LockRun.take]
    split
    · exact member
    rename_i holding found
    refine Table.mem_delete.mpr ⟨member, ?_⟩
    grind [LockRun.holding]

def Lapsed (run : LockRun) : Prop :=
  ∀ holding ∈ run.holdings, holding.released = false →
    (∃ row ∈ run.locks.rows, row.token = holding.lock.token) ∨ holding.lock.expiresAt ≤ run.clock

structure Fair (run : LockRun) : Prop where
  sound : Sound run
  lapsed : Lapsed run
  apart : ∀ first ∈ run.holdings, ∀ other ∈ run.holdings,
    first.lock.token ≠ other.lock.token → first.lock.name = other.lock.name →
      ∀ instant, ¬ (first.Covers instant ∧ other.Covers instant)

theorem Fair.opened (start : Int) : Fair (opened start) := by
  refine ⟨Sound.opened start, fun holding member => ?_, fun first member => ?_⟩
  · exact absurd member List.not_mem_nil
  · exact absurd member List.not_mem_nil

theorem Sound.ended (sound : Sound run) (lapsed : Lapsed run) (here : first ∈ run.holdings)
    (there : other ∈ run.holdings) (current : ∃ row ∈ run.locks.rows, row.token = first.lock.token)
    (tokens : first.lock.token ≠ other.lock.token) (names : first.lock.name = other.lock.name)
    (kept : other.released = false) : other.lock.expiresAt ≤ run.clock := by
  rcases lapsed other there kept with ⟨row, stored, own⟩ | ended
  · obtain ⟨row', stored', own'⟩ := current
    have name := (sound.behind stored there own).2.1
    have name' := (sound.behind stored' here own').2.1
    have same : row' = row := Table.eq_of_column (List.mem_singleton.mpr rfl) stored' stored
      (name'.symm.trans (names.trans name))
    rw [same] at own'
    exact absurd (own'.symm.trans own) tokens
  · exact ended

theorem Fair.renewed (fair : Fair run) {after : LockRun} (sound : Sound after)
    (lapsed : Lapsed after) (token : String)
    (others : ∀ holding ∈ after.holdings, holding.lock.token ≠ token → holding ∈ run.holdings)
    (current : ∀ holding ∈ after.holdings, holding.lock.token = token →
      holding.since = after.clock ∧ ∃ row ∈ after.locks.rows, row.token = holding.lock.token) :
    Fair after := by
  refine ⟨sound, lapsed, fun first here other there tokens names instant both => ?_⟩
  obtain ⟨⟨kept, begun, open'⟩, ⟨kept', begun', open''⟩⟩ := both
  by_cases mine : first.lock.token = token
  · obtain ⟨since, row⟩ := current first here mine
    have ended := sound.ended lapsed here there row tokens names kept'
    omega
  by_cases mine' : other.lock.token = token
  · obtain ⟨since, row⟩ := current other there mine'
    have ended := sound.ended lapsed there here row tokens.symm names.symm kept
    omega
  · exact fair.apart first (others first here mine) other (others other there mine') tokens names
      instant ⟨⟨kept, begun, open'⟩, kept', begun', open''⟩

theorem ended_of_settled (expiresAt now : Int) (lapsed : expiresAt / second ≤ now / second)
    (settled : expiresAt / second = now / second → expiresAt % second = 0) : expiresAt ≤ now := by
  have positive : second = 1000000000 := rfl
  rw [positive] at lapsed settled
  omega

theorem Fair.acquires (fair : Fair run) {name : String} (read : now ≤ run.clock)
    (settled : Settled (.acquire name owner ttl now) run)
    (acquired : acquireLock run.locks name owner ttl (supply.next run.drawn) now =
      (.ok lock, locks)) : Fair ⟨locks, run.clock, run.holdings ++ [⟨lock, run.clock, false⟩],
      supply.next run.drawn :: run.drawn⟩ := by
  obtain ⟨named, tokened, rows⟩ := acquireLock_ok acquired
  have new : (⟨name, owner, lock.token, now / second, lock.expiresAt / second⟩ : LockRow) ∈
      locks.rows := by
    rw [rows, tokened]
    exact List.mem_append_right _ List.mem_cons_self
  refine fair.renewed (fair.sound.acquires acquired) ?_ lock.token ?_ ?_
  · intro holding member kept
    rcases List.mem_append.mp member with before | mine
    · rcases fair.lapsed holding before kept with ⟨row, stored, own⟩ | ended
      · -- The row has been cleared away only if it had lapsed.
        have behind := fair.sound.behind stored before own
        by_cases lapsed : row.name = name ∧ row.expiresAt ≤ now / second
        · refine .inr (le_trans (ended_of_settled _ now ?_ fun same => ?_) read)
          · exact behind.2.2 ▸ lapsed.2
          · exact settled row stored lapsed.1 (behind.2.2.trans same) holding before own.symm
        refine .inl ⟨row, ?_, own⟩
        rw [rows]
        refine List.mem_append_left _ (Table.mem_delete.mpr ⟨stored, ?_⟩)
        rw [Bool.eq_false_iff, ne_eq, Bool.and_eq_true, beq_iff_eq, decide_eq_true_eq]
        exact lapsed
      · exact .inr ended
    · rw [List.mem_singleton.mp mine]
      exact .inl ⟨_, new, rfl⟩
  · grind
  · intro holding member own
    rcases List.mem_append.mp member with before | mine
    · have drawn := fair.sound.drawn holding before
      rw [own, tokened] at drawn
      exact absurd drawn (supply.fresh run.drawn)
    · rw [List.mem_singleton.mp mine]
      exact ⟨rfl, _, new, rfl⟩

theorem Fair.refreshes (fair : Fair run) (found : run.holding token = some holding)
    (refreshed : holding.lock.refresh run.locks ttl now = (.ok lock, locks)) : Fair { run with
      locks := locks
      holdings := run.revised token (Holding.extended lock.expiresAt run.clock) } := by
  have sound := fair.sound.refreshes found refreshed
  obtain ⟨member, own⟩ := mem_of_holding found
  obtain ⟨⟨hit, stored, matched⟩, rfl⟩ := refresh_ok refreshed
  -- The rows keep their tokens.
  have tokens : ∀ row ∈ run.locks.rows, ∃ row' ∈ (run.locks.setExpiry (holding.lock.refreshes now)
      (lock.expiresAt / second)).rows, row'.token = row.token := by
    intro row there
    refine ⟨_, Table.mem_update.mpr ⟨row, there, rfl⟩, ?_⟩
    rw [Table.assignWhere]
    split
    · rfl
    · rfl
  have current : ∃ row ∈ (run.locks.setExpiry (holding.lock.refreshes now)
      (lock.expiresAt / second)).rows, row.token = token := by
    obtain ⟨row, there, same⟩ := tokens hit stored
    exact ⟨row, there, same.trans ((refreshes_iff.mp matched).1.2.trans own)⟩
  refine fair.renewed sound ?_ token ?_ ?_
  · intro other there kept
    rcases mem_revised there with ⟨before, -⟩ | ⟨old, before, mine, rfl⟩
    · rcases fair.lapsed other before kept with ⟨row, there, same⟩ | ended
      · grind
      · exact .inr ended
    · obtain ⟨row, there, same⟩ := current
      exact .inl ⟨row, there, same.trans mine.symm⟩
  · intro other there foreign
    rcases mem_revised there with ⟨before, -⟩ | ⟨old, -, mine, rfl⟩
    · exact before
    · exact absurd mine foreign
  · intro other there mine
    rcases mem_revised there with ⟨-, foreign⟩ | ⟨old, before, mine', rfl⟩
    · exact absurd mine foreign
    · exact ⟨rfl, mine ▸ current⟩

theorem Fair.releases (fair : Fair run) (found : run.holding token = some holding) : Fair { run with
      locks := holding.lock.release run.locks
      holdings := run.revised token Holding.givenBack } := by
  obtain ⟨member, own⟩ := mem_of_holding found
  have others : ∀ other ∈ run.revised token Holding.givenBack, other.released = false →
      other ∈ run.holdings ∧ other.lock.token ≠ token := by
    intro other there kept
    rcases mem_revised there with before | ⟨old, -, -, rfl⟩
    · exact before
    · cases kept
  refine ⟨fair.sound.releases found, fun other there kept => ?_, ?_⟩
  · obtain ⟨before, foreign⟩ := others other there kept
    refine (fair.lapsed other before kept).imp_left ?_
    rintro ⟨row, stored, same⟩
    refine ⟨row, Table.mem_delete.mpr ⟨stored, ?_⟩, same⟩
    simp_all
  · intro first here other there tokens names instant both
    exact fair.apart first (others first here both.1.1).1 other (others other there both.2.1).1
      tokens names instant both

theorem Fair.take (supply : Supply) (step : LockStep) (run : LockRun) (fair : Fair run)
    (inTime : InTime step run) (settled : Settled step run) : Fair (run.take supply step) := by
  cases step with
  | pass time =>
    have later : run.clock ≤ time := inTime
    refine ⟨fair.sound.take supply (.pass time), fun holding member kept => ?_, fair.apart⟩
    exact (fair.lapsed holding member kept).imp_right fun ended => ended.trans later
  | acquire name owner ttl now =>
    have sound := fair.sound.take supply (.acquire name owner ttl now)
    rw [LockRun.take] at sound ⊢
    split at sound
    · rename_i lock locks acquired
      exact fair.acquires inTime settled acquired
    rename_i error locks refused
    obtain rfl := acquireLock_error refused
    exact ⟨sound, fair.lapsed, fair.apart⟩
  | refresh token ttl now =>
    rw [LockRun.take]
    split
    · exact fair
    rename_i holding found
    split
    · rename_i lock locks refreshed
      exact fair.refreshes found refreshed
    rename_i error locks refused
    rw [refresh_error refused]
    exact fair
  | release token =>
    rw [LockRun.take]
    split
    · exact fair
    · rename_i holding found
      exact fair.releases found

theorem Sound.pairwise (sound : Sound run) :
    run.holdings.Pairwise fun first other => first.lock.token ≠ other.lock.token :=
  List.pairwise_map.mp sound.distinct

theorem Fair.pairwise (fair : Fair run) : Apart run :=
  fair.sound.pairwise.imp_of_mem fun here there tokens names instant =>
    fair.apart _ here _ there tokens names instant

end LockRun

open LockRun

/-- A lock that was taken over can no longer touch the table. Leases of one name do not overlap
either, if no lock is taken over within the second its lease ends in. -/
theorem leases_apart_of_settled (supply : Supply) (start : Int) (steps : List LockStep)
    (inTime : Every (take supply) InTime (opened start) steps) :
    let run := lastState (take supply) (opened start) steps
    Every (take supply) (SparesOthers supply) (opened start) steps ∧
    (run.holdings.Pairwise fun first other => first.lock.token ≠ other.lock.token) ∧
    (Every (take supply) Settled (opened start) steps → Apart run) := by
  refine ⟨?_, ?_, fun settled => ?_⟩
  · exact every_of_kept LockRun.Sound (Sound.opened start) fun step run sound =>
      ⟨spares_others supply step run, sound.take supply step⟩
  · exact (lastState_of_kept LockRun.Sound (Sound.opened start) (Sound.take supply)).pairwise
  refine (lastState_of_invariant Fair (Fair.opened start) (inTime.and settled) ?_).pairwise
  intro step run fair both
  exact fair.take supply step run both.1 both.2

theorem takeover_after_lapse :
    let steps := [.acquire "nightly" "node-a" (90 * second) 0, .pass (60 * second + 5),
      .refresh "f" (30 * second) (60 * second + 5), .pass (91 * second),
      .acquire "nightly" "node-b" (90 * second) (91 * second), .refresh "f" second (91 * second)]
    let run := lastState (take .outgrow) (opened 0) steps
    Every (take .outgrow) InTime (opened 0) steps ∧
    Every (take .outgrow) Settled (opened 0) steps ∧
    run.holdings = [⟨⟨"nightly", "node-a", "f", 90 * second + 5⟩, 60 * second + 5, false⟩,
      ⟨⟨"nightly", "node-b", "ff", 181 * second⟩, 91 * second, false⟩] ∧ Apart run := by
  intro steps run
  have inTime : Every (take .outgrow) InTime (opened 0) steps := by decide +kernel
  have settled : Every (take .outgrow) Settled (opened 0) steps := by decide +kernel
  exact ⟨inTime, settled, by decide +kernel,
    (leases_apart_of_settled .outgrow 0 steps inTime).2.2 settled⟩

/-- A lock taken seven tenths into a second can be taken over seven tenths of a second before its
lease ends. -/
theorem takeover_within_lease :
    let steps := [.pass (7 * 10 ^ 8), .acquire "nightly" "node-a" (90 * second) (7 * 10 ^ 8),
      .pass (90 * second), .acquire "nightly" "node-b" (90 * second) (90 * second)]
    let run := lastState (take .outgrow) (opened 0) steps
    Every (take .outgrow) InTime (opened 0) steps ∧ ¬ Apart run := by
  intro steps run
  have held : run.holdings = [⟨⟨"nightly", "node-a", "f", 90 * second + 7 * 10 ^ 8⟩, 7 * 10 ^ 8,
      false⟩, ⟨⟨"nightly", "node-b", "ff", 180 * second⟩, 90 * second, false⟩] := by
    decide +kernel
  refine ⟨by decide +kernel, fun apart => ?_⟩
  rw [Apart, held, List.pairwise_cons] at apart
  have overlap := apart.1 _ List.mem_cons_self rfl (90 * second)
  exact overlap ⟨⟨rfl, by decide, by decide⟩, rfl, by decide, by decide⟩

end Cashp.Cluster
