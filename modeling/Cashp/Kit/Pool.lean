import Cashp.Kit.Run
import Cashp.Kit.Terms
import Mathlib.Algebra.BigOperators.Group.List.Lemmas
import Mathlib.Algebra.Order.BigOperators.Group.List
import Mathlib.Algebra.Order.Group.Unbundled.Basic
import Mathlib.Tactic.Abel

/-!
Programs that share a state and owe it something in between. When every program pays its debts
before it ends, the books of a pool at rest are even.
-/

namespace Kit

universe u

variable {Command : Type → Type 1} {Failure Value Result State Debt : Type}

/-- What holds, what programs rely on, and by how much the books of a state fall short. -/
structure Discipline (Command : Type → Type 1) (State Debt : Type) where
  valid : State → Prop
  rely : State → State → Prop
  refl : ∀ state, rely state state
  trans : ∀ first second third, rely first second → rely second third → rely first third
  fine : {Reply : Type} → Command Reply → State → Prop
  short : State → Debt

variable [Machine Command State] [AddCommGroup Debt] [PartialOrder Debt]
variable {program : Program Command Failure Value}

structure Discipline.Keeps (rules : Discipline Command State Debt) (before after : State)
    (debt next : Debt) : Prop where
  valid : rules.valid after
  rely : rules.rely before after
  short : rules.short after + debt ≤ rules.short before + next

def Discipline.terms (rules : Discipline Command State Debt) : Terms Command Debt State where
  rely := rules.rely
  refl := rules.refl
  trans := rules.trans
  before command after debt state :=
    ∀ later, rules.rely state later → rules.valid later → rules.fine command later →
      ∃ owing, rules.Keeps later (execute command later).2 debt owing ∧
        after (execute command later).1 owing (execute command later).2
  mono held widen later follows valid fine := by
    obtain ⟨owing, keeps, onward⟩ := held later follows valid fine
    exact ⟨owing, keeps, widen _ _ _ (rules.trans _ _ _ follows keeps.rely) onward⟩

instance (rules : Discipline Command State Debt) : rules.terms.Steady where
  later _ _ _ _ _ follows held last further :=
    held last (rules.trans _ _ _ follows further)

namespace Program

abbrev Pays (rules : Discipline Command State Debt)
    (post : Except Failure Value → Debt → State → Prop) (program : Program Command Failure Value)
    (debt : Debt) (state : State) : Prop :=
  program.Under rules.terms post debt state

def Settled (_ : Except Failure Value) (debt : Debt) (_ : State) : Prop := debt ≤ 0

end Program

open Program

namespace Pool

variable {rules : Discipline Command State Debt} {pool : Pool Command Failure Value State}

structure Solvent (rules : Discipline Command State Debt)
    (pool : Pool Command Failure Value State) : Prop where
  valid : rules.valid pool.state
  covered : ∃ debts : List Debt, debts.length = pool.threads.length ∧
    (∀ (index : Nat) (thread : Program Command Failure Value) (debt : Debt),
      pool.threads[index]? = some thread → debts[index]? = some debt →
        thread.Pays rules Settled debt pool.state) ∧
    rules.short pool.state ≤ debts.sum

def Fits (rules : Discipline Command State Debt) (pool : Pool Command Failure Value State)
    (move : Move Command Failure Value State) : Prop :=
  match move with
  | .spawn program => program.Pays rules Settled 0 pool.state
  | .advance index =>
    match pool.threads[index]? with
    | some (.step command _) => rules.fine command pool.state
    | _ => True
  | .disturb change => rules.Keeps pool.state (change pool.state) 0 0

theorem settled_later {thread : Program Command Failure Value} {debt : Debt} {state later : State}
    (pays : thread.Pays rules Settled debt state) (follows : rules.rely state later) :
    thread.Pays rules Settled debt later :=
  pays.later follows fun _ _ _ _ settled _ => settled

theorem Solvent.spawn (solvent : pool.Solvent rules)
    (pays : program.Pays rules Settled 0 pool.state) :
    Solvent rules { pool with threads := pool.threads ++ [program] } := by
  obtain ⟨debts, sizes, each, short⟩ := solvent.covered
  exact ⟨solvent.valid, debts ++ [0], by simp [sizes], pairs_of_concat sizes each pays,
    by simpa using short⟩

theorem Solvent.disturb {change : State → State} (solvent : pool.Solvent rules)
    (keeps : rules.Keeps pool.state (change pool.state) 0 0) :
    Solvent rules { pool with state := change pool.state } := by
  obtain ⟨debts, sizes, each, short⟩ := solvent.covered
  refine ⟨keeps.valid, debts, sizes, fun index thread debt present owed => ?_, ?_⟩
  · exact settled_later (each index thread debt present owed) keeps.rely
  have books := keeps.short
  rw [add_zero, add_zero] at books
  exact books.trans short

variable [IsOrderedAddMonoid Debt]

theorem Solvent.advance {index : Nat} (solvent : pool.Solvent rules)
    (fits : pool.Fits rules (.advance index)) : (pool.advance index).Solvent rules := by
  obtain ⟨debts, sizes, each, short⟩ := solvent.covered
  cases present : pool.threads[index]? with
  | none => simpa [Pool.advance, present] using solvent
  | some thread =>
    cases thread with
    | done | fail => simpa [Pool.advance, present] using solvent
    | step command =>
      have inside : index < pool.threads.length := (List.getElem?_eq_some_iff.mp present).1
      have listed : index < debts.length := sizes ▸ inside
      have pays := each index _ debts[index] present (List.getElem?_eq_getElem listed)
      have fine : rules.fine command pool.state := by
        simpa only [Fits, present] using fits
      obtain ⟨owing, keeps, onward⟩ := pays pool.state (rules.refl _) solvent.valid fine
      simp only [Pool.advance, present]
      refine ⟨keeps.valid, debts.set index owing, by simp [sizes], ?_, ?_⟩
      · intro other thread debt there owed
        by_cases same : other = index
        · simp_all
        · rw [List.getElem?_set_ne (Ne.symm same)] at there owed
          exact settled_later (each other thread debt there owed) keeps.rely
      · have books := keeps.short
        rw [List.sum_set', dif_pos listed]
        calc rules.short (execute command pool.state).2
            _ ≤ rules.short pool.state + owing - debts[index] := le_sub_iff_add_le.mpr books
            _ ≤ debts.sum + owing - debts[index] :=
                sub_le_sub_right (add_le_add_left short owing) _
            _ = debts.sum + (-debts[index] + owing) := by abel

/-- The rule for one step. -/
theorem Solvent.play {move : Move Command Failure Value State} (solvent : pool.Solvent rules)
    (fits : pool.Fits rules move) : (pool.play move).Solvent rules := by
  cases move with
  | spawn => exact solvent.spawn fits
  | advance => exact solvent.advance fits
  | disturb => exact solvent.disturb fits

theorem Solvent.playAll {Step : Type u} {make : Step → Move Command Failure Value State}
    {allowed : Step → Pool Command Failure Value State → Prop} {steps : List Step}
    (solvent : pool.Solvent rules)
    (run : Every (fun step pool => Pool.play pool (make step)) allowed pool steps)
    (fits : ∀ step (pool : Pool Command Failure Value State), pool.Solvent rules →
      allowed step pool → pool.Fits rules (make step)) :
    (pool.playAll (steps.map make)).Solvent rules := by
  induction steps generalizing pool with
  | nil => exact solvent
  | cons step rest ih => exact ih (solvent.play (fits step pool solvent run.1)) run.2

/-- When all programs have ended, nothing is owed. -/
theorem Solvent.even (solvent : pool.Solvent rules) (quiescent : pool.quiescent = true) :
    rules.short pool.state ≤ 0 := by
  obtain ⟨debts, sizes, each, short⟩ := solvent.covered
  suffices paid : ∀ debt ∈ debts, debt ≤ 0 by
    have total := List.sum_le_card_nsmul debts 0 paid
    rw [nsmul_zero] at total
    exact short.trans total
  intro debt member
  obtain ⟨index, owed⟩ := List.getElem?_of_mem member
  have listed : index < debts.length := (List.getElem?_eq_some_iff.mp owed).1
  have inside : index < pool.threads.length := sizes ▸ listed
  have present := List.getElem?_eq_getElem inside
  have pays := each index _ debt present owed
  have finished := List.all_eq_true.mp quiescent _ (List.getElem_mem inside)
  cases thread : pool.threads[index] with
  | done | fail => rwa [thread] at pays
  | step => simp [thread, Program.finished] at finished

end Pool

end Kit
