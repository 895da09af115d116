import Cashp.Kit.ProgramCore

/-!
How programs run. `Along` is the weakest precondition for a condition on every command of a run and
on its end; `Uses` bounds what a program can do without running it.
-/

namespace Kit

variable {Command : Type → Type 1} {Failure Value Result State : Type}

namespace Program

variable {program : Program Command Failure Value} {next : Value → Program Command Failure Result}
variable {failure : Failure} {later : State} {can : {Reply : Type} → Command Reply → Prop}
variable {bad : Prop} {command : Command Value} {value : Value} {answer : Except Failure Value}

theorem bind_bind {Final : Type} {last : Result → Program Command Failure Final} :
    program >>= next >>= last = program >>= fun value => next value >>= last := by
  induction program with
  | done | fail => rfl
  | step command rest ih => exact congrArg (step command) (funext ih)

section

variable [Machine Command State] (state : State) {result : Result}

@[simp] theorem run_pure (value : Value) :
    (pure value : Program Command Failure Value).run state = (.ok value, state) := rfl

@[simp] theorem run_done (value : Value) :
    (done value : Program Command Failure Value).run state = (.ok value, state) := rfl

@[simp] theorem run_fail (failure : Failure) :
    (fail failure : Program Command Failure Value).run state = (.error failure, state) := rfl

@[simp] theorem run_perform (command : Command Value) :
    (perform command : Program Command Failure Value).run state =
      (.ok (execute command state).1, (execute command state).2) := rfl

theorem run_bind : (program >>= next).run state =
    match program.run state with
    | (.ok value, later) => (next value).run later
    | (.error failure, later) => (.error failure, later) := by
  induction program generalizing state with
  | done | fail => rfl
  | step command rest ih => exact ih _ _

variable {state} in
/-- Symbolic execution of a sequence. -/
theorem run_bind_ok (ran : program.run state = (.ok value, later)) :
    (program >>= next).run state = (next value).run later := by
  rw [run_bind, ran]

variable {state} in
theorem run_bind_error (ran : program.run state = (.error failure, later)) :
    (program >>= next).run state = (.error failure, later) := by
  rw [run_bind, ran]

theorem run_step : (perform command >>= next).run state =
    (next (execute command state).1).run (execute command state).2 := rfl

variable {state} in
theorem ran_bind (ran : (program >>= next).run state = (.ok result, later)) :
    ∃ value middle, program.run state = (.ok value, middle) ∧
      (next value).run middle = (.ok result, later) := by
  rw [run_bind] at ran
  grind

variable {state} in
theorem ran_refuse [Decidable bad] {next : Unit → Program Command Failure Result}
    (ran : (refuse bad failure >>= next).run state = (.ok result, later)) :
    ¬ bad ∧ (next ()).run state = (.ok result, later) := by
  rw [run_bind, refuse] at ran
  by_cases holds : bad
  · simp [holds] at ran
  · simpa [holds] using ran

variable {state} in
theorem ran_ofExcept (ran : (ofExcept answer >>= next).run state = (.ok result, later)) :
    ∃ value, answer = .ok value ∧ (next value).run state = (.ok result, later) := by
  rw [run_bind] at ran
  cases answer with
  | ok => exact ⟨_, rfl, ran⟩
  | error => cases ran

theorem run_bind_keeps (invariant : State → Prop) (first : invariant (program.run state).2)
    (rest : ∀ value later, invariant later → invariant ((next value).run later).2) :
    invariant ((program >>= next).run state).2 := by
  rw [run_bind]
  grind

theorem final_ignore : program.ignore.final state = (program.run state).2 := by
  unfold ignore final
  rw [run_bind]
  cases program.run state with
  | mk answer => cases answer <;> rfl

@[simp] theorem run_attempt :
    program.attempt.run state = (.ok (program.run state).1, (program.run state).2) := by
  induction program generalizing state with
  | done | fail => rfl
  | step command rest ih => exact ih _ _

variable {state} in
theorem run_attempted {next : Except Failure Value → Program Command Failure Result} :
    (program.attempt >>= next).run state = (next (program.run state).1).run (program.run state).2 :=
  run_bind_ok (run_attempt state)

theorem run_refuse_of [Decidable bad] (failure : Failure) (holds : bad) :
    (refuse bad failure : Program Command Failure Unit).run state = (.error failure, state) := by
  simp [refuse, holds]

theorem run_refuse_not [Decidable bad] (failure : Failure) (fine : ¬ bad) :
    (refuse bad failure : Program Command Failure Unit).run state = (.ok (), state) := by
  simp [refuse, fine]

variable {state} in
theorem run_refused [Decidable bad] {next : Unit → Program Command Failure Result} (holds : bad) :
    (refuse bad failure >>= next).run state = (.error failure, state) :=
  run_bind_error (run_refuse_of state failure holds)

variable {state} in
theorem run_unrefused [Decidable bad] {next : Unit → Program Command Failure Result}
    (fine : ¬ bad) : (refuse bad failure >>= next).run state = (next ()).run state :=
  run_bind_ok (run_refuse_not state failure fine)

variable {state} in
theorem run_refuse_passed [Decidable bad]
    (ran : (refuse bad failure : Program Command Failure Unit).run state = (.ok (), later)) :
    ¬ bad ∧ later = state := by
  grind [Program.run, Program.refuse]

@[simp] theorem run_ofExcept (answer : Except Failure Value) :
    (ofExcept answer : Program Command Failure Value).run state = (answer, state) := by
  cases answer <;> rfl

end

section

variable {can : {Reply : Type} → Command Reply → Prop}

/-- A sequence uses what its parts use. -/
@[grind ←]
theorem uses_bind (first : program.Uses can) (later : ∀ value, (next value).Uses can) :
    (program >>= next).Uses can := by
  induction program with
  | done value => exact later value
  | fail => trivial
  | step command rest ih => exact ⟨first.1, fun reply => ih reply (first.2 reply)⟩

@[grind ←]
theorem uses_attempt (first : program.Uses can) : program.attempt.Uses can := by
  induction program with
  | done | fail => trivial
  | step command rest ih => exact ⟨first.1, fun reply => ih reply (first.2 reply)⟩

@[grind ←]
theorem uses_perform (fine : can command) :
    (perform command : Program Command Failure Value).Uses can :=
  ⟨fine, fun _ => trivial⟩

@[grind ←]
theorem uses_pure (value : Value) : (pure value : Program Command Failure Value).Uses can := trivial

@[grind ←]
theorem uses_done (value : Value) : (done value : Program Command Failure Value).Uses can := trivial

@[grind ←]
theorem uses_fail (failure : Failure) :
    (fail failure : Program Command Failure Value).Uses can := trivial

@[grind ←]
theorem uses_refuse (bad : Prop) [Decidable bad] (failure : Failure) :
    (refuse bad failure : Program Command Failure Unit).Uses can := by
  unfold refuse
  split <;> trivial

theorem uses_then {command : Command Value} (fine : can command)
    (later : ∀ value, (next value).Uses can) : (perform command >>= next).Uses can :=
  ⟨fine, later⟩

theorem uses_refused [Decidable bad] {next : Unit → Program Command Failure Result}
    (later : ∀ value, (next value).Uses can) : (refuse bad failure >>= next).Uses can :=
  uses_bind (uses_refuse _ _) later

@[grind ←]
theorem uses_ofExcept (answer : Except Failure Value) :
    (ofExcept answer : Program Command Failure Value).Uses can := by
  cases answer <;> trivial

theorem Uses.and {also : {Reply : Type} → Command Reply → Prop} (first : program.Uses can)
    (second : program.Uses also) :
    program.Uses fun {_} command => can command ∧ also command := by
  induction program with
  | done | fail => trivial
  | step command rest ih =>
    exact ⟨⟨first.1, second.1⟩, fun reply => ih reply (first.2 reply) (second.2 reply)⟩

theorem Uses.mono {wider : {Reply : Type} → Command Reply → Prop} (uses : program.Uses can)
    (weaken : ∀ {Reply : Type} (command : Command Reply), can command → wider command) :
    program.Uses wider := by
  induction program with
  | done | fail => trivial
  | step command rest ih => exact ⟨weaken _ uses.1, fun reply => ih reply (uses.2 reply)⟩

end

theorem run_congr [Machine Command State] {agree : State → State → Prop} (uses : program.Uses can)
    (same : ∀ {Reply : Type} (command : Command Reply) (first second : State), can command →
      agree first second → (execute command first).1 = (execute command second).1 ∧
        agree (execute command first).2 (execute command second).2)
    {first second : State} (start : agree first second) :
    (program.run first).1 = (program.run second).1 ∧
      agree (program.run first).2 (program.run second).2 := by
  induction program generalizing first second with
  | done | fail => exact ⟨rfl, start⟩
  | step command rest ih =>
    grind [Program.run, Program.Uses]

section

variable [Machine Command State]
variable {allowed stronger : {Reply : Type} → Command Reply → State → Prop}
variable {post wider : Except Failure Value → State → Prop} {state : State}
variable {after : Except Failure Result → State → Prop} {good : Value → State → Prop}

def Along (allowed : {Reply : Type} → Command Reply → State → Prop)
    (post : Except Failure Value → State → Prop) : Program Command Failure Value → State → Prop
  | .done value, state => post (.ok value) state
  | .fail failure, state => post (.error failure) state
  | .step command rest, state =>
    allowed command state ∧
      (rest (execute command state).1).Along allowed post (execute command state).2

theorem along_iff : program.Along allowed post state ↔
    program.Meets allowed state ∧ post (program.run state).1 (program.run state).2 := by
  induction program generalizing state with
  | done | fail => simp [Along, Meets]
  | step command rest ih => simp only [Along, Meets, run, ih, and_assoc]

theorem Along.meets (held : program.Along allowed post state) : program.Meets allowed state :=
  (along_iff.mp held).1

theorem Along.run (held : program.Along allowed post state) :
    post (program.run state).1 (program.run state).2 :=
  (along_iff.mp held).2

theorem meets_bind : (program >>= next).Meets allowed state ↔ program.Meets allowed state ∧
      ∀ value later, program.run state = (.ok value, later) → (next value).Meets allowed later := by
  induction program generalizing state with
  | done value =>
    refine ⟨fun held => ⟨trivial, fun other later ran => ?_⟩, fun held => held.2 value state rfl⟩
    obtain ⟨rfl, rfl⟩ : value = other ∧ state = later := by simpa using ran
    exact held
  | fail => exact ⟨fun _ => ⟨trivial, fun _ _ ran => by simp at ran⟩, fun _ => trivial⟩
  | step command rest ih =>
    refine ⟨fun held => ?_, fun held => ⟨held.1.1, (ih _).mpr ⟨held.1.2, held.2⟩⟩⟩
    have tail := (ih _).mp held.2
    exact ⟨⟨held.1, tail.1⟩, tail.2⟩

theorem Along.mono (held : program.Along stronger post state)
    (weaken : ∀ {Reply : Type} (command : Command Reply) (state : State),
      stronger command state → allowed command state)
    (widen : ∀ answer state, post answer state → wider answer state) :
    program.Along allowed wider state := by
  induction program generalizing state with
  | done | fail => exact widen _ _ held
  | step command rest ih => exact ⟨weaken _ _ held.1, ih _ held.2⟩

theorem Along.imp (held : program.Along allowed post state)
    (widen : ∀ answer state, post answer state → wider answer state) :
    program.Along allowed wider state :=
  held.mono (fun _ _ fine => fine) widen

theorem along_bind :
    (program >>= next).Along allowed after state ↔
      program.Along allowed (fun answer later =>
        match answer with
        | .ok value => (next value).Along allowed after later
        | .error failure => after (.error failure) later) state := by
  induction program generalizing state with
  | done | fail => exact Iff.rfl
  | step command rest ih => exact and_congr Iff.rfl (ih _)

theorem along_then (fine : allowed command state)
    (rest : (next (execute command state).1).Along allowed after (execute command state).2) :
    ((perform command : Program Command Failure Value) >>= next).Along allowed after state :=
  ⟨fine, rest⟩

theorem along_attempt {after : Except Failure (Except Failure Value) → State → Prop} :
    program.attempt.Along allowed after state ↔
      program.Along allowed (fun answer later => after (.ok answer) later) state := by
  induction program generalizing state with
  | done | fail => exact Iff.rfl
  | step command rest ih => exact and_congr Iff.rfl (ih _)

def Returns (good : Value → State → Prop) : Except Failure Value → State → Prop
  | .ok value, state => good value state
  | .error _, _ => True

theorem Along.returns (held : program.Along allowed post state)
    (fine : ∀ value later, program.run state = (.ok value, later) → post (.ok value) later →
      good value later) : program.Along allowed (Returns good) state := by
  refine along_iff.mpr ⟨held.meets, ?_⟩
  have ends := held.run
  cases ran : program.run state with
  | mk answer later =>
    rw [ran] at ends
    cases answer with
    | ok value => exact fine value later ran ends
    | error => trivial

/-- The rule for a sequence that goes on only after a success. -/
theorem Along.andThen {better : Result → State → Prop}
    (held : program.Along allowed (Returns good) state)
    (cont : ∀ value later, program.run state = (.ok value, later) → good value later →
      (next value).Along allowed (Returns better) later) :
    (program >>= next).Along allowed (Returns better) state := by
  refine along_bind.mpr (along_iff.mpr ⟨held.meets, ?_⟩)
  have ends := held.run
  grind [Program.Returns]

theorem Along.onward
    (held : program.Along allowed post state) (ran : program.run state = (.ok value, later))
    (rest : (next value).Along allowed after later) :
    (program >>= next).Along allowed after state := by
  refine along_bind.mpr (along_iff.mpr ⟨held.meets, ?_⟩)
  rw [ran]
  exact rest

theorem Along.attempted {cont : Except Failure Value → Program Command Failure Result}
    (held : program.Along allowed post state)
    (each : ∀ answer later, program.run state = (answer, later) → post answer later →
      (cont answer).Along allowed after later) :
    (program.attempt >>= cont).Along allowed after state := by
  refine along_bind.mpr (along_attempt.mpr (along_iff.mpr ⟨held.meets, ?_⟩))
  exact each _ _ rfl held.run

theorem along_refuse_returns [Decidable bad] :
    (refuse bad failure : Program Command Failure Unit).Along allowed
      (Returns fun _ later => later = state ∧ ¬ bad) state := by
  by_cases holds : bad <;> simp [refuse, holds, Along, Returns]

theorem along_of_uses {keeps : State → State → Prop}
    (uses : program.Uses can) (same : ∀ state, keeps state state)
    (compose : ∀ first second third, keeps first second → keeps second third → keeps first third)
    (fine : ∀ {Reply : Type} (command : Command Reply) (state : State),
      can command → allowed command state ∧ keeps state (execute command state).2) :
    program.Along allowed (fun _ later => keeps state later) state := by
  induction program generalizing state with
  | done | fail => exact same state
  | step command rest ih =>
    have first := fine command state uses.1
    refine ⟨first.1, (ih _ (uses.2 _)).imp fun answer later kept => ?_⟩
    exact compose _ _ _ first.2 kept

theorem Along.upgrade {wanted : {Reply : Type} → Command Reply → State → Prop}
    (held : program.Along allowed post state) (invariant : State → Prop) (start : invariant state)
    (step : ∀ {Reply : Type} (command : Command Reply) (state : State), allowed command state →
      invariant state → wanted command state ∧ invariant (execute command state).2) :
    program.Along wanted (fun answer later => post answer later ∧ invariant later) state := by
  induction program generalizing state with
  | done | fail => exact ⟨held, start⟩
  | step command rest ih =>
    have next := step command state held.1 start
    exact ⟨next.1, ih _ held.2 next.2⟩

theorem Along.keeps (held : program.Along allowed post state) (invariant : State → Prop)
    (start : invariant state)
    (kept : ∀ {Reply : Type} (command : Command Reply) (state : State),
      allowed command state → invariant state → invariant (execute command state).2) :
    program.Along (fun command state => invariant (execute command state).2)
      (fun _ later => invariant later) state := by
  refine (held.upgrade invariant start fun command state fine holds => ?_).imp
    fun _ _ ends => ends.2
  have next := kept command state fine holds
  exact ⟨next, next⟩

theorem final_of_meets {invariant : State → Prop} (start : invariant state)
    (held : program.Meets (fun command state => invariant (execute command state).2) state) :
    invariant (program.final state) := by
  induction program generalizing state with
  | done | fail => exact start
  | step command rest ih => exact ih _ held.1 held.2

theorem Along.ignored (held : program.Along allowed (Returns good) state) :
    program.ignore.Along allowed (Returns fun _ _ => True) state :=
  held.andThen fun _ _ _ _ => trivial

theorem final_of_uses {keeps : State → State → Prop}
    (uses : program.Uses can) (same : ∀ state, keeps state state)
    (compose : ∀ first second third, keeps first second → keeps second third → keeps first third)
    (fine : ∀ {Reply : Type} (command : Command Reply) (state : State),
      can command → keeps state (execute command state).2) (state : State) :
    keeps state (program.run state).2 := by
  have held : program.Along (fun _ _ => True) (fun _ later => keeps state later) state :=
    along_of_uses uses same compose fun command state can => ⟨trivial, fine command state can⟩
  exact held.run

end

end Program

end Kit
