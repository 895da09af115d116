import Cashp.Kit.Program

/-!
Conditions on programs that others interrupt. What a command may meet and has to keep is left open:
it is given by what must hold before the command so that a condition holds after it.
-/

namespace Kit

/-- What programs rely on while others run, and the weakest precondition of a command. -/
structure Terms (Command : Type → Type 1) (Load State : Type) where
  rely : State → State → Prop
  refl : ∀ state, rely state state
  trans : ∀ first second third, rely first second → rely second third → rely first third
  before : {Reply : Type} → Command Reply → (Reply → Load → State → Prop) → Load → State → Prop
  mono : ∀ {Reply : Type} {command : Command Reply} {after wider : Reply → Load → State → Prop}
    {load : Load} {state : State}, before command after load state →
    (∀ reply load later, rely state later → after reply load later → wider reply load later) →
      before command wider load state

variable {Command : Type → Type 1} {Failure Value Result Load State : Type}

class Terms.Steady (terms : Terms Command Load State) : Prop where
  later : ∀ {Reply : Type} (command : Command Reply) (after : Reply → Load → State → Prop)
    (load : Load) (first second : State), terms.rely first second →
      terms.before command after load first → terms.before command after load second

namespace Program

variable {terms : Terms Command Load State} {program : Program Command Failure Value}
  {next : Value → Program Command Failure Result}
  {post wider : Except Failure Value → Load → State → Prop}
  {after : Except Failure Result → Load → State → Prop} {load : Load} {state : State}

def Under (terms : Terms Command Load State)
    (post : Except Failure Value → Load → State → Prop) :
    Program Command Failure Value → Load → State → Prop
  | .done value, load, state => post (.ok value) load state
  | .fail failure, load, state => post (.error failure) load state
  | .step command rest, load, state =>
    terms.before command (fun reply load later => (rest reply).Under terms post load later) load
      state

theorem Under.relied (held : program.Under terms post load state) :
    program.Under terms (fun answer load later => post answer load later ∧ terms.rely state later)
      load state := by
  have general : ∀ start, terms.rely start state → program.Under terms
      (fun answer load later => post answer load later ∧ terms.rely start later) load state := by
    intro start begun
    induction program generalizing load state with
    | done | fail => exact ⟨held, begun⟩
    | step command rest ih =>
      refine terms.mono held fun reply load later follows onward => ?_
      exact ih reply onward (terms.trans _ _ _ begun follows)
  exact general state (terms.refl state)

theorem Under.imp (held : program.Under terms post load state)
    (widen : ∀ answer load state, post answer load state → wider answer load state) :
    program.Under terms wider load state := by
  induction program generalizing load state with
  | done | fail => exact widen _ _ _ held
  | step command rest ih => exact terms.mono held fun reply _ _ _ => ih reply

theorem Under.later [steady : terms.Steady] {later : State}
    (held : program.Under terms post load state) (follows : terms.rely state later)
    (stable : ∀ answer load first second, post answer load first → terms.rely first second →
      post answer load second) : program.Under terms post load later := by
  cases program with
  | done | fail => exact stable _ _ _ _ held follows
  | step command => exact steady.later command _ load state later follows held

theorem under_bind :
    program.Under terms (fun answer load state =>
      match answer with
      | .ok value => (next value).Under terms after load state
      | .error failure => after (.error failure) load state) load state →
    (program >>= next).Under terms after load state := by
  induction program generalizing load state with
  | done | fail => exact id
  | step command rest ih => exact fun held => terms.mono held fun reply _ _ _ => ih reply

/-- The rule for a sequence. -/
theorem Under.andThen (first : program.Under terms post load state)
    (each : ∀ value load later, terms.rely state later → post (.ok value) load later →
      (next value).Under terms after load later)
    (stop : ∀ failure load later, post (.error failure) load later →
      after (.error failure) load later) : (program >>= next).Under terms after load state := by
  refine under_bind (first.relied.imp fun answer load later held => ?_)
  grind

/-- The rule for a command. -/
theorem under_then {command : Command Value}
    (each : terms.before command (fun reply => (next reply).Under terms after) load state) :
    ((perform command : Program Command Failure Value) >>= next).Under terms after load state :=
  each

theorem under_attempt {after : Except Failure (Except Failure Value) → Load → State → Prop} :
    program.Under terms (fun answer load state => after (.ok answer) load state) load state →
    program.attempt.Under terms after load state := by
  induction program generalizing load state with
  | done | fail => exact id
  | step command rest ih => exact fun held => terms.mono held fun reply _ _ _ => ih reply

theorem Under.attempted {next : Except Failure Value → Program Command Failure Result}
    (first : program.Under terms post load state)
    (each : ∀ answer load later, terms.rely state later → post answer load later →
      (next answer).Under terms after load later) :
    (program.attempt >>= next).Under terms after load state :=
  under_bind (under_attempt (first.relied.imp fun answer load later held =>
    each answer load later held.2 held.1))

theorem Under.stopAfter {failure : Failure} (held : program.Under terms post load state)
    (stop : ∀ load state, post (.error failure) load state) (count : Nat) :
    (program.stopAfter failure count).Under terms post load state := by
  induction program generalizing load state count with
  | done | fail => exact held
  | step command rest ih =>
    cases count with
    | zero => exact stop load state
    | succ count => exact terms.mono held fun reply _ _ _ onward => ih reply onward count

theorem under_refuse {bad : Prop} [Decidable bad] {failure : Failure}
    {next : Unit → Program Command Failure Result}
    (stopped : bad → after (.error failure) load state)
    (passed : ¬ bad → (next ()).Under terms after load state) :
    (refuse bad failure >>= next).Under terms after load state := by
  unfold refuse
  by_cases holds : bad
  · rw [if_pos holds]
    exact stopped holds
  · rw [if_neg holds]
    exact passed holds

theorem under_ofExcept {answer : Except Failure Value} (ends : post answer load state) :
    (ofExcept answer : Program Command Failure Value).Under terms post load state := by
  cases answer <;> exact ends

theorem under_of_uses {keeps : Load → Prop}
    (uses : program.Uses fun {_} command => ∀ load state, keeps load →
      terms.before command (fun _ load _ => keeps load) load state)
    (start : keeps load) : program.Under terms (fun _ load _ => keeps load) load state := by
  induction program generalizing load state with
  | done | fail => exact start
  | step command rest ih =>
    exact terms.mono (uses.1 load state start) fun reply _ _ _ => ih reply (uses.2 reply)

end Program

end Kit
