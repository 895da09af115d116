import Mathlib.Data.List.Basic

/-!
Programs that talk to a shared state through atomic commands. A program is the tree of its commands;
it is run alone by `run`, or one command at a time among others by `Pool.advance`.
-/

namespace Kit

/-- A result, a failure, or a command with what is done on its reply. -/
inductive Program (Command : Type → Type 1) (Failure Value : Type) : Type 1
  | done (value : Value)
  | fail (failure : Failure)
  | step {Reply : Type} (command : Command Reply)
      (next : Reply → Program Command Failure Value)

class Machine (Command : Type → Type 1) (State : outParam Type) where
  execute {Reply : Type} : Command Reply → State → Reply × State

export Machine (execute)

variable {Command : Type → Type 1} {Failure Value Result State : Type}

namespace Program

def bind : Program Command Failure Value → (Value → Program Command Failure Result) →
    Program Command Failure Result
  | .done value, next => next value
  | .fail failure, _ => .fail failure
  | .step command rest, next => .step command fun reply => (rest reply).bind next

instance : Monad (Program Command Failure) where
  pure := .done
  bind := bind

def perform (command : Command Value) : Program Command Failure Value :=
  .step command .done

def refuse (bad : Prop) [Decidable bad] (failure : Failure) : Program Command Failure Unit :=
  if bad then .fail failure else .done ()

def attempt : Program Command Failure Value → Program Command Failure (Except Failure Value)
  | .done value => .done (.ok value)
  | .fail failure => .done (.error failure)
  | .step command next => .step command fun reply => (next reply).attempt

def ofExcept : Except Failure Value → Program Command Failure Value
  | .ok value => .done value
  | .error failure => .fail failure

def ignore (program : Program Command Failure Value) : Program Command Failure Unit := do
  let _ ← program
  pure ()

def stopAfter (failure : Failure) : Program Command Failure Value → Nat →
    Program Command Failure Value
  | .done value, _ => .done value
  | .fail other, _ => .fail other
  | .step _ _, 0 => .fail failure
  | .step command rest, count + 1 =>
    .step command fun reply => (rest reply).stopAfter failure count

def translate {Other : Type → Type 1} {Fault : Type}
    (lift : {Reply : Type} → Command Reply → Other Reply) (tag : Failure → Fault) :
    Program Command Failure Value → Program Other Fault Value
  | .done value => .done value
  | .fail failure => .fail (tag failure)
  | .step command rest => .step (lift command) fun reply => (rest reply).translate lift tag

def run [Machine Command State] : Program Command Failure Value → State →
    Except Failure Value × State
  | .done value, state => (.ok value, state)
  | .fail failure, state => (.error failure, state)
  | .step command next, state =>
    (next (execute command state).1).run (execute command state).2

def final [Machine Command State] (program : Program Command Failure Value) (state : State) :
    State :=
  (program.run state).2

/-- Every command that the program could issue is allowed, whatever the replies. -/
def Uses (allowed : {Reply : Type} → Command Reply → Prop) :
    Program Command Failure Value → Prop
  | .done _ => True
  | .fail _ => True
  | .step command next => allowed command ∧ ∀ reply, (next reply).Uses allowed

def Meets [Machine Command State] (allowed : {Reply : Type} → Command Reply → State → Prop) :
    Program Command Failure Value → State → Prop
  | .done _, _ => True
  | .fail _, _ => True
  | .step command next, state =>
    allowed command state ∧
      (next (execute command state).1).Meets allowed (execute command state).2

instance [Machine Command State] {allowed : {Reply : Type} → Command Reply → State → Prop}
    [decides : ∀ {Reply : Type} (command : Command Reply) (state : State),
      Decidable (allowed command state)] :
    ∀ (program : Program Command Failure Value) (state : State),
      Decidable (program.Meets allowed state)
  | .done _, _ => isTrue trivial
  | .fail _, _ => isTrue trivial
  | .step command next, state =>
    have : Decidable ((next (execute command state).1).Meets allowed (execute command state).2) :=
      instDecidableMeets (next (execute command state).1) (execute command state).2
    inferInstanceAs (Decidable (_ ∧ _))

def finished : Program Command Failure Value → Bool
  | .step _ _ => false
  | _ => true

end Program

/-- Programs that take turns on one state. -/
structure Pool (Command : Type → Type 1) (Failure Value State : Type) where
  state : State
  threads : List (Program Command Failure Value)

inductive Move (Command : Type → Type 1) (Failure Value State : Type) : Type 1
  | spawn (program : Program Command Failure Value)
  | advance (thread : Nat)
  | disturb (change : State → State)

namespace Pool

def advance [Machine Command State] (pool : Pool Command Failure Value State) (thread : Nat) :
    Pool Command Failure Value State :=
  match pool.threads[thread]? with
  | some (.step command next) => {
      state := (execute command pool.state).2
      threads := pool.threads.set thread (next (execute command pool.state).1)
    }
  | _ => pool

def play [Machine Command State] (pool : Pool Command Failure Value State) :
    Move Command Failure Value State → Pool Command Failure Value State
  | .spawn program => { pool with threads := pool.threads ++ [program] }
  | .advance thread => pool.advance thread
  | .disturb change => { pool with state := change pool.state }

def playAll [Machine Command State] (pool : Pool Command Failure Value State) :
    List (Move Command Failure Value State) → Pool Command Failure Value State
  | [] => pool
  | move :: rest => (pool.play move).playAll rest

def quiescent (pool : Pool Command Failure Value State) : Bool :=
  pool.threads.all Program.finished

end Pool

end Kit
