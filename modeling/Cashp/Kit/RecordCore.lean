import Cashp.Kit.ProgramCore

/-!
Pools with a record: commands worth writing down leave an entry with the thread that issued them.
-/

namespace Kit

/-- A pool and its record, with the thread of every entry. -/
structure Chronicle (Command : Type → Type 1) (Failure Value State Event : Type) where
  pool : Pool Command Failure Value State
  log : List (Nat × Event)

variable {Command : Type → Type 1} {Failure Value State Event : Type} [Machine Command State]

namespace Chronicle

def play (entry : {Reply : Type} → Command Reply → State → Option Event)
    (move : Move Command Failure Value State)
    (chronicle : Chronicle Command Failure Value State Event) :
    Chronicle Command Failure Value State Event :=
  match move with
  | .advance thread =>
    match chronicle.pool.threads[thread]? with
    | some (.step command _) =>
      { pool := chronicle.pool.play (.advance thread)
        log := chronicle.log ++
          (entry command chronicle.pool.state).toList.map (Prod.mk thread) }
    | _ => chronicle
  | other => { chronicle with pool := chronicle.pool.play other }

def events (chronicle : Chronicle Command Failure Value State Event) : List Event :=
  chronicle.log.map Prod.snd

def eventsOf (chronicle : Chronicle Command Failure Value State Event) (thread : Nat) :
    List Event :=
  (chronicle.log.filter fun item => item.1 == thread).map Prod.snd

def next (entry : {Reply : Type} → Command Reply → State → Option Event)
    (chronicle : Chronicle Command Failure Value State Event) (thread : Nat) : Option Event :=
  match chronicle.pool.threads[thread]? with
  | some (.step command _) => entry command chronicle.pool.state
  | _ => none

def Issues (allowed : {Reply : Type} → Command Reply → List Event → State → Prop)
    (move : Move Command Failure Value State)
    (chronicle : Chronicle Command Failure Value State Event) : Prop :=
  match move with
  | .advance thread =>
    match chronicle.pool.threads[thread]? with
    | some (.step command _) => allowed command chronicle.events chronicle.pool.state
    | _ => True
  | _ => True

instance {allowed : {Reply : Type} → Command Reply → List Event → State → Prop}
    [decides : ∀ {Reply : Type} (command : Command Reply) (events : List Event) (state : State),
      Decidable (allowed command events state)] (move : Move Command Failure Value State)
    (chronicle : Chronicle Command Failure Value State Event) :
    Decidable (chronicle.Issues allowed move) := by
  unfold Issues
  split
  · split <;> infer_instance
  · infer_instance

def opened (state : State) : Chronicle Command Failure Value State Event :=
  ⟨⟨state, []⟩, []⟩

end Chronicle

end Kit
