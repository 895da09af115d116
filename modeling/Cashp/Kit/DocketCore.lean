import Cashp.Kit.RecordCore

/-!
A service. Calls arrive one after another, each is served by a thread of its own, and the record
tells which thread did what.
-/

namespace Kit

/-- A pool with a record, and the calls that its threads serve. -/
structure Docket (Command : Type → Type 1) (Failure Value State Event Call : Type) where
  chronicle : Chronicle Command Failure Value State Event
  calls : List Call

/-- A call arrives, a thread takes a step, or the state is changed from outside. -/
inductive Turn (State Call : Type)
  | call (call : Call)
  | advance (thread : Nat)
  | disturb (change : State → State)

variable {Command : Type → Type 1} {Failure Value State Event Call : Type}
variable [Machine Command State]

namespace Docket

def take (entry : {Reply : Type} → Command Reply → State → Option Event)
    (serve : Call → Program Command Failure Value) (turn : Turn State Call)
    (docket : Docket Command Failure Value State Event Call) :
    Docket Command Failure Value State Event Call :=
  match turn with
  | .call call => ⟨docket.chronicle.play entry (.spawn (serve call)), docket.calls ++ [call]⟩
  | .advance thread => { docket with chronicle := docket.chronicle.play entry (.advance thread) }
  | .disturb change => { docket with chronicle := docket.chronicle.play entry (.disturb change) }

def opened (state : State) : Docket Command Failure Value State Event Call := ⟨.opened state, []⟩

def state (docket : Docket Command Failure Value State Event Call) : State :=
  docket.chronicle.pool.state

def log (docket : Docket Command Failure Value State Event Call) : List (Nat × Event) :=
  docket.chronicle.log

def events (docket : Docket Command Failure Value State Event Call) : List Event :=
  docket.chronicle.events

def eventsOf (docket : Docket Command Failure Value State Event Call) (thread : Nat) : List Event :=
  docket.chronicle.eventsOf thread

def answer (docket : Docket Command Failure Value State Event Call) (thread : Nat) :
    Option (Except Failure Value) :=
  match docket.chronicle.pool.threads[thread]? with
  | some (.done value) => some (.ok value)
  | some (.fail failure) => some (.error failure)
  | _ => none

def Fits (entry : {Reply : Type} → Command Reply → State → Option Event)
    (fine : Call → List Event → Event → Prop) (turn : Turn State Call)
    (docket : Docket Command Failure Value State Event Call) : Prop :=
  match turn with
  | .advance thread =>
    ∀ call ∈ docket.calls[thread]?.toList,
      ∀ event ∈ (docket.chronicle.next entry thread).toList, fine call docket.events event
  | _ => True

instance {entry : {Reply : Type} → Command Reply → State → Option Event}
    {fine : Call → List Event → Event → Prop}
    [decides : ∀ call events event, Decidable (fine call events event)] (turn : Turn State Call)
    (docket : Docket Command Failure Value State Event Call) :
    Decidable (docket.Fits entry fine turn) := by
  unfold Fits
  split <;> infer_instance

end Docket

end Kit
