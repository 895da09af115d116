/-!
Runs of steps taken one after another. A condition on every step of a run is
established from an invariant of the states the run goes through.
-/

namespace Kit

universe u v w

variable {Step : Type u} {State : Type v}

/-- The condition holds of every step in the state it is taken in. -/
def Every (take : Step → State → State) (holds : Step → State → Prop) : State → List Step → Prop
  | _, [] => True
  | state, step :: rest => holds step state ∧ Every take holds (take step state) rest

instance {take : Step → State → State} {holds : Step → State → Prop}
    [∀ step state, Decidable (holds step state)] :
    ∀ state steps, Decidable (Every take holds state steps)
  | _, [] => isTrue trivial
  | state, step :: rest =>
    have : Decidable (Every take holds (take step state) rest) :=
      instDecidableEvery (take step state) rest
    inferInstanceAs (Decidable (_ ∧ _))

variable {take : Step → State → State} {fits holds wanted : Step → State → Prop}
variable {state : State} {steps : List Step} (invariant : State → Prop) {Part : Type w}
variable {move : Step → Part → Part}

theorem every_iff_of_invariant (start : invariant state) (fine : Every take fits state steps)
    (keeps : ∀ step state, invariant state → fits step state → invariant (take step state))
    (same : ∀ step state, invariant state → fits step state →
      (holds step state ↔ wanted step state)) :
    Every take holds state steps ↔ Every take wanted state steps := by
  induction steps generalizing state with
  | nil => exact Iff.rfl
  | cons step rest ih =>
    exact and_congr (same step state start fine.1) (ih (keeps step state start fine.1) fine.2)

theorem every_iff_of_kept (start : invariant state) (fine : Every take fits state steps)
    (same : ∀ step state, invariant state → fits step state →
      (holds step state ↔ wanted step state))
    (keeps : ∀ step state, invariant state → fits step state → wanted step state →
      invariant (take step state)) :
    Every take holds state steps ↔ Every take wanted state steps := by
  induction steps generalizing state with
  | nil => exact Iff.rfl
  | cons step rest ih =>
    have here := same step state start fine.1
    constructor
    · rintro ⟨held, later⟩
      have met := here.mp held
      exact ⟨met, (ih (keeps step state start fine.1 met) fine.2).mp later⟩
    · rintro ⟨met, later⟩
      exact ⟨here.mpr met, (ih (keeps step state start fine.1 met) fine.2).mpr later⟩

theorem every_of_invariant (start : invariant state) (fine : Every take fits state steps)
    (step : ∀ step state, invariant state → fits step state →
      holds step state ∧ invariant (take step state)) : Every take holds state steps := by
  induction steps generalizing state with
  | nil => trivial
  | cons first rest ih =>
    have here := step first state start fine.1
    exact ⟨here.1, ih here.2 fine.2⟩

theorem every_of_kept (start : invariant state)
    (step : ∀ step state, invariant state → holds step state ∧ invariant (take step state)) :
    Every take holds state steps := by
  induction steps generalizing state with
  | nil => trivial
  | cons first rest ih =>
    have here := step first state start
    exact ⟨here.1, ih here.2⟩

theorem Every.and (first : Every take fits state steps) (second : Every take holds state steps) :
    Every take (fun step state => fits step state ∧ holds step state) state steps := by
  induction steps generalizing state with
  | nil => trivial
  | cons step rest ih => exact ⟨⟨first.1, second.1⟩, ih first.2 second.2⟩

theorem every_of_forall {listed : Step → Prop} (each : ∀ step ∈ steps, listed step) :
    Every take (fun step _ => listed step) state steps := by
  induction steps generalizing state with
  | nil => trivial
  | cons step rest ih =>
    exact ⟨each step List.mem_cons_self, ih fun other member =>
      each other (List.mem_cons_of_mem _ member)⟩

def lastState (take : Step → State → State) : State → List Step → State
  | state, [] => state
  | state, step :: rest => lastState take (take step state) rest

theorem lastState_append (more : List Step) :
    lastState take state (steps ++ more) = lastState take (lastState take state steps) more := by
  induction steps generalizing state with
  | nil => rfl
  | cons step rest ih => exact ih

/-- The rule for invariants that steps keep under a condition. -/
theorem lastState_of_invariant (start : invariant state) (fine : Every take fits state steps)
    (keeps : ∀ step state, invariant state → fits step state → invariant (take step state)) :
    invariant (lastState take state steps) := by
  induction steps generalizing state with
  | nil => exact start
  | cons step rest ih => exact ih (keeps step state start fine.1) fine.2

/-- The rule for invariants that every step keeps. -/
theorem lastState_of_kept (start : invariant state)
    (keeps : ∀ step state, invariant state → invariant (take step state)) :
    invariant (lastState take state steps) := by
  induction steps generalizing state with
  | nil => exact start
  | cons step rest ih => exact ih (keeps step state start)

theorem every_along (part : State → Part) {kept : Step → Part → Prop}
    (follows : ∀ step state, part (take step state) = move step (part state)) :
    Every take (fun step state => kept step (part state)) state steps ↔
      Every move kept (part state) steps := by
  induction steps generalizing state with
  | nil => exact Iff.rfl
  | cons step rest ih =>
    refine and_congr Iff.rfl (ih.trans ?_)
    rw [follows]

theorem lastState_along (part : State → Part)
    (follows : ∀ step state, part (take step state) = move step (part state)) :
    part (lastState take state steps) = lastState move (part state) steps := by
  induction steps generalizing state with
  | nil => rfl
  | cons step rest ih => rw [lastState, ih, follows, lastState]

theorem lastState_filtered (part : State → Part)
    {concerns : Step → Bool} (start : invariant state) (fine : Every take fits state steps)
    (keeps : ∀ step state, invariant state → fits step state → invariant (take step state))
    (follows : ∀ step state, invariant state → fits step state →
      part (take step state) = move step (part state))
    (idle : ∀ step before, concerns step = false → move step before = before) :
    part (lastState take state steps) = lastState move (part state) (steps.filter concerns) := by
  induction steps generalizing state with
  | nil => rfl
  | cons step rest ih =>
    have next := ih (keeps step state start fine.1) fine.2
    rw [follows step state start fine.1] at next
    rw [lastState, next]
    cases concerned : concerns step with
    | true => rw [List.filter_cons_of_pos concerned, lastState]
    | false => rw [List.filter_cons_of_neg (Bool.eq_false_iff.mp concerned), idle _ _ concerned]

section

variable {Item : Type u} {Other : Type v} {items : List Item} {more : List Other}
variable {item new : Item} {other added : Other} {place index : Nat}

theorem place_of_append {later : List Item} (here : (items ++ later)[place]? = some item) :
    items[place]? = some item ∨
      items.length ≤ place ∧ later[place - items.length]? = some item := by
  rcases Nat.lt_or_ge place items.length with inside | past
  · rw [List.getElem?_append_left inside] at here
    exact .inl here
  · rw [List.getElem?_append_right past] at here
    exact .inr ⟨past, here⟩

theorem place_of_concat (here : (items ++ [new])[place]? = some item) :
    items[place]? = some item ∨ place = items.length ∧ item = new := by
  refine (place_of_append here).imp_right fun ⟨past, last⟩ => ?_
  rw [List.getElem?_singleton] at last
  obtain ⟨first, same⟩ := Option.ite_none_right_eq_some.mp last
  exact ⟨by omega, (Option.some.inj same).symm⟩

theorem place_of_set (here : (items.set index new)[place]? = some item) :
    place = index ∧ item = new ∨ place ≠ index ∧ items[place]? = some item := by
  rw [List.getElem?_set] at here
  split at here
  · rename_i same
    exact .inl ⟨same.symm, (Option.some.inj (Option.ite_none_right_eq_some.mp here).2).symm⟩
  · rename_i different
    exact .inr ⟨Ne.symm different, here⟩

theorem pairs_of_concat {holds : Nat → Item → Other → Prop} (sizes : more.length = items.length)
    (each : ∀ place item other, items[place]? = some item → more[place]? = some other →
      holds place item other) (last : holds items.length new added) (place : Nat) (item : Item)
    (other : Other) (here : (items ++ [new])[place]? = some item)
    (there : (more ++ [added])[place]? = some other) : holds place item other := by
  rcases place_of_concat here with old | ⟨rfl, rfl⟩
  · have inside := (List.getElem?_eq_some_iff.mp old).1
    rw [List.getElem?_append_left (sizes ▸ inside)] at there
    exact each place item other old there
  · rw [← sizes, List.getElem?_concat_length, Option.some.injEq] at there
    exact there ▸ last

end

end Kit
