import Cashp.Kit.Docket

/-!
For every entry of a service's record the account names the thread that made it and the call that
the thread serves.
-/

namespace Kit

variable {Command : Type → Type 1} {Failure Value State Event Call : Type}
variable [Machine Command State] {docket : Docket Command Failure Value State Event Call}

/-- An entry of the record, with the thread that made it and its call. -/
structure Deed (Call Event : Type) where
  thread : Nat
  call : Call
  event : Event

namespace Docket

def account (docket : Docket Command Failure Value State Event Call) : List (Deed Call Event) :=
  docket.log.filterMap fun item => docket.calls[item.1]?.map fun call => ⟨item.1, call, item.2⟩

def deed (docket : Docket Command Failure Value State Event Call)
    (entry : {Reply : Type} → Command Reply → State → Option Event) (thread : Nat) :
    Option (Deed Call Event) :=
  docket.calls[thread]?.bind fun call =>
    (docket.chronicle.next entry thread).map (Deed.mk thread call)

def Heeds (entry : {Reply : Type} → Command Reply → State → Option Event)
    (fine : List (Deed Call Event) → Deed Call Event → Prop) (turn : Turn State Call)
    (docket : Docket Command Failure Value State Event Call) : Prop :=
  match turn with
  | .advance thread => ∀ deed ∈ (docket.deed entry thread).toList, fine docket.account deed
  | _ => True

instance {entry : {Reply : Type} → Command Reply → State → Option Event}
    {fine : List (Deed Call Event) → Deed Call Event → Prop}
    [decides : ∀ account deed, Decidable (fine account deed)] (turn : Turn State Call)
    (docket : Docket Command Failure Value State Event Call) :
    Decidable (docket.Heeds entry fine turn) :=
  match turn with
  | .advance thread =>
    inferInstanceAs (Decidable (∀ deed ∈ (docket.deed entry thread).toList,
      fine docket.account deed))
  | .call _ | .disturb _ => inferInstanceAs (Decidable True)

end Docket

omit [Machine Command State] in
theorem Docket.eventsOf_of_account {deed : Deed Call Event} (listed : deed ∈ docket.account) :
    deed.event ∈ docket.eventsOf deed.thread := by
  obtain ⟨item, there, same⟩ := List.mem_filterMap.mp listed
  obtain ⟨call, _, rfl⟩ := Option.map_eq_some_iff.mp same
  exact Docket.mem_eventsOf.mpr there

omit [Machine Command State] in
theorem Docket.mem_account {thread : Nat} {call : Call} {event : Event}
    (called : docket.calls[thread]? = some call)
    (listed : event ∈ docket.eventsOf thread) : ⟨thread, call, event⟩ ∈ docket.account := by
  refine List.mem_filterMap.mpr ⟨_, Docket.mem_eventsOf.mp listed, ?_⟩
  rw [called, Option.map_some]

def Regime.free (entry : {Reply : Type} → Command Reply → State → Option Event) :
    Regime Command State Event where
  entry := entry
  valid _ _ := True
  rely _ _ := True
  refl _ := trivial
  trans _ _ _ _ _ := trivial
  allowed _ _ _ := True

theorem Program.abides_free {entry : {Reply : Type} → Command Reply → State → Option Event}
    (program : Program Command Failure Value) {own : List Event} {state : State} :
    program.Abides (Regime.free entry) (fun _ _ _ => True) own state := by
  induction program generalizing own state with
  | done | fail => trivial
  | step command rest ih => exact fun _ _ _ _ _ => ⟨⟨trivial, trivial⟩, ih _⟩

namespace Docket

variable {entry : {Reply : Type} → Command Reply → State → Option Event}
  {ends : Call → Except Failure Value → List Event → Prop}
  {serve : Call → Program Command Failure Value}
  {docket : Docket Command Failure Value State Event Call}

def Told (entry : {Reply : Type} → Command Reply → State → Option Event)
    (ends : Call → Except Failure Value → List Event → Prop)
    (docket : Docket Command Failure Value State Event Call) : Prop :=
  docket.Sound (Regime.free entry) fun call answer told _ => ends call answer told

theorem told_opened {state : State} :
    (opened state : Docket Command Failure Value State Event Call).Told entry ends :=
  sound_opened trivial

namespace Told

variable (told : docket.Told entry ends)

include told

theorem take (tells : ∀ call state, (serve call).Tells entry (fun _ _ => True)
      (fun answer told _ => ends call answer told) [] state) (turn : Turn State Call) :
    (docket.take entry serve turn).Told entry ends := by
  cases turn with
  | call call => exact told.called call (Program.abides_free _) (tells call _)
  | disturb => exact told.disturbed (fun _ _ _ _ _ held _ => held) trivial trivial
  | advance =>
    refine (told.advanced (fun _ _ _ _ _ held _ => held) ?_).1
    rw [Chronicle.Issues]
    split <;> trivial

theorem issued {thread : Nat} {call : Call} {Reply : Type} {command : Command Reply}
    {rest : Reply → Program Command Failure Value} (called : docket.calls[thread]? = some call)
    (there : docket.chronicle.pool.threads[thread]? = some (.step command rest)) :
    ∃ answer more, ends call answer
      (docket.eventsOf thread ++ (entry command docket.state).toList ++ more) := by
  obtain ⟨program, present, tells⟩ := Sound.told told thread call called
  rw [there] at present
  cases present
  obtain ⟨answer, more, last, reached⟩ :=
    Program.Tells.reaches (fun _ => trivial) (tells docket.state trivial)
  exact ⟨answer, more, reached⟩

theorem inside {item : Nat × Event} (listed : item ∈ docket.log) :
    item.1 < docket.calls.length := by
  rw [Sound.served told]
  exact (Sound.chronicle told).listed item listed

theorem account_call (call : Call) :
    (docket.take entry serve (.call call)).account = docket.account := by
  refine List.filterMap_congr fun item listed => ?_
  change (docket.calls ++ [call])[item.1]?.map _ = _
  rw [List.getElem?_append_left (told.inside listed)]

/-- The induction rule for invariants that speak of who called what. -/
theorem kept_take {invariant : List (Deed Call Event) → State → Prop}
    {fine : List (Deed Call Event) → Deed Call Event → Prop} {turn : Turn State Call}
    (holds : invariant docket.account docket.state)
    (each : ∀ {Reply : Type} thread call (command : Command Reply) rest,
      docket.calls[thread]? = some call →
      docket.chronicle.pool.threads[thread]? = some (.step command rest) →
      (∀ event, entry command docket.state = some event →
        fine docket.account ⟨thread, call, event⟩) →
      invariant (docket.account ++ (entry command docket.state).toList.map (Deed.mk thread call))
        (execute command docket.state).2)
    (steady : ∀ change, turn = .disturb change → invariant docket.account (change docket.state))
    (heeds : docket.Heeds entry fine turn) :
    invariant (docket.take entry serve turn).account (docket.take entry serve turn).state := by
  cases turn with
  | call =>
    rw [told.account_call]
    exact holds
  | disturb change => exact steady change rfl
  | advance thread =>
    obtain idle | ⟨Reply, command, rest, there, after⟩ :=
      advance_cases docket entry serve thread
    · rwa [idle]
    have bound : thread < docket.calls.length := by
      rw [Sound.served told]
      exact (List.getElem?_eq_some_iff.mp there).1
    have called := List.getElem?_eq_getElem bound
    have next := each thread _ command rest called there fun event noted => by
      refine heeds _ (Option.mem_toList.mpr ?_)
      have noted : docket.chronicle.next entry thread = some event := by
        rw [Chronicle.next, there]
        exact noted
      rw [deed, called, Option.bind_some, noted, Option.map_some]
    have same : (docket.take entry serve (.advance thread)).account = docket.account ++
        (entry command docket.state).toList.map (Deed.mk thread docket.calls[thread]) := by
      rw [after]
      change List.filterMap _ (docket.log ++ _) = _
      rw [List.filterMap_append]
      refine congrArg (docket.account ++ ·) ?_
      simp_all
    rw [same, after]
    exact next

end Told

end Docket

end Kit
