import Cashp.Kit.DocketCore
import Cashp.Kit.Record

/-!
Reasoning about services. Every thread keeps what the others rely on, and ends as its call
promises.
-/

namespace Kit

variable {Command : Type → Type 1} {Failure Value State Event Call : Type}
variable [Machine Command State]

section

variable {entry : {Reply : Type} → Command Reply → State → Option Event}
  {rely : State → State → Prop} {program : Program Command Failure Value}
  {post other : Except Failure Value → List Event → State → Prop} {told : List Event}
  {state : State}

variable (entry rely program) in
theorem Program.tells_true : program.Tells entry rely (fun _ _ _ => True) told state := by
  induction program generalizing told state with
  | done | fail => trivial
  | step command rest ih => exact fun _ _ => ih _

theorem Program.tells_kept {event : Event} (listed : event ∈ told) :
    program.Tells entry rely (fun _ told _ => event ∈ told) told state := by
  induction program generalizing told state with
  | done | fail => exact listed
  | step command rest ih => exact fun _ _ => ih _ (List.mem_append_left _ listed)

theorem Program.Tells.and (one : program.Tells entry rely post told state)
    (second : program.Tells entry rely other told state) :
    program.Tells entry rely (fun answer told state => post answer told state ∧
      other answer told state) told state := by
  induction program generalizing told state with
  | done | fail => exact ⟨one, second⟩
  | step command rest ih =>
    exact fun later follows => ih _ (one later follows) (second later follows)

theorem Program.Tells.later {later : State} (held : program.Tells entry rely post told state)
    (follows : rely state later)
    (trans : ∀ first second third, rely first second → rely second third → rely first third)
    (stable : ∀ answer told first second, post answer told first → rely first second →
      post answer told second) : program.Tells entry rely post told later := by
  cases program with
  | done | fail => exact stable _ _ _ _ held follows
  | step => exact fun last further => held last (trans _ _ _ follows further)

theorem Program.Tells.reaches (refl : ∀ state, rely state state)
    (held : program.Tells entry rely post told state) :
    ∃ answer more last, post answer (told ++ more) last := by
  induction program generalizing told state with
  | done | fail => exact ⟨_, [], state, by rwa [List.append_nil]⟩
  | step command rest ih =>
    obtain ⟨answer, more, last, reached⟩ := ih _ (held state (refl state))
    exact ⟨answer, _, last, by rwa [List.append_assoc] at reached⟩

end

namespace Docket

variable {regime : Regime Command State Event}
  {ends : Call → Except Failure Value → List Event → State → Prop}
  {serve : Call → Program Command Failure Value}
  {docket : Docket Command Failure Value State Event Call}
variable {thread : Nat} {event : Event} {invariant : List Event → State → Prop}
variable {fine : Call → List Event → Event → Prop} {turn : Turn State Call}
variable {entry : {Reply : Type} → Command Reply → State → Option Event}

structure Sound (regime : Regime Command State Event)
    (ends : Call → Except Failure Value → List Event → State → Prop)
    (docket : Docket Command Failure Value State Event Call) : Prop where
  served : docket.calls.length = docket.chronicle.pool.threads.length
  chronicle : docket.chronicle.Sound regime fun _ _ => True
  told : ∀ thread call, docket.calls[thread]? = some call →
    ∃ program : Program Command Failure Value,
      docket.chronicle.pool.threads[thread]? = some program ∧
      program.Tells regime.entry regime.rely (ends call) (docket.eventsOf thread) docket.state

theorem sound_opened {state : State} (valid : regime.valid [] state) :
    (opened state : Docket Command Failure Value State Event Call).Sound regime ends :=
  ⟨rfl, Chronicle.sound_opened valid, fun _ _ present => by simp [opened] at present⟩

/-- Every answer is as its call promises. -/
theorem Sound.answered (sound : docket.Sound regime ends) {call : Call}
    {answer : Except Failure Value} (called : docket.calls[thread]? = some call)
    (answered : docket.answer thread = some answer) :
    ends call answer (docket.eventsOf thread) docket.state := by
  obtain ⟨program, present, tells⟩ := sound.told thread call called
  rw [Docket.answer, present] at answered
  cases program with
  | done | fail =>
    cases answered
    exact tells
  | step => cases answered

theorem Sound.so_far {tale : Call → List Event → Prop} (sound : docket.Sound regime ends)
    (ended : ∀ call answer told state, ends call answer told state → tale call told)
    (closed : ∀ call told more, tale call (told ++ more) → tale call told) {call : Call}
    (called : docket.calls[thread]? = some call) : tale call (docket.eventsOf thread) := by
  obtain ⟨program, _, tells⟩ := sound.told thread call called
  obtain ⟨answer, more, last, reached⟩ := tells.reaches regime.refl
  exact closed call _ more (ended _ _ _ _ reached)

omit [Machine Command State] in
theorem mem_eventsOf : event ∈ docket.eventsOf thread ↔ (thread, event) ∈ docket.log := by
  simp only [eventsOf, Chronicle.eventsOf, List.mem_map, List.mem_filter, beq_iff_eq]
  simp [Docket.log]

theorem advance_cases (docket : Docket Command Failure Value State Event Call)
    (entry : {Reply : Type} → Command Reply → State → Option Event)
    (serve : Call → Program Command Failure Value) (thread : Nat) :
    docket.take entry serve (.advance thread) = docket ∨
      ∃ (Reply : Type) (command : Command Reply) (rest : Reply → Program Command Failure Value),
        docket.chronicle.pool.threads[thread]? = some (.step command rest) ∧
          docket.take entry serve (.advance thread) = ⟨⟨⟨(execute command docket.state).2,
              docket.chronicle.pool.threads.set thread (rest (execute command docket.state).1)⟩,
              docket.log ++ (entry command docket.state).toList.map (Prod.mk thread)⟩,
              docket.calls⟩ := by
  cases present : docket.chronicle.pool.threads[thread]? with
  | none => exact .inl (by simp [take, Chronicle.play, present])
  | some program =>
    cases program with
    | done | fail => exact .inl (by simp [take, Chronicle.play, present])
    | step command rest =>
      exact .inr ⟨_, command, rest, rfl, by
        simp [take, Chronicle.play, present, Pool.play, Pool.advance, state, log]⟩

section

variable (sound : docket.Sound regime ends)
  (stable : ∀ call answer told first second, ends call answer told first →
    regime.rely first second → ends call answer told second)

include sound in
theorem Sound.called (call : Call)
    (abides : (serve call).Abides regime (fun _ _ _ => True) [] docket.state)
    (tells : (serve call).Tells regime.entry regime.rely (ends call) [] docket.state) :
    (docket.take regime.entry serve (.call call)).Sound regime ends := by
  have grown : (docket.take regime.entry serve (.call call)).chronicle.pool.threads =
      docket.chronicle.pool.threads ++ [serve call] := rfl
  refine ⟨?_, sound.chronicle.spawn abides, fun thread other present => ?_⟩
  · rw [grown, List.length_append, ← sound.served]
    exact List.length_append
  change (docket.calls ++ [call])[thread]? = some other at present
  rw [grown]
  rcases place_of_concat present with old | ⟨rfl, rfl⟩
  · have before := (List.getElem?_eq_some_iff.mp old).1
    rw [List.getElem?_append_left (sound.served ▸ before)]
    exact sound.told thread other old
  refine ⟨serve other, by rw [sound.served, List.getElem?_concat_length], ?_⟩
  have nothing := Chronicle.eventsOf_new sound.chronicle.listed
  rw [← sound.served] at nothing
  change (serve other).Tells _ _ _ (docket.chronicle.eventsOf _) _
  rw [nothing]
  exact tells

include sound stable in
theorem Sound.disturbed {change : State → State}
    (valid : regime.valid docket.events (change docket.state))
    (rely : regime.rely docket.state (change docket.state)) :
    (docket.take regime.entry serve (.disturb change)).Sound regime ends := by
  refine ⟨sound.served, sound.chronicle.disturb valid rely, fun thread call present => ?_⟩
  obtain ⟨program, there, tells⟩ := sound.told thread call present
  exact ⟨program, there, tells.later rely regime.trans (stable call)⟩

include sound stable in
theorem Sound.advanced {thread : Nat}
    (issues : docket.chronicle.Issues regime.allowed (.advance thread)) :
    (docket.take regime.entry serve (.advance thread)).Sound regime ends ∧
      regime.rely docket.state (docket.take regime.entry serve (.advance thread)).state := by
  obtain ⟨chronicle, rely⟩ := sound.chronicle.advance issues
  obtain idle | ⟨Reply, command, rest, there, after⟩ :=
    advance_cases docket regime.entry serve thread
  · rw [idle]
    exact ⟨sound, regime.refl _⟩
  refine ⟨⟨?_, chronicle, fun other call present => ?_⟩, rely⟩
  · rw [after]
    exact sound.served.trans List.length_set.symm
  have told : (docket.take regime.entry serve (.advance thread)).eventsOf other =
      docket.eventsOf other ++ if other = thread then
        (docket.chronicle.next regime.entry thread).toList else [] :=
    Chronicle.eventsOf_advance thread other
  have next : docket.chronicle.next regime.entry thread = regime.entry command docket.state := by
    rw [Chronicle.next, there]
    rfl
  have state : (docket.take regime.entry serve (.advance thread)).state =
      (execute command docket.state).2 := by
    rw [after]
    rfl
  rw [told, next]
  have inside : thread < docket.chronicle.pool.threads.length :=
    (List.getElem?_eq_some_iff.mp there).1
  obtain ⟨program, before, tells⟩ := sound.told other call (by rwa [after] at present)
  by_cases own : other = thread
  · subst own
    rw [there] at before
    cases before
    refine ⟨rest (execute command docket.state).1, ?_, ?_⟩
    · rw [after]
      exact List.getElem?_set_self inside
    · rw [if_pos rfl, state]
      exact tells docket.state (regime.refl _)
  · refine ⟨program, ?_, ?_⟩
    · rw [after]
      exact (List.getElem?_set_ne (Ne.symm own)).trans before
    · rw [if_neg own, List.append_nil]
      exact tells.later rely regime.trans (stable call)

end

/-- The induction rule for invariants of the record and the state. -/
theorem kept_take (holds : invariant docket.events docket.state)
    (each : ∀ {Reply : Type} (command : Command Reply) events state, invariant events state →
      invariant (events ++ (entry command state).toList) (execute command state).2)
    (steady : ∀ change, turn = .disturb change → invariant docket.events (change docket.state)) :
    invariant (docket.take entry serve turn).events (docket.take entry serve turn).state := by
  cases turn with
  | call => exact holds
  | disturb change => exact steady change rfl
  | advance thread =>
    obtain idle | ⟨Reply, command, rest, there, after⟩ :=
      advance_cases docket entry serve thread
    · rwa [idle]
    have next := each command _ _ holds
    rw [after]
    simpa [events, Chronicle.events, Function.comp_def, log, Docket.state] using next

theorem Sound.fits_advance {Reply : Type} {command : Command Reply}
    {rest : Reply → Program Command Failure Value} (sound : docket.Sound regime ends)
    (there : docket.chronicle.pool.threads[thread]? = some (.step command rest))
    (fits : docket.Fits regime.entry fine (.advance thread)) :
    ∃ call, docket.calls[thread]? = some call ∧ ∀ event,
      regime.entry command docket.state = some event → fine call docket.events event := by
  have inside : thread < docket.calls.length := by
    rw [sound.served]
    exact (List.getElem?_eq_some_iff.mp there).1
  refine ⟨_, List.getElem?_eq_getElem inside, fun event noted => ?_⟩
  refine fits _ (Option.mem_toList.mpr (List.getElem?_eq_getElem inside)) event ?_
  rw [Chronicle.next, there]
  exact Option.mem_toList.mpr noted

theorem Sound.kept_take (sound : docket.Sound regime ends)
    (holds : invariant docket.events docket.state)
    (each : ∀ {Reply : Type} (command : Command Reply) events state, invariant events state →
      (∀ event, regime.entry command state = some event → ∃ call, fine call events event) →
      invariant (events ++ (regime.entry command state).toList) (execute command state).2)
    (steady : ∀ change, turn = .disturb change → invariant docket.events (change docket.state))
    (fits : docket.Fits regime.entry fine turn) :
    invariant (docket.take regime.entry serve turn).events
      (docket.take regime.entry serve turn).state := by
  cases turn with
  | call => exact holds
  | disturb change => exact steady change rfl
  | advance thread =>
    obtain idle | ⟨Reply, command, rest, there, after⟩ :=
      advance_cases docket regime.entry serve thread
    · rwa [idle]
    obtain ⟨call, _, allowed⟩ := sound.fits_advance there fits
    have next := each command _ _ holds fun event noted => ⟨call, allowed event noted⟩
    rw [after]
    simpa [events, Chronicle.events, Function.comp_def, log, Docket.state] using next

/-- A new entry of the log was noted by the command that led to the new state. -/
theorem mem_log_take (listed : (thread, event) ∈ (docket.take entry serve turn).log) :
    (thread, event) ∈ docket.log ∨ ∃ (Reply : Type) (command : Command Reply),
      entry command docket.state = some event ∧
        (docket.take entry serve turn).state = (execute command docket.state).2 := by
  cases turn with
  | call | disturb => exact .inl listed
  | advance mover =>
    obtain idle | ⟨Reply, command, rest, there, after⟩ := advance_cases docket entry serve mover
    · exact .inl (idle ▸ listed)
    grind [Docket.log, Docket.state]

def Recorded (good : Call → Event → Prop)
    (docket : Docket Command Failure Value State Event Call) : Prop :=
  ∀ thread call event, docket.calls[thread]? = some call → (thread, event) ∈ docket.log →
    good call event

theorem Recorded.take {good : Call → Event → Prop}
    (recorded : docket.Recorded good) (sound : docket.Sound regime ends)
    (fits : docket.Fits regime.entry (fun call _ event => good call event) turn) :
    (docket.take regime.entry serve turn).Recorded good := by
  intro thread call event called listed
  cases turn with
  | disturb => exact recorded thread call event called listed
  | call added =>
    refine recorded thread call event ?_ listed
    have inside : thread < docket.calls.length := by
      rw [sound.served]
      exact sound.chronicle.listed _ listed
    rwa [show (docket.take regime.entry serve (.call added)).calls = docket.calls ++ [added] from
      rfl, List.getElem?_append_left inside] at called
  | advance mover =>
    obtain idle | ⟨Reply, command, rest, there, after⟩ :=
      advance_cases docket regime.entry serve mover
    · rw [idle] at called listed
      exact recorded thread call event called listed
    rw [after] at called listed
    rcases List.mem_append.mp listed with before | new
    · exact recorded thread call event called before
    obtain ⟨noted, present, same⟩ := List.mem_map.mp new
    cases same
    obtain ⟨mover, moving, allowed⟩ := sound.fits_advance there fits
    rw [moving] at called
    cases called
    exact allowed event (Option.mem_toList.mp present)

end Docket

end Kit
