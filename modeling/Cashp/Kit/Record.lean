import Cashp.Kit.RecordCore
import Cashp.Kit.Run
import Cashp.Kit.Terms
import Mathlib.Data.List.Nodup
import Mathlib.Data.List.Pairwise

/-!
Pools with a record. A program is right if it keeps the record valid and what the others rely on,
whatever they do in between, and if its answer fits what it wrote down.
-/

namespace Kit

/-- Which entries commands leave, which commands are allowed, and what the threads rely on. -/
structure Regime (Command : Type → Type 1) (State Event : Type) where
  entry : {Reply : Type} → Command Reply → State → Option Event
  valid : List Event → State → Prop
  rely : State → State → Prop
  refl : ∀ state, rely state state
  trans : ∀ first second third, rely first second → rely second third → rely first third
  allowed : {Reply : Type} → Command Reply → List Event → State → Prop

variable {Command : Type → Type 1} {Failure Value Result State Event : Type}
variable [Machine Command State]

structure Regime.Keeps (regime : Regime Command State Event) {Reply : Type}
    (command : Command Reply) (events : List Event) (state : State) : Prop where
  valid : regime.valid (events ++ (regime.entry command state).toList) (execute command state).2
  rely : regime.rely state (execute command state).2

def Regime.terms (regime : Regime Command State Event) : Terms Command (List Event) State where
  rely := regime.rely
  refl := regime.refl
  trans := regime.trans
  before command after own state := ∀ later events, regime.rely state later →
    regime.valid events later → regime.allowed command events later →
      regime.Keeps command events later ∧ after (execute command later).1
        (own ++ (regime.entry command later).toList) (execute command later).2
  mono held widen later events follows valid allowed := by
    obtain ⟨keeps, onward⟩ := held later events follows valid allowed
    exact ⟨keeps, widen _ _ _ (regime.trans _ _ _ follows keeps.rely) onward⟩

instance (regime : Regime Command State Event) : regime.terms.Steady where
  later _ _ _ _ _ follows held last events further :=
    held last events (regime.trans _ _ _ follows further)

abbrev Program.Abides (regime : Regime Command State Event)
    (post : Except Failure Value → List Event → State → Prop)
    (program : Program Command Failure Value) (own : List Event) (state : State) : Prop :=
  program.Under regime.terms post own state

open Program

def Regime.Silent (regime : Regime Command State Event) {Reply : Type}
    (command : Command Reply) : Prop :=
  ∀ events state, regime.valid events state → regime.allowed command events state →
    regime.Keeps command events state ∧ regime.entry command state = none

section

variable {regime : Regime Command State Event} {program : Program Command Failure Value}
  {own : List Event} {state : State}

theorem silent_then {command : Command Value} {next : Value → Program Command Failure Result}
    {after : Except Failure Result → List Event → State → Prop} (silent : regime.Silent command)
    (each : ∀ later events, regime.rely state later → regime.valid events later →
      (next (execute command later).1).Abides regime after own (execute command later).2) :
    ((perform command : Program Command Failure Value) >>= next).Abides regime after own state := by
  refine under_then fun later events follows valid allowed => ?_
  obtain ⟨keeps, nothing⟩ := silent events later valid allowed
  grind

theorem abides_of_uses (uses : program.Uses regime.Silent) :
    program.Abides regime (fun _ written _ => written = own) own state := by
  refine under_of_uses (uses.mono fun command silent own state same later events _ valid allowed =>
    ?_) rfl
  grind [Regime.Silent]

end

def Regime.Lawful (regime : Regime Command State Event) {Reply : Type}
    (command : Command Reply) : Prop :=
  ∀ events state, regime.valid events state → regime.allowed command events state →
    regime.Keeps command events state

section

variable {regime : Regime Command State Event} {program : Program Command Failure Value}
  {own : List Event} {state : State}

theorem abides_of_lawful (uses : program.Uses regime.Lawful) :
    program.Abides regime (fun _ _ _ => True) own state :=
  under_of_uses (uses.mono fun _ lawful _ _ _ later events _ valid allowed =>
    ⟨lawful events later valid allowed, trivial⟩) trivial

end

def Regime.retold {Other : Type} (regime : Regime Command State Event)
    (entry : {Reply : Type} → Command Reply → State → Option Other) :
    Regime Command State Other where
  entry := entry
  valid _ state := ∃ events, regime.valid events state
  rely := regime.rely
  refl := regime.refl
  trans := regime.trans
  allowed command _ state := ∀ events, regime.valid events state →
    regime.allowed command events state

section

variable {Other : Type} {regime : Regime Command State Event}
  {program : Program Command Failure Value} {next : Value → Program Command Failure Result}
  {entry : {Reply : Type} → Command Reply → State → Option Other}
  {rely : State → State → Prop} {own : List Event} {told : List Other} {state : State}
variable {post : Except Failure Value → List Event → State → Prop}

def telling (entry : {Reply : Type} → Command Reply → State → Option Other)
    (rely : State → State → Prop) : Terms Command (List Other) State where
  rely _ _ := True
  refl _ := trivial
  trans _ _ _ _ _ := trivial
  before command after told state := ∀ later, rely state later →
    after (execute command later).1 (told ++ (entry command later).toList)
      (execute command later).2
  mono held widen later follows := widen _ _ _ trivial (held later follows)

abbrev Program.Tells (entry : {Reply : Type} → Command Reply → State → Option Other)
    (rely : State → State → Prop) (post : Except Failure Value → List Other → State → Prop)
    (program : Program Command Failure Value) (told : List Other) (state : State) : Prop :=
  program.Under (telling entry rely) post told state

theorem Program.tells_of_uses {tale : List Other → Prop}
    (uses : program.Uses fun {Reply} (command : Command Reply) => ∀ told state, tale told →
      tale (told ++ (entry command state).toList))
    (begun : tale told) : program.Tells entry rely (fun _ told _ => tale told) told state :=
  under_of_uses (uses.mono fun _ keeps told _ holds later _ => keeps told later holds) begun

theorem Program.Abides.retold {tale : Except Failure Value → List Other → State → Prop}
    (held : program.Abides regime post own state)
    (tells : program.Tells entry regime.rely tale told state) :
    program.Abides (regime.retold entry) tale told state := by
  induction program generalizing own told state with
  | done | fail => exact tells
  | step command rest ih =>
    rintro later events follows ⟨booked, valid⟩ allowed
    obtain ⟨keeps, onward⟩ := held later booked follows valid (allowed booked valid)
    exact ⟨⟨⟨_, keeps.valid⟩, keeps.rely⟩, ih _ onward (tells later follows)⟩

theorem Program.Abides.reaches {events : List Event} (held : program.Abides regime post own state)
    (valid : regime.valid events state)
    (free : ∀ {Reply : Type} (command : Command Reply) (events : List Event) (state : State),
      regime.allowed command events state) :
    ∃ answer more last, post answer (own ++ more) last := by
  induction program generalizing own events state with
  | done | fail => exact ⟨_, [], state, by rwa [List.append_nil]⟩
  | step command rest ih =>
    obtain ⟨keeps, onward⟩ := held state events (regime.refl state) valid (free _ _ _)
    obtain ⟨answer, more, last, reached⟩ := ih _ onward keeps.valid
    exact ⟨answer, _, last, by rwa [List.append_assoc] at reached⟩

end

namespace Chronicle

variable {regime : Regime Command State Event} {ends : Except Failure Value → List Event → Prop}
variable {chronicle : Chronicle Command Failure Value State Event}
variable {entry : {Reply : Type} → Command Reply → State → Option Event}

structure Sound (regime : Regime Command State Event)
    (ends : Except Failure Value → List Event → Prop)
    (chronicle : Chronicle Command Failure Value State Event) : Prop where
  valid : regime.valid chronicle.events chronicle.pool.state
  listed : ∀ item ∈ chronicle.log, item.1 < chronicle.pool.threads.length
  threads : ∀ (index : Nat) (thread : Program Command Failure Value),
    chronicle.pool.threads[index]? = some thread →
      thread.Abides regime (fun answer own _ => ends answer own) (chronicle.eventsOf index)
        chronicle.pool.state

theorem sound_opened {state : State} (valid : regime.valid [] state) :
    (opened state : Chronicle Command Failure Value State Event).Sound regime ends :=
  ⟨valid, fun _ member => by simp [opened] at member,
    fun _ _ present => by simp [opened] at present⟩

omit [Machine Command State] in
theorem eventsOf_new (listed : ∀ item ∈ chronicle.log, item.1 < chronicle.pool.threads.length) :
    chronicle.eventsOf chronicle.pool.threads.length = [] := by
  simp only [eventsOf, List.map_eq_nil_iff, List.filter_eq_nil_iff, beq_iff_eq]
  intro item member same
  have inside := listed item member
  omega

theorem threads_le_play (move : Move Command Failure Value State) :
    chronicle.pool.threads.length ≤ (chronicle.play entry move).pool.threads.length := by
  cases move with
  | spawn =>
    simp only [play, Pool.play, List.length_append]
    exact Nat.le_add_right _ _
  | disturb => exact Nat.le_refl _
  | advance =>
    rw [play]
    split
    · simp only [Pool.play, Pool.advance]
      split
      · exact Nat.le_of_eq List.length_set.symm
      · exact Nat.le_refl _
    · exact Nat.le_refl _

theorem Sound.spawn {program : Program Command Failure Value} (sound : chronicle.Sound regime ends)
    (abides : program.Abides regime (fun answer own _ => ends answer own) []
      chronicle.pool.state) :
    (chronicle.play regime.entry (.spawn program)).Sound regime ends := by
  have grown : (chronicle.play regime.entry (.spawn program)).pool.threads =
      chronicle.pool.threads ++ [program] := rfl
  refine ⟨sound.valid, fun item member => ?_, fun index thread present => ?_⟩
  · have before := sound.listed item member
    rw [grown, List.length_append]
    omega
  rcases place_of_concat present with old | ⟨rfl, rfl⟩
  · exact sound.threads index thread old
  change thread.Abides regime _ (chronicle.eventsOf _) _
  rw [eventsOf_new sound.listed]
  exact abides

theorem Sound.disturb {change : State → State} (sound : chronicle.Sound regime ends)
    (valid : regime.valid chronicle.events (change chronicle.pool.state))
    (rely : regime.rely chronicle.pool.state (change chronicle.pool.state)) :
    (chronicle.play regime.entry (.disturb change)).Sound regime ends :=
  ⟨valid, sound.listed, fun index thread present =>
    (sound.threads index thread present).later rely fun _ _ _ _ held _ => held⟩

/-- If every program abides by the regime, a step of one leaves all of them right. -/
theorem Sound.advance {thread : Nat} (sound : chronicle.Sound regime ends)
    (issues : chronicle.Issues regime.allowed (.advance thread)) :
    (chronicle.play regime.entry (.advance thread)).Sound regime ends ∧
      regime.rely chronicle.pool.state
        (chronicle.play regime.entry (.advance thread)).pool.state := by
  cases present : chronicle.pool.threads[thread]? with
  | none => simpa [play, present] using ⟨sound, regime.refl _⟩
  | some program =>
    cases program with
    | done | fail => simpa [play, present] using ⟨sound, regime.refl _⟩
    | step command =>
      have inside : thread < chronicle.pool.threads.length :=
        (List.getElem?_eq_some_iff.mp present).1
      have allowed : regime.allowed command chronicle.events chronicle.pool.state := by
        simpa only [Issues, present] using issues
      obtain ⟨keeps, onward⟩ := sound.threads thread _ present chronicle.pool.state
        chronicle.events (regime.refl _) sound.valid allowed
      simp only [play, present, Pool.play, Pool.advance]
      refine ⟨⟨?_, fun item member => ?_, fun other program there => ?_⟩, keeps.rely⟩
      · simpa [events, Function.comp_def] using keeps.valid
      · rw [List.length_set]
        rcases List.mem_append.mp member with before | added
        · exact sound.listed item before
        · obtain ⟨event, _, rfl⟩ := List.mem_map.mp added
          exact inside
      · by_cases same : other = thread
        · subst same
          rw [List.getElem?_set_self inside, Option.some.injEq] at there
          rw [← there]
          simpa [eventsOf, List.filter_map, Function.comp_def] using onward
        · rw [List.getElem?_set_ne (Ne.symm same)] at there
          have held := (sound.threads other program there).later keeps.rely
            fun _ _ _ _ ends _ => ends
          have different : (thread == other) = false := by simpa using Ne.symm same
          simpa [eventsOf, List.filter_map, Function.comp_def, different] using held

omit [Machine Command State] in
theorem issues_of_free {allowed : {Reply : Type} → Command Reply → List Event → State → Prop}
    (free : ∀ {Reply : Type} (command : Command Reply) (events : List Event) (state : State),
      allowed command events state) (move : Move Command Failure Value State) :
    chronicle.Issues allowed move := by
  cases move with
  | spawn | disturb => trivial
  | advance =>
    simp only [Issues]
    split
    · exact free _ _ _
    · trivial

theorem eventsOf_advance (thread index : Nat) :
    (chronicle.play entry (.advance thread)).eventsOf index = chronicle.eventsOf index ++
      if index = thread then (chronicle.next entry thread).toList else [] := by
  rw [play, next]
  cases chronicle.pool.threads[thread]? with
  | none => simp
  | some program =>
    cases program with
    | done | fail => simp
    | step =>
      by_cases same : index = thread
      · subst same
        simp [eventsOf, List.filter_map, Function.comp_def]
      · have different : (thread == index) = false := beq_eq_false_iff_ne.mpr (Ne.symm same)
        simp [eventsOf, List.filter_map, Function.comp_def, different, same]

omit [Machine Command State] in
theorem thread_unique (distinct : chronicle.events.Nodup) {first second : Nat} {event : Event}
    (here : event ∈ chronicle.eventsOf first) (there : event ∈ chronicle.eventsOf second) :
    first = second := by
  simp only [eventsOf, List.mem_map, List.mem_filter, beq_iff_eq] at here there
  obtain ⟨one, ⟨listed, rfl⟩, same⟩ := here
  obtain ⟨other, ⟨present, rfl⟩, also⟩ := there
  rw [List.inj_on_of_nodup_map distinct listed present (same.trans also.symm)]

end Chronicle

end Kit
