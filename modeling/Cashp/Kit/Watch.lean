import Cashp.Kit.Run
import Cashp.Kit.Terms
import Mathlib.Algebra.BigOperators.Group.List.Lemmas
import Mathlib.Tactic.Abel

/-!
Programs that act on what they read earlier. Somebody watches a part of the shared state and notes
which programs have looked at it since it last changed. A program that is not up to date has to be
right without. The accounts of a pool are the sum of what its programs brought in.
-/

namespace Kit

universe u

structure Lookout (Command : Type → Type 1) (State View Mark : Type) where
  view : State → View
  looks : {Reply : Type} → Command Reply → Bool
  note : {Reply : Type} → Command Reply → Bool → State → Mark → Mark

structure Watched (Command : Type → Type 1) (Failure Value State Mark : Type) where
  pool : Pool Command Failure Value State
  fresh : List Nat
  mark : Mark

variable {Command : Type → Type 1} {Failure Value State View Mark : Type}
variable [Machine Command State] [DecidableEq View]

namespace Lookout

variable (lookout : Lookout Command State View Mark) {Reply : Type}

def touches (command : Command Reply) (state : State) : Bool :=
  decide (lookout.view (execute command state).2 ≠ lookout.view state)

def freshAfter (thread : Nat) (command : Command Reply) (state : State) (fresh : List Nat) :
    List Nat :=
  if lookout.touches command state then fresh.filter fun other => other == thread
  else if lookout.looks command then thread :: fresh
  else fresh

def UpToDate (command : Command Reply) (fresh : Bool) (_ : Mark) (state : State) : Prop :=
  lookout.touches command state = true → fresh = true

instance (command : Command Reply) (fresh : Bool) (mark : Mark) (state : State) :
    Decidable (lookout.UpToDate command fresh mark state) :=
  inferInstanceAs (Decidable (_ → _))

end Lookout

namespace Watched

def play (lookout : Lookout Command State View Mark) (move : Move Command Failure Value State)
    (watched : Watched Command Failure Value State Mark) :
    Watched Command Failure Value State Mark :=
  match move with
  | .advance thread =>
    match watched.pool.threads[thread]? with
    | some (.step command _) =>
      { pool := watched.pool.play (.advance thread)
        fresh := lookout.freshAfter thread command watched.pool.state watched.fresh
        mark := lookout.note command (decide (thread ∈ watched.fresh)) watched.pool.state
          watched.mark }
    | _ => watched
  | .spawn program => { watched with pool := watched.pool.play (.spawn program) }
  | .disturb change =>
    { watched with
      pool := watched.pool.play (.disturb change)
      fresh := if lookout.view (change watched.pool.state) = lookout.view watched.pool.state
        then watched.fresh else [] }

def Issues (allowed : {Reply : Type} → Command Reply → Bool → Mark → State → Prop)
    (move : Move Command Failure Value State)
    (watched : Watched Command Failure Value State Mark) : Prop :=
  match move with
  | .advance thread =>
    match watched.pool.threads[thread]? with
    | some (.step command _) =>
      allowed command (decide (thread ∈ watched.fresh)) watched.mark watched.pool.state
    | _ => True
  | _ => True

instance {allowed : {Reply : Type} → Command Reply → Bool → Mark → State → Prop}
    [decides : ∀ {Reply : Type} (command : Command Reply) (fresh : Bool) (mark : Mark)
      (state : State), Decidable (allowed command fresh mark state)]
    (move : Move Command Failure Value State) (watched : Watched Command Failure Value State Mark) :
    Decidable (watched.Issues allowed move) := by
  unfold Issues
  exact match move with
  | .advance thread => by
    dsimp only
    generalize watched.pool.threads[thread]? = program
    exact match program with
    | some (.step command _) => decides command _ _ _
    | some (.done _) | some (.fail _) | none => inferInstanceAs (Decidable True)
  | .spawn _ | .disturb _ => inferInstanceAs (Decidable True)

def opened (state : State) (mark : Mark) : Watched Command Failure Value State Mark :=
  ⟨⟨state, []⟩, [], mark⟩

end Watched

/-- A lookout with what holds, what programs rely on, and the amount that is watched. -/
structure Vigil (Command : Type → Type 1) (State View Mark Credit : Type) extends
    Lookout Command State View Mark where
  valid : Mark → State → Prop
  rely : State → State → Prop
  refl : ∀ state, rely state state
  trans : ∀ first second third, rely first second → rely second third → rely first third
  allowed : {Reply : Type} → Command Reply → Bool → Mark → State → Prop
  amount : Mark → State → Credit

variable {Command : Type → Type 1} {Failure Value Result State View Mark Credit : Type}
variable [Machine Command State] [DecidableEq View] [AddCommGroup Credit] {Reply : Type}
variable {command : Command Reply}

namespace Vigil

variable (vigil : Vigil Command State View Mark Credit) {Reply : Type}

structure Keeps (command : Command Reply) (fresh : Bool) (mark : Mark) (state : State) : Prop where
  valid : vigil.valid (vigil.note command fresh state mark) (execute command state).2
  rely : vigil.rely state (execute command state).2

def gain (command : Command Reply) (fresh : Bool) (mark : Mark) (state : State) : Credit :=
  vigil.amount (vigil.note command fresh state mark) (execute command state).2 -
    vigil.amount mark state

def seenAfter (command : Command Reply) (fresh : Bool) (state : State) (seen : Option View) :
    Option View :=
  if vigil.touches command state then
    if fresh then some (vigil.view (execute command state).2) else none
  else if vigil.looks command then some (vigil.view state)
  else seen

end Vigil

def Vigil.terms (vigil : Vigil Command State View Mark Credit) :
    Terms Command (Option View × Credit) State where
  rely := vigil.rely
  refl := vigil.refl
  trans := vigil.trans
  before command after load state := ∀ later mark fresh, vigil.rely state later →
    vigil.valid mark later → (fresh = true → load.1 = some (vigil.view later)) →
    vigil.allowed command fresh mark later →
      vigil.Keeps command fresh mark later ∧ after (execute command later).1
        (vigil.seenAfter command fresh later load.1,
          load.2 + vigil.gain command fresh mark later) (execute command later).2
  mono held widen later mark fresh follows valid known allowed := by
    obtain ⟨keeps, onward⟩ := held later mark fresh follows valid known allowed
    exact ⟨keeps, widen _ _ _ (vigil.trans _ _ _ follows keeps.rely) onward⟩

instance (vigil : Vigil Command State View Mark Credit) : vigil.terms.Steady where
  later _ _ _ _ _ follows held last mark fresh further :=
    held last mark fresh (vigil.trans _ _ _ follows further)

abbrev Program.Heeds (vigil : Vigil Command State View Mark Credit)
    (post : Except Failure Value → Option View → Credit → State → Prop)
    (program : Program Command Failure Value) (seen : Option View) (paid : Credit)
    (state : State) : Prop :=
  program.Under vigil.terms (fun answer load state => post answer load.1 load.2 state) (seen, paid)
    state

abbrev Program.Minds (vigil : Vigil Command State View Mark Credit)
    (program : Program Command Failure Value) (seen : Option View) (paid : Credit)
    (state : State) : Prop :=
  program.Heeds vigil (fun _ _ _ _ => True) seen paid state

open Program

def Vigil.Idle (vigil : Vigil Command State View Mark Credit) {Reply : Type}
    (command : Command Reply) : Prop :=
  ∀ fresh mark state, vigil.valid mark state → vigil.allowed command fresh mark state →
    vigil.Keeps command fresh mark state ∧
      vigil.view (execute command state).2 = vigil.view state ∧
      vigil.gain command fresh mark state = 0

section

variable {vigil : Vigil Command State View Mark Credit} {program : Program Command Failure Value}
variable {seen : Option View} {paid : Credit} {state : State}
variable {next : Value → Program Command Failure Result}

omit [AddCommGroup Credit] in
theorem seenAfter_of_same {fresh : Bool}
    (same : vigil.view (execute command state).2 = vigil.view state) :
    vigil.seenAfter command fresh state seen =
      if vigil.looks command then some (vigil.view state) else seen := by
  have quiet : vigil.touches command state = false := by simp [Lookout.touches, same]
  rw [Vigil.seenAfter, quiet, if_neg Bool.false_ne_true]

theorem idle_then {command : Command Value}
    {after : Except Failure Result → Option View × Credit → State → Prop}
    (idle : vigil.Idle command)
    (each : ∀ later mark fresh, vigil.rely state later → vigil.valid mark later →
      vigil.allowed command fresh mark later →
        (next (execute command later).1).Under vigil.terms after
          (if vigil.looks command then some (vigil.view later) else seen, paid)
            (execute command later).2) :
    ((perform command : Program Command Failure Value) >>= next).Under vigil.terms after
      (seen, paid) state := by
  refine under_then fun later mark fresh follows valid _ allowed => ?_
  obtain ⟨keeps, same, nothing⟩ := idle fresh mark later valid allowed
  rw [nothing, add_zero, seenAfter_of_same same]
  exact ⟨keeps, each later mark fresh follows valid allowed⟩

theorem heeds_of_uses (uses : program.Uses vigil.Idle) :
    program.Heeds vigil (fun _ _ after _ => after = paid) seen paid state := by
  refine under_of_uses (uses.mono
    fun command idle load state same later mark fresh _ valid _ allowed => ?_) rfl
  obtain ⟨keeps, _, nothing⟩ := idle fresh mark later valid allowed
  exact ⟨keeps, by rw [nothing, add_zero, same]⟩

theorem heeds_of_blind
    (uses : program.Uses fun {_} command => vigil.Idle command ∧ vigil.looks command = false) :
    program.Heeds vigil (fun _ known after _ => known = seen ∧ after = paid) seen paid state := by
  refine under_of_uses (uses.mono
    fun command blind load state same later mark fresh _ valid _ allowed => ?_) ⟨rfl, rfl⟩
  obtain ⟨keeps, unchanged, nothing⟩ := blind.1 fresh mark later valid allowed
  refine ⟨keeps, ?_, by rw [nothing, add_zero, same.2]⟩
  rw [seenAfter_of_same unchanged, blind.2, if_neg Bool.false_ne_true, same.1]

def Vigil.Safe (vigil : Vigil Command State View Mark Credit) {Reply : Type}
    (command : Command Reply) : Prop :=
  ∀ fresh mark state, vigil.valid mark state → vigil.allowed command fresh mark state →
    vigil.Keeps command fresh mark state

theorem heeds_of_safe (uses : program.Uses vigil.Safe) : program.Minds vigil seen paid state :=
  under_of_uses (uses.mono fun _ safe _ _ _ later mark fresh _ valid _ allowed =>
    ⟨safe fresh mark later valid allowed, trivial⟩) trivial

theorem heeds_then {post : Except Failure Value → Option View → Credit → State → Prop}
    (held : program.Heeds vigil post seen paid state)
    (each : ∀ value seen paid later, vigil.rely state later → post (.ok value) seen paid later →
      (next value).Minds vigil seen paid later) : (program >>= next).Minds vigil seen paid state :=
  held.andThen (fun value load later => each value load.1 load.2 later) fun _ _ _ _ => trivial

theorem blind_then
    (uses : program.Uses fun {_} command => vigil.Idle command ∧ vigil.looks command = false)
    (each : ∀ value later, vigil.rely state later → (next value).Minds vigil seen paid later) :
    (program >>= next).Minds vigil seen paid state := by
  refine heeds_then (heeds_of_blind uses) ?_
  rintro value _ _ later follows ⟨rfl, rfl⟩
  exact each value later follows

theorem minds_ignore (held : program.Minds vigil seen paid state) :
    program.ignore.Minds vigil seen paid state :=
  heeds_then held fun _ _ _ _ _ _ => trivial

end

namespace Watched

variable {vigil : Vigil Command State View Mark Credit}
variable {worth : Except Failure Value → Credit → Prop} {base : Credit}
variable {watched : Watched Command Failure Value State Mark} {state : State} {fresh : List Nat}
variable {thread : Nat} {seen : Option View}

structure Sound (vigil : Vigil Command State View Mark Credit)
    (worth : Except Failure Value → Credit → Prop) (base : Credit)
    (watched : Watched Command Failure Value State Mark) : Prop where
  valid : vigil.valid watched.mark watched.pool.state
  listed : ∀ thread ∈ watched.fresh, thread < watched.pool.threads.length
  accounts : ∃ paid : List Credit, paid.length = watched.pool.threads.length ∧
    vigil.amount watched.mark watched.pool.state = base + paid.sum ∧
    ∀ (index : Nat) (thread : Program Command Failure Value) (credit : Credit),
      watched.pool.threads[index]? = some thread → paid[index]? = some credit →
        ∃ seen, (index ∈ watched.fresh → seen = some (vigil.view watched.pool.state)) ∧
          thread.Heeds vigil (fun answer _ brought _ => worth answer brought) seen credit
            watched.pool.state

omit [AddCommGroup Credit] in
theorem play_pool (lookout : Lookout Command State View Mark)
    (move : Move Command Failure Value State) (watched : Watched Command Failure Value State Mark) :
    (watched.play lookout move).pool = watched.pool.play move := by
  cases move with
  | spawn | disturb => rfl
  | advance =>
    simp only [play]
    split
    · rfl
    · simp only [Pool.play, Pool.advance]

theorem Sound.spawn {program : Program Command Failure Value}
    (sound : watched.Sound vigil worth base)
    (heeds : program.Heeds vigil (fun answer _ brought _ => worth answer brought) none 0
      watched.pool.state) :
    (watched.play vigil.toLookout (.spawn program)).Sound vigil worth base := by
  obtain ⟨paid, sizes, total, each⟩ := sound.accounts
  have grown : (watched.play vigil.toLookout (.spawn program)).pool.threads =
      watched.pool.threads ++ [program] := rfl
  refine ⟨sound.valid, fun thread member => ?_, paid ++ [0], by simp [grown, sizes], ?_,
    pairs_of_concat sizes each ⟨none, fun member => ?_, heeds⟩⟩
  · have before := sound.listed thread member
    rw [grown, List.length_append]
    omega
  · rw [List.sum_append, List.sum_singleton, add_zero]
    exact total
  · exact absurd (sound.listed _ member) (Nat.lt_irrefl _)

theorem Sound.disturb {change : State → State} (sound : watched.Sound vigil worth base)
    (valid : vigil.valid watched.mark (change watched.pool.state))
    (rely : vigil.rely watched.pool.state (change watched.pool.state))
    (same : vigil.amount watched.mark (change watched.pool.state) =
      vigil.amount watched.mark watched.pool.state) :
    (watched.play vigil.toLookout (.disturb change)).Sound vigil worth base := by
  obtain ⟨paid, sizes, total, each⟩ := sound.accounts
  refine ⟨valid, fun thread member => ?_, paid, sizes, same.trans total, ?_⟩
  · simp only [play] at member
    split at member
    · exact sound.listed thread member
    · simp at member
  · intro index thread credit present brought
    obtain ⟨seen, known, heeds⟩ := each index thread credit present brought
    refine ⟨seen, fun member => ?_, heeds.later rely fun _ _ _ _ held _ => held⟩
    simp only [play] at member
    split at member
    · rename_i unchanged
      rw [known member]
      exact congrArg some unchanged.symm
    · simp at member

omit [AddCommGroup Credit] in
theorem seenAfter_known (known : thread ∈ fresh → seen = some (vigil.view state))
    (member : thread ∈ vigil.freshAfter thread command state fresh) :
    vigil.seenAfter command (decide (thread ∈ fresh)) state seen =
      some (vigil.view (execute command state).2) := by
  unfold Lookout.freshAfter at member
  grind [Vigil.seenAfter, Lookout.touches]

omit [AddCommGroup Credit] in
theorem known_after {other : Nat} (different : other ≠ thread)
    (known : other ∈ fresh → seen = some (vigil.view state))
    (member : other ∈ vigil.freshAfter thread command state fresh) :
    seen = some (vigil.view (execute command state).2) := by
  unfold Lookout.freshAfter at member
  grind [Lookout.touches]

omit [AddCommGroup Credit] in
theorem freshAfter_subset {other : Nat}
    (member : other ∈ vigil.freshAfter thread command state fresh) :
    other = thread ∨ other ∈ fresh := by
  grind [Lookout.freshAfter]

/-- A step of a program that minds the vigil leaves the accounts right. -/
theorem Sound.advance (sound : watched.Sound vigil worth base)
    (issues : watched.Issues vigil.allowed (.advance thread)) :
    (watched.play vigil.toLookout (.advance thread)).Sound vigil worth base ∧
      vigil.rely watched.pool.state (watched.pool.play (.advance thread)).state := by
  obtain ⟨paid, sizes, total, each⟩ := sound.accounts
  have still : vigil.rely watched.pool.state watched.pool.state := vigil.refl _
  cases present : watched.pool.threads[thread]? with
  | none => simpa [play, Pool.play, Pool.advance, present] using ⟨sound, still⟩
  | some program =>
    cases program with
    | done | fail => simpa [play, Pool.play, Pool.advance, present] using ⟨sound, still⟩
    | step command =>
      have inside : thread < watched.pool.threads.length :=
        (List.getElem?_eq_some_iff.mp present).1
      have booked : thread < paid.length := sizes ▸ inside
      obtain ⟨seen, known, heeds⟩ :=
        each thread _ paid[thread] present (List.getElem?_eq_getElem booked)
      have allowed : vigil.allowed command (decide (thread ∈ watched.fresh)) watched.mark
          watched.pool.state := by
        simpa only [Issues, present] using issues
      obtain ⟨keeps, onward⟩ := heeds watched.pool.state watched.mark
        (decide (thread ∈ watched.fresh)) (vigil.refl _) sound.valid
        (fun fresh => known (by simpa using fresh)) allowed
      simp only [play, present, Pool.play, Pool.advance]
      refine ⟨⟨keeps.valid, fun other member => ?_,
        paid.set thread (paid[thread] + vigil.gain command (decide (thread ∈ watched.fresh))
          watched.mark watched.pool.state), by simp [sizes], ?_, ?_⟩, keeps.rely⟩
      · rw [List.length_set]
        rcases freshAfter_subset member with same | before
        · omega
        · exact sound.listed other before
      · rw [List.sum_set', dif_pos booked]
        simp only [Vigil.gain, total]
        abel
      · intro other program credit there brought
        by_cases same : other = thread
        · subst same
          rw [List.getElem?_set_self inside, Option.some.injEq] at there
          rw [List.getElem?_set_self booked, Option.some.injEq] at brought
          rw [← there, ← brought]
          exact ⟨_, seenAfter_known known, onward⟩
        · rw [List.getElem?_set_ne (Ne.symm same)] at there brought
          obtain ⟨view, knew, held⟩ := each other program credit there brought
          exact ⟨view, known_after same knew,
            held.later keeps.rely fun _ _ _ _ ends _ => ends⟩

theorem sound_opened {mark : Mark} (valid : vigil.valid mark state) :
    (opened state mark : Watched Command Failure Value State Mark).Sound vigil worth
      (vigil.amount mark state) :=
  ⟨valid, fun _ member => by simp [opened] at member, [], rfl, by simp [opened],
    fun _ _ _ present => by simp [opened] at present⟩

/-- At rest the amount is what the programs brought in. -/
theorem Sound.settled (sound : watched.Sound vigil worth base)
    (quiescent : watched.pool.quiescent = true) (value : Program Command Failure Value → Credit)
    (done : ∀ answer credit, worth (.ok answer) credit → value (.done answer) = credit)
    (failed : ∀ failure credit, worth (.error failure) credit → value (.fail failure) = credit) :
    vigil.amount watched.mark watched.pool.state = base + (watched.pool.threads.map value).sum := by
  obtain ⟨paid, sizes, total, each⟩ := sound.accounts
  rw [total]
  congr 2
  refine List.ext_getElem (by simpa using sizes) fun index booked listed => ?_
  have inside : index < watched.pool.threads.length := sizes ▸ booked
  obtain ⟨seen, _, heeds⟩ := each index _ _ (List.getElem?_eq_getElem inside)
    (List.getElem?_eq_getElem booked)
  have finished := List.all_eq_true.mp quiescent _ (List.getElem_mem inside)
  rw [List.getElem_map]
  cases thread : watched.pool.threads[index] with
  | done =>
    rw [thread] at heeds
    exact (done _ _ heeds).symm
  | fail =>
    rw [thread] at heeds
    exact (failed _ _ heeds).symm
  | step => simp [thread, Program.finished] at finished

theorem Sound.even (sound : watched.Sound vigil worth base)
    (quiescent : watched.pool.quiescent = true)
    (nothing : ∀ answer credit, worth answer credit → credit = 0) :
    vigil.amount watched.mark watched.pool.state = base := by
  rw [sound.settled quiescent (fun _ => 0) (fun _ _ held => (nothing _ _ held).symm)
    fun _ _ held => (nothing _ _ held).symm]
  simp

end Watched

end Kit
