import Cashp.Kit.Run

/-!
The lifecycle of a notification channel (`notify/state.go`, `notify/channel.go`) and the email
settings (`notify/dispatch.go`). Mail goes out on tested settings only, unless the channel leaves
maintenance on an older test.
-/

namespace Cashp.Notify

inductive ChannelState
  | disabled
  | configuring
  | testing
  | active
  | degraded
  | failed
  | maintenance
  deriving DecidableEq

def degradeThreshold : Nat := 3

def failThreshold : Nat := 10

def transitions : ChannelState → List ChannelState
  | .disabled => [.configuring, .maintenance]
  | .configuring => [.testing, .disabled, .maintenance]
  | .testing => [.active, .disabled, .configuring, .maintenance]
  | .active => [.degraded, .failed, .configuring, .disabled, .maintenance]
  | .degraded => [.active, .failed, .configuring, .disabled, .maintenance]
  | .failed => [.configuring, .disabled, .maintenance]
  | .maintenance => [.active, .disabled, .configuring]

def canTransition (source target : ChannelState) : Bool :=
  source == target || (transitions source).contains target

structure TestResult where
  connected : Bool := false
  delivered : Bool := false
  err : Option String := none
  deriving DecidableEq

def TestResult.ok (result : TestResult) : Bool :=
  result.err.isNone && result.connected && result.delivered

structure StateMachine where
  state : ChannelState := .disabled
  failures : Nat := 0
  lastTest : TestResult := {}

inductive ChannelError
  | notTested
  | badTransition
  | notActive
  | other (text : String)

namespace StateMachine

def toLocked (machine : StateMachine) (next : ChannelState) : Bool × StateMachine :=
  if canTransition machine.state next = false then (false, machine)
  else (true, { machine with
    state := next, failures := if next = .active then 0 else machine.failures })

def recordTest (machine : StateMachine) (result : TestResult) (autoEnable : Bool) : StateMachine :=
  let tested := { machine with lastTest := result }
  if result.ok = false then (tested.toLocked .disabled).2
  else if autoEnable then (tested.toLocked .active).2
  else tested

def recordSend (machine : StateMachine) (err : Option String) : StateMachine :=
  match err with
  | none =>
    let sent := { machine with failures := 0 }
    if sent.state = .degraded then (sent.toLocked .active).2 else sent
  | some _ =>
    let counted := { machine with failures := machine.failures + 1 }
    if failThreshold ≤ counted.failures then (counted.toLocked .failed).2
    else if degradeThreshold ≤ counted.failures then (counted.toLocked .degraded).2
    else counted

def transition (next : ChannelState) (machine : StateMachine) :
    Except ChannelError Unit × StateMachine :=
  match machine.toLocked next with
  | (true, moved) => (.ok (), moved)
  | (false, same) => (.error .badTransition, same)

def configure : StateMachine → Except ChannelError Unit × StateMachine := transition .configuring

def disable : StateMachine → Except ChannelError Unit × StateMachine := transition .disabled

def maintain : StateMachine → Except ChannelError Unit × StateMachine := transition .maintenance

def activate (machine : StateMachine) : Except ChannelError Unit × StateMachine :=
  if machine.lastTest.ok = false then (.error .notTested, machine)
  else machine.transition .active

def test (invalid : Option String) (answer : TestResult) (autoEnable : Bool)
    (machine : StateMachine) : Except ChannelError TestResult × StateMachine :=
  match invalid with
  | some text => (.error (.other text), machine.recordTest { err := some text } autoEnable)
  | none =>
    let walked :=
      if machine.state = .disabled then (machine.toLocked .configuring).2 else machine
    match walked.toLocked .testing with
    | (false, same) => (.error .badTransition, same)
    | (true, testing) =>
      (match answer.err with
        | some text => .error (.other text)
        | none => .ok answer, testing.recordTest answer autoEnable)

def deliver (err : Option String) (machine : StateMachine) :
    Except ChannelError Unit × StateMachine :=
  if machine.state = .active ∨ machine.state = .degraded then
    (match err with
      | some text => .error (.other text)
      | none => .ok (), machine.recordSend err)
  else (.error .notActive, machine)

end StateMachine

inductive EmailCall
  | configureSMTP
  | disable
  | maintenance
  | activate
  | test (invalid : Option String) (answer : TestResult)
  | deliver (err : Option String)
  deriving DecidableEq

def EmailCall.serve : EmailCall → StateMachine → StateMachine
  | .configureSMTP, machine => machine.configure.2
  | .disable, machine => machine.disable.2
  | .maintenance, machine => machine.maintain.2
  | .activate, machine => machine.activate.2
  | .test invalid answer, machine => (machine.test invalid answer true).2
  | .deliver err, machine => (machine.deliver err).2

open Kit

structure Observed where
  machine : StateMachine := {}
  tested : Bool := false

def Observed.take (call : EmailCall) (observed : Observed) : Observed where
  machine := call.serve observed.machine
  tested :=
    match call with
    | .configureSMTP => false
    | .test invalid answer =>
      observed.tested || (observed.machine.test invalid answer true).1.toOption.any TestResult.ok
    | _ => observed.tested

/-- A channel in maintenance is not activated on a test of settings it no longer has. -/
def Tested (call : EmailCall) (observed : Observed) : Prop :=
  call = .activate → observed.machine.state = .maintenance → observed.tested = true

instance (call : EmailCall) (observed : Observed) : Decidable (Tested call observed) :=
  inferInstanceAs (Decidable (_ → _ → _))

def Quiet (observed : Observed) : Prop :=
  observed.tested = false → observed.machine.state ∉ [.testing, .active, .degraded]

theorem toLocked_state (machine : StateMachine) (next : ChannelState) :
    (machine.toLocked next).2.state =
      if canTransition machine.state next = true then next else machine.state := by
  unfold StateMachine.toLocked
  cases canTransition machine.state next <;> rfl

theorem transition_state (machine : StateMachine) (next : ChannelState) :
    (machine.transition next).2.state =
      if canTransition machine.state next = true then next else machine.state := by
  rw [← toLocked_state]
  unfold StateMachine.transition
  split <;> simp [*]

theorem recordTest_failed (machine : StateMachine) {result : TestResult} (bad : result.ok = false)
    (autoEnable : Bool) : (machine.recordTest result autoEnable).state = .disabled := by
  unfold StateMachine.recordTest
  rw [if_pos bad, toLocked_state]
  cases machine.state <;> rfl

theorem test_state (machine : StateMachine) (invalid : Option String) (answer : TestResult) :
    (machine.test invalid answer true).1.toOption.any TestResult.ok = true ∨
      (machine.test invalid answer true).2.state = .disabled ∨
        (machine.test invalid answer true).2.state = machine.state := by
  unfold StateMachine.test
  cases invalid with
  | some => exact .inr (.inl (recordTest_failed machine rfl true))
  | none =>
    dsimp only
    split
    · rename_i same stuck
      have off : machine.state ≠ .disabled := fun off => by
        simp [off, StateMachine.toLocked, canTransition, transitions] at stuck
      rw [if_neg off] at stuck
      unfold StateMachine.toLocked at stuck
      split at stuck <;> cases stuck
      exact .inr (.inr rfl)
    · cases passed : answer.ok with
      | true =>
        cases failed : answer.err with
        | some => simp [TestResult.ok, failed] at passed
        | none => exact .inl passed
      | false => exact .inr (.inl (recordTest_failed _ passed true))

theorem Quiet.kept {call : EmailCall} {observed : Observed} (quiet : Quiet observed)
    (fits : Tested call observed) : Quiet (observed.take call) := by
  obtain ⟨machine, tested⟩ := observed
  intro untested
  cases call with
  | configureSMTP | disable | maintenance =>
    simp only [Observed.take, EmailCall.serve, StateMachine.configure, StateMachine.disable,
      StateMachine.maintain, transition_state]
    cases machine.state <;> decide
  | activate =>
    have out := quiet untested
    have aside : machine.state ≠ .maintenance := fun parked => by
      cases (fits rfl parked).symm.trans untested
    simp only [Observed.take, EmailCall.serve, StateMachine.activate]
    split
    · exact out
    · rw [transition_state]
      cases state : machine.state <;> simp_all [canTransition, transitions]
  | deliver =>
    have out := quiet untested
    have idle : ¬ (machine.state = .active ∨ machine.state = .degraded) := by
      rintro (state | state) <;> simp [state] at out
    simp only [Observed.take, EmailCall.serve, StateMachine.deliver, if_neg idle]
    exact out
  | test invalid answer =>
    obtain ⟨before, missed⟩ := Bool.or_eq_false_iff.mp untested
    simp only [Observed.take, EmailCall.serve]
    rcases test_state machine invalid answer with passed | state | state
    · cases passed.symm.trans missed
    · simp [state]
    · rw [state]
      exact quiet before

/-- A channel is in use only after a test of it. -/
theorem active_after_test {observed : Observed} {calls : List EmailCall}
    (start : observed.machine.state = .disabled)
    (fits : Every Observed.take Tested observed calls) :
    let later := lastState Observed.take observed calls
    later.machine.state = .active ∨ later.machine.state = .degraded → later.tested = true := by
  have quiet : Quiet (lastState Observed.take observed calls) :=
    lastState_of_invariant Quiet (fun _ => by simp [start]) fits
      fun _ _ quiet fits => quiet.kept fits
  intro later sending
  cases passed : later.tested with
  | true => rfl
  | false =>
    have out := quiet passed
    rcases sending with state | state <;> simp [later, state] at out

def passing : TestResult := { connected := true, delivered := true }

theorem active_after_test_twice :
    (lastState Observed.take {} [.configureSMTP, .test none passing, .maintenance, .activate,
      .configureSMTP, .test none passing]).tested = true :=
  active_after_test rfl (by decide) (.inl (by decide))

/-- The new settings were never tried, and the channel goes from maintenance to active. -/
theorem untested_active :
    let later := lastState Observed.take {}
      [.configureSMTP, .test none passing, .configureSMTP, .maintenance, .activate]
    later.machine.state = .active ∧ later.tested = false := by
  decide

end Cashp.Notify
