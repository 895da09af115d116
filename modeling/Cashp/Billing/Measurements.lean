import Cashp.Billing.Reads
import Cashp.Kit.Watch

/-!
Measurements that come in at the same time. A measurement reads the record of its period, adds to it
in the service and writes the sum back; without a record it inserts one, and nothing keeps a second
one out.
-/

namespace Cashp

open Kit Kit.Program

structure UsageKey where
  tenantID : String
  meterCode : String
  dimensions : String
  start : Int
  stop : Int

namespace UsageKey

variable (key : UsageKey)

def holds (record : UsageRecord) : Bool :=
  record.isRow key.tenantID key.meterCode key.start key.dimensions

def record (world : World) : Option UsageRecord := world.usage.find key.holds

def total (world : World) : Int := world.usage.sumWhere key.holds UsageRecord.value

def lookout : Lookout Stmt World (Option UsageRecord) Unit where
  view := key.record
  looks := fun
    | .usage (.find tenantID meterCode start dimensions) =>
      decide (tenantID = key.tenantID ∧ meterCode = key.meterCode ∧ start = key.start ∧
        dimensions = key.dimensions)
    | _ => false
  note _ _ _ mark := mark

structure Current (world : World) : Prop where
  counter : ∃ measured, ((meter key.meterCode).run world).1 = .ok measured ∧
    measured.code = key.meterCode ∧ measured.meterType = .counter
  period : ((currentPeriod key.tenantID).run world).1 = .ok (key.start, key.stop)

structure Follows (before after : World) : Prop where
  month : calendarMonth after.now = calendarMonth before.now
  record : ∀ found, key.record before = some found →
    ∃ later, key.record after = some later ∧ later.id = found.id

def SetUpToDate {Reply : Type} (stmt : Stmt Reply) (fresh : Bool) (mark : Unit) (world : World) :
    Prop :=
  match stmt with
  | .usage (.set value periodEnd now id) =>
    key.lookout.UpToDate (Stmt.usage (.set value periodEnd now id)) fresh mark world
  | _ => True

def vigil : Vigil Stmt World (Option UsageRecord) Unit Int where
  toLookout := key.lookout
  valid _ := key.Current
  rely := key.Follows
  refl _ := ⟨rfl, fun found here => ⟨found, here, rfl⟩⟩
  trans _ _ _ early late := by
    refine ⟨late.month.trans early.month, fun found here => ?_⟩
    obtain ⟨second, there, same⟩ := early.record found here
    obtain ⟨third, last, again⟩ := late.record second there
    exact ⟨third, last, again.trans same⟩
  allowed := key.SetUpToDate
  amount _ := key.total

def measure (value : Int) : Service Int := do
  recordUsage key.tenantID key.meterCode value key.dimensions
  pure value

end UsageKey

variable {seen : Option (Option UsageRecord)} {found : UsageRecord} {paid : Int}

section

variable {key : UsageKey} {world later : World} {Reply : Type} {stmt : Stmt Reply}

theorem currentPeriod_consults (tenantID : String) :
    (currentPeriod tenantID).Uses Stmt.Consults := by
  have clock : unix.Uses Stmt.Consults := uses_perform trivial
  have lists : (perform (.subscription (.entitled tenantID)) : Service _).Uses Stmt.Consults :=
    uses_perform trivial
  have finds : (activeSubscription tenantID).Uses Stmt.Consults := by
    unfold activeSubscription requireTenant require
    grind
  unfold currentPeriod
  grind

theorem meter_consults (code : String) : (meter code).Uses Stmt.Consults := by
  have asks : (perform (.catalogue (.meter (lowerText (trimSpace code)))) : Service _).Uses
      Stmt.Consults := uses_perform trivial
  unfold meter require
  grind

theorem current_of_alike (alike : later.Alike world) (current : key.Current world) :
    key.Current later := by
  have metered := (run_congr (meter_consults key.meterCode) (fun stmt => consults_alike stmt)
    alike).1
  have dated := (run_congr (currentPeriod_consults key.tenantID) (fun stmt => consults_alike stmt)
    alike).1
  exact ⟨by rw [metered]; exact current.counter, dated.trans current.period⟩

theorem record_of_usage (same : later.usage = world.usage) : key.record later = key.record world :=
  congrArg (fun table : Usage => table.find key.holds) same

theorem record_set (amount periodEnd now : Int) (id : String) (world : World) :
    key.record (execute (Stmt.usage (.set amount periodEnd now id)) world).2 =
      (key.record world).map (Table.assignWhere (fun record => record.id == id)
        (UsageRecord.remeasured amount periodEnd now)) := by
  change List.find? key.holds (List.map _ world.usage.rows) = _
  rw [List.find?_map]
  refine congrArg (Option.map _) (congrArg (List.find? · world.usage.rows) ?_)
  funext record
  simp only [Function.comp, Table.assignWhere]
  split <;> rfl

theorem record_persists (stmt : Stmt Reply) (here : key.record world = some found) :
    ∃ after, key.record (execute stmt world).2 = some after ∧ after.id = found.id := by
  cases stmt with
  | usage stmt =>
    cases stmt with
    | insert row =>
      refine ⟨found, ?_, rfl⟩
      change (Stmt.execute _ _).2.usage.find key.holds = _
      simp only [Stmt.execute, UsageStmt.execute]
      cases grew : world.usage.insert row with
      | none => exact here
      | some =>
        have first : world.usage.rows.find? key.holds = some found := here
        simp only [Table.find, Table.insert_rows grew, List.find?_append, first,
          Option.some_or]
    | set amount periodEnd now id =>
      refine ⟨_, (record_set amount periodEnd now id world).trans (congrArg _ here), ?_⟩
      unfold Table.assignWhere
      split <;> rfl
    | _ => exact ⟨found, here, rfl⟩
  | creditNote note =>
    have same : (execute (Stmt.creditNote note) world).2.usage = world.usage :=
      execute_same (.creditNote note) world .usage (by simp [Stmt.writes])
    exact ⟨found, (record_of_usage same).trans here, rfl⟩
  | call stmt => cases stmt <;> exact ⟨found, here, rfl⟩
  | _ => exact ⟨found, here, rfl⟩

theorem vigil_keeps {fresh : Bool} {mark : Unit}
    (outside : Area.subscription ∉ stmt.writes) (current : key.Current world) :
    key.vigil.Keeps stmt fresh mark world :=
  have steady := execute_steady stmt world
  have same := execute_same stmt world .subscription outside
  ⟨current_of_alike ⟨steady.catalogue, steady.now, same⟩ current,
    congrArg calendarMonth steady.now, fun _ here => record_persists stmt here⟩

theorem vigil_idle (within : stmt.Within (without [.subscription, .usage])) :
    key.vigil.Idle stmt := by
  intro fresh mark world current _
  have same : (execute stmt world).2.usage = world.usage :=
    execute_same stmt world .usage (within.avoids (by decide))
  refine ⟨vigil_keeps (within.avoids (by decide)) current, ?_, ?_⟩
  · exact record_of_usage same
  · exact sub_eq_zero.mpr (congrArg
      (fun table : Usage => table.sumWhere key.holds UsageRecord.value) same)

theorem read_then {Result : Type} {next : Reply → Service Result}
    {after : Except BillingError Result → Option (Option UsageRecord) × Int → World → Prop}
    (silent : stmt.writes = [])
    (each : ∀ later, key.Follows world later → key.Current later →
      (next (execute stmt later).1).Under key.vigil.terms after
        (if key.lookout.looks stmt then some (key.record later) else seen, paid) later) :
    ((perform stmt : Service Reply) >>= next).Under key.vigil.terms after (seen, paid) world := by
  have idle : key.vigil.Idle stmt := vigil_idle fun area writes => by simp [silent] at writes
  refine idle_then idle fun later mark fresh follows current _ => ?_
  rw [execute_unchanged silent]
  exact each later follows current

theorem total_insert {row : UsageRecord} (held : key.holds row = true) (world : World) :
    (execute (Stmt.usage (.insert row)) world).1 = false ∧
        key.total (execute (Stmt.usage (.insert row)) world).2 = key.total world ∨
      (execute (Stmt.usage (.insert row)) world).1 = true ∧
        key.total (execute (Stmt.usage (.insert row)) world).2 = key.total world + row.value := by
  change (Stmt.execute _ _).1 = false ∧ (Stmt.execute _ _).2.usage.sumWhere _ _ = _ ∨
    (Stmt.execute _ _).1 = true ∧ (Stmt.execute _ _).2.usage.sumWhere _ _ = _
  simp only [Stmt.execute, UsageStmt.execute]
  cases grew : world.usage.insert row with
  | none => exact .inl ⟨rfl, rfl⟩
  | some =>
    refine .inr ⟨rfl, ?_⟩
    rw [Table.sumWhere_insert grew, if_pos held]
    rfl

theorem total_set (here : key.record world = some found) (amount periodEnd now : Int) :
    key.total (execute (Stmt.usage (.set amount periodEnd now found.id)) world).2 =
      key.total world + (amount - found.value) := by
  obtain ⟨member, held⟩ := Table.find_mem here
  have moved : (world.usage.update (fun other => other.id == found.id)
      (UsageRecord.remeasured amount periodEnd now) (by simp [UsageRecord.remeasured])).sumWhere
        key.holds UsageRecord.value = _ :=
    Table.sumWhere_update_at (List.mem_singleton_self UsageRecord.id) member
      (beq_self_eq_true found.id) (fun _ same => beq_iff_eq.mp same) _ fun _ => rfl
  rw [if_pos held] at moved
  exact moved

theorem touches_set (here : key.record world = some found) (amount periodEnd now : Int) :
    key.lookout.touches (Stmt.usage (.set amount periodEnd now found.id)) world = true := by
  refine decide_eq_true fun same => ?_
  have after : key.record _ = _ := record_set amount periodEnd now found.id world
  rw [here, Option.map_some, Table.assignWhere_of (by simp)] at after
  have unchanged := Option.some.inj ((here.symm.trans same.symm).trans after)
  have samples := congrArg UsageRecord.samples unchanged
  simp only [UsageRecord.remeasured] at samples
  omega

end

section

variable {key : UsageKey} {world : World} {value : Int}

def Recorded (value : Int) (answer : Except BillingError Unit) (brought : Int) : Prop :=
  match answer with
  | .ok _ => brought = value
  | .error _ => brought = 0

theorem activeSubscription_heeds (named : isBlank key.tenantID = false) :
    (activeSubscription key.tenantID).Heeds key.vigil (fun answer known brought later =>
      (answer = ((activeSubscription key.tenantID).run later).1 ∧ key.Current later) ∧
        seen = known ∧ paid = brought) seen paid world := by
  have blank : ¬ isBlank key.tenantID = true := by simp [named]
  have asked (later : World) : ((activeSubscription key.tenantID).run later).1 =
      ((require (List.find? Subscription.active
        (execute (Stmt.subscription (.entitled key.tenantID)) later).1)
          (errNotFound "subscription")).run later).1 := by
    unfold activeSubscription requireTenant
    rw [run_unrefused blank, run_step]
    rfl
  simp only [asked]
  unfold activeSubscription requireTenant
  refine under_refuse (fun bad => absurd bad blank) fun _ => ?_
  refine read_then rfl fun later _ current => ?_
  cases found : (execute (Stmt.subscription (.entitled key.tenantID)) later).1.find?
      Subscription.active with
  | none | some => exact ⟨⟨by rw [found]; rfl, current⟩, rfl, rfl⟩

def periodAfter (answer : Except BillingError Subscription) : Service (Int × Int) :=
  match answer with
  | .ok sub =>
    if 0 < sub.periodStart ∧ sub.periodStart < sub.periodEnd then
      pure (sub.periodStart, sub.periodEnd)
    else do
      let now ← unix
      pure (calendarMonth now)
  | .error _ => do
    let now ← unix
    pure (calendarMonth now)

theorem currentPeriod_eq (tenantID : String) :
    currentPeriod tenantID = (activeSubscription tenantID).attempt >>= periodAfter := by
  unfold currentPeriod periodAfter
  rfl

theorem currentPeriod_heeds (named : isBlank key.tenantID = false) :
    (currentPeriod key.tenantID).Heeds key.vigil (fun answer _ brought _ =>
      answer = .ok (key.start, key.stop) ∧ brought = paid) seen paid world := by
  rw [currentPeriod_eq]
  refine (activeSubscription_heeds named).attempted fun answer ⟨known, brought⟩ later _ held => ?_
  obtain ⟨⟨rfl, current⟩, rfl, rfl⟩ := held
  have dated := current.period
  rw [currentPeriod_eq, run_attempted,
    run_unchanged activeSubscription_within] at dated
  have clocked (here : calendarMonth later.now = (key.start, key.stop)) :
      (unix >>= fun now => pure (calendarMonth now) : Service _).Heeds key.vigil
        (fun answer _ brought _ => answer = .ok (key.start, key.stop) ∧ brought = paid) seen
          paid later := by
    refine read_then rfl fun last follows _ => ⟨congrArg Except.ok ?_, rfl⟩
    exact follows.month.trans here
  generalize ((activeSubscription key.tenantID).run later).1 = answer at dated ⊢
  cases answer with
  | error => exact clocked (Except.ok.inj dated)
  | ok sub =>
    unfold periodAfter at dated ⊢
    dsimp only at dated ⊢
    split
    · rename_i dates
      rw [if_pos dates] at dated
      exact ⟨dated, rfl⟩
    rename_i dateless
    rw [if_neg dateless] at dated
    exact clocked (Except.ok.inj dated)

theorem newUsage_heeds {stop now : Int} :
    (newUsage key.tenantID key.meterCode key.start stop value key.dimensions now).Heeds key.vigil
      (fun answer _ brought _ => Recorded value answer brought) seen 0 world := by
  unfold newUsage
  have draws : key.vigil.Idle Stmt.newID :=
    vigil_idle fun area writes => by rw [List.mem_singleton.mp writes]; decide
  refine idle_then draws fun named mark fresh _ _ _ => ?_
  refine under_then fun later mark fresh _ current _ _ => ?_
  refine ⟨vigil_keeps (by simp [Stmt.writes]) current, ?_⟩
  generalize row : UsageRecord.mk _ _ _ _ _ _ _ _ _ _ = record
  have held : key.holds record = true := by
    rw [← row]
    simp [UsageKey.holds, UsageRecord.isRow]
  have worth : record.value = value := by rw [← row]
  rcases total_insert held later with ⟨refused, same⟩ | ⟨stored, added⟩
  · have nothing : key.vigil.gain (Stmt.usage (.insert record)) fresh mark later = 0 :=
      sub_eq_zero.mpr same
    rw [refused, nothing]
    exact rfl
  · have gained : key.vigil.gain (Stmt.usage (.insert record)) fresh mark later = value := by
      rw [← worth]
      exact sub_eq_iff_eq_add'.mpr added
    rw [stored, gained]
    exact Int.zero_add value

theorem meter_heeds :
    (meter key.meterCode).Heeds key.vigil (fun answer _ brought _ =>
      (∃ measured, answer = .ok measured ∧ measured.code = key.meterCode ∧
        measured.meterType = .counter) ∧ brought = paid) seen paid world := by
  unfold meter
  refine read_then rfl fun later _ current => ?_
  obtain ⟨measured, asked, counter⟩ := current.counter
  unfold meter at asked
  rw [run_step] at asked
  cases found :
      (execute (Stmt.catalogue (.meter (lowerText (trimSpace key.meterCode)))) later).1 with
  | none =>
    rw [found] at asked
    cases asked
  | some =>
    rw [found] at asked
    cases asked
    exact ⟨⟨measured, rfl, counter⟩, rfl⟩

theorem usageRecord_heeds :
    (usageRecord key.tenantID key.meterCode key.start key.dimensions).Heeds key.vigil
      (fun answer known brought later => answer = (match key.record later with
        | some found => .ok found
        | none => .error (errNotFound "usage record")) ∧
        known = some (key.record later) ∧ brought = paid) seen paid world := by
  unfold usageRecord
  refine read_then rfl fun later _ _ => ?_
  have found : (execute (Stmt.usage (.find key.tenantID key.meterCode key.start key.dimensions))
      later).1 = key.record later := rfl
  rw [found, if_pos (by simp [UsageKey.lookout])]
  cases here : key.record later with
  | none | some => exact ⟨by rw [here], by rw [here], rfl⟩

theorem set_heeds {measured : Meter} {now : Int}
    (counter : measured.meterType = .counter) (here : key.record world = some found) :
    (perform (.usage (.set (measuredValue measured found value) key.stop now found.id)) >>=
      fun _ => pure () : Service Unit).Heeds key.vigil
        (fun answer _ brought _ => Recorded value answer brought) (some (some found)) 0 world := by
  refine under_then fun later mark fresh follows current known upToDate => ?_
  refine ⟨vigil_keeps (by simp [Stmt.writes]) current, ?_⟩
  obtain ⟨last, there, same⟩ := follows.record found here
  have touched := touches_set there (measuredValue measured found value) key.stop now
  rw [same] at touched
  have unchanged : last = found := by
    have view := known (upToDate touched)
    exact Option.some.inj (there.symm.trans (Option.some.inj view).symm)
  subst unchanged
  have sum := total_set there (measuredValue measured last value) key.stop now
  have gained : key.vigil.gain (Stmt.usage (.set (measuredValue measured last value) key.stop now
      last.id)) fresh mark later = value := by
    refine sub_eq_iff_eq_add'.mpr (sum.trans ?_)
    simp only [measuredValue, counter]
    rw [if_neg (by decide)]
    change _ = key.total later + value
    omega
  rw [gained]
  exact Int.zero_add value

theorem recordUsage_heeds :
    (recordUsage key.tenantID key.meterCode value key.dimensions).Heeds key.vigil
      (fun answer _ brought _ => Recorded value answer brought) none 0 world := by
  unfold recordUsage
  by_cases blank : isBlank key.tenantID = true
  · exact under_refuse (fun _ => rfl) fun named => absurd blank named
  refine under_refuse (fun bad => absurd bad blank) fun _ => ?_
  refine meter_heeds.andThen ?_ fun _ _ _ held => nomatch held.1
  rintro measured ⟨seen, paid⟩ metered - ⟨⟨other, same, sameCode, counter⟩, rfl⟩
  cases same
  rw [sameCode]
  refine (currentPeriod_heeds (by simpa using blank)).andThen ?_ fun _ _ _ held => nomatch held.1
  rintro ⟨start, stop⟩ ⟨known, paid⟩ dated - ⟨same, rfl⟩
  cases same
  refine read_then rfl fun clocked _ _ => ?_
  refine usageRecord_heeds.attempted fun answer ⟨seen, paid⟩ later _ held => ?_
  obtain ⟨rfl, rfl, rfl⟩ := held
  cases here : key.record later with
  | none => exact newUsage_heeds
  | some => exact set_heeds counter here

end

structure UsageKey.Elsewhere (key : UsageKey) where
  change : World → World
  meter : ∀ world, ((meter key.meterCode).run (change world)).1 =
    ((meter key.meterCode).run world).1
  period : ∀ world, ((currentPeriod key.tenantID).run (change world)).1 =
    ((currentPeriod key.tenantID).run world).1
  month : ∀ world, calendarMonth (change world).now = calendarMonth world.now
  records : ∀ world, (change world).usage.select key.holds = world.usage.select key.holds

inductive UsageMove (key : UsageKey)
  | call (value : Int)
  | advance (thread : Nat)
  | elsewhere (aside : key.Elsewhere)

abbrev Gauged := Watched Stmt BillingError Int World Unit

section

variable {key : UsageKey} {world : World} {gauged : Gauged}

def UsageMove.move : UsageMove key → Move Stmt BillingError Int World
  | .call value => .spawn (key.measure value)
  | .advance thread => .advance thread
  | .elsewhere aside => .disturb aside.change

def UsageMove.play (move : UsageMove key) (gauged : Gauged) : Gauged :=
  gauged.play key.lookout move.move

/-- No other measurement changed the record between a call's read and its write. -/
def UsageMove.Unraced (move : UsageMove key) (gauged : Gauged) : Prop :=
  gauged.Issues key.SetUpToDate move.move

def recordedValue : Service Int → Int
  | .done value => value
  | _ => 0

def Answered (answer : Except BillingError Int) (brought : Int) : Prop :=
  match answer with
  | .ok value => brought = value
  | .error _ => brought = 0

theorem measure_heeds {value : Int} :
    (key.measure value).Heeds key.vigil (fun answer _ brought _ => Answered answer brought)
      none 0 world := by
  refine recordUsage_heeds.andThen (fun _ _ _ _ held => held) fun _ _ _ held => held

theorem record_of_select {later : World}
    (same : later.usage.select key.holds = world.usage.select key.holds) :
    key.record later = key.record world := by
  rw [UsageKey.record, UsageKey.record, Table.find, Table.find, ← List.head?_filter,
    ← List.head?_filter]
  exact congrArg List.head? same

theorem sound_play (sound : gauged.Sound key.vigil Answered (key.total world))
    (move : UsageMove key) (unraced : move.Unraced gauged) :
    (move.play gauged).Sound key.vigil Answered (key.total world) := by
  cases move with
  | call => exact sound.spawn measure_heeds
  | advance => exact (sound.advance unraced).1
  | elsewhere aside =>
    have same := aside.records gauged.pool.state
    have counter : (key.Current gauged.pool.state) := sound.valid
    refine sound.disturb ⟨by rw [aside.meter]; exact counter.counter,
        (aside.period _).trans counter.period⟩
      ⟨aside.month _, fun found here => ⟨found, (record_of_select same).trans here, rfl⟩⟩ ?_
    exact congrArg (fun rows : List UsageRecord => (rows.map UsageRecord.value).sum) same

/-- When all calls have returned, the stored values add up to what the calls recorded, if no call
wrote over a record that had changed since it was read. -/
theorem measurements_all_counted (key : UsageKey) (world : World) (current : key.Current world)
    (moves : List (UsageMove key))
    (unraced : Every UsageMove.play UsageMove.Unraced (Watched.opened world ()) moves) (quiescent :
      (lastState UsageMove.play (Watched.opened world ()) moves).pool.quiescent = true) :
    key.total (lastState UsageMove.play (Watched.opened world ()) moves).pool.state =
      key.total world + ((lastState UsageMove.play (Watched.opened world ())
        moves).pool.threads.map recordedValue).sum := by
  have start : (Watched.opened world () : Gauged).Sound key.vigil Answered (key.total world) :=
    Watched.sound_opened current
  have sound := lastState_of_invariant _ start unraced
    fun move gauged sound unraced => sound_play sound move unraced
  exact sound.settled quiescent recordedValue (fun _ _ held => held.symm) fun _ _ held => held.symm

instance {Reply : Type} (stmt : Stmt Reply) (fresh : Bool) (mark : Unit) (world : World) :
    Decidable (key.SetUpToDate stmt fresh mark world) :=
  match stmt with
  | .usage (.set value periodEnd now id) =>
    inferInstanceAs (Decidable
      (key.lookout.UpToDate (Stmt.usage (.set value periodEnd now id)) fresh mark world))
  | .usage (.find ..) | .usage (.totals ..) | .usage (.insert _) | .unix | .newID
  | .isAlreadyExists | .catalogue _ | .account _ | .subscription _ | .invoice _ | .line _
  | .creditNote _ | .sequence _ | .provider _ | .method _ | .attempt _ | .refund _ | .webhook _
  | .rollup _ | .call _ => inferInstanceAs (Decidable True)

instance UsageMove.decidableUnraced (move : UsageMove key) (gauged : Gauged) :
    Decidable (move.Unraced gauged) :=
  inferInstanceAs (Decidable (gauged.Issues key.SetUpToDate move.move))

end

def countedCalls : UsageKey :=
  { tenantID := "acme", meterCode := "calls", dimensions := "", start := 0, stop := 2678400 }

def countingShop : World where
  catalogue :=
    { meters := [{ code := "calls", name := "Calls", meterType := .counter
                   resource := "api_calls", unit := "call" }] }
  usage := ⟨[{ id := "use", tenantID := "acme", meterCode := "calls", periodStart := 0
               periodEnd := 2678400, value := 10, dimensions := "", recordedAt := 0 }], by simp⟩
  now := 1000
  names := Supply.outgrow

theorem countingShop_current : countedCalls.Current countingShop :=
  ⟨⟨{ code := "calls", name := "Calls", meterType := .counter, resource := "api_calls"
      unit := "call" }, by decide +kernel⟩, by decide +kernel⟩

def stepsOf (thread count : Nat) : List (UsageMove countedCalls) :=
  List.replicate count (.advance thread)

def takingTurns : List (UsageMove countedCalls) :=
  [.call 5, .call 7] ++ stepsOf 0 4 ++ stepsOf 1 4 ++ stepsOf 0 2 ++ stepsOf 1 2

theorem taking_turns_counted :
    countedCalls.total (lastState UsageMove.play (Watched.opened countingShop ())
      takingTurns).pool.state = 22 := by
  have counted := measurements_all_counted countedCalls countingShop countingShop_current
    takingTurns (by decide +kernel) (by decide +kernel)
  rw [counted]
  decide +kernel

def readingTogether : List (UsageMove countedCalls) :=
  [.call 5, .call 7] ++ stepsOf 0 5 ++ stepsOf 1 5 ++ stepsOf 0 1 ++ stepsOf 1 1

theorem reading_together_loses : (lastState UsageMove.play (Watched.opened countingShop ())
        readingTogether).pool.quiescent = true ∧
      countedCalls.total countingShop + ((lastState UsageMove.play
        (Watched.opened countingShop ()) readingTogether).pool.threads.map recordedValue).sum = 22 ∧
      countedCalls.total (lastState UsageMove.play (Watched.opened countingShop ())
        readingTogether).pool.state = 17 := by
  decide +kernel

end Cashp
