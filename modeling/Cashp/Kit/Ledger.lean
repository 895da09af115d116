import Cashp.Kit.Docket
import Cashp.Kit.Duration

/-!
Services over one database. A statement reads the store, writes one change or asks for the time, and
may fail. The statements of the calls interleave, and every write is recorded with its site.
-/

namespace Kit

class Ledger (Store : outParam Type) (Change : Type) where
  apply : Change → Store → Nat × Store

/-- The store, the clock in nanoseconds and whether the database is down. -/
structure Site (Store : Type) where
  store : Store
  clock : Int
  down : Bool := false

inductive Query (Store Change : Type) : Type → Type 1
  | time : Query Store Change Int
  | read : Query Store Change (Option Store)
  | write (change : Change) : Query Store Change (Option Nat)

structure Entry (Store Change : Type) where
  site : Site Store
  change : Change

def updateWhere {Row : Type} (matching : Row → Bool) (assign : Row → Row) (rows : List Row) :
    List Row :=
  rows.map fun row => if matching row then assign row else row

inductive Happening (Call : Type)
  | call (call : Call)
  | advance (thread : Nat)
  | clock (now : Int)
  | outage (down : Bool)

/-- Whether the clock never goes back, and whether the database stays up. -/
structure Weather where
  forward : Bool := false
  up : Bool := false

variable {Store Change Call Failure Value Result : Type} [Ledger Store Change]

omit [Ledger Store Change] in
def Site.unix (site : Site Store) : Int := site.clock / Duration.second

def Site.after (site : Site Store) (change : Change) : Site Store :=
  { site with store := (Ledger.apply change site.store).2 }

instance : Machine (Query Store Change) (Site Store) where
  execute
    | .time, site => (site.clock, site)
    | .read, site => (if site.down then none else some site.store, site)
    | .write change, site =>
      if site.down then (none, site)
      else (some (Ledger.apply change site.store).1, site.after change)

omit [Ledger Store Change] in
def Query.written {Reply : Type} (query : Query Store Change Reply) (site : Site Store) :
    Option (Entry Store Change) :=
  match query with
  | .write change => if site.down then none else some ⟨site, change⟩
  | _ => none

omit [Ledger Store Change] in
def Query.Allows (allowed : Change → Prop) {Reply : Type} (query : Query Store Change Reply) :
    Prop :=
  match query with
  | .write change => allowed change
  | _ => True

def Weather.Allows (weather : Weather) (site later : Site Store) : Prop :=
  (weather.forward = true → site.clock ≤ later.clock) ∧
    (weather.up = true → later.down = true → site.down = true)

instance (weather : Weather) (site later : Site Store) : Decidable (weather.Allows site later) :=
  inferInstanceAs (Decidable (_ ∧ _))

abbrev Work (Store Change Failure Value : Type) := Program (Query Store Change) Failure Value

section

omit [Ledger Store Change]

def timeNow : Work Store Change Failure Int := .step .time .done

def unixNow : Work Store Change Failure Int := .step .time fun now => .done (now / Duration.second)

def select (view : Store → Value) (failure : Failure) : Work Store Change Failure Value :=
  .step .read fun
    | some store => .done (view store)
    | none => .fail failure

def commit (change : Change) (failure : Failure) : Work Store Change Failure Nat :=
  .step (.write change) fun
    | some report => .done report
    | none => .fail failure

def peek (view : Store → Option Value) : Work Store Change Failure (Option Value) :=
  .step .read fun snapshot => .done (snapshot.bind view)

def put (change : Change) : Work Store Change Failure (Option Nat) := .step (.write change) .done

def whenever (condition : Prop) [Decidable condition] (work : Work Store Change Failure Unit) :
    Work Store Change Failure Unit :=
  if condition then work else .done ()

def found (value : Option Value) (failure : Failure) : Work Store Change Failure Value :=
  value.elim (.fail failure) .done

def given (value : Option Value) (work : Value → Work Store Change Failure Unit) :
    Work Store Change Failure Unit :=
  value.elim (.done ()) work

end

namespace Program

variable {next : Value → Work Store Change Failure Result} {value : Option Value} {condition : Prop}
variable {other one : Work Store Change Failure Result} {change : Change}

section

omit [Ledger Store Change]

variable {failure : Failure} {change : Change} {program other : Work Store Change Failure Value}

@[simp]
theorem step_then {Reply : Type} {query : Query Store Change Reply}
    {rest : Reply → Work Store Change Failure Value} :
    step query rest >>= next = step query fun reply => rest reply >>= next :=
  rfl

@[simp]
theorem fail_then : fail failure >>= next = fail failure :=
  rfl

@[simp]
theorem pure_then {value : Value} : pure value >>= next = next value :=
  rfl

@[simp]
theorem if_then [Decidable condition] : (if condition then program else other) >>= next =
      if condition then program >>= next else other >>= next := by
  split <;> rfl

@[simp]
theorem elim_then {Row : Type} {row : Option Row} {rest : Row → Work Store Change Failure Value} :
    row.elim other rest >>= next = row.elim (other >>= next) fun value => rest value >>= next := by
  cases row <;> rfl

@[simp]
theorem time_then {next : Int → Work Store Change Failure Result} :
    timeNow >>= next = .step .time next :=
  rfl

@[simp]
theorem unix_then {next : Int → Work Store Change Failure Result} :
    unixNow >>= next = .step .time fun now => next (now / Duration.second) :=
  rfl

@[simp]
theorem select_then {view : Store → Value} :
    select view failure >>= next =
      .step .read fun snapshot => snapshot.elim (.fail failure) fun store => next (view store) := by
  refine congrArg (Program.step Query.read) (funext fun snapshot => ?_)
  cases snapshot <;> rfl

@[simp]
theorem commit_then {next : Nat → Work Store Change Failure Result} :
    commit change failure >>= next =
      .step (.write change) fun reply => reply.elim (.fail failure) next := by
  refine congrArg (Program.step (Query.write change)) (funext fun reply => ?_)
  cases reply <;> rfl

@[simp]
theorem peek_then {view : Store → Option Value}
    {next : Option Value → Work Store Change Failure Result} :
    peek view >>= next = .step .read fun snapshot => next (snapshot.bind view) :=
  rfl

@[simp]
theorem put_then {next : Option Nat → Work Store Change Failure Result} :
    put change >>= next = .step (.write change) next :=
  rfl

@[simp]
theorem refuse_then {bad : Prop} [Decidable bad] {next : Unit → Work Store Change Failure Result} :
    refuse bad failure >>= next = if bad then .fail failure else next () := by
  unfold refuse
  split <;> rfl

@[simp]
theorem whenever_then [Decidable condition]
    {work : Work Store Change Failure Unit} {next : Unit → Work Store Change Failure Result} :
    whenever condition work >>= next = if condition then work >>= next else next () := by
  unfold whenever
  split <;> rfl

@[simp]
theorem found_then : found value failure >>= next = value.elim (.fail failure) next := by
  cases value <;> rfl

@[simp]
theorem given_then {work : Value → Work Store Change Failure Unit}
    {next : Unit → Work Store Change Failure Result} :
    given value work >>= next = value.elim (next ()) fun row => work row >>= next := by
  cases value <;> rfl

end

section

omit [Ledger Store Change]

variable {can : {Reply : Type} → Query Store Change Reply → Prop} {allowed : Change → Prop}

attribute [simp] bind_bind uses_pure uses_fail

@[simp]
theorem uses_time_step {next : Int → Work Store Change Failure Result} :
    (step .time next).Uses (Query.Allows allowed) ↔ ∀ now, (next now).Uses (Query.Allows allowed) :=
  and_iff_right trivial

@[simp]
theorem uses_read_step {next : Option Store → Work Store Change Failure Result} :
    (step .read next).Uses (Query.Allows allowed) ↔ (next none).Uses (Query.Allows allowed) ∧
      ∀ store, (next (some store)).Uses (Query.Allows allowed) :=
  (and_iff_right trivial).trans Option.forall

@[simp]
theorem uses_write_step {next : Option Nat → Work Store Change Failure Result} :
    (step (.write change) next).Uses (Query.Allows allowed) ↔
      allowed change ∧ (next none).Uses (Query.Allows allowed) ∧
        ∀ report, (next (some report)).Uses (Query.Allows allowed) :=
  and_congr_right fun _ => Option.forall

@[simp]
theorem uses_if [Decidable condition] : (if condition then one else other).Uses can ↔
      (condition → one.Uses can) ∧ (¬ condition → other.Uses can) := by
  split <;> simp [*]

@[simp]
theorem uses_elim : (value.elim other next).Uses can ↔
      (value = none → other.Uses can) ∧ ∀ row, value = some row → (next row).Uses can := by
  cases value <;> simp

theorem uses_any (program : Work Store Change Failure Value) :
    program.Uses (Query.Allows fun _ => True) := by
  induction program with
  | done | fail => trivial
  | step query rest ih => exact ⟨by cases query <;> trivial, ih⟩

end

section

variable {rely : Site Store → Site Store → Prop} {told : List (Entry Store Change)}
  {post : Except Failure Result → List (Entry Store Change) → Site Store → Prop}
  {site : Site Store}
variable {program : Work Store Change Failure Result}

@[simp]
theorem tells_pure {value : Result} :
    (pure value : Work Store Change Failure Result).Tells Query.written rely post told site ↔
      post (.ok value) told site :=
  Iff.rfl

@[simp]
theorem tells_fail {failure : Failure} :
    (fail failure : Work Store Change Failure Result).Tells Query.written rely post told site ↔
      post (.error failure) told site :=
  Iff.rfl

@[simp]
theorem tells_time_step {next : Int → Work Store Change Failure Result} :
    (step .time next).Tells Query.written rely post told site ↔ ∀ later, rely site later →
      (next later.clock).Tells Query.written rely post told later := by
  refine forall₂_congr fun later _ => ?_
  simp [Query.written, execute]

@[simp]
theorem tells_read_step {next : Option Store → Work Store Change Failure Result} :
    (step .read next).Tells Query.written rely post told site ↔ ∀ later, rely site later →
      (later.down = true → (next none).Tells Query.written rely post told later) ∧
        (later.down = false →
          (next (some later.store)).Tells Query.written rely post told later) := by
  refine forall₂_congr fun later _ => ?_
  cases broken : later.down <;> simp [Query.written, execute, broken]

@[simp]
theorem tells_write_step {next : Option Nat → Work Store Change Failure Result} :
    (step (.write change) next).Tells Query.written rely post told site ↔ ∀ later, rely site later →
        (later.down = true → (next none).Tells Query.written rely post told later) ∧
          (later.down = false → (next (some (Ledger.apply change later.store).1)).Tells
            Query.written rely post (told ++ [⟨later, change⟩]) (later.after change)) := by
  refine forall₂_congr fun later _ => ?_
  cases broken : later.down <;> simp [Query.written, execute, broken]

@[simp]
theorem tells_if [Decidable condition] :
    (if condition then one else other).Tells Query.written rely post told site ↔
      (condition → one.Tells Query.written rely post told site) ∧
        (¬ condition → other.Tells Query.written rely post told site) := by
  split <;> simp [*]

@[simp]
theorem tells_elim : (value.elim other next).Tells Query.written rely post told site ↔
      (value = none → other.Tells Query.written rely post told site) ∧
        ∀ row, value = some row → (next row).Tells Query.written rely post told site := by
  cases value <;> simp

def Online (_ later : Site Store) : Prop := later.down = false

@[simp 1100]
theorem tells_time_online {next : Int → Work Store Change Failure Result} :
    (step .time next).Tells Query.written Online post told site ↔ ∀ later : Site Store,
      later.down = false → (next later.clock).Tells Query.written Online post told later :=
  tells_time_step

@[simp 1100]
theorem tells_read_online {next : Option Store → Work Store Change Failure Result} :
    (step .read next).Tells Query.written Online post told site ↔ ∀ later : Site Store,
      later.down = false → (next (some later.store)).Tells Query.written Online post told later :=
  tells_read_step.trans (forall₂_congr fun _ (up : _ = false) => by simp [up])

@[simp 1100]
theorem tells_write_online {next : Option Nat → Work Store Change Failure Result} :
    (step (.write change) next).Tells Query.written Online post told site ↔
      ∀ later : Site Store, later.down = false →
        (next (some (Ledger.apply change later.store).1)).Tells Query.written Online post
          (told ++ [⟨later, change⟩]) (later.after change) :=
  tells_write_step.trans (forall₂_congr fun _ (up : _ = false) => by simp [up])

theorem tells_of_online {weather : Weather} (up : weather.up = true) (online : site.down = false)
    (tells : program.Tells Query.written Online post told site) :
    program.Tells Query.written weather.Allows post told site := by
  induction program generalizing told site with
  | done | fail => exact tells
  | step query rest ih =>
    intro later follows
    have still : later.down = false :=
      Bool.eq_false_iff.mpr fun broken => by simp [follows.2 up broken] at online
    have next : (execute query later).2.down = false := by
      cases query <;> simp [execute, still, Site.after]
    exact ih _ next (tells later still)

theorem tells_alone {after : Except Failure Result → Site Store → Prop} :
    program.Tells Query.written (fun site later => later = site)
      (fun answer _ later => after answer later) told site ↔
        after (program.run site).1 (program.run site).2 := by
  induction program generalizing told site with
  | done | fail => rfl
  | step query rest ih =>
    exact forall_eq.trans (ih _)

end

theorem abides_of_tells {regime : Regime (Query Store Change) (Site Store) (Entry Store Change)}
    {program : Work Store Change Failure Value}
    {post : Except Failure Value → List (Entry Store Change) → Site Store → Prop}
    {own : List (Entry Store Change)} {site : Site Store} (uses : program.Uses regime.Lawful)
    (tells : program.Tells regime.entry regime.rely post own site) :
    program.Abides regime post own site := by
  induction program generalizing own site with
  | done | fail => exact tells
  | step query rest ih =>
    intro later record follows valid allowed
    exact ⟨uses.1 record later valid allowed, ih _ (uses.2 _) (tells later follows)⟩

end Program

abbrev Traffic (Store Change Failure Value : Type) :=
  Chronicle (Query Store Change) Failure Value (Site Store) (Entry Store Change)

omit [Ledger Store Change] in
def Happening.move (serve : Call → Work Store Change Failure Value) :
    Happening Call → Move (Query Store Change) Failure Value (Site Store)
  | .call request => .spawn (serve request)
  | .advance thread => .advance thread
  | .clock now => .disturb fun site => { site with clock := now }
  | .outage down => .disturb fun site => { site with down := down }

namespace Traffic

variable {serve : Call → Work Store Change Failure Value} {weather : Weather}
  {fine : List (Entry Store Change) → Entry Store Change → Prop}
  {invariant : List (Entry Store Change) → Site Store → Prop} {allowed : Change → Prop}
  {ends : Except Failure Value → List (Entry Store Change) → Prop}

def site (traffic : Traffic Store Change Failure Value) : Site Store := traffic.pool.state

def take (serve : Call → Work Store Change Failure Value) (happening : Happening Call)
    (traffic : Traffic Store Change Failure Value) : Traffic Store Change Failure Value :=
  Chronicle.play Query.written (happening.move serve) traffic

def run (serve : Call → Work Store Change Failure Value) (site : Site Store)
    (happenings : List (Happening Call)) : Traffic Store Change Failure Value :=
  lastState (take serve) (Chronicle.opened site) happenings

def Heeds (serve : Call → Work Store Change Failure Value) (weather : Weather)
    (fine : List (Entry Store Change) → Entry Store Change → Prop) (happening : Happening Call)
    (traffic : Traffic Store Change Failure Value) : Prop :=
  traffic.Issues (fun query record site => ∀ entry ∈ (query.written site).toList, fine record entry)
    (happening.move serve) ∧ weather.Allows traffic.site (take serve happening traffic).site

instance [∀ record entry, Decidable (fine record entry)] (happening : Happening Call)
    (traffic : Traffic Store Change Failure Value) :
    Decidable (Heeds serve weather fine happening traffic) :=
  inferInstanceAs (Decidable (Chronicle.Issues _ _ _ ∧ _))

def rules (weather : Weather) (invariant : List (Entry Store Change) → Site Store → Prop)
    (fine : List (Entry Store Change) → Entry Store Change → Prop) :
    Regime (Query Store Change) (Site Store) (Entry Store Change) where
  entry := Query.written
  valid := invariant
  rely := weather.Allows
  refl _ := ⟨fun _ => Int.le_refl _, fun _ => id⟩
  trans _ _ _ first second :=
    ⟨fun forward => Int.le_trans (first.1 forward) (second.1 forward),
      fun up broken => first.2 up (second.2 up broken)⟩
  allowed query record site := ∀ entry ∈ (query.written site).toList, fine record entry

theorem lawful {Reply : Type}
    (keeps : ∀ record entry, invariant record entry.site → allowed entry.change →
      fine record entry → invariant (record ++ [entry]) (entry.site.after entry.change))
    (query : Query Store Change Reply) (allows : query.Allows allowed) :
    (rules weather invariant fine).Lawful query := by
  have still (record : List (Entry Store Change)) (site : Site Store)
      (valid : invariant record site) : invariant (record ++ []) site ∧ weather.Allows site site :=
    ⟨(List.append_nil record).symm ▸ valid, (rules weather invariant fine).refl site⟩
  intro record site valid fits
  cases query with
  | time | read => exact ⟨(still record site valid).1, (still record site valid).2⟩
  | write change =>
    cases broken : site.down with
    | true =>
      refine ⟨?_, ?_⟩ <;> simp only [rules, Query.written, execute, broken, if_true]
      · exact (still record site valid).1
      · exact (still record site valid).2
    | false =>
      have fits : fine record ⟨site, change⟩ :=
        fits _ (by simp [Query.written, broken])
      refine ⟨?_, ?_⟩ <;>
        simp only [rules, Query.written, execute, broken, Bool.false_eq_true, if_false]
      · exact keeps record ⟨site, change⟩ valid allows fits
      · exact (rules weather invariant fine).refl site

def answer (traffic : Traffic Store Change Failure Value) (thread : Nat) :
    Option (Except Failure Value) :=
  match traffic.pool.threads[thread]? with
  | some (.done value) => some (.ok value)
  | some (.fail failure) => some (.error failure)
  | _ => none

theorem ends_of_answer {traffic : Traffic Store Change Failure Value} {thread : Nat}
    {answer : Except Failure Value} (sound : traffic.Sound (rules weather invariant fine) ends)
    (ended : traffic.answer thread = some answer) : ends answer (traffic.eventsOf thread) := by
  unfold Traffic.answer at ended
  split at ended
  · cases ended
    exact sound.threads thread _ ‹_›
  · cases ended
    exact sound.threads thread _ ‹_›
  · cases ended

section

variable {site : Site Store} {happenings : List (Happening Call)}
  (invariant : List (Entry Store Change) → Site Store → Prop) (start : invariant [] site)
  (uses : ∀ call, (serve call).Uses (Query.Allows allowed))
  (keeps : ∀ record entry, invariant record entry.site → allowed entry.change →
    fine record entry → invariant (record ++ [entry]) (entry.site.after entry.change))
  (drifts : ∀ record site later, invariant record site → weather.Allows site later →
    later.store = site.store → invariant record later)
  (heeded : Every (take serve) (Heeds serve weather fine) (Chronicle.opened site) happenings)

include start uses keeps drifts heeded

theorem sound (tells : ∀ call record site, invariant record site →
      (serve call).Tells Query.written weather.Allows (fun answer own _ => ends answer own) []
        site) :
    (run serve site happenings).Sound (rules weather invariant fine) ends := by
  refine lastState_of_invariant (·.Sound (rules weather invariant fine) ends)
    (Chronicle.sound_opened start) heeded fun happening traffic sound heeds => ?_
  cases happening with
  | call call =>
    exact sound.spawn (Program.abides_of_tells ((uses call).mono (lawful keeps))
      (tells call _ _ sound.valid))
  | advance => exact (sound.advance heeds.1).1
  | clock | outage => exact sound.disturb (drifts _ _ _ sound.valid heeds.2 rfl) heeds.2

theorem kept : invariant (run serve site happenings).events (run serve site happenings).site :=
  (sound invariant start uses keeps drifts heeded
    fun call _ _ _ => Program.tells_true _ _ (serve call)).valid

theorem answered (up : weather.up = true) (online : site.down = false)
    (tells : ∀ call site, (serve call).Tells Query.written Program.Online
      (fun answer own _ => ends answer own) [] site) :
    invariant (run serve site happenings).events (run serve site happenings).site ∧
      ∀ thread answer, (run serve site happenings).answer thread = some answer →
        ends answer ((run serve site happenings).eventsOf thread) := by
  have sound := sound (fun record site => site.down = false ∧ invariant record site)
    ⟨online, start⟩ uses
    (fun record entry valid can fits => ⟨valid.1, keeps record entry valid.2 can fits⟩)
    (fun record site later valid weather same => ⟨?_,
      drifts record site later valid.2 weather same⟩)
    heeded fun call _ site valid => Program.tells_of_online up valid.1 (tells call site)
  · exact ⟨sound.valid.2, fun thread answer ended => ends_of_answer sound ended⟩
  · exact Bool.eq_false_iff.mpr fun broken => by simp [weather.2 up broken] at valid

end

theorem each_write {good : Entry Store Change → Prop} {site : Site Store}
    {happenings : List (Happening Call)} (uses : ∀ call, (serve call).Uses (Query.Allows allowed))
    (right : ∀ record entry, allowed entry.change → fine record entry → good entry)
    (heeded : Every (take serve) (Heeds serve weather fine) (Chronicle.opened site) happenings) :
    ∀ entry ∈ (run serve site happenings).events, good entry := by
  refine kept (fun record _ => ∀ entry ∈ record, good entry) nofun uses
    (fun record entry valid vouched fits => ?_) (fun _ _ _ valid _ _ => valid) heeded
  grind

end Traffic

end Kit
