import Cashp.Billing.InvoicesCore
import Cashp.Kit.Table
import Mathlib.Data.Nat.Digits.Lemmas

/-!
Document numbers among concurrent callers. The counter of a scope is moved by a compare-and-set
alone, so the successful updates count up from one.
-/

namespace Cashp

open Kit Kit.Program

variable {scope tag : String} {world : World}
variable {first thread : Nat} {expected : Int} {number : String}

theorem ofDigitChars_zeros (count : Nat) (digits : List Char) :
    Nat.ofDigitChars 10 (List.replicate count '0' ++ digits) 0 = Nat.ofDigitChars 10 digits 0 := by
  induction count with
  | zero => rfl
  | succ count ih => exact ih

theorem sixDigits_value (n : Nat) : Nat.ofDigitChars 10 (sixDigits n).toList 0 = n := by
  have digits : (itoa n).toList = Nat.toDigits 10 n := Nat.toList_repr
  rw [sixDigits, String.toList_append, String.toList_ofList, ofDigitChars_zeros, digits]
  exact Nat.ofDigitChars_toDigits (by decide) (by decide)

theorem number_injective {second : Nat} (same : tag ++ sixDigits first = tag ++ sixDigits second) :
    first = second := by
  have texts := congrArg String.toList same
  rw [String.toList_append, String.toList_append, List.append_cancel_left_eq] at texts
  rw [← sixDigits_value first, texts, sixDigits_value]

def World.counter (world : World) (scope : String) : Option Int :=
  (world.sequences.find (fun sequence => sequence.scope == scope)).map Sequence.nextValue

def Stmt.takes {Reply : Type} (scope : String) (stmt : Stmt Reply) (world : World) : Option Int :=
  match stmt with
  | .sequence (.compareAndSet target expected) =>
    if target = scope ∧ (SequenceStmt.execute (.compareAndSet target expected)
      world.sequences).1 ≠ 0 then some expected
    else none
  | _ => none

theorem counter_eq_some {value : Int} : world.counter scope = some value ↔
    ∃ row ∈ world.sequences.rows, row.scope = scope ∧ row.nextValue = value := by
  simp only [World.counter, Option.map_eq_some_iff]
  refine ⟨fun ⟨row, found, same⟩ => ?_, fun ⟨row, member, named, same⟩ => ?_⟩
  · have facts := Table.find_mem found
    exact ⟨row, facts.1, by simpa using facts.2, same⟩
  refine ⟨row, ?_, same⟩
  refine Table.find_unique (List.mem_singleton_self _) member (by simpa using named) ?_
  intro other hit
  rw [named]
  simpa using hit

theorem counter_eq_none : world.counter scope = none ↔
    ∀ row ∈ world.sequences.rows, row.scope ≠ scope := by
  simp [World.counter, Table.find]

theorem swap_hits (scope : String) (expected : Int) (world : World) :
    (execute (Stmt.sequence (.compareAndSet scope expected)) world).1 ≠ 0 ↔
      world.counter scope = some expected := by
  rw [counter_eq_some]
  change ¬ Table.affected _ _ = 0 ↔ _
  simp [Table.affected_eq_zero]

theorem takes_swap : (Stmt.sequence (.compareAndSet scope expected)).takes scope world =
      if world.counter scope = some expected then some expected else none := by
  have hits : (SequenceStmt.execute (.compareAndSet scope expected) world.sequences).1 ≠ 0 ↔
      world.counter scope = some expected :=
    swap_hits scope expected world
  simp only [Stmt.takes, hits, true_and]

theorem counter_swap (current : world.counter scope = some expected) :
    (execute (Stmt.sequence (.compareAndSet scope expected)) world).2.counter scope =
      some (expected + 1) := by
  obtain ⟨row, member, named, same⟩ := counter_eq_some.mp current
  refine counter_eq_some.mpr ⟨{ row with nextValue := expected + 1 }, ?_, named, rfl⟩
  refine List.mem_map.mpr ⟨row, member, ?_⟩
  exact Table.assignWhere_of (by simp [named, same])

theorem counter_swap_missed (stale : world.counter scope ≠ some expected) :
    (execute (Stmt.sequence (.compareAndSet scope expected)) world).2.counter scope =
      world.counter scope := by
  have missed : world.sequences.affected (fun sequence => sequence.scope == scope &&
      sequence.nextValue == expected) = 0 := by
    by_contra hit
    exact stale ((swap_hits scope expected world).mp hit)
  have kept : (execute (Stmt.sequence (.compareAndSet scope expected)) world).2.sequences.rows =
      world.sequences.rows := @Table.rows_update_of_unaffected _ _ _ _ _ (by simp) missed
  rw [World.counter, Table.find, kept]
  rfl

theorem counter_insert (scope : String) (world : World) :
    (execute (Stmt.sequence (.insert scope)) world).2.counter scope =
      some ((world.counter scope).getD 1) := by
  cases current : world.counter scope with
  | none =>
    have missing := counter_eq_none.mp current
    obtain ⟨grown, stored, rows⟩ : ∃ grown, world.sequences.insert ⟨scope, 1⟩ = some grown ∧
        grown.rows = world.sequences.rows ++ [⟨scope, 1⟩] := by
      refine Table.insert_fresh fun column listed row member => ?_
      rw [List.mem_singleton.mp listed]
      exact missing row member
    refine counter_eq_some.mpr ⟨⟨scope, 1⟩, ?_, rfl, rfl⟩
    simp [execute, Stmt.execute, SequenceStmt.execute, stored, rows]
  | some =>
    obtain ⟨row, member, named, same⟩ := counter_eq_some.mp current
    have refused : world.sequences.insert ⟨scope, 1⟩ = none := by
      refine dif_neg fun free => ?_
      exact Table.collides_eq_false.mp free _ (List.mem_singleton_self _) row member named
    simpa [execute, Stmt.execute, SequenceStmt.execute, refused] using current

def Allocates (scope tag : String) : Service String → Prop
  | .done _ => False
  | .fail _ => True
  | .step stmt next => ∀ world,
      match stmt.takes scope world with
      | some value =>
        next (execute stmt world).1 = .done (tag ++ sixDigits value) ∧
          world.counter scope = some value ∧
          (execute stmt world).2.counter scope = some (value + 1)
      | none =>
        Allocates scope tag (next (execute stmt world).1) ∧
          ((execute stmt world).2.counter scope = world.counter scope ∨
            (execute stmt world).2.counter scope = some ((world.counter scope).getD 1))

theorem allocateNumber_allocates (scope tag : String) (tries : Nat) :
    Allocates scope tag (allocateNumber scope tag tries) := by
  induction tries with
  | zero => trivial
  | succ tries ih =>
    intro world
    refine ⟨?_, .inl rfl⟩
    generalize (execute (Stmt.sequence (.next scope)) world).1 = read
    cases read with
    | none =>
      intro later
      refine ⟨?_, .inr (counter_insert scope later)⟩
      cases (execute (Stmt.sequence (.insert scope)) later).1 with
      | true => exact ih
      | false =>
        intro last
        refine ⟨?_, .inl rfl⟩
        change Allocates scope tag (if last.namesDuplicates = true then _ else _)
        split
        · exact ih
        · trivial
    | some next =>
      intro later
      rw [takes_swap]
      by_cases current : later.counter scope = some next
      · have hit := (swap_hits scope next later).mpr current
        rw [if_pos current]
        refine ⟨?_, current, counter_swap current⟩
        change (if _ then _ else _) = _
        rw [if_neg hit]
        rfl
      · have missed := not_not.mp (mt (swap_hits scope next later).mp current)
        rw [if_neg current]
        refine ⟨?_, .inl (counter_swap_missed current)⟩
        change Allocates scope tag (if _ then _ else _)
        rw [if_pos missed]
        exact ih

structure Aside (scope : String) where
  change : World → World
  counter : ∀ world, (change world).counter scope = world.counter scope

abbrev Counter := Pool Stmt BillingError String World

inductive NumberMove (scope : String)
  | call
  | advance (thread : Nat)
  | elsewhere (aside : Aside scope)

def NumberMove.play (tag : String) (move : NumberMove scope) (pool : Counter) : Counter :=
  match move with
  | .call => pool.play (.spawn (nextDocumentNumber scope tag))
  | .advance thread => pool.play (.advance thread)
  | .elsewhere aside => pool.play (.disturb aside.change)

def playNumbers (tag : String) (pool : Counter) : List (NumberMove scope) → Counter
  | [] => pool
  | move :: rest => playNumbers tag (move.play tag pool) rest

def numberOf (pool : Counter) (thread : Nat) : Option String :=
  match pool.threads[thread]? with
  | some (.done number) => some number
  | _ => none

def NumberMove.update (move : NumberMove scope) (pool : Counter) : Option (Nat × Int) :=
  match move with
  | .advance thread =>
    match pool.threads[thread]? with
    | some (.step stmt _) => (stmt.takes scope pool.state).map fun value => (thread, value)
    | _ => none
  | _ => none

def updates (tag : String) (pool : Counter) : List (NumberMove scope) → List (Nat × Int)
  | [] => []
  | move :: rest => (move.update pool).toList ++ updates tag (move.play tag pool) rest

structure Counted (scope tag : String) (log : List (Nat × Int)) (pool : Counter) : Prop where
  counter : pool.state.counter scope = some (log.length + 1) ∨
    pool.state.counter scope = none ∧ log = []
  values : log.map Prod.snd = (List.range log.length).map fun index : Nat => (index : Int) + 1
  returned : ∀ entry ∈ log, pool.threads[entry.1]? = some (.done (tag ++ sixDigits entry.2))
  running : ∀ thread program, pool.threads[thread]? = some program →
    Allocates scope tag program ∨ ∃ value, (thread, value) ∈ log

variable {log : List (Nat × Int)} {pool : Counter}

theorem Counted.spawn (counted : Counted scope tag log pool) : Counted scope tag log
      { pool with threads := pool.threads ++ [nextDocumentNumber scope tag] } := by
  refine ⟨counted.counter, counted.values, fun entry member => ?_, fun thread program present => ?_⟩
  · have present := counted.returned entry member
    rwa [List.getElem?_append_left (List.getElem?_eq_some_iff.mp present).1]
  rcases Nat.lt_or_ge thread pool.threads.length with before | past
  · rw [List.getElem?_append_left before] at present
    exact counted.running thread program present
  rw [List.getElem?_append_right past] at present
  have here := List.mem_of_getElem? present
  rw [List.mem_singleton.mp here]
  exact .inl (allocateNumber_allocates scope tag 8)

section

variable {thread : Nat} {stmt : Stmt Reply} {next : Reply → Service String} {later : World}

theorem Counted.untaken (counted : Counted scope tag log pool)
    (present : pool.threads[thread]? = some (.step stmt next)) {entry : Nat × Int}
    (member : entry ∈ log) : thread ≠ entry.1 := by
  intro same
  have ended := counted.returned entry member
  rw [← same, present] at ended
  simp at ended

theorem Counted.wait {program : Service String} (counted : Counted scope tag log pool)
    (present : pool.threads[thread]? = some (.step stmt next))
    (allocates : Allocates scope tag program)
    (kept : later.counter scope = pool.state.counter scope ∨
      later.counter scope = some ((pool.state.counter scope).getD 1)) :
    Counted scope tag log ⟨later, pool.threads.set thread program⟩ := by
  refine ⟨?_, counted.values, fun entry member => ?_, fun other there found => ?_⟩
  · rcases counted.counter with opened | ⟨unopened, empty⟩
    · simp_all
    grind
  · rw [List.getElem?_set_ne (counted.untaken present member)]
    exact counted.returned entry member
  · by_cases same : thread = other
    · grind
    · rw [List.getElem?_set_ne same] at found
      exact counted.running other there found

theorem Counted.take {value : Int} (counted : Counted scope tag log pool)
    (present : pool.threads[thread]? = some (.step stmt next))
    (current : pool.state.counter scope = some value)
    (moved : later.counter scope = some (value + 1)) : Counted scope tag (log ++ [(thread, value)])
      ⟨later, pool.threads.set thread (.done (tag ++ sixDigits value))⟩ := by
  have inside : thread < pool.threads.length := (List.getElem?_eq_some_iff.mp present).1
  have following : value = log.length + 1 := by
    rcases counted.counter with opened | ⟨unopened, _⟩
    · exact Option.some.inj (current.symm.trans opened)
    · rw [unopened] at current
      simp at current
  refine ⟨.inl ?_, ?_, fun entry member => ?_, fun other there found => ?_⟩
  · rw [moved, following]
    simp
  · simp only [List.map_append, List.map_cons, List.map_nil, List.length_append,
      List.length_singleton, List.range_succ, counted.values, following]
  · rcases List.mem_append.mp member with earlier | last
    · rw [List.getElem?_set_ne (counted.untaken present earlier)]
      exact counted.returned entry earlier
    · rw [List.mem_singleton.mp last]
      exact List.getElem?_set_self inside
  · by_cases same : thread = other
    · subst same
      exact .inr ⟨value, by simp⟩
    rw [List.getElem?_set_ne same] at found
    rcases counted.running other there found with allocates | ⟨taken, member⟩
    · exact .inl allocates
    · exact .inr ⟨taken, List.mem_append_left _ member⟩

end

section

variable (counted : Counted scope tag log pool)

include counted

theorem Counted.advance :
    Counted scope tag (log ++ ((NumberMove.advance thread : NumberMove scope).update pool).toList)
      (pool.advance thread) := by
  cases present : pool.threads[thread]? with
  | none => simpa [Pool.advance, NumberMove.update, present] using counted
  | some program =>
    cases program with
    | done | fail => simpa [Pool.advance, NumberMove.update, present] using counted
    | step stmt =>
      rcases counted.running thread _ present with allocates | ⟨value, member⟩
      · have onward := allocates pool.state
        simp only [Pool.advance, NumberMove.update, present]
        cases took : stmt.takes scope pool.state with
        | none =>
          rw [took] at onward
          simpa using counted.wait present onward.1 onward.2
        | some =>
          rw [took] at onward
          rw [onward.1]
          exact counted.take present onward.2.1 onward.2.2
      · exact absurd rfl (counted.untaken present member)

theorem Counted.play (move : NumberMove scope) :
    Counted scope tag (log ++ (move.update pool).toList) (move.play tag pool) := by
  cases move with
  | call =>
    have spawned := counted.spawn
    rwa [← List.append_nil log] at spawned
  | advance => exact counted.advance
  | elsewhere aside =>
    have disturbed : Counted scope tag log ⟨aside.change pool.state, pool.threads⟩ := by
      refine ⟨?_, counted.values, counted.returned, counted.running⟩
      simpa only [aside.counter] using counted.counter
    rwa [← List.append_nil log] at disturbed

theorem Counted.playNumbers (moves : List (NumberMove scope)) :
    Counted scope tag (log ++ updates tag pool moves) (playNumbers tag pool moves) := by
  induction moves generalizing log pool with
  | nil =>
    rw [updates, List.append_nil]
    exact counted
  | cons move rest ih =>
    rw [updates, ← List.append_assoc]
    exact ih (counted.play move)

theorem Counted.value_nat {entry : Nat × Int}
    (member : entry ∈ log) : ∃ value : Nat, entry.2 = value := by
  have listed : entry.2 ∈ log.map Prod.snd := List.mem_map_of_mem member
  rw [counted.values] at listed
  obtain ⟨index, _, same⟩ := List.mem_map.mp listed
  exact ⟨index + 1, by rw [← same]; rfl⟩

theorem Counted.nodup : (log.map Prod.snd).Nodup := by
  rw [counted.values]
  refine List.nodup_range.map fun first second same => ?_
  simpa using same

end

theorem numberOf_eq :
    numberOf pool thread = some number ↔ pool.threads[thread]? = some (.done number) := by
  grind [numberOf]

theorem Counted.numberOf_iff (counted : Counted scope tag log pool) (thread : Nat)
    (number : String) : numberOf pool thread = some number ↔
      ∃ value, (thread, value) ∈ log ∧ number = tag ++ sixDigits value := by
  rw [numberOf_eq]
  refine ⟨fun present => ?_, fun ⟨value, member, same⟩ => ?_⟩
  · rcases counted.running thread _ present with allocates | ⟨value, member⟩
    · exact allocates.elim
    have ended := counted.returned _ member
    rw [present] at ended
    exact ⟨value, member, by simpa using ended⟩
  · rw [same]
    exact counted.returned _ member

theorem Counted.distinct (counted : Counted scope tag log pool) {second : Nat}
    (here : numberOf pool first = some number) (there : numberOf pool second = some number) :
    first = second := by
  obtain ⟨left, leftIn, leftText⟩ := (counted.numberOf_iff first number).mp here
  obtain ⟨right, rightIn, rightText⟩ := (counted.numberOf_iff second number).mp there
  obtain ⟨leftNat, leftSame⟩ := counted.value_nat leftIn
  obtain ⟨rightNat, rightSame⟩ := counted.value_nat rightIn
  dsimp only at leftSame rightSame
  subst leftSame rightSame
  have same := number_injective (leftText.symm.trans rightText)
  subst same
  exact congrArg Prod.fst (List.inj_on_of_nodup_map counted.nodup leftIn rightIn rfl)

/-- However the callers' statements are interleaved in a new scope: the integers taken are one, two,
three in the order of the successful updates, the callers that return are those that made one, and
no two return the same text. -/
theorem document_numbers_consecutive (unopened : world.counter scope = none)
    (moves : List (NumberMove scope)) :
    ((updates tag ⟨world, []⟩ moves).map Prod.snd =
      (List.range (updates tag ⟨world, []⟩ moves).length).map
        fun index : Nat => (index : Int) + 1) ∧
    (∀ thread number, numberOf (playNumbers tag ⟨world, []⟩ moves) thread = some number ↔
      ∃ value, (thread, value) ∈ updates tag ⟨world, []⟩ moves ∧
        number = tag ++ sixDigits value) ∧
    ∀ first second number, numberOf (playNumbers tag ⟨world, []⟩ moves) first = some number →
      numberOf (playNumbers tag ⟨world, []⟩ moves) second = some number → first = second := by
  have start : Counted scope tag [] ⟨world, []⟩ :=
    ⟨.inr ⟨unopened, rfl⟩, rfl, fun entry member => by simp at member,
      fun thread program present => by simp at present⟩
  have counted := start.playNumbers moves
  rw [List.nil_append] at counted
  exact ⟨counted.values, counted.numberOf_iff, fun _ _ _ here there => counted.distinct here there⟩

def openingRace : List (NumberMove "invoice") :=
  [.call, .call, .advance 0, .advance 1, .advance 0, .advance 1, .advance 1, .advance 0,
    .advance 1, .advance 1, .advance 0, .advance 0, .advance 0]

def newShop : World := { now := 0, names := Supply.outgrow, namesDuplicates := true }

theorem openingRace_numbered : updates "INV-" ⟨newShop, []⟩ openingRace = [(1, 1), (0, 2)] ∧
      numberOf (playNumbers "INV-" ⟨newShop, []⟩ openingRace) 0 = some ("INV-" ++ sixDigits 2) := by
  have raced : updates "INV-" ⟨newShop, []⟩ openingRace = [(1, 1), (0, 2)] := by decide +kernel
  have numbered := (@document_numbers_consecutive "invoice" "INV-" newShop rfl openingRace).2.1
  exact ⟨raced, (numbered 0 _).mpr ⟨2, by rw [raced]; simp, rfl⟩⟩

end Cashp
