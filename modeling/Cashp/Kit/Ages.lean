import Mathlib.Data.Finset.Card
import Cashp.Kit.Assoc

/-!
Keys with the time each was last used. When old entries are dropped, what is left still tells which
keys were used since some time.
-/

namespace Kit

abbrev Ages (Key : Type) := AList fun _ : Key => Int

namespace Ages

variable {Key : Type}

def sweep (cutoff : Int) (ages : Ages Key) : Ages Key :=
  retain (fun _ time => decide (cutoff ≤ time)) ages

section

variable {Group : Type} [DecidableEq Group] {cutoff : Int}

def sweepEach (cutoff : Int) (groups : AList fun _ : Group => Ages Key) :
    AList fun _ : Group => Ages Key :=
  ⟨(groups.entries.map fun group => ⟨group.1, group.2.sweep cutoff⟩).filter
      fun group => decide (group.2.entries ≠ []), by
    refine List.NodupKeys.sublist List.filter_sublist ?_
    have keys : (groups.entries.map fun group =>
        (⟨group.1, group.2.sweep cutoff⟩ : Sigma fun _ : Group => Ages Key)).keys =
          groups.entries.keys := by
      simp [List.keys, Function.comp_def]
    rw [List.NodupKeys, keys]
    exact groups.nodupKeys⟩

theorem lookup_sweepEach (groups : AList fun _ : Group => Ages Key) (group : Group) :
    ((sweepEach cutoff groups).lookup group).getD ∅ =
      ((groups.lookup group).getD ∅).sweep cutoff := by
  have revised : (sweepEach cutoff groups).lookup group =
      ((groups.lookup group).map (sweep cutoff)).filter fun ages => decide (ages.entries ≠ []) :=
    lookup_revise (sweep cutoff) (fun ages => decide (ages.entries ≠ [])) group
  rw [revised]
  cases groups.lookup group with
  | none => rfl
  | some ages =>
    rw [Option.map_some, Option.filter_some]
    by_cases gone : (ages.sweep cutoff).entries = []
    · rw [if_neg (by rw [decide_eq_true_eq]; exact not_not.mpr gone)]
      exact (AList.ext gone).symm
    · rw [if_pos (decide_eq_true gone)]
      rfl

end

variable [DecidableEq Key] {ages : Ages Key} {cutoff horizon now time : Int} {key other : Key}
variable {uses : List (Key × Int)}

theorem lookup_sweep : (ages.sweep cutoff).lookup key = some time ↔
    ages.lookup key = some time ∧ cutoff ≤ time := by
  rw [sweep, lookup_retain_iff, decide_eq_true_eq]

structure Reflects (ages : Ages Key) (uses : List (Key × Int)) (horizon : Int) : Prop where
  sound : ∀ key time, ages.lookup key = some time → (key, time) ∈ uses
  complete : ∀ key time, (key, time) ∈ uses → horizon ≤ time →
    ∃ last, ages.lookup key = some last ∧ time ≤ last

theorem reflects_nothing (uses : List (Key × Int))
    (old : ∀ key time, (key, time) ∈ uses → time < horizon) :
    Reflects (∅ : Ages Key) uses horizon := by
  refine ⟨fun key time found => ?_, fun key time used young => ?_⟩
  · simp at found
  · have before := old key time used
    omega

theorem Reflects.later (held : Reflects ages uses horizon) (on : horizon ≤ now) :
    Reflects ages uses now :=
  ⟨held.sound, fun key time used young => held.complete key time used (by omega)⟩

/-- Dropping what is older than the horizon loses nothing. -/
theorem Reflects.sweep (held : Reflects ages uses horizon) (old : cutoff ≤ horizon) :
    Reflects (ages.sweep cutoff) uses horizon := by
  refine ⟨fun key time found => held.sound key time (lookup_sweep.mp found).1, ?_⟩
  intro key time used young
  obtain ⟨last, found, newer⟩ := held.complete key time used young
  exact ⟨last, lookup_sweep.mpr ⟨found, by omega⟩, newer⟩

theorem Reflects.use (held : Reflects ages uses horizon)
    (past : ∀ key time, (key, time) ∈ uses → time ≤ now) (key : Key) :
    Reflects (AList.insert key now ages) (uses ++ [(key, now)]) horizon := by
  refine ⟨fun other time found => ?_, fun other time used young => ?_⟩
  · rw [lookup_insert] at found
    rw [List.mem_append, List.mem_singleton]
    split at found
    · rename_i same
      rw [Option.some.injEq] at found
      exact .inr (by rw [same, found])
    · exact .inl (held.sound other time found)
  · rw [lookup_insert]
    rw [List.mem_append, List.mem_singleton, Prod.mk.injEq] at used
    rcases used with before | ⟨rfl, rfl⟩
    · obtain ⟨last, found, newer⟩ := held.complete other time before young
      grind
    · exact ⟨time, if_pos rfl, le_rfl⟩

def recent (uses : List (Key × Int)) (since : Int) : Finset Key :=
  ((uses.filter fun use => decide (since ≤ use.2)).map Prod.fst).toFinset

theorem mem_recent : key ∈ recent uses cutoff ↔ ∃ time, (key, time) ∈ uses ∧ cutoff ≤ time := by
  simp [recent]

theorem recent_map {Name : Type} [DecidableEq Name] (name : Key → Name) :
    recent (uses.map (Prod.map name id)) cutoff = (recent uses cutoff).image name := by
  ext other
  simp only [Finset.mem_image, mem_recent, List.mem_map]
  constructor
  · grind
  · rintro ⟨key, ⟨time, used, young⟩, rfl⟩
    exact ⟨time, ⟨(key, time), used, rfl⟩, young⟩

def span (uses : List (Key × Int)) (start stop : Int) : Finset Key :=
  recent (uses.filter fun use => decide (use.2 ≤ stop)) start

theorem mem_span {start stop : Int} : key ∈ span uses start stop ↔
    ∃ time, (key, time) ∈ uses ∧ start ≤ time ∧ time ≤ stop := by
  rw [span, mem_recent]
  grind

/-- If a use is granted only to recent keys or below the limit, no span exceeds the limit. -/
theorem span_use_le {window : Int} {limit : Nat}
    (past : ∀ key time, (key, time) ∈ uses → time ≤ now)
    (bounded : ∀ start, (span uses start (start + window)).card ≤ limit)
    (fits : key ∈ recent uses (now - window) ∨ (recent uses (now - window)).card < limit)
    (start : Int) : (span (uses ++ [(key, now)]) start (start + window)).card ≤ limit := by
  have known : recent uses (now - window) ⊆ span uses (now - window) (now - window + window) := by
    intro other used
    obtain ⟨time, used, young⟩ := mem_recent.mp used
    have before := past other time used
    exact mem_span.mpr ⟨time, used, young, by omega⟩
  by_cases inside : start ≤ now ∧ now ≤ start + window
  · have grown : span (uses ++ [(key, now)]) start (start + window) ⊆
        insert key (recent uses (now - window)) := by
      intro other used
      obtain ⟨time, used, young, old⟩ := mem_span.mp used
      rw [List.mem_append, List.mem_singleton, Prod.mk.injEq] at used
      rcases used with before | ⟨rfl, rfl⟩
      · exact Finset.mem_insert_of_mem (mem_recent.mpr ⟨time, before, by omega⟩)
      · exact Finset.mem_insert_self _ _
    have size := Finset.card_le_card grown
    rcases fits with already | few
    · rw [Finset.insert_eq_of_mem already] at size
      have whole := Finset.card_le_card known
      have limited := bounded (now - window)
      omega
    · have one := Finset.card_insert_le key (recent uses (now - window))
      omega
  · simp_all [Ages.span, Ages.recent]

theorem Reflects.mem_sweep_iff (held : Reflects ages uses horizon) :
    key ∈ ages.sweep horizon ↔ key ∈ recent uses horizon := by
  rw [mem_recent, ← AList.lookup_isSome, Option.isSome_iff_exists]
  constructor
  · rintro ⟨time, found⟩
    obtain ⟨there, young⟩ := lookup_sweep.mp found
    exact ⟨time, held.sound key time there, young⟩
  rintro ⟨time, used, young⟩
  obtain ⟨last, found, newer⟩ := held.complete key time used young
  exact ⟨last, lookup_sweep.mpr ⟨found, by omega⟩⟩

theorem Reflects.length_sweep (held : Reflects ages uses horizon) :
    (ages.sweep horizon).entries.length = (recent uses horizon).card := by
  have keys : (ages.sweep horizon).keys.toFinset = recent uses horizon := by
    ext key
    rw [List.mem_toFinset, ← AList.mem_keys]
    exact held.mem_sweep_iff
  rw [← keys, List.toFinset_card_of_nodup (AList.keys_nodup _)]
  exact (List.length_map _).symm

end Ages

end Kit
