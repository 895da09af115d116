import Mathlib.Data.List.AList

/-!
Finite maps as association lists: what a lookup finds after an update.
-/

namespace Kit

variable {Key Value : Type}

def retain (keep : Key → Value → Bool) (table : AList fun _ : Key => Value) :
    AList fun _ : Key => Value :=
  ⟨table.entries.filter fun entry => keep entry.1 entry.2,
    table.nodupKeys.sublist List.filter_sublist⟩

def revise {New : Type} (change : Value → New) (keep : New → Bool)
    (table : AList fun _ : Key => Value) : AList fun _ : Key => New :=
  ⟨(table.entries.map fun entry => ⟨entry.1, change entry.2⟩).filter fun entry => keep entry.2, by
    refine List.NodupKeys.sublist List.filter_sublist ?_
    have keys : (table.entries.map fun entry =>
        (⟨entry.1, change entry.2⟩ : Sigma fun _ : Key => New)).keys = table.entries.keys := by
      simp [List.keys, Function.comp_def]
    rw [List.NodupKeys, keys]
    exact table.nodupKeys⟩

variable [DecidableEq Key] {table : AList fun _ : Key => Value}

theorem lookup_retain_iff {keep : Key → Value → Bool} {key : Key} {value : Value} :
    (retain keep table).lookup key = some value ↔
      table.lookup key = some value ∧ keep key value = true := by
  have kept : value ∈ (retain keep table).lookup key ↔
      value ∈ table.lookup key ∧ keep key value = true := by
    rw [AList.mem_lookup_iff, AList.mem_lookup_iff]
    exact List.mem_filter
  exact kept

theorem lookup_retain (keep : Key → Value → Bool) (key : Key) :
    (retain keep table).lookup key = (table.lookup key).filter (keep key) := by
  ext value
  rw [lookup_retain_iff, Option.filter_eq_some_iff]

theorem lookup_revise {New : Type} (change : Value → New) (keep : New → Bool) (key : Key) :
    (revise change keep table).lookup key = ((table.lookup key).map change).filter keep := by
  have listed : ∀ new, new ∈ (revise change keep table).lookup key ↔
      (∃ value ∈ table.lookup key, change value = new) ∧ keep new = true := by
    intro new
    rw [AList.mem_lookup_iff]
    change _ ∈ List.filter _ _ ↔ _
    simp only [List.mem_filter, List.mem_map, AList.mem_lookup_iff]
    simp
  ext new
  rw [Option.filter_eq_some_iff, Option.map_eq_some_iff]
  exact listed new

/-- An insert changes what is found under its key, and nothing else. -/
theorem lookup_insert (key other : Key) (value : Value) : (table.insert key value).lookup other =
      if other = key then some value else table.lookup other := by
  by_cases same : other = key
  · rw [if_pos same, same, AList.lookup_insert]
  · rw [if_neg same, AList.lookup_insert_ne same]

/-- So does an erasure. -/
theorem lookup_erase (key other : Key) :
    (table.erase key).lookup other = if other = key then none else table.lookup other := by
  by_cases same : other = key
  · rw [if_pos same, same, AList.lookup_erase]
  · rw [if_neg same, AList.lookup_erase_ne same]

end Kit
