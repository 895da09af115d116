import Mathlib.Data.List.Induction
import Mathlib.Data.List.Nodup
import Mathlib.Order.Lattice

/-!
Dictionaries as lists of entries in the order of their keys, so that those with the same entries are
the same list.
-/

namespace Kit.Dictionary

variable {Key Value : Type} [LinearOrder Key]

def put (key : Key) (value : Value) : List (Key × Value) → List (Key × Value)
  | [] => [(key, value)]
  | entry :: rest =>
    if key < entry.1 then (key, value) :: entry :: rest
    else if key = entry.1 then (key, value) :: rest
    else entry :: put key value rest

def get (key : Key) : List (Key × Value) → Option Value
  | [] => none
  | entry :: rest => if entry.1 = key then some entry.2 else get key rest

def build (writes : List (Key × Value)) : List (Key × Value) :=
  writes.foldl (fun entries write => put write.1 write.2 entries) []

variable {key other : Key} {value : Value} {writes : List (Key × Value)}

theorem get_put (entries : List (Key × Value)) :
    get other (put key value entries) = if key = other then some value else get other entries := by
  induction entries with
  | nil => rfl
  | cons entry rest ih =>
    grind [get, put]

theorem put_comm (apart : key ≠ other) (value value' : Value) (entries : List (Key × Value)) :
    put key value (put other value' entries) = put other value' (put key value entries) := by
  induction entries with
  | nil | cons => grind [put]

/-- The order in which distinct keys are written does not matter. -/
theorem build_perm {writes' : List (Key × Value)} (distinct : (writes.map Prod.fst).Nodup)
    (shuffled : writes.Perm writes') : build writes = build writes' := by
  refine shuffled.foldl_eq' (fun first member second member' entries => ?_) []
  by_cases same : first.1 = second.1
  · have equal : first = second := List.inj_on_of_nodup_map distinct member member' same
    rw [equal]
  · exact put_comm (Ne.symm same) second.2 first.2 entries

theorem get_build_snoc (write : Key × Value) : get key (build (writes ++ [write])) =
      if write.1 = key then some write.2 else get key (build writes) := by
  rw [build, List.foldl_append]
  exact get_put _

theorem get_build_eq_none (absent : key ∉ writes.map Prod.fst) : get key (build writes) = none := by
  induction writes using List.reverseRecOn with
  | nil => rfl
  | append_singleton earlier write ih =>
    rw [List.map_append, List.mem_append, not_or] at absent
    rw [get_build_snoc, if_neg, ih absent.1]
    rintro rfl
    exact absent.2 (by simp)

/-- What was written under a key is found there. -/
theorem get_build_of_mem (distinct : (writes.map Prod.fst).Nodup) (member : (key, value) ∈ writes) :
    get key (build writes) = some value := by
  induction writes using List.reverseRecOn with
  | nil => cases member
  | append_singleton earlier write ih =>
    rw [List.map_append, List.nodup_append] at distinct
    rw [get_build_snoc]
    rcases List.mem_append.mp member with before | last
    · rw [if_neg, ih distinct.1 before]
      rintro rfl
      exact distinct.2.2 _ (List.mem_map_of_mem before) _ (by simp) rfl
    · rw [← List.mem_singleton.mp last, if_pos rfl]

end Kit.Dictionary
