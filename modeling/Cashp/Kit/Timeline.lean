import Mathlib.Data.List.Basic
import Mathlib.Order.Basic

/-!
The times at which something happened, oldest first. When old ones are dropped, what is left still
counts a span that reaches up to now.
-/

namespace Kit.Timeline

variable {times kept : List Int} {cutoff horizon now : Int}

def within (times : List Int) (start stop : Int) : List Int :=
  times.filter fun time => decide (start < time ∧ time ≤ stop)

def trim (times : List Int) (cutoff : Int) : List Int :=
  times.dropWhile fun time => decide (time ≤ cutoff)

theorem trim_eq_filter (ordered : times.Pairwise (· ≤ ·)) :
    trim times cutoff = times.filter fun time => decide (cutoff < time) := by
  induction times with
  | nil => rfl
  | cons first rest ih =>
    rw [List.pairwise_cons] at ordered
    by_cases old : first ≤ cutoff
    · simp_all [trim]
    have whole : trim (first :: rest) cutoff = first :: rest :=
      List.dropWhile_cons_of_neg (by rw [decide_eq_true_eq]; exact old)
    rw [whole, List.filter_eq_self.mpr]
    grind

/-- What is kept of the times agrees with them from the horizon on. -/
structure Recalls (kept times : List Int) (horizon : Int) : Prop where
  ordered : kept.Pairwise (· ≤ ·)
  young : (kept.filter fun time => decide (horizon < time)) =
    times.filter fun time => decide (horizon < time)

theorem recalls_nothing : Recalls [] [] horizon := ⟨.nil, rfl⟩

section

variable (held : Recalls kept times horizon)

include held

theorem Recalls.later (on : horizon ≤ now) :
    Recalls kept times now := by
  refine ⟨held.ordered, ?_⟩
  have narrowed : ∀ list : List Int, (list.filter fun time => decide (now < time)) =
      (list.filter fun time => decide (horizon < time)).filter fun time => decide (now < time) := by
    intro list
    rw [List.filter_filter]
    grind
  rw [narrowed kept, narrowed times, held.young]

theorem Recalls.trim_eq :
    trim kept horizon = times.filter fun time => decide (horizon < time) :=
  (trim_eq_filter held.ordered).trans held.young

theorem Recalls.drop :
    Recalls (trim kept horizon) times horizon := by
  refine ⟨held.ordered.sublist (List.dropWhile_sublist _), ?_⟩
  rw [held.trim_eq, List.filter_filter]
  simp only [Bool.and_self]

/-- A new time is kept. -/
theorem Recalls.add (past : ∀ time ∈ kept, time ≤ now) :
    Recalls (kept ++ [now]) (times ++ [now]) horizon := by
  refine ⟨List.pairwise_append.mpr ⟨held.ordered, List.pairwise_singleton _ _, ?_⟩, ?_⟩
  · intro time member other new
    rw [List.mem_singleton.mp new]
    exact past time member
  · rw [List.filter_append, List.filter_append, held.young]

end

theorem within_now (past : ∀ time ∈ times, time ≤ now) :
    within times cutoff now = times.filter fun time => decide (cutoff < time) := by
  refine List.filter_congr fun time member => decide_eq_decide.mpr ?_
  exact ⟨fun inside => inside.1, fun young => ⟨young, past time member⟩⟩

theorem length_within_add_le {window : Int} {limit : Nat} (past : ∀ time ∈ times, time ≤ now)
    (bounded : ∀ start, (within times start (start + window)).length ≤ limit)
    (fits : (within times (now - window) now).length < limit) (start : Int) :
    (within (times ++ [now]) start (start + window)).length ≤ limit := by
  have split : within (times ++ [now]) start (start + window) =
      within times start (start + window) ++ within [now] start (start + window) :=
    List.filter_append times [now]
  rw [split, List.length_append]
  by_cases inside : start < now ∧ now ≤ start + window
  · -- The new one and all before it in the span fall into the window that ends now.
    have narrower : (within times start (start + window)).length ≤
        (within times (now - window) now).length := by
      rw [within_now past]
      refine (List.monotone_filter_right times fun time young => ?_).length_le
      rw [decide_eq_true_eq] at young ⊢
      omega
    have one : (within [now] start (start + window)).length ≤ 1 := List.length_filter_le _ _
    omega
  · simp_all [within]

end Kit.Timeline
