import Mathlib.Data.List.Nodup

/-!
A shelf holds things under their keys, the one used last in front, and is cut at its end when it is
too long.
-/

namespace Kit

abbrev Shelf (Key Value : Type) := List (Key × Value)

namespace Shelf

variable {Key Value : Type}

def Distinct (shelf : Shelf Key Value) : Prop := (shelf.map Prod.fst).Nodup

def discard (shelf : Shelf Key Value) (gone : Key → Value → Bool) : Shelf Key Value :=
  shelf.filter fun item => !gone item.1 item.2

/-- The small shelf is a part of the large one, which has at most so many things besides. -/
def Covers (spare : Nat) (small large : Shelf Key Value) : Prop :=
  small.Sublist large ∧ large.length ≤ small.length + spare

variable {small large : Shelf Key Value} {spare : Nat}

theorem take_sublist {few many : Nat} (part : small.Sublist large)
    (ahead : large.length + few ≤ small.length + many) :
    (small.take few).Sublist (large.take many) := by
  induction part generalizing few many with
  | slnil => simp
  | cons item part ih =>
    have shorter := part.length_le
    rw [List.length_cons] at ahead
    cases many with
    | zero => omega
    | succ => exact (ih (by omega)).cons item
  | cons_cons item part ih =>
    have shorter := part.length_le
    rw [List.length_cons, List.length_cons] at ahead
    cases few with
    | zero => exact List.nil_sublist _
    | succ =>
      cases many with
      | zero => omega
      | succ => exact (ih (by omega)).cons_cons item

theorem Covers.discard (covers : Covers spare small large) (gone : Key → Value → Bool) :
    Covers spare (small.discard gone) (large.discard gone) := by
  obtain ⟨part, ahead⟩ := covers
  refine ⟨part.filter _, ?_⟩
  have few := small.length_eq_countP_add_countP fun item => !gone item.1 item.2
  have many := large.length_eq_countP_add_countP fun item => !gone item.1 item.2
  grind [Shelf.discard]

variable [DecidableEq Key]

def lookup (shelf : Shelf Key Value) (key : Key) : Option Value :=
  (shelf.find? fun item => item.1 == key).map Prod.snd

def without (shelf : Shelf Key Value) (key : Key) : Shelf Key Value :=
  shelf.discard fun other _ => other == key

def bring (shelf : Shelf Key Value) (key : Key) (value : Value) : Shelf Key Value :=
  (key, value) :: shelf.without key

def store (limit : Nat) (shelf : Shelf Key Value) (key : Key) (value : Value) : Shelf Key Value :=
  (shelf.bring key value).take limit

variable {shelf : Shelf Key Value} {key other : Key} {value : Value}
variable {gone : Key → Value → Bool} {new : Value} {item : Key × Value}

omit [DecidableEq Key] in
theorem mem_discard : item ∈ shelf.discard gone ↔ item ∈ shelf ∧ gone item.1 item.2 = false := by
  rw [discard, List.mem_filter, Bool.not_eq_true']

omit [DecidableEq Key] in
theorem stays_discard (gone : Key → Value → Bool) (there : item ∈ shelf)
    (stays : gone item.1 item.2 = false) : item ∈ shelf.discard gone :=
  mem_discard.mpr ⟨there, stays⟩

omit [DecidableEq Key] in
theorem discard_congr {goes : Key → Value → Bool}
    (alike : ∀ key value, (key, value) ∈ shelf → gone key value = goes key value) :
    shelf.discard gone = shelf.discard goes :=
  List.filter_congr fun item there => by rw [alike item.1 item.2 there]

omit [DecidableEq Key] in
theorem discard_none (stays : ∀ key value, (key, value) ∈ shelf → gone key value = false) :
    shelf.discard gone = shelf :=
  List.filter_eq_self.mpr fun item there => by rw [stays item.1 item.2 there]; rfl

omit [DecidableEq Key] in
theorem discard_discard {first second : Key → Value → Bool} :
    (shelf.discard first).discard second =
      shelf.discard fun key value => first key value || second key value := by
  rw [discard, discard, discard, List.filter_filter]
  refine List.filter_congr fun item _ => ?_
  rw [Bool.not_or, Bool.and_comm]

theorem mem_without : item ∈ shelf.without key ↔ item ∈ shelf ∧ item.1 ≠ key := by
  rw [without, mem_discard, beq_eq_false_iff_ne]

theorem missing_without : key ∉ (shelf.without key).map Prod.fst := by
  intro listed
  obtain ⟨item, there, same⟩ := List.mem_map.mp listed
  exact (mem_without.mp there).2 same

theorem lookup_mem (found : shelf.lookup key = some value) : (key, value) ∈ shelf := by
  obtain ⟨item, first, rfl⟩ := Option.map_eq_some_iff.mp found
  grind

theorem lookup_iff (distinct : shelf.Distinct) :
    shelf.lookup key = some value ↔ (key, value) ∈ shelf := by
  refine ⟨lookup_mem, fun there => ?_⟩
  induction shelf with
  | nil => cases there
  | cons first rest ih =>
    obtain ⟨fresh, others⟩ := List.nodup_cons.mp distinct
    rcases List.mem_cons.mp there with rfl | later
    · simp [lookup]
    have apart : first.1 ≠ key := by
      rintro rfl
      exact fresh (List.mem_map.mpr ⟨_, later, rfl⟩)
    have skips : lookup (first :: rest) key = lookup rest key := by simp [lookup, apart]
    rw [skips]
    exact ih others later

theorem lookup_eq_none : shelf.lookup key = none ↔ key ∉ shelf.map Prod.fst := by
  rw [lookup, Option.map_eq_none_iff, List.find?_eq_none]
  simp only [beq_iff_eq, List.mem_map, not_exists, not_and]

theorem without_of_missing (missing : key ∉ shelf.map Prod.fst) : shelf.without key = shelf := by
  refine discard_none fun other value there => beq_eq_false_iff_ne.mpr fun same => ?_
  exact missing (List.mem_map.mpr ⟨_, there, same⟩)

theorem store_without (limit : Nat) :
    (shelf.without key).store limit key value = shelf.store limit key value := by
  rw [store, store, bring, bring, without_of_missing missing_without]

theorem length_bring_le (found : shelf.lookup key = some value) :
    (shelf.bring key new).length ≤ shelf.length := by
  have shorter : (shelf.without key).length < shelf.length := by
    exact List.length_filter_lt_length_iff_exists.mpr ⟨_, lookup_mem found, by simp⟩
  exact shorter

theorem mem_store {limit : Nat} (there : (key, value) ∈ shelf) (apart : other ≠ key)
    (fits : shelf.length ≤ limit) (stays : shelf.lookup other = none → limit ≤ shelf.length →
      shelf.getLast?.map Prod.fst ≠ some key) : (key, value) ∈ shelf.store limit other new := by
  have kept : (key, value) ∈ shelf.without other := mem_without.mpr ⟨there, Ne.symm apart⟩
  cases found : shelf.lookup other with
  | some =>
    have short : (shelf.bring other new).length ≤ limit :=
      Nat.le_trans (length_bring_le found) fits
    rw [store, List.take_of_length_le short]
    exact List.mem_cons_of_mem _ kept
  | none =>
    rw [store, bring, without_of_missing (lookup_eq_none.mp found)]
    rcases Nat.lt_or_ge shelf.length limit with room | full
    · rw [List.take_of_length_le (Nat.succ_le_of_lt room)]
      exact List.mem_cons_of_mem _ there
    have last := stays found full
    rcases List.eq_nil_or_concat shelf with rfl | ⟨front, final, rfl⟩
    · cases there
    grind

section

variable (covers : Covers spare small large)

include covers

theorem Covers.without (key : Key) : Covers spare (small.without key) (large.without key) :=
  covers.discard _

theorem Covers.bring (key : Key) (value : Value) :
    Covers spare (small.bring key value) (large.bring key value) := by
  obtain ⟨part, ahead⟩ := covers.without key
  refine ⟨part.cons_cons _, ?_⟩
  rw [Shelf.bring, Shelf.bring, List.length_cons, List.length_cons]
  omega

theorem Covers.bring_missing (missing : small.lookup key = none)
    (found : large.lookup key = some value) : Covers spare small (large.bring key value) := by
  have part := (covers.without key).1
  rw [without_of_missing (lookup_eq_none.mp missing)] at part
  exact ⟨part.cons _, Nat.le_trans (length_bring_le found) covers.2⟩

/-- A larger shelf goes on to hold what a smaller one does. -/
theorem Covers.store (limit : Nat) (key : Key) (value : Value) :
    Covers spare (small.store limit key value) (large.store (limit + spare) key value) := by
  obtain ⟨part, ahead⟩ := covers.bring key value
  refine ⟨take_sublist part (by omega), ?_⟩
  rw [Shelf.store, Shelf.store, List.length_take, List.length_take]
  omega

end

end Shelf

end Kit
