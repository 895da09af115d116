import Mathlib.Data.List.Induction

/-!
Looking back over a record: the latest event of a kind, and what has held since an event.
-/

namespace Kit

variable {Event : Type} {more : Option Event}

def latest (concerns : Event → Bool) (events : List Event) : Option Event :=
  events.foldl (fun last event => if concerns event then some event else last) none

def since (mark spoils : Event → Bool) (events : List Event) : Bool :=
  events.foldl (fun held event => mark event || (held && !spoils event)) false

section

variable {concerns : Event → Bool} {events : List Event} {event : Event}

theorem latest_concat : latest concerns (events ++ [event]) =
    if concerns event then some event else latest concerns events := by
  simp only [latest, List.foldl_append, List.foldl_cons, List.foldl_nil]

theorem latest_append : latest concerns (events ++ more.toList) =
    ((more.filter concerns).or (latest concerns events)) := by
  cases more with
  | none => simp
  | some event =>
    rw [Option.toList_some, latest_concat, Option.filter_some]
    cases concerns event <;> rfl

/-- The latest event is a new one, or the old one if nothing new is of its kind. -/
theorem latest_append_cases (last : latest concerns (events ++ more.toList) = some event) :
    more = some event ∨ latest concerns events = some event ∧
      ∀ other, concerns other = true → more ≠ some other := by
  rw [latest_append] at last
  cases noted : more.filter concerns with
  | some =>
    rw [noted] at last
    cases last
    exact .inl (Option.filter_eq_some_iff.mp noted).1
  | none =>
    grind

theorem latest_mem (found : latest concerns events = some event) :
    event ∈ events ∧ concerns event = true := by
  induction events using List.reverseRecOn with
  | nil => cases found
  | append_singleton front last ih =>
    grind [latest]

end

section

variable {mark spoils : Event → Bool} {events : List Event} {event : Event}

theorem since_concat : since mark spoils (events ++ [event]) =
    (mark event || (since mark spoils events && !spoils event)) := by
  simp only [since, List.foldl_append, List.foldl_cons, List.foldl_nil]

theorem since_append (held : since mark spoils (events ++ more.toList)) :
    (∃ event, more = some event ∧ mark event = true) ∨
      since mark spoils events ∧ ∀ event, more = some event → spoils event = false := by
  cases more with
  | none =>
    rw [Option.toList_none, List.append_nil] at held
    exact .inr ⟨held, nofun⟩
  | some event =>
    simp_all [since]

theorem since_congr {other : Event → Bool} (alike : ∀ event ∈ events, mark event = other event) :
    since mark spoils events = since other spoils events := by
  induction events using List.reverseRecOn with
  | nil => rfl
  | append_singleton front last ih =>
    simp_all [since]

theorem since_mem (held : since mark spoils events = true) :
    ∃ event ∈ events, mark event = true := by
  induction events using List.reverseRecOn with
  | nil => cases held
  | append_singleton front last ih =>
    rw [since_concat, Bool.or_eq_true, Bool.and_eq_true] at held
    grind

end

theorem concat_split {events front back : List Event} {last event : Event}
    (split : events ++ [last] = front ++ event :: back) :
    (back = [] ∧ events = front ∧ last = event) ∨
      ∃ rest, back = rest ++ [last] ∧ events = front ++ event :: rest := by
  rcases List.eq_nil_or_concat back with none | ⟨rest, tail, ends⟩
  · simp_all
  have shape : front ++ event :: back = (front ++ event :: rest).concat tail := by
    rw [ends]
    simp
  rw [shape, ← List.concat_eq_append] at split
  obtain ⟨same, rfl⟩ := List.concat_inj.mp split
  exact .inr ⟨rest, by rw [ends, List.concat_eq_append], same⟩

section

variable {herald : List Event → Event → Prop} {told : List Event}

def Heralded (herald : List Event → Event → Prop) (told : List Event) : Prop :=
  ∀ front event back, told = front ++ event :: back → herald front event

theorem heralded_nil : Heralded herald [] := by
  intro front event back split
  simp at split

/-- A record stays heralded if every new event has its herald. -/
theorem Heralded.append (heralded : Heralded herald told)
    (fine : ∀ event, more = some event → herald told event) :
    Heralded herald (told ++ more.toList) := by
  cases more with
  | none => rwa [Option.toList_none, List.append_nil]
  | some =>
    intro front event back split
    rw [Option.toList_some] at split
    obtain ⟨_, rfl, rfl⟩ | ⟨rest, _, rfl⟩ := concat_split split
    · exact fine _ rfl
    · exact heralded front event rest rfl

theorem Heralded.of_append {more : List Event} (heralded : Heralded herald (told ++ more)) :
    Heralded herald told := by
  intro front event back split
  exact heralded front event (back ++ more) (by rw [split]; simp)

end

end Kit
